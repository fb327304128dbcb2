import ZephyrCcsds.Runs
import ZephyrCcsds.SlotMap
import ZephyrCcsds.Tc.Profile

/-! # The router

`ccsds_router.c` with registration and removal.

* `Router.registerApid`, `Router.unregisterApid`, `Router.select` — the operations; `routerDispatch_selected`
  finds the last in the dispatch of the profile.
* `RouteMap` — what the router is for: a finite map from APIDs to handlers.
* `Router.apply_refines` — one operation on both.
-/

namespace ZephyrCcsds.Tc

open Callback SlotMap

variable [Kconfig]

/-! ## The operations -/

/-- `ccsds_router_init` -/
def Router.init : Router where
  entries _ := { apid := 0, handler := 0, active := false }

/-- The first entry that a loop over the entries stops at -/
def Router.first (router : Router) (stop : RouterEntry → Bool) : Option (Fin routerMaxApids) :=
  (List.finRange routerMaxApids).find? fun i => stop (router.entries i)

/-- The condition of the loops that look for an APID -/
def RouterEntry.serves (apid : Nat) (entry : RouterEntry) : Bool := entry.active && entry.apid == apid

/-- `ccsds_router_register_apid` -/
def Router.registerApid (router : Router) (apid : Nat) (handler : Handler) : Router × Except Errno Unit :=
  if apidMax < apid then (router, .error .einval)
  else
    match router.first (RouterEntry.serves apid) with
    | some i => ({ entries := Function.update router.entries i { router.entries i with handler } }, .ok ())
    | none =>
      match router.first fun entry => !entry.active with
      | some i => ({ entries := Function.update router.entries i { apid, handler, active := true } }, .ok ())
      | none => (router, .error .enospc)

/-- `ccsds_router_unregister_apid` -/
def Router.unregisterApid (router : Router) (apid : Nat) : Router × Except Errno Unit :=
  if apidMax < apid then (router, .error .einval)
  else
    match router.first (RouterEntry.serves apid) with
    | some i =>
      ({ entries := Function.update router.entries i { apid := 0, handler := 0, active := false } }, .ok ())
    | none => (router, .error .enoent)

/-- The handler that `ccsds_router_dispatch` calls, or the error it returns without -/
def Router.select (router : Router) (apid : Nat) : Except Errno Handler :=
  if apidMax < apid then .error .einval
  else
    match router.find apid with
    | some entry => .ok entry.handler
    | none => .error .enoent

section Dispatch

variable [Sdls.Kconfig]

/-- A dispatch calls the handler that it selects, and nothing else. -/
theorem routerDispatch_selected {packet : SpacePacket} {s : State} {handler : Handler}
    (selected : s.rx.router.select packet.apid = .ok handler) :
    (routerDispatch packet).run s = (callHandler handler packet).run s := by
  unfold Router.select at selected
  unfold routerDispatch
  rw [Fallible.run_failIf_bind, Fallible.run_read_bind]
  by_cases beyond : apidMax < packet.apid
  · rw [if_pos beyond] at selected
    cases selected
  · rw [if_neg beyond] at selected ⊢
    cases found : s.rx.router.find packet.apid with
    | none =>
      rw [found] at selected
      cases selected
    | some entry =>
      rw [found] at selected
      cases selected
      rfl

/-- A dispatch that selects none returns the error. -/
theorem routerDispatch_refused {packet : SpacePacket} {s : State} {e : Errno}
    (refused : s.rx.router.select packet.apid = .error e) :
    (routerDispatch packet).run s = (Fallible.fail (.errno e) : ProfileM Unit).run s := by
  unfold Router.select at refused
  unfold routerDispatch
  rw [Fallible.run_failIf_bind, Fallible.run_read_bind]
  by_cases beyond : apidMax < packet.apid
  · rw [if_pos beyond] at refused ⊢
    cases refused
    rfl
  · rw [if_neg beyond] at refused ⊢
    cases found : s.rx.router.find packet.apid with
    | none =>
      rw [found] at refused
      cases refused
      rfl
    | some entry =>
      rw [found] at refused
      cases refused

end Dispatch

/-! ## The map -/

/-- What the router is for: handlers for some APIDs, as many as there are entries -/
structure RouteMap where
  routes : Table Nat Handler
  apids : ∀ apid ∈ routes, apid ≤ apidMax
  bounded : routes.keys.card ≤ routerMaxApids

namespace RouteMap

def empty : RouteMap where
  routes := ∅
  apids _ found := absurd found Finmap.notMem_empty
  bounded := Nat.zero_le _

/-- There is an entry for an APID, or one to spare. -/
def HasRoom (map : RouteMap) (apid : Nat) : Prop := apid ∈ map.routes ∨ map.routes.keys.card < routerMaxApids

instance (map : RouteMap) (apid : Nat) : Decidable (map.HasRoom apid) := by
  unfold HasRoom
  infer_instance

theorem insert_bounded {map : RouteMap} {apid : Nat} (handler : Handler) (room : map.HasRoom apid) :
    (map.routes.insert apid handler).keys.card ≤ routerMaxApids := by
  have bounded := map.bounded
  have keys : (map.routes.insert apid handler).keys = insert apid map.routes.keys := by
    ext other
    simp only [Finmap.mem_keys, Finmap.mem_insert, Finset.mem_insert]
  rw [keys]
  rcases room with present | spare
  · rwa [Finset.insert_eq_of_mem (Finmap.mem_keys.mpr present)]
  · have grown := Finset.card_insert_le apid map.routes.keys
    omega

theorem erase_bounded (map : RouteMap) (apid : Nat) : (map.routes.erase apid).keys.card ≤ routerMaxApids := by
  have keys : (map.routes.erase apid).keys ⊆ map.routes.keys := by
    intro other found
    rw [Finmap.mem_keys, Finmap.mem_erase] at found
    exact Finmap.mem_keys.mpr found.2
  exact (Finset.card_le_card keys).trans map.bounded

def register (map : RouteMap) (apid : Nat) (handler : Handler) : RouteMap × Except Errno Unit :=
  if valid : apid ≤ apidMax then
    if room : map.HasRoom apid then
      ({ routes := map.routes.insert apid handler
         apids := by
          intro other found
          rcases Finmap.mem_insert.mp found with rfl | before
          · exact valid
          · exact map.apids other before
         bounded := insert_bounded handler room }, .ok ())
    else (map, .error .enospc)
  else (map, .error .einval)

def unregister (map : RouteMap) (apid : Nat) : RouteMap × Except Errno Unit :=
  if apid ≤ apidMax then
    if apid ∈ map.routes then
      ({ routes := map.routes.erase apid
         apids := fun other found => map.apids other (Finmap.mem_erase.mp found).2
         bounded := map.erase_bounded apid }, .ok ())
    else (map, .error .enoent)
  else (map, .error .einval)

def select (map : RouteMap) (apid : Nat) : Except Errno Handler :=
  if apid ≤ apidMax then
    match map.routes.lookup apid with
    | some handler => .ok handler
    | none => .error .enoent
  else .error .einval

end RouteMap

/-! ## Entries as slots -/

/-- What an entry holds -/
def RouterEntry.slot (entry : RouterEntry) : Option (Nat × Handler) :=
  if entry.active then some (entry.apid, entry.handler) else none

def Router.slots (router : Router) (i : Fin routerMaxApids) : Option (Nat × Handler) := (router.entries i).slot

variable {router : Router} {map : RouteMap} {apid : Nat} {handler : Handler} {i : Fin routerMaxApids}

omit [Kconfig] in
theorem RouterEntry.slot_eq_some {entry : RouterEntry} :
    entry.slot = some (apid, handler) ↔ entry = { apid, handler, active := true } := by
  obtain ⟨apid', handler', active⟩ := entry
  cases active <;> simp [RouterEntry.slot]

omit [Kconfig] in
theorem RouterEntry.slot_of_serves {entry : RouterEntry} (serves : entry.serves apid = true) :
    entry.slot = some (apid, entry.handler) := by
  unfold RouterEntry.serves at serves
  rw [Bool.and_eq_true, beq_iff_eq] at serves
  rw [RouterEntry.slot, if_pos serves.1, serves.2]

omit [Kconfig] in
theorem RouterEntry.serves_of_slot {entry : RouterEntry} (slot : entry.slot = some (apid, handler)) :
    entry.serves apid = true := by
  rw [RouterEntry.slot_eq_some] at slot
  simp [slot, RouterEntry.serves]

theorem Router.slots_update (entry : RouterEntry) :
    ({ entries := Function.update router.entries i entry } : Router).slots =
      Function.update router.slots i entry.slot := by
  funext j
  by_cases written : j = i
  · subst written
    simp [Router.slots]
  · simp [Router.slots, written]

theorem Router.first_some {stop : RouterEntry → Bool} (found : router.first stop = some i) :
    stop (router.entries i) = true := by
  have stopped : (List.finRange routerMaxApids).find? (fun i => stop (router.entries i)) = some i := found
  have here := List.find?_some stopped
  exact here

theorem Router.first_none {stop : RouterEntry → Bool} (none : router.first stop = none) (i : Fin routerMaxApids) :
    stop (router.entries i) = false :=
  Bool.eq_false_iff.mpr (List.find?_eq_none.mp none i (List.mem_finRange i))

theorem Router.find_eq (apid : Nat) :
    router.find apid = (router.first (RouterEntry.serves apid)).map router.entries := List.find?_map ..

/-! ## Refinement -/

/-- The entries of a router stand for the routes of a map. -/
def Router.StandsFor (router : Router) (map : RouteMap) : Prop := Represents router.slots map.routes

theorem Router.init_standsFor : Router.init.StandsFor RouteMap.empty := represents_empty

theorem Router.slot_of_first (found : router.first (RouterEntry.serves apid) = some i) :
    router.slots i = some (apid, (router.entries i).handler) :=
  RouterEntry.slot_of_serves (Router.first_some found)

theorem Router.StandsFor.absent_of_first (stands : router.StandsFor map)
    (none : router.first (RouterEntry.serves apid) = none) : apid ∉ map.routes := by
  rw [stands.mem_iff]
  intro found
  obtain ⟨i, handler, here⟩ := found
  have serves := RouterEntry.serves_of_slot here
  rw [Router.first_none none i] at serves
  cases serves

/-- Selecting looks the handler up. -/
theorem Router.StandsFor.select (stands : router.StandsFor map) (apid : Nat) :
    router.select apid = map.select apid := by
  unfold Router.select RouteMap.select
  by_cases valid : apid ≤ apidMax
  · rw [if_neg (by omega), if_pos valid, Router.find_eq]
    cases found : router.first (RouterEntry.serves apid) with
    | none =>
      rw [Finmap.lookup_eq_none.mpr (stands.absent_of_first found)]
      rfl
    | some i =>
      rw [(stands.lookup apid _).mpr ⟨i, Router.slot_of_first found⟩]
      rfl
  · rw [if_pos (by omega), if_neg valid]

theorem Router.StandsFor.register (stands : router.StandsFor map) (apid : Nat) (handler : Handler) :
    (router.registerApid apid handler).2 = (map.register apid handler).2 ∧
      (router.registerApid apid handler).1.StandsFor (map.register apid handler).1 := by
  unfold Router.registerApid RouteMap.register
  by_cases valid : apid ≤ apidMax
  · rw [if_neg (by omega), dif_pos valid]
    cases found : router.first (RouterEntry.serves apid) with
    | some i =>
      -- The APID has an entry, which changes its handler.
      have slot := Router.slot_of_first found
      have room : map.HasRoom apid := .inl ((stands.mem_iff apid).mpr ⟨i, _, slot⟩)
      have active : ({ router.entries i with handler } : RouterEntry).slot = some (apid, handler) :=
        RouterEntry.slot_of_serves (Router.first_some found)
      rw [dif_pos room]
      refine ⟨rfl, ?_⟩
      show Represents (Router.slots _) (map.routes.insert apid handler)
      dsimp only
      rw [Router.slots_update, active]
      apply stands.write
      · intro other value' here
        rw [slot] at here
        exact (Prod.mk.inj (Option.some.inj here)).1.symm
      · intro j value' here
        exact stands.distinct j i apid value' _ here slot
    | none =>
      have absent := stands.absent_of_first found
      dsimp only
      cases free : router.first fun entry => !entry.active with
      | some i =>
        -- The first entry that is free is taken.
        have inactive : (router.entries i).active = false := by simpa using Router.first_some free
        have empty : router.slots i = none := by
          rw [Router.slots, RouterEntry.slot, inactive]
          rfl
        have bounded := map.bounded
        have room : map.HasRoom apid := by
          have notFull : map.routes.keys.card ≠ routerMaxApids := fun full => stands.full_iff.mp full i empty
          exact .inr (by omega)
        rw [dif_pos room]
        refine ⟨rfl, ?_⟩
        show Represents (Router.slots _) (map.routes.insert apid handler)
        dsimp only
        rw [Router.slots_update]
        apply stands.write
        · intro other value' here
          rw [empty] at here
          cases here
        · intro j value' here
          exact absurd ((stands.mem_iff apid).mpr ⟨j, value', here⟩) absent
      | none =>
        have full : map.routes.keys.card = routerMaxApids := by
          apply stands.full_iff.mpr
          intro j empty
          have active : (router.entries j).active = true := by simpa using Router.first_none free j
          rw [Router.slots, RouterEntry.slot, if_pos active] at empty
          cases empty
        have crowded : ¬ map.HasRoom apid := by
          intro room
          rcases room with present | spare
          · exact absent present
          · omega
        rw [dif_neg crowded]
        exact ⟨rfl, stands⟩
  · rw [if_pos (by omega), dif_neg valid]
    exact ⟨rfl, stands⟩

theorem Router.StandsFor.unregister (stands : router.StandsFor map) (apid : Nat) :
    (router.unregisterApid apid).2 = (map.unregister apid).2 ∧
      (router.unregisterApid apid).1.StandsFor (map.unregister apid).1 := by
  unfold Router.unregisterApid RouteMap.unregister
  by_cases valid : apid ≤ apidMax
  · rw [if_neg (by omega), if_pos valid]
    cases found : router.first (RouterEntry.serves apid) with
    | some i =>
      have slot := Router.slot_of_first found
      rw [if_pos ((stands.mem_iff apid).mpr ⟨i, _, slot⟩)]
      refine ⟨rfl, ?_⟩
      show Represents (Router.slots _) (map.routes.erase apid)
      dsimp only
      rw [Router.slots_update]
      exact stands.clear slot
    | none =>
      rw [if_neg (stands.absent_of_first found)]
      exact ⟨rfl, stands⟩
  · rw [if_pos (by omega), if_neg valid]
    exact ⟨rfl, stands⟩

/-! ## Histories -/

/-- An operation on a router -/
inductive RouterOp where
  | register (apid : Nat) (handler : Handler)
  | unregister (apid : Nat)
  | dispatch (apid : Nat)
  deriving DecidableEq, Repr

/-- What an operation answers: a dispatch the handler that it calls -/
abbrev RouterAnswer : Type := Except Errno (Option Handler)

def Router.apply (router : Router) : RouterOp → Router × RouterAnswer
  | .register apid handler =>
    ((router.registerApid apid handler).1, (router.registerApid apid handler).2.map fun _ => none)
  | .unregister apid => ((router.unregisterApid apid).1, (router.unregisterApid apid).2.map fun _ => none)
  | .dispatch apid => (router, (router.select apid).map some)

def RouteMap.apply (map : RouteMap) : RouterOp → RouteMap × RouterAnswer
  | .register apid handler => ((map.register apid handler).1, (map.register apid handler).2.map fun _ => none)
  | .unregister apid => ((map.unregister apid).1, (map.unregister apid).2.map fun _ => none)
  | .dispatch apid => (map, (map.select apid).map some)

/-- One operation on both -/
theorem Router.apply_refines (stands : router.StandsFor map) (op : RouterOp) :
    (router.apply op).2 = (map.apply op).2 ∧ (router.apply op).1.StandsFor (map.apply op).1 := by
  cases op with
  | register apid handler =>
    obtain ⟨answer, next⟩ := stands.register apid handler
    exact ⟨congrArg (Except.map fun _ => none) answer, next⟩
  | unregister apid =>
    obtain ⟨answer, next⟩ := stands.unregister apid
    exact ⟨congrArg (Except.map fun _ => none) answer, next⟩
  | dispatch apid => exact ⟨congrArg (Except.map some) (stands.select apid), stands⟩

/-- What an operation makes of the route of an APID, given its answer -/
def routeAfter (apid : Nat) (route : Option Handler) : RouterOp × RouterAnswer → Option Handler
  | (.register other handler, .ok _) => if other = apid then some handler else route
  | (.unregister other, .ok _) => if other = apid then none else route
  | _ => route

/-- The handler last registered for an APID and not removed since -/
def lastRegistered (history : List (RouterOp × RouterAnswer)) (apid : Nat) : Option Handler :=
  history.foldl (routeAfter apid) none

omit [Kconfig] in
theorem lastRegistered_append (history : List (RouterOp × RouterAnswer)) (step : RouterOp × RouterAnswer) (apid : Nat) :
    lastRegistered (history ++ [step]) apid = routeAfter apid (lastRegistered history apid) step := by
  rw [lastRegistered, List.foldl_append]
  rfl

/-- A route is what has been registered last. -/
theorem RouteMap.lookup_apply {past : List (RouterOp × RouterAnswer)}
    (routes : ∀ apid, map.routes.lookup apid = lastRegistered past apid) (op : RouterOp) (apid : Nat) :
    (map.apply op).1.routes.lookup apid = lastRegistered (past ++ [(op, (map.apply op).2)]) apid := by
  rw [lastRegistered_append]
  cases op with
  | register other handler =>
    unfold RouteMap.apply RouteMap.register
    dsimp only
    by_cases valid : other ≤ apidMax
    · rw [dif_pos valid]
      by_cases room : map.HasRoom other
      · rw [dif_pos room]
        dsimp only [Except.map, routeAfter]
        by_cases same : other = apid
        · subst same
          rw [if_pos rfl, Finmap.lookup_insert]
        · rw [if_neg same, Finmap.lookup_insert_of_ne _ (Ne.symm same), routes]
      · rw [dif_neg room]
        exact routes apid
    · rw [dif_neg valid]
      exact routes apid
  | unregister other =>
    unfold RouteMap.apply RouteMap.unregister
    dsimp only
    by_cases valid : other ≤ apidMax
    · rw [if_pos valid]
      by_cases present : other ∈ map.routes
      · rw [if_pos present]
        dsimp only [Except.map, routeAfter]
        by_cases same : other = apid
        · subst same
          rw [if_pos rfl, Finmap.lookup_erase]
        · rw [if_neg same, Finmap.lookup_erase_ne (Ne.symm same), routes]
      · rw [if_neg present]
        exact routes apid
    · rw [if_neg valid]
      exact routes apid
  | dispatch other => exact routes apid

theorem RouteMap.lookup_history (ops : List RouterOp) (apid : Nat) :
    (replay RouteMap.apply RouteMap.empty ops).1.routes.lookup apid =
      lastRegistered (replay RouteMap.apply RouteMap.empty ops).2 apid := by
  have start : ∀ apid, RouteMap.empty.routes.lookup apid = lastRegistered [] apid := fun _ => rfl
  have all := @replay_history RouteMap RouterOp RouterAnswer RouteMap.apply
    (fun past map => ∀ apid, map.routes.lookup apid = lastRegistered past apid)
    (fun past map op routes => RouteMap.lookup_apply routes op) [] RouteMap.empty start ops
  exact all apid

/-- A router and the map, after any operations -/
theorem Router.replay_refines (ops : List RouterOp) :
    (replay Router.apply Router.init ops).2 = (replay RouteMap.apply RouteMap.empty ops).2 ∧
      (replay Router.apply Router.init ops).1.StandsFor (replay RouteMap.apply RouteMap.empty ops).1 :=
  replay_related (fun _ _ op stands => Router.apply_refines stands op) Router.init_standsFor ops

/-- A registration fails for want of room when the APID is not in the map and the map is full. -/
theorem RouteMap.register_enospc_iff (map : RouteMap) (apid : Nat) (handler : Handler) :
    (map.register apid handler).2 = .error .enospc ↔
      apid ≤ apidMax ∧ apid ∉ map.routes ∧ map.routes.keys.card = routerMaxApids := by
  have bounded := map.bounded
  unfold RouteMap.register
  by_cases valid : apid ≤ apidMax
  · rw [dif_pos valid]
    by_cases room : map.HasRoom apid
    · rw [dif_pos room]
      constructor
      · intro never
        cases never
      · intro full
        rcases room with present | spare
        · exact absurd present full.2.1
        · omega
    · rw [dif_neg room]
      unfold RouteMap.HasRoom at room
      rw [not_or] at room
      exact ⟨fun _ => ⟨valid, room.1, by omega⟩, fun _ => rfl⟩
  · rw [dif_neg valid]
    constructor
    · intro never
      cases never
    · intro full
      exact absurd full.1 valid

variable [Sdls.Kconfig]

/-- After any operations the router answers as the map does and holds its routes, each APID once; it refuses a new
APID when the map is full, and a dispatch calls the handler that has been registered last. -/
theorem router_is_map (ops : List RouterOp) :
    let router := (replay Router.apply Router.init ops).1
    let history := (replay Router.apply Router.init ops).2
    let map := (replay RouteMap.apply RouteMap.empty ops).1
    history = (replay RouteMap.apply RouteMap.empty ops).2 ∧
      (∀ i j, (router.entries i).active = true → (router.entries j).active = true →
        (router.entries i).apid = (router.entries j).apid → i = j) ∧
      (∀ apid handler, map.routes.lookup apid = some handler ↔
        ∃ i, router.entries i = { apid, handler, active := true }) ∧
      (∀ apid handler, (router.registerApid apid handler).2 = .error .enospc ↔
        apid ≤ 2047 ∧ apid ∉ map.routes ∧ map.routes.keys.card = routerMaxApids) ∧
      ∀ (packet : SpacePacket) (s : State), s.rx.router = router → packet.apid ≤ 2047 →
        (∀ handler, lastRegistered history packet.apid = some handler →
          (routerDispatch packet).run s = (callHandler handler packet).run s) ∧
        (lastRegistered history packet.apid = none →
          (routerDispatch packet).run s = (Fallible.fail (.errno .enoent) : ProfileM Unit).run s) := by
  intro router history map
  obtain ⟨answers, stands⟩ := Router.replay_refines ops
  have answers : history = (replay RouteMap.apply RouteMap.empty ops).2 := answers
  have stands : router.StandsFor map := stands
  have routes : ∀ apid, map.routes.lookup apid = lastRegistered history apid := by
    intro apid
    rw [answers]
    exact RouteMap.lookup_history ops apid
  have slot : ∀ i, (router.entries i).active = true →
      router.slots i = some ((router.entries i).apid, (router.entries i).handler) := by
    intro i active
    rw [Router.slots, RouterEntry.slot, if_pos active]
  refine ⟨answers, ?_, ?_, ?_, ?_⟩
  · intro i j active active' same
    have there := slot j active'
    rw [← same] at there
    exact stands.distinct i j _ _ _ (slot i active) there
  · intro apid handler
    rw [stands.lookup]
    apply exists_congr
    intro i
    rw [Router.slots, RouterEntry.slot_eq_some]
  · intro apid handler
    rw [(stands.register apid handler).1]
    exact map.register_enospc_iff apid handler
  · intro packet s here valid
    have select := stands.select packet.apid
    rw [← here] at select
    unfold RouteMap.select at select
    rw [if_pos (show packet.apid ≤ apidMax from valid), routes] at select
    constructor
    · intro handler last
      rw [last] at select
      exact routerDispatch_selected select
    · intro last
      rw [last] at select
      exact routerDispatch_refused select

end ZephyrCcsds.Tc
