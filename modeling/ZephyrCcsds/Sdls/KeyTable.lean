import Mathlib.Data.List.Nodup
import Mathlib.Data.Set.Basic
import ZephyrCcsds.Sdls.KeyStore

/-! # The key table and the PSA key store

Whatever is called, the key table refers to live keys, to each in one slot only, and the keys
that OTAR has created are those that the table refers to.
-/

namespace ZephyrCcsds.Sdls

open Callback

variable [Kconfig]

/-! ## Steps on the context and the store -/

/-- What a call does to the key table and the store -/
inductive StoreMove (ctx : Ctx) (t : List Item) (ctx' : Ctx) : Prop where
  | kept : (∀ slot, (ctx'.keys slot).psaKeyId = (ctx.keys slot).psaKeyId) →
      (∀ store store', PsaRun store t store' → store' = store) → StoreMove ctx t ctx'
  | swapped {pairs : List (KeySlot × PsaKeyId)} : Replaceable ctx (pairs.map (·.1)) →
      (∀ slot, ctx'.keys slot = (ctx.swapKeys pairs).1.keys slot) →
      (∀ store store', PsaRun store t store' → OtarStored ctx pairs store store') → StoreMove ctx t ctx'

theorem processOtar_storeMove (encoded : Bytes) (s : State) :
    (processOtar encoded).wp anyPsa (fun t _ s' => StoreMove s.ctx t s'.ctx)
      (fun t _ s' => StoreMove s.ctx t s'.ctx) s := by
  apply Fallible.wp_mono (processOtar_store encoded s)
  · rintro t _ s' ⟨pairs, replaceable, swapped, stored⟩
    exact .swapped replaceable (fun slot => by rw [swapped]) stored
  · rintro t e s' ⟨rfl, stored⟩
    exact .kept (fun _ => rfl) stored

theorem StoreMove.sameTables {ctx ctx₁ ctx' : Ctx} {t : List Item} (move : StoreMove ctx t ctx₁)
    (tables : ctx₁.SameTables ctx') : StoreMove ctx t ctx' := by
  cases move with
  | kept same stored => exact .kept (fun slot => tables.keys ▸ same slot) stored
  | swapped replaceable same stored => exact .swapped replaceable (fun slot => tables.keys ▸ same slot) stored

/-- The packet service around a recipient leaves the tables. -/
theorem processPdu_around {encoded : Bytes} {Q : List Item → Ctx → Prop} {s : State}
    (post : (runPdu encoded).2.wp anyPsa (fun t _ s' => Q t s'.ctx) (fun t _ s' => Q t s'.ctx) s) :
    (processPdu encoded).wp anyPsa (fun t _ s' => ∃ ctx, Q t ctx ∧ ctx.SameTables s'.ctx) s := by
  simp only [processPdu, Prog.wp_bind, Prog.wp_read, List.nil_append]
  apply Prog.wp_mono post
  intro t r s' reached
  cases r with
  | ok len =>
    simp only [Prog.wp_bind, Prog.wp_modify, Prog.wp_pure, List.append_nil]
    exact ⟨s'.ctx, reached, s'.ctx.endTransaction_sameTables⟩
  | error e =>
    simp only [Prog.wp_bind, Prog.wp_modify, Prog.wp_pure, List.append_nil]
    exact ⟨s'.ctx, reached, (Ctx.recordFailure_sameTables _ _ _ _ _).trans (Ctx.endTransaction_sameTables _)⟩

theorem applySecurity_keeps (role : SaRole) (slot : SaSlot) (auth : AuthHeader) (data : DataPointer)
    (outOffset : Nat) : (applySecurity role slot auth data outOffset).Along anyPsa KeepsStore := by
  apply Fallible.along_of_wp
  intro s
  have encrypts : ∀ {t key ctx'}, Protects s.ctx role slot key t ctx' → ∀ s', KeepsStore s t s' := by
    intro t key ctx' protects s' item found
    obtain ⟨aad, plaintext, answer, rfl⟩ := protects.called
    rw [List.mem_singleton.mp found]
    trivial
  apply Fallible.wp_mono (applySecurity_spec role slot auth data outOffset s)
  · rintro t _ s' ⟨key, protects⟩
    exact encrypts protects s'
  · rintro t e s' (⟨rfl, rfl⟩ | ⟨key, protects, _⟩)
    · exact keepsStore_nil _ _
    · exact encrypts protects s'

theorem processSecurity_keeps (role : SaRole) (auth : AuthHeader) (protectedData : Bytes) :
    (processSecurity role auth protectedData).Along anyPsa KeepsStore := by
  apply Fallible.along_of_wp
  intro s
  apply Fallible.wp_mono (processSecurity_outcome role auth protectedData s)
  · intro t _ s' processed
    cases processed with
    | accepted _ _ _ => exact keepsStore_single s trivial
  · intro t e s' processed
    cases processed with
    | malformed => exact keepsStore_nil _ _
    | refused _ => exact keepsStore_nil _ _
    | forged _ => exact keepsStore_single s trivial
    | unanswered _ => exact keepsStore_single s trivial

/-- A call that carries out no OTAR keeps the identifiers in the table. -/
theorem Step.storeMove_of_keeps {ctx ctx' : Ctx} {label : Label} (step : Step ctx label ctx')
    (other : ∀ encoded, label.call.command ≠ some (.otar, encoded))
    (keeps : ∀ item ∈ label.trace, item.op.KeepsKeys) : StoreMove ctx label.trace ctx' := by
  refine .kept (fun slot => ?_) fun store store' run => psaRun_keeps run keeps
  cases (step.moves.keys slot).move with
  | kept same => exact same
  | replaced carriesOut =>
    obtain ⟨encoded, named, _⟩ := carriesOut
    exact absurd named (other encoded)
  | activated _ same => exact same
  | deactivated _ same => exact same

theorem recipient_storeMove {pdu : EpPdu} (named : pdu.procedure = .otar) (encoded : Bytes) (s : State) :
    (recipient pdu encoded).wp anyPsa (fun t _ s' => StoreMove s.ctx t s'.ctx)
      (fun t _ s' => StoreMove s.ctx t s'.ctx) s := by
  unfold recipient
  rw [named]
  simp only [silently, Fallible.wp_bind, Fallible.wp_pure, List.append_nil]
  exact processOtar_storeMove encoded s

theorem Step.storeMove {ctx ctx' : Ctx} {label : Label} (step : Step ctx label ctx') :
    StoreMove ctx label.trace ctx' := by
  have whole := step
  obtain ⟨call, t, result⟩ := label
  obtain ⟨s, s', rfl, rfl, runs⟩ := step
  have of_keeps : ∀ {p : Recipient Unit}, p.Along anyPsa KeepsStore → p.run.Runs anyPsa s t result s' →
      ∀ item ∈ t, item.op.KeepsKeys := fun along runs => Prog.wp_of_runs (along s) runs
  cases call with
  | applySecurity role slot auth data outOffset =>
    exact whole.storeMove_of_keeps (fun _ named => by cases named)
      (of_keeps (applySecurity_keeps role slot auth data outOffset) runs)
  | processSecurity role auth protectedData =>
    exact whole.storeMove_of_keeps (fun _ named => by cases named)
      (of_keeps (processSecurity_keeps role auth protectedData) runs)
  | processPdu encoded =>
    by_cases otar : ∃ pdu, epPduDecode encoded = .ok pdu ∧ pdu.procedure = .otar
    · obtain ⟨pdu, decoded, named⟩ := otar
      have post : (runPdu encoded).2.wp anyPsa (fun t _ s' => StoreMove s.ctx t s'.ctx)
          (fun t _ s' => StoreMove s.ctx t s'.ctx) s := by
        rw [runPdu, decoded]
        exact recipient_storeMove named encoded s
      obtain ⟨ctx, move, tables⟩ := Prog.wp_of_runs (processPdu_around post) runs
      exact move.sameTables tables
    · have post : (runPdu encoded).2.wp anyPsa (fun t _ _ => ∀ item ∈ t, item.op.KeepsKeys)
          (fun t _ _ => ∀ item ∈ t, item.op.KeepsKeys) s := by
        unfold runPdu
        cases decoded : epPduDecode encoded with
        | error e => exact keepsStore_nil s s
        | ok pdu =>
          exact Fallible.wp_of_along (recipient_keeps (fun named => otar ⟨pdu, decoded, named⟩) encoded)
            (fun _ _ _ keeps => keeps) (fun _ _ _ keeps => keeps)
      obtain ⟨_, keeps, _⟩ := Prog.wp_of_runs
        (@processPdu_around _ encoded (fun t _ => ∀ item ∈ t, item.op.KeepsKeys) s post) runs
      refine whole.storeMove_of_keeps (fun _ named => otar ?_) keeps
      obtain ⟨pdu, decoded, same⟩ := Option.map_eq_some_iff.mp named
      refine ⟨pdu, ?_, congrArg Prod.fst same⟩
      cases given : epPduDecode encoded with
      | error e =>
        rw [given] at decoded
        cases decoded
      | ok other =>
        rw [given] at decoded
        cases decoded
        rfl
  | recipient pdu encoded =>
    by_cases otar : pdu.procedure = .otar
    · have post : (do
          let _ ← Sdls.recipient pdu encoded
          pure () : Recipient Unit).wp anyPsa (fun t _ s' => StoreMove s.ctx t s'.ctx)
          (fun t _ s' => StoreMove s.ctx t s'.ctx) s := by
        simp only [Fallible.wp_bind, Fallible.wp_pure, List.append_nil]
        exact recipient_storeMove otar encoded s
      cases result with
      | ok _ => exact Fallible.ok_of_runs post runs
      | error e => exact Fallible.error_of_runs post runs
    · refine whole.storeMove_of_keeps (fun _ named => otar ?_) (of_keeps ?_ runs)
      · exact congrArg Prod.fst (Option.some.inj named)
      · exact Fallible.along_bind (recipient_keeps otar encoded) fun _ => Fallible.along_pure
  | _ =>
    obtain ⟨rfl, _, _⟩ := runs
    exact whole.storeMove_of_keeps (fun _ named => by cases named) (by simp)

/-! ## The invariant -/

structure TableInvariant (ctx : Ctx) (store : KeyStore) : Prop where
  live : ∀ slot, (ctx.keys slot).psaKeyId ≠ psaKeyIdNull → store (ctx.keys slot).psaKeyId ≠ none
  distinct : ∀ slot other, (ctx.keys slot).psaKeyId ≠ psaKeyIdNull →
    (ctx.keys slot).psaKeyId = (ctx.keys other).psaKeyId → slot = other
  created : ∀ keyId object, store keyId = some object → object.imported = true →
    object.attributes.lifetime = .volatile ∧ keyId ≠ psaKeyIdNull ∧
      ∃ slot, (ctx.keys slot).psaKeyId = keyId

theorem TableInvariant.of_ids {ctx ctx' : Ctx} {store : KeyStore} (inv : TableInvariant ctx store)
    (same : ∀ slot, (ctx'.keys slot).psaKeyId = (ctx.keys slot).psaKeyId) : TableInvariant ctx' store := by
  refine ⟨?_, ?_, ?_⟩
  · intro slot
    rw [same]
    exact inv.live slot
  · intro slot other
    rw [same, same]
    exact inv.distinct slot other
  · intro keyId object held imported
    obtain ⟨lifetime, present, slot, refers⟩ := inv.created keyId object held imported
    exact ⟨lifetime, present, slot, (same slot).trans refers⟩

/-- The table after OTAR: an imported key in the slots of the command, the old ones elsewhere -/
theorem OtarStored.table {ctx : Ctx} {pairs : List (KeySlot × PsaKeyId)} {store store' : KeyStore}
    (inv : TableInvariant ctx store) (replaceable : Replaceable ctx (pairs.map (·.1)))
    (stored : OtarStored ctx pairs store store') : TableInvariant (ctx.swapKeys pairs).1 store' := by
  obtain ⟨middle, added, destroyed⟩ := stored
  have replaced := @Ctx.swapKeys_replaced _ ctx pairs replaceable.nodup
  rw [replaced] at destroyed
  -- An old identifier in a slot is live, so it is none of the imported ones.
  have old : ∀ slot, (ctx.keys slot).psaKeyId ≠ psaKeyIdNull →
      (ctx.keys slot).psaKeyId ∉ pairs.map (·.2) := by
    intro slot present found
    exact inv.live slot present (added.fresh _ found).2
  have new : ∀ keyId ∈ pairs.map (·.2), store' keyId = middle keyId := by
    intro keyId found
    apply destroyed.kept
    rintro ⟨listed, known, _⟩
    obtain ⟨pair, _, rfl⟩ := List.mem_map.mp listed
    exact old pair.1 known found
  have imported : ∀ slot ∈ pairs.map (·.1), ∃ keyId, (slot, keyId) ∈ pairs ∧
      ((ctx.swapKeys pairs).1.keys slot).psaKeyId = keyId := by
    intro slot found
    obtain ⟨pair, listed, rfl⟩ := List.mem_map.mp found
    exact ⟨pair.2, listed, Ctx.swapKeys_imported replaceable.nodup listed⟩
  have survives : ∀ slot ∉ pairs.map (·.1), (ctx.keys slot).psaKeyId ≠ psaKeyIdNull →
      store' (ctx.keys slot).psaKeyId = store (ctx.keys slot).psaKeyId := by
    intro slot outside present
    rw [destroyed.kept, added.kept _ (old slot present)]
    rintro ⟨listed, _, _⟩
    obtain ⟨pair, found, same⟩ := List.mem_map.mp listed
    rw [inv.distinct slot pair.1 present same.symm] at outside
    exact outside (List.mem_map_of_mem found)
  refine ⟨?_, ?_, ?_⟩
  · intro slot present
    by_cases inside : slot ∈ pairs.map (·.1)
    · obtain ⟨keyId, listed, refers⟩ := imported slot inside
      have found : keyId ∈ pairs.map (·.2) := List.mem_map_of_mem listed
      rw [refers, new keyId found, added.added keyId found]
      exact Option.some_ne_none _
    · rw [Ctx.swapKeys_other inside] at present ⊢
      rw [survives slot inside present]
      exact inv.live slot present
  · intro slot other present same
    by_cases inside : slot ∈ pairs.map (·.1)
    · obtain ⟨keyId, listed, refers⟩ := imported slot inside
      by_cases inside' : other ∈ pairs.map (·.1)
      · obtain ⟨keyId', listed', refers'⟩ := imported other inside'
        have twice : (slot, keyId) = (other, keyId') :=
          List.inj_on_of_nodup_map added.nodup listed listed' (by rw [← refers, same, refers'])
        exact congrArg Prod.fst twice
      · rw [same, Ctx.swapKeys_other inside'] at refers present
        exact absurd (refers ▸ List.mem_map_of_mem listed) (old other present)
    · by_cases inside' : other ∈ pairs.map (·.1)
      · obtain ⟨keyId', listed', refers'⟩ := imported other inside'
        rw [← same, Ctx.swapKeys_other inside] at refers'
        rw [Ctx.swapKeys_other inside] at present
        exact absurd (refers' ▸ List.mem_map_of_mem listed') (old slot present)
      · rw [Ctx.swapKeys_other inside] at present same
        rw [Ctx.swapKeys_other inside'] at same
        exact inv.distinct slot other present same
  · intro keyId object held created
    have spared : middle keyId = some object := by
      rw [← held]
      apply Eq.symm
      apply destroyed.kept
      intro doomed
      rw [destroyed.gone keyId doomed] at held
      cases held
    by_cases fresh : keyId ∈ pairs.map (·.2)
    · obtain ⟨pair, listed, rfl⟩ := List.mem_map.mp fresh
      rw [added.added _ fresh] at spared
      cases spared
      exact ⟨rfl, (added.fresh _ fresh).1, pair.1, Ctx.swapKeys_imported replaceable.nodup listed⟩
    · have before : store keyId = some object := by rw [← added.kept keyId fresh, spared]
      obtain ⟨lifetime, present, slot, refers⟩ := inv.created keyId object before created
      refine ⟨lifetime, present, slot, ?_⟩
      -- A replaced volatile key is gone, so its slot is not one of the command's.
      have outside : slot ∉ pairs.map (·.1) := by
        intro inside
        obtain ⟨pair, listed, rfl⟩ := List.mem_map.mp inside
        have doomed : keyId ∈ pairs.map fun pair => (ctx.keys pair.1).psaKeyId :=
          List.mem_map.mpr ⟨pair, listed, refers⟩
        rw [destroyed.gone keyId ⟨doomed, present, object, spared, lifetime⟩] at held
        cases held
      rw [Ctx.swapKeys_other outside, refers]

/-! ## Runs on the context and the store -/

/-- One call with the PSA calls it makes carried out on the store -/
def KeyedStep (before : Ctx × KeyStore) (label : Label) (after : Ctx × KeyStore) : Prop :=
  Step before.1 label after.1 ∧ PsaRun before.2 label.trace after.2

theorem KeyedStep.invariant {before after : Ctx × KeyStore} {label : Label} (step : KeyedStep before label after)
    (inv : TableInvariant before.1 before.2) : TableInvariant after.1 after.2 := by
  obtain ⟨one, calls⟩ := step
  cases one.storeMove with
  | kept same stored =>
    rw [stored _ _ calls]
    exact inv.of_ids same
  | swapped replaceable same stored =>
    exact ((stored _ _ calls).table inv replaceable).of_ids fun slot => by rw [same]

/-- The identifiers of the live volatile keys that OTAR has created -/
def KeyStore.created (store : KeyStore) : Set PsaKeyId :=
  { keyId | ∃ object, store keyId = some object ∧ object.imported = true ∧
    object.attributes.lifetime = .volatile }

/-- The identifiers in the key table of keys that OTAR has created -/
def Ctx.referenced (ctx : Ctx) (store : KeyStore) : Set PsaKeyId :=
  { keyId | ∃ slot object, (ctx.keys slot).psaKeyId = keyId ∧ store keyId = some object ∧
    object.imported = true }

theorem key_table_matches_store {start ctx : Ctx} {initial store : KeyStore} {labels : List Label}
    (distinct : ∀ slot other, (start.keys slot).psaKeyId ≠ psaKeyIdNull →
      (start.keys slot).psaKeyId = (start.keys other).psaKeyId → slot = other)
    (live : ∀ slot, (start.keys slot).psaKeyId ≠ psaKeyIdNull → initial (start.keys slot).psaKeyId ≠ none)
    (provisioned : ∀ keyId object, initial keyId = some object → object.imported = false)
    (run : Run KeyedStep (start, initial) labels (ctx, store)) :
    store.created = ctx.referenced store ∧
    (∀ slot, (ctx.keys slot).psaKeyId ≠ psaKeyIdNull → store (ctx.keys slot).psaKeyId ≠ none) ∧
    ∀ slot other, (ctx.keys slot).psaKeyId ≠ psaKeyIdNull →
      (ctx.keys slot).psaKeyId = (ctx.keys other).psaKeyId → slot = other := by
  have first : TableInvariant start initial := by
    refine ⟨live, distinct, fun keyId object held created => ?_⟩
    rw [provisioned keyId object held] at created
    cases created
  have inv : TableInvariant ctx store :=
    @Run.invariant _ _ KeyedStep _ _ _ (fun state => TableInvariant state.1 state.2)
      (fun _ _ _ inv step => step.invariant inv) first run
  refine ⟨Set.ext fun keyId => ⟨?_, ?_⟩, inv.live, inv.distinct⟩
  · rintro ⟨object, held, created, _⟩
    obtain ⟨_, _, slot, refers⟩ := inv.created keyId object held created
    exact ⟨slot, object, refers, held, created⟩
  · rintro ⟨slot, object, _, held, created⟩
    exact ⟨object, held, created, (inv.created keyId object held created).1⟩

end ZephyrCcsds.Sdls

namespace ZephyrCcsds.Sdls

open Callback

section Sample

attribute [local instance] defaultKconfig

/-- PSA as a function, where it allows the answer -/
def playPsa (store : KeyStore) (item : Item) : Option KeyStore :=
  match item with
  | ⟨_, .importKey attributes _, (status, keyId)⟩ =>
    if status = .success then
      if keyId ≠ psaKeyIdNull ∧ store keyId = none then some (store.add keyId attributes) else none
    else
      some store
  | ⟨_, .getKeyAttributes keyId, answer⟩ =>
    if ∀ object ∈ store keyId, answer = (.success, object.attributes) then some store else none
  | ⟨_, .destroyKey keyId, status⟩ =>
    if store keyId ≠ none → status = .success then some (store.remove keyId) else none
  | _ => some store

theorem psaStep_of_playPsa {store store' : KeyStore} {item : Item}
    (played : playPsa store item = some store') : PsaStep store item store' := by
  obtain ⟨ctx, op, result⟩ := item
  cases op with
  | importKey attributes data =>
    obtain ⟨status, keyId⟩ := result
    simp only [playPsa] at played
    split_ifs at played with succeeded allowed
    · cases played
      subst succeeded
      exact .imports allowed.1 allowed.2
    · cases played
      exact .importFailed succeeded
  | getKeyAttributes keyId =>
    simp only [playPsa] at played
    split_ifs at played with answered
    cases played
    exact .query answered
  | destroyKey keyId =>
    simp only [playPsa] at played
    split_ifs at played with succeeded
    cases played
    exact .destroy succeeded
  | _ =>
    cases played
    exact .other trivial fun keyId impossible => by cases impossible

/-- The keys of the configuration -/
def sampleStore : KeyStore := fun keyId =>
  if keyId = 11 ∨ keyId = 14 ∨ keyId = 15 then some { attributes := gcmKey .decryptOnly, imported := false }
  else none

/-- OTAR fills the slots 6 and 7. -/
theorem key_table_matches_store_otar : ∃ labels ctx store,
    Run KeyedStep (init sampleConfiguration, sampleStore) labels (ctx, store) ∧
      store.created = ctx.referenced store := by
  have held : ((playCall (init sampleConfiguration) (.processPdu otarSample, otarDecryption ++
      [⟨.importKey otarKeyAttributes (List.replicate epKeyLen 0), (.success, 20)⟩,
        ⟨.importKey otarKeyAttributes (List.replicate epKeyLen 0), (.success, 21)⟩])).bind fun played =>
          (played.1.trace.foldlM playPsa sampleStore).map fun store => (played, store)).isSome = true := by
    decide +kernel
  obtain ⟨⟨⟨label, ctx⟩, store⟩, played⟩ := Option.isSome_iff_exists.mp held
  obtain ⟨first, one, rest⟩ := Option.bind_eq_some_iff.mp played
  obtain ⟨stored, calls, same⟩ := Option.map_eq_some_iff.mp rest
  cases same
  have run : Run KeyedStep (init sampleConfiguration, sampleStore) [label] (ctx, store) :=
    .single ⟨step_of_playCall one, Run.of_foldlM (fun _ _ _ => psaStep_of_playPsa) calls⟩
  have distinct : ∀ slot other : Fin 8, ((init sampleConfiguration).keys slot).psaKeyId ≠ psaKeyIdNull →
      ((init sampleConfiguration).keys slot).psaKeyId = ((init sampleConfiguration).keys other).psaKeyId →
        slot = other := by decide +kernel
  have live : ∀ slot : Fin 8, ((init sampleConfiguration).keys slot).psaKeyId ≠ psaKeyIdNull →
      sampleStore ((init sampleConfiguration).keys slot).psaKeyId ≠ none := by decide +kernel
  have provisioned : ∀ keyId object, sampleStore keyId = some object → object.imported = false := by
    intro keyId object found
    unfold sampleStore at found
    split_ifs at found
    cases found
    rfl
  exact ⟨_, ctx, store, run, (key_table_matches_store distinct live provisioned run).1⟩

end Sample

end ZephyrCcsds.Sdls
