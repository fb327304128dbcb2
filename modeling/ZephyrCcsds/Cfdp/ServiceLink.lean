import ZephyrCcsds.Cfdp.Link
import ZephyrCcsds.Cfdp.SpacePacketAdapter

/-! # Two services that exchange Space Packets

The link of `Link.lean` one level down: what the parties send each other are Space Packets, which a service encodes
and which its peer's router decodes and hands on.  A packet that carries no PDU may come from anywhere.

* `Node` — a service with its router, and what `Peer` keeps beside the entity.
* `Node.Turn.carries` — a turn of a node is a turn of its peer, or nothing.
* `services_transfer` — so what holds of the entities on their link holds of the services.
-/

namespace ZephyrCcsds.Cfdp

open Callback

variable [Kconfig] [Tc.Kconfig]

/-! ## What is hidden -/

section Hidden

variable {v w : Trace} {disk disk' : Disk} {source : Source}

omit [Kconfig] [Tc.Kconfig] in
theorem Hides.does (hides : Hides v w) (run : Run Disk.Does disk w disk') : Run Disk.Does disk v disk' := by
  induction hides generalizing disk with
  | nil => exact run
  | send _ ih | clock _ ih => exact .step rfl (ih run)
  | kept _ ih =>
    cases run with
    | step does rest => exact .step does (ih rest)

omit [Kconfig] [Tc.Kconfig] in
theorem Hides.answers (hides : Hides v w) (answers : ∀ obs ∈ w, source.answers obs) :
    ∀ obs ∈ v, source.answers obs := by
  induction hides with
  | nil => exact answers
  | send _ ih | clock _ ih => exact List.forall_mem_cons.mpr ⟨trivial, ih answers⟩
  | kept _ ih =>
    rw [List.forall_mem_cons] at answers
    exact List.forall_mem_cons.mpr ⟨answers.1, ih answers.2⟩

omit [Kconfig] [Tc.Kconfig] in
theorem Hides.completions (hides : Hides v w) : completions v = completions w := by
  induction hides with
  | nil => rfl
  | send _ ih | clock _ ih => exact ih
  | kept _ ih =>
    simp only [Cfdp.completions, List.filterMap_cons] at ih ⊢
    rw [ih]

omit [Kconfig] [Tc.Kconfig] in
/-- The opening of a file is never hidden. -/
theorem Hides.opensSource (hides : Hides v w) (first : v = [] ∨ ∃ fs path reply rest, v = ⟨.openRead fs path, reply⟩ :: rest) :
    opensSource v = opensSource w := by
  rcases first with rfl | ⟨fs, path, reply, rest, rfl⟩
  · cases hides
    rfl
  · cases hides with
    | kept => rfl

end Hidden

/-! ## Nodes -/

/-- A service with its router, and what a `Peer` has beside its entity -/
structure Node where
  peer : Peer
  adapter : Adapter
  router : Tc.Router
  own : Tc.Handler

/-- The PDU of a packet that carries one -/
def pduOf (octets : Bytes) : Option Bytes :=
  match Tc.spacePacketDecode octets with
  | .error _ => none
  | .ok packet => if carriesPdu packet then some packet.payload else none

/-- The packet of a call that is not just any packet -/
def ServiceStep.heard (step : ServiceStep) : Option Bytes :=
  match step.call with
  | .dispatch octets => if (pduOf octets).isSome then some octets else none
  | _ => none

def ServiceStep.said (step : ServiceStep) : List Bytes := sentPackets step.trace

/-- Whether a call opens a file to send -/
def ServiceStep.opens (step : ServiceStep) : Bool :=
  match step.call with
  | .sendFile _ _ => opensSource (entityCallbacks step.trace)
  | _ => false

def ServiceStep.puts (step : ServiceStep) (entity : Entity) (octets : Bytes) : List Put :=
  match step.call with
  | .sendFile _ request => if opensSource (entityCallbacks step.trace) then [entity.put request octets] else []
  | _ => []

/-- One call of a service, as `Peer.Turn` has it for an entity -/
structure Node.Turn [ZephyrCrc] (node : Node) (step : ServiceStep) (node' : Node) : Prop where
  runs : ServiceTurn node.router node.own (node.peer.entity, node.adapter) step (node'.peer.entity, node'.adapter)
  router : node'.router = node.router ∧ node'.own = node.own
  disk : Run Disk.Does node.peer.disk (entityCallbacks step.trace) node'.peer.disk
  source : step.opens = true ∨ node.peer.entity.sender.fileHandleOpen = true →
    ∀ obs ∈ entityCallbacks step.trace, node'.peer.source.answers obs
  same : step.opens = false → node'.peer.source = node.peer.source
  puts : node'.peer.puts = node.peer.puts ++ step.puts node.peer.entity node'.peer.source.octets
  unused : ∀ put ∈ step.puts node.peer.entity node'.peer.source.octets, put.id ∉ node.peer.puts.map Put.id
  completed : node'.peer.completed = node.peer.completed ++ completions (entityCallbacks step.trace)

/-- A service that has just been set up -/
structure Node.Ready (node : Node) : Prop where
  setUp : ∃ config service, CfdpService.SetUp service config node.router node.own ∧ node.peer.entity = service.entity ∧
    node.adapter = service.adapter
  committed : node.peer.disk.committed = []
  puts : node.peer.puts = []
  completed : node.peer.completed = []

/-- A node stands for its peer. -/
structure Node.StandsFor (node : Node) (peer : Peer) : Prop where
  same : node.peer = peer
  sound : node.adapter.Sound

/-- A packet carries a PDU. -/
def PacketCarries (octets pdu : Bytes) : Prop := pduOf octets = some pdu

section Turns

variable [ZephyrCrc] {node node' : Node} {step : ServiceStep}

omit [ZephyrCrc] in
theorem pduOf_of_handed {router : Tc.Router} {own : Tc.Handler} {adapter : Adapter} {octets pdu : Bytes}
    (given : handed router own adapter octets = some pdu) : pduOf octets = some pdu := by
  rw [handed] at given
  rw [pduOf]
  cases decoded : Tc.spacePacketDecode octets with
  | error e =>
    rw [decoded] at given
    cases given
  | ok packet =>
    rw [decoded] at given
    dsimp only at given ⊢
    split_ifs at given with accepts
    rw [if_pos accepts.2.2.1]
    exact given

omit [ZephyrCrc] in
/-- A call of the service that comes to none of the entity is a packet that is refused. -/
theorem dispatch_of_none {router : Tc.Router} {own : Tc.Handler} {adapter : Adapter} {call : ServiceCall}
    (none : call.entityCall router own adapter = none) : ∃ octets, call = .dispatch octets := by
  cases call with
  | sendFile => cases none
  | dispatch octets => exact ⟨octets, rfl⟩
  | poll => cases none

omit [ZephyrCrc] [Tc.Kconfig] in
theorem Adapter.taken_sent (adapter : Adapter) {t : Trace} {pdu : Bytes} (mem : pdu ∈ adapter.taken t) :
    pdu ∈ sentPdus t := by
  simp only [Adapter.taken, List.mem_filterMap] at mem
  simp only [sentPdus, List.mem_filterMap]
  obtain ⟨⟨op, r⟩, mem, taken⟩ := mem
  cases op with
  | sendPdu dest pdu' =>
    simp only [Option.ite_none_right_eq_some] at taken
    exact ⟨_, mem, taken.2⟩
  | _ => cases taken

omit [ZephyrCrc] [Tc.Kconfig] in
theorem Adapter.Sound.mem_number {adapter : Adapter} (sound : adapter.Sound) {t : Trace} {octets pdu : Bytes}
    (mem : octets ∈ adapter.number (adapter.taken t)) (carries : pduOf octets = some pdu) : pdu ∈ sentPdus t := by
  have decoded : Tc.spacePacketDecode octets ∈ (adapter.number (adapter.taken t)).map Tc.spacePacketDecode :=
    List.mem_map_of_mem mem
  rw [sound.decodes fun pdu mem => Adapter.mem_taken mem] at decoded
  obtain ⟨k, short, same⟩ := List.mem_mapIdx.mp decoded
  rw [pduOf, ← same] at carries
  dsimp only at carries
  split_ifs at carries
  cases carries
  exact adapter.taken_sent (List.getElem_mem short)

omit [Tc.Kconfig] in
/-- `open_read` is the first callback of `send_file`. -/
theorem SendFileHandled.first {fs : FilestoreOps} {request : PutRequest} {entity entity' : Entity} {t : Trace}
    {status : Status} (handled : SendFileHandled fs request entity t status entity') :
    t = [] ∨ ∃ fs path reply rest, t = ⟨.openRead fs path, reply⟩ :: rest := by
  cases handled with
  | rejected => exact .inl rfl
  | unopened | released | kept => exact .inr ⟨_, _, _, _, rfl⟩

/-- The opening of a file is seen from outside. -/
theorem opens_of_served {call : ServiceCall} {router : Tc.Router} {own : Tc.Handler} {adapter : Adapter} {called : Call}
    {entity entity' : Entity} {t : Trace} {u : ServiceTrace}
    (same : call.entityCall router own adapter = some called) (quiet : QuietStep entity ⟨called, t⟩ entity')
    (hides : Hides t (entityCallbacks u)) :
    Step.opens ⟨called, t⟩ = ServiceStep.opens ⟨call, u⟩ ∧
      ∀ octets, Step.puts ⟨called, t⟩ entity octets = ServiceStep.puts ⟨call, u⟩ entity octets := by
  cases call with
  | sendFile fs request =>
    cases same
    have outcome := called_outcome quiet
    cases outcome with
    | sendFile handled =>
      have opens := hides.opensSource handled.first
      simp [Step.opens, ServiceStep.opens, Step.puts, ServiceStep.puts, opens]
  | dispatch octets =>
    obtain ⟨pdu, -, rfl⟩ := Option.map_eq_some_iff.mp same
    exact ⟨rfl, fun _ => rfl⟩
  | poll =>
    cases same
    exact ⟨rfl, fun _ => rfl⟩

theorem Node.Turn.carries (turn : node.Turn step node') (sound : node.adapter.Sound) :
    Network.Carries Node.StandsFor PacketCarries Peer.Turn Step.heard Step.said ServiceStep.heard ServiceStep.said
      node.peer step node' := by
  obtain ⟨call, u⟩ := step
  have comes := serviceTurn_comes turn.runs
  cases called : call.entityCall node.router node.own node.adapter with
  | none =>
    -- A packet without a PDU for the entity does not reach it.
    rw [called] at comes
    obtain ⟨same, unsent, uncalled⟩ := comes
    obtain ⟨octets, rfl⟩ := dispatch_of_none called
    apply Network.Carries.still
    · obtain ⟨entity, adapter⟩ := Prod.mk.inj same
      constructor
      · have does := turn.disk
        have puts := turn.puts
        have completed := turn.completed
        rw [uncalled] at does completed
        apply Peer.ext
        · exact entity
        · exact Disk.aside_of_run does aside_nil
        · exact turn.same rfl
        · exact puts.trans (List.append_nil _)
        · exact completed.trans (List.append_nil _)
      · rw [adapter]
        exact sound
    · intro packet mem
      rw [ServiceStep.said, unsent] at mem
      cases mem
  | some entityCall =>
    rw [called] at comes
    obtain ⟨t, quiet, served⟩ := comes
    have passed := ServedBy.passed served sound
    obtain ⟨opens, puts⟩ := opens_of_served called quiet passed.callbacks
    apply Network.Carries.moves
    · show Peer.Turn node.peer ⟨entityCall, t⟩ node'.peer
      constructor
      · exact quiet
      · exact passed.callbacks.does turn.disk
      · intro held
        exact passed.callbacks.answers (turn.source (opens ▸ held))
      · intro shut
        exact turn.same (opens ▸ shut)
      · rw [puts]
        exact turn.puts
      · rw [puts]
        exact turn.unused
      · rw [passed.callbacks.completions]
        exact turn.completed
    · have adapter : node'.adapter = _ := passed.adapter
      exact ⟨rfl, adapter ▸ sound.iterate _⟩
    · intro pdu hears
      cases call with
      | sendFile => cases called; cases hears
      | poll => cases called; cases hears
      | dispatch octets =>
        obtain ⟨pdu', given, rfl⟩ := Option.map_eq_some_iff.mp called
        cases hears
        have carries := pduOf_of_handed given
        exact ⟨octets, by simp [ServiceStep.heard, carries], carries⟩
    · intro octets mem pdu carries
      exact sound.mem_number (passed.packets ▸ mem) carries

end Turns

/-! ## Runs -/

omit [Kconfig] in
theorem Node.Ready.standsFor [Kconfig] {node : Node} (ready : node.Ready) :
    node.StandsFor node.peer ∧ node.peer.Fresh := by
  obtain ⟨config, service, setUp, entity, adapter⟩ := ready.setUp
  obtain ⟨init, sound, -⟩ := setUp.parts
  exact ⟨⟨rfl, adapter ▸ sound⟩, entity ▸ init, ready.committed, ready.puts, ready.completed⟩

/-- Whatever happens to the Space Packets between two services, and whatever other packets come in between: what
either of them commits is a file that the other has put, and every transaction in acknowledged mode that is reported
as COMPLETE has its file committed. -/
theorem services_transfer [ZephyrCrc] {net net' : Network Node Bytes} {steps : List ServiceStep} (left : net.left.Ready)
    (right : net.right.Ready) (unsentLeft : net.fromLeft = []) (unsentRight : net.fromRight = [])
    (run : Run (Network.Step Node.Turn ServiceStep.heard ServiceStep.said) net steps net') :
    Transfers net'.left.peer net'.right.peer ∧ Transfers net'.right.peer net'.left.peer := by
  obtain ⟨leftStands, leftFresh⟩ := left.standsFor
  obtain ⟨rightStands, rightFresh⟩ := right.standsFor
  have start : Network.Carried Node.StandsFor PacketCarries net
      { left := net.left.peer, right := net.right.peer, fromLeft := [], fromRight := [] } := by
    refine ⟨leftStands, rightStands, ?_, ?_⟩
    · rw [unsentLeft]
      exact fun _ mem => by cases mem
    · rw [unsentRight]
      exact fun _ mem => by cases mem
  obtain ⟨calls, final, run', carried⟩ := Network.run_carried
    (fun node step node' peer stands turn => stands.same ▸ turn.carries stands.sound) start run
  have agrees := agrees_of_link leftFresh rightFresh rfl rfl run'
  rw [carried.left.same, carried.right.same]
  exact ⟨agrees.left.transfers, agrees.right.transfers⟩

end ZephyrCcsds.Cfdp

/-! ## A transfer to play -/

namespace ZephyrCcsds.Cfdp

open Callback

section Play

variable [Kconfig] [Tc.Kconfig] [ZephyrCrc] {node node' : Node} {step : ServiceStep} {disk : Disk}

/-- A node after a step that leaves it with this disk, and with the source that it has -/
def Node.play (node : Node) (step : ServiceStep) (disk : Disk) : Option Node :=
  ((step.call.body node.router node.own (node.peer.entity, node.adapter)).play step.trace).map fun played =>
    { node with
      adapter := played.2.2
      peer :=
        { node.peer with
          entity := played.2.1
          disk
          puts := node.peer.puts ++ step.puts node.peer.entity node.peer.source.octets
          completed := node.peer.completed ++ completions (entityCallbacks step.trace) } }

theorem Node.turn_of_play (played : node.play step disk = some node')
    (does : Run Disk.Does node.peer.disk (entityCallbacks step.trace) disk)
    (answers : ∀ obs ∈ entityCallbacks step.trace, node.peer.source.answers obs)
    (unused : ∀ put ∈ step.puts node.peer.entity node.peer.source.octets, put.id ∉ node.peer.puts.map Put.id) :
    node.Turn step node' ∧ node'.peer.disk = disk ∧ node'.peer.source = node.peer.source := by
  obtain ⟨⟨returned, s'⟩, first, rfl⟩ := Option.map_eq_some_iff.mp played
  exact ⟨⟨⟨returned, Act.runs_of_play first⟩, ⟨rfl, rfl⟩, does, fun _ => answers, fun _ => rfl, rfl, unused, rfl⟩,
    rfl, rfl⟩

end Play

section Sample

attribute [local instance] defaultKconfig plainCrc Tc.defaultKconfig

/-- The service of entity 1, the peer of `leftConfig` -/
def rightConfig : ServiceConfig :=
  { leftConfig with
    localEntityId := 1
    remoteEntityId := 2
    localApid := 11
    remoteApid := 10
    packetType := .tm
    initialPacketSequenceCount := 0 }

def rightFresh : CfdpService where
  entity := freshPeer
  adapter :=
    { leftAdapter with remoteEntityId := 2, localApid := 11, remoteApid := 10, packetType := .tm, sequenceCount := 0 }
  receiveFilestore := some wholeFilestore

def rightService : CfdpService := (rightFresh.registerRx Tc.Router.init 0).1

def rightRouter : Tc.Router := (rightFresh.registerRx Tc.Router.init 0).2.1

theorem rightService_setUp : rightService.SetUp rightConfig rightRouter 0 where
  fresh := ⟨rightFresh, Tc.Router.init, by decide +kernel, rfl⟩

/-- Two services that have said nothing yet -/
def silentServices : Network Node Bytes where
  left := { peer := .fresh leftService.entity, adapter := leftService.adapter, router := leftRouter, own := 0 }
  right := { peer := .fresh rightService.entity, adapter := rightService.adapter, router := rightRouter, own := 0 }
  fromLeft := []
  fromRight := []

def announcedServiceStep : ServiceStep where
  call := .dispatch [16, 11, 255, 255, 0, 16, 32, 0, 10, 0, 2, 0, 1, 7, 0, 0, 0, 0, 1, 1, 98, 1, 99]
  trace := [⟨.entity (.openWriteTmp wholeFilestore [99]), { rc := 0, handle := 1 }⟩]

/-- The first part of a segmented packet for an APID that nothing is registered for -/
def strayServiceStep : ServiceStep where
  call := .dispatch [16, 12, 64, 0, 0, 0, 7]
  trace := []

def segmentServiceStep : ServiceStep where
  call := .dispatch [16, 11, 192, 0, 0, 11, 48, 0, 5, 0, 2, 0, 1, 0, 0, 0, 0, 104]
  trace := [⟨.entity (.write wholeFilestore 1 0 [104]), (0 : Int)⟩]

def endedServiceStep : ServiceStep where
  call := .dispatch [16, 11, 192, 1, 0, 16, 32, 0, 10, 0, 2, 0, 1, 4, 0, 104, 0, 0, 0, 0, 0, 0, 1]
  trace :=
    [⟨.sendPacket [0, 10, 192, 0, 0, 9, 40, 0, 3, 0, 2, 0, 1, 6, 64, 1], (0 : Int)⟩,
      ⟨.entity (.read wholeFilestore 1 0 1), { rc := 0, nread := 1, data := [104] }⟩,
      ⟨.entity (.close wholeFilestore 1), (0 : Int)⟩,
      ⟨.entity (.commitTmp wholeFilestore [99]), (0 : Int)⟩,
      ⟨.sendPacket [0, 10, 192, 1, 0, 8, 40, 0, 2, 0, 2, 0, 1, 5, 2], (0 : Int)⟩]

def completedServiceStep : ServiceStep where
  call := .dispatch [0, 10, 192, 1, 0, 8, 40, 0, 2, 0, 2, 0, 1, 5, 2]
  trace :=
    [⟨.sendPacket [16, 11, 192, 2, 0, 9, 32, 0, 3, 0, 2, 0, 1, 6, 81, 2], (0 : Int)⟩,
      ⟨.entity (.event .sender .complete { sourceEntityId := 2, transactionSequenceNumber := 0 } .ok), ()⟩,
      ⟨.entity (.close wholeFilestore 5), (0 : Int)⟩]

/-- A file goes from one service to the other, and a stray packet comes in between. -/
theorem services_transfer_octet : ∃ net,
    Run (Network.Step Node.Turn ServiceStep.heard ServiceStep.said) silentServices
      [sendingServiceStep, announcedServiceStep, strayServiceStep, segmentServiceStep, endedServiceStep,
        completedServiceStep] net ∧
    net.left.peer.completed = [{ sourceEntityId := 2, transactionSequenceNumber := 0 }] ∧
    net.right.peer.disk = .whole ∧ Transfers net.left.peer net.right.peer ∧
    Transfers net.right.peer net.left.peer := by
  have played : (do
      let left₁ ← silentServices.left.play sendingServiceStep .empty
      let right₁ ← silentServices.right.play announcedServiceStep (.octet [])
      let right₂ ← right₁.play strayServiceStep (.octet [])
      let right₃ ← right₂.play segmentServiceStep (.octet [104])
      let right₄ ← right₃.play endedServiceStep .whole
      let left₂ ← left₁.play completedServiceStep .empty
      some (decide (left₂.peer.completed = [{ sourceEntityId := 2, transactionSequenceNumber := 0 }]))) =
        some true := by
    decide +kernel
  simp only [Option.bind_eq_bind, Option.bind_eq_some_iff, Option.some.injEq, decide_eq_true_eq] at played
  obtain ⟨left₁, sent, right₁, announced, right₂, stray, right₃, filed, right₄, ended, left₂, finished, complete⟩ :=
    played
  obtain ⟨sent, disk₁, source₁⟩ := Node.turn_of_play sent (.step rfl (.step rfl .done))
    (by simp [sendingServiceStep, entityCallbacks, silentServices, Peer.fresh, Source.answers, Bytes.slice])
    (by simp [silentServices, Peer.fresh])
  obtain ⟨announced, disk₂, source₂⟩ := Node.turn_of_play announced (.step rfl .done)
    (by simp [announcedServiceStep, entityCallbacks, Source.answers])
    (by simp [announcedServiceStep, ServiceStep.puts])
  obtain ⟨stray, disk₃, source₃⟩ := Node.turn_of_play stray
    (by rw [disk₂]; exact .done)
    (by simp [strayServiceStep, entityCallbacks])
    (by simp [strayServiceStep, ServiceStep.puts])
  obtain ⟨filed, disk₄, source₄⟩ := Node.turn_of_play filed
    (by rw [disk₃]; exact .step ⟨_, rfl, rfl, rfl, rfl⟩ .done)
    (by simp [segmentServiceStep, entityCallbacks, Source.answers])
    (by simp [segmentServiceStep, ServiceStep.puts])
  obtain ⟨ended, disk₅, source₅⟩ := Node.turn_of_play ended
    (by rw [disk₄]; exact .step rfl (.step rfl (.step ⟨_, rfl, rfl, rfl⟩ .done)))
    (by simp [endedServiceStep, entityCallbacks, Source.answers, source₄, source₃, source₂, silentServices, Peer.fresh])
    (by simp [endedServiceStep, ServiceStep.puts])
  obtain ⟨finished, _, _⟩ := Node.turn_of_play finished
    (by rw [disk₁]; exact .step rfl (.step rfl .done))
    (by simp [completedServiceStep, entityCallbacks, Source.answers])
    (by simp [completedServiceStep, ServiceStep.puts])
  have stays : strayServiceStep.heard = none := by decide +kernel
  have hears : ∀ step : ServiceStep, ∀ octets, step.call = .dispatch octets → ∀ message, step.heard = some message →
      message = octets := by
    intro step octets call message heard
    simp only [ServiceStep.heard, call, Option.ite_none_right_eq_some, Option.some.injEq] at heard
    exact heard.2.symm
  have run : Run (Network.Step Node.Turn ServiceStep.heard ServiceStep.said) silentServices
      [sendingServiceStep, announcedServiceStep, strayServiceStep, segmentServiceStep, endedServiceStep,
        completedServiceStep] _ :=
    .step (.left sent (by simp [sendingServiceStep, ServiceStep.heard]))
      (.step (.right announced (by
          intro message heard
          rw [hears _ _ rfl message heard]
          simp [sendingServiceStep, ServiceStep.said, sentPackets]))
        (.step (.right stray (by simp [stays]))
          (.step (.right filed (by
              intro message heard
              rw [hears _ _ rfl message heard]
              simp [sendingServiceStep, ServiceStep.said, sentPackets]))
            (.step (.right ended (by
                intro message heard
                rw [hears _ _ rfl message heard]
                simp [sendingServiceStep, ServiceStep.said, sentPackets]))
              (.step (.left finished (by
                  intro message heard
                  rw [hears _ _ rfl message heard]
                  simp [endedServiceStep, ServiceStep.said, sentPackets])) .done)))))
  exact ⟨_, run, complete, disk₅,
    services_transfer ⟨⟨_, _, leftService_setUp, rfl, rfl⟩, rfl, rfl, rfl⟩
      ⟨⟨_, _, rightService_setUp, rfl, rfl⟩, rfl, rfl, rfl⟩ rfl rfl run⟩

end Sample

end ZephyrCcsds.Cfdp
