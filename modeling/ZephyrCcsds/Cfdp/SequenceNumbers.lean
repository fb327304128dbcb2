import ZephyrCcsds.Cfdp.Frames

/-! # Transaction sequence numbers

Every call of the API in any order, with any calls during callbacks.  The numbers that the entity gives to its own
transactions count up from the initial one and wrap at the width of the header field.

* `advance_next` — one step of the counter.
* `Counts` — what the allocations of a trace are, and where they leave the counter.
* `counts_of_nested` — every call moves along it, whatever its callbacks do.
-/

namespace ZephyrCcsds.Cfdp

open Callback Callback.Prog

variable [Kconfig] [ZephyrCrc]

/-! ## The calls -/

/-- `ccsds_cfdp_entity_match_or_create_receiver_transaction` -/
def matchOrCreateReceiverTransaction (pdu : Bytes) : EntityM Status :=
  match decodeHeader pdu with
  | .error status => pure status
  | .ok (header, _) => do
    let entity ← Prog.read
    if header.destinationEntityId ≠ entity.localEntityId ∨ header.sourceEntityId ≠ entity.remoteEntityId ∨
        header.entityIdLen ≠ entity.entityIdLen ∨
        header.transactionSequenceNumberLen ≠ entity.transactionSequenceNumberLen ∨
        header.direction ≠ .towardReceiver then pure .unsupported
    else if entity.receiver.active then
      if entity.receiver.id ≠ transactionIdFromHeader header then pure .transactionBusy
      else pure .ok
    else
      updateReceiver fun receiver =>
        { receiver with
          active := true
          id := transactionIdFromHeader header
          peerEntityId := header.sourceEntityId }
      pure .ok

/-- The functions of `ccsds_cfdp_entity.h` on an initialised entity -/
inductive ApiCall where
  | createSenderTransaction
  | sendFile (fs : FilestoreOps) (request : PutRequest)
  | receivePdu (filestore : Option FilestoreOps) (pdu : Bytes)
  | poll (now : UInt64)
  | matchOrCreateReceiverTransaction (pdu : Bytes)
  | releaseSenderTransaction
  | releaseReceiverTransaction
  deriving DecidableEq, Repr

/-- A call with its status and the id of the transaction that it has created for the sender -/
def ApiCall.body : ApiCall → EntityM (Status × Option TransactionId)
  | .createSenderTransaction => do
    match ← Cfdp.createSenderTransaction with
    | .error status => pure (status, none)
    | .ok allocated => pure (.ok, some allocated)
  | .sendFile fs request => Cfdp.sendFile fs request
  | .receivePdu filestore pdu => do
    let status ← Cfdp.receivePdu filestore pdu
    pure (status, none)
  | .poll now => do
    Cfdp.poll now
    pure (.ok, none)
  | .matchOrCreateReceiverTransaction pdu => do
    let status ← Cfdp.matchOrCreateReceiverTransaction pdu
    pure (status, none)
  | .releaseSenderTransaction => do
    Cfdp.releaseSenderTransaction
    pure (.ok, none)
  | .releaseReceiverTransaction => do
    Cfdp.releaseReceiverTransaction
    pure (.ok, none)

/-- The API, with any call allowed during any callback -/
def api : Service Op Res Entity ApiCall (Status × Option TransactionId) where
  body := ApiCall.body
  visitable _ _ := True

/-- Only a send may re-enter the entity, and only through `receive_pdu`. -/
def ApiVisitable : Op → ApiCall → Prop
  | .sendPdu .., .receivePdu .. => True
  | _, _ => False

def reentrant : Service Op Res Entity ApiCall (Status × Option TransactionId) where
  body := ApiCall.body
  visitable := ApiVisitable

/-! ## Allocations -/

/-- `send_file` gets as far as a new transaction, if the sender is free. -/
def sendFileAccepts (fs : FilestoreOps) (request : PutRequest) : Bool :=
  (pathLenIsValid request.sourcePath).isSome && (pathLenIsValid request.destinationPath).isSome &&
    filestoreIsValid (some fs) && (checksumInit request.checksumType).toBool

/-- The sequence number that a call gives away -/
def ApiCall.allocation (entity : Entity) : ApiCall → Option Nat
  | .createSenderTransaction => if entity.sender.active then none else some entity.nextTransactionSequenceNumber
  | .sendFile fs request =>
    if sendFileAccepts fs request && !entity.sender.active then some entity.nextTransactionSequenceNumber else none
  | _ => none

/-- The sequence numbers that the calls in a trace give away -/
def allocations (t : List (Item Op Res Entity ApiCall)) : List Nat :=
  t.filterMap fun item =>
    match item with
    | .enter entity call => call.allocation entity
    | .back .. => none

/-! ## The counter -/

/-- How many numbers the header field has room for -/
def Entity.sequenceModulus (entity : Entity) : Nat := 2 ^ (8 * entity.transactionSequenceNumberLen)

/-- The counter fits into the header field. -/
structure Entity.Counting (entity : Entity) : Prop where
  width : entity.transactionSequenceNumberLen ≤ 8
  next : entity.nextTransactionSequenceNumber < entity.sequenceModulus

omit [Kconfig] [ZephyrCrc] in
/-- One step of the counter: the sentinel of the longest field stands for the wrap of the counter itself. -/
theorem advance_next {entity : Entity} (counting : entity.Counting) :
    (advanceTransactionSequenceNumber entity).nextTransactionSequenceNumber =
      (entity.nextTransactionSequenceNumber + 1) % entity.sequenceModulus := by
  have width := counting.width
  unfold advanceTransactionSequenceNumber transactionSequenceLimit Entity.sequenceModulus
  by_cases longest : maxEncodedIntLen ≤ entity.transactionSequenceNumberLen
  · have eight : entity.transactionSequenceNumberLen = 8 := Nat.le_antisymm width longest
    simp [eight, maxEncodedIntLen]
  · have shorter : entity.transactionSequenceNumberLen ≤ 7 := by
      unfold maxEncodedIntLen at longest
      omega
    have small : 2 ^ (8 * entity.transactionSequenceNumberLen) ≤ 2 ^ 56 := Nat.pow_le_pow_right (by decide) (by omega)
    have below : entity.nextTransactionSequenceNumber < 2 ^ (8 * entity.transactionSequenceNumberLen) := counting.next
    rw [if_neg longest, Nat.mul_comm entity.transactionSequenceNumberLen]
    generalize 2 ^ (8 * entity.transactionSequenceNumberLen) = modulus at small below ⊢
    have unwrapped : (entity.nextTransactionSequenceNumber + 1) % 2 ^ 64 = entity.nextTransactionSequenceNumber + 1 :=
      Nat.mod_eq_of_lt (by omega)
    rw [if_neg (by omega), unwrapped]

/-- Numbers that count up and wrap -/
def numbersFrom (modulus start count : Nat) : List Nat := (List.range count).map fun k => (start + k) % modulus

omit [Kconfig] [ZephyrCrc] in
theorem numbersFrom_add (modulus start count count' : Nat) : numbersFrom modulus start (count + count') =
    numbersFrom modulus start count ++ numbersFrom modulus ((start + count) % modulus) count' := by
  unfold numbersFrom
  rw [List.range_add, List.map_append, List.map_map]
  congr 1
  apply List.map_congr_left
  intro k _
  show (start + (count + k)) % modulus = _
  rw [Nat.mod_add_mod, Nat.add_assoc]

/-- The allocations of a trace count up from the counter, and leave it behind them. -/
structure Counts (entity : Entity) (t : List (Item Op Res Entity ApiCall)) (entity' : Entity) : Prop where
  width : entity'.transactionSequenceNumberLen = entity.transactionSequenceNumberLen
  next : entity.Counting → entity'.nextTransactionSequenceNumber =
    (entity.nextTransactionSequenceNumber + (allocations t).length) % entity.sequenceModulus
  numbers : entity.Counting → allocations t =
    numbersFrom entity.sequenceModulus entity.nextTransactionSequenceNumber (allocations t).length

section Counts

omit [ZephyrCrc]

variable {entity entity₁ entity' : Entity} {t u : List (Item Op Res Entity ApiCall)}

theorem allocations_append (t u : List (Item Op Res Entity ApiCall)) :
    allocations (t ++ u) = allocations t ++ allocations u := List.filterMap_append ..

omit [Kconfig] in
theorem Entity.sequenceModulus_pos (entity : Entity) : 0 < entity.sequenceModulus := Nat.two_pow_pos _

/-- What leaves the counter alone -/
theorem counts_unchanged (none : allocations t = [])
    (width : entity'.transactionSequenceNumberLen = entity.transactionSequenceNumberLen)
    (next : entity'.nextTransactionSequenceNumber = entity.nextTransactionSequenceNumber) : Counts entity t entity' where
  width := width
  next counting := by rw [none, next, List.length_nil, Nat.add_zero, Nat.mod_eq_of_lt counting.next]
  numbers _ := by
    rw [none]
    rfl

theorem Counts.counting (counts : Counts entity t entity') (counting : entity.Counting) :
    entity'.sequenceModulus = entity.sequenceModulus ∧ entity'.Counting := by
  have same : entity'.sequenceModulus = entity.sequenceModulus := by rw [Entity.sequenceModulus, counts.width]; rfl
  refine ⟨same, counts.width.le.trans counting.width, ?_⟩
  rw [same, counts.next counting]
  exact Nat.mod_lt _ entity.sequenceModulus_pos

theorem Counts.trans (first : Counts entity t entity₁) (second : Counts entity₁ u entity') :
    Counts entity (t ++ u) entity' where
  width := second.width.trans first.width
  next counting := by
    obtain ⟨same, counting'⟩ := first.counting counting
    rw [second.next counting', same, first.next counting, allocations_append, List.length_append, Nat.mod_add_mod,
      Nat.add_assoc]
  numbers counting := by
    obtain ⟨same, counting'⟩ := first.counting counting
    have front := first.numbers counting
    have back := second.numbers counting'
    rw [same, first.next counting] at back
    rw [allocations_append, List.length_append, @numbersFrom_add, ← front, ← back]

instance : Composes (Counts : Entity → List (Item Op Res Entity ApiCall) → Entity → Prop) where
  refl _ := counts_unchanged rfl rfl rfl
  trans := Counts.trans

theorem counts_back (entity : Entity) (op : Op) (result : Res op) : Counts entity [.back entity op result] entity :=
  counts_unchanged rfl rfl rfl

/-- A call that gives no number away -/
theorem Counts.enter {call : ApiCall} (none : call.allocation entity = none) (counts : Counts entity t entity') :
    Counts entity (.enter entity call :: t) entity' := by
  have same : allocations (.enter entity call :: t) = allocations t := by
    rw [allocations, List.filterMap_cons]
    simp only [none]
    rfl
  refine ⟨counts.width, ?_, ?_⟩
  · rw [same]
    exact counts.next
  · rw [same]
    exact counts.numbers

/-- A call that gives the next number away and counts on -/
theorem Counts.allocate {call : ApiCall} (number : call.allocation entity = some entity.nextTransactionSequenceNumber)
    (width : entity₁.transactionSequenceNumberLen = entity.transactionSequenceNumberLen)
    (advanced : entity₁.nextTransactionSequenceNumber =
      (advanceTransactionSequenceNumber entity).nextTransactionSequenceNumber)
    (counts : Counts entity₁ t entity') : Counts entity (.enter entity call :: t) entity' := by
  have one : Counts entity [.enter entity call] entity₁ := by
    have single : allocations [.enter entity call] = [entity.nextTransactionSequenceNumber] := by
      rw [allocations, List.filterMap_cons]
      simp only [number]
      rfl
    refine ⟨width, ?_, ?_⟩
    · intro counting
      rw [single, advanced, advance_next counting]
      rfl
    · intro counting
      rw [single]
      show _ = [_ % _]
      rw [Nat.add_zero, Nat.mod_eq_of_lt counting.next]
  exact one.trans counts

theorem counts_receiverFree : ReceiverFree Counts where
  receiver _ _ := counts_unchanged rfl rfl rfl
  buf _ _ := counts_unchanged rfl rfl rfl

theorem counts_senderSlotFree : SenderSlotFree Counts where
  sender _ _ := counts_unchanged rfl rfl rfl
  buf _ _ := counts_unchanged rfl rfl rfl
  completion _ _ _ := counts_unchanged rfl rfl rfl

end Counts

/-! ## The calls count -/

omit [ZephyrCrc] in
theorem matchOrCreateReceiverTransaction_along {τ : Type} {E : Environment Op Res Entity τ}
    {R : Entity → List τ → Entity → Prop} [Composes R] (free : ReceiverFree R) (pdu : Bytes) :
    (matchOrCreateReceiverTransaction pdu).Along E R := by
  unfold matchOrCreateReceiverTransaction
  cases decodeHeader pdu with
  | error status => exact along_pure
  | ok decoded =>
    apply along_bind along_read
    intro entity
    apply along_ite along_pure
    apply along_ite (along_ite along_pure along_pure)
    exact along_bind (updateReceiver_along free _) fun _ => along_pure

section Calls

variable {E : Environment Op Res Entity (Item Op Res Entity ApiCall)} (env : EnvironmentAlong E Counts)
  (entity : Entity)

/-- What a call gives away, and where it leaves the counter -/
def ApiCall.Handled (call : ApiCall) (entity : Entity) (t : List (Item Op Res Entity ApiCall))
    (result : Status × Option TransactionId) (entity' : Entity) : Prop :=
  result.2.map (·.transactionSequenceNumber) = call.allocation entity ∧
    Counts entity (.enter entity call :: t) entity'

/-- A transaction that has been created: the number, and the counter behind it -/
structure Created (entity : Entity) (id : TransactionId) (entity' : Entity) : Prop where
  number : id.transactionSequenceNumber = entity.nextTransactionSequenceNumber
  width : entity'.transactionSequenceNumberLen = entity.transactionSequenceNumberLen
  next : entity'.nextTransactionSequenceNumber =
    (advanceTransactionSequenceNumber entity).nextTransactionSequenceNumber

omit [Kconfig] [ZephyrCrc] in
theorem advance_width (entity : Entity) :
    (advanceTransactionSequenceNumber entity).transactionSequenceNumberLen = entity.transactionSequenceNumberLen := by
  unfold advanceTransactionSequenceNumber
  dsimp only
  split <;> rfl

omit [Kconfig] [ZephyrCrc] in
theorem createSenderTransaction_spec : createSenderTransaction.wp E
    (fun t result entity' => t = [] ∧
      ((entity.sender.active = true ∧ result = .error .transactionBusy ∧ entity' = entity) ∨
        (entity.sender.active = false ∧ ∃ id, result = .ok id ∧ Created entity id entity'))) entity := by
  simp only [createSenderTransaction, wp_bind, wp_read, wp_ite, updateSender, wp_modify, wp_pure, List.append_nil]
  constructor
  · intro active
    exact ⟨trivial, .inl ⟨active, trivial, trivial⟩⟩
  · intro inactive
    have free : entity.sender.active = false := by simpa using inactive
    exact ⟨trivial, .inr ⟨free, _, rfl, rfl, advance_width entity, rfl⟩⟩

omit [ZephyrCrc] in
/-- A call that returns before it creates a transaction -/
theorem ApiCall.Handled.refused {call : ApiCall} {entity : Entity} {status : Status}
    (none : call.allocation entity = none) : call.Handled entity [] (status, Option.none) entity :=
  ⟨none.symm, Counts.enter none (counts_unchanged rfl rfl rfl)⟩

include env

theorem sendFile_counts (fs : FilestoreOps) (request : PutRequest) :
    (sendFile fs request).wp E ((ApiCall.sendFile fs request).Handled entity) entity := by
  have refused : ∀ status, sendFileAccepts fs request = false →
      (pure (status, none) : EntityM (Status × Option TransactionId)).wp E
        ((ApiCall.sendFile fs request).Handled entity) entity := by
    intro status rejected
    exact .refused (by simp [ApiCall.allocation, rejected])
  unfold sendFile
  cases source : request.sourcePath with
  | none => exact refused _ (by simp [sendFileAccepts, source, pathLenIsValid])
  | some sourcePath =>
    cases destination : request.destinationPath with
    | none => exact refused _ (by simp [sendFileAccepts, destination, pathLenIsValid])
    | some destinationPath =>
      dsimp only
      cases sourceValid : pathLenIsValid (some sourcePath) with
      | none => exact refused _ (by simp [sendFileAccepts, source, sourceValid])
      | some sourceLen =>
        cases destinationValid : pathLenIsValid (some destinationPath) with
        | none => exact refused _ (by simp [sendFileAccepts, destination, destinationValid])
        | some destinationLen =>
          dsimp only
          by_cases filestore : filestoreIsValid (some fs) = true
          · rw [if_neg (by simp [filestore])]
            cases checksum : checksumInit request.checksumType with
            | error status =>
              exact refused _ (by simp [sendFileAccepts, checksum, Except.toBool])
            | ok checksumState =>
              have accepts : sendFileAccepts fs request = true := by
                simp [sendFileAccepts, source, destination, sourceValid, destinationValid, filestore, checksum,
                  Except.toBool]
              dsimp only
              rw [wp_bind]
              apply wp_mono (createSenderTransaction_spec entity)
              intro t result entity₁ outcome
              obtain ⟨rfl, busy | allocated⟩ := outcome
              · obtain ⟨active, rfl, rfl⟩ := busy
                exact .refused (by simp [ApiCall.allocation, active])
              · obtain ⟨free, id, rfl, created⟩ := allocated
                have number : (ApiCall.sendFile fs request).allocation entity =
                    some entity.nextTransactionSequenceNumber := by
                  simp [ApiCall.allocation, accepts, free]
                -- From here on the counter stays where it is.
                simp only [wp_bind, wp_modify, updateSender, List.nil_append]
                apply wp_mono (sendFileOpen_along counts_senderSlotFree env fs request _ _ _ _ _)
                intro t status entity' counts
                rw [wp_pure, List.append_nil]
                refine ⟨?_, Counts.allocate number ?_ ?_ counts⟩
                · rw [Option.map_some, created.number, number]
                · exact created.width
                · exact created.next
          · rw [if_pos (by simpa using filestore)]
            exact refused _ (by simp [sendFileAccepts, filestore])

theorem call_counts (call : ApiCall) : call.body.wp E (call.Handled entity) entity := by
  cases call with
  | createSenderTransaction =>
    simp only [ApiCall.body, wp_bind]
    apply wp_mono (createSenderTransaction_spec entity)
    intro t result entity₁ outcome
    obtain ⟨rfl, busy | allocated⟩ := outcome
    · obtain ⟨active, rfl, rfl⟩ := busy
      exact .refused (by simp [ApiCall.allocation, active])
    · obtain ⟨free, id, rfl, created⟩ := allocated
      have number : ApiCall.createSenderTransaction.allocation entity = some entity.nextTransactionSequenceNumber := by
        simp [ApiCall.allocation, free]
      refine ⟨?_, Counts.allocate number created.width created.next (counts_unchanged rfl rfl rfl)⟩
      rw [Option.map_some, created.number, number]
  | sendFile fs request => exact sendFile_counts env entity fs request
  | receivePdu filestore pdu =>
    simp only [ApiCall.body, wp_bind, wp_pure, List.append_nil]
    apply wp_mono (receivePdu_free counts_senderSlotFree counts_receiverFree env filestore pdu entity)
    intro t _ entity' counts
    exact ⟨rfl, counts.enter rfl⟩
  | poll now =>
    simp only [ApiCall.body, wp_bind, wp_pure, List.append_nil]
    apply wp_mono (poll_free counts_senderSlotFree.tolerant counts_receiverFree env now entity)
    intro t _ entity' counts
    exact ⟨rfl, counts.enter rfl⟩
  | matchOrCreateReceiverTransaction pdu =>
    simp only [ApiCall.body, wp_bind, wp_pure, List.append_nil]
    apply wp_mono (matchOrCreateReceiverTransaction_along counts_receiverFree pdu entity)
    intro t _ entity' counts
    exact ⟨rfl, counts.enter rfl⟩
  | releaseSenderTransaction =>
    simp only [ApiCall.body, wp_bind, wp_pure, List.append_nil]
    apply wp_mono (along_bind (closeSenderHandle_along counts_senderSlotFree.tolerant env) (fun _ =>
      updateSender_along counts_senderSlotFree _) entity)
    intro t _ entity' counts
    exact ⟨rfl, counts.enter rfl⟩
  | releaseReceiverTransaction =>
    simp only [ApiCall.body, wp_bind, wp_pure, List.append_nil]
    apply wp_mono (updateReceiver_along counts_receiverFree _ entity)
    intro t _ entity' counts
    exact ⟨rfl, counts.enter rfl⟩

end Calls

/-- Every call of the API counts, with calls during its callbacks as deep as may be. -/
theorem handled_of_nested {guard : Guard Op Res Entity ApiCall} {call : ApiCall} {entity entity' : Entity}
    {t : List (Item Op Res Entity ApiCall)} {result : Status × Option TransactionId}
    (run : api.RunsNested guard call entity t result entity') : call.Handled entity t result entity' := by
  apply Service.runsNested_spec (fun call entity => ?_) run
  apply call_counts
  exact Service.return_along counts_back (fun _ call entity t _ entity' _ handled => handled.2) call

/-- What the calls of a run give away, from an entity that has just been initialised -/
theorem counts_of_visits {guard : Guard Op Res Entity ApiCall} {entity entity' : Entity}
    {t : List (Item Op Res Entity ApiCall)}
    (visits : Visits (fun _ => True) (api.RunsNested guard) entity t entity') : Counts entity t entity' :=
  Service.visits_along (R := Counts) (fun _ _ _ _ _ _ run => (handled_of_nested run).2) visits

omit [Kconfig] [ZephyrCrc] in
theorem valueFitsLen_iff {value len : Nat} (width : len ≤ 8) (bound : value < 2 ^ 64) :
    valueFitsLen value len = true ↔ value < 2 ^ (8 * len) := by
  have turns : value / 2 ^ (len * 8) = 0 ↔ value < 2 ^ (8 * len) := by
    rw [Nat.div_eq_zero_iff_lt (Nat.two_pow_pos _), Nat.mul_comm]
  rw [valueFitsLen, Bool.or_eq_true, decide_eq_true_iff, decide_eq_true_iff, turns]
  constructor
  · intro fits
    rcases fits with longest | below
    · have eight : len = 8 := Nat.le_antisymm width longest
      rwa [eight]
    · exact below
  · exact .inr

omit [ZephyrCrc] in
theorem counting_of_init {config : EntityConfig} {ut : UtOps} {entity : Entity}
    (init : entityInit config ut = .ok entity) :
    entity.Counting ∧ entity.transactionSequenceNumberLen = config.transactionSequenceNumberLen := by
  unfold entityInit at init
  split at init
  · cases init
  · rename_i accepted
    cases init
    simp only [Bool.or_eq_true, Bool.not_eq_true', not_or, Bool.not_eq_false] at accepted
    obtain ⟨⟨⟨⟨⟨-, sequenceLen⟩, -⟩, -⟩, initial⟩, -⟩ := accepted
    simp only [encodedIntLenIsValid, Bool.and_eq_true, decide_eq_true_iff] at sequenceLen
    refine ⟨⟨sequenceLen.2, ?_⟩, rfl⟩
    exact (valueFitsLen_iff sequenceLen.2 config.initialTransactionSequenceNumber.toNat_lt).mp initial

omit [Kconfig] [ZephyrCrc] in
theorem numbersFrom_getElem? {modulus start count k : Nat} (inside : k < count) :
    (numbersFrom modulus start count)[k]? = some ((start + k) % modulus) := by
  rw [numbersFrom, List.getElem?_map, List.getElem?_range inside]
  rfl

omit [Kconfig] [ZephyrCrc] in
/-- Numbers that are less than a turn apart differ. -/
theorem numbersFrom_distinct {modulus start count k k' : Nat} (inside : k' < count) (before : k < k')
    (close : k' < k + modulus) : (numbersFrom modulus start count)[k]? ≠ (numbersFrom modulus start count)[k']? := by
  rw [numbersFrom_getElem? (by omega), numbersFrom_getElem? inside]
  intro same
  have turns := Nat.sub_mod_eq_zero_of_mod_eq (Option.some.inj same).symm
  have apart : start + k' - (start + k) = k' - k := by omega
  rw [apart, Nat.mod_eq_of_lt (by omega)] at turns
  omega

/-- The sequence numbers of an entity, in every run of its API with any calls during callbacks: they fit the header
field, numbers that are less than a turn of the field apart differ, and they are what the calls return. -/
theorem sequence_numbers_distinct (config : EntityConfig) (ut : UtOps) (guard : Guard Op Res Entity ApiCall) :
    (∀ entity entity' t, entityInit config ut = .ok entity →
      Visits (fun _ => True) (api.RunsNested guard) entity t entity' →
        (∀ number ∈ allocations t, number < 2 ^ (8 * config.transactionSequenceNumberLen) ∧
          valueFitsLen number config.transactionSequenceNumberLen = true) ∧
        ∀ k k', k < k' → k' < (allocations t).length → k' < k + 2 ^ (8 * config.transactionSequenceNumberLen) →
          (allocations t)[k]? ≠ (allocations t)[k']?) ∧
    ∀ call entity t result entity', api.RunsNested guard call entity t result entity' →
      result.2.map (·.transactionSequenceNumber) = call.allocation entity := by
  refine ⟨?_, fun call entity t result entity' run => (handled_of_nested run).1⟩
  intro entity entity' t init visits
  obtain ⟨counting, width⟩ := counting_of_init init
  have numbers := (counts_of_visits visits).numbers counting
  have modulus : entity.sequenceModulus = 2 ^ (8 * config.transactionSequenceNumberLen) := by
    rw [Entity.sequenceModulus, width]
  have narrow : config.transactionSequenceNumberLen ≤ 8 := width ▸ counting.width
  rw [modulus] at numbers
  constructor
  · intro number given
    rw [numbers, numbersFrom, List.mem_map] at given
    obtain ⟨k, -, rfl⟩ := given
    have below : (entity.nextTransactionSequenceNumber + k) % 2 ^ (8 * config.transactionSequenceNumberLen) <
        2 ^ (8 * config.transactionSequenceNumberLen) := Nat.mod_lt _ (Nat.two_pow_pos _)
    have bound : 2 ^ (8 * config.transactionSequenceNumberLen) ≤ 2 ^ 64 :=
      Nat.pow_le_pow_right (by decide) (by omega)
    exact ⟨below, (valueFitsLen_iff narrow (below.trans_le bound)).mpr below⟩
  · intro k k' before inside close
    rw [numbers]
    exact numbersFrom_distinct inside before close

end ZephyrCcsds.Cfdp
