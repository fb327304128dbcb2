import ZephyrCcsds.Sdls.Lifecycle

/-! # The PSA key store

What a trace of PSA calls does to the key store when an import returns a fresh identifier and
attribute queries and destructions of live keys succeed; imports may fail.  Of the calls of
SDLS only OTAR's change the store: `processOtar_store` says how.
-/

namespace ZephyrCcsds.Sdls

open Callback

/-! ## The store -/

/-- A live key; `imported` marks those that OTAR has created. -/
structure KeyObject where
  attributes : PsaKeyAttributes
  imported : Bool
  deriving DecidableEq, Repr

abbrev KeyStore : Type := PsaKeyId → Option KeyObject

def KeyStore.add (store : KeyStore) (keyId : PsaKeyId) (attributes : PsaKeyAttributes) : KeyStore :=
  Function.update store keyId (some { attributes, imported := true })

def KeyStore.remove (store : KeyStore) (keyId : PsaKeyId) : KeyStore := Function.update store keyId none

theorem KeyStore.remove_same (store : KeyStore) (keyId : PsaKeyId) : store.remove keyId keyId = none :=
  Function.update_self ..

theorem KeyStore.remove_other (store : KeyStore) {keyId i : PsaKeyId} (other : i ≠ keyId) :
    store.remove keyId i = store i := Function.update_of_ne other ..

/-- The keys of a list have been imported. -/
structure Imported (store : KeyStore) (keyIds : List PsaKeyId) (store' : KeyStore) : Prop where
  nodup : keyIds.Nodup
  fresh : ∀ keyId ∈ keyIds, keyId ≠ psaKeyIdNull ∧ store keyId = none
  added : ∀ keyId ∈ keyIds, store' keyId = some { attributes := otarKeyAttributes, imported := true }
  kept : ∀ keyId, keyId ∉ keyIds → store' keyId = store keyId

/-- The keys that meet a condition have been destroyed. -/
structure Destroyed (store : KeyStore) (doomed : PsaKeyId → Prop) (store' : KeyStore) : Prop where
  gone : ∀ keyId, doomed keyId → store' keyId = none
  kept : ∀ keyId, ¬doomed keyId → store' keyId = store keyId

theorem imported_nil (store : KeyStore) : Imported store [] store :=
  ⟨List.nodup_nil, by simp, by simp, fun _ _ => rfl⟩

theorem Imported.cons {store store' : KeyStore} {keyId : PsaKeyId} {keyIds : List PsaKeyId}
    (present : keyId ≠ psaKeyIdNull) (absent : store keyId = none)
    (rest : Imported (store.add keyId otarKeyAttributes) keyIds store') :
    Imported store (keyId :: keyIds) store' := by
  have here : store.add keyId otarKeyAttributes keyId =
      some { attributes := otarKeyAttributes, imported := true } := Function.update_self ..
  have elsewhere : ∀ i, i ≠ keyId → store.add keyId otarKeyAttributes i = store i :=
    fun i other => Function.update_of_ne other ..
  -- A live identifier is not imported again.
  have once : keyId ∉ keyIds := by
    intro again
    rw [(rest.fresh keyId again).2] at here
    cases here
  refine ⟨List.nodup_cons.mpr ⟨once, rest.nodup⟩, ?_, ?_, ?_⟩
  · refine List.forall_mem_cons.mpr ⟨⟨present, absent⟩, fun i found => ⟨(rest.fresh i found).1, ?_⟩⟩
    rw [← elsewhere i fun same => once (same ▸ found)]
    exact (rest.fresh i found).2
  · refine List.forall_mem_cons.mpr ⟨?_, rest.added⟩
    rw [rest.kept keyId once, here]
  · intro i absent
    simp only [List.mem_cons, not_or] at absent
    rw [rest.kept i absent.2, elsewhere i absent.1]

/-- PSA holds a volatile key under the identifier. -/
def KeyStore.Volatile (store : KeyStore) (keyId : PsaKeyId) : Prop :=
  ∃ object, store keyId = some object ∧ object.attributes.lifetime = .volatile

/-- The condition of the list for its head and its tail -/
theorem Destroyed.cons {store middle store' : KeyStore} {first : PsaKeyId} {replaced : List PsaKeyId}
    (present : first ≠ psaKeyIdNull)
    (one : Destroyed store (fun other => other = first ∧ store.Volatile first) middle)
    (rest : Destroyed middle (fun keyId => keyId ∈ replaced ∧ keyId ≠ psaKeyIdNull ∧ middle.Volatile keyId)
      store') :
    Destroyed store (fun keyId => keyId ∈ first :: replaced ∧ keyId ≠ psaKeyIdNull ∧ store.Volatile keyId)
      store' := by
  have stays : ∀ keyId, middle keyId = none → store' keyId = none := by
    intro keyId absent
    rw [rest.kept keyId, absent]
    rintro ⟨_, _, object, held, _⟩
    rw [absent] at held
    cases held
  constructor
  · rintro keyId ⟨listed, known, isVolatile⟩
    by_cases same : keyId = first
    · subst same
      exact stays keyId (one.gone keyId ⟨rfl, isVolatile⟩)
    · have kept := one.kept keyId fun doomed => same doomed.1
      apply rest.gone keyId ⟨by simpa [same] using listed, known, ?_⟩
      rwa [KeyStore.Volatile, kept]
  · intro keyId spared
    have kept := one.kept keyId
      fun ⟨same, isVolatile⟩ => spared ⟨same ▸ List.mem_cons_self, same ▸ present, same ▸ isVolatile⟩
    rw [rest.kept keyId, kept]
    rintro ⟨listed, known, isVolatile⟩
    rw [KeyStore.Volatile, kept] at isVolatile
    exact spared ⟨List.mem_cons_of_mem _ listed, known, isVolatile⟩

variable [Kconfig]

/-! ## PSA calls on the store -/

/-- One PSA call -/
inductive PsaStep : KeyStore → Item → KeyStore → Prop where
  | imports {store : KeyStore} {ctx : Ctx} {attributes : PsaKeyAttributes} {data : Bytes} {keyId : PsaKeyId} :
      keyId ≠ psaKeyIdNull → store keyId = none →
      PsaStep store ⟨ctx, .importKey attributes data, (.success, keyId)⟩ (store.add keyId attributes)
  | importFailed {store : KeyStore} {ctx : Ctx} {attributes : PsaKeyAttributes} {data : Bytes}
      {status : PsaStatus} {keyId : PsaKeyId} : status ≠ .success →
      PsaStep store ⟨ctx, .importKey attributes data, (status, keyId)⟩ store
  | query {store : KeyStore} {ctx : Ctx} {keyId : PsaKeyId} {answer : PsaRes (.getKeyAttributes keyId)} :
      (∀ object, store keyId = some object → answer = (.success, object.attributes)) →
      PsaStep store ⟨ctx, .getKeyAttributes keyId, answer⟩ store
  | destroy {store : KeyStore} {ctx : Ctx} {keyId : PsaKeyId} {status : PsaStatus} :
      (store keyId ≠ none → status = .success) →
      PsaStep store ⟨ctx, .destroyKey keyId, status⟩ (store.remove keyId)
  | other {store : KeyStore} {item : Item} : item.op.KeepsKeys →
      (∀ keyId, item.op ≠ .getKeyAttributes keyId) → PsaStep store item store

/-- The PSA calls of a trace, in order -/
abbrev PsaRun : KeyStore → List Item → KeyStore → Prop := Run PsaStep

theorem PsaStep.keeps {store store' : KeyStore} {item : Item} (step : PsaStep store item store')
    (keeps : item.op.KeepsKeys) : store' = store := by
  cases step with
  | imports => cases keeps
  | destroy => cases keeps
  | importFailed => rfl
  | query => rfl
  | other => rfl

/-- A trace that creates and destroys no key -/
def KeepsStore (_ : State) (t : List Item) (_ : State) : Prop := ∀ item ∈ t, item.op.KeepsKeys

theorem psaRun_keeps {store store' : KeyStore} {t : List Item} (run : PsaRun store t store')
    (keeps : ∀ item ∈ t, item.op.KeepsKeys) : store' = store := by
  induction run with
  | done => rfl
  | step one _ ih =>
    obtain ⟨here, later⟩ := List.forall_mem_cons.mp keeps
    rw [ih later, one.keeps here]

instance : Composes (KeepsStore : State → List Item → State → Prop) where
  refl _ := fun _ absent => absurd absent List.not_mem_nil
  trans first second := fun item found =>
    (List.mem_append.mp found).elim (first item) (second item)

theorem Reads.keepsStore {s s' : State} {t : List Item} (read : Reads s t s') : KeepsStore s t s' := read.2

/-! ## Programs that keep the store -/

section Keeps

theorem keepsStore_single (s : State) {item : Item} (keeps : item.op.KeepsKeys) : KeepsStore s [item] s :=
  (@reads_single _ s item keeps).keepsStore

theorem keepsStore_nil (s s' : State) : KeepsStore s [] s' := fun _ absent => absurd absent List.not_mem_nil

theorem modify_keeps (f : State → State) :
    (Fallible.modify f : Recipient Unit).Along anyPsa KeepsStore :=
  Fallible.along_modify fun s => keepsStore_nil s (f s)

theorem of_reads {α : Type} {p : Recipient α} (reads : p.Along anyPsa Reads) : p.Along anyPsa KeepsStore :=
  fun s => Prog.wp_mono (reads s) fun _ _ _ read => read.keepsStore

theorem validateKey_reads (keyId : PsaKeyId) (usage : PsaKeyUsage) :
    (validateKey keyId usage).Along anyPsa Reads := by
  apply Fallible.along_of_wp
  intro s
  apply Fallible.wp_mono (validateKey_spec keyId usage s)
  · rintro t _ s' ⟨rfl, validated⟩
    exact validated.reads
  · exact fun t e s' read => read

theorem checkRecipients_keeps (permitted : KeyState → Bool) (usage : PsaKeyUsage) (keyIds seen : List Nat) :
    (checkRecipients permitted usage keyIds seen).Along anyPsa KeepsStore := by
  apply Fallible.along_of_wp
  intro s
  apply Fallible.wp_mono (checkRecipients_spec permitted usage keyIds seen s)
  · exact fun t slots s' checked => checked.1.1.keepsStore
  · exact fun t e s' read => read.keepsStore

theorem processLifecycle_keeps (procedure : Procedure) (encoded : Bytes) :
    (processLifecycle procedure encoded).Along anyPsa KeepsStore := by
  apply Fallible.along_bind Fallible.along_ofExcept
  intro keyIds
  apply Fallible.along_bind (checkRecipients_keeps _ _ _ _)
  exact fun slots => modify_keeps _

theorem processKeyVerification_keeps (encoded : Bytes) :
    (processKeyVerification encoded).Along anyPsa KeepsStore := by
  apply Fallible.along_bind Fallible.along_ofExcept
  intro entries
  apply Fallible.along_bind (checkRecipients_keeps _ _ _ _)
  intro slots
  apply Fallible.along_bind Fallible.along_read
  intro s
  apply Fallible.along_bind
  · apply Fallible.along_of_wp
    intro s₁
    apply Fallible.wp_mono (encryptChallenges_spec _ _ s₁)
    · exact fun t r s' read => read.1.keepsStore
    · exact fun t e s' read => read.keepsStore
  · exact fun response => Fallible.along_bind (modify_keeps _) fun _ => modify_keeps _

theorem processKeyInventory_keeps (encoded : Bytes) :
    (processKeyInventory encoded).Along anyPsa KeepsStore := by
  apply Fallible.along_bind Fallible.along_read
  intro s
  apply Fallible.along_bind Fallible.along_failIf
  intro _
  apply Fallible.along_bind Fallible.along_ofExcept
  intro command
  apply Fallible.along_bind Fallible.along_failIf
  intro _
  apply Fallible.along_bind (of_reads (inventoryScan_along _ _))
  intro entries
  apply Fallible.along_bind Fallible.along_ofExcept
  intro reply
  apply Fallible.along_bind Fallible.along_failIf
  intro _
  exact Fallible.along_bind (modify_keeps _) fun _ => Fallible.along_pure

theorem validateSaKey_keeps (slot : SaSlot) (keyId : Nat) (sessionOnly : Bool) :
    (validateSaKey slot keyId sessionOnly).Along anyPsa KeepsStore := by
  apply Fallible.along_bind Fallible.along_read
  intro s
  apply Fallible.along_ite Fallible.along_fail
  cases s.ctx.keyLookup keyId with
  | none => exact Fallible.along_fail
  | some key =>
    apply Fallible.along_bind Fallible.along_failIf
    intro _
    exact Fallible.along_bind (of_reads (validateKey_reads _ _)) fun _ => Fallible.along_failIf

theorem processStartSa_keeps (encoded : Bytes) : (processStartSa encoded).Along anyPsa KeepsStore := by
  apply Fallible.along_bind Fallible.along_ofExcept
  intro command
  apply Fallible.along_bind Fallible.along_read
  intro s
  apply Fallible.along_bind Fallible.along_ofExcept
  intro slot
  apply Fallible.along_bind Fallible.along_failIf
  intro _
  apply Fallible.along_ite
  · exact Fallible.along_bind Fallible.along_failIf fun _ => modify_keeps _
  · exact Fallible.along_bind (validateSaKey_keeps _ _ _) fun _ => modify_keeps _

theorem processSaTransition_keeps (procedure : Procedure) (source target : SaState) (encoded : Bytes) :
    (processSaTransition procedure source target encoded).Along anyPsa KeepsStore := by
  apply Fallible.along_bind Fallible.along_ofExcept
  intro spi
  apply Fallible.along_bind Fallible.along_read
  intro s
  apply Fallible.along_bind Fallible.along_ofExcept
  intro slot
  exact Fallible.along_bind Fallible.along_failIf fun _ => modify_keeps _

theorem processRekeySa_keeps (encoded : Bytes) : (processRekeySa encoded).Along anyPsa KeepsStore := by
  apply Fallible.along_bind Fallible.along_ofExcept
  intro command
  apply Fallible.along_bind Fallible.along_read
  intro s
  apply Fallible.along_bind Fallible.along_ofExcept
  intro slot
  apply Fallible.along_bind Fallible.along_failIf
  intro _
  apply Fallible.along_bind Fallible.along_failIf
  intro _
  apply Fallible.along_bind Fallible.along_failIf
  intro _
  exact Fallible.along_bind (validateSaKey_keeps _ _ _) fun _ => modify_keeps _

theorem processSetArsn_keeps (encoded : Bytes) : (processSetArsn encoded).Along anyPsa KeepsStore := by
  apply Fallible.along_bind Fallible.along_ofExcept
  intro command
  apply Fallible.along_bind Fallible.along_read
  intro s
  apply Fallible.along_bind Fallible.along_ofExcept
  intro slot
  exact Fallible.along_bind Fallible.along_failIf fun _ => modify_keeps _

theorem processSetArsnWindow_keeps (encoded : Bytes) :
    (processSetArsnWindow encoded).Along anyPsa KeepsStore := by
  apply Fallible.along_bind Fallible.along_ofExcept
  intro command
  apply Fallible.along_bind Fallible.along_failIf
  intro _
  apply Fallible.along_bind Fallible.along_read
  intro s
  exact Fallible.along_bind Fallible.along_ofExcept fun _ => modify_keeps _

/-- Read ARSN and SA Status: a reply from the SA that a lookup finds -/
theorem saReply_keeps {α : Type} (decoded : Except SdlsError α) (lookup : α → Ctx → Except SdlsError SaSlot)
    (reply : α → State → SaSlot → Bytes) :
    (do
      let spi ← Fallible.ofExcept decoded
      let s ← Fallible.read
      let slot ← Fallible.ofExcept (lookup spi s.ctx)
      Fallible.modify fun s₁ => s₁.write 0 (reply spi s slot)
      pure (reply spi s slot).length : Recipient Nat).Along anyPsa KeepsStore := by
  apply Fallible.along_bind Fallible.along_ofExcept
  intro spi
  apply Fallible.along_bind Fallible.along_read
  intro s
  apply Fallible.along_bind Fallible.along_ofExcept
  intro slot
  exact Fallible.along_bind (modify_keeps _) fun _ => Fallible.along_pure

theorem writeReply_keeps (reply : Bytes) : (writeReply reply).Along anyPsa KeepsStore :=
  Fallible.along_bind (modify_keeps _) fun _ => Fallible.along_pure

theorem selfTestResult_keeps : selfTestResult.Along anyPsa KeepsStore := by
  apply Fallible.along_bind Fallible.along_read
  intro s
  apply Fallible.along_ite
  · apply Fallible.along_bind
    · apply Fallible.along_of_wp
      intro s₁
      rw [wp_selfTestCallback]
      exact fun answer => keepsStore_single s₁ trivial
    · intro answer
      apply Fallible.along_ite Fallible.along_pure
      exact Fallible.along_bind Fallible.along_failIf fun _ => Fallible.along_pure
  · exact Fallible.along_pure

theorem processSelfTest_keeps (encoded : Bytes) : (processSelfTest encoded).Along anyPsa KeepsStore := by
  apply Fallible.along_bind Fallible.along_read
  intro s
  apply Fallible.along_bind Fallible.along_failIf
  intro _
  apply Fallible.along_bind selfTestResult_keeps
  intro result
  apply Fallible.along_bind (writeReply_keeps _)
  intro len
  apply Fallible.along_ite
  · exact Fallible.along_bind (modify_keeps _) fun _ => Fallible.along_pure
  · exact Fallible.along_pure

theorem processMonitoring_keeps (pdu : EpPdu) (encoded : Bytes) :
    (processMonitoring pdu encoded).Along anyPsa KeepsStore := by
  apply Fallible.along_bind Fallible.along_failIf
  intro _
  apply Fallible.along_bind Fallible.along_ofExcept
  intro _
  apply Fallible.along_bind Fallible.along_read
  intro s
  cases pdu.procedure with
  | ping => exact Fallible.along_bind Fallible.along_failIf fun _ => writeReply_keeps _
  | logStatus => exact Fallible.along_bind Fallible.along_failIf fun _ => writeReply_keeps _
  | dumpLog => exact Fallible.along_bind Fallible.along_ofExcept fun _ => writeReply_keeps _
  | eraseLog =>
    apply Fallible.along_bind Fallible.along_failIf
    exact fun _ => Fallible.along_bind (modify_keeps _) fun _ => writeReply_keeps _
  | selfTest => exact processSelfTest_keeps encoded
  | alarmFlagReset =>
    apply Fallible.along_bind
    · exact Fallible.along_bind Fallible.along_ofExcept fun _ => modify_keeps _
    · exact fun _ => Fallible.along_pure
  | _ => exact Fallible.along_fail

theorem silently_keeps {p : Recipient Unit} (keeps : p.Along anyPsa KeepsStore) :
    (silently p).Along anyPsa KeepsStore :=
  Fallible.along_bind keeps fun _ => Fallible.along_pure

/-- Every recipient but OTAR keeps the store. -/
theorem recipient_keeps {pdu : EpPdu} (other : pdu.procedure ≠ .otar) (encoded : Bytes) :
    (recipient pdu encoded).Along anyPsa KeepsStore := by
  unfold recipient
  split
  case h_1 named => exact absurd named other
  case h_2 => exact silently_keeps (processLifecycle_keeps _ _)
  case h_3 => exact silently_keeps (processLifecycle_keeps _ _)
  case h_4 => exact Fallible.along_bind (processKeyVerification_keeps _) fun _ => Fallible.along_pure
  case h_5 => exact processKeyInventory_keeps encoded
  case h_6 => exact silently_keeps (processStartSa_keeps encoded)
  case h_7 => exact silently_keeps (processSaTransition_keeps _ _ _ _)
  case h_8 => exact silently_keeps (processRekeySa_keeps encoded)
  case h_9 => exact silently_keeps (processSaTransition_keeps _ _ _ _)
  case h_10 => exact silently_keeps (processSetArsn_keeps encoded)
  case h_11 => exact silently_keeps (processSetArsnWindow_keeps encoded)
  case h_12 => exact saReply_keeps _ (fun spi ctx => ctx.mutableRxSa spi) _
  case h_13 => exact saReply_keeps _ (fun spi ctx => ctx.managedSa spi) _
  all_goals exact processMonitoring_keeps pdu encoded

end Keeps

/-! ## OTAR on the store -/

theorem PsaStep.of_import {store store' : KeyStore} {ctx : Ctx} {attributes : PsaKeyAttributes} {data : Bytes}
    {status : PsaStatus} {keyId : PsaKeyId}
    (step : PsaStep store ⟨ctx, .importKey attributes data, (status, keyId)⟩ store') :
    (status = .success ∧ keyId ≠ psaKeyIdNull ∧ store keyId = none ∧ store' = store.add keyId attributes) ∨
      (status ≠ .success ∧ store' = store) := by
  cases step with
  | imports present fresh => exact .inl ⟨rfl, present, fresh, rfl⟩
  | importFailed failed => exact .inr ⟨failed, rfl⟩
  | other keeps => exact keeps.elim

theorem PsaStep.of_destroy {store store' : KeyStore} {ctx : Ctx} {keyId : PsaKeyId} {status : PsaStatus}
    (step : PsaStep store ⟨ctx, .destroyKey keyId, status⟩ store') : store' = store.remove keyId := by
  cases step with
  | destroy => rfl
  | other keeps => exact keeps.elim

theorem PsaStep.of_query {store store' : KeyStore} {ctx : Ctx} {keyId : PsaKeyId}
    {answer : PsaRes (.getKeyAttributes keyId)}
    (step : PsaStep store ⟨ctx, .getKeyAttributes keyId, answer⟩ store') :
    store' = store ∧ ∀ object, store keyId = some object → answer = (.success, object.attributes) := by
  cases step with
  | query answered => exact ⟨rfl, answered⟩
  | other _ different => exact absurd rfl (different keyId)

theorem importKeys_store (blocks : List Bytes) (imported : List PsaKeyId) (s : State) :
    (importKeys blocks imported).wp anyPsa
      (fun t r s' => s' = s ∧ ∃ fresh, r.2 = imported ++ fresh ∧
        (r.1 = .success → fresh.length = blocks.length) ∧
          ∀ store store', PsaRun store t store' → Imported store fresh store')
      (fun _ _ _ => False) s := by
  induction blocks generalizing imported with
  | nil =>
    refine ⟨rfl, [], by simp, fun _ => rfl, fun store store' run => ?_⟩
    cases run
    exact imported_nil store
  | cons block blocks ih =>
    simp only [importKeys, Fallible.wp_bind, wp_psaImportKey]
    rintro ⟨status, keyId⟩
    rw [Fallible.wp_ite]
    refine ⟨fun refused => ?_, fun succeeded => ?_⟩
    · rw [Fallible.wp_pure]
      refine ⟨rfl, [], by simp, fun success => absurd success refused, fun store store' run => ?_⟩
      cases run with
      | step one rest =>
        cases rest
        rcases one.of_import with ⟨success, _⟩ | ⟨_, rfl⟩
        · exact absurd success refused
        · exact imported_nil _
    · simp only [not_not] at succeeded
      subst succeeded
      apply Fallible.wp_mono (ih (imported ++ [keyId]))
      · rintro t r s' ⟨same, fresh, listed, counted, stored⟩
        refine ⟨same, keyId :: fresh, by simp [listed], fun success => by simp [counted success], ?_⟩
        intro store store' run
        cases run with
        | step one rest =>
          rcases one.of_import with ⟨_, present, absent, rfl⟩ | ⟨failed, _⟩
          · exact .cons present absent (stored _ _ rest)
          · exact absurd rfl failed
      · exact fun _ _ _ impossible => impossible

theorem destroyImported_store (imported : List PsaKeyId) (s : State) :
    (destroyImported imported).wp anyPsa
      (fun t _ s' => s' = s ∧ ∀ store store', PsaRun store t store' →
        Destroyed store (fun keyId => keyId ∈ imported ∧ keyId ≠ psaKeyIdNull) store')
      (fun _ _ _ => False) s := by
  induction imported with
  | nil =>
    refine ⟨rfl, fun store store' run => ?_⟩
    cases run
    exact ⟨fun _ doomed => absurd doomed.1 List.not_mem_nil, fun _ _ => rfl⟩
  | cons first imported ih =>
    rw [destroyImported, Fallible.wp_ite]
    refine ⟨fun present => ?_, fun absent => ?_⟩
    · simp only [Fallible.wp_bind, wp_psaDestroyKey]
      intro status
      apply Fallible.wp_mono ih
      · rintro t _ s' ⟨same, stored⟩
        refine ⟨same, fun store store' run => ?_⟩
        cases run with
        | step one rest =>
          obtain rfl := one.of_destroy
          obtain ⟨gone, kept⟩ := stored _ _ rest
          constructor
          · rintro keyId ⟨listed, known⟩
            by_cases later : keyId ∈ imported
            · exact gone keyId ⟨later, known⟩
            · obtain rfl : keyId = first := by simpa [later] using listed
              rw [kept keyId fun doomed => later doomed.1, KeyStore.remove_same]
          · intro keyId spared
            have other : keyId ≠ first := fun same => spared ⟨same ▸ List.mem_cons_self, same ▸ present⟩
            rw [kept keyId fun doomed => spared ⟨List.mem_cons_of_mem _ doomed.1, doomed.2⟩,
              KeyStore.remove_other _ other]
      · exact fun _ _ _ impossible => impossible
    · apply Fallible.wp_mono ih
      · rintro t _ s' ⟨same, stored⟩
        refine ⟨same, fun store store' run => ?_⟩
        obtain ⟨gone, kept⟩ := stored _ _ run
        constructor
        · rintro keyId ⟨listed, known⟩
          have other : keyId ≠ first := fun same => absent (same ▸ known)
          exact gone keyId ⟨by simpa [other] using listed, known⟩
        · exact fun keyId spared => kept keyId fun doomed =>
            spared ⟨List.mem_cons_of_mem _ doomed.1, doomed.2⟩
      · exact fun _ _ _ impossible => impossible

theorem destroyReplacedVolatileKey_store (keyId : PsaKeyId) (s : State) :
    (destroyReplacedVolatileKey keyId).wp anyPsa
      (fun t _ s' => s' = s ∧ ∀ store store', PsaRun store t store' →
        Destroyed store (fun other => other = keyId ∧ store.Volatile keyId) store')
      (fun _ _ _ => False) s := by
  simp only [destroyReplacedVolatileKey, Fallible.wp_bind, wp_psaGetKeyAttributes, Fallible.wp_ite,
    wp_psaDestroyKey, Fallible.wp_pure, List.append_nil]
  refine fun answer => ⟨fun told status => ⟨trivial, fun store store' run => ?_⟩,
    fun untold => ⟨trivial, fun store store' run => ?_⟩⟩
  · cases run with
    | step query rest =>
      cases rest with
      | step destroy done =>
        cases done
        obtain ⟨unchanged, answered⟩ := query.of_query
        rw [unchanged] at destroy
        obtain rfl := destroy.of_destroy
        refine ⟨?_, fun other spared => ?_⟩
        · rintro other ⟨rfl, _⟩
          exact KeyStore.remove_same _ _
        · by_cases same : other = keyId
          · -- Only a key that PSA does not hold is destroyed without being volatile.
            subst same
            rw [KeyStore.remove_same]
            cases held : store other with
            | none => rfl
            | some object =>
              rw [answered object held] at told
              exact absurd ⟨rfl, object, held, told.2⟩ spared
          · exact KeyStore.remove_other _ same
  · cases run with
    | step query done =>
      cases done
      obtain ⟨rfl, answered⟩ := query.of_query
      refine ⟨?_, fun _ _ => rfl⟩
      rintro other ⟨rfl, object, held, isVolatile⟩
      rw [answered object held] at untold
      exact absurd ⟨rfl, isVolatile⟩ untold

theorem destroyReplaced_store (replaced : List PsaKeyId) (s : State) :
    (destroyReplaced replaced).wp anyPsa
      (fun t _ s' => s' = s ∧ ∀ store store', PsaRun store t store' →
        Destroyed store (fun keyId => keyId ∈ replaced ∧ keyId ≠ psaKeyIdNull ∧ store.Volatile keyId) store')
      (fun _ _ _ => False) s := by
  induction replaced with
  | nil =>
    refine ⟨rfl, fun store store' run => ?_⟩
    cases run
    exact ⟨fun _ doomed => absurd doomed.1 List.not_mem_nil, fun _ _ => rfl⟩
  | cons first replaced ih =>
    simp only [destroyReplaced, Fallible.wp_bind, Fallible.wp_ite]
    refine ⟨fun present => ?_, fun absent => ?_⟩
    · apply Fallible.wp_mono (destroyReplacedVolatileKey_store first s)
      · rintro t _ s₁ ⟨rfl, one⟩
        apply Fallible.wp_mono ih
        · rintro u _ s' ⟨same, rest⟩
          refine ⟨same, fun store store' run => ?_⟩
          obtain ⟨middle, before, after⟩ := run.split
          exact (one _ _ before).cons present (rest _ _ after)
        · exact fun _ _ _ impossible => impossible
      · exact fun _ _ _ impossible => impossible
    · apply Fallible.wp_mono ih
      · rintro t _ s' ⟨same, stored⟩
        refine ⟨same, fun store store' run => ?_⟩
        obtain ⟨gone, kept⟩ := stored _ _ run
        constructor
        · rintro keyId ⟨listed, known, isVolatile⟩
          have other : keyId ≠ first := fun same => absent (same ▸ known)
          exact gone keyId ⟨by simpa [other] using listed, known, isVolatile⟩
        · intro keyId spared
          apply kept keyId
          rintro ⟨listed, known, isVolatile⟩
          exact spared ⟨List.mem_cons_of_mem _ listed, known, isVolatile⟩
      · exact fun _ _ _ impossible => impossible

theorem Ctx.swapKeys_replaced {ctx : Ctx} {pairs : List (KeySlot × PsaKeyId)}
    (nodup : (pairs.map (·.1)).Nodup) :
    (ctx.swapKeys pairs).2 = pairs.map fun pair => (ctx.keys pair.1).psaKeyId := by
  induction pairs generalizing ctx with
  | nil => rfl
  | cons pair pairs ih =>
    obtain ⟨once, nodup⟩ := List.nodup_cons.mp nodup
    show (ctx.keys pair.1).psaKeyId :: ((ctx.updateKey pair.1 _).swapKeys pairs).2 = _
    rw [ih nodup, List.map_cons]
    refine congrArg (_ :: ·) (List.map_congr_left fun other found => ?_)
    rw [Ctx.updateKey_other]
    exact fun same => once (List.mem_map.mpr ⟨other, found, same⟩)

theorem Ctx.swapKeys_imported {ctx : Ctx} {pairs : List (KeySlot × PsaKeyId)}
    (nodup : (pairs.map (·.1)).Nodup) {slot : KeySlot} {keyId : PsaKeyId} (listed : (slot, keyId) ∈ pairs) :
    ((ctx.swapKeys pairs).1.keys slot).psaKeyId = keyId := by
  induction pairs generalizing ctx with
  | nil => cases listed
  | cons pair pairs ih =>
    obtain ⟨once, nodup⟩ := List.nodup_cons.mp nodup
    show (((ctx.updateKey pair.1 _).swapKeys pairs).1.keys slot).psaKeyId = keyId
    rcases List.mem_cons.mp listed with rfl | later
    · rw [Ctx.swapKeys_other once, Ctx.updateKey_same]
    · exact ih nodup later

/-- The store after an OTAR that fills slots with imported keys -/
def OtarStored (ctx : Ctx) (pairs : List (KeySlot × PsaKeyId)) (store store' : KeyStore) : Prop :=
  ∃ middle, Imported store (pairs.map (·.2)) middle ∧
    Destroyed middle (fun keyId => keyId ∈ (ctx.swapKeys pairs).2 ∧ keyId ≠ psaKeyIdNull ∧
      middle.Volatile keyId) store'

theorem processOtar_store (encoded : Bytes) (s : State) :
    (processOtar encoded).wp anyPsa
      (fun t _ s' => ∃ pairs : List (KeySlot × PsaKeyId), Replaceable s.ctx (pairs.map (·.1)) ∧
        s'.ctx = (s.ctx.swapKeys pairs).1 ∧
          ∀ store store', PsaRun store t store' → OtarStored s.ctx pairs store store')
      (fun t _ s' => s' = s ∧ ∀ store store', PsaRun store t store' → store' = store) s := by
  simp only [processOtar, Fallible.wp_bind]
  apply Fallible.wp_mono (otarKeyBlocks_spec encoded s)
  · rintro t blocks s₁ ⟨checked, replaceable⟩
    obtain rfl := checked.1
    apply Fallible.wp_mono (importKeys_store _ [] s₁)
    · rintro u imports s₂ ⟨rfl, fresh, listed, counted, stored⟩
      rw [List.nil_append] at listed
      rw [Fallible.wp_ite, listed]
      refine ⟨fun refused => ?_, fun succeeded => ?_⟩
      · simp only [Fallible.wp_bind, Fallible.wp_fail]
        apply Fallible.wp_mono (destroyImported_store _ s₂)
        · rintro v _ s₃ ⟨rfl, removed⟩
          refine ⟨rfl, fun store store' run => ?_⟩
          rw [List.append_nil] at run
          obtain ⟨_, reading, run⟩ := run.split
          obtain ⟨middle, importing, destroying⟩ := run.split
          obtain rfl := psaRun_keeps reading checked.2
          have added := stored _ _ importing
          have gone := removed _ _ destroying
          -- What was imported is gone again, the rest has never been touched.
          funext keyId
          by_cases found : keyId ∈ fresh
          · obtain ⟨present, absent⟩ := added.fresh keyId found
            rw [gone.gone keyId ⟨found, present⟩, absent]
          · rw [gone.kept keyId fun doomed => found doomed.1, added.kept keyId found]
        · exact fun _ _ _ impossible => impossible.elim
      · simp only [not_not] at succeeded
        simp only [Fallible.wp_bind, Fallible.wp_read, Fallible.wp_modify]
        apply Fallible.wp_mono (destroyReplaced_store _ _)
        · rintro v _ s₃ ⟨rfl, removed⟩
          have slots : ((blocks.map (·.1)).zip fresh).map (·.1) = blocks.map (·.1) :=
            List.map_fst_zip (by rw [counted succeeded]; simp)
          have keyIds : ((blocks.map (·.1)).zip fresh).map (·.2) = fresh :=
            List.map_snd_zip (by rw [counted succeeded]; simp)
          refine ⟨(blocks.map (·.1)).zip fresh, by rwa [slots], rfl, fun store store' run => ?_⟩
          simp only [List.nil_append] at run
          obtain ⟨_, reading, run⟩ := run.split
          obtain ⟨middle, importing, destroying⟩ := run.split
          obtain rfl := psaRun_keeps reading checked.2
          refine ⟨middle, ?_, removed _ _ destroying⟩
          rw [keyIds]
          exact stored _ _ importing
        · exact fun _ _ _ impossible => impossible.elim
    · exact fun _ _ _ impossible => impossible.elim
  · rintro t e s' read
    refine ⟨read.1, fun store store' run => psaRun_keeps run read.2⟩

end ZephyrCcsds.Sdls
