import ZephyrCcsds.Sdls.Service

/-! # What the key management recipients do

One lemma for each recipient: what has been done to the context when it returns `0`, and
that an error leaves everything as it was (`Failed`), with every key destroyed that was
imported on the way.  `Reads` is the frame of the programs that only look.
-/

namespace ZephyrCcsds.Sdls

open Callback

variable [Kconfig]

/-! ## Reading programs -/

/-- The PSA calls that neither create nor destroy a key -/
def PsaOp.KeepsKeys : PsaOp → Prop
  | importKey .. => False
  | destroyKey _ => False
  | _ => True

/-- Nothing is changed, here or in the key store. -/
def Reads (s : State) (t : List Item) (s' : State) : Prop := s' = s ∧ ∀ item ∈ t, item.op.KeepsKeys

instance : Composes (Reads : State → List Item → State → Prop) where
  refl s := ⟨rfl, fun _ absent => absurd absent List.not_mem_nil⟩
  trans := by
    rintro s t s' u s'' ⟨rfl, first⟩ ⟨rfl, second⟩
    refine ⟨rfl, fun item found => ?_⟩
    rcases List.mem_append.mp found with before | after
    · exact first item before
    · exact second item after

theorem reads_nil (s : State) : Reads s [] s := Composes.refl s

theorem reads_single {s : State} {item : Item} (keeps : item.op.KeepsKeys) : Reads s [item] s := by
  refine ⟨rfl, fun other found => ?_⟩
  rw [List.mem_singleton.mp found]
  exact keeps

/-! ## Key validation -/

/-- The key and the nonce of an encryption -/
def Item.encrypted : Item → Option (PsaKeyId × Bytes)
  | ⟨_, .aeadEncrypt keyId nonce _ _, _⟩ => some (keyId, nonce)
  | _ => none

/-- PSA reports a key that fits the profile and the usage. -/
def Validated (ctx : Ctx) (keyId : PsaKeyId) (usage : PsaKeyUsage) (t : List Item) : Prop :=
  ∃ attributes : PsaKeyAttributes,
    attributes.fits usage = true ∧ t = [⟨ctx, .getKeyAttributes keyId, (.success, attributes)⟩]

theorem Validated.reads {s : State} {keyId : PsaKeyId} {usage : PsaKeyUsage} {t : List Item}
    (validated : Validated s.ctx keyId usage t) : Reads s t s := by
  obtain ⟨attributes, _, rfl⟩ := validated
  exact reads_single trivial

theorem Validated.no_encryption {ctx : Ctx} {keyId : PsaKeyId} {usage : PsaKeyUsage} {t : List Item}
    (validated : Validated ctx keyId usage t) : t.filterMap Item.encrypted = [] := by
  obtain ⟨attributes, _, rfl⟩ := validated
  rfl

theorem validateKey_spec (keyId : PsaKeyId) (usage : PsaKeyUsage) (s : State) :
    (validateKey keyId usage).wp anyPsa (fun t _ s' => s' = s ∧ Validated s.ctx keyId usage t)
      (fun t _ s' => Reads s t s') s := by
  simp only [validateKey, Fallible.wp_bind, wp_psaGetKeyAttributes, Fallible.wp_failIf]
  rintro ⟨status, attributes⟩
  refine ⟨fun _ => reads_single trivial, fun answered => ⟨fun _ => reads_single trivial, fun fits => ?_⟩⟩
  refine ⟨trivial, attributes, ?_, ?_⟩
  · simpa using fits
  · simp only [not_not] at answered
    subst answered
    rfl

/-! ## Lists of session keys -/

/-- The slots of a command on session keys, all checked against `permitted` -/
structure Recipients (ctx : Ctx) (permitted : KeyState → Bool) (slots : List KeySlot) : Prop where
  nodup : slots.Nodup
  session : ∀ slot ∈ slots, sessionKeyBase ≤ slot.val
  present : ∀ slot ∈ slots, (ctx.keys slot).psaKeyId ≠ psaKeyIdNull
  permits : ∀ slot ∈ slots, permitted (ctx.keys slot).state = true

theorem Ctx.keyLookup_some {ctx : Ctx} {keyId : Nat} {slot : KeySlot}
    (found : ctx.keyLookup keyId = some slot) :
    slot.val = keyId ∧ (ctx.keys slot).psaKeyId ≠ psaKeyIdNull := by
  unfold Ctx.keyLookup at found
  split_ifs at found with bound absent
  cases found
  exact ⟨rfl, absent⟩

theorem Ctx.sessionRecipient_some {ctx : Ctx} {keyId : Nat} {seen : List Nat} {slot : KeySlot}
    (found : ctx.sessionRecipient keyId seen = some slot) :
    slot.val = keyId ∧ sessionKeyBase ≤ keyId ∧ keyId ∉ seen ∧
      (ctx.keys slot).psaKeyId ≠ psaKeyIdNull := by
  unfold Ctx.sessionRecipient at found
  split_ifs at found with refused
  simp only [not_or, not_lt] at refused
  obtain ⟨same, present⟩ := Ctx.keyLookup_some found
  exact ⟨same, refused.1, refused.2.2, present⟩

theorem checkRecipients_spec (permitted : KeyState → Bool) (usage : PsaKeyUsage) (keyIds seen : List Nat)
    (s : State) :
    (checkRecipients permitted usage keyIds seen).wp anyPsa
      (fun t slots s' => (Reads s t s' ∧ t.filterMap Item.encrypted = []) ∧
        slots.map (·.val) = keyIds ∧ Recipients s.ctx permitted slots ∧ ∀ slot ∈ slots, slot.val ∉ seen)
      (fun t _ s' => Reads s t s') s := by
  induction keyIds generalizing seen with
  | nil =>
    rw [checkRecipients, Fallible.wp_pure]
    exact ⟨⟨reads_nil s, rfl⟩, rfl, ⟨List.nodup_nil, by simp, by simp, by simp⟩, by simp⟩
  | cons keyId keyIds ih =>
    simp only [checkRecipients, Fallible.wp_bind, Fallible.wp_read, List.nil_append]
    cases named : s.ctx.sessionRecipient keyId seen with
    | none => exact reads_nil s
    | some slot =>
      obtain ⟨rfl, session, unseen, present⟩ := Ctx.sessionRecipient_some named
      simp only [Fallible.wp_bind, Fallible.wp_failIf, List.nil_append]
      refine ⟨fun _ => reads_nil s, fun permits => ?_⟩
      apply Fallible.wp_mono (validateKey_spec _ _ s)
      · rintro t _ s' ⟨rfl, validated⟩
        apply Fallible.wp_mono (ih (slot.val :: seen))
        · rintro u slots s'' ⟨⟨read, clear⟩, same, checked, fresh⟩
          rw [Fallible.wp_pure, List.append_nil]
          refine ⟨⟨Composes.trans validated.reads read, ?_⟩, by rw [List.map_cons, same],
            ⟨?_, ?_, ?_, ?_⟩, ?_⟩
          · rw [List.filterMap_append, validated.no_encryption, clear, List.append_nil]
          · -- The recursive call has the head among the IDs it refuses.
            refine List.nodup_cons.mpr ⟨fun again => ?_, checked.nodup⟩
            exact fresh slot again List.mem_cons_self
          · exact List.forall_mem_cons.mpr ⟨session, checked.session⟩
          · exact List.forall_mem_cons.mpr ⟨present, checked.present⟩
          · exact List.forall_mem_cons.mpr ⟨by simpa using permits, checked.permits⟩
          · refine List.forall_mem_cons.mpr ⟨unseen, fun other found => ?_⟩
            exact fun early => fresh other found (List.mem_cons_of_mem _ early)
        · exact fun u e s'' read => Composes.trans validated.reads read
      · exact fun t e s' read => read

/-! ## Traces of key objects -/

/-- The identifier of a successful import -/
def Item.imported : Item → Option PsaKeyId
  | ⟨_, .importKey .., (.success, keyId)⟩ => some keyId
  | _ => none

/-- The identifier handed to `psa_destroy_key` -/
def Item.destroyed : Item → Option PsaKeyId
  | ⟨_, .destroyKey keyId, _⟩ => some keyId
  | _ => none

/-- Each successful import is followed by a destruction of its key. -/
def ImportsDestroyed : List Item → Prop
  | [] => True
  | item :: rest =>
    (∀ keyId ∈ item.imported, keyId ≠ psaKeyIdNull → keyId ∈ rest.filterMap Item.destroyed) ∧
      ImportsDestroyed rest

theorem PsaOp.KeepsKeys.imported {item : Item} (keeps : item.op.KeepsKeys) : item.imported = none := by
  obtain ⟨ctx, op, result⟩ := item
  cases op <;> first | rfl | exact keeps.elim

theorem importsDestroyed_append {front back : List Item}
    (later : ∀ keyId ∈ front.filterMap Item.imported, keyId ≠ psaKeyIdNull →
      keyId ∈ back.filterMap Item.destroyed)
    (rest : ImportsDestroyed back) : ImportsDestroyed (front ++ back) := by
  induction front with
  | nil => exact rest
  | cons item front ih =>
    refine ⟨fun keyId imported present => ?_, ih fun keyId found => later keyId ?_⟩
    · show keyId ∈ (front ++ back).filterMap Item.destroyed
      rw [List.filterMap_append]
      apply List.mem_append_right
      exact later keyId (List.mem_filterMap.mpr ⟨item, List.mem_cons_self, imported⟩) present
    · obtain ⟨other, listed, same⟩ := List.mem_filterMap.mp found
      exact List.mem_filterMap.mpr ⟨other, List.mem_cons_of_mem _ listed, same⟩

theorem Reads.no_imports {s s' : State} {t : List Item} (read : Reads s t s') :
    t.filterMap Item.imported = [] :=
  List.filterMap_eq_nil_iff.mpr fun item found => (read.2 item found).imported

/-- A recipient that returns an error -/
def Failed (s : State) (t : List Item) (_ : SdlsError) (s' : State) : Prop :=
  s' = s ∧ ImportsDestroyed t

theorem Reads.failed {s s' : State} {t : List Item} {e : SdlsError} (read : Reads s t s') :
    Failed s t e s' := by
  refine ⟨read.1, ?_⟩
  have destroyed := @importsDestroyed_append _ t [] (by simp [read.no_imports]) trivial
  rwa [List.append_nil] at destroyed

theorem Reads.then_failed {s s₁ s' : State} {t u : List Item} {e : SdlsError} (read : Reads s t s₁)
    (failed : Failed s₁ u e s') : Failed s (t ++ u) e s' :=
  ⟨failed.1.trans read.1, importsDestroyed_append (by simp [read.no_imports]) failed.2⟩

/-! ## OTAR -/

/-- The destinations of an OTAR command -/
structure Replaceable (ctx : Ctx) (slots : List KeySlot) : Prop where
  nodup : slots.Nodup
  session : ∀ slot ∈ slots, sessionKeyBase ≤ slot.val
  idle : ∀ slot ∈ slots, (ctx.keys slot).psaKeyId = psaKeyIdNull ∨ (ctx.keys slot).state ≠ .active

theorem otarDestinations_ok {ctx : Ctx} {blocks : List Bytes} {seen : List Nat} {slots : List KeySlot}
    (checked : otarDestinations ctx blocks seen = .ok slots) :
    slots.length = blocks.length ∧ Replaceable ctx slots ∧ ∀ slot ∈ slots, slot.val ∉ seen := by
  induction blocks generalizing seen slots with
  | nil =>
    cases checked
    exact ⟨rfl, ⟨List.nodup_nil, by simp, by simp⟩, by simp⟩
  | cons block blocks ih =>
    rw [otarDestinations] at checked
    by_cases bound : sessionKeyBase ≤ getU16 block 0 ∧ getU16 block 0 < maxKeys
    · simp only [dif_pos bound] at checked
      split_ifs at checked with again busy
      cases tail : otarDestinations ctx blocks (getU16 block 0 :: seen) with
      | error e =>
        rw [tail] at checked
        cases checked
      | ok rest =>
        rw [tail] at checked
        cases checked
        obtain ⟨sameLength, replaceable, fresh⟩ := ih tail
        refine ⟨by simp only [List.length_cons, sameLength], ⟨?_, ?_, ?_⟩, ?_⟩
        · refine List.nodup_cons.mpr ⟨fun twice => ?_, replaceable.nodup⟩
          exact fresh _ twice List.mem_cons_self
        · exact List.forall_mem_cons.mpr ⟨bound.1, replaceable.session⟩
        · refine List.forall_mem_cons.mpr ⟨?_, replaceable.idle⟩
          by_cases empty : (ctx.keys ⟨getU16 block 0, bound.2⟩).psaKeyId = psaKeyIdNull
          · exact .inl empty
          · exact .inr fun active => busy ⟨empty, active⟩
        · refine List.forall_mem_cons.mpr ⟨again, fun other found => ?_⟩
          exact fun early => fresh other found (List.mem_cons_of_mem _ early)
    · simp only [dif_neg bound] at checked
      cases checked

theorem otarKeyBlocks_spec (encoded : Bytes) (s : State) :
    (otarKeyBlocks encoded).wp anyPsa
      (fun t pairs s' => Reads s t s' ∧ Replaceable s.ctx (pairs.map (·.1)))
      (fun t _ s' => Reads s t s') s := by
  simp only [otarKeyBlocks, Fallible.wp_bind, Fallible.wp_ofExcept, Fallible.wp_read, List.nil_append]
  refine ⟨fun otar _ => ?_, fun e _ => reads_nil s⟩
  cases s.ctx.otarMaster otar.masterKeyId with
  | none => exact reads_nil s
  | some master =>
    simp only [Fallible.wp_bind]
    apply Fallible.wp_mono (validateKey_spec _ _ s)
    · rintro t _ s' ⟨rfl, validated⟩
      simp only [wp_psaAeadDecrypt, Fallible.wp_failIf, Fallible.wp_ofExcept, Fallible.wp_pure,
        List.append_nil]
      intro answer
      have decrypted := Composes.trans validated.reads
        (@reads_single _ s' ⟨s'.ctx, .aeadDecrypt _ _ _ _, answer⟩ trivial)
      refine ⟨fun _ => decrypted, fun _ => ⟨fun _ => decrypted, fun _ => ⟨fun _ => decrypted, fun _ =>
        ⟨fun slots checked => ⟨decrypted, ?_⟩, fun e _ => decrypted⟩⟩⟩⟩
      obtain ⟨sameLength, replaceable, _⟩ := otarDestinations_ok checked
      rwa [List.map_fst_zip (le_of_eq sameLength)]
    · exact fun t e s' read => read

/-- The import loop appends the keys it imports. -/
theorem importKeys_spec (blocks : List Bytes) (imported : List PsaKeyId) (s : State) :
    (importKeys blocks imported).wp anyPsa
      (fun t r s' => s' = s ∧ r.2 = imported ++ t.filterMap Item.imported ∧
        (r.1 = .success → r.2.length = imported.length + blocks.length))
      (fun _ _ _ => False) s := by
  induction blocks generalizing imported with
  | nil => exact ⟨rfl, by simp, by simp⟩
  | cons block blocks ih =>
    simp only [importKeys, Fallible.wp_bind, wp_psaImportKey]
    rintro ⟨status, keyId⟩
    rw [Fallible.wp_ite]
    refine ⟨fun refused => ?_, fun succeeded => ?_⟩
    · rw [Fallible.wp_pure, List.append_nil]
      refine ⟨rfl, ?_, fun success => absurd success refused⟩
      cases status with
      | success => exact absurd rfl refused
      | invalidSignature => simp [Item.imported]
      | failure => simp [Item.imported]
    · simp only [not_not] at succeeded
      subst succeeded
      apply Fallible.wp_mono (ih (imported ++ [keyId]))
      · rintro t r s' ⟨same, listed, counted⟩
        refine ⟨same, ?_, fun success => ?_⟩
        · rw [listed]
          simp [Item.imported]
        · rw [counted success]
          simp only [List.length_append, List.length_cons, List.length_nil]
          omega
      · exact fun _ _ _ impossible => impossible

theorem destroyImported_spec (imported : List PsaKeyId) (s : State) :
    (destroyImported imported).wp anyPsa
      (fun t _ s' => s' = s ∧ t.filterMap Item.imported = [] ∧
        ∀ keyId ∈ imported, keyId ≠ psaKeyIdNull → keyId ∈ t.filterMap Item.destroyed)
      (fun _ _ _ => False) s := by
  induction imported with
  | nil => exact ⟨rfl, rfl, by simp⟩
  | cons first imported ih =>
    rw [destroyImported, Fallible.wp_ite]
    refine ⟨fun present => ?_, fun absent => ?_⟩
    · simp only [Fallible.wp_bind, wp_psaDestroyKey]
      intro status
      apply Fallible.wp_mono ih
      · rintro t _ s' ⟨same, nothing, destroyed⟩
        refine ⟨same, ?_, List.forall_mem_cons.mpr ⟨?_, ?_⟩⟩
        · simpa [Item.imported] using nothing
        · exact fun _ => by simp [Item.destroyed]
        · intro keyId found known
          have later := destroyed keyId found known
          simp only [List.cons_append, List.nil_append, List.filterMap_cons, Item.destroyed]
          exact List.mem_cons_of_mem _ later
      · exact fun _ _ _ impossible => impossible
    · apply Fallible.wp_mono ih
      · rintro t _ s' ⟨same, nothing, destroyed⟩
        exact ⟨same, nothing, List.forall_mem_cons.mpr ⟨fun known => absurd known absent, destroyed⟩⟩
      · exact fun _ _ _ impossible => impossible

theorem destroyReplaced_spec (replaced : List PsaKeyId) (s : State) :
    (destroyReplaced replaced).wp anyPsa
      (fun t _ s' => s' = s ∧ t.filterMap Item.imported = []) (fun _ _ _ => False) s := by
  induction replaced with
  | nil => exact ⟨rfl, rfl⟩
  | cons first replaced ih =>
    simp only [destroyReplaced, Fallible.wp_bind, Fallible.wp_ite]
    refine ⟨fun _ => ?_, fun _ => ih⟩
    simp only [destroyReplacedVolatileKey, Fallible.wp_bind, wp_psaGetKeyAttributes, Fallible.wp_ite,
      wp_psaDestroyKey, Fallible.wp_pure]
    intro answer
    refine ⟨fun _ status => ?_, fun _ => ?_⟩
    · apply Fallible.wp_mono ih
      · rintro t _ s' ⟨same, nothing⟩
        exact ⟨same, by simpa [Item.imported] using nothing⟩
      · exact fun _ _ _ impossible => impossible
    · apply Fallible.wp_mono ih
      · rintro t _ s' ⟨same, nothing⟩
        exact ⟨same, by simpa [Item.imported] using nothing⟩
      · exact fun _ _ _ impossible => impossible

/-- What OTAR does: it fills the destinations with the keys it has imported, or nothing. -/
theorem processOtar_spec (encoded : Bytes) (s : State) :
    (processOtar encoded).wp anyPsa
      (fun _ _ s' => ∃ pairs : List (KeySlot × PsaKeyId), Replaceable s.ctx (pairs.map (·.1)) ∧
        s' = s.withCtx fun ctx => (ctx.swapKeys pairs).1)
      (Failed s) s := by
  simp only [processOtar, Fallible.wp_bind]
  apply Fallible.wp_mono (otarKeyBlocks_spec encoded s)
  · rintro t blocks s₁ ⟨checked, replaceable⟩
    obtain rfl := checked.1
    apply Fallible.wp_mono (importKeys_spec _ [] s₁)
    · rintro u imports s₂ ⟨rfl, listed, counted⟩
      rw [Fallible.wp_ite]
      refine ⟨fun refused => ?_, fun succeeded => ?_⟩
      · simp only [Fallible.wp_bind, Fallible.wp_fail]
        apply Fallible.wp_mono (destroyImported_spec _ s₂)
        · rintro v _ s₃ ⟨rfl, nothing, destroyed⟩
          rw [List.append_nil]
          apply checked.then_failed
          refine ⟨rfl, importsDestroyed_append ?_ ?_⟩
          · rw [List.nil_append] at listed
            rwa [← listed]
          · have ended := @importsDestroyed_append _ v [] (by simp [nothing]) trivial
            rwa [List.append_nil] at ended
        · exact fun _ _ _ impossible => impossible.elim
      · simp only [not_not] at succeeded
        simp only [Fallible.wp_bind, Fallible.wp_read, Fallible.wp_modify]
        apply Fallible.wp_mono (destroyReplaced_spec _ _)
        · rintro v _ s₃ ⟨rfl, _⟩
          refine ⟨(blocks.map (·.1)).zip imports.2, ?_, rfl⟩
          rw [List.map_fst_zip]
          · exact replaceable
          · rw [counted succeeded]
            simp
        · exact fun _ _ _ impossible => impossible.elim
    · exact fun _ _ _ impossible => impossible.elim
  · exact fun t e s' read => read.failed

/-! ## Commands on keys -/

theorem processLifecycle_spec (procedure : Procedure) (encoded : Bytes) (s : State) :
    (processLifecycle procedure encoded).wp anyPsa
      (fun _ _ s' => ∃ slots, Recipients s.ctx (lifecyclePermits procedure) slots ∧
        s' = s.withCtx (·.setKeyStates slots (if procedure = .keyActivation then .active else .deactivated)))
      (Failed s) s := by
  simp only [processLifecycle, Fallible.wp_bind, Fallible.wp_ofExcept, Fallible.wp_modify,
    List.nil_append]
  refine ⟨fun keyIds _ => ?_, fun e _ => (reads_nil s).failed⟩
  apply Fallible.wp_mono (checkRecipients_spec _ _ _ _ s)
  · rintro t slots s' ⟨⟨read, _⟩, _, recipients, _⟩
    obtain rfl := read.1
    exact ⟨slots, recipients, rfl⟩
  · exact fun t e s' read => read.failed

theorem inventoryScan_along (slots : List KeySlot) (entries : List EpKeyInventoryEntry) :
    (inventoryScan slots entries).Along anyPsa Reads := by
  induction slots generalizing entries with
  | nil => exact Fallible.along_pure
  | cons slot slots ih =>
    apply Fallible.along_bind Fallible.along_read
    intro s
    apply Fallible.along_ite (ih _)
    apply Fallible.along_bind
    · apply Fallible.along_of_wp
      intro s
      apply Fallible.wp_mono (validateKey_spec _ _ s)
      · rintro t _ s' ⟨rfl, validated⟩
        exact validated.reads
      · exact fun t e s' read => read
    · exact fun _ => Fallible.along_bind Fallible.along_failIf fun _ => ih _

/-- A recipient that publishes a reply and changes nothing else -/
def Replied (s s' : State) : Prop := ∃ reply, s' = s.write 0 reply

theorem processKeyInventory_spec (encoded : Bytes) (s : State) :
    (processKeyInventory encoded).wp anyPsa
      (fun t _ s' => s.ctx.authenticatedRx.valid = true ∧ Replied s s' ∧ ∀ item ∈ t, item.op.KeepsKeys)
      (Failed s) s := by
  simp only [processKeyInventory, Fallible.wp_bind, Fallible.wp_read, Fallible.wp_failIf,
    Fallible.wp_ofExcept, Fallible.wp_modify, Fallible.wp_pure, List.nil_append, List.append_nil]
  refine ⟨fun _ => (reads_nil s).failed, fun valid => ⟨fun command _ =>
    ⟨fun _ => (reads_nil s).failed, fun _ => ?_⟩, fun e _ => (reads_nil s).failed⟩⟩
  apply Fallible.wp_of_along (inventoryScan_along _ _)
  · intro t entries s' read
    obtain rfl := read.1
    refine ⟨fun reply _ => ⟨fun _ => read.failed, fun _ => ⟨?_, ⟨reply, rfl⟩, read.2⟩⟩, fun e _ => read.failed⟩
    simpa using valid
  · exact fun t e s' read => read.failed

/-- The sender IV after `n` of its values have been used -/
def advanceIv (n : Nat) (iv : UInt64) : UInt64 := (· + ivStride)^[n] iv

/-- The keys and nonces of a verification that starts with a sender IV -/
def Ctx.verificationIvs (ctx : Ctx) : List KeySlot → UInt64 → List (PsaKeyId × Bytes)
  | [], _ => []
  | slot :: slots, iv =>
    ((ctx.keys slot).psaKeyId, constructIv iv (ctx.keys slot).txArsn) :: ctx.verificationIvs slots (iv + ivStride)

theorem encryptChallenges_spec (pairs : List (KeySlot × Bytes)) (iv : UInt64) (s : State) :
    (encryptChallenges pairs iv).wp anyPsa
      (fun t r s' => Reads s t s' ∧ r.2 = advanceIv pairs.length iv ∧
        t.filterMap Item.encrypted = s.ctx.verificationIvs (pairs.map (·.1)) iv)
      (fun t _ s' => Reads s t s') s := by
  induction pairs generalizing iv with
  | nil => exact ⟨reads_nil s, rfl, rfl⟩
  | cons pair pairs ih =>
    obtain ⟨slot, challenge⟩ := pair
    simp only [encryptChallenges, Fallible.wp_bind, Fallible.wp_read, wp_psaAeadEncrypt,
      Fallible.wp_failIf, List.nil_append]
    intro answer
    have called := @reads_single _ s
      ⟨s.ctx, .aeadEncrypt (s.ctx.keys slot).psaKeyId (constructIv iv (s.ctx.keys slot).txArsn) [] challenge,
        answer⟩ trivial
    refine ⟨fun _ => called, fun _ => ?_⟩
    apply Fallible.wp_mono (ih (iv + ivStride))
    · rintro t r s' ⟨read, last, used⟩
      simp only [Fallible.wp_pure, List.append_nil]
      refine ⟨Composes.trans called read, ?_, ?_⟩
      · rw [last, List.length_cons, advanceIv, advanceIv, Function.iterate_succ_apply]
      · simp only [List.cons_append, List.nil_append, List.filterMap_cons, Item.encrypted, used,
          List.map_cons, Ctx.verificationIvs]
    · exact fun t e s' read => Composes.trans called read

theorem processKeyVerification_spec (encoded : Bytes) (s : State) :
    (processKeyVerification encoded).wp anyPsa
      (fun t _ s' => ∃ slots, Recipients s.ctx (fun state => state ≠ .deactivated) slots ∧
        t.filterMap Item.encrypted = s.ctx.verificationIvs slots s.ctx.txIv ∧
        s'.ctx = s.ctx.commitVerification slots (advanceIv slots.length s.ctx.txIv) ∧
        s'.outLen = s.outLen)
      (Failed s) s := by
  simp only [processKeyVerification, Fallible.wp_bind, Fallible.wp_ofExcept, Fallible.wp_read,
    Fallible.wp_modify, List.nil_append]
  refine ⟨fun entries _ => ?_, fun e _ => (reads_nil s).failed⟩
  apply Fallible.wp_mono (checkRecipients_spec _ _ _ _ s)
  · rintro t slots s₁ ⟨⟨checked, clear⟩, named, recipients, _⟩
    obtain rfl := checked.1
    have sameLength : slots.length = entries.length := by
      simpa using congrArg List.length named
    apply Fallible.wp_mono (encryptChallenges_spec _ _ s₁)
    · rintro u r s₂ ⟨read, last, used⟩
      obtain rfl := read.1
      have heads : (slots.zip (entries.map (·.challenge))).map (·.1) = slots :=
        List.map_fst_zip (by rw [List.length_map, sameLength])
      refine ⟨slots, recipients, ?_, ?_, rfl⟩
      · simp only [List.append_nil, List.filterMap_append, clear, List.nil_append, used, heads]
      · simp only [State.withCtx_ctx, State.write_ctx, last, List.length_zip, List.length_map, sameLength,
          min_self]
    · exact fun u e s' read => (Composes.trans checked read).failed
  · exact fun t e s' read => read.failed

end ZephyrCcsds.Sdls
