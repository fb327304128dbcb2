import ZephyrCcsds.Parties
import ZephyrCcsds.Sdls.RoundTrip
import ZephyrCcsds.Sdls.TransmitCounter

/-! # Associations as a channel

Any number of contexts share keys, and an adversary has the links between them: it sees everything that is put out, and
gives any context any input.  All it cannot do is make PSA decrypt what no context has encrypted.  Then the frames that
a context accepts for an SA are frames that the transmit SA of the same SPI has protected, whatever else is encrypted
with the same keys; and between renewals of the counters they come in their order and none comes twice.

**Main results:**

- `Covers.same`: an encryption determines the SA and the frame that it is about, in whichever modes the two ends are.

- `secure_channel`: authenticity of every accepted frame, and order and uniqueness between renewals.
-/

namespace ZephyrCcsds.Sdls

open Callback

/-! ## Encryptions -/

/-- An encryption that has succeeded, or a decryption of it -/
structure Encryption where
  nonce : Bytes
  additionalData : Bytes
  plaintext : Bytes
  ciphertext : Bytes
  deriving DecidableEq, Repr

variable [Kconfig]

def Item.encryption : Item → Option Encryption
  | ⟨_, .aeadEncrypt _ nonce additionalData plaintext, answer⟩ =>
    if answer.1 = .success then some { nonce, additionalData, plaintext, ciphertext := answer.2 } else none
  | _ => none

def Item.decryption : Item → Option Encryption
  | ⟨_, .aeadDecrypt _ nonce additionalData ciphertext, answer⟩ =>
    if answer.1 = .success then some { nonce, additionalData, plaintext := answer.2, ciphertext } else none
  | _ => none

/-- The encryptions whose ciphertexts a call gives to its caller -/
def Label.encryptions (label : Label) : List Encryption :=
  match label.result with
  | .ok _ =>
    if label.call.isProtection ∨ label.call.procedure = some .keyVerification then
      label.trace.filterMap Item.encryption
    else
      []
  | .error _ => []

/-- What PSA has decrypted to process a frame -/
def Label.opened (label : Label) : Option Encryption :=
  match label.call with
  | .processSecurity .. => label.trace.head?.bind Item.decryption
  | _ => none

/-! ## Frames -/

/-- A frame as an SA carries it: its ARSN, its header as far as the mask lets it through, and its clear data -/
structure Frame where
  arsn : UInt32
  header : Bytes
  clear : Bytes
  deriving DecidableEq, Repr

/-- The frame header that a call gives -/
def Call.auth : Call → Option AuthHeader
  | applySecurity _ _ auth _ _ => some auth
  | processSecurity _ auth _ => some auth
  | _ => none

/-- The clear data that a call reads, or that it leaves at the start of the output buffer -/
def Call.clear (call : Call) (s s' : State) : Bytes :=
  match call with
  | applySecurity _ _ _ data _ => data.read s.out
  | processSecurity _ _ protectedData => s'.out.take (protectedData.length - protectedOverhead)
  | _ => []

/-- A call with the clear data that passes through it -/
structure Passage where
  label : Label
  clear : Bytes

def Passage.Step (ctx : Ctx) (passage : Passage) (ctx' : Ctx) : Prop :=
  ∃ s s' : State, s.ctx = ctx ∧ s'.ctx = ctx' ∧
    passage.label.call.body.Runs anyPsa s passage.label.trace passage.label.result s' ∧
    passage.clear = passage.label.call.clear s s'

theorem Passage.Step.step {ctx ctx' : Ctx} {passage : Passage} (step : Passage.Step ctx passage ctx') :
    Sdls.Step ctx passage.label ctx' := by
  obtain ⟨s, s', before, after, runs, _⟩ := step
  exact ⟨s, s', before, after, runs⟩

def Passage.frame (passage : Passage) (arsn : UInt32) : Frame where
  arsn := arsn
  header := (passage.label.call.auth.map AuthHeader.masked).getD []
  clear := passage.clear

/-- The frame that a call has protected for an SA -/
def Passage.sent (slot : SaSlot) (passage : Passage) : Option Frame :=
  (passage.label.sentArsn slot).map passage.frame

/-- The frame that a call has accepted for an SA -/
def Passage.accepted (slot : SaSlot) (passage : Passage) : Option Frame :=
  (passage.label.acceptedArsn slot).map passage.frame

/-! ## What an encryption is about -/

/-- An encryption protects a frame of an SA, in one of the two modes. -/
structure Covers (auth : AuthHeader) (slot : SaSlot) (gcm : Bool) (frame : Frame) (encryption : Encryption) : Prop where
  header : frame.header = auth.masked
  arsn : frame.arsn = ivArsn encryption.nonce
  additionalData : encryption.additionalData = buildAuthData auth slot.spi (if gcm then [] else frame.clear)
  plaintext : gcm = true → encryption.plaintext = frame.clear
  length : encryption.ciphertext.length = (if gcm then frame.clear.length else 0) + tagLen

theorem SaSlot.spi_lt (slot : SaSlot) : slot.spi < 256 ^ 2 := by
  have := slot.isLt
  have := Kconfig.maxSa_range
  unfold SaSlot.spi
  omega

/-- One encryption is about one frame. -/
theorem Covers.same {auth₁ auth₂ : AuthHeader} {slot₁ slot₂ : SaSlot} {gcm₁ gcm₂ : Bool} {frame₁ frame₂ : Frame}
    {encryption : Encryption} (lengths : auth₁.data.length = auth₂.data.length)
    (first : Covers auth₁ slot₁ gcm₁ frame₁ encryption) (second : Covers auth₂ slot₂ gcm₂ frame₂ encryption) :
    slot₁ = slot₂ ∧ frame₁ = frame₂ := by
  obtain ⟨headers, spis, data⟩ := buildAuthData_injective lengths slot₁.spi_lt slot₂.spi_lt
    (first.additionalData.symm.trans second.additionalData)
  have arsns := first.arsn.trans second.arsn.symm
  have lengths := first.length.symm.trans second.length
  have clear : frame₁.clear = frame₂.clear := by
    -- In GCM the data is in the ciphertext, in GMAC behind the SPI; where the modes differ both are empty.
    cases gcm₁ with
    | true =>
      cases gcm₂ with
      | true => exact (first.plaintext rfl).symm.trans (second.plaintext rfl)
      | false =>
        have empty : frame₁.clear = [] := List.eq_nil_of_length_eq_zero (by simpa using lengths)
        rw [empty]
        simpa using data
    | false =>
      cases gcm₂ with
      | true =>
        have empty : frame₂.clear = [] := List.eq_nil_of_length_eq_zero (by simpa using lengths.symm)
        rw [empty]
        simpa using data
      | false => simpa using data
  refine ⟨SaSlot.spi_injective spis, ?_⟩
  obtain ⟨arsn₁, header₁, clear₁⟩ := frame₁
  obtain ⟨arsn₂, header₂, clear₂⟩ := frame₂
  simp only [Frame.mk.injEq]
  exact ⟨arsns, first.header.trans (headers.trans second.header.symm), clear⟩

/-! ## Protection -/

/-- The PSA call for clear data, with its answer -/
def Ctx.encryption (ctx : Ctx) (auth : AuthHeader) (slot : SaSlot) (key : KeySlot) (clear : Bytes)
    (answer : PsaStatus × Bytes) : Item :=
  let gcm := decide (ctx.saModes slot = .gcm)
  { ctx := ctx.consumeIv key
    op := .aeadEncrypt (ctx.keys key).psaKeyId (ctx.nextIv key) (buildAuthData auth slot.spi (if gcm then [] else clear))
      (if gcm then clear else [])
    result := answer }

theorem applySecurity_encrypts (role : SaRole) (slot : SaSlot) (auth : AuthHeader) (data : DataPointer) (outOffset : Nat)
    (s : State) :
    (applySecurity role slot auth data outOffset).wp anyPsa
      (fun t _ _ => ∃ key ciphertext, s.ctx.operationalKey slot role true = .ok key ∧
        ciphertext.length = (if s.ctx.saModes slot = .gcm then (data.read s.out).length else 0) + tagLen ∧
        t = [s.ctx.encryption auth slot key (data.read s.out) (.success, ciphertext)])
      (fun _ _ _ => True) s := by
  simp only [applySecurity, Fallible.wp_bind, Fallible.wp_read, Fallible.wp_ofExcept, Fallible.wp_modify,
    wp_psaAeadEncrypt, Fallible.wp_failIf, List.nil_append, implies_true, and_true, true_and]
  rintro key operational ⟨status, ciphertext⟩ answered
  rw [not_or, not_not, not_not] at answered
  obtain ⟨rfl, whole⟩ := answered
  have length : ciphertext.length = (if s.ctx.saModes slot = .gcm then (data.read s.out).length else 0) + tagLen := by
    rw [whole]
    by_cases gcm : s.ctx.saModes slot = .gcm
    · simp [gcm]
    · simp [gcm]
  rw [Fallible.wp_ite]
  constructor
  · intro _
    simp only [Fallible.wp_bind, Fallible.wp_modify, List.append_nil]
    exact ⟨key, ciphertext, operational, length, rfl⟩
  · intro _
    simp only [Fallible.wp_bind, Fallible.wp_modify, List.append_nil]
    exact ⟨key, ciphertext, operational, length, rfl⟩

/-- The encryptions of a trace have no additional data. -/
def Bare (t : List Item) : Prop := ∀ item ∈ t, ∀ encryption, item.encryption = some encryption →
  encryption.additionalData = []

theorem bare_of_unencrypted {t : List Item} (none : t.filterMap Item.encrypted = []) : Bare t := by
  intro item mem encryption found
  have absent := List.filterMap_eq_nil_iff.mp none item mem
  obtain ⟨ctx, op, answer⟩ := item
  cases op with
  | aeadEncrypt => simp [Item.encrypted] at absent
  | _ => simp [Item.encryption] at found

theorem encryptChallenges_bare (pairs : List (KeySlot × Bytes)) (iv : UInt64) (s : State) :
    (encryptChallenges pairs iv).wp anyPsa (fun t _ _ => Bare t) (fun _ _ _ => True) s := by
  induction pairs generalizing iv s with
  | nil => exact fun item mem => absurd mem List.not_mem_nil
  | cons pair pairs ih =>
    obtain ⟨slot, challenge⟩ := pair
    simp only [encryptChallenges, Fallible.wp_bind, Fallible.wp_read, wp_psaAeadEncrypt, Fallible.wp_failIf,
      Fallible.wp_pure, List.nil_append, List.append_nil, implies_true, true_and]
    intro answer _
    apply Fallible.wp_mono (ih (iv + ivStride) s)
    · intro t r s' bare item mem encryption found
      rcases List.mem_append.mp mem with first | later
      · obtain rfl := List.mem_singleton.mp first
        by_cases succeeded : answer.1 = .success
        · simp only [Item.encryption, succeeded, if_true, Option.some.injEq] at found
          rw [← found]
        · simp [Item.encryption, succeeded] at found
      · exact bare item later encryption found
    · exact fun _ _ _ _ => trivial

theorem processKeyVerification_bare (encoded : Bytes) (s : State) :
    (processKeyVerification encoded).wp anyPsa (fun t _ _ => Bare t) (fun _ _ _ => True) s := by
  simp only [processKeyVerification, Fallible.wp_bind, Fallible.wp_ofExcept, Fallible.wp_read, Fallible.wp_modify,
    List.nil_append, List.append_nil, implies_true, and_true]
  intro entries _
  apply Fallible.wp_mono (checkRecipients_spec _ _ _ _ s)
  · rintro t slots s₁ ⟨⟨_, clear⟩, _⟩
    apply Fallible.wp_mono (encryptChallenges_bare _ _ s₁)
    · intro u r s₂ bare item mem encryption found
      rcases List.mem_append.mp mem with first | later
      · exact bare_of_unencrypted clear item first encryption found
      · exact bare item later encryption found
    · exact fun _ _ _ _ => trivial
  · exact fun _ _ _ _ => trivial

theorem recipient_bare {pdu : EpPdu} (verifies : pdu.procedure = .keyVerification) (encoded : Bytes) (s : State) :
    (recipient pdu encoded).wp anyPsa (fun t _ _ => Bare t) (fun _ _ _ => True) s := by
  simp only [recipient, verifies, Fallible.wp_bind, Fallible.wp_pure, List.append_nil]
  exact processKeyVerification_bare encoded s

theorem processPdu_bare {pdu : EpPdu} {encoded : Bytes} (decoded : epPduDecode encoded = .ok pdu)
    (verifies : pdu.procedure = .keyVerification) (s : State) :
    (processPdu encoded).wp anyPsa (Fallible.either (fun t _ _ => Bare t) fun _ _ _ => True) s := by
  have named : (runPdu encoded).2 = recipient pdu encoded := by
    unfold runPdu
    rw [decoded]
  simp only [processPdu, Prog.wp_bind, Prog.wp_read, List.nil_append, named]
  apply Prog.wp_mono (recipient_bare verifies encoded s)
  intro t r s' reached
  cases r with
  | ok len =>
    simp only [Prog.wp_bind, Prog.wp_modify, Prog.wp_pure, List.append_nil, Fallible.either_ok]
    exact reached
  | error e => simp only [Prog.wp_bind, Prog.wp_modify, Prog.wp_pure, Fallible.either_error]

/-- Key verifications encrypt without additional data. -/
theorem Step.bare {ctx ctx' : Ctx} {label : Label} (step : Step ctx label ctx')
    (verifies : label.call.procedure = some .keyVerification) (succeeded : label.result = .ok ()) :
    Bare label.trace := by
  obtain ⟨call, t, result⟩ := label
  obtain ⟨s, s', rfl, rfl, runs⟩ := step
  cases succeeded
  cases call with
  | processPdu encoded =>
    cases decoded : epPduDecode encoded with
    | error e => simp [Call.procedure, Call.command, decoded, Except.toOption] at verifies
    | ok pdu =>
      have named : pdu.procedure = .keyVerification := by
        simpa [Call.procedure, Call.command, decoded, Except.toOption] using verifies
      exact Prog.wp_of_runs (processPdu_bare decoded named s) runs
  | recipient pdu encoded =>
    have named : pdu.procedure = .keyVerification := by simpa [Call.procedure, Call.command] using verifies
    have post : (do
        let _ ← recipient pdu encoded
        pure () : Recipient Unit).wp anyPsa (fun t _ _ => Bare t) (fun _ _ _ => True) s := by
      simp only [Fallible.wp_bind, Fallible.wp_pure, List.append_nil]
      exact recipient_bare named encoded s
    exact Fallible.ok_of_runs post runs
  | _ => simp [Call.procedure, Call.command] at verifies

theorem Step.unbound {ctx ctx' : Ctx} {label : Label} (step : Step ctx label ctx') {encryption : Encryption}
    (mem : encryption ∈ label.encryptions) (unprotected : label.call.isProtection = false) :
    encryption.additionalData = [] := by
  have bare := step.bare
  obtain ⟨call, t, result⟩ := label
  cases result with
  | error e => simp [Label.encryptions] at mem
  | ok _ =>
    by_cases verifies : call.procedure = some .keyVerification
    · simp only [Label.encryptions, verifies, or_true, if_true, List.mem_filterMap] at mem
      obtain ⟨item, listed, found⟩ := mem
      exact bare verifies rfl item listed encryption found
    · simp [Label.encryptions, unprotected, verifies] at mem

/-- An encryption with additional data is made for a frame of a transmit SA. -/
theorem Passage.Step.sends {ctx ctx' : Ctx} {passage : Passage} {encryption : Encryption}
    (step : Passage.Step ctx passage ctx') (mem : encryption ∈ passage.label.encryptions)
    (bound : encryption.additionalData ≠ []) :
    ∃ slot auth gcm frame, passage.sent slot = some frame ∧ passage.label.call.auth = some auth ∧
      (ctx.saRoles slot).isTx = true ∧ Covers auth slot gcm frame encryption := by
  have unbound := @Step.unbound _ _ _ _ step.step encryption
  obtain ⟨⟨call, t, result⟩, clear⟩ := passage
  obtain ⟨s, s', rfl, rfl, runs, read⟩ := step
  cases result with
  | error e => simp [Label.encryptions] at mem
  | ok _ =>
    -- Only the protection of a frame binds what it encrypts.
    cases call with
    | applySecurity role slot auth data outOffset =>
      obtain ⟨key, ciphertext, operational, length, rfl⟩ :=
        Fallible.ok_of_runs (applySecurity_encrypts role slot auth data outOffset s) runs
      obtain rfl : encryption =
          { nonce := s.ctx.nextIv key
            additionalData := buildAuthData auth slot.spi
              (if decide (s.ctx.saModes slot = .gcm) then [] else data.read s.out)
            plaintext := if decide (s.ctx.saModes slot = .gcm) then data.read s.out else []
            ciphertext } := by
        simpa [Label.encryptions, Call.isProtection, Item.encryption, Ctx.encryption] using mem
      have read : clear = data.read s.out := read
      refine ⟨slot, auth, decide (s.ctx.saModes slot = .gcm), ⟨ivArsn (s.ctx.nextIv key), auth.masked, clear⟩, ?_, rfl,
        (Ctx.operationalKey_ok operational).direction, rfl, rfl, ?_, ?_, ?_⟩
      · simp [Passage.sent, Label.sentArsn, Label.consumed, Call.isProtection, Item.encrypted, Ctx.encryption, Passage.frame,
          Call.auth]
      · rw [read]
      · intro gcm
        rw [read]
        simp only [gcm, if_true]
      · rw [read]
        simpa using length
    | _ => exact absurd (unbound mem rfl) bound

/-! ## Acceptance -/

/-- A frame is accepted when PSA has decrypted what covers it. -/
theorem Passage.Step.accepts {ctx ctx' : Ctx} {passage : Passage} {slot : SaSlot} {frame : Frame}
    (step : Passage.Step ctx passage ctx') (accepted : passage.accepted slot = some frame) :
    ∃ auth gcm encryption, passage.label.call.auth = some auth ∧ passage.label.opened = some encryption ∧
      (ctx.saRoles slot).isTx = false ∧ Covers auth slot gcm frame encryption := by
  obtain ⟨⟨call, t, result⟩, clear⟩ := passage
  obtain ⟨s, s', rfl, rfl, runs, left⟩ := step
  obtain ⟨arsn, admitted, rfl⟩ := Option.map_eq_some_iff.mp accepted
  cases call with
  | processSecurity role auth protectedData =>
    cases processSecurity_runs runs with
    | @accepted header target key plaintext keyed fresh whole =>
      have framed := keyed.framed
      have spi : spiField protectedData = target.spi := by
        rw [← securityHeaderDecode_spi keyed.decoded, (Ctx.saLookup_some keyed.found).1]
      have named : header.spi = target.spi := (Ctx.saLookup_some keyed.found).1.symm
      have iv : header.iv = protectedData.slice 2 ivLen := securityHeaderDecode_iv keyed.decoded
      have same : target = slot ∧ ivArsn header.iv = arsn := by
        rw [Label.acceptedArsn] at admitted
        by_cases here : spiField protectedData = slot.spi
        · simp only [here, if_true, Option.some.injEq] at admitted
          exact ⟨SaSlot.spi_injective (spi.symm.trans here), by rw [iv]; exact admitted⟩
        · simp [here] at admitted
      obtain ⟨rfl, rfl⟩ := same
      have dataLength : (protectedData.slice securityHeaderLen (protectedData.length - protectedOverhead)).length =
          protectedData.length - protectedOverhead := by
        apply Bytes.slice_length_of_le
        unfold protectedOverhead at framed ⊢
        omega
      have tagLength := tagField_length framed
      rw [tagField] at tagLength
      have transmits := (Ctx.operationalKey_ok keyed.operational).direction
      -- The clear data stands at the start of the output buffer.
      have left : clear = if s.ctx.saModes target = .gcm then plaintext
          else protectedData.slice securityHeaderLen (protectedData.length - protectedOverhead) := by
        have put : ∀ bytes : Bytes, bytes.length = protectedData.length - protectedOverhead →
            (s.out.overwrite 0 bytes).take (protectedData.length - protectedOverhead) = bytes := by
          intro bytes length
          rw [← length, Bytes.overwrite, List.take_zero, List.nil_append, List.take_left]
        refine Eq.trans left (put _ ?_)
        by_cases gcm : s.ctx.saModes target = .gcm
        · rw [if_pos gcm, whole gcm]
        · rw [if_neg gcm, dataLength]
      refine ⟨auth, decide (s.ctx.saModes target = .gcm),
        { nonce := header.iv
          additionalData := _
          plaintext
          ciphertext := _ }, rfl, rfl, transmits, rfl, rfl, ?_, ?_, ?_⟩
      · by_cases gcm : s.ctx.saModes target = .gcm
        · simp [gcm, named]
        · simp [gcm, named, Passage.frame, left]
      · intro gcm
        have gcm := of_decide_eq_true gcm
        simp [gcm, Passage.frame, left]
      · by_cases gcm : s.ctx.saModes target = .gcm
        · simp [gcm, dataLength, tagLength, Passage.frame, left, whole gcm]
        · simp [gcm, tagLength]
    | _ => simp [Label.acceptedArsn] at admitted
  | _ => simp [Label.acceptedArsn] at admitted

/-! ## Order -/

/-- Frames of one SA are numbered by their ARSN. -/
def Frame.number (frame : Frame) : Nat := frame.arsn.toNat

theorem number_frame (arsn : Passage → Option UInt32) :
    (fun passage => (arsn passage).map UInt32.toNat) =
      fun passage => ((arsn passage).map passage.frame).map Frame.number := by
  funext passage
  rw [Option.map_map]
  rfl

theorem accepted_watermark (slot : SaSlot) :
    Watermark Passage.Step (fun ctx => (ctx.sas slot).mark) (fun passage => (passage.accepted slot).map Frame.number)
      fun passage a => ∃ rxArsn, passage.label.RekeysTo slot rxArsn ∧ rxArsn.toNat < a := by
  have mark := (receive_watermark slot).comap Passage.label fun _ _ _ step => Passage.Step.step step
  rwa [number_frame fun passage => passage.label.acceptedArsn slot] at mark

theorem sent_watermark (slot : SaSlot) :
    Watermark (fun ctx passage ctx' => Passage.Step ctx passage ctx' ∧ ¬passage.label.Renews slot)
      (fun ctx => Watermark.below (ctx.nextArsn slot)) (fun passage => (passage.sent slot).map Frame.number)
      fun _ _ => False := by
  have refines : ∀ (ctx : Ctx) (passage : Passage) (ctx' : Ctx),
      Passage.Step ctx passage ctx' ∧ ¬passage.label.Renews slot →
        Sdls.Step ctx passage.label ctx' ∧ ¬passage.label.Renews slot :=
    fun _ _ _ step => ⟨step.1.step, step.2⟩
  have mark := (transmit_watermark slot).comap Passage.label refines
  rwa [number_frame fun passage => passage.label.sentArsn slot] at mark

/-! ## The channel -/

section Channel

variable {ι : Type} [DecidableEq ι]

/-- The contexts of all parties, with the encryptions that have left them -/
abbrev Contexts (ι : Type) : Type := Parties ι Ctx Encryption

/-- A call at one of the contexts: PSA decrypts no frame that no context has encrypted. -/
abbrev Contexts.Step : Contexts ι → ι × Passage → Contexts ι → Prop :=
  Parties.Step Passage.Step (fun passage => passage.label.opened) fun passage => passage.label.encryptions

/-- The frames that a party has protected for an SA -/
def sentFrames (i : ι) (slot : SaSlot) (passages : List (ι × Passage)) : List Frame :=
  (Parties.labelsOf i passages).filterMap (Passage.sent slot)

/-- The frames that a party has accepted for an SA -/
def acceptedFrames (i : ι) (slot : SaSlot) (passages : List (ι × Passage)) : List Frame :=
  (Parties.labelsOf i passages).filterMap (Passage.accepted slot)

/-- The roles of the SAs are never written. -/
theorem run_saRoles {start final : Ctx} {passages : List Passage} (run : Run Passage.Step start passages final)
    (slot : SaSlot) : final.saRoles slot = start.saRoles slot := by
  refine @Run.invariant _ _ _ _ _ _ (fun ctx => ctx.saRoles slot = start.saRoles slot) ?_ rfl run
  intro ctx passage ctx' same step
  exact (step.step.moves.associations slot).role.trans same

/-- The step of a party in the middle of a run, with the roles that it has at the start -/
theorem step_of_mem {start final : Contexts ι} {passages : List (ι × Passage)} (run : Run Contexts.Step start passages final)
    {i : ι} {passage : Passage} (mem : (i, passage) ∈ passages) :
    ∃ ctx ctx', Passage.Step ctx passage ctx' ∧ ∀ slot, ctx.saRoles slot = (start.party i).saRoles slot := by
  have own := Parties.run_party run i
  obtain ⟨front, back, parted⟩ := List.append_of_mem (Parties.mem_labelsOf.mpr mem)
  rw [parted] at own
  obtain ⟨ctx, before, after⟩ := own.split
  cases after with
  | @step _ ctx' _ _ _ first _ => exact ⟨ctx, ctx', first, run_saRoles before⟩

variable {start final : Contexts ι} {passages : List (ι × Passage)} {receiver sender : ι} {slot : SaSlot} {headerLen : Nat}

/-- Every accepted frame has been protected by the only party that transmits on the SA. -/
theorem accepted_of_sent (run : Run Contexts.Step start passages final) (unknown : start.known = [])
    (only : ∀ i, ((start.party i).saRoles slot).isTx = true → i = sender)
    (framed : ∀ passage ∈ passages, ∀ auth ∈ passage.2.label.call.auth, auth.data.length = headerLen) :
    ∀ frame ∈ acceptedFrames receiver slot passages, frame ∈ sentFrames sender slot passages := by
  intro frame mem
  obtain ⟨passage, own, accepted⟩ := List.mem_filterMap.mp mem
  have listed := Parties.mem_labelsOf.mp own
  obtain ⟨ctx, ctx', step, _⟩ := step_of_mem run listed
  obtain ⟨auth, gcm, encryption, given, opened, _, covers⟩ := step.accepts accepted
  -- PSA has decrypted it, so that some party has encrypted it.
  rcases Parties.heard_said run listed opened with early | ⟨i, other, mem', said⟩
  · rw [unknown] at early
    exact absurd early List.not_mem_nil
  · obtain ⟨ctx₁, ctx₁', step', roles⟩ := step_of_mem run mem'
    have bound : encryption.additionalData ≠ [] := by
      rw [covers.additionalData]
      simp [buildAuthData, ivLen]
    obtain ⟨slot', auth', gcm', frame', sent, given', transmits, covers'⟩ := step'.sends said bound
    have lengths : auth.data.length = auth'.data.length :=
      (framed _ listed auth given).trans (framed _ mem' auth' given').symm
    obtain ⟨rfl, rfl⟩ := covers.same lengths covers'
    obtain rfl := only i (by rw [← roles]; exact transmits)
    exact List.mem_filterMap.mpr ⟨other, Parties.mem_labelsOf.mpr mem', sent⟩

theorem secure_channel (run : Run Contexts.Step start passages final) (unknown : start.known = [])
    (only : ∀ i, ((start.party i).saRoles slot).isTx = true → i = sender)
    (framed : ∀ passage ∈ passages, ∀ auth ∈ passage.2.label.call.auth, auth.data.length = headerLen) :
    (∀ frame ∈ acceptedFrames receiver slot passages, frame ∈ sentFrames sender slot passages) ∧
    ((∀ passage, (receiver, passage) ∈ passages → ∀ rxArsn, ¬passage.label.RekeysTo slot rxArsn) →
      (∀ passage, (sender, passage) ∈ passages → ¬passage.label.Renews slot) →
        (acceptedFrames receiver slot passages).Sublist (sentFrames sender slot passages)) := by
  refine ⟨accepted_of_sent run unknown only framed, fun unlowered steady => ?_⟩
  have steadily := (Parties.run_party run sender).restrict fun passage own =>
    steady passage (Parties.mem_labelsOf.mp own)
  apply (accepted_watermark slot).in_order (sent_watermark slot) (Parties.run_party run receiver) steadily
  · rintro passage own _ ⟨rxArsn, rekeys, _⟩
    exact unlowered passage (Parties.mem_labelsOf.mp own) rxArsn rekeys
  · exact fun _ _ _ renewed => renewed
  · exact accepted_of_sent run unknown only framed

end Channel

end ZephyrCcsds.Sdls

namespace ZephyrCcsds.Sdls

open Callback

section Sample

attribute [local instance] defaultKconfig

def playPassage (s : State) (scripted : ScriptedCall) : Option (Passage × Ctx) :=
  ((scripted.1.body s).record (fun s op r => (⟨s.ctx, op, r⟩ : Item)) scripted.2).map fun played =>
    (⟨⟨scripted.1, played.1, played.2.1⟩, scripted.1.clear s played.2.2⟩, played.2.2.ctx)

theorem step_of_playPassage {s : State} {scripted : ScriptedCall} {passage : Passage} {ctx : Ctx}
    (played : playPassage s scripted = some (passage, ctx)) :
    Passage.Step s.ctx passage ctx ∧ passage.label.call = scripted.1 := by
  obtain ⟨⟨t, result, s'⟩, recorded, same⟩ := Option.map_eq_some_iff.mp played
  cases same
  exact ⟨⟨s, s', rfl, rfl, Act.runs_of_record recorded, rfl⟩, rfl⟩

def protectCall : Call := .applySecurity .operationalTmTx transmitSlot sampleHeader (.within 20 4) 6

def receiveCall : Call := .processSecurity .operationalTcRx otherHeader sampleSpan

/-- A frame is protected and accepted, and refused when it comes again. -/
def channelSample : Option ((Passage × Ctx) × (Passage × Ctx) × Passage × Ctx) :=
  (playPassage clearFrame (protectCall,
    [⟨.aeadEncrypt 15 (List.replicate ivLen 0) sampleAad [0xc0, 0x01, 0x02, 0x03],
      (.success, sampleSpan.drop securityHeaderLen)⟩])).bind fun first =>
    (playPassage receiverSample (receiveCall,
      [⟨.aeadDecrypt 15 (List.replicate ivLen 0) sampleAad (sampleSpan.drop securityHeaderLen),
        (.success, [0xc0, 0x01, 0x02, 0x03])⟩])).bind fun second =>
      (playPassage { receiverSample with ctx := second.2 } (receiveCall, [])).map fun third => (first, second, third)

def channelStart : Contexts Bool where
  party receives := if receives then receiverSample.ctx else clearFrame.ctx
  known := []

/-- What the run of the sample needs and shows -/
def channelChecks (first second third : Passage) : Prop :=
  first.label.opened = none ∧ third.label.opened = none ∧
    (∀ encryption ∈ second.label.opened, encryption ∈ first.label.encryptions) ∧
    (∀ used ∈ first.label.consumed, (ivArsn used.2).toNat + 1 ≠ 2 ^ 32) ∧
    (first.sent transmitSlot).map (·.clear) = some [0xc0, 0x01, 0x02, 0x03] ∧
    second.accepted transmitSlot = first.sent transmitSlot ∧ third.accepted transmitSlot = none

instance (first second third : Passage) : Decidable (channelChecks first second third) :=
  inferInstanceAs (Decidable (_ ∧ _))

theorem secure_channel_sample : ∃ passages final, Run Contexts.Step channelStart passages final ∧
    (acceptedFrames true transmitSlot passages).length = 1 ∧
    (acceptedFrames true transmitSlot passages).Sublist (sentFrames false transmitSlot passages) := by
  have held : (channelSample.any fun played =>
      decide (channelChecks played.1.1 played.2.1.1 played.2.2.1)) = true := by
    decide +kernel
  obtain ⟨⟨⟨first, ctx₁⟩, ⟨second, ctx₂⟩, third, ctx₃⟩, played, checked⟩ := (Option.any_eq_true _ _).mp held
  have checks : channelChecks first second third := of_decide_eq_true checked
  obtain ⟨unopened₁, unopened₃, opened₂, unexhausted, sent, accepted, refused⟩ := checks
  obtain ⟨first', one, rest⟩ := Option.bind_eq_some_iff.mp played
  obtain ⟨second', two, rest⟩ := Option.bind_eq_some_iff.mp rest
  obtain ⟨third', three, same⟩ := Option.map_eq_some_iff.mp rest
  cases same
  obtain ⟨step₁, call₁⟩ := step_of_playPassage one
  obtain ⟨step₂, call₂⟩ := step_of_playPassage two
  obtain ⟨step₃, call₃⟩ := step_of_playPassage three
  have moves : ∀ {all : Contexts Bool} {i : Bool} {s : State} {passage : Passage} {ctx : Ctx},
      Passage.Step s.ctx passage ctx → all.party i = s.ctx →
        (∀ encryption, passage.label.opened = some encryption → encryption ∈ all.known) →
          Contexts.Step all (i, passage)
            { party := Function.update all.party i ctx, known := all.known ++ passage.label.encryptions } := by
    intro all i s passage ctx step here hears
    exact .moves (here ▸ step) hears
  obtain ⟨final, run⟩ : ∃ final, Run Contexts.Step channelStart [(false, first), (true, second), (true, third)]
      final := by
    refine ⟨_, .step (moves step₁ rfl ?_) (.step (moves step₂ ?_ ?_) (.single (moves step₃ ?_ ?_)))⟩
    · simp [unopened₁]
    · simp [channelStart]
    · exact fun encryption opened => List.mem_append_right _ (opened₂ encryption opened)
    · simp
    · simp [unopened₃]
  refine ⟨_, _, run, ?_, (@secure_channel _ _ _ _ _ _ true false transmitSlot 6 run rfl ?_ ?_).2 ?_ ?_⟩
  · have one : (first.sent transmitSlot).isSome = true := by
      have some := congrArg Option.isSome sent
      rwa [Option.isSome_map] at some
    obtain ⟨frame, found⟩ := Option.isSome_iff_exists.mp one
    simp [acceptedFrames, Parties.labelsOf, accepted, refused, found]
  · intro i transmits
    cases i with
    | false => rfl
    | true => exact absurd transmits (by decide)
  · simp [call₁, call₂, call₃, Call.auth, protectCall, receiveCall, sampleHeader, otherHeader]
  · intro passage mem rxArsn
    rintro ⟨encoded, command, named, _⟩
    simp only [List.mem_cons, Prod.mk.injEq, List.not_mem_nil, or_false, Bool.true_eq_false, false_and, false_or,
      true_and] at mem
    rcases mem with rfl | rfl
    · simp [call₂, receiveCall, Call.command] at named
    · simp [call₃, receiveCall, Call.command] at named
  · intro passage mem renews
    obtain rfl : passage = first := by simpa using mem
    rcases renews with ⟨_, _, named, _⟩ | ⟨_, named, _⟩ | ⟨used, taken, last⟩
    · simp [call₁, protectCall, Call.command] at named
    · simp [call₁, protectCall, Call.command] at named
    · exact unexhausted used taken last

end Sample

end ZephyrCcsds.Sdls
