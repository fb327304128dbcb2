import Mathlib.Data.List.Forall2
import Mathlib.Data.List.Nodup
import ZephyrCcsds.Sdls.CarrierRule
import ZephyrCcsds.Sdls.EpLimit
import ZephyrCcsds.Sdls.RoundTrip

/-! # Key verification, end to end

The initiator sends challenges.  The recipient encrypts each under the key that it names, and the initiator decrypts
what comes back with its own keys.

**Main results:**

- `checkAnswers_opens`: the check succeeds exactly if every answer opens.
- `processPdu_answers`: the reply in the output buffer carries the encryption of every challenge.
- `verification_compares_keys`: the octets of command and reply make it a comparison of the keys on both sides.
-/

namespace ZephyrCcsds.Sdls

open Callback Records

variable [Kconfig]

/-! ## The check of the initiator -/

/-- The loop of `ccsds_sdls_ep_check_key_verification` over the entries of the command and the reply -/
def checkAnswers : List (EpVerifyCommandEntry × EpVerifyReplyEntry) → List Nat → Recipient Unit
  | [], _ => pure ()
  | (asked, answer) :: rest, seen => do
    let s ← Fallible.read
    Fallible.failIf (answer.keyId ≠ asked.keyId) .key
    match s.ctx.sessionRecipient answer.keyId seen with
    | none => Fallible.fail .key
    | some slot =>
      validateKey (s.ctx.keys slot).psaKeyId .decryptOnly
      let clear ← psaAeadDecrypt (s.ctx.keys slot).psaKeyId answer.iv [] (answer.encryptedChallenge ++ answer.tag)
      Fallible.failIf (clear.1 ≠ .success) (if clear.1 = .invalidSignature then .authentication else .psa)
      Fallible.failIf (clear.2.length ≠ epChallengeLen ∨ clear.2 ≠ asked.challenge) .authentication
      checkAnswers rest (answer.keyId :: seen)

/-- `ccsds_sdls_ep_check_key_verification` -/
def checkKeyVerification (commandEncoded replyEncoded : Bytes) : Recipient Unit := do
  let command ← Fallible.ofExcept (epVerifyCommandDecode commandEncoded)
  let reply ← Fallible.ofExcept (epVerifyReplyDecode replyEncoded)
  Fallible.failIf (reply.length ≠ command.length) .format
  checkAnswers (command.zip reply) []

/-! ### Key stores -/

/-- A PSA with the material and the attributes of its keys -/
structure PsaStore (K : Type) where
  material : PsaKeyId → K
  attributes : PsaKeyId → PsaKeyAttributes

variable {K : Type}

/-- What such a PSA answers beyond `Aead.Answers`: it knows the attributes, and sees that a tag does not fit. -/
def PsaStore.Reports (store : PsaStore K) (scheme : Aead K) : (op : PsaOp) → PsaRes op → Prop
  | .getKeyAttributes key, answer => answer = (.success, store.attributes key)
  | .aeadDecrypt key nonce aad ciphertext, answer =>
    scheme.decrypt (store.material key) nonce aad ciphertext = none → answer.1 = .invalidSignature
  | .aeadEncrypt _ _ _ _, _ => True
  | .importKey _ _, _ => True
  | .destroyKey _, _ => True
  | .selfTest, _ => True

def PsaStore.Answers (store : PsaStore K) (scheme : Aead K) (op : PsaOp) (answer : PsaRes op) : Prop :=
  scheme.Answers store.material op answer ∧ store.Reports scheme op answer

abbrev PsaStore.psa (store : PsaStore K) (scheme : Aead K) : Environment PsaOp PsaRes State Item :=
  answering (store.Answers scheme) fun s op answer => ⟨s.ctx, op, answer⟩

/-- Such a PSA answers every call. -/
theorem PsaStore.psa_answers (store : PsaStore K) (scheme : Aead K) (s : State) (op : PsaOp) :
    ∃ answer t s', store.psa scheme s op answer t s' := by
  cases op with
  | getKeyAttributes key => exact ⟨(.success, store.attributes key), _, _, ⟨trivial, rfl⟩, rfl, rfl⟩
  | aeadEncrypt key nonce aad plaintext =>
    refine ⟨(.success, scheme.encrypt (store.material key) nonce aad plaintext), _, _, ⟨?_, trivial⟩, rfl, rfl⟩
    exact fun _ => rfl
  | aeadDecrypt key nonce aad ciphertext =>
    cases opened : scheme.decrypt (store.material key) nonce aad ciphertext with
    | none =>
      refine ⟨(.invalidSignature, []), _, _, ⟨fun _ found => ?_, fun _ => rfl⟩, rfl, rfl⟩
      rw [opened] at found
      cases found
    | some plaintext =>
      refine ⟨(.success, plaintext), _, _, ⟨fun plaintext' found => ?_, fun refused => ?_⟩, rfl, rfl⟩
      · rw [opened] at found
        cases found
        rfl
      · rw [opened] at refused
        cases refused
  | importKey attributes data => exact ⟨(.failure, psaKeyIdNull), _, _, ⟨trivial, trivial⟩, rfl, rfl⟩
  | destroyKey key => exact ⟨.success, _, _, ⟨trivial, trivial⟩, rfl, rfl⟩
  | selfTest => exact ⟨(0, 0), _, _, ⟨trivial, trivial⟩, rfl, rfl⟩

section Rules

variable {store : PsaStore K} {scheme : Aead K} {F : List Item → SdlsError → State → Prop} {s : State}

theorem validateKey_fits {key : PsaKeyId} {usage : PsaKeyUsage} (fits : (store.attributes key).fits usage = true) :
    (validateKey key usage).wp (store.psa scheme) (fun _ _ s' => s' = s) (fun _ _ _ => False) s := by
  simp only [validateKey, psaGetKeyAttributes, Fallible.wp_bind, Fallible.wp_call_answering, Fallible.wp_failIf]
  rintro answer ⟨-, rfl⟩
  simp [fits]

theorem wp_psaAeadDecrypt_some {key : PsaKeyId} {nonce aad ciphertext plaintext : Bytes}
    (opened : scheme.decrypt (store.material key) nonce aad ciphertext = some plaintext)
    {Q : List Item → PsaStatus × Bytes → State → Prop}
    (post : Q [⟨s.ctx, .aeadDecrypt key nonce aad ciphertext, (.success, plaintext)⟩] (.success, plaintext) s) :
    (psaAeadDecrypt key nonce aad ciphertext).wp (store.psa scheme) Q F s := by
  rw [psaAeadDecrypt, Fallible.wp_call_answering]
  intro answer answers
  rwa [answers.1 plaintext opened]

theorem wp_psaAeadDecrypt_none {key : PsaKeyId} {nonce aad ciphertext : Bytes}
    (refused : scheme.decrypt (store.material key) nonce aad ciphertext = none)
    {Q : List Item → PsaStatus × Bytes → State → Prop}
    (post : ∀ answer : PsaStatus × Bytes, answer.1 = .invalidSignature →
      Q [⟨s.ctx, .aeadDecrypt key nonce aad ciphertext, answer⟩] answer s) :
    (psaAeadDecrypt key nonce aad ciphertext).wp (store.psa scheme) Q F s := by
  rw [psaAeadDecrypt, Fallible.wp_call_answering]
  exact fun answer answers => post answer (answers.2 refused)

end Rules

/-! ### Answers that open -/

/-- The initiator can decrypt with the session key of a slot. -/
structure Holds (store : PsaStore K) (ctx : Ctx) (slot : KeySlot) : Prop where
  session : sessionKeyBase ≤ slot.val
  present : (ctx.keys slot).psaKeyId ≠ psaKeyIdNull
  fits : (store.attributes (ctx.keys slot).psaKeyId).fits .decryptOnly = true

/-- An answer decrypts to its challenge. -/
def Opens (scheme : Aead K) (store : PsaStore K) (ctx : Ctx) (asked : EpVerifyCommandEntry)
    (answer : EpVerifyReplyEntry) : Prop :=
  ∀ slot : KeySlot, slot.val = asked.keyId → scheme.decrypt (store.material (ctx.keys slot).psaKeyId) answer.iv []
    (answer.encryptedChallenge ++ answer.tag) = some asked.challenge

theorem Ctx.sessionRecipient_of_unseen {ctx : Ctx} {slot : KeySlot} {seen : List Nat}
    (session : sessionKeyBase ≤ slot.val) (present : (ctx.keys slot).psaKeyId ≠ psaKeyIdNull)
    (unseen : slot.val ∉ seen) : ctx.sessionRecipient slot.val seen = some slot := by
  have known : ¬ (slot.val < sessionKeyBase ∨ slot.val ≥ maxKeys ∨ slot.val ∈ seen) := by
    have inside := slot.isLt
    rw [not_or, not_or]
    exact ⟨by omega, by omega, unseen⟩
  unfold Ctx.sessionRecipient Ctx.keyLookup
  rw [if_neg known, dif_pos slot.isLt, if_neg present]

variable {store : PsaStore K} {scheme : Aead K} {s : State}

/-- The check succeeds exactly if every answer opens. -/
theorem checkAnswers_opens {pairs : List (EpVerifyCommandEntry × EpVerifyReplyEntry)} {seen : List Nat}
    (named : ∀ pair ∈ pairs, pair.2.keyId = pair.1.keyId)
    (held : ∀ pair ∈ pairs, ∃ slot : KeySlot, slot.val = pair.1.keyId ∧ Holds store s.ctx slot)
    (sized : ∀ pair ∈ pairs, pair.1.challenge.length = epChallengeLen)
    (nodup : (pairs.map (·.1.keyId)).Nodup) (unseen : ∀ pair ∈ pairs, pair.1.keyId ∉ seen) :
    (checkAnswers pairs seen).wp (store.psa scheme)
      (fun _ _ s' => s' = s ∧ ∀ pair ∈ pairs, Opens scheme store s.ctx pair.1 pair.2)
      (fun _ error s' => s' = s ∧ error = .authentication ∧
        ∃ pair ∈ pairs, ¬ Opens scheme store s.ctx pair.1 pair.2) s := by
  induction pairs generalizing seen with
  | nil => exact ⟨rfl, by simp⟩
  | cons pair pairs ih =>
    obtain ⟨asked, answer⟩ := pair
    obtain ⟨same, named⟩ := List.forall_mem_cons.mp named
    obtain ⟨⟨slot, here, holds⟩, held⟩ := List.forall_mem_cons.mp held
    obtain ⟨size, sized⟩ := List.forall_mem_cons.mp sized
    obtain ⟨new, unseen⟩ := List.forall_mem_cons.mp unseen
    rw [List.map_cons, List.nodup_cons] at nodup
    dsimp only at same here size new
    have found : s.ctx.sessionRecipient answer.keyId seen = some slot := by
      rw [same, ← here]
      exact Ctx.sessionRecipient_of_unseen holds.session holds.present (by rwa [here])
    have only : ∀ other : KeySlot, other.val = asked.keyId → other = slot := fun other eq =>
      Fin.ext (eq.trans here.symm)
    simp only [checkAnswers, Fallible.wp_bind, Fallible.wp_read, Fallible.wp_failIf, found]
    refine ⟨fun differs => absurd same differs, fun _ => ?_⟩
    apply Fallible.wp_mono (validateKey_fits holds.fits)
    case error => exact fun _ _ _ impossible => impossible.elim
    intro t _ s₁ unchanged
    subst unchanged
    -- The tag does not fit, or the challenge comes back, or something else does.
    cases opened : scheme.decrypt (store.material (s₁.ctx.keys slot).psaKeyId) answer.iv []
        (answer.encryptedChallenge ++ answer.tag) with
    | none =>
      apply wp_psaAeadDecrypt_none opened
      intro clear invalid
      simp only [invalid]
      refine ⟨fun _ => ⟨trivial, rfl, (asked, answer), List.mem_cons_self, fun opens => ?_⟩, fun succeeded => ?_⟩
      case refine_2 => simp at succeeded
      have opens := opens slot here
      dsimp only at opens
      rw [opened] at opens
      cases opens
    | some plaintext =>
      apply wp_psaAeadDecrypt_some opened
      simp only [not_true_eq_false, false_implies, true_and, ne_eq, not_false_eq_true, forall_const]
      by_cases equal : plaintext = asked.challenge
      · subst equal
        refine ⟨fun wrong => by simp [size] at wrong, fun _ => ?_⟩
        -- The command names no key twice, so the `seen` array refuses none of the others.
        have later : ∀ pair ∈ pairs, pair.1.keyId ∉ answer.keyId :: seen := by
          intro pair mem
          rw [List.mem_cons, not_or]
          refine ⟨fun again => nodup.1 ?_, unseen pair mem⟩
          exact List.mem_map.mpr ⟨pair, mem, again.trans same⟩
        apply Fallible.wp_mono (ih named held sized nodup.2 later)
        · intro u _ s₂ rest
          refine ⟨rest.1, List.forall_mem_cons.mpr ⟨fun other eq => ?_, rest.2⟩⟩
          rw [only other eq]
          exact opened
        · intro u e s₂ rest
          obtain ⟨pair, mem, shut⟩ := rest.2.2
          exact ⟨rest.1, rest.2.1, pair, List.mem_cons_of_mem _ mem, shut⟩
      · refine ⟨fun _ => ⟨(asked, answer), List.mem_cons_self, fun opens => equal ?_⟩,
          fun right => absurd (Or.inr equal) right⟩
        have opens := opens slot here
        dsimp only at opens
        rw [opened] at opens
        exact Option.some.inj opens

/-! ## The answers of the recipient -/

variable {stored : PsaKeyId → K}

/-- An entry of a reply is the encryption of the challenge of an entry of a command. -/
structure Answered (scheme : Aead K) (stored : PsaKeyId → K) (ctx : Ctx) (asked : EpVerifyCommandEntry)
    (answer : EpVerifyReplyEntry) : Prop where
  keyId : answer.keyId = asked.keyId
  iv : answer.iv.length = ivLen
  challenge : answer.encryptedChallenge.length = epChallengeLen
  tag : answer.tag.length = tagLen
  encrypted : ∀ slot : KeySlot, slot.val = asked.keyId → answer.encryptedChallenge ++ answer.tag =
    scheme.encrypt (stored (ctx.keys slot).psaKeyId) answer.iv [] asked.challenge

theorem encryptChallenges_answers {slots : List KeySlot} {asked : List EpVerifyCommandEntry}
    (named : slots.map (·.val) = asked.map (·.keyId)) (iv : UInt64) (s : State) :
    (encryptChallenges (slots.zip (asked.map (·.challenge))) iv).wp (scheme.psa stored)
      (fun _ r s' => s' = s ∧ List.Forall₂ (Answered scheme stored s.ctx) asked r.1) (fun _ _ _ => True) s := by
  induction asked generalizing slots iv with
  | nil =>
    obtain rfl : slots = [] := by simpa using named
    exact ⟨rfl, .nil⟩
  | cons entry asked ih =>
    cases slots with
    | nil => simp at named
    | cons slot slots =>
      obtain ⟨here, named⟩ := List.cons.inj named
      simp only [List.map_cons, List.zip_cons_cons, encryptChallenges, Fallible.wp_bind, Fallible.wp_read,
        wp_psaAeadEncrypt_scheme, Fallible.wp_failIf, Fallible.wp_pure, implies_true, true_and]
      intro answer implemented succeeded
      rw [not_or, not_not, not_not] at succeeded
      obtain ⟨succeeded, length⟩ := succeeded
      apply Fallible.wp_mono (ih named (iv + ivStride))
      case error => exact fun _ _ _ _ => trivial
      intro t r s' rest
      -- What PSA returns is cut into challenge and tag, which make it up again.
      refine ⟨rest.1, .cons ⟨here, constructIv_length _ _, ?_, ?_, fun other eq => ?_⟩ rest.2⟩
      · simp [length]
      · simp [length]
      · obtain rfl : other = slot := Fin.ext (eq.trans here.symm)
        show answer.2.take epChallengeLen ++ answer.2.drop epChallengeLen = _
        rw [List.take_append_drop]
        exact implemented succeeded

theorem processKeyVerification_answers {command : Bytes} {asked : List EpVerifyCommandEntry}
    (decoded : epVerifyCommandDecode command = .ok asked) (s : State) :
    (processKeyVerification command).wp (scheme.psa stored)
      (fun _ _ s' => ∃ answers, List.Forall₂ (Answered scheme stored s.ctx) asked answers ∧
        (asked.map (·.keyId)).Nodup ∧ s'.out = s.out.overwrite 0 (epVerifyReplyEncode answers))
      (fun _ _ _ => True) s := by
  unfold processKeyVerification
  rw [decoded]
  simp only [Fallible.wp_bind, Fallible.wp_ofExcept_ok, Fallible.wp_read, Fallible.wp_modify]
  -- What the checks do whatever PSA answers they do with this one.
  have checked := checkRecipients_spec (fun state => decide (state ≠ .deactivated)) .encryptOnly
    (asked.map (·.keyId)) [] s
  apply Fallible.wp_mono (Prog.wp_environment (fun _ _ _ _ _ one => one.2) checked)
  case error => exact fun _ _ _ _ => trivial
  intro t slots s₁ found
  obtain ⟨⟨read, -⟩, named, recipients, -⟩ := found
  obtain rfl := read.1
  apply Fallible.wp_mono (encryptChallenges_answers named s₁.ctx.txIv s₁)
  case error => exact fun _ _ _ _ => trivial
  intro u r s₂ answered
  obtain ⟨rfl, answered⟩ := answered
  exact ⟨r.1, answered, named ▸ recipients.nodup.map fun _ _ => Fin.ext, rfl⟩

/-- What the dispatch makes of a verification command -/
theorem verifyCommand_pdu {command : Bytes} {asked : List EpVerifyCommandEntry}
    (decoded : epVerifyCommandDecode command = .ok asked) : ∃ pdu, epPduDecode command = .ok pdu ∧
      pdu.procedure = .keyVerification ∧
      verificationReplyLen pdu = epHeaderLen + asked.length * epVerifyReplyEntryLen := by
  unfold epVerifyCommandDecode epDataDecode at decoded
  cases parsed : epPduDecode command with
  | error e => simp [parsed] at decoded
  | ok pdu =>
    by_cases other : pdu.type ≠ .command ∨ pdu.procedure ≠ .keyVerification
    · simp [parsed, other] at decoded
    · simp only [parsed, if_neg other] at decoded
      split_ifs at decoded
      rw [not_or, not_not, not_not] at other
      refine ⟨pdu, rfl, other.2, ?_⟩
      rw [← Except.ok.inj decoded, List.length_map, List.length_range]
      rfl

theorem answers_valid {ctx : Ctx} {asked : List EpVerifyCommandEntry} {answers : List EpVerifyReplyEntry}
    (answered : List.Forall₂ (Answered scheme stored ctx) asked answers) (valid : ∀ entry ∈ asked, entry.Valid) :
    ∀ answer ∈ answers, answer.Valid := by
  induction answered with
  | nil => simp
  | cons here _ ih =>
    obtain ⟨first, valid⟩ := List.forall_mem_cons.mp valid
    exact List.forall_mem_cons.mpr ⟨⟨here.keyId ▸ first.keyId, here.iv, here.challenge, here.tag⟩, ih valid⟩

omit [Kconfig] in
theorem epVerifyReplyEncode_length {answers : List EpVerifyReplyEntry} (valid : ∀ answer ∈ answers, answer.Valid) :
    (epVerifyReplyEncode answers).length = epHeaderLen + answers.length * epVerifyReplyEntryLen := by
  unfold epVerifyReplyEncode
  rw [List.length_append, encodeHeader_length]
  congr 1
  apply flatMap_length answers
  intro answer mem
  have valid := valid answer mem
  simp only [List.length_append, Bytes.putBe_length, valid.iv, valid.challenge, valid.tag]
  rfl

/-- The reply in the output buffer carries the encryption of every challenge. -/
theorem processPdu_answers {command : Bytes} {asked : List EpVerifyCommandEntry}
    (decoded : epVerifyCommandDecode command = .ok asked) (s : State) :
    (processPdu command).wp (scheme.psa stored) (Fallible.either (fun _ _ s' =>
        ∃ answers, List.Forall₂ (Answered scheme stored s.ctx) asked answers ∧ (asked.map (·.keyId)).Nodup ∧
          s'.out.take s'.outLen = epVerifyReplyEncode answers) fun _ _ _ => True) s := by
  obtain ⟨pdu, parsed, verifies, len⟩ := verifyCommand_pdu decoded
  have rows : Rows EpVerifyCommandEntry.Valid asked := (verifyCommandFormat_exact.encodes command asked decoded).1
  have named : (runPdu command).2 = recipient pdu command := by
    unfold runPdu
    rw [parsed]
  have answered : (recipient pdu command).wp (scheme.psa stored) (fun _ replyLen s' =>
      ∃ answers, List.Forall₂ (Answered scheme stored s.ctx) asked answers ∧ (asked.map (·.keyId)).Nodup ∧
        s'.out.take replyLen = epVerifyReplyEncode answers) (fun _ _ _ => True) s := by
    simp only [recipient, verifies, Fallible.wp_bind, Fallible.wp_pure]
    apply Fallible.wp_mono (processKeyVerification_answers decoded s)
    case error => exact fun _ _ _ _ => trivial
    intro t _ s' written
    obtain ⟨answers, answered, nodup, out⟩ := written
    refine ⟨answers, answered, nodup, ?_⟩
    -- The length that the dispatch computes from the command is that of the reply.
    have size := epVerifyReplyEncode_length (answers_valid answered rows.each)
    rw [← answered.length_eq, ← len] at size
    rw [out, ← size]
    exact Bytes.slice_overwrite (Nat.zero_le _)
  simp only [processPdu, Prog.wp_bind, Prog.wp_read, named]
  apply Prog.wp_mono answered
  intro t result s' reached
  cases result with
  | ok len =>
    simp only [Prog.wp_bind, Prog.wp_modify, Prog.wp_pure, Fallible.either_ok]
    exact reached
  | error e => simp only [Prog.wp_bind, Prog.wp_modify, Prog.wp_pure, Fallible.either_error]

/-! ## Both sides -/

/-- Both sides hold the same material for every key that is named. -/
def SameKeys (stored stored' : PsaKeyId → K) (ctx ctx' : Ctx) (asked : List EpVerifyCommandEntry) : Prop :=
  ∀ entry ∈ asked, ∀ slot : KeySlot, slot.val = entry.keyId →
    stored' (ctx'.keys slot).psaKeyId = stored (ctx.keys slot).psaKeyId

/-- No key opens what another has encrypted. -/
def Aead.Binding (scheme : Aead K) : Prop :=
  ∀ key key' nonce aad plaintext, scheme.decrypt key' nonce aad (scheme.encrypt key nonce aad plaintext) =
    some plaintext → key' = key

/-- The reply to a verification command passes the check of an initiator that can use the keys it has named, if it holds
the same keys as the recipient; with a scheme that binds its keys, it passes only then.  Otherwise the check fails with
an authentication error. -/
theorem verification_compares_keys (scheme : Aead K) (stored : PsaKeyId → K) (store : PsaStore K) {command : Bytes}
    {asked : List EpVerifyCommandEntry} (decoded : epVerifyCommandDecode command = .ok asked) {s s' r : State}
    {t : List Item} (processed : (processPdu command).Runs (scheme.psa stored) s t (.ok ()) s')
    (held : ∀ entry ∈ asked, ∃ slot : KeySlot, slot.val = entry.keyId ∧ Holds store r.ctx slot) :
    (∃ u result r', (checkKeyVerification command (s'.out.take s'.outLen)).run.Runs (store.psa scheme) r u result r') ∧
    ∀ u result r', (checkKeyVerification command (s'.out.take s'.outLen)).run.Runs (store.psa scheme) r u result r' →
      r' = r ∧ (result = .ok () ∨ result = .error .authentication) ∧
      (SameKeys stored store.material s.ctx r.ctx asked → result = .ok ()) ∧
      (scheme.Binding → result = .ok () → SameKeys stored store.material s.ctx r.ctx asked) := by
  have reached := Prog.wp_of_runs (processPdu_answers decoded s) processed
  rw [Fallible.either_ok] at reached
  obtain ⟨answers, answered, nodup, reply⟩ := reached
  have rows : Rows EpVerifyCommandEntry.Valid asked := (verifyCommandFormat_exact.encodes command asked decoded).1
  have valid := answers_valid answered rows.each
  obtain ⟨sameLength, zipped⟩ := List.forall₂_iff_zip.mp answered
  have read : epVerifyReplyDecode (epVerifyReplyEncode answers) = .ok answers := by
    have few := rows.count
    have some := rows.some
    have limit := epPduMax_bounds.1
    have size := epVerifyReplyEncode_length valid
    have recipients : epMaxRecipients = maxKeys := rfl
    have entry : answers.length * epVerifyReplyEntryLen = answers.length * 46 := rfl
    have header : epHeaderLen = 3 := rfl
    exact verifyReplyFormat_exact.decodes answers _ ⟨⟨by omega, by omega, valid⟩, rfl⟩ (by omega)
  have post : (checkKeyVerification command (epVerifyReplyEncode answers)).wp (store.psa scheme)
      (fun _ _ r' => r' = r ∧ ∀ pair ∈ asked.zip answers, Opens scheme store r.ctx pair.1 pair.2)
      (fun _ error r' => r' = r ∧ error = .authentication ∧
        ∃ pair ∈ asked.zip answers, ¬ Opens scheme store r.ctx pair.1 pair.2) r := by
    unfold checkKeyVerification
    rw [decoded, read]
    simp only [Fallible.wp_bind, Fallible.wp_ofExcept_ok, Fallible.wp_failIf]
    refine ⟨fun differs => absurd sameLength.symm differs, fun _ => ?_⟩
    apply checkAnswers_opens
    · exact fun pair mem => (zipped mem).keyId
    · exact fun pair mem => held pair.1 (List.of_mem_zip mem).1
    · exact fun pair mem => (rows.each pair.1 (List.of_mem_zip mem).1).challenge
    · have keys : (asked.zip answers).map (·.1.keyId) = asked.map (·.keyId) := by
        calc (asked.zip answers).map (·.1.keyId) = ((asked.zip answers).map Prod.fst).map (·.keyId) := by
              rw [List.map_map]
              rfl
          _ = asked.map (·.keyId) := by rw [List.map_fst_zip (le_of_eq sameLength)]
      rwa [keys]
    · simp
  rw [reply]
  refine ⟨Act.exists_runs (store.psa_answers scheme) _, fun u result r' run => ?_⟩
  -- An answer opens with the key that made it.
  have opens : SameKeys stored store.material s.ctx r.ctx asked →
      ∀ pair ∈ asked.zip answers, Opens scheme store r.ctx pair.1 pair.2 := by
    intro same pair mem slot here
    rw [(zipped mem).encrypted slot here, same pair.1 (List.of_mem_zip mem).1 slot here, scheme.decrypt_encrypt]
  cases result with
  | ok _ =>
    obtain ⟨unchanged, opened⟩ := Fallible.ok_of_runs post run
    refine ⟨unchanged, .inl rfl, fun _ => rfl, fun binding _ entry mem slot here => ?_⟩
    obtain ⟨index, inside, rfl⟩ := List.getElem_of_mem mem
    have inside : index < (asked.zip answers).length := by
      rw [List.length_zip]
      omega
    have pair := List.getElem_mem inside
    rw [List.getElem_zip] at pair
    have opened := opened _ pair slot here
    rw [(zipped pair).encrypted slot here] at opened
    exact binding _ _ _ _ _ opened
  | error e =>
    obtain ⟨unchanged, rfl, pair, mem, shut⟩ := Fallible.error_of_runs post run
    exact ⟨unchanged, .inr rfl, fun same => absurd (opens same pair mem) shut, fun _ succeeded => by cases succeeded⟩

end ZephyrCcsds.Sdls

/-! ## A challenge and its answer -/

namespace ZephyrCcsds.Sdls

open Callback

section Sample

attribute [local instance] defaultKconfig

theorem keyed_length (key : UInt8) (plaintext : Bytes) :
    (sampleMask plaintext ++ List.replicate tagLen key).length - tagLen = (sampleMask plaintext).length := by
  simp

/-- A scheme whose tag is the key -/
def keyedScheme : Aead UInt8 where
  encrypt key _ _ plaintext := sampleMask plaintext ++ List.replicate tagLen key
  decrypt key _ _ ciphertext :=
    if ciphertext.drop (ciphertext.length - tagLen) = List.replicate tagLen key then
      some (sampleMask (ciphertext.take (ciphertext.length - tagLen)))
    else
      none
  encrypt_length _ _ _ plaintext := by simp [sampleMask, tagLen]
  decrypt_encrypt key _ _ plaintext := by
    rw [keyed_length, List.drop_left, List.take_left, if_pos rfl, sampleMask_sampleMask]

theorem keyedScheme_binding : keyedScheme.Binding := by
  intro key key' nonce aad plaintext opened
  simp only [keyedScheme, keyed_length, List.drop_left] at opened
  by_cases same : List.replicate tagLen key = List.replicate tagLen key'
  · exact (List.replicate_right_inj (by decide)).mp same.symm
  · simp [same] at opened

/-- A challenge for the session key in slot 5 -/
def sampleChallenge : List EpVerifyCommandEntry := [{ challenge := List.replicate epChallengeLen 7, keyId := 5 }]

def keyedStore (key : UInt8) : PsaStore UInt8 where
  material _ := key
  attributes _ := capableKey

theorem sampleChallenge_processed : ∃ t s', (processPdu (epVerifyCommandEncode sampleChallenge)).Runs
    (keyedScheme.psa fun _ => 1) clearFrame t (.ok ()) s' := by
  have held : (((processPdu (epVerifyCommandEncode sampleChallenge) clearFrame).record
      (fun s op answer => (⟨s.ctx, op, answer⟩ : Item))
      [⟨.getKeyAttributes 15, (.success, capableKey)⟩,
        ⟨.aeadEncrypt 15 (List.replicate ivLen 0) [] (List.replicate epChallengeLen 7),
          (.success, keyedScheme.encrypt 1 [] [] (List.replicate epChallengeLen 7))⟩]).any fun played =>
        decide (played.2.1 = .ok ())) = true := by
    decide +kernel
  obtain ⟨⟨t, result, s'⟩, played, checked⟩ := (Option.any_eq_true _ _).mp held
  obtain rfl : result = .ok () := of_decide_eq_true checked
  refine ⟨t, s', Act.runs_of_record_allowed played ?_⟩
  simp [Aead.Answers, keyedScheme]

/-- The check tells whether the initiator has the recipient's key. -/
theorem verification_compares_keys_sample : ∃ t s', (processPdu (epVerifyCommandEncode sampleChallenge)).Runs
      (keyedScheme.psa fun _ => 1) clearFrame t (.ok ()) s' ∧
    (∀ u result r', (checkKeyVerification (epVerifyCommandEncode sampleChallenge) (s'.out.take s'.outLen)).run.Runs
      ((keyedStore 1).psa keyedScheme) receiverSample u result r' → result = .ok ()) ∧
    ∀ u result r', (checkKeyVerification (epVerifyCommandEncode sampleChallenge) (s'.out.take s'.outLen)).run.Runs
      ((keyedStore 2).psa keyedScheme) receiverSample u result r' → result = .error .authentication := by
  obtain ⟨t, s', processed⟩ := sampleChallenge_processed
  have decoded : epVerifyCommandDecode (epVerifyCommandEncode sampleChallenge) = .ok sampleChallenge := by
    decide +kernel
  have held : ∀ key, ∀ entry ∈ sampleChallenge, ∃ slot : KeySlot, slot.val = entry.keyId ∧
      Holds (keyedStore key) receiverSample.ctx slot := by
    intro key entry mem
    rw [List.mem_singleton.mp mem]
    exact ⟨(5 : Fin 8), rfl, by decide, by decide, show capableKey.fits .decryptOnly = true by decide⟩
  refine ⟨t, s', processed, fun u result r' run => ?_, fun u result r' run => ?_⟩
  · have compared := verification_compares_keys keyedScheme _ (keyedStore 1) decoded processed (held 1)
    exact (compared.2 u result r' run).2.2.1 fun _ _ _ _ => rfl
  · have compared := verification_compares_keys keyedScheme _ (keyedStore 2) decoded processed (held 2)
    obtain ⟨-, passed | failed, -, only⟩ := compared.2 u result r' run
    · have same := only keyedScheme_binding passed _ List.mem_cons_self (5 : Fin 8) rfl
      exact absurd same (by decide)
    · exact failed

end Sample

end ZephyrCcsds.Sdls
