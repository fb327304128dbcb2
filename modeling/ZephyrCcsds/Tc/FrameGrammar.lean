import ZephyrCcsds.Tc.Frame

/-! # The grammar of transfer frames

Which buffers `ccsds_tc_frame_decode` accepts.  Of the octets behind the declared frame it looks at the
first and the last; the grammar of frames with fill wants every one of them to be the fill octet.
-/

namespace ZephyrCcsds.Tc

variable [Kconfig]

/-- The frame length that a primary header declares -/
def declaredFrameLen (buf : Bytes) : Nat := Bytes.getBe (buf.slice 2 2) % 1024 + 1

/-- A primary header of this spacecraft whose frame lies in the first `len` octets -/
structure FrameHeaded (buf : Bytes) (len : Nat) : Prop where
  header : tcPrimaryHdrLen ≤ len
  version : (buf.getD 0 0).toNat / 64 % 4 = 0
  least : tcPrimaryHdrLen ≤ declaredFrameLen buf
  inside : declaredFrameLen buf ≤ len
  spacecraft : Bytes.getBe (buf.slice 0 2) % 1024 = spacecraftId

/-- The octet at `i` is behind the declared frame and not the fill octet. -/
def WrongFill (buf : Bytes) (len i : Nat) : Prop :=
  declaredFrameLen buf ≤ i ∧ i < len ∧ buf.getD i 0 ≠ tcFillByte

/-- What the function accepts, and the data that it then points to -/
theorem tcFrameDecode_ok_iff (buf : Bytes) (len : Nat) (frame : TcFrame) :
    tcFrameDecode buf len = .ok frame ↔
      FrameHeaded buf len ∧ ¬ WrongFill buf len (declaredFrameLen buf) ∧ ¬ WrongFill buf len (len - 1) ∧
      frame = {
        spacecraftId := spacecraftId
        virtualChannelId := Bytes.getBe (buf.slice 2 2) / 1024 % 64
        bypass := (buf.getD 0 0).toNat / 32 % 2 = 1
        controlCommand := (buf.getD 0 0).toNat / 16 % 2 = 1
        frameSequenceNumber := buf.getD 4 0
        data := tcPrimaryHdrLen
        dataLen := declaredFrameLen buf - tcPrimaryHdrLen } := by
  have declared : Bytes.getBe (buf.slice 2 2) % 1024 + 1 = declaredFrameLen buf := rfl
  unfold tcFrameDecode
  simp only [declared]
  constructor
  · intro decoded
    split_ifs at decoded with headless version short long fill spacecraft
    cases decoded
    rw [not_not] at version spacecraft
    rw [not_and_or, not_or, not_not, not_not] at fill
    refine ⟨⟨by omega, version, by omega, by omega, spacecraft⟩, ?_, ?_, by rw [spacecraft]⟩
    · intro wrong
      cases fill with
      | inl whole => exact whole wrong.2.1
      | inr right => exact wrong.2.2 right.1
    · intro wrong
      cases fill with
      | inl whole =>
        have := wrong.1
        have := wrong.2.1
        omega
      | inr right => exact wrong.2.2 right.2
  · intro accepted
    obtain ⟨headed, first, last, rfl⟩ := accepted
    have header := headed.header
    have least := headed.least
    have inside := headed.inside
    have filled : ¬ (declaredFrameLen buf < len ∧
        (buf.getD (declaredFrameLen buf) 0 ≠ tcFillByte ∨ buf.getD (len - 1) 0 ≠ tcFillByte)) := by
      intro wrong
      cases wrong.2 with
      | inl wrongFirst => exact first ⟨Nat.le_refl _, wrong.1, wrongFirst⟩
      | inr wrongLast => exact last ⟨by omega, by omega, wrongLast⟩
    rw [if_neg (by omega), if_neg (not_not.mpr headed.version), if_neg (by omega), if_neg (by omega),
      if_neg filled, if_neg (not_not.mpr headed.spacecraft), headed.spacecraft]

/-- A buffer is decoded exactly when it is a frame with fill octets behind it, and then the data is what lies
between the primary header and the declared end. -/
def DecodesGrammar (buf : Bytes) (len : Nat) : Prop :=
  ((∃ frame, tcFrameDecode buf len = .ok frame) ↔ FrameHeaded buf len ∧ ∀ i, ¬ WrongFill buf len i) ∧
  ∀ frame, tcFrameDecode buf len = .ok frame →
    frame.data = tcPrimaryHdrLen ∧ frame.data + frame.dataLen = declaredFrameLen buf

/-- A wrong octet that the function does not see: strictly between the first and the last octet behind the
frame, which are both right -/
def HidesWrongFill (buf : Bytes) (len : Nat) : Prop :=
  ¬ WrongFill buf len (declaredFrameLen buf) ∧ ¬ WrongFill buf len (len - 1) ∧
  ∃ i, declaredFrameLen buf < i ∧ i < len - 1 ∧ buf.getD i 0 ≠ tcFillByte

theorem frame_grammar_iff (buf : Bytes) (len : Nat) :
    DecodesGrammar buf len ↔ ¬ (FrameHeaded buf len ∧ HidesWrongFill buf len) := by
  have accepted : (∃ frame, tcFrameDecode buf len = .ok frame) ↔
      FrameHeaded buf len ∧ ¬ WrongFill buf len (declaredFrameLen buf) ∧ ¬ WrongFill buf len (len - 1) := by
    constructor
    · intro decodes
      obtain ⟨frame, decoded⟩ := decodes
      obtain ⟨headed, first, last, _⟩ := (tcFrameDecode_ok_iff buf len frame).mp decoded
      exact ⟨headed, first, last⟩
    · intro sampled
      exact ⟨_, (tcFrameDecode_ok_iff buf len _).mpr ⟨sampled.1, sampled.2.1, sampled.2.2, rfl⟩⟩
  have covers : ∀ frame, tcFrameDecode buf len = .ok frame →
      frame.data = tcPrimaryHdrLen ∧ frame.data + frame.dataLen = declaredFrameLen buf := by
    intro frame decoded
    obtain ⟨headed, _, _, rfl⟩ := (tcFrameDecode_ok_iff buf len frame).mp decoded
    have least := headed.least
    exact ⟨rfl, by dsimp only; omega⟩
  constructor
  · intro grammar hidden
    obtain ⟨headed, first, last, i, behind, before, wrong⟩ := hidden
    exact (grammar.1.mp (accepted.mpr ⟨headed, first, last⟩)).2 i ⟨by omega, by omega, wrong⟩
  · intro visible
    refine ⟨?_, covers⟩
    rw [accepted]
    constructor
    · intro sampled
      refine ⟨sampled.1, fun i wrong => ?_⟩
      -- A wrong octet is none of the two that the function looks at, so it is one of those between them.
      have notFirst : i ≠ declaredFrameLen buf := by
        intro same
        exact sampled.2.1 (same ▸ wrong)
      have notLast : i ≠ len - 1 := by
        intro same
        exact sampled.2.2 (same ▸ wrong)
      have behind := wrong.1
      have inside := wrong.2.1
      exact visible ⟨sampled.1, sampled.2.1, sampled.2.2, i, by omega, by omega, wrong.2.2⟩
    · intro filled
      exact ⟨filled.1, filled.2 _, filled.2 _⟩

end ZephyrCcsds.Tc

namespace ZephyrCcsds.Tc

attribute [local instance] defaultKconfig

/-- A frame of five octets, and an octet `00` between two fill octets behind it -/
def hiddenFillFrame : Bytes := [0x00, 0x7b, 0x00, 0x04, 0x00, 0x55, 0x00, 0x55]

theorem hidden_fill_accepted : ¬ DecodesGrammar hiddenFillFrame hiddenFillFrame.length := by
  intro grammar
  have headed : FrameHeaded hiddenFillFrame hiddenFillFrame.length :=
    ⟨by decide, by decide, by decide, by decide, by decide⟩
  have decoded := (tcFrameDecode_ok_iff hiddenFillFrame hiddenFillFrame.length _).mpr
    ⟨headed, fun wrong => wrong.2.2 (by decide), fun wrong => wrong.2.2 (by decide), rfl⟩
  exact (grammar.1.mp ⟨_, decoded⟩).2 6 ⟨by decide, by decide, by decide⟩

end ZephyrCcsds.Tc
