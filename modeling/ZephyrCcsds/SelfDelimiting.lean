import Mathlib.Data.List.Basic

/-! # Decoders that find their own end

A decoder takes an input and returns a value with the number of elements that it has consumed.  It is
`SelfDelimiting` if the consumed elements alone decide about the value.

* `take`, `append` — what is behind the consumed elements may be cut off or replaced.
* `prefix_refused` — no part of what is consumed is accepted.
-/

namespace ZephyrCcsds

variable {α β ε : Type}

/-- A decoder whose result depends on the elements that it consumes, and on no others -/
structure SelfDelimiting (decode : List α → Except ε (β × Nat)) : Prop where
  fits : ∀ {input value consumed}, decode input = .ok (value, consumed) → consumed ≤ input.length
  agrees : ∀ {input other value consumed}, decode input = .ok (value, consumed) →
    input.take consumed = other.take consumed → consumed ≤ other.length → decode other = .ok (value, consumed)

namespace SelfDelimiting

variable {decode : List α → Except ε (β × Nat)} {input : List α} {value : β} {consumed : Nat}

theorem take (delimits : SelfDelimiting decode) (decoded : decode input = .ok (value, consumed)) :
    decode (input.take consumed) = .ok (value, consumed) := by
  apply delimits.agrees decoded
  · rw [List.take_take, Nat.min_self]
  · rw [List.length_take]
    exact Nat.le_min.mpr ⟨Nat.le_refl _, delimits.fits decoded⟩

theorem append (delimits : SelfDelimiting decode) (decoded : decode input = .ok (value, consumed))
    (more : List α) : decode (input ++ more) = .ok (value, consumed) := by
  have fits := delimits.fits decoded
  apply delimits.agrees decoded
  · rw [List.take_append_of_le_length fits]
  · rw [List.length_append]
    exact Nat.le_add_right_of_le fits

/-- A proper prefix of what is consumed is refused. -/
theorem prefix_refused (delimits : SelfDelimiting decode) (decoded : decode input = .ok (value, consumed)) {n : Nat}
    (proper : n < consumed) : ∃ e, decode (input.take n) = .error e := by
  cases short : decode (input.take n) with
  | error e => exact ⟨e, rfl⟩
  | ok result =>
    obtain ⟨value', consumed'⟩ := result
    have fits := delimits.fits short
    -- The rest of the input changes nothing, so that the prefix is all that is consumed.
    have whole := delimits.append short (input.drop n)
    rw [List.take_append_drop, decoded, Except.ok.injEq, Prod.mk.injEq] at whole
    rw [List.length_take] at fits
    omega

end SelfDelimiting

end ZephyrCcsds
