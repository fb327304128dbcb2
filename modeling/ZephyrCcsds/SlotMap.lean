import Mathlib.Data.Finmap
import Mathlib.Data.Fintype.Card

/-! # Slot arrays as finite maps

An array with a fixed number of slots, each of them free or holding a key with its value.  `Represents` relates
such an array to the finite map that it stands for: no key is in two slots.

* `Represents.write`, `Represents.clear` — one slot is written or freed.
* `Represents.full_iff` — no slot is free if and only if there are as many keys as slots.
-/

namespace ZephyrCcsds.SlotMap

variable {n : Nat} {κ β : Type} [DecidableEq κ]

/-- A finite map to one type of values -/
abbrev Table (κ β : Type) : Type := Finmap fun _ : κ => β

structure Represents (slots : Fin n → Option (κ × β)) (table : Table κ β) : Prop where
  distinct : ∀ i j key value value', slots i = some (key, value) → slots j = some (key, value') → i = j
  lookup : ∀ key value, table.lookup key = some value ↔ ∃ i, slots i = some (key, value)

variable {slots : Fin n → Option (κ × β)} {table : Table κ β}

theorem represents_empty : Represents (fun _ : Fin n => (none : Option (κ × β))) ∅ := by
  constructor
  · intro i j key value value' here
    cases here
  · intro key value
    simp

theorem Represents.mem_iff (represents : Represents slots table) (key : κ) :
    key ∈ table ↔ ∃ i value, slots i = some (key, value) := by
  rw [Finmap.mem_iff]
  constructor
  · intro found
    obtain ⟨value, stored⟩ := found
    obtain ⟨i, here⟩ := (represents.lookup key value).mp stored
    exact ⟨i, value, here⟩
  · intro found
    obtain ⟨i, value, here⟩ := found
    exact ⟨value, (represents.lookup key value).mpr ⟨i, here⟩⟩

/-- A slot is written that no other key occupies, with a key that is in no other slot. -/
theorem Represents.write (represents : Represents slots table) {i : Fin n} {key : κ} (value : β)
    (own : ∀ other value', slots i = some (other, value') → other = key)
    (only : ∀ j value', slots j = some (key, value') → j = i) :
    Represents (Function.update slots i (some (key, value))) (table.insert key value) := by
  constructor
  · intro j k other value' value'' first second
    by_cases written : j = i
    · subst written
      rw [Function.update_self] at first
      obtain ⟨rfl, rfl⟩ := Prod.mk.inj (Option.some.inj first)
      by_cases again : k = j
      · exact again.symm
      · rw [Function.update_of_ne again] at second
        exact (only k value'' second).symm
    · rw [Function.update_of_ne written] at first
      by_cases again : k = i
      · subst again
        rw [Function.update_self] at second
        obtain ⟨rfl, rfl⟩ := Prod.mk.inj (Option.some.inj second)
        exact only j value' first
      · rw [Function.update_of_ne again] at second
        exact represents.distinct j k other value' value'' first second
  · intro other value'
    by_cases same : other = key
    · subst same
      rw [Finmap.lookup_insert]
      constructor
      · intro stored
        cases stored
        exact ⟨i, Function.update_self ..⟩
      · intro found
        obtain ⟨j, here⟩ := found
        by_cases written : j = i
        · subst written
          rw [Function.update_self] at here
          rw [(Prod.mk.inj (Option.some.inj here)).2]
        · rw [Function.update_of_ne written] at here
          exact absurd (only j value' here) written
    · rw [Finmap.lookup_insert_of_ne _ same, represents.lookup]
      constructor
      · intro found
        obtain ⟨j, here⟩ := found
        have away : j ≠ i := by
          rintro rfl
          exact same (own other value' here)
        exact ⟨j, by rw [Function.update_of_ne away, here]⟩
      · intro found
        obtain ⟨j, here⟩ := found
        by_cases written : j = i
        · subst written
          rw [Function.update_self] at here
          exact absurd (Prod.mk.inj (Option.some.inj here)).1.symm same
        · rw [Function.update_of_ne written] at here
          exact ⟨j, here⟩

/-- A slot is freed. -/
theorem Represents.clear (represents : Represents slots table) {i : Fin n} {key : κ} {value : β}
    (here : slots i = some (key, value)) :
    Represents (Function.update slots i none) (table.erase key) := by
  have kept : ∀ j other value', Function.update slots i none j = some (other, value') ↔
      slots j = some (other, value') ∧ other ≠ key := by
    intro j other value'
    by_cases freed : j = i
    · subst freed
      rw [Function.update_self, here]
      constructor
      · intro never
        cases never
      · intro holds
        exact absurd (Prod.mk.inj (Option.some.inj holds.1)).1.symm holds.2
    · rw [Function.update_of_ne freed]
      constructor
      · intro holds
        refine ⟨holds, ?_⟩
        rintro rfl
        exact freed (represents.distinct j i other value' value holds here)
      · exact fun holds => holds.1
  constructor
  · intro j k other value' value'' first second
    exact represents.distinct j k other value' value'' ((kept _ _ _).mp first).1 ((kept _ _ _).mp second).1
  · intro other value'
    by_cases same : other = key
    · subst same
      rw [Finmap.lookup_erase]
      constructor
      · intro never
        cases never
      · intro found
        obtain ⟨j, holds⟩ := found
        exact absurd rfl ((kept _ _ _).mp holds).2
    · rw [Finmap.lookup_erase_ne same, represents.lookup]
      exact exists_congr fun j => ⟨fun holds => (kept _ _ _).mpr ⟨holds, same⟩, fun holds => ((kept _ _ _).mp holds).1⟩

/-- As many keys as slots that are not free -/
theorem Represents.card (represents : Represents slots table) :
    table.keys.card = (Finset.univ.filter fun i => (slots i).isSome).card := by
  symm
  apply Finset.card_bij fun i occupied => ((slots i).get (Finset.mem_filter.mp occupied).2).1
  · intro i occupied
    rw [Finmap.mem_keys, represents.mem_iff]
    exact ⟨i, ((slots i).get (Finset.mem_filter.mp occupied).2).2, by simp⟩
  · intro i occupied j occupied' same
    obtain ⟨⟨key, value⟩, here⟩ := Option.isSome_iff_exists.mp (Finset.mem_filter.mp occupied).2
    obtain ⟨⟨key', value'⟩, there⟩ := Option.isSome_iff_exists.mp (Finset.mem_filter.mp occupied').2
    simp only [here, there, Option.get_some] at same
    subst same
    exact represents.distinct i j key value value' here there
  · intro key found
    rw [Finmap.mem_keys, represents.mem_iff] at found
    obtain ⟨i, value, here⟩ := found
    exact ⟨i, by simp [here], by simp [here]⟩

/-- The map is full when no slot is free. -/
theorem Represents.full_iff (represents : Represents slots table) :
    table.keys.card = n ↔ ∀ i, slots i ≠ none := by
  rw [represents.card]
  constructor
  · intro full i
    have whole := Finset.eq_univ_of_card _ (full.trans (Fintype.card_fin n).symm)
    have occupied := Finset.mem_univ i
    rw [← whole, Finset.mem_filter, Option.isSome_iff_ne_none] at occupied
    exact occupied.2
  · intro occupied
    rw [Finset.filter_true_of_mem fun i _ => Option.isSome_iff_ne_none.mpr (occupied i)]
    exact Finset.card_fin n

end ZephyrCcsds.SlotMap
