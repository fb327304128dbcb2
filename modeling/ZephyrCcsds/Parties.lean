import Mathlib.Data.List.Sort
import Mathlib.Logic.Function.Basic
import ZephyrCcsds.Watermark

/-! # Parties in front of an adversary

Any number of parties of one kind act one at a time, in any order and on any input.  What a party lets out everybody
knows from then on.  A party *hears* something only if it is known: this is what an unforgeable code grants, and it is
all that is granted, since what is known may be heard by anybody, at any time and as often as one likes.

**Main results:**

- `Parties.run_party`: the steps of one party in a run are a run of that party.

- `Parties.heard_said`: whatever is heard in a run has been said in it, or was known at its start.

- `Watermark.in_order`: two parties that count upwards, one that sends and one that accepts nothing but what was sent,
  agree on the order, and nothing is accepted twice.
-/

namespace ZephyrCcsds

/-- The parties, and everything that they have let out -/
structure Parties (ι P K : Type) where
  party : ι → P
  known : List K

namespace Parties

variable {ι P L K : Type} [DecidableEq ι]

/-- A step of one party, which hears only what is known. -/
inductive Step (move : P → L → P → Prop) (heard : L → Option K) (said : L → List K) :
    Parties ι P K → ι × L → Parties ι P K → Prop where
  | moves {all : Parties ι P K} {i : ι} {label : L} {after : P} : move (all.party i) label after →
      (∀ message, heard label = some message → message ∈ all.known) →
      Step move heard said all (i, label)
        { party := Function.update all.party i after, known := all.known ++ said label }

/-- The labels of one party -/
def labelsOf (i : ι) (labels : List (ι × L)) : List L :=
  labels.filterMap fun label => if label.1 = i then some label.2 else none

@[simp] theorem labelsOf_nil (i : ι) : labelsOf i ([] : List (ι × L)) = [] := rfl

@[simp] theorem labelsOf_cons_same (i : ι) (label : L) (labels : List (ι × L)) :
    labelsOf i ((i, label) :: labels) = label :: labelsOf i labels := by
  simp [labelsOf]

@[simp] theorem labelsOf_cons_other {i j : ι} (other : j ≠ i) (label : L) (labels : List (ι × L)) :
    labelsOf i ((j, label) :: labels) = labelsOf i labels := by
  simp [labelsOf, other]

theorem mem_labelsOf {i : ι} {label : L} {labels : List (ι × L)} :
    label ∈ labelsOf i labels ↔ (i, label) ∈ labels := by
  simp only [labelsOf, List.mem_filterMap, Prod.exists]
  constructor
  · rintro ⟨j, other, mem, chosen⟩
    by_cases here : j = i
    · simp only [here, if_true, Option.some.injEq] at chosen
      rwa [here, chosen] at mem
    · simp [here] at chosen
  · intro mem
    exact ⟨i, label, mem, by simp⟩

variable {move : P → L → P → Prop} {heard : L → Option K} {said : L → List K} {start final : Parties ι P K}
  {labels : List (ι × L)}

/-- The steps of one party in a run are a run of that party. -/
theorem run_party (run : Run (Step move heard said) start labels final) (i : ι) :
    Run move (start.party i) (labelsOf i labels) (final.party i) := by
  induction run with
  | done => exact .done
  | step first _ ih =>
    cases first with
    | @moves j label after moved hears =>
      by_cases here : j = i
      · subst here
        rw [labelsOf_cons_same]
        refine .step moved ?_
        simpa using ih
      · rw [labelsOf_cons_other here]
        simpa [Function.update_of_ne (Ne.symm here)] using ih

/-- What is known after a run was known before, or has been said. -/
theorem known_said (run : Run (Step move heard said) start labels final) :
    ∀ message ∈ final.known, message ∈ start.known ∨ ∃ i label, (i, label) ∈ labels ∧ message ∈ said label := by
  induction run with
  | done => exact fun message mem => .inl mem
  | step first _ ih =>
    cases first with
    | @moves i label after moved hears =>
      intro message mem
      rcases ih message mem with earlier | ⟨j, other, listed, told⟩
      · rcases List.mem_append.mp earlier with before | now
        · exact .inl before
        · exact .inr ⟨i, label, List.mem_cons_self, now⟩
      · exact .inr ⟨j, other, List.mem_cons_of_mem _ listed, told⟩

/-- What is heard in a run was known before, or has been said. -/
theorem heard_said (run : Run (Step move heard said) start labels final) {i : ι} {label : L} {message : K}
    (listed : (i, label) ∈ labels) (hears : heard label = some message) :
    message ∈ start.known ∨ ∃ j other, (j, other) ∈ labels ∧ message ∈ said other := by
  -- The run is cut at the step that hears: everything known there comes from the front.
  obtain ⟨front, back, rfl⟩ := List.append_of_mem listed
  obtain ⟨between, before, after⟩ := run.split
  cases after with
  | step first _ =>
    cases first with
    | moves moved known =>
      rcases known_said before message (known message hears) with early | ⟨j, other, mem, told⟩
      · exact .inl early
      · exact .inr ⟨j, other, List.mem_append_left _ mem, told⟩

end Parties

/-! ## Order -/

/-- A list that counts upwards and takes everything from another one that does so keeps its order. -/
theorem sublist_of_increasing {M α : Type} [LinearOrder α] {number : M → α} {accepted sent : List M}
    (upward : (accepted.map number).Pairwise (· < ·)) (upward' : (sent.map number).Pairwise (· < ·))
    (known : ∀ message ∈ accepted, message ∈ sent) : accepted.Sublist sent := by
  rw [List.pairwise_map] at upward upward'
  have distinct : accepted.Nodup := upward.imp fun less same => absurd (same ▸ less) (lt_irrefl _)
  have antisymmetric : Std.Antisymm fun a b : M => number a < number b :=
    ⟨fun a b below above => absurd (below.trans above) (lt_irrefl _)⟩
  exact List.sublist_of_subperm_of_pairwise (List.subperm_of_subset distinct known) upward upward'

/-- Two systems that count upwards, one that sends and one that accepts only what was sent -/
theorem Watermark.in_order {S S' L L' M α : Type} [LinearOrder α] {step : S → L → S → Prop}
    {step' : S' → L' → S' → Prop} {mark : S → WithBot α} {mark' : S' → WithBot α} {accepts : L → Option M}
    {sends : L' → Option M} {number : M → α} {lowers : L → α → Prop} {lowers' : L' → α → Prop}
    (receiver : Watermark step mark (fun label => (accepts label).map number) lowers)
    (sender : Watermark step' mark' (fun label => (sends label).map number) lowers')
    {s s₁ : S} {s' s₁' : S'} {labels : List L} {labels' : List L'} (run : Run step s labels s₁)
    (run' : Run step' s' labels' s₁') (steady : ∀ label ∈ labels, ∀ a, ¬lowers label a)
    (steady' : ∀ label ∈ labels', ∀ a, ¬lowers' label a)
    (known : ∀ message ∈ labels.filterMap accepts, message ∈ labels'.filterMap sends) :
    (labels.filterMap accepts).Sublist (labels'.filterMap sends) := by
  have upward := receiver.increasing run steady
  have upward' := sender.increasing run' steady'
  rw [← List.map_filterMap] at upward upward'
  exact sublist_of_increasing upward upward' known

end ZephyrCcsds
