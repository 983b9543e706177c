import Mathlib.Data.List.Basic

/-!
# Noninterference by unwinding

A machine takes one input after another, and some of its inputs are an owner's. The other inputs
do not disturb the owner if each of its own has the outcome it has in the run with the others taken
out. `Unwinding.observed_eq` reduces this to single inputs: a relation between the states of the
two runs that an own input keeps when both take it, and another's keeps when only the first does.

The condition `P` on an input and the state it comes in is for machines that do interfere: the runs
in which every input meets it are the undisturbed ones.
-/

namespace Effects

/-- What an input does to the state, and the outcome it has there. -/
structure Machine (σ ι ο : Type) where
  step : σ → ι → σ
  outcome : σ → ι → ο

namespace Machine

variable {σ ι ο : Type} (m : Machine σ ι ο)

/-- The outcomes of a run. -/
def outcomes : σ → List ι → List ο
  | _, [] => []
  | s, i :: is => m.outcome s i :: outcomes (m.step s i) is

/-- The outcomes of the owner's inputs, in a run of everybody's. -/
def observed (own : ι → Prop) [DecidablePred own] : σ → List ι → List ο
  | _, [] => []
  | s, i :: is =>
      if own i then m.outcome s i :: observed own (m.step s i) is
      else observed own (m.step s i) is

/-- Every input of the run meets `P` in the state it comes in. -/
def Throughout (P : σ → ι → Prop) : σ → List ι → Prop
  | _, [] => True
  | s, i :: is => P s i ∧ Throughout P (m.step s i) is

instance decidableThroughout (P : σ → ι → Prop) [∀ s i, Decidable (P s i)] :
    (s : σ) → (is : List ι) → Decidable (m.Throughout P s is)
  | _, [] => isTrue trivial
  | s, i :: is => @instDecidableAnd _ _ _ (decidableThroughout P (m.step s i) is)

variable {m} {P : σ → ι → Prop}

/-- What holds of every input of the list holds throughout. -/
theorem Throughout.of_forall {Q : ι → Prop} {is : List ι} (hQ : ∀ i ∈ is, Q i) (s : σ) :
    m.Throughout (fun _ i => Q i) s is := by
  induction is generalizing s with
  | nil => trivial
  | cons i is ih =>
      refine ⟨hQ i List.mem_cons_self, ?_⟩
      apply ih
      intro j hj
      exact hQ j (List.mem_cons_of_mem i hj)

theorem Throughout.and {Q : σ → ι → Prop} {s : σ} {is : List ι} (hP : m.Throughout P s is)
    (hQ : m.Throughout Q s is) : m.Throughout (fun s i => P s i ∧ Q s i) s is := by
  induction is generalizing s with
  | nil => trivial
  | cons i is ih => exact ⟨⟨hP.1, hQ.1⟩, ih hP.2 hQ.2⟩

variable (m P) (own : ι → Prop)

/-- `R` relates a state of the run of everybody's inputs to one of the run of the owner's alone. -/
structure Unwinding (R : σ → σ → Prop) : Prop where
  same : ∀ s t i, R s t → own i → P s i → m.outcome s i = m.outcome t i
  step : ∀ s t i, R s t → own i → P s i → R (m.step s i) (m.step t i)
  others : ∀ s t i, R s t → ¬ own i → P s i → R (m.step s i) t

variable {m P own}

/-- Of the inputs of a run, the owner's have the outcomes they have with the others taken out. -/
theorem Unwinding.observed_eq [DecidablePred own] {R : σ → σ → Prop} (h : m.Unwinding P own R)
    {s t : σ} (hst : R s t) {is : List ι} (hP : m.Throughout P s is) :
    m.observed own s is = m.outcomes t (is.filter own) := by
  induction is generalizing s t with
  | nil => rfl
  | cons i is ih =>
      obtain ⟨hi, his⟩ := hP
      by_cases hown : own i
      · -- both runs take the input
        have hnext := ih (h.step s t i hst hown hi) his
        rw [observed, if_pos hown, List.filter_cons_of_pos (by simpa using hown), outcomes,
          h.same s t i hst hown hi, hnext]
      · -- the run of the owner alone stays where it is
        have hnext := ih (h.others s t i hst hown hi) his
        rw [observed, if_neg hown, List.filter_cons_of_neg (by simpa using hown), hnext]

end Machine

end Effects
