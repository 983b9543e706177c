import XbosCustomerChannel.Data.OrderedDict
import XbosCustomerChannel.Errors
import XbosCustomerChannel.Session.State

/-!
# Material input

Where a customer's input about a quantity, an address, a payment or a cancellation could mean more
than one thing, the channel asks and does not guess. `resolve_material_input` decides it; what it
takes for the customer's confirmation can be the empty string.
-/

namespace XbosCustomerChannel

open Data (OrderedDict History.last?)

inductive MaterialAction
  | quantityChange
  | deliveryAddress
  | highValueChange
  | payment
  | cancellation
  deriving DecidableEq, Repr

def MaterialAction.value : MaterialAction → String
  | quantityChange => "quantity_change"
  | deliveryAddress => "delivery_address"
  | highValueChange => "high_value_change"
  | payment => "payment"
  | cancellation => "cancellation"

structure MaterialInputCandidate where
  valueRef : String
  displayValue : String
  deriving DecidableEq, Repr

structure MaterialInputDecision where
  action : MaterialAction
  selected : MaterialInputCandidate
  explicitlyConfirmed : Bool
  deriving DecidableEq, Repr

/-- `resolve_material_input`. -/
def resolveMaterialInput (action : MaterialAction) (candidates : List MaterialInputCandidate)
    (confirmedValueRef : Option String) : Except Exc MaterialInputDecision :=
  if candidates = [] then .error ⟨.valueError, "no_material_input_candidate"⟩
  else
    let unique := OrderedDict.ofItems MaterialInputCandidate.valueRef candidates
    if 1 < unique.size ∧ confirmedValueRef = none then
      .error
        ⟨.explicitConfirmationRequired, "explicit_confirmation_required:" ++ action.value⟩
    else
      -- an empty confirmation counts as none here
      let selectedRef := pyOr confirmedValueRef unique.firstKey?
      match selectedRef.bind unique.get? with
      | none =>
          .error
            ⟨.explicitConfirmationRequired, "confirmed_choice_not_in_candidates:" ++ action.value⟩
      | some selected =>
          .ok { action, selected, explicitlyConfirmed := confirmedValueRef.isSome }

/-- The decision is one of the candidates, and the customer's where there was a choice or where it
is said to be. -/
structure NotGuessed (candidates : List MaterialInputCandidate) (confirmedValueRef : Option String)
    (decision : MaterialInputDecision) : Prop where
  candidate : decision.selected ∈ candidates
  ambiguous : (∃ a ∈ candidates, ∃ b ∈ candidates, a.valueRef ≠ b.valueRef) →
    confirmedValueRef = some decision.selected.valueRef
  confirmed : decision.explicitlyConfirmed = true →
    confirmedValueRef = some decision.selected.valueRef

section

variable {action : MaterialAction} {candidates : List MaterialInputCandidate}
  {confirmedValueRef : Option String} {decision : MaterialInputDecision}

/-- What a decision was made from: the reference that was looked up, and the candidate found. -/
theorem resolveMaterialInput_ok
    (h : resolveMaterialInput action candidates confirmedValueRef = .ok decision) :
    ∃ first ref, candidates.head? = some first ∧
      pyOr confirmedValueRef (some first.valueRef) = some ref ∧
      decision.selected ∈ candidates ∧ decision.selected.valueRef = ref ∧
      decision.explicitlyConfirmed = confirmedValueRef.isSome ∧
      ((∃ a ∈ candidates, ∃ b ∈ candidates, a.valueRef ≠ b.valueRef) →
        confirmedValueRef ≠ none) := by
  unfold resolveMaterialInput at h
  split at h
  · cases h
  next hnonempty =>
  dsimp only at h
  split at h
  · cases h
  next hasked =>
  rw [OrderedDict.one_lt_size_ofItems_iff] at hasked
  rw [OrderedDict.firstKey?_ofItems] at h
  split at h
  · cases h
  next selected hselected =>
  obtain ⟨first, hfirst⟩ : ∃ first, candidates.head? = some first := by
    cases candidates with
    | nil => exact absurd rfl hnonempty
    | cons first rest => exact ⟨first, rfl⟩
  rw [hfirst] at hselected
  obtain ⟨ref, href, hget⟩ := Option.bind_eq_some_iff.mp hselected
  rw [OrderedDict.get?_ofItems] at hget
  obtain ⟨hmem, hvalue⟩ := Data.History.last?_eq_some hget
  obtain rfl := Except.ok.inj h
  exact ⟨first, ref, hfirst, href, hmem, by simpa using hvalue, rfl, fun hdistinct hnone =>
    hasked ⟨hdistinct, hnone⟩⟩

/-- A confirmation that is empty confirms the first candidate. -/
theorem resolveMaterialInput_of_empty {first : MaterialInputCandidate}
    (hfirst : candidates.head? = some first) :
    ∃ decision, resolveMaterialInput action candidates (some "") = .ok decision := by
  have hmem : first ∈ candidates := List.mem_of_mem_head? hfirst
  have hfound : (OrderedDict.ofItems MaterialInputCandidate.valueRef candidates).get?
      first.valueRef ≠ none := by
    rw [Ne, OrderedDict.get?_eq_none_iff, not_not, OrderedDict.mem_keys_ofItems]
    exact ⟨first, hmem, rfl⟩
  obtain ⟨selected, hselected⟩ := Option.ne_none_iff_exists'.mp hfound
  have hlooked : (pyOr (some "") (candidates.head?.map MaterialInputCandidate.valueRef)).bind
      (OrderedDict.ofItems MaterialInputCandidate.valueRef candidates).get? = some selected := by
    rw [hfirst]
    exact hselected
  unfold resolveMaterialInput
  rw [if_neg (List.ne_nil_of_mem hmem)]
  dsimp only
  rw [if_neg (by simp), OrderedDict.firstKey?_ofItems, hlooked]
  exact ⟨⟨action, selected, true⟩, rfl⟩

end

theorem falsy_iff {a : Option String} : falsy a = true ↔ a = none ∨ a = some "" := by
  cases a <;> simp [falsy]

/-- No decision is a guess exactly if the confirmation is not empty, or is the first candidate's own
reference. -/
theorem resolveMaterialInput_notGuessed_iff (action : MaterialAction)
    (candidates : List MaterialInputCandidate) (confirmedValueRef : Option String) :
    (∀ decision, resolveMaterialInput action candidates confirmedValueRef = .ok decision →
        NotGuessed candidates confirmedValueRef decision) ↔
      (confirmedValueRef = some "" → ∀ first ∈ candidates.head?, first.valueRef = "") := by
  constructor
  · rintro h rfl first hfirst
    obtain ⟨decision, hdecision⟩ : ∃ decision,
        resolveMaterialInput action candidates (some "") = .ok decision :=
      resolveMaterialInput_of_empty hfirst
    obtain ⟨first', ref, hfirst', href, -, hvalue, hexplicit, -⟩ :=
      resolveMaterialInput_ok hdecision
    obtain rfl := Option.some.inj (hfirst.symm.trans hfirst')
    have hconfirmed := (h decision hdecision).confirmed hexplicit
    rw [hvalue, ← Option.some.inj href] at hconfirmed
    exact (Option.some.inj hconfirmed).symm
  · intro h decision hdecision
    obtain ⟨first, ref, hfirst, href, hmem, hvalue, hexplicit, hasked⟩ :=
      resolveMaterialInput_ok hdecision
    -- what was given as a confirmation is what was looked up
    have hconfirmed (hsome : confirmedValueRef ≠ none) :
        confirmedValueRef = some decision.selected.valueRef := by
      rw [hvalue]
      cases hfalsy : falsy confirmedValueRef with
      | false => rwa [pyOr_of_not_falsy hfalsy] at href
      | true =>
          have hempty := (falsy_iff.mp hfalsy).resolve_left hsome
          rw [pyOr_of_falsy hfalsy, h hempty first hfirst] at href
          rw [hempty, href]
    refine ⟨hmem, fun hdistinct => hconfirmed (hasked hdistinct), fun hexplicitly => ?_⟩
    rw [hexplicit] at hexplicitly
    exact hconfirmed (Option.isSome_iff_ne_none.mp hexplicitly)

/-- Two addresses and an empty confirmation: the first is taken, as confirmed. -/
theorem resolveMaterialInput_guesses :
    ¬ ∀ (action : MaterialAction) (candidates : List MaterialInputCandidate)
      (confirmedValueRef : Option String) (decision : MaterialInputDecision),
        resolveMaterialInput action candidates confirmedValueRef = .ok decision →
          NotGuessed candidates confirmedValueRef decision := by
  intro h
  have hguessed := h .deliveryAddress [⟨"choice_a", "Choice A"⟩, ⟨"choice_b", "Choice B"⟩] (some "")
    ⟨.deliveryAddress, ⟨"choice_a", "Choice A"⟩, true⟩ (by decide)
  exact absurd (hguessed.confirmed rfl) (by decide)

end XbosCustomerChannel
