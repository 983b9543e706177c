import XbosCustomerChannel.Lifecycle.Evidence

/-!
# Changes and cancellations under client references

Both kinds of requests are answered once under the reference of their client: an instance of
`Data.Replay`. The two counts of effects are counts of accepted decisions, one for each reference.
-/

namespace XbosCustomerChannel

open Data Data.Replay FakeXBOSOrderChangeFulfillmentClient

namespace FakeXBOSOrderChangeFulfillmentClient

theorem requestOrderChange_idempotent :
    Idempotent OrderChangeRequest.clientChangeRef changeByRef requestOrderChange where
  replay h := by
    unfold requestOrderChange
    rw [h]
    exact if_neg (not_not.mpr rfl)
  conflict h hne := by
    unfold requestOrderChange
    rw [h]
    exact ⟨_, if_pos hne⟩
  refuse {client request e} hunused herror := by
    unfold requestOrderChange at herror ⊢
    rw [hunused] at herror ⊢
    cases hmatches : client.requiredMatches request.orderRef request.correlationRef with
    | error e => rfl
    | ok record =>
        simp only [hmatches] at herror
        cases herror
  enter {client request decision} hunused hok := by
    unfold requestOrderChange at hok ⊢
    rw [hunused] at hok ⊢
    cases hmatches : client.requiredMatches request.orderRef request.correlationRef with
    | error e =>
        simp only [hmatches] at hok
        cases hok
    | ok record =>
        simp only [hmatches] at hok ⊢
        obtain rfl := Except.ok.inj hok
        rfl

theorem requestCancellation_idempotent :
    Idempotent CancellationRequest.clientCancelRef cancelByRef requestCancellation where
  replay h := by
    unfold requestCancellation
    rw [h]
    exact if_neg (not_not.mpr rfl)
  conflict h hne := by
    unfold requestCancellation
    rw [h]
    exact ⟨_, if_pos hne⟩
  refuse {client request e} hunused herror := by
    unfold requestCancellation at herror ⊢
    rw [hunused] at herror ⊢
    cases hmatches : client.requiredMatches request.orderRef request.correlationRef with
    | error e => rfl
    | ok record =>
        simp only [hmatches] at herror
        cases herror
  enter {client request decision} hunused hok := by
    unfold requestCancellation at hok ⊢
    rw [hunused] at hok ⊢
    cases hmatches : client.requiredMatches request.orderRef request.correlationRef with
    | error e =>
        simp only [hmatches] at hok
        cases hok
    | ok record =>
        simp only [hmatches] at hok ⊢
        obtain rfl := Except.ok.inj hok
        rfl

/-! ## What calls leave alone -/

/-- The changes that were requested, and how many had an effect. -/
structure SameChanges (client client' : FakeXBOSOrderChangeFulfillmentClient) : Prop where
  changeByRef : client'.changeByRef = client.changeByRef
  count : client'.canonicalChangeEffectCount = client.canonicalChangeEffectCount

/-- The cancellations that were requested, and how many had an effect. -/
structure SameCancellations (client client' : FakeXBOSOrderChangeFulfillmentClient) : Prop where
  cancelByRef : client'.cancelByRef = client.cancelByRef
  count : client'.canonicalCancelEffectCount = client.canonicalCancelEffectCount

variable (client : FakeXBOSOrderChangeFulfillmentClient)

theorem requestOrderChange_sameCancellations (request : OrderChangeRequest) :
    SameCancellations client (client.requestOrderChange request).2 := by
  unfold requestOrderChange
  split
  · split
    · exact ⟨rfl, rfl⟩
    · exact ⟨rfl, rfl⟩
  · split
    · exact ⟨rfl, rfl⟩
    · exact ⟨rfl, rfl⟩

theorem requestCancellation_sameChanges (request : CancellationRequest) :
    SameChanges client (client.requestCancellation request).2 := by
  unfold requestCancellation
  split
  · split
    · exact ⟨rfl, rfl⟩
    · exact ⟨rfl, rfl⟩
  · split
    · exact ⟨rfl, rfl⟩
    · exact ⟨rfl, rfl⟩

/-- The other calls. -/
theorem perform_same (call : LifecycleCall)
    (hchange : ∀ request, call ≠ .act (.requestOrderChange request))
    (hcancel : ∀ request, call ≠ .act (.requestCancellation request)) :
    SameChanges client (client.perform call).2 ∧ SameCancellations client (client.perform call).2 := by
  cases call with
  | act op =>
      cases op with
      | registerOrder => exact ⟨⟨rfl, rfl⟩, ⟨rfl, rfl⟩⟩
      | setFulfillmentStage orderRef stage =>
          simp only [perform, setFulfillmentStage]
          split
          · exact ⟨⟨rfl, rfl⟩, ⟨rfl, rfl⟩⟩
          · exact ⟨⟨rfl, rfl⟩, ⟨rfl, rfl⟩⟩
      | requestOrderChange request => exact absurd rfl (hchange request)
      | requestCancellation request => exact absurd rfl (hcancel request)
  | getCancellationProjection orderRef correlationRef =>
      simp only [perform, getCancellationProjection]
      split
      · exact ⟨⟨rfl, rfl⟩, ⟨rfl, rfl⟩⟩
      · split
        · exact ⟨⟨rfl, rfl⟩, ⟨rfl, rfl⟩⟩
        · exact ⟨⟨rfl, rfl⟩, ⟨rfl, rfl⟩⟩
  | getFulfillmentProjection orderRef correlationRef =>
      simp only [perform, getFulfillmentProjection]
      split
      · exact ⟨⟨rfl, rfl⟩, ⟨rfl, rfl⟩⟩
      · split
        · exact ⟨⟨rfl, rfl⟩, ⟨rfl, rfl⟩⟩
        · exact ⟨⟨rfl, rfl⟩, ⟨rfl, rfl⟩⟩
  | reconcileOrderLifecycle orderRef correlationRef =>
      simp only [perform, reconcileOrderLifecycle]
      split
      · exact ⟨⟨rfl, rfl⟩, ⟨rfl, rfl⟩⟩
      · exact ⟨⟨rfl, rfl⟩, ⟨rfl, rfl⟩⟩

/-- A call is one of three kinds. -/
theorem perform_kinds (call : LifecycleCall) :
    (∃ request, call = .act (.requestOrderChange request)) ∨
      (∃ request, call = .act (.requestCancellation request)) ∨
      SameChanges client (client.perform call).2 ∧
        SameCancellations client (client.perform call).2 := by
  by_cases hchange : ∃ request, call = .act (.requestOrderChange request)
  · exact Or.inl hchange
  by_cases hcancel : ∃ request, call = .act (.requestCancellation request)
  · exact Or.inr (Or.inl hcancel)
  rw [not_exists] at hchange hcancel
  exact Or.inr (Or.inr (client.perform_same call hchange hcancel))

theorem changeByRef_extends (call : LifecycleCall) :
    client.changeByRef.Extends (client.perform call).2.changeByRef := by
  rcases client.perform_kinds call with ⟨request, rfl⟩ | ⟨request, rfl⟩ | ⟨hsame, -⟩
  · exact requestOrderChange_idempotent.extends client request
  · rw [show (client.perform (.act (.requestCancellation request))).2.changeByRef = _ from
      (client.requestCancellation_sameChanges request).changeByRef]
    exact Dict.Extends.refl _
  · rw [hsame.changeByRef]
    exact Dict.Extends.refl _

theorem cancelByRef_extends (call : LifecycleCall) :
    client.cancelByRef.Extends (client.perform call).2.cancelByRef := by
  rcases client.perform_kinds call with ⟨request, rfl⟩ | ⟨request, rfl⟩ | ⟨-, hsame⟩
  · rw [show (client.perform (.act (.requestOrderChange request))).2.cancelByRef = _ from
      (client.requestOrderChange_sameCancellations request).cancelByRef]
    exact Dict.Extends.refl _
  · exact requestCancellation_idempotent.extends client request
  · rw [hsame.cancelByRef]
    exact Dict.Extends.refl _

/-! ## How many requests have an effect -/

/-- The policy cancels an order where it accepts a cancellation that is not the merchant's. -/
theorem decideCancellation_accepted (case : CancellationCase) :
    (decideCancellation case).2.2 =
      ((decideCancellation case).1 && case ≠ .merchantInitiatedCancellation) := by
  cases case with
  | cancelBeforePayment => rfl
  | cancelAfterPayment => rfl
  | cancelAfterPreparationBegan => rfl
  | merchantInitiatedCancellation => rfl

def changeHasEffect (entry : OrderChangeRequest × OrderChangeDecision) : Bool := entry.2.accepted

def cancellationHasEffect (entry : CancellationRequest × CancellationDecision) : Bool :=
  entry.2.accepted && entry.2.case ≠ .merchantInitiatedCancellation

/-- The counts are those of the decisions that were accepted, one under each reference. -/
structure Counted (client : FakeXBOSOrderChangeFulfillmentClient) : Prop where
  changes : client.canonicalChangeEffectCount = client.changeByRef.count changeHasEffect
  cancellations : client.canonicalCancelEffectCount = client.cancelByRef.count cancellationHasEffect

variable {client}

theorem Counted.same (h : Counted client) {client' : FakeXBOSOrderChangeFulfillmentClient}
    (hchanges : SameChanges client client') (hcancellations : SameCancellations client client') :
    Counted client' where
  changes := by rw [hchanges.count, hchanges.changeByRef, h.changes]
  cancellations := by rw [hcancellations.count, hcancellations.cancelByRef, h.cancellations]

theorem Counted.requestOrderChange (h : Counted client) (request : OrderChangeRequest) :
    Counted (client.requestOrderChange request).2 := by
  have hcancellations := client.requestOrderChange_sameCancellations request
  refine ⟨?_, by rw [hcancellations.count, hcancellations.cancelByRef, h.cancellations]⟩
  refine requestOrderChange_idempotent.count ?_ h.changes request
  intro client request decision hunused hok
  unfold FakeXBOSOrderChangeFulfillmentClient.requestOrderChange at hok ⊢
  rw [hunused] at hok ⊢
  cases hmatches : client.requiredMatches request.orderRef request.correlationRef with
  | error e =>
      simp only [hmatches] at hok
      cases hok
  | ok record =>
      simp only [hmatches] at hok ⊢
      obtain rfl := Except.ok.inj hok
      rfl

theorem Counted.requestCancellation (h : Counted client) (request : CancellationRequest) :
    Counted (client.requestCancellation request).2 := by
  have hchanges := client.requestCancellation_sameChanges request
  refine ⟨by rw [hchanges.count, hchanges.changeByRef, h.changes], ?_⟩
  refine requestCancellation_idempotent.count ?_ h.cancellations request
  intro client request decision hunused hok
  unfold FakeXBOSOrderChangeFulfillmentClient.requestCancellation at hok ⊢
  rw [hunused] at hok ⊢
  cases hmatches : client.requiredMatches request.orderRef request.correlationRef with
  | error e =>
      simp only [hmatches] at hok
      cases hok
  | ok record =>
      simp only [hmatches] at hok ⊢
      obtain rfl := Except.ok.inj hok
      simp only [cancellationHasEffect, ← decideCancellation_accepted]

theorem counted_performs (calls : List LifecycleCall) : Counted (performs {} calls) := by
  induction calls using List.reverseRecOn with
  | nil => exact ⟨rfl, rfl⟩
  | append_singleton calls call ih =>
      rw [performs_concat]
      rcases (performs {} calls).perform_kinds call with
        ⟨request, rfl⟩ | ⟨request, rfl⟩ | ⟨hchanges, hcancellations⟩
      · exact ih.requestOrderChange request
      · exact ih.requestCancellation request
      · exact ih.same hchanges hcancellations

end FakeXBOSOrderChangeFulfillmentClient

/-! ## Over a run -/

/-- A method that was called comes to the same under the same reference, however often and whatever
is done in between: an equal request gets the decision that was made, another one is refused, and
neither changes anything. -/
def Settles {ρ α : Type} (key : ρ → String)
    (method : FakeXBOSOrderChangeFulfillmentClient → ρ →
      Except Exc α × FakeXBOSOrderChangeFulfillmentClient) : Prop :=
  ∀ (before after : List LifecycleCall) (request request' : ρ) (decision : α),
    (method (performs {} before) request).1 = .ok decision → key request' = key request →
      (method ((method (performs {} before) request).2.performs after) request').2 =
          (method (performs {} before) request).2.performs after ∧
        ((∃ decision', (method ((method (performs {} before) request).2.performs after) request').1 =
          .ok decision') ↔ request' = request) ∧
        (request' = request →
          (method ((method (performs {} before) request).2.performs after) request').1 = .ok decision)

end XbosCustomerChannel
