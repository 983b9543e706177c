import XbosCustomerChannel.Lifecycle.Requests

/-!
# Which orders are canceled

An order is canceled by its merchant when it is registered, or by a cancellation that is decided anew
and accepted, and stays so until it is registered again. Projections and decisions on changes tell of
this and nothing else.
-/

namespace XbosCustomerChannel

open Data FakeXBOSOrderChangeFulfillmentClient

namespace LifecycleCall

/-- The call registers the order. -/
def Registers (call : LifecycleCall) (orderRef : String) : Prop :=
  ∃ correlationRef paymentState fulfillmentStage merchantInitiatedCancel,
    call = .act (.registerOrder orderRef correlationRef paymentState fulfillmentStage
      merchantInitiatedCancel)

/-- The call, made to this client, cancels the order. -/
inductive Cancels (client : FakeXBOSOrderChangeFulfillmentClient) (orderRef : String) :
    LifecycleCall → Prop
  | registered (correlationRef : String) (paymentState : UpstreamPaymentCommercialState)
      (fulfillmentStage : Option FulfillmentStage) :
      Cancels client orderRef (.act (.registerOrder orderRef correlationRef paymentState
        fulfillmentStage true))
  | requested (request : CancellationRequest) (record : LifecycleRecord)
      (horder : request.orderRef = orderRef) (hdecides : Decides client request record)
      (hcancellable : Cancellable record) :
      Cancels client orderRef (.act (.requestCancellation request))

end LifecycleCall

namespace FakeXBOSOrderChangeFulfillmentClient

def Canceled (client : FakeXBOSOrderChangeFulfillmentClient) (orderRef : String) : Prop :=
  ∃ record, client.records.get? orderRef = some record ∧ record.orderState = .canceled

variable {client client' : FakeXBOSOrderChangeFulfillmentClient} {orderRef : String}

theorem canceled_congr (hrecords : client'.records = client.records) :
    client'.Canceled orderRef ↔ client.Canceled orderRef := by
  unfold Canceled
  rw [hrecords]

theorem canceled_registerOrder (orderRef' correlationRef : String)
    (paymentState : UpstreamPaymentCommercialState) (fulfillmentStage : Option FulfillmentStage)
    (merchantInitiatedCancel : Bool) :
    (client.registerOrder orderRef' correlationRef paymentState fulfillmentStage
        merchantInitiatedCancel).Canceled orderRef ↔
      if orderRef = orderRef' then merchantInitiatedCancel = true else client.Canceled orderRef := by
  unfold Canceled registerOrder
  simp only [Dict.get?_set]
  by_cases heq : orderRef = orderRef'
  · simp only [heq, if_true, Option.some.injEq, exists_eq_left']
    cases merchantInitiatedCancel with
    | true => simp
    | false => simp
  · simp only [heq, if_false]

theorem canceled_setFulfillmentStage (orderRef' : String) (stage : Option FulfillmentStage) :
    (client.setFulfillmentStage orderRef' stage).2.Canceled orderRef ↔ client.Canceled orderRef := by
  unfold Canceled
  simp only [get?_setFulfillmentStage, Option.map_eq_some_iff]
  constructor
  · rintro ⟨_, ⟨record, hget, rfl⟩, hstate⟩
    refine ⟨record, hget, ?_⟩
    split at hstate
    · exact hstate
    · exact hstate
  · rintro ⟨record, hget, hstate⟩
    refine ⟨_, ⟨record, hget, rfl⟩, ?_⟩
    split
    · exact hstate
    · exact hstate

theorem canceled_requestCancellation (request : CancellationRequest) :
    (client.requestCancellation request).2.Canceled orderRef ↔
      LifecycleCall.Cancels client orderRef (.act (.requestCancellation request)) ∨
        client.Canceled orderRef := by
  cases requestCancellation_cancels client request with
  | idle hnone hrecords hcount =>
      rw [canceled_congr hrecords, iff_or_self]
      intro h
      cases h with
      | requested _ record horder hdecides hcancellable =>
          exact absurd hcancellable (hnone record hdecides)
  | canceled record hdecides hcancellable hrecords hcount =>
      by_cases heq : orderRef = request.orderRef
      · subst heq
        refine iff_of_true ?_ (Or.inl (.requested request record rfl hdecides hcancellable))
        refine ⟨{ record with orderState := .canceled }, ?_, rfl⟩
        rw [hrecords]
        exact Dict.get?_set_self _ _ _
      · have hget : (client.requestCancellation request).2.Canceled orderRef ↔
            client.Canceled orderRef := by
          unfold Canceled
          rw [hrecords, Dict.get?_set_of_ne _ heq]
        rw [hget, iff_or_self]
        intro h
        cases h with
        | requested _ _ horder => exact absurd horder.symm heq

/-- Projections are read off the records. -/
theorem records_of_asks (call : LifecycleCall) (hcall : ∀ op, call ≠ .act op) :
    (client.perform call).2.records = client.records := by
  cases call with
  | act op => exact absurd rfl (hcall op)
  | getCancellationProjection orderRef correlationRef =>
      simp only [perform, getCancellationProjection]
      split
      · rfl
      · split
        · rfl
        · rfl
  | getFulfillmentProjection orderRef correlationRef =>
      simp only [perform, getFulfillmentProjection]
      split
      · rfl
      · split
        · rfl
        · rfl
  | reconcileOrderLifecycle orderRef correlationRef =>
      simp only [perform, reconcileOrderLifecycle]
      split
      · rfl
      · rfl

/-- What one call makes of it. -/
theorem canceled_perform (client : FakeXBOSOrderChangeFulfillmentClient) (call : LifecycleCall) :
    (client.perform call).2.Canceled orderRef ↔
      LifecycleCall.Cancels client orderRef call ∨
        client.Canceled orderRef ∧ ¬ call.Registers orderRef := by
  by_cases hacts : ∃ op, call = .act op
  · obtain ⟨op, rfl⟩ := hacts
    rw [perform_act]
    cases op with
    | registerOrder orderRef' correlationRef paymentState fulfillmentStage merchantInitiatedCancel =>
        rw [show client.step _ = client.registerOrder _ _ _ _ _ from rfl, canceled_registerOrder]
        by_cases heq : orderRef = orderRef'
        · subst heq
          rw [if_pos rfl]
          constructor
          · rintro rfl
            exact Or.inl (.registered _ _ _)
          · rintro (h | ⟨-, h⟩)
            · cases h with
              | registered => rfl
            · exact absurd ⟨_, _, _, _, rfl⟩ h
        · rw [if_neg heq]
          constructor
          · intro h
            refine Or.inr ⟨h, ?_⟩
            rintro ⟨_, _, _, _, hsame⟩
            injection hsame with hsame
            injection hsame with hsame
            exact heq hsame.symm
          · rintro (h | ⟨h, -⟩)
            · cases h with
              | registered => exact absurd rfl heq
            · exact h
    | setFulfillmentStage orderRef' stage =>
        rw [show client.step _ = (client.setFulfillmentStage _ _).2 from rfl,
          canceled_setFulfillmentStage]
        constructor
        · intro h
          refine Or.inr ⟨h, ?_⟩
          rintro ⟨_, _, _, _, hsame⟩
          cases hsame
        · rintro (h | ⟨h, -⟩)
          · cases h
          · exact h
    | requestOrderChange request =>
        rw [show client.step _ = (client.requestOrderChange _).2 from rfl,
          canceled_congr (requestOrderChange_records request).1]
        constructor
        · intro h
          refine Or.inr ⟨h, ?_⟩
          rintro ⟨_, _, _, _, hsame⟩
          cases hsame
        · rintro (h | ⟨h, -⟩)
          · cases h
          · exact h
    | requestCancellation request =>
        rw [show client.step _ = (client.requestCancellation _).2 from rfl,
          canceled_requestCancellation]
        apply or_congr_right
        constructor
        · intro h
          refine ⟨h, ?_⟩
          rintro ⟨_, _, _, _, hsame⟩
          cases hsame
        · exact And.left
  · rw [not_exists] at hacts
    rw [canceled_congr (records_of_asks call hacts)]
    constructor
    · intro h
      refine Or.inr ⟨h, ?_⟩
      rintro ⟨_, _, _, _, hsame⟩
      exact hacts _ hsame
    · rintro (h | ⟨h, -⟩)
      · cases h with
        | registered => exact absurd rfl (hacts _)
        | requested => exact absurd rfl (hacts _)
      · exact h

/-- Some call of the run canceled the order, and it was not registered again since. -/
def CanceledSince (calls : List LifecycleCall) (orderRef : String) : Prop :=
  ∃ before call after, calls = before ++ call :: after ∧
    LifecycleCall.Cancels (performs {} before) orderRef call ∧
      ∀ call' ∈ after, ¬ call'.Registers orderRef

theorem canceled_performs (calls : List LifecycleCall) (orderRef : String) :
    (performs {} calls).Canceled orderRef ↔ CanceledSince calls orderRef := by
  have hnone : ¬ Canceled {} orderRef := by
    rintro ⟨record, hget, -⟩
    cases hget
  exact @History.latch_iff _ _ (fun client call => (client.perform call).2)
    (fun client => client.Canceled orderRef) (fun client => LifecycleCall.Cancels client orderRef)
    (fun call => call.Registers orderRef) canceled_perform {} hnone calls

/-! ## What is observed of it -/

/-- What a projection of the lifecycle was made from. -/
theorem reconcileOrderLifecycle_ok {orderRef correlationRef : String}
    {projection : OrderLifecycleProjection}
    (h : client.reconcileOrderLifecycle orderRef correlationRef = (.ok projection, client')) :
    client' = { client with eventCounter := client.eventCounter + 1 } ∧ ∃ record,
      client.records.get? orderRef = some record ∧ record.correlationRef = correlationRef ∧
        projection.orderState = record.orderState ∧
        projection.fulfillmentState = record.fulfillmentState ∧
        projection.fulfillmentStage = record.fulfillmentStage := by
  unfold reconcileOrderLifecycle at h
  cases hmatches : client.requiredMatches orderRef correlationRef with
  | error e =>
      simp only [hmatches, Prod.mk.injEq, reduceCtorEq, false_and] at h
  | ok record =>
      obtain ⟨hget, hcorrelation⟩ := requiredMatches_ok.mp hmatches
      simp only [hmatches, Prod.mk.injEq, Except.ok.injEq] at h
      obtain ⟨rfl, rfl⟩ := h
      exact ⟨rfl, record, hget, hcorrelation, rfl, rfl, rfl⟩

/-- How a change is decided under a reference that was not used. -/
theorem requestOrderChange_decides {request : OrderChangeRequest} {record : LifecycleRecord}
    (hunused : client.changeByRef.get? request.clientChangeRef = none)
    (hget : client.records.get? request.orderRef = some record)
    (hcorrelation : record.correlationRef = request.correlationRef) :
    ∃ decision, (client.requestOrderChange request).1 = .ok decision ∧
      decision.accepted = (decideChange record).1 ∧
        decision.reasonCode = (decideChange record).2 := by
  unfold requestOrderChange
  rw [hunused]
  dsimp only
  rw [requiredMatches_ok.mpr ⟨hget, hcorrelation⟩]
  exact ⟨_, rfl, rfl, rfl⟩

end FakeXBOSOrderChangeFulfillmentClient

theorem LifecycleRecord.fulfillmentState_canceled (record : LifecycleRecord) :
    record.fulfillmentState = .canceled ↔ record.orderState = .canceled := by
  unfold LifecycleRecord.fulfillmentState
  by_cases hcanceled : record.orderState = .canceled
  · simp [hcanceled]
  · rw [if_neg hcanceled]
    simp only [hcanceled, iff_false]
    cases record.fulfillmentStage with
    | none => simp
    | some stage =>
        cases stage with
        | kitchenBarTicket => simp
        | preparation => simp
        | ready => simp
        | served => simp
        | pickedUp => simp
        | dispatched => simp
        | delivered => simp

theorem decideChange_accepted (record : LifecycleRecord) :
    (decideChange record).1 = true ↔
      record.orderState ≠ .canceled ∧ record.fulfillmentStage = none := by
  unfold decideChange
  split
  · next h => simp [h]
  · next h =>
    split
    · next hstage => simp [Option.isSome_iff_ne_none.mp hstage]
    · next hstage => simpa [h] using hstage

theorem decideChange_canceled (record : LifecycleRecord) :
    (decideChange record).2 = "canonical_order_already_canceled" ↔ record.orderState = .canceled := by
  unfold decideChange
  split
  · next h => simp [h]
  · next h =>
    split
    · simp [h]
    · simp [h]

/-- A projection of an order shows it canceled, and shows its fulfillment canceled, if and only if it
was canceled since it was registered; a new change of the order is then refused for that reason, and it
is accepted if and only if the order was not canceled and the projection shows no stage. -/
theorem reconciled_canceled_iff (calls : List LifecycleCall) {orderRef correlationRef : String}
    {projection : OrderLifecycleProjection} {client : FakeXBOSOrderChangeFulfillmentClient}
    (h : (performs {} calls).reconcileOrderLifecycle orderRef correlationRef =
      (.ok projection, client)) :
    (projection.orderState = .canceled ↔ CanceledSince calls orderRef) ∧
      (projection.fulfillmentState = .canceled ↔ CanceledSince calls orderRef) ∧
      ∀ request : OrderChangeRequest, request.orderRef = orderRef →
        request.correlationRef = correlationRef →
          client.changeByRef.get? request.clientChangeRef = none →
            ∃ decision, (client.requestOrderChange request).1 = .ok decision ∧
              (decision.reasonCode = "canonical_order_already_canceled" ↔
                CanceledSince calls orderRef) ∧
              (decision.accepted = true ↔
                ¬ CanceledSince calls orderRef ∧ projection.fulfillmentStage = none) := by
  obtain ⟨rfl, record, hget, hcorrelation, horder, hfulfillment, hstage⟩ :=
    reconcileOrderLifecycle_ok h
  have hcanceled : record.orderState = .canceled ↔ CanceledSince calls orderRef := by
    rw [← canceled_performs]
    constructor
    · intro hstate
      exact ⟨record, hget, hstate⟩
    · rintro ⟨record', hget', hstate⟩
      rw [hget] at hget'
      rwa [Option.some.inj hget']
  refine ⟨?_, ?_, ?_⟩
  · rw [horder, hcanceled]
  · rw [hfulfillment, record.fulfillmentState_canceled, hcanceled]
  · rintro request rfl rfl hunused
    obtain ⟨decision, hdecision, haccepted, hreason⟩ :=
      requestOrderChange_decides hunused hget hcorrelation
    refine ⟨decision, hdecision, ?_, ?_⟩
    · rw [hreason, decideChange_canceled, hcanceled]
    · rw [haccepted, decideChange_accepted, Ne, hcanceled, hstage]

/-- A paid order, canceled by its customer. -/
theorem reconciled_canceled_iff_once : ∃ projection client,
    (performs {} [.act (paidOrder "order:1"), .act (cancellation "order:1" "cancel:1")]
      ).reconcileOrderLifecycle "order:1" "corr:fixture:one" = (.ok projection, client) ∧
    CanceledSince [.act (paidOrder "order:1"), .act (cancellation "order:1" "cancel:1")]
      "order:1" := by
  have hcanceled : ((performs {} [.act (paidOrder "order:1"),
      .act (cancellation "order:1" "cancel:1")]).reconcileOrderLifecycle "order:1"
        "corr:fixture:one").1.toOption.map OrderLifecycleProjection.orderState = some .canceled := by
    decide +kernel
  obtain ⟨projection, hprojection, hstate⟩ := Option.map_eq_some_iff.mp hcanceled
  have h : (performs {} [.act (paidOrder "order:1"), .act (cancellation "order:1" "cancel:1")]
      ).reconcileOrderLifecycle "order:1" "corr:fixture:one" = (.ok projection, _) :=
    Prod.ext (ok_of_toOption hprojection) rfl
  exact ⟨projection, _, h, (reconciled_canceled_iff _ h).1.mp hstate⟩

end XbosCustomerChannel
