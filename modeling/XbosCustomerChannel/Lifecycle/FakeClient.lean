import XbosCustomerChannel.Ports

/-!
# The deterministic lifecycle fixture

`FakeXBOSOrderChangeFulfillmentClient`: registered orders, their fulfillment stage, and the policy that
changes and cancellations are decided by. A request that was decided is answered again from a table
under the reference of the client; another request under that reference is a conflict.
-/

namespace XbosCustomerChannel

open Data

inductive FulfillmentStage
  | kitchenBarTicket
  | preparation
  | ready
  | served
  | pickedUp
  | dispatched
  | delivered
  deriving DecidableEq, Repr

/-- `_LifecycleRecord`. -/
structure LifecycleRecord where
  correlationRef : String
  orderState : UpstreamOrderState := .confirmed
  paymentState : UpstreamPaymentCommercialState := .notRequested
  fulfillmentStage : Option FulfillmentStage := none
  merchantInitiatedCancel : Bool := false
  deriving DecidableEq, Repr

structure FakeXBOSOrderChangeFulfillmentClient where
  records : Dict String LifecycleRecord := ∅
  changeByRef : Dict String (OrderChangeRequest × OrderChangeDecision) := ∅
  cancelByRef : Dict String (CancellationRequest × CancellationDecision) := ∅
  eventCounter : Nat := 0
  canonicalChangeEffectCount : Nat := 0
  canonicalCancelEffectCount : Nat := 0

namespace FakeXBOSOrderChangeFulfillmentClient

variable (client : FakeXBOSOrderChangeFulfillmentClient)

/-- `register_order`; an order that is there already is registered anew. -/
def registerOrder (orderRef correlationRef : String) (paymentState : UpstreamPaymentCommercialState)
    (fulfillmentStage : Option FulfillmentStage) (merchantInitiatedCancel : Bool) :
    FakeXBOSOrderChangeFulfillmentClient :=
  { client with
    records := client.records.set orderRef
      { correlationRef
        orderState := if merchantInitiatedCancel then .canceled else .confirmed
        paymentState
        fulfillmentStage
        merchantInitiatedCancel } }

/-- `_required`. -/
def required (orderRef : String) : Except Exc LifecycleRecord :=
  match client.records.get? orderRef with
  | some record => .ok record
  | none => .error ⟨.keyError, "canonical_order_not_found"⟩

/-- `_required_matches`. -/
def requiredMatches (orderRef correlationRef : String) : Except Exc LifecycleRecord :=
  match client.required orderRef with
  | .error e => .error e
  | .ok record =>
      if record.correlationRef ≠ correlationRef then
        .error ⟨.lifecycleAuthorityMismatch, "canonical_order_correlation_mismatch"⟩
      else .ok record

def setFulfillmentStage (orderRef : String) (stage : Option FulfillmentStage) :
    Except Exc Unit × FakeXBOSOrderChangeFulfillmentClient :=
  match client.required orderRef with
  | .error e => (.error e, client)
  | .ok record =>
      (.ok (), { client with
        records := client.records.set orderRef { record with fulfillmentStage := stage } })

/-- `_next_evidence`, called for the `n`-th time from now. -/
def evidence (pfx : String) (n : Nat) : String :=
  pfx ++ ":fixture:" ++ toString (client.eventCounter + n)

/-- The policy on changes: whether one is accepted, and why. -/
def decideChange (record : LifecycleRecord) : Bool × String :=
  if record.orderState = .canceled then (false, "canonical_order_already_canceled")
  else if record.fulfillmentStage.isSome then
    (false, "change_not_permitted_after_fulfillment_started")
  else (true, "xbos_change_policy_accepted")

def requestOrderChange (request : OrderChangeRequest) :
    Except Exc OrderChangeDecision × FakeXBOSOrderChangeFulfillmentClient :=
  match client.changeByRef.get? request.clientChangeRef with
  | some (previousRequest, previousDecision) =>
      if previousRequest ≠ request then
        (.error ⟨.lifecycleRequestConflict, "change_idempotency_payload_conflict"⟩, client)
      else (.ok previousDecision, client)
  | none =>
      match client.requiredMatches request.orderRef request.correlationRef with
      | .error e => (.error e, client)
      | .ok record =>
          let (accepted, reasonCode) := decideChange record
          let decision : OrderChangeDecision :=
            { decisionRef := client.evidence "change-decision" 1
              orderRef := request.orderRef
              correlationRef := request.correlationRef
              accepted
              reasonCode
              evidenceRef := client.evidence "change-evidence" 2 }
          (.ok decision, { client with
            changeByRef := client.changeByRef.set request.clientChangeRef (request, decision)
            eventCounter := client.eventCounter + 2
            canonicalChangeEffectCount :=
              client.canonicalChangeEffectCount + if accepted then 1 else 0 })

/-- `_classify_cancellation`. The state of the order is not looked at. -/
def classifyCancellation (record : LifecycleRecord) : CancellationCase :=
  if record.merchantInitiatedCancel then .merchantInitiatedCancellation
  else if record.fulfillmentStage.isSome then .cancelAfterPreparationBegan
  else if record.paymentState = .paid then .cancelAfterPayment
  else .cancelBeforePayment

/-- The policy on cancellations of a case: whether one is accepted, why, and whether the order is
canceled for it. -/
def decideCancellation : CancellationCase → Bool × String × Bool
  | .cancelAfterPreparationBegan =>
      (false, "xbos_policy_rejects_customer_cancel_after_preparation", false)
  | .merchantInitiatedCancellation =>
      (true, "merchant_initiated_cancellation_already_authoritative", false)
  | _ => (true, "xbos_cancellation_policy_accepted", true)

def requestCancellation (request : CancellationRequest) :
    Except Exc CancellationDecision × FakeXBOSOrderChangeFulfillmentClient :=
  match client.cancelByRef.get? request.clientCancelRef with
  | some (previousRequest, previousDecision) =>
      if previousRequest ≠ request then
        (.error ⟨.lifecycleRequestConflict, "cancel_idempotency_payload_conflict"⟩, client)
      else (.ok previousDecision, client)
  | none =>
      match client.requiredMatches request.orderRef request.correlationRef with
      | .error e => (.error e, client)
      | .ok record =>
          let (accepted, reasonCode, cancels) := decideCancellation (classifyCancellation record)
          let decision : CancellationDecision :=
            { decisionRef := client.evidence "cancel-decision" 1
              orderRef := request.orderRef
              correlationRef := request.correlationRef
              case := classifyCancellation record
              accepted
              financialCorrectionRequired := record.paymentState = .paid
              reasonCode
              evidenceRef := client.evidence "cancel-evidence" 2 }
          (.ok decision, { client with
            records := if cancels then
                client.records.set request.orderRef { record with orderState := .canceled }
              else client.records
            cancelByRef := client.cancelByRef.set request.clientCancelRef (request, decision)
            eventCounter := client.eventCounter + 2
            canonicalCancelEffectCount :=
              client.canonicalCancelEffectCount + if cancels then 1 else 0 })

/-! ## What the methods do -/

variable {client}

theorem requiredMatches_ok {orderRef correlationRef : String} {record : LifecycleRecord} :
    client.requiredMatches orderRef correlationRef = .ok record ↔
      client.records.get? orderRef = some record ∧ record.correlationRef = correlationRef := by
  unfold requiredMatches required
  cases hget : client.records.get? orderRef with
  | none => simp
  | some found =>
      dsimp only
      split
      · next hne =>
        simp only [reduceCtorEq, Option.some.injEq, false_iff, not_and]
        rintro rfl
        exact hne
      · next heq =>
        simp only [Except.ok.injEq, Option.some.injEq, iff_self_and]
        rintro rfl
        exact not_not.mp heq

/-- A new stage leaves the rest of a record. -/
theorem get?_setFulfillmentStage (orderRef : String) (stage : Option FulfillmentStage)
    (orderRef' : String) :
    (client.setFulfillmentStage orderRef stage).2.records.get? orderRef' =
      (client.records.get? orderRef').map fun record =>
        if orderRef' = orderRef then { record with fulfillmentStage := stage } else record := by
  unfold setFulfillmentStage required
  by_cases heq : orderRef' = orderRef
  · subst heq
    cases hget : client.records.get? orderRef' with
    | none => simp [hget]
    | some record => simp
  · cases hget : client.records.get? orderRef with
    | none => simp [heq]
    | some record => simp [heq, Dict.get?_set_of_ne]

theorem requestOrderChange_records (request : OrderChangeRequest) :
    (client.requestOrderChange request).2.records = client.records ∧
      (client.requestOrderChange request).2.canonicalCancelEffectCount =
        client.canonicalCancelEffectCount := by
  unfold requestOrderChange
  split
  · split
    · exact ⟨rfl, rfl⟩
    · exact ⟨rfl, rfl⟩
  · split
    · exact ⟨rfl, rfl⟩
    · exact ⟨rfl, rfl⟩

/-- A cancellation that is decided anew: its reference was not used, and the order is there. -/
structure Decides (client : FakeXBOSOrderChangeFulfillmentClient) (request : CancellationRequest)
    (record : LifecycleRecord) : Prop where
  unused : client.cancelByRef.get? request.clientCancelRef = none
  record_eq : client.records.get? request.orderRef = some record
  correlation : record.correlationRef = request.correlationRef

/-- The case of a record for which a cancellation cancels the order. -/
def Cancellable (record : LifecycleRecord) : Prop :=
  record.merchantInitiatedCancel = false ∧ record.fulfillmentStage = none

instance (record : LifecycleRecord) : Decidable (Cancellable record) :=
  inferInstanceAs (Decidable (_ ∧ _))

theorem decideCancellation_cancels (record : LifecycleRecord) :
    (decideCancellation (classifyCancellation record)).2.2 = true ↔ Cancellable record := by
  unfold classifyCancellation Cancellable
  split
  · next hmerchant => simp [decideCancellation, hmerchant]
  next hmerchant =>
  split
  · next hstage => simp [decideCancellation, Option.isSome_iff_ne_none.mp hstage]
  next hstage =>
  have hnone : record.fulfillmentStage = none := by simpa using hstage
  split
  · simp [decideCancellation, hmerchant, hnone]
  · simp [decideCancellation, hmerchant, hnone]

/-- What a requested cancellation does. Only a new one of an order that can be cancelled has an
effect. -/
inductive Cancels (client : FakeXBOSOrderChangeFulfillmentClient) (request : CancellationRequest)
    (client' : FakeXBOSOrderChangeFulfillmentClient) : Prop
  | idle (hnone : ∀ record, Decides client request record → ¬ Cancellable record)
      (hrecords : client'.records = client.records)
      (hcount : client'.canonicalCancelEffectCount = client.canonicalCancelEffectCount)
  | canceled (record : LifecycleRecord) (hdecides : Decides client request record)
      (hcancellable : Cancellable record)
      (hrecords : client'.records =
        client.records.set request.orderRef { record with orderState := .canceled })
      (hcount : client'.canonicalCancelEffectCount = client.canonicalCancelEffectCount + 1)

theorem requestCancellation_cancels (client : FakeXBOSOrderChangeFulfillmentClient)
    (request : CancellationRequest) : Cancels client request (client.requestCancellation request).2 := by
  unfold requestCancellation
  split
  · next previous hprior =>
    have hused (record : LifecycleRecord) (h : Decides client request record) :
        ¬ Cancellable record := by
      have hunused := h.unused
      rw [hprior] at hunused
      cases hunused
    split
    · exact .idle hused rfl rfl
    · exact .idle hused rfl rfl
  · next hunused =>
    split
    · next e herror =>
      refine .idle (fun record h => ?_) rfl rfl
      rw [requiredMatches_ok.mpr ⟨h.record_eq, h.correlation⟩] at herror
      cases herror
    · next record hrecord =>
      obtain ⟨hget, hcorrelation⟩ := requiredMatches_ok.mp hrecord
      by_cases hcancellable : Cancellable record
      · have hcancels := (decideCancellation_cancels record).mpr hcancellable
        refine .canceled record ⟨hunused, hget, hcorrelation⟩ hcancellable ?_ ?_
        · exact if_pos hcancels
        · exact congrArg (client.canonicalCancelEffectCount + ·) (if_pos hcancels)
      · have hcancels := (decideCancellation_cancels record).not.mpr hcancellable
        refine .idle (fun record' h => ?_) (if_neg hcancels) ?_
        · have hsame := h.record_eq
          rw [hget] at hsame
          obtain rfl := Option.some.inj hsame
          exact hcancellable
        · exact congrArg (client.canonicalCancelEffectCount + ·) (if_neg hcancels)

/-- Of the new decisions, an accepted one that is not about a cancellation by the merchant cancels the
order. -/
theorem cancellable_of_accepted {request : CancellationRequest} {decision : CancellationDecision}
    (hunused : client.cancelByRef.get? request.clientCancelRef = none)
    (h : (client.requestCancellation request).1 = .ok decision) (haccepted : decision.accepted = true)
    (hcase : decision.case ≠ .merchantInitiatedCancellation) :
    ∃ record, Decides client request record ∧ Cancellable record := by
  unfold requestCancellation at h
  rw [hunused] at h
  dsimp only at h
  split at h
  · cases h
  · next record hrecord =>
    obtain ⟨hget, hcorrelation⟩ := requiredMatches_ok.mp hrecord
    obtain rfl := Except.ok.inj h
    refine ⟨record, ⟨hunused, hget, hcorrelation⟩, ?_⟩
    rw [← decideCancellation_cancels]
    dsimp only at haccepted hcase
    cases hclass : classifyCancellation record with
    | cancelBeforePayment => rfl
    | cancelAfterPayment => rfl
    | cancelAfterPreparationBegan =>
        rw [hclass] at haccepted
        cases haccepted
    | merchantInitiatedCancellation => exact absurd hclass hcase

end FakeXBOSOrderChangeFulfillmentClient

end XbosCustomerChannel
