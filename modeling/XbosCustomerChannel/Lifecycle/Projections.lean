import XbosCustomerChannel.Lifecycle.Cancellation

/-!
# Projections of the lifecycle

The other calls of `FakeXBOSOrderChangeFulfillmentClient`: what is known of a cancellation by the
merchant, of the fulfillment and of the order as a whole. Each projection is evidence, and takes its
numbers from the counter that decisions take theirs from.
-/

namespace XbosCustomerChannel

open Data

structure FulfillmentProjection where
  orderRef : String
  correlationRef : String
  stage : FulfillmentStage
  evidenceRef : String
  observedAtEpoch : Int
  deriving DecidableEq, Repr

structure OrderLifecycleProjection where
  orderRef : String
  correlationRef : String
  orderState : UpstreamOrderState
  paymentState : UpstreamPaymentCommercialState
  fulfillmentState : UpstreamFulfillmentState
  fulfillmentStage : Option FulfillmentStage
  evidenceRef : String
  observedAtEpoch : Int
  deriving DecidableEq, Repr

/-- `fulfillment_state`. -/
def LifecycleRecord.fulfillmentState (record : LifecycleRecord) : UpstreamFulfillmentState :=
  if record.orderState = .canceled then .canceled
  else
    match record.fulfillmentStage with
    | none => .notStarted
    | some .served => .completed
    | some .pickedUp => .completed
    | some .delivered => .completed
    | some _ => .active

namespace FakeXBOSOrderChangeFulfillmentClient

variable (client : FakeXBOSOrderChangeFulfillmentClient)

def getCancellationProjection (orderRef correlationRef : String) :
    Except Exc (Option CancellationDecision) × FakeXBOSOrderChangeFulfillmentClient :=
  match client.requiredMatches orderRef correlationRef with
  | .error e => (.error e, client)
  | .ok record =>
      if ¬ record.merchantInitiatedCancel then (.ok none, client)
      else
        (.ok (some
          { decisionRef := client.evidence "merchant-cancel-decision" 1
            orderRef
            correlationRef
            case := .merchantInitiatedCancellation
            accepted := true
            financialCorrectionRequired := record.paymentState = .paid
            reasonCode := "merchant_initiated_cancellation"
            evidenceRef := client.evidence "merchant-cancel-evidence" 2 }),
          { client with eventCounter := client.eventCounter + 2 })

def getFulfillmentProjection (orderRef correlationRef : String) :
    Except Exc (Option FulfillmentProjection) × FakeXBOSOrderChangeFulfillmentClient :=
  match client.requiredMatches orderRef correlationRef with
  | .error e => (.error e, client)
  | .ok record =>
      match record.fulfillmentStage with
      | none => (.ok none, client)
      | some stage =>
          (.ok (some
            { orderRef
              correlationRef
              stage
              evidenceRef := client.evidence "fulfillment-evidence" 1
              observedAtEpoch := (client.eventCounter + 1 : Nat) }),
            { client with eventCounter := client.eventCounter + 1 })

def reconcileOrderLifecycle (orderRef correlationRef : String) :
    Except Exc OrderLifecycleProjection × FakeXBOSOrderChangeFulfillmentClient :=
  match client.requiredMatches orderRef correlationRef with
  | .error e => (.error e, client)
  | .ok record =>
      (.ok
        { orderRef
          correlationRef
          orderState := record.orderState
          paymentState := record.paymentState
          fulfillmentState := record.fulfillmentState
          fulfillmentStage := record.fulfillmentStage
          evidenceRef := client.evidence "lifecycle-evidence" 1
          observedAtEpoch := (client.eventCounter + 1 : Nat) },
        { client with eventCounter := client.eventCounter + 1 })

end FakeXBOSOrderChangeFulfillmentClient

/-! ## All the calls -/

/-- A call of the client: one that may change an order, or one that asks for a projection. -/
inductive LifecycleCall
  | act (op : LifecycleOp)
  | getCancellationProjection (orderRef correlationRef : String)
  | getFulfillmentProjection (orderRef correlationRef : String)
  | reconcileOrderLifecycle (orderRef correlationRef : String)
  deriving DecidableEq

inductive LifecycleAnswer
  | done
  | change (decision : OrderChangeDecision)
  | cancellation (decision : Option CancellationDecision)
  | fulfillment (projection : Option FulfillmentProjection)
  | lifecycle (projection : OrderLifecycleProjection)
  deriving DecidableEq

namespace FakeXBOSOrderChangeFulfillmentClient

variable (client : FakeXBOSOrderChangeFulfillmentClient)

/-- What a call returns, and the client after it. -/
def perform : LifecycleCall → Except Exc LifecycleAnswer × FakeXBOSOrderChangeFulfillmentClient
  | .act (.registerOrder orderRef correlationRef paymentState fulfillmentStage
      merchantInitiatedCancel) =>
      (.ok .done, client.registerOrder orderRef correlationRef paymentState fulfillmentStage
        merchantInitiatedCancel)
  | .act (.setFulfillmentStage orderRef stage) =>
      let result := client.setFulfillmentStage orderRef stage
      (result.1.map fun _ => .done, result.2)
  | .act (.requestOrderChange request) =>
      let result := client.requestOrderChange request
      (result.1.map .change, result.2)
  | .act (.requestCancellation request) =>
      let result := client.requestCancellation request
      (result.1.map fun decision => .cancellation (some decision), result.2)
  | .getCancellationProjection orderRef correlationRef =>
      let result := client.getCancellationProjection orderRef correlationRef
      (result.1.map .cancellation, result.2)
  | .getFulfillmentProjection orderRef correlationRef =>
      let result := client.getFulfillmentProjection orderRef correlationRef
      (result.1.map .fulfillment, result.2)
  | .reconcileOrderLifecycle orderRef correlationRef =>
      let result := client.reconcileOrderLifecycle orderRef correlationRef
      (result.1.map .lifecycle, result.2)

def performs (calls : List LifecycleCall) : FakeXBOSOrderChangeFulfillmentClient :=
  calls.foldl (fun client call => (client.perform call).2) client

/-- What the calls of a run return that do not raise. -/
def answers (client : FakeXBOSOrderChangeFulfillmentClient) : List LifecycleCall → List LifecycleAnswer
  | [] => []
  | call :: calls =>
      (client.perform call).1.toOption.toList ++ answers (client.perform call).2 calls

theorem performs_concat (calls : List LifecycleCall) (call : LifecycleCall) :
    client.performs (calls ++ [call]) = ((client.performs calls).perform call).2 := by
  simp [performs]

theorem answers_concat (calls : List LifecycleCall) (call : LifecycleCall) :
    client.answers (calls ++ [call]) =
      client.answers calls ++ ((client.performs calls).perform call).1.toOption.toList := by
  induction calls generalizing client with
  | nil => simp [answers, performs]
  | cons first calls ih =>
      simp only [List.cons_append, answers, ih, List.append_assoc]
      rfl

/-- A call that acts does to the client what `step` says. -/
theorem perform_act (op : LifecycleOp) : (client.perform (.act op)).2 = client.step op := by
  cases op with
  | registerOrder => rfl
  | setFulfillmentStage => rfl
  | requestOrderChange => rfl
  | requestCancellation => rfl

end FakeXBOSOrderChangeFulfillmentClient

end XbosCustomerChannel
