import XbosCustomerChannel.Effects.Embedding
import XbosCustomerChannel.Lifecycle.Canceled
import XbosCustomerChannel.Payment.Presentation
import XbosCustomerChannel.Run

/-!
# After the order

The channel with the lifecycle and the payment fixture behind it: a customer names a session, and the
services ask about the order that session refers to, under the correlation of the session. What is
asked of the fixtures is one call for each call of the services, or none.
-/

namespace XbosCustomerChannel

open Effects Data

/-! ## The operations -/

/-- The operations of the channel, and what else is asked of the two fixtures. -/
inductive OrderDeskOp
  | channel (op : ChannelOp)
  | getCancellationProjection (orderRef correlationRef : String)
  | getFulfillmentProjection (orderRef correlationRef : String)
  | reconcileOrderLifecycle (orderRef correlationRef : String)
  | getPaymentRequest (orderRef correlationRef : String)

abbrev OrderDeskOp.Resp : OrderDeskOp → Type
  | channel op => op.Resp
  | getCancellationProjection _ _ => Except Exc (Option CancellationDecision)
  | getFulfillmentProjection _ _ => Except Exc (Option FulfillmentProjection)
  | reconcileOrderLifecycle _ _ => Except Exc OrderLifecycleProjection
  | getPaymentRequest _ _ => Except Exc PaymentRequestPresentation

abbrev OrderDeskPorts : Signature where
  Op := OrderDeskOp
  Resp := OrderDeskOp.Resp

abbrev OrderDeskService (α : Type) := Program OrderDeskPorts Exc α

def channelPorts : Embedding Channel OrderDeskPorts where
  op := .channel
  resp _ answer := answer

namespace OrderChangeFulfillmentService

/-- `_assert_projection_matches_session`. -/
def assertProjectionMatchesSession (orderRef correlationRef expectedOrderRef
    expectedCorrelationRef : String) : Except Exc Unit :=
  if orderRef ≠ expectedOrderRef then
    .error ⟨.lifecycleAuthorityMismatch, "upstream_order_reference_mismatch"⟩
  else if correlationRef ≠ expectedCorrelationRef then
    .error ⟨.lifecycleAuthorityMismatch, "upstream_correlation_mismatch"⟩
  else .ok ()

/-- `_required_order_session`. -/
def requiredSession (sessionRef : String) : OrderDeskService CustomerSessionSnapshot :=
  (requiredOrderSession .lifecycleAuthorityMismatch sessionRef).embed channelPorts

/-- `merchant_cancellation_projection`. -/
def merchantCancellationProjection (sessionRef : String) :
    OrderDeskService (Option CancellationDecision) := do
  let session ← requiredSession sessionRef
  let answer : Except Exc (Option CancellationDecision) ← @Program.perform OrderDeskPorts Exc
    (.getCancellationProjection (session.orderRef.getD "") session.correlationRef)
  Program.ofExcept answer

/-- `fulfillment_projection`. -/
def fulfillmentProjection (sessionRef : String) :
    OrderDeskService (Option FulfillmentProjection) := do
  let session ← requiredSession sessionRef
  let answer : Except Exc (Option FulfillmentProjection) ← @Program.perform OrderDeskPorts Exc
    (.getFulfillmentProjection (session.orderRef.getD "") session.correlationRef)
  match ← Program.ofExcept answer with
  | none => pure none
  | some projection => do
      Program.ofExcept (assertProjectionMatchesSession projection.orderRef projection.correlationRef
        (session.orderRef.getD "") session.correlationRef)
      pure (some projection)

/-- `reconcile_reentry`. -/
def reconcileReentry (sessionRef : String) : OrderDeskService OrderLifecycleProjection := do
  let session ← requiredSession sessionRef
  let answer : Except Exc OrderLifecycleProjection ← @Program.perform OrderDeskPorts Exc
    (.reconcileOrderLifecycle (session.orderRef.getD "") session.correlationRef)
  let projection ← Program.ofExcept answer
  Program.ofExcept (assertProjectionMatchesSession projection.orderRef projection.correlationRef
    (session.orderRef.getD "") session.correlationRef)
  pure projection

end OrderChangeFulfillmentService

namespace PaymentExperienceService

/-- `payment_request`, with the methods. -/
def presentedRequest (sessionRef : String) : OrderDeskService PaymentRequestPresentation := do
  let session ←
    (requiredOrderSession .paymentRequestAuthorityMismatch sessionRef).embed channelPorts
  let answer : Except Exc PaymentRequestPresentation ← @Program.perform OrderDeskPorts Exc
    (.getPaymentRequest (session.orderRef.getD "") session.correlationRef)
  let presented ← Program.ofExcept answer
  Program.ofExcept (assertProjectionMatchesSession presented.toCanonicalPaymentRequestProjection
    (session.orderRef.getD "") session.correlationRef)
  pure presented

/-- `payment_request`, and `present_method` of the method the customer chose. -/
def chooseMethod (sessionRef : String) (method : PaymentMethodCode) :
    OrderDeskService (PaymentRequestPresentation × NextAction) := do
  let presented ← presentedRequest sessionRef
  let action ← Program.ofExcept (presentMethod presented method)
  pure (presented, action)

end PaymentExperienceService

/-! ## The desk -/

variable {π : Type}

structure OrderDesk (π : Type) where
  world : World π
  lifecycle : FakeXBOSOrderChangeFulfillmentClient := {}
  payments : FakeXBOSPaymentRequestClient := {}

namespace OrderDesk

variable [XBOSOrderPort π] [Hashlib]

/-- The calls on orders go to the fixtures, all others to the world. -/
def handle : Handler OrderDeskPorts (OrderDesk π)
  | .channel (.session op), d =>
      ((XbosCustomerChannel.handle (.session op) d.world).1,
        { d with world := (XbosCustomerChannel.handle (.session op) d.world).2 })
  | .channel (.provenance op), d =>
      ((XbosCustomerChannel.handle (.provenance op) d.world).1,
        { d with world := (XbosCustomerChannel.handle (.provenance op) d.world).2 })
  | .channel (.order op), d =>
      ((XbosCustomerChannel.handle (.order op) d.world).1,
        { d with world := (XbosCustomerChannel.handle (.order op) d.world).2 })
  | .channel (.upstream op), d => (d.world.upstream.answer op, d)
  | .channel (.orderAuthority (.requestOrderChange request)), d =>
      ((d.lifecycle.requestOrderChange request).1,
        { d with lifecycle := (d.lifecycle.requestOrderChange request).2 })
  | .channel (.orderAuthority (.requestCancellation request)), d =>
      ((d.lifecycle.requestCancellation request).1,
        { d with lifecycle := (d.lifecycle.requestCancellation request).2 })
  | .channel (.orderAuthority (.getPaymentRequest orderRef correlationRef)), d =>
      ((d.payments.getPaymentRequest orderRef correlationRef).map
        PaymentRequestPresentation.toCanonicalPaymentRequestProjection, d)
  | .getCancellationProjection orderRef correlationRef, d =>
      ((d.lifecycle.getCancellationProjection orderRef correlationRef).1,
        { d with lifecycle := (d.lifecycle.getCancellationProjection orderRef correlationRef).2 })
  | .getFulfillmentProjection orderRef correlationRef, d =>
      ((d.lifecycle.getFulfillmentProjection orderRef correlationRef).1,
        { d with lifecycle := (d.lifecycle.getFulfillmentProjection orderRef correlationRef).2 })
  | .reconcileOrderLifecycle orderRef correlationRef, d =>
      ((d.lifecycle.reconcileOrderLifecycle orderRef correlationRef).1,
        { d with lifecycle := (d.lifecycle.reconcileOrderLifecycle orderRef correlationRef).2 })
  | .getPaymentRequest orderRef correlationRef, d =>
      (d.payments.getPaymentRequest orderRef correlationRef, d)

end OrderDesk

/-- A call of the channel or of the two services, or what XBOS decides about an order. -/
inductive OrderDeskCall (π : Type) [XBOSOrderPort π]
  | channel (call : ChannelCall π)
  | merchantCancellationProjection (sessionRef : String)
  | fulfillmentProjection (sessionRef : String)
  | reconcileReentry (sessionRef : String)
  | chooseMethod (sessionRef : String) (method : PaymentMethodCode)
  | registerOrder (orderRef correlationRef : String) (paymentState : UpstreamPaymentCommercialState)
      (fulfillmentStage : Option FulfillmentStage) (merchantInitiatedCancel : Bool)
  | setFulfillmentStage (orderRef : String) (stage : Option FulfillmentStage)
  | registerOrderPaymentPolicy (orderRef : String) (policy : RegisteredPaymentPolicy)

namespace OrderDesk

variable [XBOSOrderPort π] [Hashlib] (svc : OrderDraftConfirmationService)

def start (orders : π) (upstream : Upstream) (refs : RefSource) : OrderDesk π :=
  { world := World.start orders upstream refs }

open OrderChangeFulfillmentService PaymentExperienceService

def step (d : OrderDesk π) : OrderDeskCall π → OrderDesk π
  | .channel (.orderCall ref call) => (exec handle ((call.program ref).embed channelPorts) d).2
  | .channel call => { d with world := XbosCustomerChannel.step svc d.world call }
  | .merchantCancellationProjection ref => (exec handle (merchantCancellationProjection ref) d).2
  | .fulfillmentProjection ref => (exec handle (fulfillmentProjection ref) d).2
  | .reconcileReentry ref => (exec handle (reconcileReentry ref) d).2
  | .chooseMethod ref method => (exec handle (chooseMethod ref method) d).2
  | .registerOrder orderRef correlationRef paymentState fulfillmentStage merchantInitiatedCancel =>
      { d with
        lifecycle := d.lifecycle.registerOrder orderRef correlationRef paymentState
          fulfillmentStage merchantInitiatedCancel }
  | .setFulfillmentStage orderRef stage =>
      { d with lifecycle := (d.lifecycle.setFulfillmentStage orderRef stage).2 }
  | .registerOrderPaymentPolicy orderRef policy =>
      { d with payments := d.payments.registerOrderPaymentPolicy orderRef policy }

def run (d : OrderDesk π) (calls : List (OrderDeskCall π)) : OrderDesk π := calls.foldl (step svc) d

end OrderDesk

end XbosCustomerChannel
