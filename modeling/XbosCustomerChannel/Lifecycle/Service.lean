import XbosCustomerChannel.Ports

/-!
# Order change, cancellation and payment request

The calls of `OrderChangeFulfillmentService` and `PaymentExperienceService` that act on the order a
session refers to. Both services take the session from the store as it is.
-/

namespace XbosCustomerChannel

open Effects Effects.Program

/-- `_required_order_session`, with the class of its refusal. -/
def requiredOrderSession (refusal : ExcClass) (sessionRef : String) :
    Service CustomerSessionSnapshot := do
  let found : Option CustomerSessionSnapshot ← ask (.session (.get sessionRef))
  match found with
  | none => .raise ⟨.keyError, sessionRef⟩
  | some session => do
      raiseIf (falsy session.orderRef) ⟨refusal, "canonical_order_reference_required"⟩
      pure session

namespace OrderChangeFulfillmentService

/-- `request_change`. -/
def requestChange (sessionRef requestedChangeRef clientChangeRef : String)
    (explicitlyConfirmed : Bool) : Service OrderChangeDecision := do
  let session ← requiredOrderSession .lifecycleAuthorityMismatch sessionRef
  raiseIf (!explicitlyConfirmed)
    ⟨.explicitLifecycleConfirmationRequired, "explicit_confirmation_required:order_change"⟩
  let decision : Except Exc OrderChangeDecision ←
    ask (.orderAuthority (.requestOrderChange
      { clientChangeRef
        correlationRef := session.correlationRef
        orderRef := session.orderRef.getD ""
        requestedChangeRef }))
  ofExcept decision

/-- `request_cancellation`. -/
def requestCancellation (sessionRef reasonRef clientCancelRef : String)
    (explicitlyConfirmed : Bool) : Service CancellationDecision := do
  let session ← requiredOrderSession .lifecycleAuthorityMismatch sessionRef
  raiseIf (!explicitlyConfirmed)
    ⟨.explicitLifecycleConfirmationRequired, "explicit_confirmation_required:cancellation"⟩
  let decision : Except Exc CancellationDecision ←
    ask (.orderAuthority (.requestCancellation
      { clientCancelRef
        correlationRef := session.correlationRef
        orderRef := session.orderRef.getD ""
        reasonRef }))
  ofExcept decision

end OrderChangeFulfillmentService

namespace PaymentExperienceService

/-- `_assert_projection_matches_session`. -/
def assertProjectionMatchesSession (projection : CanonicalPaymentRequestProjection)
    (orderRef correlationRef : String) : Except Exc Unit :=
  if projection.orderRef ≠ orderRef then
    .error ⟨.paymentRequestAuthorityMismatch, "payment_request_order_reference_mismatch"⟩
  else if projection.correlationRef ≠ correlationRef then
    .error ⟨.paymentRequestAuthorityMismatch, "payment_request_correlation_mismatch"⟩
  else .ok ()

/-- `payment_request`. -/
def paymentRequest (sessionRef : String) : Service CanonicalPaymentRequestProjection := do
  let session ← requiredOrderSession .paymentRequestAuthorityMismatch sessionRef
  let answer : Except Exc CanonicalPaymentRequestProjection ←
    ask (.orderAuthority (.getPaymentRequest (session.orderRef.getD "") session.correlationRef))
  let projection ← ofExcept answer
  ofExcept (assertProjectionMatchesSession projection (session.orderRef.getD "")
    session.correlationRef)
  pure projection

end PaymentExperienceService

/-- The calls that act on the order of a session. -/
inductive OrderCall
  | requestChange (requestedChangeRef clientChangeRef : String) (explicitlyConfirmed : Bool)
  | requestCancellation (reasonRef clientCancelRef : String) (explicitlyConfirmed : Bool)
  | paymentRequest
  deriving DecidableEq, Repr

namespace OrderCall

def program (sessionRef : String) : OrderCall → Service Unit
  | .requestChange requestedChangeRef clientChangeRef explicitlyConfirmed =>
      (OrderChangeFulfillmentService.requestChange sessionRef requestedChangeRef clientChangeRef
        explicitlyConfirmed).void
  | .requestCancellation reasonRef clientCancelRef explicitlyConfirmed =>
      (OrderChangeFulfillmentService.requestCancellation sessionRef reasonRef clientCancelRef
        explicitlyConfirmed).void
  | .paymentRequest => (PaymentExperienceService.paymentRequest sessionRef).void

/-- Whether the call gets past the confirmation flag; a payment request has none. -/
def confirmed : OrderCall → Bool
  | .requestChange _ _ explicitlyConfirmed => explicitlyConfirmed
  | .requestCancellation _ _ explicitlyConfirmed => explicitlyConfirmed
  | .paymentRequest => true

end OrderCall

end XbosCustomerChannel
