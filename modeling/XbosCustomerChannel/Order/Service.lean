import XbosCustomerChannel.Catalog.Service
import XbosCustomerChannel.Session.Service

/-!
# The order draft and confirmation service

`prepare_confirmation` and `submit`. The body of `submit` is cut into the steps it takes, in their
order: revalidate the session, check the confirmation, claim the handle, enter the submitting
state, place the order, complete the session.
-/

namespace XbosCustomerChannel

open Effects Effects.Program

/-- The arguments of `prepare_confirmation`. -/
structure PrepareConfirmationArgs where
  sessionRef : String
  catalogSession : CatalogSession
  serviceMode : ServiceMode
  nowEpoch : Int
  acknowledgedQuoteRef : Option String := none
  contactRef : Option String := none
  deliveryAddressRef : Option String := none

/-- The arguments of `submit`. -/
structure SubmitArgs where
  sessionRef : String
  confirmationHandleRef : String
  clientSubmitRef : String
  nowEpoch : Int
  deriving DecidableEq, Repr

namespace SubmitArgs

/-- The key of the transition into the submitting state. -/
def startKey (args : SubmitArgs) : String := "xc6-submit-start:" ++ args.clientSubmitRef

/-- The key of the transition into the created state. -/
def resultKey (args : SubmitArgs) : String := "xc6-submit-result:" ++ args.clientSubmitRef

end SubmitArgs

/-- `_assert_session_matches_entry`. -/
def assertSessionMatchesEntry (session : CustomerSessionSnapshot) (entry : ResolvedEntryContext) :
    Except Exc Unit :=
  if (session.merchantRef, session.locationRef) ≠ (some entry.merchantRef, some entry.locationRef)
  then .error ⟨.orderConfirmationRejected, "session_entry_merchant_location_mismatch"⟩
  else if session.tableRef ≠ entry.tableRef then
    .error ⟨.orderConfirmationRejected, "session_entry_table_mismatch"⟩
  else if session.diningAreaRef ≠ entry.diningAreaRef then
    .error ⟨.orderConfirmationRejected, "session_entry_dining_area_mismatch"⟩
  else if session.entryPurpose ≠ some entry.purpose then
    .error ⟨.orderConfirmationRejected, "session_entry_purpose_mismatch"⟩
  else if session.contextBindingRef ≠ some entry.contextBindingRef then
    .error ⟨.orderConfirmationRejected, "session_entry_context_binding_mismatch"⟩
  else .ok ()

/-- The table reference a service mode is resolved with, once the mode has what it needs. -/
def serviceModeTable (args : PrepareConfirmationArgs) : Except Exc (Option String) :=
  let entry := args.catalogSession.entry
  match args.serviceMode with
  | .dineIn =>
      if entry.purpose ≠ .dineIn ∨ entry.tableRef.isNone then
        .error ⟨.serviceModeUnavailable, "valid_xc3_dine_in_table_context_required"⟩
      else .ok entry.tableRef
  | .takeaway =>
      if falsy args.contactRef then .error ⟨.serviceModeUnavailable, "takeaway_contact_required"⟩
      else .ok none
  | .delivery =>
      if falsy args.contactRef || falsy args.deliveryAddressRef then
        .error ⟨.serviceModeUnavailable, "delivery_contact_and_address_required"⟩
      else .ok none

/-- `_assert_confirmation_matches_authority`. -/
def assertConfirmationMatchesAuthority (confirmation : AuthoritativeOrderConfirmationSnapshot)
    (quote : CommercialQuoteSnapshot) (entry : ResolvedEntryContext) (serviceMode : ServiceMode) :
    Except Exc Unit :=
  if confirmation.quoteRef ≠ quote.quoteRef ∨ confirmation.quoteVersion ≠ quote.version then
    .error ⟨.orderConfirmationRejected, "authoritative_confirmation_quote_mismatch"⟩
  else if (confirmation.merchantRef, confirmation.locationRef) ≠
      (entry.merchantRef, entry.locationRef) then
    .error ⟨.orderConfirmationRejected, "authoritative_confirmation_context_mismatch"⟩
  else if confirmation.currency ≠ quote.currency then
    .error ⟨.orderConfirmationRejected, "authoritative_confirmation_currency_mismatch"⟩
  else if confirmation.serviceMode ≠ serviceMode then
    .error ⟨.orderConfirmationRejected, "authoritative_confirmation_service_mode_mismatch"⟩
  else .ok ()

/-- `_assert_order_result_matches_request`. -/
def assertOrderResultMatchesRequest (order : CanonicalOrderProjection)
    (request : OrderSubmitRequest) : Except Exc Unit :=
  if order.clientSubmitRef ≠ request.clientSubmitRef then
    .error ⟨.orderConfirmationRejected, "canonical_order_client_reference_mismatch"⟩
  else if order.correlationRef ≠ request.correlationRef then
    .error ⟨.orderConfirmationRejected, "canonical_order_correlation_mismatch"⟩
  else if order.confirmationRef ≠ request.confirmationRef then
    .error ⟨.orderConfirmationRejected, "canonical_order_confirmation_reference_mismatch"⟩
  else .ok ()

/-- The submit checks on the authoritative confirmation a record stands for. -/
def checkAuthoritativeConfirmation [Hashlib] (record : ConfirmationProvenanceRecord)
    (found : Option AuthoritativeOrderConfirmationSnapshot) (nowEpoch : Int) : Except Exc Unit :=
  match found with
  | none => .error ⟨.orderConfirmationRejected, "authoritative_confirmation_unavailable"⟩
  | some authoritative =>
      if authoritative.expiresAtEpoch ≤ nowEpoch then
        .error ⟨.orderConfirmationRejected, "authoritative_confirmation_expired"⟩
      else if confirmationCommercialFingerprint authoritative ≠ record.commercialFingerprint then
        .error ⟨.orderConfirmationRejected, "authoritative_confirmation_material_changed"⟩
      else if authoritative.quoteRef ≠ record.quoteRef ∨
          authoritative.quoteVersion ≠ record.quoteVersion ∨
          authoritative.serviceContextRef ≠ record.serviceContextRef ∨
          authoritative.serviceMode ≠ record.serviceMode then
        .error ⟨.orderConfirmationRejected, "authoritative_confirmation_record_mismatch"⟩
      else .ok ()

/-- The evidence an order is for its own session. -/
def orderEvidence (order : CanonicalOrderProjection) (nowEpoch : Int) :
    UpstreamStateProjection where
  evidenceRef := order.evidenceRef
  correlationRef := order.correlationRef
  observedAtEpoch := nowEpoch
  orderRef := some order.orderRef
  orderState := if order.state = .confirmed then some .confirmed else some .created

/-- The session service it was built with. -/
structure OrderDraftConfirmationService where
  sessions : CustomerSessionService := {}

namespace OrderDraftConfirmationService

variable (svc : OrderDraftConfirmationService)

/-- `_require_active_secure_session`. -/
def requireActiveSecureSession (sessionRef : String) (nowEpoch : Int) :
    Service CustomerSessionSnapshot :=
  Program.tryCatch (svc.sessions.validateActiveSession sessionRef nowEpoch) fun exc =>
    if exc.caughtBy [.permissionError, .runtimeError, .valueError] then
      .raise ⟨.orderConfirmationRejected, exc.str⟩
    else .raise exc

/-- `prepare_confirmation` from the revalidated session to the confirmation XBOS gives. -/
def draftConfirmation (args : PrepareConfirmationArgs) (session : CustomerSessionSnapshot) :
    Service AuthoritativeOrderConfirmationSnapshot := do
  let entry := args.catalogSession.entry
  ofExcept (assertSessionMatchesEntry session entry)
  raiseIf (args.serviceMode.value ∉ entry.projection.allowedFulfillmentModes)
    ⟨.serviceModeUnavailable, "service_mode_not_allowed_by_xbos_context"⟩
  let tableRef ← ofExcept (serviceModeTable args)
  let review ← CatalogQuoteService.reviewForConfirmation args.catalogSession args.nowEpoch
  let ackRef :=
    if review.requiresReconfirmation then args.acknowledgedQuoteRef.getD ""
    else review.quote.quoteRef
  let acceptedQuote ← ofExcept (CatalogQuoteService.acceptReview review ackRef)
  let resolved : Except Exc ServiceModeProjection ←
    ask (.order (.resolveServiceContext entry.merchantRef entry.locationRef args.serviceMode
      tableRef args.contactRef args.deliveryAddressRef))
  let serviceContext ← ofExcept resolved
  let prepared : Except Exc AuthoritativeOrderConfirmationSnapshot ←
    ask (.order (.prepareOrderConfirmation acceptedQuote serviceContext args.nowEpoch))
  let confirmation ← ofExcept prepared
  ofExcept (assertConfirmationMatchesAuthority confirmation acceptedQuote entry args.serviceMode)
  pure confirmation

/-- Register the confirmation and return what the customer is shown. -/
def issueConfirmation (session : CustomerSessionSnapshot)
    (confirmation : AuthoritativeOrderConfirmationSnapshot) : Service ServerIssuedConfirmation := do
  let issued : Except Exc ServerIssuedConfirmation ←
    ask (.provenance (.issueConfirmation session confirmation))
  ofExcept issued

/-- `prepare_confirmation`. -/
def prepareConfirmation (args : PrepareConfirmationArgs) : Service ServerIssuedConfirmation := do
  let session ← svc.requireActiveSecureSession args.sessionRef args.nowEpoch
  let confirmation ← draftConfirmation args session
  issueConfirmation session confirmation

/-- The record of the handle, bound to the session. -/
def boundRecord (args : SubmitArgs) (session : CustomerSessionSnapshot) :
    Service ConfirmationProvenanceRecord := do
  let found : Option ConfirmationProvenanceRecord ←
    ask (.provenance (.resolveConfirmation args.confirmationHandleRef))
  match found with
  | none => .raise ⟨.orderConfirmationRejected, "unknown_server_confirmation_handle"⟩
  | some record => do
      raiseIf (!bindingMatchesSession record.binding session)
        ⟨.orderConfirmationRejected, "confirmation_session_context_mismatch"⟩
      pure record

/-- The authoritative confirmation is there, unexpired and unchanged. -/
def requireFreshConfirmation [Hashlib] (args : SubmitArgs)
    (record : ConfirmationProvenanceRecord) : Service Unit := do
  let found : Option AuthoritativeOrderConfirmationSnapshot ←
    ask (.order (.resolveOrderConfirmation record.authoritativeXbosConfirmationRef))
  ofExcept (checkAuthoritativeConfirmation record found args.nowEpoch)

/-- Claim the handle for the client reference. -/
def claimHandle (args : SubmitArgs) : Service Unit :=
  Program.tryCatch
    (do
      let claimed : Except Exc ConfirmationProvenanceRecord ←
        ask (.provenance (.claimConfirmation args.confirmationHandleRef args.clientSubmitRef))
      let _ ← ofExcept claimed
      pure ())
    (fun exc =>
      if exc.caughtBy [.keyError, .provenanceConflict] then
        .raise ⟨.orderSubmissionConflict, exc.str⟩
      else .raise exc)

/-- The transition into the submitting state. -/
def startArgs (args : SubmitArgs) : TransitionArgs where
  sessionRef := args.sessionRef
  target := .orderSubmitting
  idempotencyKey := args.startKey

/-- The transition into the created state. -/
def resultArgs (args : SubmitArgs) (evidenceHandleRef : String) : TransitionArgs where
  sessionRef := args.sessionRef
  target := .orderCreated
  idempotencyKey := args.resultKey
  evidenceHandleRef := some evidenceHandleRef

/-- Bring a session in review into the submitting state; later states are retries. -/
def enterSubmitting (args : SubmitArgs) (session : CustomerSessionSnapshot) :
    Service CustomerSessionSnapshot :=
  if session.state = .review then do
    let _ ← svc.sessions.transition (startArgs args)
    match ← SessionStore.get args.sessionRef with
    | none => .raise ⟨.assertionError, ""⟩
    | some session => pure session
  else if session.state ∉ [.orderSubmitting, .orderCreated] then
    .raise
      ⟨.invalidChannelTransition,
        "xc6_submit_requires_review_or_retry_state:" ++ session.state.value⟩
  else pure session

/-- Submit to the port; an unknown outcome is looked up by the client reference. -/
def placeOrder (request : OrderSubmitRequest) : Service CanonicalOrderProjection :=
  Program.tryCatch
    (do
      let answer : Except Exc CanonicalOrderProjection ← ask (.order (.submitOrder request))
      ofExcept answer)
    (fun exc =>
      if exc.cls.isA .orderTransportUnknown then do
        let found : Option CanonicalOrderProjection ←
          ask (.order (.getOrderByClientRef request.clientSubmitRef))
        match found with
        | none =>
            .raise
              ⟨.orderSubmissionUnknown, "canonical_order_outcome_unknown_reconcile_required"⟩
        | some order => pure order
      else .raise exc)

/-- Record the order on the session that submitted it. -/
def recordOrder (args : SubmitArgs) (latest : CustomerSessionSnapshot)
    (order : CanonicalOrderProjection) : Service CanonicalOrderProjection := do
  let issued : Except Exc String ←
    ask (.provenance (.issueEvidence latest (orderEvidence order args.nowEpoch)))
  let evidenceHandleRef ← ofExcept issued
  let _ ← svc.sessions.transition (resultArgs args evidenceHandleRef)
  pure order

/-- What `submit` does with the order it has been given. -/
def complete (args : SubmitArgs) (order : CanonicalOrderProjection) :
    Service CanonicalOrderProjection := do
  match ← SessionStore.get args.sessionRef with
  | none => .raise ⟨.assertionError, ""⟩
  | some latest =>
      if latest.state = .orderCreated then
        if latest.orderRef.isSome ∧ latest.orderRef ≠ some order.orderRef then
          .raise ⟨.orderConfirmationRejected, "existing_channel_order_projection_mismatch"⟩
        else pure order
      else if latest.state ≠ .orderSubmitting then
        .raise
          ⟨.invalidChannelTransition, "unexpected_submit_completion_state:" ++ latest.state.value⟩
      else svc.recordOrder args latest order

/-- The request `submit` passes to the order port. -/
def requestFor (args : SubmitArgs) (session : CustomerSessionSnapshot)
    (record : ConfirmationProvenanceRecord) : OrderSubmitRequest where
  clientSubmitRef := args.clientSubmitRef
  correlationRef := session.correlationRef
  confirmationRef := record.authoritativeXbosConfirmationRef

/-- `submit` from the order port on. -/
def placeAndComplete (args : SubmitArgs) (request : OrderSubmitRequest) :
    Service CanonicalOrderProjection := do
  let order ← placeOrder request
  ofExcept (assertOrderResultMatchesRequest order request)
  svc.complete args order

/-- `submit`. -/
def submit [Hashlib] (args : SubmitArgs) : Service CanonicalOrderProjection := do
  let session ← svc.requireActiveSecureSession args.sessionRef args.nowEpoch
  let record ← boundRecord args session
  requireFreshConfirmation args record
  claimHandle args
  let session ← svc.enterSubmitting args session
  svc.placeAndComplete args (requestFor args session record)

end OrderDraftConfirmationService

end XbosCustomerChannel
