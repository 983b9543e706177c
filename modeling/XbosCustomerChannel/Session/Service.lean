import XbosCustomerChannel.Ports

/-!
# The customer session service

`CustomerSessionService` as programs over the channel's operations. Session references are random
in the source; here a method that draws one takes the draw as its last argument.
-/

namespace XbosCustomerChannel

open Effects Effects.Program

/-! ## Store operations as statements -/

namespace SessionStore

def put (base : CustomerSessionSnapshot) (changes : SessionChanges) :
    Service CustomerSessionSnapshot := ask (.session (.put base changes))

def get (sessionRef : String) : Service (Option CustomerSessionSnapshot) :=
  ask (.session (.get sessionRef))

def canonicalRef (sessionRef : String) : Service String :=
  ask (.session (.canonicalRef sessionRef))

def idempotentResult (sessionRef idempotencyKey : String) :
    Service (Option CustomerSessionSnapshot) :=
  ask (.session (.idempotentResult sessionRef idempotencyKey))

def recordIdempotentResult (sessionRef idempotencyKey : String)
    (snapshot : CustomerSessionSnapshot) : Service CustomerSessionSnapshot :=
  ask (.session (.recordIdempotentResult sessionRef idempotencyKey snapshot))

end SessionStore

/-! ## Transitions -/

/-- `TRANSITIONS`. -/
def ChannelState.transitions : ChannelState → List ChannelState
  | .start => [.merchantContext, .humanHandoff, .canceled]
  | .merchantContext => [.browsing, .humanHandoff, .canceled]
  | .browsing => [.cart, .humanHandoff, .canceled]
  | .cart => [.browsing, .serviceMode, .humanHandoff, .canceled]
  | .serviceMode => [.customerDetails, .review, .humanHandoff, .canceled]
  | .customerDetails => [.review, .humanHandoff, .canceled]
  | .review => [.orderSubmitting, .cart, .humanHandoff, .canceled]
  | .orderSubmitting => [.orderCreated, .humanHandoff, .canceled]
  | .orderCreated => [.paymentMethod, .humanHandoff, .canceled]
  | .paymentMethod => [.paymentPending, .humanHandoff, .canceled]
  | .paymentPending => [.paid, .paymentMethod, .humanHandoff, .canceled]
  | .paid => [.fulfillment, .humanHandoff]
  | .fulfillment => [.completed, .humanHandoff, .canceled]
  | .completed => []
  | .humanHandoff =>
      [.merchantContext, .browsing, .cart, .review, .orderCreated, .paymentPending, .paid,
        .fulfillment, .canceled]
  | .canceled => []

/-- `_EVIDENCE_GATED`. -/
def ChannelState.evidenceGated : ChannelState → Bool
  | .orderCreated | .paymentPending | .paid | .fulfillment | .completed => true
  | _ => false

/-- `_assert_evidence_matches_session`. -/
def assertEvidenceMatchesSession (session : CustomerSessionSnapshot)
    (projection : UpstreamStateProjection) : Except Exc Unit :=
  if projection.correlationRef ≠ session.correlationRef then
    .error ⟨.authoritativeEvidenceRequired, "upstream_correlation_mismatch"⟩
  else if session.orderRef.isSome ∧ projection.orderRef.isSome ∧
      session.orderRef ≠ projection.orderRef then
    .error ⟨.authoritativeEvidenceRequired, "upstream_order_reference_mismatch"⟩
  else if session.paymentRef.isSome ∧ projection.paymentRef.isSome ∧
      session.paymentRef ≠ projection.paymentRef then
    .error ⟨.authoritativeEvidenceRequired, "upstream_payment_reference_mismatch"⟩
  else .ok ()

/-- `_assert_projection_supports`. -/
def assertProjectionSupports (target : ChannelState) (projection : UpstreamStateProjection) :
    Except Exc Unit :=
  if target = .orderCreated ∧ projection.orderState ∉ [some .created, some .confirmed] then
    .error ⟨.authoritativeEvidenceRequired, "order_created_requires_xbos_order_evidence"⟩
  else if target = .paymentPending ∧ projection.paymentState ≠ some .pending then
    .error ⟨.authoritativeEvidenceRequired, "payment_pending_requires_xbos_commercial_evidence"⟩
  else if target = .paid ∧ projection.paymentState ≠ some .paid then
    .error ⟨.authoritativeEvidenceRequired, "paid_requires_xbos_commercial_evidence"⟩
  else if target = .fulfillment ∧ projection.fulfillmentState ≠ some .active then
    .error ⟨.authoritativeEvidenceRequired, "fulfillment_requires_xbos_fulfillment_evidence"⟩
  else if target = .completed ∧ projection.fulfillmentState ≠ some .completed then
    .error ⟨.authoritativeEvidenceRequired, "completed_requires_xbos_fulfillment_evidence"⟩
  else .ok ()

/-- `_state_from_projection`. -/
def stateFromProjection (projection : UpstreamStateProjection) : Except Exc ChannelState :=
  if projection.orderState = some .canceled ∨ projection.fulfillmentState = some .canceled then
    .ok .canceled
  else if projection.fulfillmentState = some .completed then .ok .completed
  else if projection.fulfillmentState = some .active then .ok .fulfillment
  else if projection.paymentState = some .paid then .ok .paid
  else if projection.paymentState = some .pending then .ok .paymentPending
  else if projection.orderState ∈ [some .created, some .confirmed] then .ok .orderCreated
  else
    .error ⟨.sessionReconciliationRequired, "upstream_projection_has_no_channel_state"⟩

/-! ## Context binding -/

/-- An identity binding is compared by the same tuple without the purpose. -/
def IdentityBindingRecord.boundContext (b : IdentityBindingRecord) (purpose : Option EntryPurpose) :
    BoundContext :=
  ⟨b.tenantRef, some b.merchantRef, some b.locationRef, b.tableRef, b.diningAreaRef, purpose,
    some b.contextBindingRef⟩

/-- `attest_context`, the failures of an unavailable context hidden behind one refusal. -/
def attestContext (merchantRef locationRef : String) (tableRef : Option String)
    (purpose : EntryPurpose) (diningAreaRef : Option String) : Service EntryContextAttestation :=
  Program.tryCatch
    (do
      let attested : Except Exc EntryContextAttestation ←
        ask (.upstream (.attestContext merchantRef locationRef tableRef purpose diningAreaRef))
      ofExcept attested)
    (fun exc =>
      if exc.caughtBy [.keyError, .permissionError, .valueError] then
        .raise ⟨.sessionSecurityRequired, "entry_context_unavailable"⟩
      else .raise exc)

/-- `_required`. -/
def required (sessionRef : String) : Service CustomerSessionSnapshot := do
  match ← SessionStore.get sessionRef with
  | none => .raise ⟨.keyError, sessionRef⟩
  | some session => pure session

/-- Which optional ports the service was built with. -/
structure CustomerSessionService where
  provenanceStore : Bool := true
  xbosContext : Bool := true
  identityBindingStore : Bool := true
  deriving DecidableEq, Repr

/-- The keyword arguments of `create_session`. -/
structure CreateSessionArgs where
  conversationRef : String
  correlationRef : String
  identityBindingRef : Option String := none
  ownerIdentityRef : Option String := none
  entryContext : Option ResolvedEntryContext := none
  nowEpoch : Option Int := none
  expiresAtEpoch : Option Int := none
  sessionRef : Option String := none
  entryTokenRef : Option String := none

/-- The arguments of `transition`. -/
structure TransitionArgs where
  sessionRef : String
  target : ChannelState
  idempotencyKey : String
  evidenceHandleRef : Option String := none
  upstreamEvidence : Option UpstreamStateProjection := none
  humanHandoffRef : Option String := none

/-- The arguments of `resume_session`. -/
structure ResumeSessionArgs where
  sessionRef : String
  identityBindingRef : Option String := none
  ownerIdentityRef : Option String := none
  nowEpoch : Int

namespace CustomerSessionService

variable (svc : CustomerSessionService)

/-! ## Creation -/

/-- `_assert_entry_context_current`. -/
def assertEntryContextCurrent (entry : ResolvedEntryContext) : Service Unit := do
  raiseIf (!svc.xbosContext) ⟨.sessionSecurityRequired, "xbos_context_reattestation_required"⟩
  let attestation ← attestContext entry.merchantRef entry.locationRef entry.tableRef
    entry.purpose entry.diningAreaRef
  raiseIf (entry.boundContext ≠ attestation.boundContext)
    ⟨.sessionSecurityRequired, "stale_entry_context_rejected"⟩

/-- `_binding_for_entry_context`. -/
def bindingForEntryContext (identityBindingRef conversationRef : String)
    (entry : ResolvedEntryContext) (nowEpoch : Int) : Service IdentityBindingRecord := do
  raiseIf (!svc.identityBindingStore) ⟨.sessionSecurityRequired, "identity_binding_store_required"⟩
  let found : Option IdentityBindingRecord ← ask (.upstream (.resolveBinding identityBindingRef))
  match found with
  | none => .raise ⟨.sessionSecurityRequired, "unknown_identity_binding"⟩
  | some binding => do
      raiseIf (binding.expiresAtEpoch ≤ nowEpoch)
        ⟨.sessionSecurityRequired, "identity_binding_expired"⟩
      raiseIf (binding.conversationRef ≠ conversationRef)
        ⟨.sessionSecurityRequired, "identity_binding_conversation_mismatch"⟩
      raiseIf (entry.boundContext ≠ binding.boundContext (some entry.purpose))
        ⟨.sessionSecurityRequired, "identity_binding_context_mismatch"⟩
      pure binding

/-- A new session bound to an identity and an entry context. -/
def secureSession (args : CreateSessionArgs) (actualRef : String) (entry : ResolvedEntryContext)
    (binding : IdentityBindingRecord) (nowEpoch expiresAtEpoch : Int) :
    CustomerSessionSnapshot where
  sessionRef := actualRef
  conversationRef := args.conversationRef
  correlationRef := args.correlationRef
  state := .start
  entryTokenRef := some entry.tokenRef
  ownerIdentityRef := some binding.identityRef
  tenantRef := entry.tenantRef
  merchantRef := some entry.merchantRef
  locationRef := some entry.locationRef
  tableRef := entry.tableRef
  diningAreaRef := entry.diningAreaRef
  entryPurpose := some entry.purpose
  contextBindingRef := some entry.contextBindingRef
  createdAtEpoch := some nowEpoch
  expiresAtEpoch := some expiresAtEpoch
  generation := 0
  securityBindingComplete := true

/-- A new session without a security binding. -/
def fixtureSession (args : CreateSessionArgs) (actualRef : String) : CustomerSessionSnapshot where
  sessionRef := actualRef
  conversationRef := args.conversationRef
  correlationRef := args.correlationRef
  state := .start
  entryTokenRef := args.entryTokenRef
  securityBindingComplete := false

/-- The secure part of `create_session`. -/
def createSecureSession (args : CreateSessionArgs) (actualRef : String) :
    Service CustomerSessionSnapshot := do
  raiseIf args.ownerIdentityRef.isSome
    ⟨.sessionSecurityRequired, "caller_owner_identity_ref_not_authority"⟩
  match args.identityBindingRef, args.entryContext, args.nowEpoch, args.expiresAtEpoch with
  | some identityBindingRef, some entry, some nowEpoch, some expiresAtEpoch => do
      raiseIf (expiresAtEpoch ≤ nowEpoch)
        ⟨.sessionSecurityRequired, "session_expiry_must_be_future"⟩
      raiseIf (args.entryTokenRef.isSome ∧ args.entryTokenRef ≠ some entry.tokenRef)
        ⟨.sessionSecurityRequired, "entry_token_binding_mismatch"⟩
      svc.assertEntryContextCurrent entry
      let binding ← svc.bindingForEntryContext identityBindingRef args.conversationRef entry nowEpoch
      raiseIf (binding.expiresAtEpoch < expiresAtEpoch)
        ⟨.sessionSecurityRequired, "session_outlives_identity_binding"⟩
      SessionStore.put (secureSession args actualRef entry binding nowEpoch expiresAtEpoch) {}
  | _, _, _, _ => .raise ⟨.sessionSecurityRequired, "secure_session_binding_incomplete"⟩

/-- `create_session`. `actualRef` is the first draw the store does not know. -/
def createSession (args : CreateSessionArgs) (actualRef : String) :
    Service CustomerSessionSnapshot :=
  if args.identityBindingRef.isSome ∨ args.ownerIdentityRef.isSome ∨ args.entryContext.isSome ∨
      args.expiresAtEpoch.isSome then
    svc.createSecureSession args actualRef
  else do
    -- the caller's reference is an alias, not a session identity
    let created : Except Exc CustomerSessionSnapshot ←
      ask (.session (.putWithLegacyAlias (fixtureSession args actualRef) args.sessionRef))
    let stored ← ofExcept created
    match args.sessionRef with
    | some fixtureAlias => pure { stored with sessionRef := fixtureAlias }
    | none => pure stored

/-! ## Revalidation and rotation -/

/-- The re-attestation that `resume_session` and `validate_active_session` end with. -/
def reattest (current : CustomerSessionSnapshot) : Service Unit := do
  raiseIf (!svc.xbosContext) ⟨.sessionSecurityRequired, "xbos_context_reattestation_required"⟩
  match current.merchantRef, current.locationRef, current.entryPurpose with
  | some merchantRef, some locationRef, some purpose => do
      let attestation ← attestContext merchantRef locationRef current.tableRef purpose
        current.diningAreaRef
      raiseIf (current.boundContext ≠ attestation.boundContext)
        ⟨.sessionSecurityRequired, "stale_entry_context_rejected"⟩
  | _, _, _ => .raise ⟨.sessionSecurityRequired, "bound_context_incomplete"⟩

/-- `validate_active_session`. -/
def validateActiveSession (sessionRef : String) (nowEpoch : Int) :
    Service CustomerSessionSnapshot := do
  let current ← required sessionRef
  raiseIf (!current.securityBindingComplete)
    ⟨.sessionSecurityRequired, "secure_session_binding_required"⟩
  raiseIf current.staleOrRotated ⟨.permissionError, "session_stale_or_rotated"⟩
  raiseIf (current.expiredAt nowEpoch) ⟨.permissionError, "session_expired"⟩
  svc.reattest current
  pure current

/-- The successor a rotation installs. -/
def replacementFor (current : CustomerSessionSnapshot) (newSessionRef : String) :
    CustomerSessionSnapshot :=
  { current with
    sessionRef := newSessionRef
    predecessorSessionRef := some current.sessionRef
    rotatedToSessionRef := none
    invalidatedAtEpoch := none
    generation := current.generation + 1 }

/-- What `resume_session` asks of the identity binding. -/
def checkResumeBinding (current : CustomerSessionSnapshot) (identityBindingRef : String)
    (nowEpoch : Int) : Service Unit := do
  let found : Option IdentityBindingRecord ← ask (.upstream (.resolveBinding identityBindingRef))
  match found with
  | none => .raise ⟨.sessionSecurityRequired, "unknown_identity_binding"⟩
  | some binding => do
      raiseIf (binding.expiresAtEpoch ≤ nowEpoch)
        ⟨.sessionSecurityRequired, "identity_binding_expired"⟩
      raiseIf (some binding.identityRef ≠ current.ownerIdentityRef)
        ⟨.permissionError, "session_owner_mismatch"⟩
      raiseIf (binding.conversationRef ≠ current.conversationRef)
        ⟨.sessionSecurityRequired, "identity_binding_conversation_mismatch"⟩
      raiseIf (current.boundContext ≠ binding.boundContext current.entryPurpose)
        ⟨.sessionSecurityRequired, "identity_binding_context_mismatch"⟩

/-- `resume_session`. -/
def resumeSession (args : ResumeSessionArgs) (newSessionRef : String) :
    Service CustomerSessionSnapshot := do
  raiseIf args.ownerIdentityRef.isSome
    ⟨.sessionSecurityRequired, "caller_owner_identity_ref_not_authority"⟩
  match args.identityBindingRef with
  | none => .raise ⟨.sessionSecurityRequired, "identity_binding_required"⟩
  | some identityBindingRef => do
      raiseIf (!svc.identityBindingStore)
        ⟨.sessionSecurityRequired, "identity_binding_store_required"⟩
      let canonical ← SessionStore.canonicalRef args.sessionRef
      raiseIf (canonical ≠ args.sessionRef)
        ⟨.sessionSecurityRequired, "fixture_alias_not_resumable"⟩
      let current ← required args.sessionRef
      raiseIf (!current.securityBindingComplete)
        ⟨.sessionSecurityRequired, "secure_session_binding_required"⟩
      checkResumeBinding current identityBindingRef args.nowEpoch
      raiseIf (current.expiredAt args.nowEpoch) ⟨.permissionError, "session_expired"⟩
      raiseIf current.staleOrRotated ⟨.permissionError, "session_stale_or_rotated"⟩
      svc.reattest current
      let answer : Except Exc (Option CustomerSessionSnapshot) ←
        ask (.session (.rotateIfActive current.sessionRef (current.ownerIdentityRef.getD "")
          args.nowEpoch (replacementFor current newSessionRef)))
      match ← ofExcept answer with
      | none => .raise ⟨.permissionError, "session_stale_or_rotated"⟩
      | some rotated => pure rotated

/-! ## Interaction state -/

/-- `attach_interaction_refs`. -/
def attachInteractionRefs (sessionRef : String) (cartRef quoteRef : Option String) :
    Service CustomerSessionSnapshot := do
  let current ← required sessionRef
  SessionStore.put current { cartRef, quoteRef }

/-- `_resolve_authoritative_projection`. -/
def resolveAuthoritativeProjection (session : CustomerSessionSnapshot)
    (evidenceHandleRef : Option String) : Service UpstreamStateProjection :=
  match evidenceHandleRef with
  | some handle => do
      raiseIf (!svc.provenanceStore)
        ⟨.authoritativeEvidenceRequired, "server_provenance_store_required"⟩
      let found : Option EvidenceProvenanceRecord ← ask (.provenance (.resolveEvidence handle))
      match found with
      | none => .raise ⟨.authoritativeEvidenceRequired, "unknown_server_evidence_handle"⟩
      | some record => do
          raiseIf (!bindingMatchesSession record.binding session)
            ⟨.authoritativeEvidenceRequired, "server_evidence_session_context_mismatch"⟩
          pure record.projection
  | none => do
      let answer : Except Exc (Option UpstreamStateProjection) ←
        ask (.upstream (.reconcileSession session))
      match ← ofExcept answer with
      | none =>
          .raise ⟨.authoritativeEvidenceRequired, "server_side_authoritative_evidence_required"⟩
      | some projection => pure projection

/-- The references an evidence-gated transition takes from its projection. -/
def evidenceChanges (current : CustomerSessionSnapshot) (args : TransitionArgs) :
    Service SessionChanges :=
  if args.target.evidenceGated then do
    let projection ← svc.resolveAuthoritativeProjection current args.evidenceHandleRef
    ofExcept (assertEvidenceMatchesSession current projection)
    ofExcept (assertProjectionSupports args.target projection)
    pure
      { orderRef := projection.orderRef
        paymentRef := projection.paymentRef
        lastUpstreamEvidenceRef := some projection.evidenceRef }
  else pure {}

/-- What `transition` writes over the snapshot it read. -/
def transitionChanges (args : TransitionArgs) (refs : SessionChanges) : SessionChanges :=
  { refs with
    state := some args.target
    humanHandoffRef := if args.target = .humanHandoff then some args.humanHandoffRef else none
    countsTransition := true }

/-- `transition` after the idempotency lookup found nothing. -/
def applyTransition (args : TransitionArgs) : Service CustomerSessionSnapshot := do
  let current ← required args.sessionRef
  raiseIf current.staleOrRotated ⟨.permissionError, "session_stale_or_rotated"⟩
  raiseIf (args.target ∉ current.state.transitions)
    ⟨.invalidChannelTransition,
      "invalid_transition:" ++ current.state.value ++ "->" ++ args.target.value⟩
  raiseIf args.upstreamEvidence.isSome
    ⟨.authoritativeEvidenceRequired, "caller_supplied_upstream_projection_not_authority"⟩
  let refs ← svc.evidenceChanges current args
  let updated ← SessionStore.put current (transitionChanges args refs)
  SessionStore.recordIdempotentResult args.sessionRef args.idempotencyKey updated

/-- `transition`. -/
def transition (args : TransitionArgs) : Service CustomerSessionSnapshot := do
  match ← SessionStore.idempotentResult args.sessionRef args.idempotencyKey with
  | some prior => pure prior
  | none => svc.applyTransition args

/-- What re-entry writes over the snapshot it read. -/
def reenterChanges (state : ChannelState) (projection : UpstreamStateProjection) :
    SessionChanges :=
  { state := some state
    orderRef := projection.orderRef
    paymentRef := projection.paymentRef
    lastUpstreamEvidenceRef := some projection.evidenceRef }

/-- A session asked for by a fixture alias is handed back under that name. -/
def namedAs (canonical sessionRef : String) (s : CustomerSessionSnapshot) :
    CustomerSessionSnapshot := if canonical ≠ sessionRef then { s with sessionRef } else s

/-- `reenter`. -/
def reenter (sessionRef : String) : Service CustomerSessionSnapshot := do
  let canonical ← SessionStore.canonicalRef sessionRef
  let current ← required sessionRef
  if !current.state.evidenceGated && falsy current.orderRef && falsy current.paymentRef then
    pure (namedAs canonical sessionRef current)
  else do
    let answer : Except Exc (Option UpstreamStateProjection) ←
      ask (.upstream (.reconcileSession current))
    match ← ofExcept answer with
    | none =>
        .raise
          ⟨.sessionReconciliationRequired, "authoritative_upstream_state_required_for_reentry"⟩
    | some projection => do
        ofExcept (assertEvidenceMatchesSession current projection)
        let projectedState ← ofExcept (stateFromProjection projection)
        let updated ← SessionStore.put current (reenterChanges projectedState projection)
        pure (namedAs canonical sessionRef updated)

end CustomerSessionService

end XbosCustomerChannel
