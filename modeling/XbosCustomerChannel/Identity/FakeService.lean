import XbosCustomerChannel.Identity.Service

/-!
# The deterministic identity fixture

`FakeCustomerIdentityService` keeps the evidence it was set up with, one table of identities, one of
the identity of each channel subject, and the consents with the idempotency keys they were recorded
under. It is also the consent policy. Every method is one atomic operation.
-/

namespace XbosCustomerChannel

open Data

/-! ## Consent -/

inductive ConsentPurpose
  | transactional
  | marketing
  | support
  | orderUpdates
  | receiptDelivery
  deriving DecidableEq, Repr

structure ConsentRecord where
  consentRef : String
  identityRef : String
  purpose : ConsentPurpose
  granted : Bool
  consentVersion : String
  evidenceRef : String
  deriving DecidableEq, Repr

/-- What a replay of a decision has to repeat. -/
structure ConsentFingerprint where
  identityRef : String
  purpose : ConsentPurpose
  granted : Bool
  consentVersion : String
  evidenceRef : String
  deriving DecidableEq, Repr

/-! ## The fixture -/

/-- The policy has a version for every purpose from the start. -/
structure FakeCustomerIdentityService where
  subjectEvidence : Dict String (String × String × ChannelSubjectResolution) := ∅
  verificationEvidence : Dict String (String × String × Int) := ∅
  identities : Dict String ChannelIdentity := ∅
  subjectBindings : Dict (String × String) String := ∅
  consents : Dict (String × ConsentPurpose) ConsentRecord := ∅
  idempotency : Dict String (ConsentFingerprint × ConsentRecord) := ∅
  policyVersions : ConsentPurpose → String := fun _ => "v1"

namespace FakeCustomerIdentityService

variable (s : FakeCustomerIdentityService)

/-- `_require`. -/
def require (identityRef : String) : Except Exc ChannelIdentity :=
  match s.identities.get? identityRef with
  | some identity => .ok identity
  | none => .error ⟨.keyError, "unknown_identity_ref"⟩

/-- `self._identities[identity_ref] = identity`. -/
def store (identityRef : String) (identity : ChannelIdentity) : FakeCustomerIdentityService :=
  { s with identities := s.identities.set identityRef identity }

/-- `self._subject_bindings[key] = identity_ref`. -/
def bindSubject (key : String × String) (identityRef : String) : FakeCustomerIdentityService :=
  { s with subjectBindings := s.subjectBindings.set key identityRef }

def registerSubjectEvidence (channel channelUserRef subjectEvidenceRef canonicalChannelSubjectRef :
    String) (expiresAtEpoch : Int) (candidatePartyRefs : List String) :
    Except Exc Unit × FakeCustomerIdentityService :=
  if channel = "" ∨ channelUserRef = "" ∨ subjectEvidenceRef = "" ∨
      canonicalChannelSubjectRef = "" then
    (.error ⟨.valueError, "subject_evidence_fields_required"⟩, s)
  else
    let resolution : ChannelSubjectResolution :=
      { channel
        canonicalChannelSubjectRef
        subjectAttestationRef := "subject_attestation:fixture:" ++ subjectEvidenceRef
        expiresAtEpoch
        candidatePartyRefs }
    (.ok (), { s with
      subjectEvidence :=
        s.subjectEvidence.set subjectEvidenceRef (channel, channelUserRef, resolution) })

def resolveChannelSubject (channel channelUserRef subjectEvidenceRef : String) (nowEpoch : Int) :
    Except Exc ChannelSubjectResolution :=
  match s.subjectEvidence.get? subjectEvidenceRef with
  | none => .error ⟨.subjectEvidenceError, "unknown_subject_evidence"⟩
  | some (expectedChannel, expectedLocator, resolution) =>
      if channel ≠ expectedChannel then
        .error ⟨.subjectEvidenceError, "cross_channel_subject_evidence"⟩
      else if channelUserRef ≠ expectedLocator then
        .error ⟨.subjectEvidenceError, "locator_attestation_mismatch"⟩
      else if nowEpoch ≥ resolution.expiresAtEpoch then
        .error ⟨.subjectEvidenceError, "stale_or_expired_subject_evidence"⟩
      else .ok resolution

/-- The candidates, numbered from one. -/
def candidatesOf (candidatePartyRefs : List String) : List PartyCandidate :=
  (candidatePartyRefs.zipIdx 1).map fun c => ⟨c.1, "match:fixture:" ++ toString c.2⟩

/-- An identity that is resolved again keeps its state, and its candidates if none are found. -/
def refreshed (current : ChannelIdentity) (subjectAttestationRef conversationRef : String)
    (candidatePartyRefs : List String) : ChannelIdentity :=
  { current with
    subjectAttestationRef
    conversationRef
    candidates :=
      if candidatesOf candidatePartyRefs = [] then current.candidates
      else candidatesOf candidatePartyRefs }

/-- The identity of a subject that is resolved for the first time. -/
def recognized (channel identityRef canonicalChannelSubjectRef subjectAttestationRef
    conversationRef : String) (candidatePartyRefs : List String) : ChannelIdentity where
  identityRef := identityRef
  channel := channel
  canonicalChannelSubjectRef := canonicalChannelSubjectRef
  subjectAttestationRef := subjectAttestationRef
  conversationRef := conversationRef
  state := if candidatesOf candidatePartyRefs = [] then .anonymous else .recognized
  candidates := candidatesOf candidatePartyRefs

def resolveIdentity (channel identityRef canonicalChannelSubjectRef subjectAttestationRef
    conversationRef : String) (candidatePartyRefs : List String) :
    Except Exc ChannelIdentity × FakeCustomerIdentityService :=
  let key := (channel, canonicalChannelSubjectRef)
  let boundRef := s.subjectBindings.get? key
  if boundRef.isSome ∧ boundRef ≠ some identityRef then
    (.error ⟨.identityCollisionError, "canonical_subject_already_bound"⟩, s)
  else
    match s.identities.get? identityRef with
    | some current =>
        if current.channel ≠ channel ∨
            current.canonicalChannelSubjectRef ≠ canonicalChannelSubjectRef then
          (.error ⟨.identityCollisionError, "identity_ref_subject_collision"⟩, s)
        else
          let updated :=
            refreshed current subjectAttestationRef conversationRef candidatePartyRefs
          (.ok updated, (s.store identityRef updated).bindSubject key identityRef)
    | none =>
        let identity := recognized channel identityRef canonicalChannelSubjectRef
          subjectAttestationRef conversationRef candidatePartyRefs
        (.ok identity, (s.store identityRef identity).bindSubject key identityRef)

def registerVerificationEvidence (identityRef verificationEvidenceRef : String)
    (expiresAtEpoch : Int) : Except Exc Unit × FakeCustomerIdentityService :=
  match s.require identityRef with
  | .error e => (.error e, s)
  | .ok current =>
      (.ok (), { s with
        verificationEvidence := s.verificationEvidence.set verificationEvidenceRef
          (identityRef, current.canonicalChannelSubjectRef, expiresAtEpoch) })

def verified (current : ChannelIdentity) (verificationEvidenceRef : String) : ChannelIdentity :=
  { current with
    state := .verified
    verificationRef := some ("verification:fixture:" ++ verificationEvidenceRef) }

def verifyIdentity (identityRef verificationEvidenceRef : String) (nowEpoch : Int) :
    Except Exc ChannelIdentity × FakeCustomerIdentityService :=
  match s.require identityRef with
  | .error e => (.error e, s)
  | .ok current =>
      if current.state = .blockedOrRestricted then
        (.error ⟨.permissionError, "identity_restricted"⟩, s)
      else
        match s.verificationEvidence.get? verificationEvidenceRef with
        | none => (.error ⟨.permissionError, "verification_evidence_not_server_resolved"⟩, s)
        | some (expectedIdentityRef, expectedSubjectRef, expiresAtEpoch) =>
            if expectedIdentityRef ≠ identityRef ∨
                expectedSubjectRef ≠ current.canonicalChannelSubjectRef then
              (.error ⟨.permissionError, "verification_evidence_identity_mismatch"⟩, s)
            else if nowEpoch ≥ expiresAtEpoch then
              (.error ⟨.permissionError, "verification_evidence_expired"⟩, s)
            else
              -- the state it is verified from is not looked at any further
              (.ok (verified current verificationEvidenceRef),
                s.store identityRef (verified current verificationEvidenceRef))

def linked (current : ChannelIdentity) (partyRef : String) (tenantRef : Option String)
    (merchantRef contextBindingRef : String) : ChannelIdentity :=
  { current with
    state := .linked
    linkedPartyRef := some partyRef
    linkedTenantRef := tenantRef
    linkedMerchantRef := some merchantRef
    linkedContextBindingRef := some contextBindingRef }

def linkVerifiedParty (identityRef partyRef verificationRef : String) (tenantRef : Option String)
    (merchantRef contextBindingRef : String) :
    Except Exc ChannelIdentity × FakeCustomerIdentityService :=
  match s.require identityRef with
  | .error e => (.error e, s)
  | .ok current =>
      if current.state ≠ .verified then
        (.error ⟨.permissionError, "verification_required_before_link"⟩, s)
      else if current.verificationRef ≠ some verificationRef then
        (.error ⟨.permissionError, "verification_reference_mismatch"⟩, s)
      else if partyRef ∉ current.candidates.map (·.partyRef) then
        (.error ⟨.permissionError, "party_not_in_resolved_candidates"⟩, s)
      else if merchantRef = "" ∨ contextBindingRef = "" then
        (.error ⟨.permissionError, "party_link_context_required"⟩, s)
      else
        let updated := linked current partyRef tenantRef merchantRef contextBindingRef
        (.ok updated, s.store identityRef updated)

def restricted (current : ChannelIdentity) (restrictionRef : String) : ChannelIdentity :=
  { current with state := .blockedOrRestricted, restrictionRef := some restrictionRef }

def restrictIdentity (identityRef restrictionRef : String) :
    Except Exc ChannelIdentity × FakeCustomerIdentityService :=
  match s.require identityRef with
  | .error e => (.error e, s)
  | .ok current =>
      (.ok (restricted current restrictionRef),
        s.store identityRef (restricted current restrictionRef))

/-- The record of a decision that is not a replay. -/
def nextConsent (fingerprint : ConsentFingerprint) : ConsentRecord where
  consentRef := "consent:fixture:" ++ toString (s.idempotency.size + 1)
  identityRef := fingerprint.identityRef
  purpose := fingerprint.purpose
  granted := fingerprint.granted
  consentVersion := fingerprint.consentVersion
  evidenceRef := fingerprint.evidenceRef

def recordConsent (fingerprint : ConsentFingerprint) (idempotencyKey : String) :
    Except Exc ConsentRecord × FakeCustomerIdentityService :=
  match s.require fingerprint.identityRef with
  | .error e => (.error e, s)
  | .ok _ =>
      if fingerprint.consentVersion = "" then
        (.error ⟨.valueError, "consent_version_required"⟩, s)
      else
        match s.idempotency.get? idempotencyKey with
        | some (priorFingerprint, priorRecord) =>
            if priorFingerprint ≠ fingerprint then
              (.error ⟨.consentIdempotencyConflict, "consent_idempotency_payload_conflict"⟩, s)
            else (.ok priorRecord, s)
        | none =>
            let record := s.nextConsent fingerprint
            (.ok record, { s with
              consents := s.consents.set (fingerprint.identityRef, fingerprint.purpose) record
              idempotency := s.idempotency.set idempotencyKey (fingerprint, record) })

def consentFor (identityRef : String) (purpose : ConsentPurpose) : Option ConsentRecord :=
  s.consents.get? (identityRef, purpose)

def setPolicyVersion (purpose : ConsentPurpose) (version : String) :
    Except Exc Unit × FakeCustomerIdentityService :=
  if version = "" then (.error ⟨.valueError, "consent_policy_version_required"⟩, s)
  else (.ok (), { s with policyVersions := Function.update s.policyVersions purpose version })

def currentVersion (purpose : ConsentPurpose) : String := s.policyVersions purpose

end FakeCustomerIdentityService

/-! ## Requests -/

/-- What the fixture is set up with between the calls of the channel. -/
inductive FixtureControl
  | registerSubjectEvidence (channel channelUserRef subjectEvidenceRef canonicalChannelSubjectRef :
      String) (expiresAtEpoch : Int) (candidatePartyRefs : List String)
  | registerVerificationEvidence (identityRef verificationEvidenceRef : String)
      (expiresAtEpoch : Int)
  | restrictIdentity (identityRef restrictionRef : String)
  | setPolicyVersion (purpose : ConsentPurpose) (version : String)

inductive IdentityRequest
  | resolveIdentity (channel identityRef canonicalChannelSubjectRef subjectAttestationRef
      conversationRef : String) (candidatePartyRefs : List String)
  | verifyIdentity (identityRef verificationEvidenceRef : String) (nowEpoch : Int)
  | linkVerifiedParty (identityRef partyRef verificationRef : String) (tenantRef : Option String)
      (merchantRef contextBindingRef : String)
  | recordConsent (fingerprint : ConsentFingerprint) (idempotencyKey : String)
  | control (control : FixtureControl)

namespace FakeCustomerIdentityService

def controlled (s : FakeCustomerIdentityService) : FixtureControl → FakeCustomerIdentityService
  | .registerSubjectEvidence channel user evidence subject expires candidates =>
      (s.registerSubjectEvidence channel user evidence subject expires candidates).2
  | .registerVerificationEvidence identity evidence expires =>
      (s.registerVerificationEvidence identity evidence expires).2
  | .restrictIdentity identity restriction => (s.restrictIdentity identity restriction).2
  | .setPolicyVersion purpose version => (s.setPolicyVersion purpose version).2

/-- The fixture after a request. -/
def after (s : FakeCustomerIdentityService) : IdentityRequest → FakeCustomerIdentityService
  | .resolveIdentity channel identity subject attestation conversation candidates =>
      (s.resolveIdentity channel identity subject attestation conversation candidates).2
  | .verifyIdentity identity evidence now => (s.verifyIdentity identity evidence now).2
  | .linkVerifiedParty identity party verification tenant merchant contextBinding =>
      (s.linkVerifiedParty identity party verification tenant merchant contextBinding).2
  | .recordConsent fingerprint key => (s.recordConsent fingerprint key).2
  | .control control => s.controlled control

instance : CustomerIdentityPort FakeCustomerIdentityService where
  resolveChannelSubject s channel user evidence now :=
    (s.resolveChannelSubject channel user evidence now, s)
  resolveIdentity := resolveIdentity
  Event := IdentityRequest
  occur request s := s.after request

end FakeCustomerIdentityService

end XbosCustomerChannel
