import XbosCustomerChannel.Identity.FakeService

/-!
# What a request does to the identities

A request opens an identity for a subject that has none, changes one that is there, or leaves the
identities alone. How it changes one is said once (`IdentityChange`), with what was checked before.
-/

namespace XbosCustomerChannel

open Data

/-- The channel subject an identity stands for. -/
def ChannelIdentity.subject (identity : ChannelIdentity) : String × String :=
  (identity.channel, identity.canonicalChannelSubjectRef)

namespace FakeCustomerIdentityService

variable (s : FakeCustomerIdentityService)

/-- Registered, unexpired evidence for the identity and its subject. -/
def VerificationStands (identityRef verificationEvidenceRef : String) (nowEpoch : Int)
    (current : ChannelIdentity) : Prop :=
  ∃ expiresAtEpoch, s.verificationEvidence.get? verificationEvidenceRef =
    some (identityRef, current.canonicalChannelSubjectRef, expiresAtEpoch) ∧
      nowEpoch < expiresAtEpoch

/-- How a request changes an identity. -/
inductive IdentityChange : IdentityRequest → String → ChannelIdentity → ChannelIdentity → Prop
  | refreshed (ref attestation conversation : String) (candidates : List String)
      (current : ChannelIdentity) :
      IdentityChange (.resolveIdentity current.channel ref current.canonicalChannelSubjectRef
        attestation conversation candidates) ref current
        (refreshed current attestation conversation candidates)
  | verified (ref evidence : String) (now : Int) (current : ChannelIdentity)
      (hstate : current.state ≠ .blockedOrRestricted)
      (hstands : s.VerificationStands ref evidence now current) :
      IdentityChange (.verifyIdentity ref evidence now) ref current (verified current evidence)
  | linked (ref party verification : String) (tenant : Option String)
      (merchant contextBinding : String) (current : ChannelIdentity)
      (hstate : current.state = .verified) (hverification : current.verificationRef = some verification)
      (hmerchant : merchant ≠ "") (hcontext : contextBinding ≠ "") :
      IdentityChange (.linkVerifiedParty ref party verification tenant merchant contextBinding) ref
        current (linked current party tenant merchant contextBinding)
  | restricted (ref restriction : String) (current : ChannelIdentity) :
      IdentityChange (.control (.restrictIdentity ref restriction)) ref current
        (restricted current restriction)

/-- What a request does to the two tables of identities. -/
inductive IdentityEffect (request : IdentityRequest) : FakeCustomerIdentityService → Prop
  | same (s' : FakeCustomerIdentityService) (hidentities : s'.identities = s.identities)
      (hbindings : s'.subjectBindings = s.subjectBindings) : IdentityEffect request s'
  | opened (ref attestation conversation : String) (candidates : List String)
      (identity : ChannelIdentity) (s' : FakeCustomerIdentityService)
      (hrequest : request = .resolveIdentity identity.channel ref identity.canonicalChannelSubjectRef
        attestation conversation candidates)
      (hidentity : identity = recognized identity.channel ref identity.canonicalChannelSubjectRef
        attestation conversation candidates)
      (hbound : s.subjectBindings.get? identity.subject = none ∨
        s.subjectBindings.get? identity.subject = some ref)
      (hfree : s.identities.get? ref = none)
      (hidentities : s'.identities = s.identities.set ref identity)
      (hbindings : s'.subjectBindings = s.subjectBindings.set identity.subject ref) :
      IdentityEffect request s'
  | changed (ref : String) (current updated : ChannelIdentity) (s' : FakeCustomerIdentityService)
      (hcurrent : s.identities.get? ref = some current)
      (hchange : s.IdentityChange request ref current updated)
      (hidentities : s'.identities = s.identities.set ref updated)
      (hbindings : s'.subjectBindings = s.subjectBindings ∨
        s'.subjectBindings = s.subjectBindings.set current.subject ref) :
      IdentityEffect request s'

variable {s}

/-- No change moves an identity to another subject. -/
theorem IdentityChange.subject {request : IdentityRequest} {ref : String}
    {current updated : ChannelIdentity} (h : s.IdentityChange request ref current updated) :
    updated.subject = current.subject := by
  cases h <;> rfl

theorem IdentityChange.identityRef {request : IdentityRequest} {ref : String}
    {current updated : ChannelIdentity} (h : s.IdentityChange request ref current updated) :
    updated.identityRef = current.identityRef := by
  cases h <;> rfl

theorem require_ok {ref : String} {identity : ChannelIdentity} :
    s.require ref = .ok identity ↔ s.identities.get? ref = some identity := by
  unfold require
  cases s.identities.get? ref <;> simp

/-! ## One lemma for each method -/

variable (s)

theorem resolveIdentity_effect (channel ref subject attestation conversation : String)
    (candidates : List String) :
    s.IdentityEffect (.resolveIdentity channel ref subject attestation conversation candidates)
      (s.resolveIdentity channel ref subject attestation conversation candidates).2 := by
  unfold resolveIdentity
  dsimp only
  split
  · exact .same _ rfl rfl
  next hbound =>
  have hbound : s.subjectBindings.get? (channel, subject) = none ∨
      s.subjectBindings.get? (channel, subject) = some ref := by
    cases hget : s.subjectBindings.get? (channel, subject) with
    | none => exact .inl rfl
    | some bound => simpa [hget] using hbound
  split
  · next current hcurrent =>
    split
    · exact .same _ rfl rfl
    next hsame =>
    obtain ⟨rfl, rfl⟩ : current.channel = channel ∧ current.canonicalChannelSubjectRef = subject := by
      simpa using hsame
    exact .changed ref current _ _ hcurrent (.refreshed ref _ _ _ current) rfl (.inr rfl)
  · next hfree =>
    exact .opened ref attestation conversation candidates
      (recognized channel ref subject attestation conversation candidates) _ rfl rfl hbound hfree rfl rfl

theorem verifyIdentity_effect (ref evidence : String) (now : Int) :
    s.IdentityEffect (.verifyIdentity ref evidence now) (s.verifyIdentity ref evidence now).2 := by
  unfold verifyIdentity
  cases hrequire : s.require ref with
  | error e => exact .same _ rfl rfl
  | ok current =>
      dsimp only
      split
      · exact .same _ rfl rfl
      next hstate =>
      split
      · exact .same _ rfl rfl
      next expectedRef expectedSubject expires hevidence =>
      split
      · exact .same _ rfl rfl
      next hmatches =>
      split
      · exact .same _ rfl rfl
      next hexpires =>
      obtain ⟨rfl, rfl⟩ : expectedRef = ref ∧ expectedSubject = current.canonicalChannelSubjectRef := by
        simpa using hmatches
      exact .changed _ current _ _ (require_ok.mp hrequire)
        (.verified _ evidence now current hstate ⟨expires, hevidence, not_le.mp hexpires⟩) rfl (.inl rfl)

theorem linkVerifiedParty_effect (ref party verification : String) (tenant : Option String)
    (merchant contextBinding : String) :
    s.IdentityEffect (.linkVerifiedParty ref party verification tenant merchant contextBinding)
      (s.linkVerifiedParty ref party verification tenant merchant contextBinding).2 := by
  unfold linkVerifiedParty
  cases hrequire : s.require ref with
  | error e => exact .same _ rfl rfl
  | ok current =>
      dsimp only
      split
      · exact .same _ rfl rfl
      next hstate =>
      split
      · exact .same _ rfl rfl
      next hverification =>
      split
      · exact .same _ rfl rfl
      split
      · exact .same _ rfl rfl
      next hcontext =>
      obtain ⟨hmerchant, hcontext⟩ := not_or.mp hcontext
      exact .changed ref current _ _ (require_ok.mp hrequire)
        (.linked ref party verification tenant merchant contextBinding current (not_not.mp hstate)
          (not_not.mp hverification) hmerchant hcontext) rfl (.inl rfl)

theorem restrictIdentity_effect (ref restriction : String) :
    s.IdentityEffect (.control (.restrictIdentity ref restriction))
      (s.restrictIdentity ref restriction).2 := by
  unfold restrictIdentity
  cases hrequire : s.require ref with
  | error e => exact .same _ rfl rfl
  | ok current =>
      exact .changed ref current _ _ (require_ok.mp hrequire) (.restricted ref restriction current) rfl
        (.inl rfl)

/-- The other requests leave the identities alone. -/
structure SameIdentities (s' : FakeCustomerIdentityService) : Prop where
  identities : s'.identities = s.identities
  bindings : s'.subjectBindings = s.subjectBindings

theorem registerSubjectEvidence_same (channel user evidence subject : String) (expires : Int)
    (candidates : List String) :
    s.SameIdentities (s.registerSubjectEvidence channel user evidence subject expires candidates).2 := by
  unfold registerSubjectEvidence
  split <;> exact ⟨rfl, rfl⟩

theorem registerVerificationEvidence_same (ref evidence : String) (expires : Int) :
    s.SameIdentities (s.registerVerificationEvidence ref evidence expires).2 := by
  unfold registerVerificationEvidence
  split <;> exact ⟨rfl, rfl⟩

theorem setPolicyVersion_same (purpose : ConsentPurpose) (version : String) :
    s.SameIdentities (s.setPolicyVersion purpose version).2 := by
  unfold setPolicyVersion
  split <;> exact ⟨rfl, rfl⟩

theorem recordConsent_same (fingerprint : ConsentFingerprint) (key : String) :
    s.SameIdentities (s.recordConsent fingerprint key).2 := by
  unfold recordConsent
  split
  · exact ⟨rfl, rfl⟩
  split
  · exact ⟨rfl, rfl⟩
  split
  · split <;> exact ⟨rfl, rfl⟩
  · exact ⟨rfl, rfl⟩

/-- Everything but the two tables of identities is as before. -/
def OnlyIdentities (s' : FakeCustomerIdentityService) : Prop :=
  s' = { s with identities := s'.identities, subjectBindings := s'.subjectBindings }

theorem resolveIdentity_only (channel ref subject attestation conversation : String)
    (candidates : List String) : s.OnlyIdentities
      (s.resolveIdentity channel ref subject attestation conversation candidates).2 := by
  unfold resolveIdentity
  dsimp only
  split
  · rfl
  split
  · split <;> rfl
  · rfl

theorem verifyIdentity_only (ref evidence : String) (now : Int) :
    s.OnlyIdentities (s.verifyIdentity ref evidence now).2 := by
  unfold verifyIdentity
  split
  · rfl
  split
  · rfl
  split
  · rfl
  split
  · rfl
  split <;> rfl

theorem linkVerifiedParty_only (ref party verification : String) (tenant : Option String)
    (merchant contextBinding : String) : s.OnlyIdentities
      (s.linkVerifiedParty ref party verification tenant merchant contextBinding).2 := by
  unfold linkVerifiedParty
  split
  · rfl
  split
  · rfl
  split
  · rfl
  split
  · rfl
  split <;> rfl

theorem restrictIdentity_only (ref restriction : String) :
    s.OnlyIdentities (s.restrictIdentity ref restriction).2 := by
  unfold restrictIdentity
  split <;> rfl

/-- What a request does. -/
theorem after_effect (request : IdentityRequest) : s.IdentityEffect request (s.after request) := by
  have hsame {s' : FakeCustomerIdentityService} (h : s.SameIdentities s') :
      s.IdentityEffect request s' := .same _ h.identities h.bindings
  cases request with
  | resolveIdentity => exact s.resolveIdentity_effect _ _ _ _ _ _
  | verifyIdentity => exact s.verifyIdentity_effect _ _ _
  | linkVerifiedParty => exact s.linkVerifiedParty_effect _ _ _ _ _ _
  | recordConsent => exact hsame (s.recordConsent_same _ _)
  | control control =>
      cases control with
      | registerSubjectEvidence => exact hsame (s.registerSubjectEvidence_same _ _ _ _ _ _)
      | registerVerificationEvidence => exact hsame (s.registerVerificationEvidence_same _ _ _)
      | restrictIdentity => exact s.restrictIdentity_effect _ _
      | setPolicyVersion => exact hsame (s.setPolicyVersion_same _ _)

end FakeCustomerIdentityService

end XbosCustomerChannel
