import XbosCustomerChannel.Identity.Effect

/-!
# Runs of the identity service

Calls of one `ChannelIdentityService` over one fixture, which is the identity port and the consent
policy, and what the fixture is set up with between them. Whatever the fixture's requests keep is
kept by a call (`serve_keeps`).
-/

namespace XbosCustomerChannel

open Effects Effects.Program Data

/-- The identity service's desk over the fixture. -/
abbrev IdentityFixture := IdentityDesk FakeCustomerIdentityService

/-- The keyword arguments of `resolve`. -/
structure ResolveIdentityArgs where
  channel : String
  channelUserRef : String
  subjectEvidenceRef : String
  conversationRef : String
  nowEpoch : Int

structure IdentityResolutionOutcome where
  identity : ChannelIdentity
  mayLink : Bool
  deriving DecidableEq, Repr

/-- The keyword arguments of `set_consent`. -/
structure ConsentArgs where
  identityRef : String
  purpose : ConsentPurpose
  granted : Bool
  evidenceRef : String
  idempotencyKey : String
  deriving DecidableEq, Repr

/-- The fingerprint of a decision under a version of the policy. -/
def ConsentArgs.fingerprint (args : ConsentArgs) (consentVersion : String) : ConsentFingerprint :=
  ⟨args.identityRef, args.purpose, args.granted, consentVersion, args.evidenceRef⟩

inductive IdentityServiceCall
  | resolve (args : ResolveIdentityArgs)
  | issueSessionIdentityBinding (args : IssueBindingArgs)
  | verify (identityRef verificationEvidenceRef : String) (nowEpoch : Int)
  | link (identityRef partyRef verificationRef : String) (entryContext : ResolvedEntryContext)
  | setConsent (args : ConsentArgs)
  | control (control : FixtureControl)

namespace ChannelIdentityService

variable (ids : ChannelIdentityService) [Hmac]

def resolve (args : ResolveIdentityArgs) : IdentityCallOf IdentityResolutionOutcome := do
  let (_, identity) ← ids.resolveSubjectAndIdentity args.channel args.channelUserRef
    args.subjectEvidenceRef args.conversationRef args.nowEpoch
  pure ⟨identity, identity.state = .verified⟩

/-- The reference the service derives for a subject. -/
def identityRefOf (subject : String × String) : String :=
  "identity:channel:" ++
    hexdigest (Hmac.digest (utf8 ids.identitySecret) (utf8 (subject.1 ++ "\x1f" ++ subject.2)))

theorem hashChannelUserRef_eq (channel subject : String) :
    hashChannelUserRef channel subject ids.identitySecret =
      .ok (hexdigest (Hmac.digest (utf8 ids.identitySecret) (utf8 (channel ++ "\x1f" ++ subject)))) := by
  unfold hashChannelUserRef
  rw [if_neg ids.secretGiven]

end ChannelIdentityService

namespace IdentityDesk

variable (d : IdentityFixture)

def verify (identityRef verificationEvidenceRef : String) (nowEpoch : Int) :
    Except Exc ChannelIdentity × IdentityFixture :=
  let answer := d.port.verifyIdentity identityRef verificationEvidenceRef nowEpoch
  (answer.1, { d with port := answer.2 })

def link (identityRef partyRef verificationRef : String) (entryContext : ResolvedEntryContext) :
    Except Exc ChannelIdentity × IdentityFixture :=
  let answer := d.port.linkVerifiedParty identityRef partyRef verificationRef entryContext.tenantRef
    entryContext.merchantRef entryContext.contextBindingRef
  (answer.1, { d with port := answer.2 })

def setConsent (args : ConsentArgs) : Except Exc ConsentRecord × IdentityFixture :=
  let consentVersion := d.port.currentVersion args.purpose
  let answer := d.port.recordConsent (args.fingerprint consentVersion) args.idempotencyKey
  (answer.1, { d with port := answer.2 })

def purposeAllowed (identityRef : String) (purpose : ConsentPurpose) : Bool :=
  let currentVersion := d.port.currentVersion purpose
  match d.port.consentFor identityRef purpose with
  | none => false
  | some record => record.granted && record.consentVersion = currentVersion

/-- An empty fixture behind the service. -/
def start (refs : RefSource) : IdentityFixture := { port := {}, refs }

variable [Hmac] (ids : ChannelIdentityService)

/-- The desk after a call. -/
def serve : IdentityServiceCall → IdentityFixture
  | .resolve args => (exec IdentityDesk.handle (ids.resolve args) d).2
  | .issueSessionIdentityBinding args =>
      (exec IdentityDesk.handle (ids.issueSessionIdentityBinding args) d).2
  | .verify identityRef evidence now => (d.verify identityRef evidence now).2
  | .link identityRef party verification entryContext =>
      (d.link identityRef party verification entryContext).2
  | .setConsent args => (d.setConsent args).2
  | .control control => { d with port := d.port.controlled control }

def run (calls : List IdentityServiceCall) : IdentityFixture := calls.foldl (fun d => serve d ids) d

theorem run_concat (calls : List IdentityServiceCall) (call : IdentityServiceCall) :
    run d ids (calls ++ [call]) = serve (run d ids calls) ids call := by
  simp [run]

theorem run_append (calls calls' : List IdentityServiceCall) :
    run d ids (calls ++ calls') = run (run d ids calls) ids calls' := by
  simp [run]

/-! ## What a call asks of the fixture -/

variable {ids}

/-- An identity is asked for under the reference derived for its subject. -/
def Asks (ids : ChannelIdentityService) : IdentityRequest → Prop
  | .resolveIdentity channel ref subject _ _ _ => ref = ids.identityRefOf (channel, subject)
  | _ => True

/-- The operations that ask for identities so. -/
def OpAsks (ids : ChannelIdentityService) : IdentityOp → Prop
  | .resolveIdentity channel ref subject _ _ _ => ref = ids.identityRefOf (channel, subject)
  | _ => True

/-- The requests that a call can make. -/
def Makes (ids : ChannelIdentityService) : IdentityServiceCall → IdentityRequest → Prop
  | .resolve _, request | .issueSessionIdentityBinding _, request =>
      ∃ channel ref subject attestation conversation candidates, request =
        .resolveIdentity channel ref subject attestation conversation candidates ∧ Asks ids request
  | .verify ref evidence now, request => request = .verifyIdentity ref evidence now
  | .link ref party verification entryContext, request => request =
      .linkVerifiedParty ref party verification entryContext.tenantRef entryContext.merchantRef
        entryContext.contextBindingRef
  | .setConsent args, request => ∃ consentVersion, request =
      .recordConsent (args.fingerprint consentVersion) args.idempotencyKey
  | .control control, request => request = .control control

theorem Makes.asks {call : IdentityServiceCall} {request : IdentityRequest}
    (h : Makes ids call request) : Asks ids request := by
  cases call with
  | resolve => obtain ⟨_, _, _, _, _, _, rfl, h⟩ := h; exact h
  | issueSessionIdentityBinding => obtain ⟨_, _, _, _, _, _, rfl, h⟩ := h; exact h
  | verify => rw [h]; trivial
  | link => rw [h]; trivial
  | setConsent => obtain ⟨_, rfl⟩ := h; trivial
  | control => rw [h]; trivial

theorem uses_resolveSubjectAndIdentity (channel user evidence conversation : String) (now : Int) :
    (ids.resolveSubjectAndIdentity channel user evidence conversation now).Uses (OpAsks ids) := by
  unfold ChannelIdentityService.resolveSubjectAndIdentity
  refine Uses.bind ⟨trivial, fun _ => trivial⟩ fun answer => ?_
  refine Uses.bind (Uses.ofExcept _) fun resolution => ?_
  refine Uses.bind (Uses.raiseIf _ _) fun _ => Uses.bind (Uses.raiseIf _ _) fun _ => ?_
  rw [ids.hashChannelUserRef_eq, ofExcept_ok, done_bind]
  refine Uses.bind ⟨rfl, fun _ => trivial⟩ fun answer => ?_
  refine Uses.bind (Uses.ofExcept _) fun identity => ?_
  exact Uses.bind (Uses.raiseIf _ _) fun _ => Uses.bind (Uses.raiseIf _ _) fun _ => Uses.done _

theorem uses_resolve (args : ResolveIdentityArgs) : (ids.resolve args).Uses (OpAsks ids) :=
  Uses.bind (uses_resolveSubjectAndIdentity _ _ _ _ _) fun _ => Uses.done _

theorem uses_issueSessionIdentityBinding (args : IssueBindingArgs) :
    (ids.issueSessionIdentityBinding args).Uses (OpAsks ids) := by
  refine Uses.bind (uses_resolveSubjectAndIdentity _ _ _ _ _) fun found => ?_
  refine Uses.bind (Uses.raiseIf _ _) fun _ => Uses.bind (Uses.raiseIf _ _) fun _ => ?_
  exact Uses.bind ⟨trivial, fun _ => trivial⟩ fun _ => Uses.ofExcept _

variable {d} (ids)

/-- What the requests of a call respect is respected by the call. -/
theorem serve_keeps {R : FakeCustomerIdentityService → FakeCustomerIdentityService → Prop}
    (hrefl : ∀ s, R s s) (htrans : ∀ a b c, R a b → R b c → R a c) (call : IdentityServiceCall)
    (hR : ∀ s request, Makes ids call request → R s (s.after request)) :
    R d.port (d.serve ids call).port := by
  have hprogram {α : Type} {p : IdentityCallOf α} (hp : p.Uses (OpAsks ids))
      (hresolves : ∀ s channel ref subject attestation conversation candidates,
        ref = ids.identityRefOf (channel, subject) → R s (s.after
          (.resolveIdentity channel ref subject attestation conversation candidates))) :
      R d.port (exec IdentityDesk.handle p d).2.port := by
    refine exec_preserves IdentityDesk.handle (R := fun d d' : IdentityFixture => R d.port d'.port)
      (fun _ => hrefl _) (fun _ _ _ => htrans _ _ _) (fun op d hop => ?_) hp d
    cases op with
    | resolveChannelSubject => exact hrefl _
    | resolveIdentity channel ref subject attestation conversation candidates =>
        exact hresolves d.port channel ref subject attestation conversation candidates hop
    | issueBinding => exact hrefl _
  cases call with
  | resolve args =>
      exact hprogram (uses_resolve args) fun s _ _ _ _ _ _ h => hR s _ ⟨_, _, _, _, _, _, rfl, h⟩
  | issueSessionIdentityBinding args =>
      exact hprogram (uses_issueSessionIdentityBinding args) fun s _ _ _ _ _ _ h =>
        hR s _ ⟨_, _, _, _, _, _, rfl, h⟩
  | verify ref evidence now => exact hR d.port _ rfl
  | link ref party verification entryContext => exact hR d.port _ rfl
  | setConsent args => exact hR d.port _ ⟨_, rfl⟩
  | control control => exact hR d.port _ rfl

theorem run_keeps {R : FakeCustomerIdentityService → FakeCustomerIdentityService → Prop}
    (hrefl : ∀ s, R s s) (htrans : ∀ a b c, R a b → R b c → R a c)
    (hR : ∀ s request, Asks ids request → R s (s.after request)) (calls : List IdentityServiceCall) :
    R d.port (d.run ids calls).port := by
  induction calls generalizing d with
  | nil => exact hrefl _
  | cons call calls ih =>
      have hcall := serve_keeps (d := d) ids hrefl htrans call fun s request h => hR s request h.asks
      exact htrans _ _ _ hcall ih

/-- What holds of an empty fixture and is kept by its requests holds in every run. -/
theorem run_holds {I : FakeCustomerIdentityService → Prop} (hstart : I {})
    (hI : ∀ s request, Asks ids request → I s → I (s.after request)) (refs : RefSource)
    (calls : List IdentityServiceCall) : I ((start refs).run ids calls).port :=
  run_keeps ids (R := fun s s' => I s → I s') (fun _ h => h) (fun _ _ _ h h' hs => h' (h hs)) hI calls
    hstart

end IdentityDesk

end XbosCustomerChannel
