import XbosCustomerChannel.Data.History
import XbosCustomerChannel.Fixture
import XbosCustomerChannel.Identity.Correspondence

/-!
# What a restriction stops

An identity that is restricted stays restricted, and then it is neither verified nor linked. Issuing a
session identity binding does not look at the state: a restricted identity gets one as any other does,
on live evidence for its subject.
-/

namespace XbosCustomerChannel

open Effects Effects.Program Data

namespace FakeCustomerIdentityService

variable {s : FakeCustomerIdentityService} {ref : String}

/-! ## The restriction stays -/

def Restricted (s : FakeCustomerIdentityService) (ref : String) : Prop :=
  ∃ a, s.identities.get? ref = some a ∧ a.state = .blockedOrRestricted

theorem IdentityChange.restricted_stays {request : IdentityRequest} {current updated : ChannelIdentity}
    (h : s.IdentityChange request ref current updated) (hstate : current.state = .blockedOrRestricted) :
    updated.state = .blockedOrRestricted := by
  cases h with
  | refreshed => exact hstate
  | verified _ _ _ _ hne => exact absurd hstate hne
  | linked _ _ _ _ _ _ _ hverified =>
      rw [hverified] at hstate
      cases hstate
  | restricted => rfl

theorem Restricted.after (h : s.Restricted ref) (request : IdentityRequest) :
    (s.after request).Restricted ref := by
  obtain ⟨a, ha, hstate⟩ := h
  unfold Restricted
  cases s.after_effect request with
  | same _ hidentities _ =>
      rw [hidentities]
      exact ⟨a, ha, hstate⟩
  | opened ref' _ _ _ _ _ _ _ _ hfree hidentities _ =>
      rw [hidentities]
      exact ⟨a, Dict.Extends.set_of_none hfree _ _ _ ha, hstate⟩
  | changed ref' current updated _ hcurrent hchange hidentities _ =>
      rw [hidentities, Dict.get?_set]
      split
      · next heq =>
        obtain rfl : current = a := Option.some.inj (hcurrent.symm.trans (heq ▸ ha))
        exact ⟨updated, rfl, hchange.restricted_stays hstate⟩
      · exact ⟨a, ha, hstate⟩

theorem restricted_of_restrictIdentity {restriction : String} {identity : ChannelIdentity}
    (h : (s.restrictIdentity ref restriction).1 = .ok identity) :
    (s.restrictIdentity ref restriction).2.Restricted ref := by
  unfold restrictIdentity at h ⊢
  cases hrequire : s.require ref with
  | error e =>
      rw [hrequire] at h
      cases h
  | ok current => exact ⟨restricted current restriction, Dict.get?_set_self _ _ _, rfl⟩

theorem Restricted.not_verified (h : s.Restricted ref) (evidence : String) (now : Int)
    (identity : ChannelIdentity) : (s.verifyIdentity ref evidence now).1 ≠ .ok identity := by
  obtain ⟨a, ha, hstate⟩ := h
  unfold verifyIdentity
  rw [require_ok.mpr ha]
  simp [hstate]

theorem Restricted.not_linked (h : s.Restricted ref) (party verification : String)
    (tenant : Option String) (merchant contextBinding : String) (identity : ChannelIdentity) :
    (s.linkVerifiedParty ref party verification tenant merchant contextBinding).1 ≠ .ok identity := by
  obtain ⟨a, ha, hstate⟩ := h
  unfold linkVerifiedParty
  rw [require_ok.mpr ha]
  simp [hstate]

/-! ## Resolving a subject that has an identity -/

theorem resolveChannelSubject_ok {channel user evidence : String} {now : Int}
    {resolution : ChannelSubjectResolution} :
    s.resolveChannelSubject channel user evidence now = .ok resolution ↔
      s.subjectEvidence.get? evidence = some (channel, user, resolution) ∧
        now < resolution.expiresAtEpoch := by
  unfold resolveChannelSubject
  cases hevidence : s.subjectEvidence.get? evidence with
  | none => simp
  | some registered =>
      obtain ⟨channel', user', resolution'⟩ := registered
      dsimp only
      constructor
      · intro h
        split at h
        · cases h
        next hchannel =>
        split at h
        · cases h
        next huser =>
        split at h
        · cases h
        next hlive =>
        cases h
        rw [not_not.mp hchannel, not_not.mp huser]
        exact ⟨rfl, not_le.mp hlive⟩
      · rintro ⟨heq, hlive⟩
        cases heq
        simp [not_le.mpr hlive]

/-- A subject that is bound to its identity is resolved to it, whatever the state of it. -/
theorem resolveIdentity_known {a : ChannelIdentity} (ha : s.identities.get? ref = some a)
    (hbound : s.subjectBindings.get? a.subject = some ref) (attestation conversation : String)
    (candidates : List String) :
    (s.resolveIdentity a.channel ref a.canonicalChannelSubjectRef attestation conversation
      candidates).1 = .ok (refreshed a attestation conversation candidates) := by
  rw [ChannelIdentity.subject] at hbound
  unfold resolveIdentity
  simp [hbound, ha]

/-- An identity that is there is resolved for its own subject only. -/
theorem subject_of_resolveIdentity {s' : FakeCustomerIdentityService} {channel ref subject attestation
    conversation : String} {candidates : List String} {a identity : ChannelIdentity}
    (ha : s.identities.get? ref = some a)
    (h : s.resolveIdentity channel ref subject attestation conversation candidates =
      (.ok identity, s')) : a.subject = (channel, subject) := by
  unfold resolveIdentity at h
  dsimp only at h
  split at h
  · cases h
  rw [ha] at h
  dsimp only at h
  split at h
  · cases h
  · next hsame =>
    obtain ⟨hchannel, hsubject⟩ := by simpa using hsame
    rw [ChannelIdentity.subject, hchannel, hsubject]

/-! ## What is known of the identities of a run -/

/-- Only what is registered changes the subject evidence. -/
theorem after_subjectEvidence (s : FakeCustomerIdentityService) (request : IdentityRequest) :
    (s.after request).subjectEvidence = s.subjectEvidence ∨
    ∃ channel user evidence subject expires candidates, subject ≠ "" ∧
      (s.after request).subjectEvidence = s.subjectEvidence.set evidence
        (channel, user, ⟨channel, subject, "subject_attestation:fixture:" ++ evidence, expires,
          candidates⟩) := by
  have honly {s' : FakeCustomerIdentityService} (h : s.OnlyIdentities s') :
      s'.subjectEvidence = s.subjectEvidence := by
    rw [h]
  cases request with
  | resolveIdentity => exact .inl (honly (s.resolveIdentity_only _ _ _ _ _ _))
  | verifyIdentity => exact .inl (honly (s.verifyIdentity_only _ _ _))
  | linkVerifiedParty => exact .inl (honly (s.linkVerifiedParty_only _ _ _ _ _ _))
  | recordConsent =>
      left
      simp only [FakeCustomerIdentityService.after, recordConsent]
      split
      · rfl
      split
      · rfl
      split
      · split <;> rfl
      · rfl
  | control control =>
      cases control with
      -- the one request that registers some
      | registerSubjectEvidence channel user evidence subject expires candidates =>
          simp only [FakeCustomerIdentityService.after, controlled, registerSubjectEvidence]
          split
          · exact .inl rfl
          · next hgiven =>
            obtain ⟨-, -, -, hsubject⟩ := by simpa using hgiven
            exact .inr ⟨channel, user, evidence, subject, expires, candidates, hsubject, rfl⟩
      | registerVerificationEvidence =>
          left
          simp only [FakeCustomerIdentityService.after, controlled, registerVerificationEvidence]
          split <;> rfl
      | restrictIdentity => exact .inl (honly (s.restrictIdentity_only _ _))
      | setPolicyVersion =>
          left
          simp only [FakeCustomerIdentityService.after, controlled, setPolicyVersion]
          split <;> rfl

/-- Identities go by the references derived for their subjects, and evidence names a subject of its
own channel. -/
structure Derived (ids : ChannelIdentityService) [Hmac] (s : FakeCustomerIdentityService) : Prop where
  identities : ∀ ref a, s.identities.get? ref = some a →
    a.identityRef = ref ∧ ref = ids.identityRefOf a.subject
  evidence : ∀ ref channel user resolution,
    s.subjectEvidence.get? ref = some (channel, user, resolution) →
      resolution.channel = channel ∧ resolution.canonicalChannelSubjectRef ≠ "" ∧
        resolution.subjectAttestationRef ≠ ""

variable [Hmac] {ids : ChannelIdentityService}

theorem derived_empty : Derived ids {} where
  identities := by
    intro ref a ha
    cases ha
  evidence := by
    intro ref channel user resolution h
    cases h

theorem Derived.after {s : FakeCustomerIdentityService} (h : Derived ids s) {request : IdentityRequest}
    (hasks : IdentityDesk.Asks ids request) : Derived ids (s.after request) where
  identities := by
    intro ref a ha
    cases s.after_effect request with
    | same _ hidentities _ =>
        rw [hidentities] at ha
        exact h.identities ref a ha
    | opened ref' _ _ _ identity _ hrequest hidentity _ _ hidentities _ =>
        rw [hidentities, Dict.get?_set] at ha
        split at ha
        · next heq =>
          obtain rfl := Option.some.inj ha
          rw [hrequest] at hasks
          rw [heq]
          refine ⟨?_, hasks⟩
          rw [hidentity]
          rfl
        · exact h.identities ref a ha
    | changed ref' current updated _ hcurrent hchange hidentities _ =>
        rw [hidentities, Dict.get?_set] at ha
        split at ha
        · next heq =>
          obtain rfl := Option.some.inj ha
          rw [hchange.identityRef, hchange.subject, heq]
          exact h.identities ref' current hcurrent
        · exact h.identities ref a ha
  evidence := by
    intro ref channel user resolution hregistered
    rcases s.after_subjectEvidence request with hsame |
      ⟨channel', user', evidence, subject, expires, candidates, hsubject, hset⟩
    · rw [hsame] at hregistered
      exact h.evidence ref channel user resolution hregistered
    · rw [hset, Dict.get?_set] at hregistered
      split at hregistered
      · cases hregistered
        refine ⟨rfl, hsubject, ?_⟩
        simp
      · exact h.evidence ref channel user resolution hregistered

end FakeCustomerIdentityService

/-- A binding is issued to a complete subject, conversation and context. -/
theorem InMemoryIdentityBindingStore.issueBinding_complete (store : InMemoryIdentityBindingStore)
    (refs : RefSource) (terms : IdentityBindingTerms) (hidentity : terms.identityRef ≠ "")
    (hsubject : terms.canonicalChannelSubjectRef ≠ "") (hattestation : terms.subjectAttestationRef ≠ "")
    (hconversation : terms.conversationRef ≠ "") (hmerchant : terms.merchantRef ≠ "")
    (hlocation : terms.locationRef ≠ "") (hcontext : terms.contextBindingRef ≠ "")
    (hfuture : terms.issuedAtEpoch < terms.expiresAtEpoch) :
    ∃ record store', store.issueBinding refs terms = (.ok record, store') ∧
      record.toIdentityBindingTerms = terms := by
  unfold issueBinding
  simp [hidentity, hsubject, hattestation, hconversation, hmerchant, hlocation, hcontext,
    not_le.mpr hfuture]

/-! ## Runs -/

namespace IdentityDesk

open FakeCustomerIdentityService

variable [Hmac] {ids : ChannelIdentityService} {d : IdentityFixture} {ref : String}

/-- The call succeeds in verifying the identity, linking it, or issuing a binding for it. -/
def ActsOn (ids : ChannelIdentityService) (d : IdentityFixture) (ref : String) :
    IdentityServiceCall → Prop
  | .verify ref' evidence now =>
      ref' = ref ∧ ∃ identity, (d.verify ref' evidence now).1 = .ok identity
  | .link ref' party verification entryContext =>
      ref' = ref ∧ ∃ identity, (d.link ref' party verification entryContext).1 = .ok identity
  | .issueSessionIdentityBinding args =>
      ∃ record, (exec handle (ids.issueSessionIdentityBinding args) d).1 = .ok record ∧
        record.identityRef = ref
  | _ => False

/-- The call asks for a binding on live evidence for the subject of the identity, for as long as the
evidence lives at most, in a complete context. -/
def Presents (d : IdentityFixture) (ref : String) : IdentityServiceCall → Prop
  | .issueSessionIdentityBinding args => ∃ a resolution, d.port.identities.get? ref = some a ∧
      d.port.subjectEvidence.get? args.subjectEvidenceRef =
        some (args.channel, args.channelUserRef, resolution) ∧
      a.subject = (args.channel, resolution.canonicalChannelSubjectRef) ∧
      args.nowEpoch < args.expiresAtEpoch ∧ args.expiresAtEpoch ≤ resolution.expiresAtEpoch ∧
      args.conversationRef ≠ "" ∧ args.entryContext.merchantRef ≠ "" ∧
      args.entryContext.locationRef ≠ "" ∧ args.entryContext.contextBindingRef ≠ ""
  | _ => False

/-- A binding that is issued for an identity that is there was asked for on its evidence. -/
theorem presents_of_issued {args : IssueBindingArgs} {record : IdentityBindingRecord}
    {d' : IdentityFixture} {a : ChannelIdentity} (ha : d.port.identities.get? ref = some a)
    (h : exec handle (ids.issueSessionIdentityBinding args) d = (.ok record, d'))
    (href : record.identityRef = ref) :
    d.Presents ref (.issueSessionIdentityBinding args) := by
  obtain ⟨resolution, identity, d₁, hresolve, hfuture, hlives, hissue, -⟩ :=
    ids.issueSessionIdentityBinding_ok h
  obtain ⟨hterms, hconversation, hmerchant, hlocation, hcontext⟩ :=
    InMemoryIdentityBindingStore.issueBinding_ok hissue
  obtain ⟨hevidence, -, hresolved, hidentity, -⟩ := ids.resolveSubjectAndIdentity_ok hresolve
  have hsame : record.identityRef = identity.identityRef :=
    congrArg IdentityBindingTerms.identityRef hterms
  rw [← hidentity, ← hsame, href] at hresolved
  exact ⟨a, resolution, ha, (resolveChannelSubject_ok.mp hevidence).1,
    subject_of_resolveIdentity ha hresolved, hfuture, hlives, hconversation, hmerchant, hlocation,
    hcontext⟩

/-- A subject that is bound to its identity is resolved to it on live evidence. -/
theorem exec_resolve_known {channel user evidence : String} {now : Int}
    {resolution : ChannelSubjectResolution} {a : ChannelIdentity} (hderived : Derived ids d.port)
    (hcorresponding : d.port.Corresponding) (ha : d.port.identities.get? ref = some a)
    (hevidence : d.port.subjectEvidence.get? evidence = some (channel, user, resolution))
    (hsubject : a.subject = (channel, resolution.canonicalChannelSubjectRef))
    (hlive : now < resolution.expiresAtEpoch) (conversation : String) :
    ∃ d₁, exec handle (ids.resolveSubjectAndIdentity channel user evidence conversation now) d =
      (.ok (resolution, refreshed a resolution.subjectAttestationRef conversation
        resolution.candidatePartyRefs), d₁) := by
  obtain ⟨hchannel, hcanonical, hattestation⟩ := hderived.evidence _ _ _ _ hevidence
  obtain ⟨hidentityRef, href⟩ := hderived.identities ref a ha
  have hbound : d.port.subjectBindings.get? a.subject = some ref :=
    (hcorresponding _ _).mpr ⟨a, ha, rfl⟩
  have hresolves : d.port.resolveChannelSubject channel user evidence now = .ok resolution :=
    resolveChannelSubject_ok.mpr ⟨hevidence, hlive⟩
  have hknown := resolveIdentity_known ha hbound resolution.subjectAttestationRef conversation
    resolution.candidatePartyRefs
  obtain ⟨rfl, hacanonical⟩ := Prod.mk.inj hsubject
  rw [hsubject] at href
  rw [href, hacanonical] at hknown
  unfold ChannelIdentityService.resolveSubjectAndIdentity
  rw [exec_askIdentity_bind]
  simp only [handle, CustomerIdentityPort.resolveChannelSubject, hresolves, ofExcept_ok, done_bind]
  rw [exec_raiseIf_bind, if_neg (not_not.mpr hchannel), exec_raiseIf_bind,
    if_neg (not_or.mpr ⟨hcanonical, hattestation⟩), ids.hashChannelUserRef_eq, ofExcept_ok, done_bind,
    exec_askIdentity_bind]
  simp only [handle, CustomerIdentityPort.resolveIdentity]
  unfold ChannelIdentityService.identityRefOf at hknown href
  rw [hknown, ofExcept_ok, done_bind, exec_raiseIf_bind, if_neg, exec_raiseIf_bind, if_neg]
  · exact ⟨_, rfl⟩
  · exact not_not.mpr hacanonical
  · exact not_not.mpr (hidentityRef.trans href)

theorem identityRefOf_ne_empty (ids : ChannelIdentityService) (subject : String × String) :
    ids.identityRefOf subject ≠ "" := by
  intro hempty
  have hlabel := (String.append_eq_empty_iff.mp hempty).1
  exact absurd hlabel (by decide)

/-- Nothing else is asked of an identity before a binding is issued for it. -/
theorem issued_of_presents (hderived : Derived ids d.port) (hcorresponding : d.port.Corresponding)
    {args : IssueBindingArgs} (h : d.Presents ref (.issueSessionIdentityBinding args)) :
    ∃ record, (exec handle (ids.issueSessionIdentityBinding args) d).1 = .ok record ∧
      record.identityRef = ref := by
  obtain ⟨a, resolution, ha, hevidence, hsubject, hfuture, hlives, hconversation, hmerchant,
    hlocation, hcontext⟩ := h
  obtain ⟨-, hcanonical, hattestation⟩ := hderived.evidence _ _ _ _ hevidence
  obtain ⟨hidentityRef, href⟩ := hderived.identities ref a ha
  obtain ⟨d₁, hresolve⟩ := exec_resolve_known hderived hcorresponding ha hevidence hsubject
    (hfuture.trans_le hlives) args.conversationRef
  have hgiven : a.identityRef ≠ "" := by
    rw [hidentityRef, href]
    exact identityRefOf_ne_empty ids _
  obtain ⟨record, bindings, hissued, hterms⟩ := d₁.bindings.issueBinding_complete d₁.refs
    (ChannelIdentityService.bindingTerms args resolution (refreshed a
      resolution.subjectAttestationRef args.conversationRef resolution.candidatePartyRefs))
    hgiven hcanonical hattestation hconversation hmerchant hlocation hcontext hfuture
  unfold ChannelIdentityService.issueSessionIdentityBinding
  rw [exec_bind_ok _ hresolve]
  dsimp only
  rw [exec_raiseIf_bind, if_neg (not_le.mpr hfuture), exec_raiseIf_bind, if_neg (not_lt.mpr hlives),
    exec_askIdentity_bind]
  simp only [handle, hissued, exec_ofExcept]
  refine ⟨record, rfl, ?_⟩
  have hsame := congrArg IdentityBindingTerms.identityRef hterms
  exact hsame.trans hidentityRef

/-! ## The restriction in a run -/

variable (ids) (refs : RefSource)

/-- `restrict_identity` has succeeded for the identity in the run. -/
def RestrictedIn (ref : String) (calls : List IdentityServiceCall) : Prop :=
  ∃ before restriction after identity,
    calls = before ++ .control (.restrictIdentity ref restriction) :: after ∧
    (((start refs).run ids before).port.restrictIdentity ref restriction).1 = .ok identity

theorem RestrictedIn.restricted {calls : List IdentityServiceCall}
    (h : RestrictedIn ids refs ref calls) : ((start refs).run ids calls).port.Restricted ref := by
  obtain ⟨before, restriction, after, identity, rfl, hok⟩ := h
  rw [List.append_cons, run_append]
  apply run_keeps ids (R := fun s s' => s.Restricted ref → s'.Restricted ref)
    (fun _ => id) (fun _ _ _ hab hbc h => hbc (hab h)) (fun _ request _ h => h.after request)
  rw [run_concat]
  exact restricted_of_restrictIdentity hok

theorem run_derived (calls : List IdentityServiceCall) :
    Derived ids ((start refs).run ids calls).port :=
  run_holds ids derived_empty (fun _ _ hasks h => h.after hasks) refs calls

/-- A call acts on a restricted identity exactly if it presents evidence for it. -/
theorem actsOn_iff {calls : List IdentityServiceCall} (h : RestrictedIn ids refs ref calls)
    (call : IdentityServiceCall) : ActsOn ids ((start refs).run ids calls) ref call ↔
      ((start refs).run ids calls).Presents ref call := by
  have hrestricted := RestrictedIn.restricted ids refs h
  cases call with
  | issueSessionIdentityBinding args =>
      constructor
      · rintro ⟨record, hok, href⟩
        obtain ⟨a, ha, -⟩ := hrestricted
        exact presents_of_issued ha (Prod.ext hok rfl) href
      · exact issued_of_presents (run_derived ids refs calls) (run_corresponding ids refs calls)
  | verify ref' evidence now =>
      constructor
      · rintro ⟨rfl, identity, hok⟩
        exact absurd hok (hrestricted.not_verified evidence now identity)
      · exact False.elim
  | link ref' party verification entryContext =>
      constructor
      · rintro ⟨rfl, identity, hok⟩
        exact absurd hok (hrestricted.not_linked _ _ _ _ _ identity)
      · exact False.elim
  | resolve => exact .rfl
  | setConsent => exact .rfl
  | control => exact .rfl

/-- After an identity is restricted, no call acts on it: exactly in the runs in which no later call asks
for a binding on live evidence for its subject. -/
theorem restriction_holds_iff (ref : String) (calls : List IdentityServiceCall) :
    History.Each (fun before call => RestrictedIn ids refs ref before →
      ¬ ActsOn ids ((start refs).run ids before) ref call) calls ↔
    History.Each (fun before call => RestrictedIn ids refs ref before →
      ¬ ((start refs).run ids before).Presents ref call) calls := by
  constructor
  · intro h before call after hcalls hrestricted hpresents
    exact h before call after hcalls hrestricted ((actsOn_iff ids refs hrestricted call).mpr hpresents)
  · intro h before call after hcalls hrestricted hacts
    exact h before call after hcalls hrestricted ((actsOn_iff ids refs hrestricted call).mp hacts)

end IdentityDesk

/-! ## A binding for an identity that is restricted -/

namespace IdentityDesk

/-- The digest of the one subject that is resolved here, under the key `secret`. -/
def subjectDigest : List UInt8 :=
  [34, 28, 18, 170, 250, 132, 212, 251, 238, 52, 109, 255, 148, 42, 119, 164, 159, 18, 148, 45, 191,
    198, 103, 117, 228, 3, 115, 87, 204, 51, 178, 168]

/-- The identity of the subject. -/
def restrictedRef : String :=
  "identity:channel:221c12aafa84d4fbee346dff942a77a49f12942dbfc66775e4037357cc33b2a8"

/-- The subject is resolved and its identity restricted. -/
def restricting : List IdentityServiceCall :=
  [.control (.registerSubjectEvidence "whatsapp" "locator:a" "evidence:a" "subject:a" 100 []),
    .resolve ⟨"whatsapp", "locator:a", "evidence:a", "conversation:a", 10⟩,
    .control (.restrictIdentity restrictedRef "restriction:a")]

/-- A binding is asked for on the evidence from before. -/
def bindingArgs : IssueBindingArgs where
  channel := "whatsapp"
  channelUserRef := "locator:a"
  subjectEvidenceRef := "evidence:a"
  conversationRef := "conversation:b"
  entryContext :=
    { tokenRef := "token:a"
      merchantRef := "merchant:a"
      locationRef := "location:a"
      tableRef := none
      diningAreaRef := none
      purpose := .merchantDiscovery
      projection := Fixture.projection }
  nowEpoch := 20
  expiresAtEpoch := 50

local instance : Hmac := ⟨fun _ _ => subjectDigest⟩

/-- The service with the key `secret`. -/
def boundService : ChannelIdentityService := ⟨"secret", by decide⟩

theorem restricted_isBound : ¬ History.Each (fun before call =>
    RestrictedIn boundService Fixture.lengthRefs restrictedRef before →
      ¬ ActsOn boundService ((start Fixture.lengthRefs).run boundService before) restrictedRef call)
    (restricting ++ [.issueSessionIdentityBinding bindingArgs]) := by
  intro h
  obtain ⟨-, hacts⟩ := History.each_concat.mp h
  have hrestricted : (((start Fixture.lengthRefs).run boundService (restricting.take 2)).port
      |>.restrictIdentity restrictedRef "restriction:a").1.isOk = true := by
    decide +kernel
  have hissued : (exec handle (boundService.issueSessionIdentityBinding bindingArgs)
      ((start Fixture.lengthRefs).run boundService restricting)).1.toOption.map (·.identityRef) =
        some restrictedRef := by
    decide +kernel
  obtain ⟨identity, hidentity⟩ := exists_ok_of_isOk hrestricted
  obtain ⟨record, hrecord, href⟩ := Option.map_eq_some_iff.mp hissued
  exact hacts ⟨restricting.take 2, "restriction:a", [], identity, rfl, hidentity⟩
    ⟨record, ok_of_toOption hrecord, href⟩

end IdentityDesk

end XbosCustomerChannel
