import XbosCustomerChannel.Identity.Run

/-!
# One identity for each subject

The two tables of the fixture invert each other, in every run: an identity is opened for a subject
only if the subject has none and its reference is free. So a reference stands for one subject, however
references are derived; nothing is assumed of the digest.
-/

namespace XbosCustomerChannel

open Effects Effects.Program Data

namespace FakeCustomerIdentityService

/-- The table of subjects and the table of identities invert each other. -/
def Corresponding (s : FakeCustomerIdentityService) : Prop :=
  Dict.Inverse s.subjectBindings s.identities ChannelIdentity.subject

/-- A request keeps the tables inverse, and a subject that is bound stays bound as it is. -/
theorem Corresponding.after {s : FakeCustomerIdentityService} (h : s.Corresponding)
    (request : IdentityRequest) :
    (s.after request).Corresponding ∧ s.subjectBindings.Extends (s.after request).subjectBindings := by
  unfold Corresponding
  cases s.after_effect request with
  | same _ hidentities hbindings =>
      rw [hidentities, hbindings]
      exact ⟨h, .refl _⟩
  | opened ref attestation conversation candidates identity _ _ _ hbound hfree hidentities
      hbindings =>
      -- a subject bound to the reference would have an identity under it
      have hunbound : s.subjectBindings.get? identity.subject = none := by
        refine hbound.resolve_right fun hbound => ?_
        obtain ⟨current, hcurrent, -⟩ := (h _ _).mp hbound
        rw [hfree] at hcurrent
        cases hcurrent
      rw [hidentities, hbindings]
      exact ⟨h.enter hunbound hfree, .set_of_none hunbound _⟩
  | changed ref current updated _ hcurrent hchange hidentities hbindings =>
      have hbound : s.subjectBindings.get? current.subject = some ref :=
        (h _ _).mpr ⟨current, hcurrent, rfl⟩
      have hreplaced := h.replace hcurrent hchange.subject
      rw [hidentities]
      rcases hbindings with hbindings | hbindings
      · rw [hbindings]
        exact ⟨hreplaced, .refl _⟩
      · rw [hbindings]
        refine ⟨hreplaced.rebind hbound, fun subject ref' hsubject => ?_⟩
        rw [Dict.get?_set]
        split
        · next heq => rw [← hsubject, heq, hbound]
        · exact hsubject

/-- An identity that is resolved is filed under its reference, and its subject is bound to it. -/
theorem resolveIdentity_ok {s s' : FakeCustomerIdentityService} {channel ref subject attestation
    conversation : String} {candidates : List String} {identity : ChannelIdentity}
    (h : s.resolveIdentity channel ref subject attestation conversation candidates =
      (.ok identity, s')) :
    s'.subjectBindings.get? (channel, subject) = some ref ∧ s'.identities.get? ref = some identity := by
  unfold resolveIdentity at h
  dsimp only at h
  split at h
  · cases h
  split at h
  · split at h
    · cases h
    · cases h
      exact ⟨Dict.get?_set_self _ _ _, Dict.get?_set_self _ _ _⟩
  · cases h
    exact ⟨Dict.get?_set_self _ _ _, Dict.get?_set_self _ _ _⟩

end FakeCustomerIdentityService

namespace ChannelIdentityService

variable [Hmac] {ids : ChannelIdentityService} {ι : Type} [CustomerIdentityPort ι]

open CustomerIdentityPort (resolveChannelSubject resolveIdentity)

/-- What a resolution that succeeds went through. -/
theorem resolveSubjectAndIdentity_ok {channel user evidence conversation : String} {now : Int}
    {d d' : IdentityDesk ι} {resolution : ChannelSubjectResolution} {identity : ChannelIdentity}
    (h : exec IdentityDesk.handle (ids.resolveSubjectAndIdentity channel user evidence conversation now)
      d = (.ok (resolution, identity), d')) :
    (resolveChannelSubject d.port channel user evidence now).1 = .ok resolution ∧
      resolution.channel = channel ∧
      resolveIdentity (resolveChannelSubject d.port channel user evidence now).2 channel
        (ids.identityRefOf (channel, resolution.canonicalChannelSubjectRef))
        resolution.canonicalChannelSubjectRef resolution.subjectAttestationRef conversation
        resolution.candidatePartyRefs = (.ok identity, d'.port) ∧
      identity.identityRef = ids.identityRefOf (channel, resolution.canonicalChannelSubjectRef) ∧
      identity.canonicalChannelSubjectRef = resolution.canonicalChannelSubjectRef ∧
      d'.bindings = d.bindings ∧ d'.refs = d.refs := by
  unfold resolveSubjectAndIdentity at h
  rw [exec_askIdentity_bind] at h
  -- each check that passes is one of the facts
  obtain ⟨found, hfound, h⟩ := ofExcept_bind_ok_inv IdentityDesk.handle h
  obtain ⟨hchannel, h⟩ := raiseIf_bind_ok_inv IdentityDesk.handle h
  obtain ⟨-, h⟩ := raiseIf_bind_ok_inv IdentityDesk.handle h
  rw [ids.hashChannelUserRef_eq, ofExcept_ok, done_bind, exec_askIdentity_bind] at h
  obtain ⟨resolved, hresolved, h⟩ := ofExcept_bind_ok_inv IdentityDesk.handle h
  obtain ⟨href, h⟩ := raiseIf_bind_ok_inv IdentityDesk.handle h
  obtain ⟨hsame, h⟩ := raiseIf_bind_ok_inv IdentityDesk.handle h
  cases h
  exact ⟨hfound, not_not.mp hchannel, Prod.ext hresolved rfl, not_not.mp href, not_not.mp hsame, rfl,
    rfl⟩

/-- What an issue that succeeds went through. -/
theorem issueSessionIdentityBinding_ok {args : IssueBindingArgs} {d d' : IdentityDesk ι}
    {record : IdentityBindingRecord}
    (h : exec IdentityDesk.handle (ids.issueSessionIdentityBinding args) d = (.ok record, d')) :
    ∃ resolution identity d₁,
      exec IdentityDesk.handle (ids.resolveSubjectAndIdentity args.channel args.channelUserRef
        args.subjectEvidenceRef args.conversationRef args.nowEpoch) d =
          (.ok (resolution, identity), d₁) ∧
      args.nowEpoch < args.expiresAtEpoch ∧ args.expiresAtEpoch ≤ resolution.expiresAtEpoch ∧
      d₁.bindings.issueBinding d₁.refs (bindingTerms args resolution identity) =
        (.ok record, d'.bindings) ∧
      d'.port = d₁.port := by
  obtain ⟨⟨resolution, identity⟩, d₁, hresolve, hissue⟩ := bind_ok_inv IdentityDesk.handle h
  refine ⟨resolution, identity, d₁, hresolve, ?_⟩
  dsimp only at hissue
  obtain ⟨hfuture, hissue⟩ := raiseIf_bind_ok_inv IdentityDesk.handle hissue
  obtain ⟨houtlives, hissue⟩ := raiseIf_bind_ok_inv IdentityDesk.handle hissue
  rw [exec_askIdentity_bind] at hissue
  dsimp only [IdentityDesk.handle] at hissue
  cases hbinding : d₁.bindings.issueBinding d₁.refs (bindingTerms args resolution identity) with
  | mk answer bindings =>
      rw [hbinding, exec_ofExcept] at hissue
      cases hissue
      exact ⟨not_le.mp hfuture, not_lt.mp houtlives, rfl, rfl⟩

end ChannelIdentityService

/-- A binding is issued on the terms given, to a complete subject, conversation and context. -/
theorem InMemoryIdentityBindingStore.issueBinding_ok {store store' : InMemoryIdentityBindingStore}
    {refs : RefSource} {terms : IdentityBindingTerms} {record : IdentityBindingRecord}
    (h : store.issueBinding refs terms = (.ok record, store')) :
    record.toIdentityBindingTerms = terms ∧ terms.conversationRef ≠ "" ∧ terms.merchantRef ≠ "" ∧
      terms.locationRef ≠ "" ∧ terms.contextBindingRef ≠ "" := by
  unfold issueBinding at h
  split at h
  · cases h
  split at h
  · cases h
  next hconversation =>
  split at h
  · cases h
  next hcontext =>
  split at h
  · cases h
  cases h
  obtain ⟨hmerchant, hlocation, hcontext⟩ := by simpa using hcontext
  exact ⟨rfl, hconversation, hmerchant, hlocation, hcontext⟩

/-! ## Resolutions of a run -/

namespace IdentityDesk

variable [Hmac] {ids : ChannelIdentityService} {d : IdentityFixture}

/-- The subject that a call resolved and the reference it got for it. -/
def resolved (ids : ChannelIdentityService) (d : IdentityFixture) :
    IdentityServiceCall → Option ((String × String) × String)
  | .resolve args =>
      (exec handle (ids.resolve args) d).1.toOption.map fun outcome =>
        ((args.channel, outcome.identity.canonicalChannelSubjectRef), outcome.identity.identityRef)
  | .issueSessionIdentityBinding args =>
      (exec handle (ids.issueSessionIdentityBinding args) d).1.toOption.map fun record =>
        ((args.channel, record.canonicalChannelSubjectRef), record.identityRef)
  | _ => none

/-- A resolution that succeeds leaves its subject bound to its reference. -/
theorem bound_of_resolveSubjectAndIdentity {channel user evidence conversation : String} {now : Int}
    {d' : IdentityFixture} {resolution : ChannelSubjectResolution} {identity : ChannelIdentity}
    (h : exec handle (ids.resolveSubjectAndIdentity channel user evidence conversation now) d =
      (.ok (resolution, identity), d')) :
    d'.port.subjectBindings.get? (channel, resolution.canonicalChannelSubjectRef) =
      some identity.identityRef := by
  obtain ⟨-, -, hresolved, href, -⟩ := ids.resolveSubjectAndIdentity_ok h
  rw [href]
  exact (FakeCustomerIdentityService.resolveIdentity_ok hresolved).1

theorem bound_of_resolve {args : ResolveIdentityArgs} {outcome : IdentityResolutionOutcome}
    {d' : IdentityFixture} (h : exec handle (ids.resolve args) d = (.ok outcome, d')) :
    d'.port.subjectBindings.get? (args.channel, outcome.identity.canonicalChannelSubjectRef) =
      some outcome.identity.identityRef := by
  obtain ⟨⟨resolution, identity⟩, d₁, hresolve, hdone⟩ := bind_ok_inv handle h
  cases hdone
  obtain ⟨-, -, -, -, hsubject, -⟩ := ids.resolveSubjectAndIdentity_ok hresolve
  rw [hsubject]
  exact bound_of_resolveSubjectAndIdentity hresolve

theorem bound_of_issue {args : IssueBindingArgs} {record : IdentityBindingRecord}
    {d' : IdentityFixture}
    (h : exec handle (ids.issueSessionIdentityBinding args) d = (.ok record, d')) :
    d'.port.subjectBindings.get? (args.channel, record.canonicalChannelSubjectRef) =
      some record.identityRef := by
  obtain ⟨resolution, identity, d₁, hresolve, -, -, hissue, hport⟩ :=
    ids.issueSessionIdentityBinding_ok h
  obtain ⟨hterms, -⟩ := InMemoryIdentityBindingStore.issueBinding_ok hissue
  have hsubject : record.canonicalChannelSubjectRef = resolution.canonicalChannelSubjectRef :=
    congrArg IdentityBindingTerms.canonicalChannelSubjectRef hterms
  have href : record.identityRef = identity.identityRef :=
    congrArg IdentityBindingTerms.identityRef hterms
  rw [hport, hsubject, href]
  exact bound_of_resolveSubjectAndIdentity hresolve

/-- A call that resolves a subject leaves it bound to the reference it got. -/
theorem bound_of_resolved {call : IdentityServiceCall} {subject : String × String} {ref : String}
    (h : resolved ids d call = some (subject, ref)) :
    (d.serve ids call).port.subjectBindings.get? subject = some ref := by
  cases call with
  | resolve args =>
      obtain ⟨outcome, hok, heq⟩ := Option.map_eq_some_iff.mp h
      obtain ⟨rfl, rfl⟩ := Prod.mk.inj heq
      exact bound_of_resolve (Prod.ext (ok_of_toOption hok) rfl)
  | issueSessionIdentityBinding args =>
      obtain ⟨record, hok, heq⟩ := Option.map_eq_some_iff.mp h
      obtain ⟨rfl, rfl⟩ := Prod.mk.inj heq
      exact bound_of_issue (Prod.ext (ok_of_toOption hok) rfl)
  | verify => cases h
  | link => cases h
  | setConsent => cases h
  | control => cases h

variable (ids)

theorem run_corresponding (refs : RefSource) (calls : List IdentityServiceCall) :
    ((start refs).run ids calls).port.Corresponding :=
  run_holds ids Dict.inverse_empty (fun _ request _ h => (h.after request).1) refs calls

/-- A subject that is bound at some point of a run is bound so at its end. -/
theorem run_extends (refs : RefSource) (calls calls' : List IdentityServiceCall) :
    ((start refs).run ids calls).port.subjectBindings.Extends
      ((start refs).run ids (calls ++ calls')).port.subjectBindings := by
  rw [run_append]
  have hkeeps := run_keeps ids (d := (start refs).run ids calls)
    (R := fun s s' => s.Corresponding → s'.Corresponding ∧
      s.subjectBindings.Extends s'.subjectBindings)
    (fun s h => ⟨h, .refl _⟩)
    (fun a b c hab hbc ha => ⟨(hbc (hab ha).1).1, (hab ha).2.trans (hbc (hab ha).1).2⟩)
    (fun s request _ h => h.after request) calls'
  exact (hkeeps (run_corresponding ids refs calls)).2

/-- In every run: two resolutions that succeed return one reference exactly if they were for one
channel subject, and the tables of subjects and of identities invert each other. -/
theorem identities_oneToOne (refs : RefSource) (calls : List IdentityServiceCall) :
    (∀ before call after before' call' after' subject ref subject' ref',
      calls = before ++ call :: after → calls = before' ++ call' :: after' →
      resolved ids ((start refs).run ids before) call = some (subject, ref) →
      resolved ids ((start refs).run ids before') call' = some (subject', ref') →
      (ref = ref' ↔ subject = subject')) ∧
    Dict.Inverse ((start refs).run ids calls).port.subjectBindings
      ((start refs).run ids calls).port.identities ChannelIdentity.subject := by
  have hinverse := run_corresponding ids refs calls
  have hbound {before : List IdentityServiceCall} {call : IdentityServiceCall}
      {after : List IdentityServiceCall} {subject : String × String} {ref : String}
      (hcalls : calls = before ++ call :: after)
      (h : resolved ids ((start refs).run ids before) call = some (subject, ref)) :
      ((start refs).run ids calls).port.subjectBindings.get? subject = some ref := by
    have hextends := run_extends ids refs (before ++ [call]) after
    rw [List.append_assoc, List.singleton_append, ← hcalls, run_concat] at hextends
    exact hextends _ _ (bound_of_resolved h)
  refine ⟨?_, hinverse⟩
  intro before call after before' call' after' subject ref subject' ref' hcalls hcalls' h h'
  have hsubject := hbound hcalls h
  have hsubject' := hbound hcalls' h'
  constructor
  · rintro rfl
    obtain ⟨identity, hidentity, rfl⟩ := (hinverse _ _).mp hsubject
    obtain ⟨identity', hidentity', rfl⟩ := (hinverse _ _).mp hsubject'
    rw [Option.some.inj (hidentity.symm.trans hidentity')]
  · rintro rfl
    exact Option.some.inj (hsubject.symm.trans hsubject')

end IdentityDesk

end XbosCustomerChannel
