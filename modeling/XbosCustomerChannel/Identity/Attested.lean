import XbosCustomerChannel.Identity.Assurance
import XbosCustomerChannel.Identity.Restriction

/-!
# Whom an identity can be linked to

What makes a party the party of an identity is registered with the fixture from outside: evidence of a
subject, which names the candidates, and evidence of a verification. A call of the channel only presents
it. So behind every party that is linked stand three calls of the run: one that presented evidence in
which the party is named, for this channel and subject, one that presented a verification of this
identity, and one that asked for the link.
-/

namespace XbosCustomerChannel

open Effects Effects.Program Data

/-! ## What is presented -/

/-- The evidence of a subject that a call registers. -/
def IdentityServiceCall.subjectEvidence? (evidenceRef : String) :
    IdentityServiceCall → Option (String × String × ChannelSubjectResolution)
  | .control (.registerSubjectEvidence channel channelUserRef subjectEvidenceRef
      canonicalChannelSubjectRef expiresAtEpoch candidatePartyRefs) =>
      if (channel = "" ∨ channelUserRef = "" ∨ subjectEvidenceRef = "" ∨
          canonicalChannelSubjectRef = "") ∨ subjectEvidenceRef ≠ evidenceRef then none
      else some (channel, channelUserRef,
        { channel
          canonicalChannelSubjectRef
          subjectAttestationRef := "subject_attestation:fixture:" ++ subjectEvidenceRef
          expiresAtEpoch
          candidatePartyRefs })
  | _ => none

/-- The channel, the user, the evidence and the time of a call that presents evidence of a subject. -/
def IdentityServiceCall.presents? :
    IdentityServiceCall → Option (String × String × String × Int)
  | .resolve args =>
      some (args.channel, args.channelUserRef, args.subjectEvidenceRef, args.nowEpoch)
  | .issueSessionIdentityBinding args =>
      some (args.channel, args.channelUserRef, args.subjectEvidenceRef, args.nowEpoch)
  | _ => none

namespace IdentityAuthority

/-- The evidence that stands under a reference after these calls. -/
def standing (calls : List IdentityServiceCall) (evidenceRef : String) :
    Option (String × String × ChannelSubjectResolution) :=
  History.lastSome? (IdentityServiceCall.subjectEvidence? evidenceRef) calls

/-- Evidence that stood, for the user of that channel, was presented before it expired; the party is a
candidate of it. -/
def Named (calls : List IdentityServiceCall) (subject : String × String) (partyRef : String) : Prop :=
  History.Occurs (fun before call => ∃ channelUserRef evidenceRef now resolution,
    call.presents? = some (subject.1, channelUserRef, evidenceRef, now) ∧
      standing before evidenceRef = some (subject.1, channelUserRef, resolution) ∧
      resolution.canonicalChannelSubjectRef = subject.2 ∧ now < resolution.expiresAtEpoch ∧
      partyRef ∈ resolution.candidatePartyRefs) calls

/-- Evidence that was registered for the identity was presented before it expired. -/
def Verified (calls : List IdentityServiceCall) (identityRef evidenceRef : String) : Prop :=
  History.Occurs (fun before call => ∃ now expiresAtEpoch,
    call = .verify identityRef evidenceRef now ∧ now < expiresAtEpoch ∧
      .control (.registerVerificationEvidence identityRef evidenceRef expiresAtEpoch) ∈ before) calls

/-- The party was asked for under the verification, in a context, when it was named and the identity
verified. -/
def Linked (calls : List IdentityServiceCall) (identityRef : String) (subject : String × String)
    (partyRef : String) : Prop :=
  History.Occurs (fun before call => ∃ evidenceRef entryContext,
    call = .link identityRef partyRef ("verification:fixture:" ++ evidenceRef) entryContext ∧
      entryContext.merchantRef ≠ "" ∧ entryContext.contextBindingRef ≠ "" ∧
      Named before subject partyRef ∧ Verified before identityRef evidenceRef) calls

end IdentityAuthority

/-! ## What a call asks of the fixture -/

namespace ChannelIdentityService

variable (ids : ChannelIdentityService) [Hmac] (d : IdentityFixture)

/-- The fixture is asked for the identity of the subject that was resolved, or left as it is. -/
theorem resolveSubjectAndIdentity_port (channel user evidence conversation : String) (now : Int) :
    (exec IdentityDesk.handle
      (ids.resolveSubjectAndIdentity channel user evidence conversation now) d).2.port = d.port ∨
    ∃ resolution, d.port.resolveChannelSubject channel user evidence now = .ok resolution ∧
      (exec IdentityDesk.handle
        (ids.resolveSubjectAndIdentity channel user evidence conversation now) d).2.port =
        d.port.after (.resolveIdentity channel
          (ids.identityRefOf (channel, resolution.canonicalChannelSubjectRef))
          resolution.canonicalChannelSubjectRef resolution.subjectAttestationRef conversation
          resolution.candidatePartyRefs) := by
  unfold resolveSubjectAndIdentity
  rw [exec_askIdentity_bind]
  dsimp only [IdentityDesk.handle, CustomerIdentityPort.resolveChannelSubject]
  cases hresolved : d.port.resolveChannelSubject channel user evidence now with
  | error e => exact Or.inl rfl
  | ok resolution =>
      rw [exec_bind_ok _ (by rw [exec_ofExcept]), exec_raiseIf_bind]
      split
      · exact Or.inl rfl
      rw [exec_raiseIf_bind]
      split
      · exact Or.inl rfl
      rw [ids.hashChannelUserRef_eq, ofExcept_ok, done_bind, exec_askIdentity_bind]
      refine Or.inr ⟨resolution, rfl, ?_⟩
      -- what is left checks the answer
      refine exec_keeps IdentityDesk.handle (A := fun _ => False) (fun op d hop => hop.elim) ?_ _
      refine Uses.bind (Uses.ofExcept _) fun identity => ?_
      exact Uses.bind (Uses.raiseIf _ _) fun _ => Uses.bind (Uses.raiseIf _ _) fun _ => Uses.done _

theorem resolve_port (args : ResolveIdentityArgs) :
    (exec IdentityDesk.handle (ids.resolve args) d).2.port =
      (exec IdentityDesk.handle (ids.resolveSubjectAndIdentity args.channel args.channelUserRef
        args.subjectEvidenceRef args.conversationRef args.nowEpoch) d).2.port := by
  unfold resolve
  rw [exec_bind]
  split
  · next hres => rw [hres]; rfl
  · next hres => rw [hres]

/-- A binding is issued without the fixture. -/
theorem issueSessionIdentityBinding_port (args : IssueBindingArgs) :
    (exec IdentityDesk.handle (ids.issueSessionIdentityBinding args) d).2.port =
      (exec IdentityDesk.handle (ids.resolveSubjectAndIdentity args.channel args.channelUserRef
        args.subjectEvidenceRef args.conversationRef args.nowEpoch) d).2.port := by
  unfold issueSessionIdentityBinding
  rw [exec_bind]
  split
  · next found d' hres =>
    rw [hres]
    refine exec_keeps IdentityDesk.handle (A := fun op => ∃ terms, op = .issueBinding terms) ?_ ?_ d'
    · rintro op d ⟨terms, rfl⟩
      rfl
    · refine Uses.bind (Uses.raiseIf _ _) fun _ => Uses.bind (Uses.raiseIf _ _) fun _ => ?_
      exact Uses.bind ⟨⟨_, rfl⟩, fun _ => trivial⟩ fun _ => Uses.ofExcept _
  · next hres => rw [hres]

/-- A call that presents evidence asks for the identity of its subject, or leaves the fixture. -/
theorem serve_presents {call : IdentityServiceCall} {channel user evidence : String} {now : Int}
    (h : call.presents? = some (channel, user, evidence, now)) :
    (d.serve ids call).port = d.port ∨
    ∃ resolution conversation,
      d.port.resolveChannelSubject channel user evidence now = .ok resolution ∧
      (d.serve ids call).port = d.port.after (.resolveIdentity channel
        (ids.identityRefOf (channel, resolution.canonicalChannelSubjectRef))
        resolution.canonicalChannelSubjectRef resolution.subjectAttestationRef conversation
        resolution.candidatePartyRefs) := by
  cases call with
  | resolve args =>
      obtain ⟨rfl, rfl, rfl, rfl⟩ := by simpa [IdentityServiceCall.presents?] using h
      show (exec IdentityDesk.handle (ids.resolve args) d).2.port = _ ∨ _
      rcases ids.resolveSubjectAndIdentity_port d args.channel args.channelUserRef
        args.subjectEvidenceRef args.conversationRef args.nowEpoch with hsame |
          ⟨resolution, hresolved, hasked⟩
      · exact Or.inl ((ids.resolve_port d args).trans hsame)
      · exact Or.inr ⟨resolution, _, hresolved, (ids.resolve_port d args).trans hasked⟩
  | issueSessionIdentityBinding args =>
      obtain ⟨rfl, rfl, rfl, rfl⟩ := by simpa [IdentityServiceCall.presents?] using h
      show (exec IdentityDesk.handle (ids.issueSessionIdentityBinding args) d).2.port = _ ∨ _
      rcases ids.resolveSubjectAndIdentity_port d args.channel args.channelUserRef
        args.subjectEvidenceRef args.conversationRef args.nowEpoch with hsame |
          ⟨resolution, hresolved, hasked⟩
      · exact Or.inl ((ids.issueSessionIdentityBinding_port d args).trans hsame)
      · exact Or.inr ⟨resolution, _, hresolved,
          (ids.issueSessionIdentityBinding_port d args).trans hasked⟩
  | verify => cases h
  | link => cases h
  | setConsent => cases h
  | control => cases h

end ChannelIdentityService

/-! ## What the methods check -/

namespace FakeCustomerIdentityService

variable {s : FakeCustomerIdentityService}

theorem mem_candidatesOf {c : PartyCandidate} {candidates : List String}
    (h : c ∈ candidatesOf candidates) : c.partyRef ∈ candidates := by
  obtain ⟨⟨party, i⟩, hmem, rfl⟩ := List.mem_map.mp h
  exact List.fst_mem_of_mem_zipIdx hmem

variable (s)

/-- A party is linked that is a candidate of the identity, under its verification. -/
theorem linkVerifiedParty_cases (ref party verification : String) (tenant : Option String)
    (merchant contextBinding : String) :
    (s.linkVerifiedParty ref party verification tenant merchant contextBinding).2 = s ∨
    ∃ current, s.identities.get? ref = some current ∧
      current.verificationRef = some verification ∧
      (∃ c ∈ current.candidates, c.partyRef = party) ∧ merchant ≠ "" ∧ contextBinding ≠ "" ∧
      (s.linkVerifiedParty ref party verification tenant merchant contextBinding).2 =
        s.store ref (linked current party tenant merchant contextBinding) := by
  unfold linkVerifiedParty
  cases hrequire : s.require ref with
  | error e => exact Or.inl rfl
  | ok current =>
      dsimp only
      split
      · exact Or.inl rfl
      split
      · exact Or.inl rfl
      next hverification =>
      split
      · exact Or.inl rfl
      next hcandidate =>
      split
      · exact Or.inl rfl
      next hcontext =>
      obtain ⟨hmerchant, hcontext⟩ := not_or.mp hcontext
      exact Or.inr ⟨current, require_ok.mp hrequire, not_not.mp hverification,
        List.mem_map.mp (not_not.mp hcandidate), hmerchant, hcontext, rfl⟩

end FakeCustomerIdentityService

/-! ## What stands behind an identity -/

namespace IdentityAuthority

open FakeCustomerIdentityService

variable {calls : List IdentityServiceCall} {s s' : FakeCustomerIdentityService} {ref : String}

/-- Behind the candidates, the verification and the party of an identity stand calls of the run. -/
structure Backed (calls : List IdentityServiceCall) (ref : String) (i : ChannelIdentity) : Prop where
  named : ∀ c ∈ i.candidates, Named calls i.subject c.partyRef
  verified : ∀ v, i.verificationRef = some v →
    ∃ evidenceRef, v = "verification:fixture:" ++ evidenceRef ∧ Verified calls ref evidenceRef
  linked : ∀ party, i.linkedPartyRef = some party → Linked calls ref i.subject party

/-- The tables hold what was registered and presented. -/
structure Attested (calls : List IdentityServiceCall) (s : FakeCustomerIdentityService) : Prop where
  evidence : ∀ evidenceRef, s.subjectEvidence.get? evidenceRef = standing calls evidenceRef
  verification : ∀ evidenceRef ref subject expires,
    s.verificationEvidence.get? evidenceRef = some (ref, subject, expires) →
      .control (.registerVerificationEvidence ref evidenceRef expires) ∈ calls
  identities : ∀ ref i, s.identities.get? ref = some i → Backed calls ref i

theorem Backed.append {i : ChannelIdentity} (h : Backed calls ref i)
    (calls' : List IdentityServiceCall) : Backed (calls ++ calls') ref i where
  named c hc := (h.named c hc).append calls'
  verified v hv := by
    obtain ⟨evidenceRef, heq, hverified⟩ := h.verified v hv
    exact ⟨evidenceRef, heq, hverified.append calls'⟩
  linked party hparty := (h.linked party hparty).append calls'

theorem standing_concat (call : IdentityServiceCall) (evidenceRef : String) :
    standing (calls ++ [call]) evidenceRef =
      (call.subjectEvidence? evidenceRef).or (standing calls evidenceRef) :=
  History.lastSome?_concat calls call

theorem attested_nil : Attested [] {} where
  evidence _ := rfl
  verification _ _ _ _ h := by cases h
  identities _ _ h := by cases h

/-- A call that registers nothing leaves the evidence. -/
theorem Attested.kept (h : Attested calls s) {call : IdentityServiceCall}
    (hregisters : ∀ evidenceRef, call.subjectEvidence? evidenceRef = none)
    (hsubject : s'.subjectEvidence = s.subjectEvidence)
    (hverification : s'.verificationEvidence = s.verificationEvidence)
    (hidentities : ∀ ref i, s'.identities.get? ref = some i → Backed (calls ++ [call]) ref i) :
    Attested (calls ++ [call]) s' where
  evidence evidenceRef := by
    rw [standing_concat, hregisters, hsubject, h.evidence]
    rfl
  verification evidenceRef ref subject expires hget := by
    rw [hverification] at hget
    exact List.mem_append_left _ (h.verification _ _ _ _ hget)
  identities := hidentities

/-- One identity is another, the others are as they were. -/
theorem Attested.backed_set (h : Attested calls s) {call : IdentityServiceCall}
    {updated : ChannelIdentity} (hidentities : s'.identities = s.identities.set ref updated)
    (hupdated : Backed (calls ++ [call]) ref updated) :
    ∀ ref i, s'.identities.get? ref = some i → Backed (calls ++ [call]) ref i := by
  intro ref' i hget
  rw [hidentities, Dict.get?_set] at hget
  split at hget
  · next heq =>
    obtain rfl := Option.some.inj hget
    rw [heq]
    exact hupdated
  · exact (h.identities ref' i hget).append [call]

theorem Attested.backed_same (h : Attested calls s) {call : IdentityServiceCall}
    (hidentities : s'.identities = s.identities) :
    ∀ ref i, s'.identities.get? ref = some i → Backed (calls ++ [call]) ref i := by
  intro ref i hget
  rw [hidentities] at hget
  exact (h.identities ref i hget).append [call]

/-! ## One step for each call -/

theorem Attested.resolved (h : Attested calls s) {call : IdentityServiceCall}
    (hregisters : ∀ evidenceRef, call.subjectEvidence? evidenceRef = none)
    {channel subject : String} {candidates : List String}
    (hnamed : ∀ party ∈ candidates, Named (calls ++ [call]) (channel, subject) party)
    (ref attestation conversation : String) :
    Attested (calls ++ [call])
      (s.resolveIdentity channel ref subject attestation conversation candidates).2 := by
  have honly := s.resolveIdentity_only channel ref subject attestation conversation candidates
  refine h.kept hregisters (by rw [honly]) (by rw [honly]) ?_
  cases s.resolveIdentity_effect channel ref subject attestation conversation candidates with
  | same _ hidentities _ => exact h.backed_same hidentities
  | opened ref' attestation' conversation' candidates' identity _ hrequest hidentity _ _
      hidentities _ =>
      injection hrequest with hchannel href hsubject hattestation hconversation hcandidates
      subst hcandidates
      refine h.backed_set hidentities ?_
      rw [hchannel, hsubject] at hnamed
      rw [hidentity]
      refine ⟨fun c hc => hnamed _ (mem_candidatesOf hc), fun v hv => ?_, fun party hparty => ?_⟩
      · cases hv
      · cases hparty
  | changed ref' current updated _ hcurrent hchange hidentities _ =>
      refine h.backed_set hidentities ?_
      cases hchange with
      | refreshed =>
          have hbacked := (h.identities _ _ hcurrent).append [call]
          refine ⟨fun c hc => ?_, hbacked.verified, hbacked.linked⟩
          dsimp only [refreshed] at hc
          split at hc
          · exact hbacked.named c hc
          · exact hnamed _ (mem_candidatesOf hc)

theorem Attested.verified (h : Attested calls s) (ref evidenceRef : String) (now : Int) :
    Attested (calls ++ [.verify ref evidenceRef now]) (s.verifyIdentity ref evidenceRef now).2 := by
  have honly := s.verifyIdentity_only ref evidenceRef now
  refine h.kept (fun _ => rfl) (by rw [honly]) (by rw [honly]) ?_
  cases s.verifyIdentity_effect ref evidenceRef now with
  | same _ hidentities _ => exact h.backed_same hidentities
  | opened _ _ _ _ _ _ hrequest => cases hrequest
  | changed ref' current updated _ hcurrent hchange hidentities _ =>
      refine h.backed_set hidentities ?_
      cases hchange with
      | verified _ _ _ _ hstate hstands =>
          obtain ⟨expires, hregistered, hlive⟩ := hstands
          have hbacked := (h.identities _ _ hcurrent).append [.verify ref evidenceRef now]
          refine ⟨hbacked.named, fun v hv => ?_, hbacked.linked⟩
          obtain rfl := Option.some.inj hv
          exact ⟨evidenceRef, rfl, History.occurs_concat
            ⟨now, expires, rfl, hlive, h.verification _ _ _ _ hregistered⟩⟩

theorem Attested.linked (h : Attested calls s) (ref party verification : String)
    (entryContext : ResolvedEntryContext) :
    Attested (calls ++ [.link ref party verification entryContext])
      (s.linkVerifiedParty ref party verification entryContext.tenantRef entryContext.merchantRef
        entryContext.contextBindingRef).2 := by
  have honly := s.linkVerifiedParty_only ref party verification entryContext.tenantRef
    entryContext.merchantRef entryContext.contextBindingRef
  refine h.kept (fun _ => rfl) (by rw [honly]) (by rw [honly]) ?_
  rcases s.linkVerifiedParty_cases ref party verification entryContext.tenantRef
    entryContext.merchantRef entryContext.contextBindingRef with
    hsame | ⟨current, hcurrent, hverification, ⟨c, hc, rfl⟩, hmerchant, hcontext, hlinked⟩
  · rw [hsame]
    exact h.backed_same rfl
  · rw [hlinked]
    refine h.backed_set rfl ?_
    have hnow := h.identities _ _ hcurrent
    have hbacked := hnow.append [.link ref c.partyRef verification entryContext]
    refine ⟨hbacked.named, hbacked.verified, fun party hparty => ?_⟩
    obtain rfl := Option.some.inj hparty
    obtain ⟨evidenceRef, rfl, hverified⟩ := hnow.verified _ hverification
    exact History.occurs_concat
      ⟨evidenceRef, entryContext, rfl, hmerchant, hcontext, hnow.named c hc, hverified⟩

theorem Attested.registered (h : Attested calls s) (channel user evidence subject : String)
    (expires : Int) (candidates : List String) :
    Attested (calls ++ [.control (.registerSubjectEvidence channel user evidence subject expires
        candidates)])
      (s.registerSubjectEvidence channel user evidence subject expires candidates).2 := by
  refine ⟨fun evidenceRef => ?_, fun evidenceRef ref subject' expires' hget => ?_, ?_⟩
  · rw [standing_concat, ← h.evidence]
    unfold registerSubjectEvidence
    by_cases hempty : channel = "" ∨ user = "" ∨ evidence = "" ∨ subject = ""
    · rw [if_pos hempty]
      simp [IdentityServiceCall.subjectEvidence?, hempty]
    · rw [if_neg hempty]
      show (s.subjectEvidence.set evidence _).get? evidenceRef = _
      rw [Dict.get?_set]
      by_cases heq : evidence = evidenceRef
      · subst heq
        simp [IdentityServiceCall.subjectEvidence?, hempty]
      · simp [IdentityServiceCall.subjectEvidence?, heq, Ne.symm heq]
  · have hkept : (s.registerSubjectEvidence channel user evidence subject expires
        candidates).2.verificationEvidence = s.verificationEvidence := by
      unfold registerSubjectEvidence
      split
      · rfl
      · rfl
    rw [hkept] at hget
    exact List.mem_append_left _ (h.verification _ _ _ _ hget)
  · exact h.backed_same
      (s.registerSubjectEvidence_same channel user evidence subject expires candidates).identities

theorem Attested.verifiable (h : Attested calls s) (ref evidence : String) (expires : Int) :
    Attested (calls ++ [.control (.registerVerificationEvidence ref evidence expires)])
      (s.registerVerificationEvidence ref evidence expires).2 := by
  refine ⟨fun evidenceRef => ?_, fun evidenceRef ref' subject expires' hget => ?_, ?_⟩
  · have hkept : (s.registerVerificationEvidence ref evidence expires).2.subjectEvidence =
        s.subjectEvidence := by
      unfold registerVerificationEvidence
      split
      · rfl
      · rfl
    rw [standing_concat, hkept, h.evidence]
    rfl
  · unfold registerVerificationEvidence at hget
    split at hget
    · exact List.mem_append_left _ (h.verification _ _ _ _ hget)
    · have hget : (s.verificationEvidence.set evidence _).get? evidenceRef = _ := hget
      rw [Dict.get?_set] at hget
      split at hget
      · next heq =>
        obtain ⟨rfl, -, rfl⟩ := by simpa using hget
        rw [heq]
        exact List.mem_append_right _ List.mem_cons_self
      · exact List.mem_append_left _ (h.verification _ _ _ _ hget)
  · exact h.backed_same (s.registerVerificationEvidence_same ref evidence expires).identities

theorem Attested.restricted (h : Attested calls s) (ref restriction : String) :
    Attested (calls ++ [.control (.restrictIdentity ref restriction)])
      (s.restrictIdentity ref restriction).2 := by
  have honly := s.restrictIdentity_only ref restriction
  refine h.kept (fun _ => rfl) (by rw [honly]) (by rw [honly]) ?_
  cases s.restrictIdentity_effect ref restriction with
  | same _ hidentities _ => exact h.backed_same hidentities
  | opened _ _ _ _ _ _ hrequest => cases hrequest
  | changed _ current updated _ hcurrent hchange hidentities _ =>
      refine h.backed_set hidentities ?_
      cases hchange with
      | restricted =>
          have hbacked := (h.identities _ _ hcurrent).append
            [.control (.restrictIdentity ref restriction)]
          exact ⟨hbacked.named, hbacked.verified, hbacked.linked⟩

theorem Attested.consented (h : Attested calls s) (args : ConsentArgs)
    (fingerprint : ConsentFingerprint) :
    Attested (calls ++ [.setConsent args]) (s.recordConsent fingerprint args.idempotencyKey).2 := by
  have hkept : (s.recordConsent fingerprint args.idempotencyKey).2.subjectEvidence =
        s.subjectEvidence ∧
      (s.recordConsent fingerprint args.idempotencyKey).2.verificationEvidence =
        s.verificationEvidence := by
    unfold recordConsent
    split
    · exact ⟨rfl, rfl⟩
    split
    · exact ⟨rfl, rfl⟩
    split
    · split
      · exact ⟨rfl, rfl⟩
      · exact ⟨rfl, rfl⟩
    · exact ⟨rfl, rfl⟩
  exact h.kept (fun _ => rfl) hkept.1 hkept.2
    (h.backed_same (s.recordConsent_same fingerprint args.idempotencyKey).identities)

/-! ## Runs -/

section Runs

variable (ids : ChannelIdentityService) [Hmac] {d : IdentityFixture}

theorem Attested.presented (h : Attested calls d.port) {call : IdentityServiceCall}
    {channel user evidence : String} {now : Int}
    (hpresents : call.presents? = some (channel, user, evidence, now)) :
    Attested (calls ++ [call]) (d.serve ids call).port := by
  have hregisters (evidenceRef : String) : call.subjectEvidence? evidenceRef = none := by
    cases call with
    | control => cases hpresents
    | _ => rfl
  rcases ids.serve_presents d hpresents with
    hsame | ⟨resolution, conversation, hresolved, hasked⟩
  · rw [hsame]
    exact h.kept hregisters rfl rfl (h.backed_same rfl)
  · rw [hasked]
    obtain ⟨hevidence, hlive⟩ := resolveChannelSubject_ok.mp hresolved
    apply h.resolved hregisters
    intro party hparty
    rw [h.evidence] at hevidence
    exact History.occurs_concat
      ⟨user, evidence, now, resolution, hpresents, hevidence, rfl, hlive, hparty⟩

theorem Attested.serve (h : Attested calls d.port) (call : IdentityServiceCall) :
    Attested (calls ++ [call]) (d.serve ids call).port := by
  cases call with
  | resolve args => exact h.presented ids rfl
  | issueSessionIdentityBinding args => exact h.presented ids rfl
  | verify ref evidence now => exact h.verified ref evidence now
  | link ref party verification entryContext => exact h.linked ref party verification entryContext
  | setConsent args => exact h.consented args _
  | control control =>
      cases control with
      | registerSubjectEvidence => exact h.registered _ _ _ _ _ _
      | registerVerificationEvidence => exact h.verifiable _ _ _
      | restrictIdentity => exact h.restricted _ _
      | setPolicyVersion purpose version =>
          show Attested _ (d.port.setPolicyVersion purpose version).2
          unfold setPolicyVersion
          split
          · exact h.kept (fun _ => rfl) rfl rfl (h.backed_same rfl)
          · exact h.kept (fun _ => rfl) rfl rfl (h.backed_same rfl)

theorem attested_run (refs : RefSource) (calls : List IdentityServiceCall) :
    Attested calls ((IdentityDesk.start refs).run ids calls).port := by
  induction calls using List.reverseRecOn with
  | nil => exact attested_nil
  | append_singleton calls call ih =>
      rw [IdentityDesk.run_concat]
      exact ih.serve ids call

/-- In every run of the service over the fixture, whatever is registered, presented, linked and restricted
in between: a party that is linked to an identity was asked for, in a context, at a point of the run
where evidence of the channel and the subject of that identity had been presented while it stood and
before it expired, naming the party as a candidate, and where a verification registered for that identity
had been presented before it expired; it is the verification the link was asked for under. -/
theorem linked_party_attested (refs : RefSource) (calls : List IdentityServiceCall) {ref party : String}
    {i : ChannelIdentity}
    (hget : ((IdentityDesk.start refs).run ids calls).port.identities.get? ref = some i)
    (hparty : i.linkedPartyRef = some party) : Linked calls ref i.subject party :=
  ((attested_run ids refs calls).identities ref i hget).linked party hparty

end Runs

/-! ## A party that is linked -/

local instance subjectHmac : Hmac := ⟨fun _ _ => IdentityDesk.subjectDigest⟩

/-- The identity of the subject. -/
def attestedRef : String := IdentityDesk.boundService.identityRefOf ("whatsapp", "subject:a")

/-- The subject is resolved with one candidate, and its identity verified and linked. -/
def attesting : List IdentityServiceCall :=
  [.control (.registerSubjectEvidence "whatsapp" "locator:a" "evidence:a" "subject:a" 100
      ["party:1"]),
    .resolve ⟨"whatsapp", "locator:a", "evidence:a", "conversation:a", 10⟩,
    .control (.registerVerificationEvidence attestedRef "verification:a" 100),
    .verify attestedRef "verification:a" 20,
    .link attestedRef "party:1" "verification:fixture:verification:a" Fixture.entry]

theorem linked_party_attested_once : ∃ i : ChannelIdentity,
    ((IdentityDesk.start Fixture.lengthRefs).run IdentityDesk.boundService
      attesting).port.identities.get? attestedRef = some i ∧
    Linked attesting attestedRef i.subject "party:1" := by
  have hparty : ((IdentityDesk.start Fixture.lengthRefs).run IdentityDesk.boundService
      attesting).port.partyOf attestedRef = some "party:1" := by
    decide +kernel
  obtain ⟨i, hget, hparty⟩ := Option.bind_eq_some_iff.mp hparty
  exact ⟨i, hget, linked_party_attested IdentityDesk.boundService Fixture.lengthRefs attesting hget
    hparty⟩

end IdentityAuthority

end XbosCustomerChannel
