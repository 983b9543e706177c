import XbosCustomerChannel.Calls

/-!
# What a call does to the stored sessions

Five methods write sessions, and each call of one writes at most once: it stores a change of the
session it read, rotates one, or adds a new one. `SessionEffect` says which, and where the fields of
a change come from. Whatever survives every effect survives every run (`Survives.of_trace`).
-/

namespace XbosCustomerChannel

open Effects Effects.Program Data

variable {π : Type}

/-- The service has obtained the projection for the session as it was stored: from the record of a
handle bound to the session, or from the reconciliation port. -/
inductive Obtained (ops : List (Channel.Op × World π)) (s : CustomerSessionSnapshot)
    (p : UpstreamStateProjection) : Prop
  | handle {w : World π} {ref : String} {record : EvidenceProvenanceRecord}
      (issued : (ChannelOp.provenance (.resolveEvidence ref), w) ∈ ops)
      (stored : w.sessions.sessions.get? s.sessionRef = some s)
      (resolved : w.provenance.resolveEvidence ref = some record)
      (bound : record.binding = bindingFromSession s)
      (projected : record.projection = p)
  | reconciliation {w : World π}
      (issued : (ChannelOp.upstream (.reconcileSession s), w) ∈ ops)
      (stored : w.sessions.sessions.get? s.sessionRef = some s)
      (answered : w.upstream.reconcileSession s = .ok (some p))

theorem Obtained.mono {ops ops' : List (Channel.Op × World π)} {s : CustomerSessionSnapshot}
    {p : UpstreamStateProjection} (h : Obtained ops s p) (hsub : ops ⊆ ops') :
    Obtained ops' s p := by
  cases h with
  | handle issued stored resolved bound projected =>
      exact .handle (hsub issued) stored resolved bound projected
  | reconciliation issued stored answered => exact .reconciliation (hsub issued) stored answered

/-- Where the fields of a change come from. -/
inductive Backed (ops : List (Channel.Op × World π)) (current : CustomerSessionSnapshot)
    (changes : SessionChanges) : Prop
  /-- Nothing that evidence is needed for. -/
  | unaided (state : ∀ s, changes.state = some s → s.evidenceGated = false)
      (orderRef : changes.orderRef = none) (paymentRef : changes.paymentRef = none)
      (evidence : changes.lastUpstreamEvidenceRef = none)
  /-- A projection that matches the session and supports the state. -/
  | evidence {state : ChannelState} {p : UpstreamStateProjection}
      (obtained : Obtained ops current p)
      (matched : assertEvidenceMatchesSession current p = .ok ())
      (supports : state.evidenceGated = true → assertProjectionSupports state p = .ok ())
      (state : changes.state = some state) (orderRef : changes.orderRef = p.orderRef)
      (paymentRef : changes.paymentRef = p.paymentRef)
      (evidence : changes.lastUpstreamEvidenceRef = some p.evidenceRef)

/-- What a call that issued `ops` did to the stored sessions. -/
inductive SessionEffect (ops : List (Channel.Op × World π)) (w w' : World π) : Prop
  | kept (sessions : w'.sessions.sessions = w.sessions.sessions)
      (aliases : w'.sessions.aliases = w.sessions.aliases)
  | changed {current : CustomerSessionSnapshot} {changes : SessionChanges}
      (stored : w.sessions.sessions.get? current.sessionRef = some current)
      (backed : Backed ops current changes)
      (sessions : w'.sessions.sessions =
        w.sessions.sessions.set current.sessionRef (current.replace changes))
      (aliases : w'.sessions.aliases = w.sessions.aliases)
  | rotated {current : CustomerSessionSnapshot} {now : Int} {newRef : String}
      (stored : w.sessions.sessions.get? current.sessionRef = some current)
      (active : current.staleOrRotated = false)
      (fresh : newRef ∉ w.sessions.sessions.keys ++ w.sessions.aliases.keys)
      (sessions : w'.sessions.sessions =
        (w.sessions.sessions.set current.sessionRef
          { current with
            invalidatedAtEpoch := some now
            rotatedToSessionRef := some newRef }).set newRef
          (CustomerSessionService.replacementFor current newRef))
      (aliases : w'.sessions.aliases = w.sessions.aliases)
  | created {s : CustomerSessionSnapshot} (newborn : CustomerSessionService.Newborn s s.sessionRef)
      (fresh : s.sessionRef ∉ w.sessions.sessions.keys ++ w.sessions.aliases.keys)
      (sessions : w'.sessions.sessions = w.sessions.sessions.set s.sessionRef s)
      (aliases : w'.sessions.aliases = w.sessions.aliases ∨
        ∃ a, w'.sessions.sessions.get? a = none ∧ w.sessions.aliases.get? a = none ∧
          w'.sessions.aliases = w.sessions.aliases.set a s.sessionRef)
      (bound : s.securityBindingComplete = true → CustomerSessionService.Bound ops s)

/-- A reference that is new to a world names none of its sessions. -/
theorem World.ne_of_fresh {w : World π} {key newRef : String} {s : CustomerSessionSnapshot}
    (hs : w.sessions.sessions.get? key = some s)
    (hfresh : newRef ∉ w.sessions.sessions.keys ++ w.sessions.aliases.keys) : key ≠ newRef := by
  rintro rfl
  exact hfresh (List.mem_append_left _ (Dict.mem_keys_of_get? hs))

/-- Where a session that is stored after an effect comes from. -/
inductive StoredAfter (ops : List (Channel.Op × World π)) (w w' : World π) :
    String → CustomerSessionSnapshot → Prop
  | same {key : String} {s : CustomerSessionSnapshot}
      (stored : w.sessions.sessions.get? key = some s) : StoredAfter ops w w' key s
  | changed {current : CustomerSessionSnapshot} {changes : SessionChanges}
      (stored : w.sessions.sessions.get? current.sessionRef = some current)
      (backed : Backed ops current changes) :
      StoredAfter ops w w' current.sessionRef (current.replace changes)
  | rotatedOut {current : CustomerSessionSnapshot} {now : Int} {newRef : String}
      (stored : w.sessions.sessions.get? current.sessionRef = some current)
      (active : current.staleOrRotated = false)
      (next : w'.sessions.sessions.get? newRef =
        some (CustomerSessionService.replacementFor current newRef)) :
      StoredAfter ops w w' current.sessionRef
        { current with
          invalidatedAtEpoch := some now
          rotatedToSessionRef := some newRef }
  | successor {current : CustomerSessionSnapshot} {now : Int} {newRef : String}
      (stored : w.sessions.sessions.get? current.sessionRef = some current)
      (active : current.staleOrRotated = false)
      (fresh : w.sessions.sessions.get? newRef = none)
      (last : w'.sessions.sessions.get? current.sessionRef =
        some { current with
          invalidatedAtEpoch := some now
          rotatedToSessionRef := some newRef }) :
      StoredAfter ops w w' newRef (CustomerSessionService.replacementFor current newRef)
  | created {new : CustomerSessionSnapshot}
      (newborn : CustomerSessionService.Newborn new new.sessionRef)
      (fresh : w.sessions.sessions.get? new.sessionRef = none)
      (bound : new.securityBindingComplete = true → CustomerSessionService.Bound ops new) :
      StoredAfter ops w w' new.sessionRef new

/-- Nothing is stored under a reference that is new to a world. -/
theorem World.get?_of_fresh {w : World π} {newRef : String}
    (hfresh : newRef ∉ w.sessions.sessions.keys ++ w.sessions.aliases.keys) :
    w.sessions.sessions.get? newRef = none :=
  Dict.get?_eq_none_iff.mpr fun hmem => hfresh (List.mem_append_left _ hmem)

theorem SessionEffect.storedAfter {ops : List (Channel.Op × World π)} {w w' : World π}
    (heff : SessionEffect ops w w') {key : String} {s : CustomerSessionSnapshot}
    (hs : w'.sessions.sessions.get? key = some s) : StoredAfter ops w w' key s := by
  cases heff with
  | kept hsessions _ =>
      rw [hsessions] at hs
      exact .same hs
  | @changed current changes hstored hbacked hsessions _ =>
      rw [hsessions, Dict.get?_set] at hs
      split at hs
      · next hkey =>
        subst hkey
        obtain rfl := Option.some.inj hs
        exact .changed hstored hbacked
      · exact .same hs
  | @rotated current now newRef hstored hactive hnew hsessions _ =>
      have hne : current.sessionRef ≠ newRef := World.ne_of_fresh hstored hnew
      have hnext := congrArg (Dict.get? · newRef) hsessions
      have hlast := congrArg (Dict.get? · current.sessionRef) hsessions
      rw [Dict.get?_set_self] at hnext
      rw [Dict.get?_set_of_ne _ hne, Dict.get?_set_self] at hlast
      -- two entries are written: the successor and the record that points to it
      rw [hsessions, Dict.get?_set, Dict.get?_set] at hs
      split at hs
      · next hkey =>
        subst hkey
        obtain rfl := Option.some.inj hs
        exact .successor hstored hactive (World.get?_of_fresh hnew) hlast
      split at hs
      · next hkey =>
        subst hkey
        obtain rfl := Option.some.inj hs
        exact .rotatedOut hstored hactive hnext
      · exact .same hs
  | @created new hnewborn hnew hsessions _ hbound =>
      rw [hsessions, Dict.get?_set] at hs
      split at hs
      · next hkey =>
        subst hkey
        obtain rfl := Option.some.inj hs
        exact .created hnewborn (World.get?_of_fresh hnew) hbound
      · exact .same hs

theorem World.newSessionRef_notMem (w : World π) :
    w.newSessionRef ∉ w.sessions.sessions.keys ++ w.sessions.aliases.keys :=
  w.refs.fresh _ _

theorem World.get?_newSessionRef (w : World π) :
    w.sessions.sessions.get? w.newSessionRef = none :=
  World.get?_of_fresh w.newSessionRef_notMem

/-- A new reference is nobody's alias. -/
theorem World.canonicalRef_newSessionRef (w : World π) :
    w.sessions.canonicalRef w.newSessionRef = w.newSessionRef := by
  have halias : w.sessions.aliases.get? w.newSessionRef = none :=
    Dict.get?_eq_none_iff.mpr fun hmem => w.newSessionRef_notMem (List.mem_append_right _ hmem)
  rw [InMemoryCustomerSessionStore.canonicalRef, halias, Option.getD_none]

/-- A session found under a name is stored under its own reference. -/
theorem World.Keyed.get?_of_get {w : World π} (hk : w.Keyed) {ref : String}
    {s : CustomerSessionSnapshot} (h : w.sessions.get ref = some s) :
    w.sessions.sessions.get? s.sessionRef = some s := by
  rw [hk _ s h]
  exact h

/-- Both ways into a gated state agree on what supports it. -/
theorem assertProjectionSupports_of_stateFromProjection {p : UpstreamStateProjection}
    {state : ChannelState} (h : stateFromProjection p = .ok state)
    (hgated : state.evidenceGated = true) : assertProjectionSupports state p = .ok () := by
  unfold stateFromProjection at h
  split at h
  · obtain rfl := Except.ok.inj h
    cases hgated
  split at h
  · next hcompleted =>
    obtain rfl := Except.ok.inj h
    simp [assertProjectionSupports, hcompleted]
  split at h
  · next hactive =>
    obtain rfl := Except.ok.inj h
    simp [assertProjectionSupports, hactive]
  split at h
  · next hpaid =>
    obtain rfl := Except.ok.inj h
    simp [assertProjectionSupports, hpaid]
  split at h
  · next hpending =>
    obtain rfl := Except.ok.inj h
    simp [assertProjectionSupports, hpending]
  split at h
  · next hcreated =>
    obtain rfl := Except.ok.inj h
    simp only [assertProjectionSupports, hcreated]
    simp
  · cases h

namespace CustomerSessionService

variable (svc : CustomerSessionService) [XBOSOrderPort π] [Hashlib]

/-- Resolving a projection asks for it where it is then found. -/
theorem obtained_of_evidenced {w : World π} {s : CustomerSessionSnapshot} {h : Option String}
    {p : UpstreamStateProjection} (hev : svc.Evidenced w s h p)
    (hstored : w.sessions.sessions.get? s.sessionRef = some s) :
    Obtained (issued handle (svc.resolveAuthoritativeProjection s h) w) s p := by
  cases h with
  | some ref =>
      obtain ⟨hstore, record, hfound, hbound, hprojected⟩ := hev
      refine .handle (?_ : (ChannelOp.provenance (.resolveEvidence ref), w) ∈ _) hstored hfound
        hbound hprojected
      unfold resolveAuthoritativeProjection
      have hpass : exec handle (raiseIf (!svc.provenanceStore)
          ⟨.authoritativeEvidenceRequired, "server_provenance_store_required"⟩ : Service Unit) w =
            (.ok (), w) := by
        rw [exec_raiseIf, if_neg (by simp [hstore])]
      exact mem_issued_bind_of_ok handle hpass List.mem_cons_self
  | none => exact .reconciliation List.mem_cons_self hstored hev

/-- The evidence of a transition is resolved by the transition. -/
theorem issued_transition_of {w : World π} {args : TransitionArgs}
    {current : CustomerSessionSnapshot} {refs : SessionChanges}
    (h : svc.TransitionEnabled w args current refs) (hgated : args.target.evidenceGated = true) :
    issued handle (svc.resolveAuthoritativeProjection current args.evidenceHandleRef) w ⊆
      issued handle (svc.transition args) w := by
  intro o ho
  have hpass {p : Prop} [Decidable p] (e : Exc) (hp : ¬ p) :
      exec handle (raiseIf p e : Service Unit) w = (.ok (), w) := by
    rw [exec_raiseIf, if_neg hp]
  unfold transition
  refine mem_issued_bind_of_ok handle (exec_idempotentResult _ _ w) ?_
  rw [h.fresh]
  unfold applyTransition
  refine mem_issued_bind_of_ok handle (exec_required_of h.found) ?_
  refine mem_issued_bind_of_ok handle (hpass _ (by simp [h.active])) ?_
  refine mem_issued_bind_of_ok handle (hpass _ (by simp [h.allowed])) ?_
  refine mem_issued_bind_of_ok handle (hpass _ (by simp [h.unaided])) ?_
  refine mem_issued_bind_left handle ?_ _
  unfold evidenceChanges
  rw [if_pos hgated]
  exact mem_issued_bind_left handle ho _

theorem transition_effect {w : World π} (hk : w.Keyed) (args : TransitionArgs) :
    SessionEffect (issued handle (svc.transition args) w) w
      (exec handle (svc.transition args) w).2 := by
  rcases svc.transition_cases w args with
    ⟨current, refs, henabled, hexec⟩ | ⟨prior, -, hexec⟩ | ⟨-, e, hexec⟩
  · rw [hexec]
    have hstored := hk.get?_of_get henabled.found
    refine .changed hstored ?_ rfl rfl
    cases hgated : args.target.evidenceGated with
    | false =>
        obtain rfl := (svc.takesRefs_of_not_gated hgated).mp henabled.evidence
        refine .unaided (fun s hs => ?_) rfl rfl rfl
        obtain rfl : args.target = s := Option.some.inj hs
        exact hgated
    | true =>
        obtain ⟨p, hev, hmatched, hsupports, rfl⟩ :=
          (svc.takesRefs_of_gated hgated).mp henabled.evidence
        exact .evidence ((svc.obtained_of_evidenced hev hstored).mono
          (svc.issued_transition_of henabled hgated)) hmatched (fun _ => hsupports) rfl rfl rfl rfl
  · rw [hexec]
    exact .kept rfl rfl
  · rw [hexec]
    exact .kept rfl rfl

theorem attachInteractionRefs_effect {w : World π} (hk : w.Keyed) (ref : String)
    (cartRef quoteRef : Option String) :
    SessionEffect (issued handle (attachInteractionRefs ref cartRef quoteRef) w) w
      (exec handle (attachInteractionRefs ref cartRef quoteRef) w).2 := by
  rcases attachInteractionRefs_cases ref cartRef quoteRef w with ⟨current, hget, hexec⟩ | ⟨-, hexec⟩
  · rw [hexec]
    exact .changed (hk.get?_of_get hget) (.unaided (fun s hs => by cases hs) rfl rfl rfl) rfl rfl
  · rw [hexec]
    exact .kept rfl rfl

theorem reenter_effect {w : World π} (hk : w.Keyed) (ref : String) :
    SessionEffect (issued handle (reenter ref) w) w (exec handle (reenter ref) w).2 := by
  rcases reenter_cases ref w with ⟨current, state, p, -, henabled, hissued, named, hexec⟩ | ⟨r, hexec⟩
  · rw [hexec]
    have hstored := hk.get?_of_get henabled.found
    exact .changed hstored
      (.evidence (.reconciliation hissued hstored henabled.reconciled) henabled.matched
        (assertProjectionSupports_of_stateFromProjection henabled.projected) rfl rfl rfl rfl)
      rfl rfl
  · rw [hexec]
    exact .kept rfl rfl

theorem resumeSession_effect {w : World π} (hk : w.Keyed) (args : ResumeSessionArgs) :
    SessionEffect (issued handle (svc.resumeSession args w.newSessionRef) w) w
      (exec handle (svc.resumeSession args w.newSessionRef) w).2 := by
  rcases svc.resumeSession_cases args w.newSessionRef w with
    ⟨current, stored, henabled, hexec⟩ | ⟨e, hexec⟩
  · rw [hexec]
    obtain ⟨hcanonical, rfl⟩ := ResumeEnabled.stored_eq svc henabled hk
    have hsessions := congrArg (fun key => (w.rotated key stored args.nowEpoch
      (replacementFor stored w.newSessionRef)).sessions.sessions) hcanonical
    exact .rotated (hk.get?_of_get henabled.found) henabled.active w.newSessionRef_notMem hsessions
      rfl
  · rw [hexec]
    exact .kept rfl rfl

theorem createSession_effect (args : CreateSessionArgs) (w : World π) :
    SessionEffect (issued handle (svc.createSession args w.newSessionRef) w) w
      (exec handle (svc.createSession args w.newSessionRef) w).2 := by
  rcases svc.createSession_cases args w.newSessionRef w with
    ⟨e, hexec⟩ | ⟨s, hs, hbound, r, aliases, hexec, haliases⟩
  · rw [hexec]
    exact .kept rfl rfl
  · rw [hexec]
    obtain href := hs.sessionRef
    refine .created (s := s) ?_ ?_ ?_ ?_ hbound
    · rw [href]
      exact hs
    · rw [href]
      exact w.newSessionRef_notMem
    · rw [href]
    · rw [href]
      exact haliases

end CustomerSessionService

/-! ## Runs -/

/-- The operations that leave every stored session alone. -/
def ChannelOp.KeepsSessions : ChannelOp → Prop
  | session op => ¬ op.WritesSession
  | _ => True

theorem ChannelOp.Reads.keepsSessions {op : ChannelOp} (h : op.Reads) : op.KeepsSessions := by
  cases op with
  | session op => cases op <;> first | exact id | exact h.elim
  | _ => trivial

/-- The operations that leave the whole session store alone. -/
def ChannelOp.KeepsSessionStore : ChannelOp → Prop
  | session op => ChannelOp.Reads (.session op)
  | _ => True

theorem ChannelOp.KeepsSessionStore.keepsSessions {op : ChannelOp} (h : op.KeepsSessionStore) :
    op.KeepsSessions := by
  cases op with
  | session op => exact ChannelOp.Reads.keepsSessions h
  | _ => trivial

theorem ChannelOp.Reads.keepsSessionStore {op : ChannelOp} (h : op.Reads) :
    op.KeepsSessionStore := by
  cases op with
  | session op => exact h
  | _ => trivial

theorem ChannelOp.Prepares.keepsSessionStore {op : ChannelOp} (h : op.Prepares) :
    op.KeepsSessionStore := by
  cases op with
  | session op => exact h
  | _ => trivial

variable [XBOSOrderPort π] [Hashlib]

theorem handle_effect {op : Channel.Op} (w : World π) (h : ChannelOp.KeepsSessions op) :
    SessionEffect [(op, w)] w (handle op w).2 := by
  cases op with
  | session op =>
      refine .kept (w.sessions.answer_sessions h) ?_
      cases op <;> first | rfl | exact absurd trivial h
  | _ => exact .kept rfl rfl

theorem handle_keepsSessionStore {op : Channel.Op} (w : World π)
    (h : ChannelOp.KeepsSessionStore op) : (handle op w).2.sessions = w.sessions := by
  cases op with
  | session op => rw [handle_of_reads (.session op) w h]
  | _ => rfl

/-- A transition and every operation that leaves the session store alone keep a property of the
operations issued so far and of the world they led to. The order services write the store in no
other way. -/
structure KeptByTransitions (svc : OrderDraftConfirmationService)
    (I : List (Channel.Op × World π) → World π → Prop) : Prop where
  keeps : ∀ op T w, ChannelOp.KeepsSessionStore op → I T w → I (T ++ [(op, w)]) (handle op w).2
  transition : ∀ args, (svc.sessions.transition args).Traced handle I

/-- The same for a property of the stored sessions alone, whatever the idempotency table holds. -/
structure KeptByOrders (svc : OrderDraftConfirmationService)
    (I : List (Channel.Op × World π) → World π → Prop) : Prop where
  keeps : ∀ op T w, ChannelOp.KeepsSessions op → I T w → I (T ++ [(op, w)]) (handle op w).2
  transition : ∀ args, (svc.sessions.transition args).Traced handle I

/-- Calls that change or make a session other than by a transition. -/
def ChannelCall.ChangesSession : ChannelCall π → Prop
  | .createSession _ => True
  | .resumeSession _ => True
  | .attachInteractionRefs _ _ _ => True
  | .reenter _ => True
  | _ => False

namespace KeptByTransitions

variable {svc : OrderDraftConfirmationService} {I : List (Channel.Op × World π) → World π → Prop}

theorem of_uses (h : KeptByTransitions svc I) {α : Type} {p : Service α}
    (hp : p.Uses ChannelOp.KeepsSessionStore) : p.Traced handle I := Traced.of_uses h.keeps hp

theorem of_reads (h : KeptByTransitions svc I) {α : Type} {p : Service α}
    (hp : p.Uses ChannelOp.Reads) : p.Traced handle I :=
  h.of_uses (hp.mono fun _ hop => hop.keepsSessionStore)

theorem of_enterSubmitting (h : KeptByTransitions svc I) (args : SubmitArgs)
    (session : CustomerSessionSnapshot) : (svc.enterSubmitting args session).Traced handle I := by
  unfold OrderDraftConfirmationService.enterSubmitting
  split
  · refine (h.transition _).bind fun _ => h.of_reads (uses_ask_bind trivial fun found => ?_)
    cases found <;> trivial
  · exact h.of_uses (by split <;> trivial)

theorem of_complete (h : KeptByTransitions svc I) (args : SubmitArgs)
    (order : CanonicalOrderProjection) : (svc.complete args order).Traced handle I := by
  refine Traced.bind (h.of_reads (by exact ⟨trivial, fun _ => trivial⟩)) fun found => ?_
  cases found with
  | none => exact h.of_reads trivial
  | some latest =>
      dsimp only
      split
      · exact h.of_reads (by split <;> trivial)
      · split
        · exact h.of_reads trivial
        · refine Traced.bind (h.of_uses (by exact ⟨trivial, fun _ => trivial⟩)) fun issued => ?_
          refine (h.of_uses (Uses.ofExcept _)).bind fun ref => ?_
          exact (h.transition _).bind fun _ => Traced.done order

theorem of_submit (h : KeptByTransitions svc I) (args : SubmitArgs) :
    (svc.submit args).Traced handle I := by
  refine (h.of_reads (svc.uses_requireActiveSecureSession _ _)).bind fun session => ?_
  refine (h.of_reads (OrderDraftConfirmationService.uses_boundRecord _ _)).bind fun record => ?_
  refine (h.of_reads (OrderDraftConfirmationService.uses_requireFreshConfirmation _ _)).bind ?_
  intro _
  have hclaim : (OrderDraftConfirmationService.claimHandle args).Uses ChannelOp.KeepsSessionStore := by
    refine Uses.tryCatch (uses_ask_bind trivial fun claimed => ?_) fun exc => ?_
    · exact Uses.bind (Uses.ofExcept _) fun _ => Uses.done _
    · split <;> trivial
  refine (h.of_uses hclaim).bind fun _ => ?_
  refine (h.of_enterSubmitting _ _).bind fun session => ?_
  have hplace (request : OrderSubmitRequest) :
      (OrderDraftConfirmationService.placeOrder request).Uses ChannelOp.KeepsSessionStore := by
    refine Uses.tryCatch (uses_ask_bind trivial fun _ => Uses.ofExcept _) fun exc => ?_
    split
    · refine uses_ask_bind trivial fun found => ?_
      cases found <;> trivial
    · trivial
  refine (h.of_uses (hplace _)).bind fun order => ?_
  exact (h.of_uses (Uses.ofExcept _)).bind fun _ => h.of_complete args order

theorem of_prepareConfirmation (h : KeptByTransitions svc I) (args : PrepareConfirmationArgs) :
    (svc.prepareConfirmation args).Traced handle I :=
  h.of_uses ((svc.uses_prepareConfirmation args).mono fun _ hop => hop.keepsSessionStore)

/-- Every entry of a run keeps the property, apart from calls that change a session themselves. -/
theorem of_call (h : KeptByTransitions svc I) {call : ChannelCall π} (hcall : ¬ call.ChangesSession)
    {T : List (Channel.Op × World π)} {w : World π} (hw : I T (call.change w)) :
    I (T ++ issued handle (call.program svc w) (call.change w)) (step svc w call) := by
  cases call with
  | createSession args => exact absurd trivial hcall
  | resumeSession args => exact absurd trivial hcall
  | attachInteractionRefs ref cart quote => exact absurd trivial hcall
  | reenter ref => exact absurd trivial hcall
  | validateActiveSession ref now =>
      exact (h.of_reads (svc.sessions.uses_validateActiveSession ref now)).void T w hw
  | transition args => exact (h.transition args).void T w hw
  | issueEvidence session p =>
      exact (h.of_uses (p := ask (.provenance (.issueEvidence session p)))
        (by exact ⟨trivial, fun _ => trivial⟩)).void T w hw
  | prepareConfirmation args => exact (h.of_prepareConfirmation args).void T w hw
  | submit args => exact (h.of_submit args).void T w hw
  | orderCall ref call => exact h.of_reads (call.uses_program ref) T w hw
  | upstreamChanges upstream => exact (List.append_nil T).symm ▸ hw
  | orderPortChanges event => exact (List.append_nil T).symm ▸ hw

end KeptByTransitions

theorem KeptByOrders.keptByTransitions {svc : OrderDraftConfirmationService}
    {I : List (Channel.Op × World π) → World π → Prop} (h : KeptByOrders svc I) :
    KeptByTransitions svc I where
  keeps op T w hop := h.keeps op T w hop.keepsSessions
  transition := h.transition

/-- A property of the operations issued so far and of the stored sessions survives. -/
structure Survives (I : List (Channel.Op × World π) → World π → Prop) : Prop where
  keyed : ∀ T w, I T w → w.Keyed
  effect : ∀ T ops w w', I T w → SessionEffect ops w w' → w'.Keyed → I (T ++ ops) w'

namespace Survives

variable {I : List (Channel.Op × World π) → World π → Prop}

theorem of_effect (h : Survives I) {α : Type} {p : Service α}
    (hp : ∀ w : World π, w.Keyed → SessionEffect (issued handle p w) w (exec handle p w).2) :
    p.Traced handle I := fun T w hw =>
  h.effect T _ w _ hw (hp w (h.keyed T w hw))
    (exec_invariant handle (fun op w _ => handle_keyed op w) (Uses.all p) (h.keyed T w hw))

variable (svc : OrderDraftConfirmationService)

theorem keptByOrders (h : Survives I) : KeptByOrders svc I where
  keeps op T w hop hw :=
    h.effect T _ w _ hw (handle_effect w hop) (handle_keyed op w (h.keyed T w hw))
  transition args := h.of_effect fun _ hk => svc.sessions.transition_effect hk args

/-- What survives every effect survives an entry of a run. -/
theorem of_call (h : Survives I) {T : List (Channel.Op × World π)} {w : World π} (hw : I T w)
    (call : ChannelCall π) :
    I (T ++ issued handle (call.program svc w) (call.change w)) (step svc w call) := by
  have hvoid {α : Type} {p : Service α}
      (hp : SessionEffect (issued handle p w) w (exec handle p w).2) :
      I (T ++ issued handle p.void w) (exec handle p.void w).2 := by
    rw [issued_void, exec_void_state]
    exact h.effect T _ w _ hw hp
      (exec_invariant handle (fun op w _ => handle_keyed op w) (Uses.all p) (h.keyed T w hw))
  have hk := h.keyed T w hw
  have hkept := (h.keptByOrders svc).keptByTransitions
  have houtside {w' : World π} (heff : SessionEffect [] w w') (hk' : w'.Keyed) : I T w' := by
    have hw' := h.effect T [] w w' hw heff hk'
    rwa [List.append_nil] at hw'
  cases call with
  | createSession args => exact hvoid (svc.sessions.createSession_effect args w)
  | resumeSession args => exact hvoid (svc.sessions.resumeSession_effect hk args)
  | attachInteractionRefs ref cart quote =>
      exact hvoid (CustomerSessionService.attachInteractionRefs_effect hk ref cart quote)
  | reenter ref => exact hvoid (CustomerSessionService.reenter_effect hk ref)
  | upstreamChanges upstream => exact hkept.of_call id (houtside (.kept rfl rfl) hk)
  | orderPortChanges event => exact hkept.of_call id (houtside (.kept rfl rfl) hk)
  | _ => exact hkept.of_call id hw

/-- What survives every effect survives a run. -/
theorem of_trace (h : Survives I) {T : List (Channel.Op × World π)} {w : World π} (hw : I T w)
    (calls : List (ChannelCall π)) : I (T ++ trace svc w calls) (run svc w calls) :=
  trace_invariant svc (I := I) (fun _ _ call hw => h.of_call svc hw call) hw calls

end Survives

end XbosCustomerChannel
