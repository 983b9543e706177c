import XbosCustomerChannel.Session.Service

/-!
# What the session operations do

One statement a method: the ways it can end and the store it leaves. Later proofs use these and
never open a method again.
-/

namespace XbosCustomerChannel

open Effects Effects.Program Data

@[simp] theorem uses_ask_iff {A : Channel.Op → Prop} {op : ChannelOp} :
    Uses A (ask op) ↔ A op := by
  simp [Uses]

theorem uses_ask_bind {β : Type} {A : Channel.Op → Prop} {op : ChannelOp}
    {f : op.Resp → Service β} (hop : A op) (hf : ∀ r, Uses A (f r)) : Uses A (ask op >>= f) :=
  ⟨hop, hf⟩

theorem uses_required (ref : String) : Uses ChannelOp.Reads (required ref) := by
  refine ⟨trivial, fun found => ?_⟩
  cases found <;> trivial

theorem uses_attestContext (m l : String) (t : Option String) (p : EntryPurpose)
    (d : Option String) : Uses ChannelOp.Reads (attestContext m l t p d) := by
  refine Uses.tryCatch ⟨trivial, fun r => Uses.ofExcept r⟩ fun exc => ?_
  split <;> trivial

section Readers

variable {π : Type} [XBOSOrderPort π] [Hashlib]

/-- A program that only reads ends with a value or an error, in the world it started in. -/
theorem exec_of_reads {α : Type} {p : Service α} (hp : p.Uses ChannelOp.Reads) (w : World π) :
    (∃ a, exec handle p w = (.ok a, w)) ∨ ∃ e, exec handle p w = (.error e, w) := by
  have hstate : (exec handle p w).2 = w := exec_state_of_reads handle handle_of_reads hp w
  cases hres : exec handle p w with
  | mk r w' =>
      rw [hres] at hstate
      obtain rfl : w' = w := hstate
      cases r with
      | ok a => exact .inl ⟨a, rfl⟩
      | error e => exact .inr ⟨e, rfl⟩

@[simp] theorem exec_ask_bind {β : Type} (op : ChannelOp) (f : op.Resp → Service β) (w : World π) :
    exec handle (ask op >>= f) w = exec handle (f (handle op w).1) (handle op w).2 := rfl

theorem exec_canonicalRef (ref : String) (w : World π) :
    exec handle (SessionStore.canonicalRef ref) w = (.ok (w.sessions.canonicalRef ref), w) := rfl

theorem exec_idempotentResult (ref key : String) (w : World π) :
    exec handle (SessionStore.idempotentResult ref key) w =
      (.ok (w.sessions.idempotentResult ref key), w) := rfl

theorem exec_get (ref : String) (w : World π) :
    exec handle (SessionStore.get ref) w = (.ok (w.sessions.get ref), w) := rfl

theorem exec_required (ref : String) (w : World π) :
    exec handle (required ref) w =
      ((match w.sessions.get ref with
        | none => .error ⟨.keyError, ref⟩
        | some session => .ok session), w) := by
  unfold required
  rw [exec_bind_ok handle (exec_get ref w)]
  cases w.sessions.get ref <;> rfl

theorem exec_required_of {ref : String} {w : World π} {s : CustomerSessionSnapshot}
    (h : w.sessions.get ref = some s) : exec handle (required ref) w = (.ok s, w) := by
  rw [exec_required, h]

/-- What an attestation attempt yields. -/
def Upstream.attested (u : Upstream) (m l : String) (t : Option String) (p : EntryPurpose)
    (d : Option String) : Except Exc EntryContextAttestation :=
  match u.attestContext m l t p d with
  | .ok a => .ok a
  | .error exc =>
      if exc.caughtBy [.keyError, .permissionError, .valueError] then
        .error ⟨.sessionSecurityRequired, "entry_context_unavailable"⟩
      else .error exc

theorem exec_attestContext (m l : String) (t : Option String) (p : EntryPurpose)
    (d : Option String) (w : World π) :
    exec handle (attestContext m l t p d) w = (w.upstream.attested m l t p d, w) := by
  unfold attestContext Upstream.attested
  rw [exec_tryCatch, exec_ask_bind, exec_ofExcept]
  dsimp only [handle, Upstream.answer]
  cases w.upstream.attestContext m l t p d with
  | ok a => rfl
  | error exc =>
      dsimp only
      split <;> rfl

end Readers

namespace CustomerSessionService

variable (svc : CustomerSessionService)

theorem uses_reattest (s : CustomerSessionSnapshot) : Uses ChannelOp.Reads (svc.reattest s) := by
  unfold reattest
  refine Uses.bind (Uses.raiseIf _ _) fun _ => ?_
  split
  · exact Uses.bind (uses_attestContext _ _ _ _ _) fun _ => Uses.raiseIf _ _
  · trivial

theorem uses_validateActiveSession (ref : String) (now : Int) :
    Uses ChannelOp.Reads (svc.validateActiveSession ref now) := by
  refine Uses.bind (uses_required ref) fun s => ?_
  refine Uses.bind (Uses.raiseIf _ _) fun _ => ?_
  refine Uses.bind (Uses.raiseIf _ _) fun _ => ?_
  refine Uses.bind (Uses.raiseIf _ _) fun _ => ?_
  exact Uses.bind (svc.uses_reattest s) fun _ => Uses.done _

theorem uses_resolveAuthoritativeProjection (s : CustomerSessionSnapshot) (h : Option String) :
    Uses ChannelOp.Reads (svc.resolveAuthoritativeProjection s h) := by
  unfold resolveAuthoritativeProjection
  split
  · refine Uses.bind (Uses.raiseIf _ _) fun _ => uses_ask_bind trivial fun found => ?_
    cases found with
    | none => trivial
    | some record => exact Uses.bind (Uses.raiseIf _ _) fun _ => Uses.done _
  · refine uses_ask_bind trivial fun answer => Uses.bind (Uses.ofExcept answer) fun found => ?_
    cases found <;> trivial

theorem uses_evidenceChanges (s : CustomerSessionSnapshot) (args : TransitionArgs) :
    Uses ChannelOp.Reads (svc.evidenceChanges s args) := by
  unfold evidenceChanges
  split
  · refine Uses.bind (svc.uses_resolveAuthoritativeProjection _ _) fun p => ?_
    refine Uses.bind (Uses.ofExcept _) fun _ => ?_
    exact Uses.bind (Uses.ofExcept _) fun _ => Uses.done _
  · trivial

theorem uses_checkResumeBinding (s : CustomerSessionSnapshot) (ref : String) (now : Int) :
    Uses ChannelOp.Reads (checkResumeBinding s ref now) := by
  unfold checkResumeBinding
  refine uses_ask_bind trivial fun found => ?_
  cases found with
  | none => trivial
  | some binding =>
      refine Uses.bind (Uses.raiseIf _ _) fun _ => ?_
      refine Uses.bind (Uses.raiseIf _ _) fun _ => ?_
      exact Uses.bind (Uses.raiseIf _ _) fun _ => Uses.raiseIf _ _

theorem uses_assertEntryContextCurrent (entry : ResolvedEntryContext) :
    Uses ChannelOp.Reads (svc.assertEntryContextCurrent entry) := by
  unfold assertEntryContextCurrent
  refine Uses.bind (Uses.raiseIf _ _) fun _ => ?_
  exact Uses.bind (uses_attestContext _ _ _ _ _) fun _ => Uses.raiseIf _ _

theorem uses_bindingForEntryContext (bindingRef conversationRef : String)
    (entry : ResolvedEntryContext) (now : Int) :
    Uses ChannelOp.Reads (svc.bindingForEntryContext bindingRef conversationRef entry now) := by
  unfold bindingForEntryContext
  refine Uses.bind (Uses.raiseIf _ _) fun _ => uses_ask_bind trivial fun found => ?_
  cases found with
  | none => trivial
  | some binding =>
      refine Uses.bind (Uses.raiseIf _ _) fun _ => ?_
      refine Uses.bind (Uses.raiseIf _ _) fun _ => ?_
      exact Uses.bind (Uses.raiseIf _ _) fun _ => Uses.done _

/-- The operations of `resume_session`: it reads, and rotates. -/
def RotatesOrReads : ChannelOp → Prop
  | .session (.rotateIfActive _ _ _ _) => True
  | op => op.Reads

theorem uses_resumeSession (args : ResumeSessionArgs) (newRef : String) :
    Uses RotatesOrReads (svc.resumeSession args newRef) := by
  have hreads (op : Channel.Op) (h : ChannelOp.Reads op) : RotatesOrReads op := by
    cases op with
    | session op => cases op <;> trivial
    | _ => exact h
  unfold resumeSession
  refine Uses.bind (Uses.raiseIf _ _) fun _ => ?_
  split
  · trivial
  refine Uses.bind (Uses.raiseIf _ _) fun _ => uses_ask_bind trivial fun _ => ?_
  refine Uses.bind (Uses.raiseIf _ _) fun _ => ?_
  refine Uses.bind ((uses_required _).mono hreads) fun current => ?_
  refine Uses.bind (Uses.raiseIf _ _) fun _ => ?_
  refine Uses.bind ((uses_checkResumeBinding _ _ _).mono hreads) fun _ => ?_
  refine Uses.bind (Uses.raiseIf _ _) fun _ => Uses.bind (Uses.raiseIf _ _) fun _ => ?_
  refine Uses.bind ((svc.uses_reattest current).mono hreads) fun _ => ?_
  refine uses_ask_bind trivial fun answer => Uses.bind (Uses.ofExcept answer) fun found => ?_
  cases found <;> trivial

/-- The bound context of a session is attested as it is bound. -/
def Reattested (u : Upstream) (s : CustomerSessionSnapshot) : Prop :=
  svc.xbosContext = true ∧ ∃ m l p a, s.merchantRef = some m ∧ s.locationRef = some l ∧
    s.entryPurpose = some p ∧ u.attestContext m l s.tableRef p s.diningAreaRef = .ok a ∧
    s.boundContext = a.boundContext

variable {π : Type} [XBOSOrderPort π] [Hashlib]

theorem exec_reattest_of {s : CustomerSessionSnapshot} {w : World π}
    (h : svc.Reattested w.upstream s) : exec handle (svc.reattest s) w = (.ok (), w) := by
  obtain ⟨hctx, m, l, p, a, hm, hl, hp, ha, hbound⟩ := h
  have hatt : w.upstream.attested m l s.tableRef p s.diningAreaRef = .ok a := by
    simp [Upstream.attested, ha]
  unfold reattest
  rw [exec_raiseIf_bind, if_neg (by simp [hctx]), hm, hl, hp]
  rw [exec_bind_ok handle (by rw [exec_attestContext, hatt])]
  rw [exec_raiseIf, if_neg (by simp [hbound])]

theorem reattest_cases (s : CustomerSessionSnapshot) (w : World π) :
    (svc.Reattested w.upstream s ∧ exec handle (svc.reattest s) w = (.ok (), w)) ∨
    (¬ svc.Reattested w.upstream s ∧ ∃ e, exec handle (svc.reattest s) w = (.error e, w)) := by
  by_cases h : svc.Reattested w.upstream s
  · exact .inl ⟨h, svc.exec_reattest_of h⟩
  refine .inr ⟨h, ?_⟩
  rcases exec_of_reads (svc.uses_reattest s) w with ⟨u, hres⟩ | herror
  case inr => exact herror
  exfalso
  apply h
  unfold reattest at hres
  obtain ⟨hctx, hres⟩ := raiseIf_bind_ok_inv handle hres
  split at hres
  · next m l p hm hl hp =>
      obtain ⟨a, w₁, ha, hres⟩ := bind_ok_inv handle hres
      rw [exec_attestContext] at ha
      rw [exec_raiseIf] at hres
      have hbound : s.boundContext = a.boundContext := by
        by_contra hne
        rw [if_pos hne] at hres
        cases hres
      refine ⟨by simpa using hctx, m, l, p, a, hm, hl, hp, ?_, hbound⟩
      have ha := congrArg Prod.fst ha
      dsimp only at ha
      unfold Upstream.attested at ha
      split at ha
      · next a' ha' =>
          rw [ha']
          exact ha
      · split at ha <;> cases ha
  · cases hres

/-- What `validate_active_session` asks of the session it finds. -/
structure ValidActive (u : Upstream) (s : CustomerSessionSnapshot) (nowEpoch : Int) : Prop where
  secure : s.securityBindingComplete = true
  active : s.staleOrRotated = false
  unexpired : s.expiredAt nowEpoch = false
  attested : svc.Reattested u s

theorem validateActiveSession_cases (ref : String) (now : Int) (w : World π) :
    (∃ s, w.sessions.get ref = some s ∧ svc.ValidActive w.upstream s now ∧
      exec handle (svc.validateActiveSession ref now) w = (.ok s, w)) ∨
    ((∀ s, w.sessions.get ref = some s → ¬ svc.ValidActive w.upstream s now) ∧
      ∃ e, exec handle (svc.validateActiveSession ref now) w = (.error e, w)) := by
  unfold validateActiveSession
  cases hget : w.sessions.get ref with
  | none =>
      refine .inr ⟨fun s hs => (by cases hs), ⟨.keyError, ref⟩, ?_⟩
      rw [exec_bind, exec_required, hget]
  | some s =>
      rw [exec_bind_ok handle (exec_required_of hget)]
      simp only [exec_raiseIf_bind]
      by_cases hsec : s.securityBindingComplete = true
      case neg =>
        refine .inr ⟨?_, by simp [hsec]⟩
        rintro _ ⟨⟩ h
        exact hsec h.secure
      by_cases hact : s.staleOrRotated = true
      case pos =>
        refine .inr ⟨?_, by simp [hsec, hact]⟩
        rintro _ ⟨⟩ h
        simp [h.active] at hact
      by_cases hexp : s.expiredAt now = true
      case pos =>
        refine .inr ⟨?_, by simp [hsec, hact, hexp]⟩
        rintro _ ⟨⟩ h
        simp [h.unexpired] at hexp
      rcases svc.reattest_cases s w with ⟨hatt, hexec⟩ | ⟨hatt, e, hexec⟩
      · refine .inl ⟨s, rfl, ⟨hsec, by simpa using hact, by simpa using hexp, hatt⟩, ?_⟩
        simp [hsec, hact, hexp, exec_bind_ok handle hexec]
      · refine .inr ⟨?_, e, by simp [hsec, hact, hexp, exec_bind_error handle hexec]⟩
        rintro _ ⟨⟩ h
        exact hatt h.attested

/-! ## Evidence -/

/-- Where an evidence-gated transition gets its projection from: the record of the handle it was
given, bound to the session, or the reconciliation port. -/
def Evidenced (w : World π) (current : CustomerSessionSnapshot)
    (evidenceHandleRef : Option String) (p : UpstreamStateProjection) : Prop :=
  match evidenceHandleRef with
  | some handle => svc.provenanceStore = true ∧ ∃ record,
      w.provenance.resolveEvidence handle = some record ∧
        record.binding = bindingFromSession current ∧ record.projection = p
  | none => w.upstream.reconcileSession current = .ok (some p)

theorem exec_resolveAuthoritativeProjection_of {w : World π} {s : CustomerSessionSnapshot}
    {h : Option String} {p : UpstreamStateProjection} (hp : svc.Evidenced w s h p) :
    exec handle (svc.resolveAuthoritativeProjection s h) w = (.ok p, w) := by
  unfold resolveAuthoritativeProjection
  cases h with
  | some ref =>
      obtain ⟨hstore, record, hfound, hbinding, rfl⟩ := hp
      dsimp only
      rw [exec_raiseIf_bind, if_neg (by simp [hstore]), exec_ask_bind]
      dsimp only [handle, InMemoryChannelProvenanceStore.answer]
      rw [hfound]
      dsimp only
      rw [exec_raiseIf_bind, if_neg (by simp [bindingMatchesSession, hbinding])]
      rfl
  | none =>
      dsimp only
      rw [exec_ask_bind]
      dsimp only [handle, Upstream.answer]
      rw [show w.upstream.reconcileSession s = .ok (some p) from hp]
      rfl

theorem resolveAuthoritativeProjection_cases (w : World π) (s : CustomerSessionSnapshot)
    (h : Option String) :
    (∃ p, svc.Evidenced w s h p ∧
      exec handle (svc.resolveAuthoritativeProjection s h) w = (.ok p, w)) ∨
    ((∀ p, ¬ svc.Evidenced w s h p) ∧
      ∃ e, exec handle (svc.resolveAuthoritativeProjection s h) w = (.error e, w)) := by
  by_cases hev : ∃ p, svc.Evidenced w s h p
  · obtain ⟨p, hp⟩ := hev
    exact .inl ⟨p, hp, svc.exec_resolveAuthoritativeProjection_of hp⟩
  refine .inr ⟨fun p hp => hev ⟨p, hp⟩, ?_⟩
  unfold resolveAuthoritativeProjection
  cases h with
  | some ref =>
      dsimp only
      rw [exec_raiseIf_bind]
      split
      · exact ⟨_, rfl⟩
      next hstore =>
      rw [exec_ask_bind]
      dsimp only [handle, InMemoryChannelProvenanceStore.answer]
      cases hfound : w.provenance.resolveEvidence ref with
      | none => exact ⟨_, rfl⟩
      | some record =>
          dsimp only
          rw [exec_raiseIf_bind]
          split
          · exact ⟨_, rfl⟩
          next hbinding =>
          refine absurd ⟨record.projection, by simpa using hstore, record, hfound, ?_, rfl⟩ hev
          simpa [bindingMatchesSession] using hbinding
  | none =>
      dsimp only
      rw [exec_ask_bind]
      dsimp only [handle, Upstream.answer]
      cases hanswer : w.upstream.reconcileSession s with
      | error e => exact ⟨e, rfl⟩
      | ok found =>
          cases found with
          | none => exact ⟨_, rfl⟩
          | some p => exact absurd ⟨p, hanswer⟩ hev

/-- The references a transition takes over: those of its evidence if the target is gated. -/
def TakesRefs (w : World π) (current : CustomerSessionSnapshot) (args : TransitionArgs)
    (refs : SessionChanges) : Prop :=
  if args.target.evidenceGated then
    ∃ p, svc.Evidenced w current args.evidenceHandleRef p ∧
      assertEvidenceMatchesSession current p = .ok () ∧
      assertProjectionSupports args.target p = .ok () ∧
      refs =
        { orderRef := p.orderRef
          paymentRef := p.paymentRef
          lastUpstreamEvidenceRef := some p.evidenceRef }
  else refs = {}

omit [XBOSOrderPort π] [Hashlib] in
theorem takesRefs_of_not_gated {w : World π} {s : CustomerSessionSnapshot}
    {args : TransitionArgs} {refs : SessionChanges} (h : args.target.evidenceGated = false) :
    svc.TakesRefs w s args refs ↔ refs = {} := by
  rw [TakesRefs, if_neg (by simp [h])]

omit [XBOSOrderPort π] [Hashlib] in
theorem takesRefs_of_gated {w : World π} {s : CustomerSessionSnapshot}
    {args : TransitionArgs} {refs : SessionChanges} (h : args.target.evidenceGated = true) :
    svc.TakesRefs w s args refs ↔
      ∃ p, svc.Evidenced w s args.evidenceHandleRef p ∧
        assertEvidenceMatchesSession s p = .ok () ∧
        assertProjectionSupports args.target p = .ok () ∧
        refs =
          { orderRef := p.orderRef
            paymentRef := p.paymentRef
            lastUpstreamEvidenceRef := some p.evidenceRef } := by
  rw [TakesRefs, if_pos h]

theorem exec_evidenceChanges_of {w : World π} {s : CustomerSessionSnapshot}
    {args : TransitionArgs} {refs : SessionChanges} (h : svc.TakesRefs w s args refs) :
    exec handle (svc.evidenceChanges s args) w = (.ok refs, w) := by
  unfold TakesRefs at h
  unfold evidenceChanges
  split at h
  · next hgated =>
    obtain ⟨p, hev, hmatch, hsupports, rfl⟩ := h
    rw [if_pos hgated, exec_bind_ok handle (svc.exec_resolveAuthoritativeProjection_of hev),
      hmatch, hsupports]
    rfl
  · next hgated =>
    rw [if_neg hgated, h]
    rfl

theorem evidenceChanges_cases (w : World π) (s : CustomerSessionSnapshot)
    (args : TransitionArgs) :
    (∃ refs, svc.TakesRefs w s args refs ∧
      exec handle (svc.evidenceChanges s args) w = (.ok refs, w)) ∨
    ((∀ refs, ¬ svc.TakesRefs w s args refs) ∧
      ∃ e, exec handle (svc.evidenceChanges s args) w = (.error e, w)) := by
  by_cases htakes : ∃ refs, svc.TakesRefs w s args refs
  · obtain ⟨refs, h⟩ := htakes
    exact .inl ⟨refs, h, svc.exec_evidenceChanges_of h⟩
  refine .inr ⟨fun refs h => htakes ⟨refs, h⟩, ?_⟩
  unfold evidenceChanges
  by_cases hgated : args.target.evidenceGated = true
  case neg => exact absurd ⟨{}, by rw [TakesRefs, if_neg hgated]⟩ htakes
  rw [if_pos hgated]
  rcases svc.resolveAuthoritativeProjection_cases w s args.evidenceHandleRef with
    ⟨p, hev, hexec⟩ | ⟨-, e, hexec⟩
  case inr => exact ⟨e, exec_bind_error handle hexec _⟩
  rw [exec_bind_ok handle hexec]
  cases hmatch : assertEvidenceMatchesSession s p with
  | error e => exact ⟨e, rfl⟩
  | ok _ =>
      cases hsupports : assertProjectionSupports args.target p with
      | error e => exact ⟨e, rfl⟩
      | ok _ =>
          exact absurd ⟨_, by rw [TakesRefs, if_pos hgated]; exact ⟨p, hev, hmatch, hsupports, rfl⟩⟩
            htakes

/-! ## Transitions -/

/-- What it takes for a transition to move its session. -/
structure TransitionEnabled (w : World π) (args : TransitionArgs)
    (current : CustomerSessionSnapshot) (refs : SessionChanges) : Prop where
  fresh : w.sessions.idempotentResult args.sessionRef args.idempotencyKey = none
  found : w.sessions.get args.sessionRef = some current
  active : current.staleOrRotated = false
  allowed : args.target ∈ current.state.transitions
  unaided : args.upstreamEvidence = none
  evidence : svc.TakesRefs w current args refs

end CustomerSessionService

/-- The session a transition stores. -/
def CustomerSessionSnapshot.transitioned (current : CustomerSessionSnapshot)
    (args : TransitionArgs) (refs : SessionChanges) : CustomerSessionSnapshot :=
  current.replace (CustomerSessionService.transitionChanges args refs)

/-- The world a transition leaves. -/
def World.transitioned {π : Type} (w : World π) (args : TransitionArgs)
    (updated : CustomerSessionSnapshot) : World π :=
  { w with
    sessions :=
      (w.sessions.put updated).recordIdempotentResult args.sessionRef args.idempotencyKey updated }

namespace CustomerSessionService

variable (svc : CustomerSessionService)

/-- `transition` up to its first write: the recorded snapshot, or the session it read and the
references it takes over. -/
def decideTransition (args : TransitionArgs) :
    Service (CustomerSessionSnapshot ⊕ CustomerSessionSnapshot × SessionChanges) := do
  match ← SessionStore.idempotentResult args.sessionRef args.idempotencyKey with
  | some prior => pure (.inl prior)
  | none => do
      let current ← required args.sessionRef
      raiseIf current.staleOrRotated ⟨.permissionError, "session_stale_or_rotated"⟩
      raiseIf (args.target ∉ current.state.transitions)
        ⟨.invalidChannelTransition,
          "invalid_transition:" ++ current.state.value ++ "->" ++ args.target.value⟩
      raiseIf args.upstreamEvidence.isSome
        ⟨.authoritativeEvidenceRequired, "caller_supplied_upstream_projection_not_authority"⟩
      let refs ← svc.evidenceChanges current args
      pure (.inr (current, refs))

/-- The writes of `transition`. -/
def carryOutTransition (args : TransitionArgs) :
    CustomerSessionSnapshot ⊕ CustomerSessionSnapshot × SessionChanges →
      Service CustomerSessionSnapshot
  | .inl prior => pure prior
  | .inr (current, refs) => do
      let updated ← SessionStore.put current (transitionChanges args refs)
      SessionStore.recordIdempotentResult args.sessionRef args.idempotencyKey updated

theorem transition_eq (args : TransitionArgs) :
    svc.transition args = svc.decideTransition args >>= carryOutTransition args := by
  unfold transition decideTransition
  rw [bind_assoc']
  congr 1
  funext prior
  cases prior with
  | some prior => rfl
  | none =>
      unfold applyTransition
      simp only [bind_assoc', pure_eq, done_bind]
      rfl

theorem uses_decideTransition (args : TransitionArgs) :
    (svc.decideTransition args).Uses ChannelOp.Reads := by
  refine uses_ask_bind trivial fun prior => ?_
  cases prior with
  | some prior => trivial
  | none =>
      refine Uses.bind (uses_required _) fun current => ?_
      refine Uses.bind (Uses.raiseIf _ _) fun _ => ?_
      refine Uses.bind (Uses.raiseIf _ _) fun _ => ?_
      refine Uses.bind (Uses.raiseIf _ _) fun _ => ?_
      exact Uses.bind (svc.uses_evidenceChanges _ _) fun _ => Uses.done _

/-- A transition asks, stores a session and records it. -/
theorem uses_transition_of {P : Channel.Op → Prop} (args : TransitionArgs)
    (hreads : ∀ op, ChannelOp.Reads op → P op)
    (hput : ∀ current changes, P (.session (.put current changes)))
    (hrecord : ∀ ref key s, P (.session (.recordIdempotentResult ref key s))) :
    (svc.transition args).Uses P := by
  rw [transition_eq]
  refine Uses.bind ((svc.uses_decideTransition args).mono hreads) fun decided => ?_
  cases decided with
  | inl prior => trivial
  | inr move =>
      refine uses_ask_bind (hput _ _) fun updated => ?_
      exact uses_ask_bind (hrecord _ _ _) fun _ => Uses.done _

variable {π : Type} [XBOSOrderPort π] [Hashlib]

theorem exec_decideTransition_of_recorded {w : World π} {args : TransitionArgs}
    {prior : CustomerSessionSnapshot}
    (h : w.sessions.idempotentResult args.sessionRef args.idempotencyKey = some prior) :
    exec handle (svc.decideTransition args) w = (.ok (.inl prior), w) := by
  unfold decideTransition
  rw [exec_bind_ok handle (exec_idempotentResult _ _ w), h]
  rfl

theorem exec_decideTransition_of {w : World π} {args : TransitionArgs}
    {current : CustomerSessionSnapshot} {refs : SessionChanges}
    (h : svc.TransitionEnabled w args current refs) :
    exec handle (svc.decideTransition args) w = (.ok (.inr (current, refs)), w) := by
  unfold decideTransition
  rw [exec_bind_ok handle (exec_idempotentResult _ _ w), h.fresh]
  dsimp only
  rw [exec_bind_ok handle (exec_required_of h.found)]
  rw [exec_raiseIf_bind, if_neg (by simp [h.active])]
  rw [exec_raiseIf_bind, if_neg (by simp [h.allowed])]
  rw [exec_raiseIf_bind, if_neg (by simp [h.unaided])]
  rw [exec_bind_ok handle (svc.exec_evidenceChanges_of h.evidence)]
  rfl

theorem decideTransition_cases (w : World π) (args : TransitionArgs) :
    (∃ current refs, svc.TransitionEnabled w args current refs ∧
      exec handle (svc.decideTransition args) w = (.ok (.inr (current, refs)), w)) ∨
    (∃ prior, w.sessions.idempotentResult args.sessionRef args.idempotencyKey = some prior ∧
      exec handle (svc.decideTransition args) w = (.ok (.inl prior), w)) ∨
    ((∀ current refs, ¬ svc.TransitionEnabled w args current refs) ∧
      ∃ e, exec handle (svc.decideTransition args) w = (.error e, w)) := by
  by_cases henabled : ∃ current refs, svc.TransitionEnabled w args current refs
  · obtain ⟨current, refs, h⟩ := henabled
    exact .inl ⟨current, refs, h, svc.exec_decideTransition_of h⟩
  cases hprior : w.sessions.idempotentResult args.sessionRef args.idempotencyKey with
  | some prior => exact .inr (.inl ⟨prior, rfl, svc.exec_decideTransition_of_recorded hprior⟩)
  | none =>
      refine .inr (.inr ⟨fun current refs h => henabled ⟨current, refs, h⟩, ?_⟩)
      unfold decideTransition
      rw [exec_bind_ok handle (exec_idempotentResult _ _ w), hprior]
      dsimp only
      cases hget : w.sessions.get args.sessionRef with
      | none => exact ⟨_, exec_bind_error handle (by rw [exec_required, hget]) _⟩
      | some current =>
          rw [exec_bind_ok handle (exec_required_of hget)]
          rw [exec_raiseIf_bind]
          split
          · exact ⟨_, rfl⟩
          next hactive =>
          rw [exec_raiseIf_bind]
          split
          · exact ⟨_, rfl⟩
          next hallowed =>
          rw [exec_raiseIf_bind]
          split
          · exact ⟨_, rfl⟩
          next hunaided =>
          rcases svc.evidenceChanges_cases w current args with ⟨refs, htakes, -⟩ | ⟨-, e, hexec⟩
          · refine absurd ⟨current, refs, hprior, hget, ?_, ?_, ?_, htakes⟩ henabled
            · simpa using hactive
            · simpa using hallowed
            · simpa using hunaided
          · exact ⟨e, exec_bind_error handle hexec _⟩

theorem exec_transition_of_recorded {w : World π} {args : TransitionArgs}
    {prior : CustomerSessionSnapshot}
    (h : w.sessions.idempotentResult args.sessionRef args.idempotencyKey = some prior) :
    exec handle (svc.transition args) w = (.ok prior, w) := by
  rw [transition_eq, exec_bind_ok handle (svc.exec_decideTransition_of_recorded h)]
  rfl

theorem exec_transition_of {w : World π} {args : TransitionArgs}
    {current : CustomerSessionSnapshot} {refs : SessionChanges}
    (h : svc.TransitionEnabled w args current refs) :
    exec handle (svc.transition args) w =
      (.ok (current.transitioned args refs),
        w.transitioned args (current.transitioned args refs)) := by
  rw [transition_eq, exec_bind_ok handle (svc.exec_decideTransition_of h)]
  rfl

theorem transition_cases (w : World π) (args : TransitionArgs) :
    (∃ current refs, svc.TransitionEnabled w args current refs ∧
      exec handle (svc.transition args) w =
        (.ok (current.transitioned args refs),
          w.transitioned args (current.transitioned args refs))) ∨
    (∃ prior, w.sessions.idempotentResult args.sessionRef args.idempotencyKey = some prior ∧
      exec handle (svc.transition args) w = (.ok prior, w)) ∨
    ((∀ current refs, ¬ svc.TransitionEnabled w args current refs) ∧
      ∃ e, exec handle (svc.transition args) w = (.error e, w)) := by
  rcases svc.decideTransition_cases w args with
    ⟨current, refs, h, -⟩ | ⟨prior, h, -⟩ | ⟨h, e, hexec⟩
  · exact .inl ⟨current, refs, h, svc.exec_transition_of h⟩
  · exact .inr (.inl ⟨prior, h, svc.exec_transition_of_recorded h⟩)
  · refine .inr (.inr ⟨h, e, ?_⟩)
    rw [transition_eq, exec_bind_error handle hexec]

/-! ## Interaction references and re-entry -/

end CustomerSessionService

/-- The world with a session stored. -/
def World.stored {π : Type} (w : World π) (s : CustomerSessionSnapshot) : World π :=
  { w with sessions := w.sessions.put s }

/-- The world with a session rotated out for its replacement. -/
def World.rotated {π : Type} (w : World π) (key : String) (current : CustomerSessionSnapshot)
    (now : Int) (replacement : CustomerSessionSnapshot) : World π :=
  { w with
    sessions :=
      { w.sessions with
        sessions :=
          (w.sessions.sessions.set key
            { current with
              invalidatedAtEpoch := some now
              rotatedToSessionRef := some replacement.sessionRef }).set
            replacement.sessionRef replacement } }

namespace CustomerSessionService

variable (svc : CustomerSessionService) {π : Type} [XBOSOrderPort π] [Hashlib]

theorem exec_put (base : CustomerSessionSnapshot) (changes : SessionChanges) (w : World π) :
    exec handle (SessionStore.put base changes) w =
      (.ok (base.replace changes), w.stored (base.replace changes)) := rfl

theorem attachInteractionRefs_cases (ref : String) (cartRef quoteRef : Option String)
    (w : World π) :
    (∃ current, w.sessions.get ref = some current ∧
      exec handle (attachInteractionRefs ref cartRef quoteRef) w =
        (.ok (current.replace { cartRef, quoteRef }),
          w.stored (current.replace { cartRef, quoteRef }))) ∨
    (w.sessions.get ref = none ∧
      exec handle (attachInteractionRefs ref cartRef quoteRef) w =
        (.error ⟨.keyError, ref⟩, w)) := by
  unfold attachInteractionRefs
  cases hget : w.sessions.get ref with
  | none => exact .inr ⟨rfl, exec_bind_error handle (by rw [exec_required, hget]) _⟩
  | some current =>
      refine .inl ⟨current, rfl, ?_⟩
      rw [exec_bind_ok handle (exec_required_of hget)]
      rfl

/-- Re-entry does not leave the session as it is without asking. -/
def AsksReconciliation (s : CustomerSessionSnapshot) : Prop :=
  s.state.evidenceGated = true ∨ falsy s.orderRef = false ∨ falsy s.paymentRef = false

/-- What it takes for re-entry to write its session. -/
structure ReenterEnabled (w : World π) (ref : String) (current : CustomerSessionSnapshot)
    (state : ChannelState) (p : UpstreamStateProjection) : Prop where
  found : w.sessions.get ref = some current
  reconciled : w.upstream.reconcileSession current = .ok (some p)
  matched : assertEvidenceMatchesSession current p = .ok ()
  projected : stateFromProjection p = .ok state

/-- Re-entry that is given a projection. -/
theorem exec_reenter_reconciled {ref : String} {w : World π} {current : CustomerSessionSnapshot}
    {p : UpstreamStateProjection} (hget : w.sessions.get ref = some current)
    (hasks : AsksReconciliation current)
    (hreconciled : w.upstream.reconcileSession current = .ok (some p)) :
    exec handle (reenter ref) w =
      exec handle (do
        Program.ofExcept (assertEvidenceMatchesSession current p)
        let projectedState ← Program.ofExcept (stateFromProjection p)
        let updated ← SessionStore.put current (reenterChanges projectedState p)
        pure (namedAs (w.sessions.canonicalRef ref) ref updated)) w := by
  have hnot : ¬ (!current.state.evidenceGated && falsy current.orderRef &&
      falsy current.paymentRef) = true := by
    rcases hasks with hasks | hasks | hasks <;> simp [hasks]
  unfold reenter
  rw [exec_bind_ok handle (exec_canonicalRef ref w), exec_bind_ok handle (exec_required_of hget)]
  rw [if_neg hnot, exec_ask_bind]
  dsimp only [handle, Upstream.answer]
  rw [hreconciled, exec_bind_ok handle (by rw [exec_ofExcept])]

theorem exec_reenter_of {ref : String} {w : World π} {current : CustomerSessionSnapshot}
    {state : ChannelState} {p : UpstreamStateProjection} (hasks : AsksReconciliation current)
    (h : ReenterEnabled w ref current state p) :
    (exec handle (reenter ref) w).2 = w.stored (current.replace (reenterChanges state p)) := by
  rw [exec_reenter_reconciled h.found hasks h.reconciled, h.matched, h.projected]
  rfl

theorem reenter_cases (ref : String) (w : World π) :
    (∃ current state p, AsksReconciliation current ∧ ReenterEnabled w ref current state p ∧
      (ChannelOp.upstream (.reconcileSession current), w) ∈ issued handle (reenter ref) w ∧
      ∃ named, exec handle (reenter ref) w =
        (.ok named, w.stored (current.replace (reenterChanges state p)))) ∨
    ∃ r, exec handle (reenter ref) w = (r, w) := by
  unfold reenter
  rw [exec_bind_ok handle (exec_canonicalRef ref w)]
  cases hget : w.sessions.get ref with
  | none => exact .inr ⟨_, exec_bind_error handle (by rw [exec_required, hget]) _⟩
  | some current =>
      rw [exec_bind_ok handle (exec_required_of hget)]
      split
      · exact .inr ⟨_, rfl⟩
      next hreconciles =>
      rw [exec_ask_bind]
      dsimp only [handle, Upstream.answer]
      cases hrec : w.upstream.reconcileSession current with
      | error e => exact .inr ⟨_, rfl⟩
      | ok found =>
          cases found with
          | none => exact .inr ⟨_, rfl⟩
          | some p =>
              rw [exec_bind_ok handle (by rw [exec_ofExcept])]
              dsimp only
              cases hmatch : assertEvidenceMatchesSession current p with
              | error e => exact .inr ⟨_, rfl⟩
              | ok _ =>
                  cases hstate : stateFromProjection p with
                  | error e => exact .inr ⟨_, rfl⟩
                  | ok state =>
                      have hasks : AsksReconciliation current := by
                        simpa [AsksReconciliation, imp_iff_not_or, or_assoc] using hreconciles
                      refine .inl ⟨current, state, p, hasks, ⟨hget, hrec, hmatch, hstate⟩, ?_, _,
                        rfl⟩
                      refine mem_issued_bind_of_ok handle (exec_canonicalRef ref w) ?_
                      refine mem_issued_bind_of_ok handle (exec_required_of hget) ?_
                      rw [if_neg hreconciles]
                      exact List.mem_cons_self

/-! ## Rotation -/

/-- What a rotation that happened found. -/
structure ResumeEnabled (w : World π) (args : ResumeSessionArgs)
    (current stored : CustomerSessionSnapshot) : Prop where
  canonical : w.sessions.canonicalRef args.sessionRef = args.sessionRef
  found : w.sessions.get args.sessionRef = some current
  secure : current.securityBindingComplete = true
  active : current.staleOrRotated = false
  unexpired : current.expiredAt args.nowEpoch = false
  attested : svc.Reattested w.upstream current
  storedActive : stored.staleOrRotated = false
  foundStored : w.sessions.get current.sessionRef = some stored

omit [XBOSOrderPort π] [Hashlib] in
/-- Where sessions are stored under their own references, the session that is rotated is the one
that was read. -/
theorem ResumeEnabled.stored_eq {w : World π} {args : ResumeSessionArgs}
    {current stored : CustomerSessionSnapshot} (h : svc.ResumeEnabled w args current stored)
    (hk : ∀ k s, w.sessions.sessions.get? k = some s → s.sessionRef = k) :
    w.sessions.canonicalRef current.sessionRef = current.sessionRef ∧ stored = current := by
  have href : current.sessionRef = args.sessionRef := (hk _ _ h.found).trans h.canonical
  have hstored := h.foundStored
  rw [href, h.found] at hstored
  rw [href]
  exact ⟨h.canonical, (Option.some.inj hstored).symm⟩

/-- The binding that a resumption names, found and matching the session. -/
def BindingAccepted (u : Upstream) (s : CustomerSessionSnapshot) (bindingRef : String)
    (nowEpoch : Int) : Prop :=
  ∃ binding, u.resolveBinding bindingRef = some binding ∧ nowEpoch < binding.expiresAtEpoch ∧
    some binding.identityRef = s.ownerIdentityRef ∧
    binding.conversationRef = s.conversationRef ∧
    s.boundContext = binding.boundContext s.entryPurpose

theorem checkResumeBinding_cases (s : CustomerSessionSnapshot) (bindingRef : String)
    (nowEpoch : Int) (w : World π) :
    (BindingAccepted w.upstream s bindingRef nowEpoch ∧
      exec handle (checkResumeBinding s bindingRef nowEpoch) w = (.ok (), w)) ∨
    (¬ BindingAccepted w.upstream s bindingRef nowEpoch ∧
      ∃ e, exec handle (checkResumeBinding s bindingRef nowEpoch) w = (.error e, w)) := by
  unfold checkResumeBinding
  rw [exec_ask_bind]
  dsimp only [handle, Upstream.answer]
  cases hfound : w.upstream.resolveBinding bindingRef with
  | none =>
      refine .inr ⟨?_, _, rfl⟩
      rintro ⟨binding, h, -⟩
      rw [hfound] at h
      cases h
  | some binding =>
      dsimp only
      -- each check that fails is one that acceptance asks for
      have haccepted (h : BindingAccepted w.upstream s bindingRef nowEpoch) :
          nowEpoch < binding.expiresAtEpoch ∧ some binding.identityRef = s.ownerIdentityRef ∧
            binding.conversationRef = s.conversationRef ∧
            s.boundContext = binding.boundContext s.entryPurpose := by
        obtain ⟨b, hb, hrest⟩ := h
        obtain rfl := Option.some.inj (hfound.symm.trans hb)
        exact hrest
      rw [exec_raiseIf_bind]
      split
      · next hexpired => exact .inr ⟨fun h => by have := haccepted h; omega, _, rfl⟩
      next hunexpired =>
      rw [exec_raiseIf_bind]
      split
      · next howner => exact .inr ⟨fun h => howner (haccepted h).2.1, _, rfl⟩
      next howner =>
      rw [exec_raiseIf_bind]
      split
      · next hconversation => exact .inr ⟨fun h => hconversation (haccepted h).2.2.1, _, rfl⟩
      next hconversation =>
      rw [exec_raiseIf]
      split
      · next hcontext => exact .inr ⟨fun h => hcontext (haccepted h).2.2.2, _, rfl⟩
      next hcontext =>
      exact .inl ⟨⟨binding, hfound, not_le.mp hunexpired, not_not.mp howner,
        not_not.mp hconversation, not_not.mp hcontext⟩, rfl⟩

theorem resumeSession_ends (args : ResumeSessionArgs) (newRef : String) (w : World π) :
    (∃ current stored bindingRef, svc.ResumeEnabled w args current stored ∧
      svc.identityBindingStore = true ∧ args.identityBindingRef = some bindingRef ∧
      BindingAccepted w.upstream current bindingRef args.nowEpoch ∧
      exec handle (svc.resumeSession args newRef) w =
        (.ok (replacementFor current newRef),
          w.rotated (w.sessions.canonicalRef current.sessionRef) stored args.nowEpoch
            (replacementFor current newRef))) ∨
    ∃ e, exec handle (svc.resumeSession args newRef) w = (.error e, w) := by
  unfold resumeSession
  rw [exec_raiseIf_bind]
  split
  · exact .inr ⟨_, rfl⟩
  cases args.identityBindingRef with
  | none => exact .inr ⟨_, rfl⟩
  | some bindingRef =>
      dsimp only
      rw [exec_raiseIf_bind]
      split
      · exact .inr ⟨_, rfl⟩
      next hstore =>
      -- a legacy alias is no resume handle
      rw [exec_bind_ok handle (exec_canonicalRef _ w), exec_raiseIf_bind]
      split
      · exact .inr ⟨_, rfl⟩
      next hcanonical =>
      cases hget : w.sessions.get args.sessionRef with
      | none => exact .inr ⟨_, exec_bind_error handle (by rw [exec_required, hget]) _⟩
      | some current =>
          rw [exec_bind_ok handle (exec_required_of hget)]
          rw [exec_raiseIf_bind]
          split
          · exact .inr ⟨_, rfl⟩
          next hsecure =>
          rcases checkResumeBinding_cases current bindingRef args.nowEpoch w with
            ⟨haccepted, hcheck⟩ | ⟨-, e, hcheck⟩
          case inr => exact .inr ⟨e, exec_bind_error handle hcheck _⟩
          rw [exec_bind_ok handle hcheck, exec_raiseIf_bind]
          split
          · exact .inr ⟨_, rfl⟩
          next hunexpired =>
          rw [exec_raiseIf_bind]
          split
          · exact .inr ⟨_, rfl⟩
          next hactive =>
          rcases svc.reattest_cases current w with ⟨hatt, hexec⟩ | ⟨-, e, hexec⟩
          case inr => exact .inr ⟨e, exec_bind_error handle hexec _⟩
          -- all checks have passed: what is left is the rotation itself
          rw [exec_bind_ok handle hexec, exec_ask_bind]
          dsimp only [handle, InMemoryCustomerSessionStore.answer]
          rcases w.sessions.rotateIfActive_cases current.sessionRef
              (current.ownerIdentityRef.getD "") args.nowEpoch
              (replacementFor current newRef) with
            ⟨r, hrot, hr⟩ | ⟨stored, hstored, hsa, -, -, -, hrot⟩
          · rw [hrot]
            cases r with
            | error e => exact .inr ⟨e, rfl⟩
            | ok found =>
                cases found with
                | none => exact .inr ⟨_, rfl⟩
                | some s => exact absurd rfl (hr s)
          · rw [hrot]
            refine .inl ⟨current, stored, bindingRef, ⟨by simpa using hcanonical, hget,
              by simpa using hsecure, by simpa using hactive, by simpa using hunexpired, hatt,
              hsa, hstored⟩, by simpa using hstore, rfl, haccepted, rfl⟩

theorem resumeSession_cases (args : ResumeSessionArgs) (newRef : String) (w : World π) :
    (∃ current stored, svc.ResumeEnabled w args current stored ∧
      exec handle (svc.resumeSession args newRef) w =
        (.ok (replacementFor current newRef),
          w.rotated (w.sessions.canonicalRef current.sessionRef) stored args.nowEpoch
            (replacementFor current newRef))) ∨
    ∃ e, exec handle (svc.resumeSession args newRef) w = (.error e, w) := by
  rcases svc.resumeSession_ends args newRef w with
    ⟨current, stored, -, henabled, -, -, -, hexec⟩ | herror
  · exact .inl ⟨current, stored, henabled, hexec⟩
  · exact .inr herror

/-! ## Creation -/

/-- A session as `create_session` stores it: at the start, and nobody's successor. -/
structure Newborn (s : CustomerSessionSnapshot) (ref : String) : Prop where
  sessionRef : s.sessionRef = ref
  state : s.state = .start
  orderRef : s.orderRef = none
  paymentRef : s.paymentRef = none
  predecessor : s.predecessorSessionRef = none
  rotatedTo : s.rotatedToSessionRef = none
  invalidated : s.invalidatedAtEpoch = none

omit [Hashlib] in
theorem newborn_secureSession (args : CreateSessionArgs) (ref : String)
    (entry : ResolvedEntryContext) (binding : IdentityBindingRecord) (now expires : Int) :
    Newborn (secureSession args ref entry binding now expires) ref :=
  ⟨rfl, rfl, rfl, rfl, rfl, rfl, rfl⟩

omit [Hashlib] in
theorem newborn_fixtureSession (args : CreateSessionArgs) (ref : String) :
    Newborn (fixtureSession args ref) ref := ⟨rfl, rfl, rfl, rfl, rfl, rfl, rfl⟩

/-- The session is bound to what the identity binding says, and does not outlive it. -/
structure BoundTo (s : CustomerSessionSnapshot) (binding : IdentityBindingRecord) : Prop where
  owner : s.ownerIdentityRef = some binding.identityRef
  conversation : s.conversationRef = binding.conversationRef
  context : s.boundContext = binding.boundContext s.entryPurpose
  expires : ∃ e, s.expiresAtEpoch = some e ∧ e ≤ binding.expiresAtEpoch

/-- One of the operations resolved the binding of the session. -/
def Bound (ops : List (Channel.Op × World π)) (s : CustomerSessionSnapshot) : Prop :=
  ∃ ref w binding, (ChannelOp.upstream (.resolveBinding ref), w) ∈ ops ∧
    w.upstream.resolveBinding ref = some binding ∧ BoundTo s binding

/-- A binding that is accepted is one that was resolved and matches. -/
theorem bindingForEntryContext_ok {bindingRef conversationRef : String}
    {entry : ResolvedEntryContext} {now : Int} {w w' : World π} {binding : IdentityBindingRecord}
    (h : exec handle (svc.bindingForEntryContext bindingRef conversationRef entry now) w =
      (.ok binding, w')) :
    (ChannelOp.upstream (.resolveBinding bindingRef), w) ∈
        issued handle (svc.bindingForEntryContext bindingRef conversationRef entry now) w ∧
      w.upstream.resolveBinding bindingRef = some binding ∧
      binding.conversationRef = conversationRef ∧
      entry.boundContext = binding.boundContext (some entry.purpose) := by
  unfold bindingForEntryContext at h ⊢
  obtain ⟨hstore, h⟩ := raiseIf_bind_ok_inv handle h
  rw [exec_ask_bind] at h
  refine ⟨mem_issued_bind_of_ok handle (by rw [exec_raiseIf, if_neg hstore]) List.mem_cons_self, ?_⟩
  dsimp only [handle, Upstream.answer] at h
  cases hfound : w.upstream.resolveBinding bindingRef with
  | none =>
      rw [hfound] at h
      cases h
  | some found =>
      rw [hfound] at h
      dsimp only at h
      obtain ⟨-, h⟩ := raiseIf_bind_ok_inv handle h
      obtain ⟨hconversation, h⟩ := raiseIf_bind_ok_inv handle h
      obtain ⟨hcontext, h⟩ := raiseIf_bind_ok_inv handle h
      obtain rfl := Except.ok.inj (congrArg Prod.fst h)
      exact ⟨rfl, not_not.mp hconversation, not_not.mp hcontext⟩

theorem createSecureSession_cases (args : CreateSessionArgs) (actualRef : String) (w : World π) :
    (∃ s, Newborn s actualRef ∧
      exec handle (svc.createSecureSession args actualRef) w = (.ok s, w.stored s)) ∨
    ∃ e, exec handle (svc.createSecureSession args actualRef) w = (.error e, w) := by
  unfold createSecureSession
  rw [exec_raiseIf_bind]
  split
  · exact .inr ⟨_, rfl⟩
  split
  case h_2 => exact .inr ⟨_, rfl⟩
  next bindingRef entry now expires _ _ _ _ =>
  rw [exec_raiseIf_bind]
  split
  · exact .inr ⟨_, rfl⟩
  rw [exec_raiseIf_bind]
  split
  · exact .inr ⟨_, rfl⟩
  rcases exec_of_reads (svc.uses_assertEntryContextCurrent entry) w with ⟨_, h⟩ | ⟨e, h⟩
  case inr => exact .inr ⟨e, exec_bind_error handle h _⟩
  rw [exec_bind_ok handle h]
  rcases exec_of_reads (svc.uses_bindingForEntryContext bindingRef args.conversationRef entry now) w
    with ⟨binding, h⟩ | ⟨e, h⟩
  case inr => exact .inr ⟨e, exec_bind_error handle h _⟩
  rw [exec_bind_ok handle h, exec_raiseIf_bind]
  split
  · exact .inr ⟨_, rfl⟩
  refine .inl ⟨_, newborn_secureSession args actualRef entry binding now expires, ?_⟩
  rw [exec_put, CustomerSessionSnapshot.replace_empty]

/-- A secure session is created for a binding that the creation resolved. -/
theorem createSecureSession_bound {args : CreateSessionArgs} {actualRef : String} {w w' : World π}
    {s : CustomerSessionSnapshot}
    (h : exec handle (svc.createSecureSession args actualRef) w = (.ok s, w')) :
    Bound (issued handle (svc.createSecureSession args actualRef) w) s := by
  have hpass {p : Prop} [Decidable p] (e : Exc) (hp : ¬ p) :
      exec handle (raiseIf p e : Service Unit) w = (.ok (), w) := by
    rw [exec_raiseIf, if_neg hp]
  unfold createSecureSession at h ⊢
  obtain ⟨howner, h⟩ := raiseIf_bind_ok_inv handle h
  split at h
  case h_2 => cases h
  next bindingRef entry now expires _ _ _ _ =>
  obtain ⟨hfuture, h⟩ := raiseIf_bind_ok_inv handle h
  obtain ⟨htoken, h⟩ := raiseIf_bind_ok_inv handle h
  rcases exec_of_reads (svc.uses_assertEntryContextCurrent entry) w with ⟨_, hcurrent⟩ | ⟨e, herror⟩
  case inr =>
    rw [exec_bind_error handle herror] at h
    cases h
  rw [exec_bind_ok handle hcurrent] at h
  obtain ⟨binding, w₁, hbinding, h⟩ := bind_ok_inv handle h
  obtain ⟨hissued, hresolved, hconversation, hcontext⟩ := svc.bindingForEntryContext_ok hbinding
  obtain ⟨houtlives, h⟩ := raiseIf_bind_ok_inv handle h
  rw [exec_put, CustomerSessionSnapshot.replace_empty] at h
  obtain rfl := Except.ok.inj (congrArg Prod.fst h)
  refine ⟨bindingRef, w, binding, ?_, hresolved, rfl, hconversation.symm, hcontext, expires, rfl,
    not_lt.mp houtlives⟩
  refine mem_issued_bind_of_ok handle (hpass _ howner) ?_
  refine mem_issued_bind_of_ok handle (hpass _ hfuture) ?_
  refine mem_issued_bind_of_ok handle (hpass _ htoken) ?_
  refine mem_issued_bind_of_ok handle hcurrent ?_
  exact mem_issued_bind_left handle hissued _

/-- A session created without a security binding is stored before its alias is checked. -/
theorem createSession_cases (args : CreateSessionArgs) (actualRef : String) (w : World π) :
    (∃ e, exec handle (svc.createSession args actualRef) w = (.error e, w)) ∨
    ∃ s, Newborn s actualRef ∧
      (s.securityBindingComplete = true →
        Bound (issued handle (svc.createSession args actualRef) w) s) ∧ ∃ r aliases,
      exec handle (svc.createSession args actualRef) w =
        (r, { w with
          sessions := { w.sessions with
            sessions := w.sessions.sessions.set actualRef s
            aliases := aliases } }) ∧
      (aliases = w.sessions.aliases ∨
        ∃ a, (w.sessions.sessions.set actualRef s).get? a = none ∧
          w.sessions.aliases.get? a = none ∧ aliases = w.sessions.aliases.set a actualRef) := by
  unfold createSession
  split
  · rcases svc.createSecureSession_cases args actualRef w with ⟨s, hs, h⟩ | h
    · refine .inr ⟨s, hs, fun _ => svc.createSecureSession_bound h, .ok s, w.sessions.aliases, ?_,
        .inl rfl⟩
      rw [h, World.stored, InMemoryCustomerSessionStore.put, hs.sessionRef]
    · exact .inl h
  -- only a fixture alias; the store decides
  refine .inr ⟨fixtureSession args actualRef, newborn_fixtureSession args actualRef,
    fun hsecure => (by cases hsecure), ?_⟩
  rw [exec_ask_bind]
  dsimp only [handle, InMemoryCustomerSessionStore.answer]
  obtain ⟨r, aliases, hput, haliases⟩ :=
    w.sessions.putWithLegacyAlias_cases (fixtureSession args actualRef) args.sessionRef
  rw [hput]
  cases r with
  | error e => exact ⟨_, aliases, rfl, haliases⟩
  | ok stored =>
      cases args.sessionRef with
      | none => exact ⟨_, aliases, rfl, haliases⟩
      | some a => exact ⟨_, aliases, rfl, haliases⟩

end CustomerSessionService

end XbosCustomerChannel
