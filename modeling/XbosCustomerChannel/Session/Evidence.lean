import XbosCustomerChannel.Session.Lineage

/-!
# Evidence gating

A session is in a gated state only if the service itself obtained a projection that says so, for
the session or for one it was rotated from. The property travels with the session: along changes
that leave its evidence alone, and along rotations to its successor.
-/

namespace XbosCustomerChannel

open Effects Effects.Program Data

/-- The projection's commercial state supports the channel state. -/
def UpstreamStateProjection.Supports (p : UpstreamStateProjection) : ChannelState → Prop
  | .orderCreated => p.orderState = some .created ∨ p.orderState = some .confirmed
  | .paymentPending => p.paymentState = some .pending
  | .paid => p.paymentState = some .paid
  | .fulfillment => p.fulfillmentState = some .active
  | .completed => p.fulfillmentState = some .completed
  | _ => True

theorem supports_of_assertProjectionSupports {state : ChannelState} {p : UpstreamStateProjection}
    (h : assertProjectionSupports state p = .ok ()) : p.Supports state := by
  unfold assertProjectionSupports at h
  cases state with
  | orderCreated =>
      by_contra hno
      rw [if_pos (by simpa [UpstreamStateProjection.Supports] using hno)] at h
      cases h
  | paymentPending =>
      by_contra hno
      rw [if_neg (by simp), if_pos ⟨rfl, hno⟩] at h
      cases h
  | paid =>
      by_contra hno
      rw [if_neg (by simp), if_neg (by simp), if_pos ⟨rfl, hno⟩] at h
      cases h
  | fulfillment =>
      by_contra hno
      rw [if_neg (by simp), if_neg (by simp), if_neg (by simp), if_pos ⟨rfl, hno⟩] at h
      cases h
  | completed =>
      by_contra hno
      rw [if_neg (by simp), if_neg (by simp), if_neg (by simp), if_neg (by simp),
        if_pos ⟨rfl, hno⟩] at h
      cases h
  | _ => trivial

theorem correlationRef_of_assertEvidenceMatchesSession {s : CustomerSessionSnapshot}
    {p : UpstreamStateProjection} (h : assertEvidenceMatchesSession s p = .ok ()) :
    p.correlationRef = s.correlationRef := by
  by_contra hne
  unfold assertEvidenceMatchesSession at h
  rw [if_pos hne] at h
  cases h

/-! ## The witness of a gated session -/

section Gated

variable {π : Type}

/-- The projection backs the session: obtained for its lineage, for its correlation, as its last
evidence, supporting its state, with the references it has. -/
structure GatedBy (ops : List (Channel.Op × World π)) (w : World π) (s : CustomerSessionSnapshot)
    (p : UpstreamStateProjection) : Prop where
  obtained : ∃ ancestor, Obtained ops ancestor p ∧ w.Lineage ancestor.sessionRef s.sessionRef
  correlation : p.correlationRef = s.correlationRef
  evidence : s.lastUpstreamEvidenceRef = some p.evidenceRef
  supports : p.Supports s.state
  order : falsy p.orderRef = false → s.orderRef = p.orderRef
  payment : falsy p.paymentRef = false → s.paymentRef = p.paymentRef

/-- A session that looks the same to its evidence, further on in the lineage. -/
theorem GatedBy.carry {ops ops' : List (Channel.Op × World π)} {w w' : World π}
    {s s' : CustomerSessionSnapshot} {p : UpstreamStateProjection} (h : GatedBy ops w s p)
    (hops : ops ⊆ ops') (hlineage : ∀ a, w.Lineage a s.sessionRef → w'.Lineage a s'.sessionRef)
    (hcorrelation : s'.correlationRef = s.correlationRef)
    (hevidence : s'.lastUpstreamEvidenceRef = s.lastUpstreamEvidenceRef)
    (hstate : s'.state = s.state) (horder : s'.orderRef = s.orderRef)
    (hpayment : s'.paymentRef = s.paymentRef) : GatedBy ops' w' s' p where
  obtained := by
    obtain ⟨ancestor, hobtained, ha⟩ := h.obtained
    exact ⟨ancestor, hobtained.mono hops, hlineage _ ha⟩
  correlation := h.correlation.trans hcorrelation.symm
  evidence := hevidence.trans h.evidence
  supports := hstate ▸ h.supports
  order hp := horder.trans (h.order hp)
  payment hp := hpayment.trans (h.payment hp)

/-- Every stored session in a gated state has its witness. -/
def Gated (ops : List (Channel.Op × World π)) (w : World π) : Prop :=
  ∀ key s, w.sessions.sessions.get? key = some s → s.state.evidenceGated = true →
    ∃ p, GatedBy ops w s p

/-- A change either brings its own evidence or leaves the session's evidence as it was. -/
theorem gatedBy_changed {ops ops' : List (Channel.Op × World π)} {w w' : World π}
    {current : CustomerSessionSnapshot} {changes : SessionChanges}
    (hcurrent : current.state.evidenceGated = true → ∃ p, GatedBy ops w current p)
    (hbacked : Backed ops' current changes)
    (hlineage : ∀ a b, w.Lineage a b → w'.Lineage a b)
    (hgated : (current.replace changes).state.evidenceGated = true) :
    ∃ p, GatedBy (ops ++ ops') w' (current.replace changes) p := by
  cases hbacked with
  | unaided hstate horder hpayment hevidence =>
      -- the state cannot have been entered by this change
      have hsame : (current.replace changes).state = current.state := by
        cases hnew : changes.state with
        | none => simp [CustomerSessionSnapshot.replace, hnew]
        | some state =>
            have hstate := hstate state hnew
            simp [CustomerSessionSnapshot.replace, hnew, hstate] at hgated
      rw [hsame] at hgated
      obtain ⟨p, hp⟩ := hcurrent hgated
      exact ⟨p, hp.carry (List.subset_append_left _ _) (fun a => hlineage a _) rfl
        (by simp [CustomerSessionSnapshot.replace, hevidence]) hsame
        (by simp [CustomerSessionSnapshot.replace, horder])
        (by simp [CustomerSessionSnapshot.replace, hpayment])⟩
  | @evidence state p hobtained hmatched hsupports hstate horder hpayment hevidence =>
      have hnew : (current.replace changes).state = state := by
        simp [CustomerSessionSnapshot.replace, hstate]
      rw [hnew] at hgated
      refine ⟨p, ⟨current, hobtained.mono (List.subset_append_right _ _), .refl⟩,
        (correlationRef_of_assertEvidenceMatchesSession hmatched :), ?_, ?_, ?_, ?_⟩
      · simp [CustomerSessionSnapshot.replace, hevidence]
      · rw [hnew]
        exact supports_of_assertProjectionSupports (hsupports hgated)
      · intro hp
        rw [← horder] at hp ⊢
        exact pyOr_of_not_falsy hp _
      · intro hp
        rw [← hpayment] at hp ⊢
        exact pyOr_of_not_falsy hp _

theorem Gated.effect {T ops : List (Channel.Op × World π)} {w w' : World π} (h : Gated T w)
    (heff : SessionEffect ops w w') : Gated (T ++ ops) w' := by
  intro key s hs hgated
  have hlineage (a b : String) : w.Lineage a b → w'.Lineage a b := heff.lineage
  cases heff.storedAfter hs with
  | same hold =>
      obtain ⟨p, hp⟩ := h key s hold hgated
      exact ⟨p, hp.carry (List.subset_append_left _ _) (fun a => hlineage a _) rfl rfl rfl rfl rfl⟩
  | changed hstored hbacked => exact gatedBy_changed (h _ _ hstored) hbacked hlineage hgated
  | rotatedOut hstored _ _ =>
      obtain ⟨p, hp⟩ := h _ _ hstored hgated
      exact ⟨p, hp.carry (List.subset_append_left _ _) (fun a => hlineage a _) rfl rfl rfl rfl rfl⟩
  | successor hstored _ _ _ =>
      obtain ⟨p, hp⟩ := h _ _ hstored hgated
      refine ⟨p, hp.carry (List.subset_append_left _ _) (fun a ha => ?_) rfl rfl rfl rfl rfl⟩
      exact (hlineage a _ ha).tail ⟨_, hs, rfl⟩
  | created hnewborn _ _ =>
      rw [hnewborn.state] at hgated
      cases hgated

theorem survives_gated : Survives fun T (w : World π) => w.Keyed ∧ Gated T w where
  keyed _ _ h := h.1
  effect _ _ _ _ h heff hk := ⟨hk, h.2.effect heff⟩

variable [XBOSOrderPort π] [Hashlib] (svc : OrderDraftConfirmationService)

/-- A caller's own projection is refused before anything is written. -/
theorem step_transition_of_upstreamEvidence (w : World π) {args : TransitionArgs}
    (h : args.upstreamEvidence.isSome = true) : step svc w (.transition args) = w := by
  show (exec handle (svc.sessions.transition args).void w).2 = w
  rw [exec_void_state]
  rcases svc.sessions.transition_cases w args with
    ⟨current, refs, henabled, -⟩ | ⟨prior, -, hexec⟩ | ⟨-, e, hexec⟩
  · rw [henabled.unaided] at h
    cases h
  · rw [hexec]
  · rw [hexec]

/-- In every state a run reaches, every stored session in a gated state has a projection, obtained
by the service for the session's lineage in that run, that backs it; and a projection supplied by
a caller moves nothing. -/
theorem run_evidenceGated (orders : π) (upstream : Upstream) (refs : RefSource)
    (calls : List (ChannelCall π)) :
    Gated (trace svc (World.start orders upstream refs) calls)
        (run svc (World.start orders upstream refs) calls) ∧
      ∀ args : TransitionArgs, args.upstreamEvidence.isSome = true →
        step svc (run svc (World.start orders upstream refs) calls) (.transition args) =
          run svc (World.start orders upstream refs) calls := by
  refine ⟨?_, fun args h => step_transition_of_upstreamEvidence svc _ h⟩
  have hempty : Gated [] (World.start orders upstream refs) := by
    intro key s hs
    cases hs
  exact (survives_gated.of_trace svc (T := []) ⟨start_keyed orders upstream refs, hempty⟩ calls).2

end Gated

end XbosCustomerChannel
