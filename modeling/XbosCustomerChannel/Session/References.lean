import XbosCustomerChannel.Session.Chain
import XbosCustomerChannel.Session.Frozen

/-!
# References to the order and the payment

A session is given the reference of its order, and of its payment, by upstream evidence, once: what
is there is checked against what comes. Along a lineage the reference is handed on by the rotation,
so what a predecessor is given after it was rotated out does not reach the sessions after it.
-/

namespace XbosCustomerChannel

open Effects Effects.Program Data

/-- The two references that upstream evidence gives. -/
inductive UpstreamRef
  | order
  | payment
  deriving DecidableEq, Repr

namespace UpstreamRef

def ofSession : UpstreamRef → CustomerSessionSnapshot → Option String
  | order, s => s.orderRef
  | payment, s => s.paymentRef

def ofProjection : UpstreamRef → UpstreamStateProjection → Option String
  | order, p => p.orderRef
  | payment, p => p.paymentRef

def ofChanges : UpstreamRef → SessionChanges → Option String
  | order, c => c.orderRef
  | payment, c => c.paymentRef

variable (r : UpstreamRef)

@[simp] theorem ofSession_replace (s : CustomerSessionSnapshot) (changes : SessionChanges) :
    r.ofSession (s.replace changes) = pyOr (r.ofChanges changes) (r.ofSession s) := by
  cases r <;> rfl

@[simp] theorem ofSession_replacementFor (s : CustomerSessionSnapshot) (newRef : String) :
    r.ofSession (CustomerSessionService.replacementFor s newRef) = r.ofSession s := by
  cases r <;> rfl

@[simp] theorem ofSession_rotatedOut (s : CustomerSessionSnapshot) (now : Int) (newRef : String) :
    r.ofSession
      { s with
        invalidatedAtEpoch := some now
        rotatedToSessionRef := some newRef } = r.ofSession s := by
  cases r <;> rfl

@[simp] theorem ofChanges_reenterChanges (state : ChannelState) (p : UpstreamStateProjection) :
    r.ofChanges (CustomerSessionService.reenterChanges state p) = r.ofProjection p := by
  cases r <;> rfl

/-- The projection names another reference than the session has. -/
def Differs (p : UpstreamStateProjection) (s : CustomerSessionSnapshot) : Prop :=
  falsy (r.ofProjection p) = false ∧ falsy (r.ofSession s) = false ∧
    r.ofProjection p ≠ r.ofSession s

end UpstreamRef

theorem isSome_of_not_falsy {a : Option String} (h : falsy a = false) : a.isSome = true := by
  cases a with
  | none => cases h
  | some s => rfl

/-- Evidence that names another reference does not match. -/
theorem UpstreamRef.Differs.mismatch {r : UpstreamRef} {p : UpstreamStateProjection}
    {s : CustomerSessionSnapshot} (h : r.Differs p s) :
    assertEvidenceMatchesSession s p ≠ .ok () := by
  obtain ⟨hp, hs, hne⟩ := h
  have hp := isSome_of_not_falsy hp
  have hs := isSome_of_not_falsy hs
  intro hmatched
  unfold assertEvidenceMatchesSession at hmatched
  split at hmatched
  · cases hmatched
  split at hmatched
  · cases hmatched
  next horder =>
  split at hmatched
  · cases hmatched
  next hpayment =>
  cases r with
  | order => exact horder ⟨hs, hp, Ne.symm hne⟩
  | payment => exact hpayment ⟨hs, hp, Ne.symm hne⟩

variable {π : Type} {w w' : World π} (r : UpstreamRef)

/-! ## One record -/

/-- A reference that is there is not changed. -/
theorem Backed.keepsRef {ops : List (Channel.Op × World π)} {current : CustomerSessionSnapshot}
    {changes : SessionChanges} (h : Backed ops current changes)
    (hthere : falsy (r.ofSession current) = false) :
    r.ofSession (current.replace changes) = r.ofSession current := by
  rw [r.ofSession_replace]
  cases h with
  | unaided _ horder hpayment _ =>
      have hnone : r.ofChanges changes = none := by cases r <;> assumption
      rw [hnone, pyOr_none]
  | @evidence state p _ hmatched _ _ horder hpayment _ =>
      have hsame : r.ofChanges changes = r.ofProjection p := by cases r <;> assumption
      rw [hsame]
      cases hp : falsy (r.ofProjection p) with
      | true => rw [pyOr_of_falsy hp]
      | false =>
          rw [pyOr_of_not_falsy hp]
          by_contra hne
          exact UpstreamRef.Differs.mismatch ⟨hp, hthere, hne⟩ hmatched

theorem SessionEffect.keepsRef {ops : List (Channel.Op × World π)}
    (heff : SessionEffect ops w w') {key : String} {s : CustomerSessionSnapshot}
    (hs : w.sessions.sessions.get? key = some s) (hthere : falsy (r.ofSession s) = false) :
    ∃ s', w'.sessions.sessions.get? key = some s' ∧ r.ofSession s' = r.ofSession s := by
  cases heff with
  | kept hsessions _ => exact ⟨s, by rw [hsessions]; exact hs, rfl⟩
  | @changed current changes hstored hbacked hsessions _ =>
      rw [hsessions]
      by_cases hkey : key = current.sessionRef
      · subst hkey
        obtain rfl := Option.some.inj (hs.symm.trans hstored)
        exact ⟨_, Dict.get?_set_self _ _ _, hbacked.keepsRef r hthere⟩
      · exact ⟨s, by rw [Dict.get?_set_of_ne _ hkey]; exact hs, rfl⟩
  | @rotated current now newRef hstored _ hnew hsessions _ =>
      rw [hsessions, Dict.get?_set_of_ne _ (World.ne_of_fresh hs hnew)]
      by_cases hkey : key = current.sessionRef
      · subst hkey
        obtain rfl := Option.some.inj (hs.symm.trans hstored)
        exact ⟨_, Dict.get?_set_self _ _ _, r.ofSession_rotatedOut _ _ _⟩
      · exact ⟨s, by rw [Dict.get?_set_of_ne _ hkey]; exact hs, rfl⟩
  | @created new _ hnew hsessions _ =>
      rw [hsessions, Dict.get?_set_of_ne _ (World.ne_of_fresh hs hnew)]
      exact ⟨s, hs, rfl⟩

theorem run_keepsRef [XBOSOrderPort π] [Hashlib] (svc : OrderDraftConfirmationService)
    (hk : w.Keyed) {key : String} {s : CustomerSessionSnapshot}
    (hs : w.sessions.sessions.get? key = some s) (hthere : falsy (r.ofSession s) = false)
    (calls : List (ChannelCall π)) :
    ∃ s', (run svc w calls).sessions.sessions.get? key = some s' ∧
      r.ofSession s' = r.ofSession s := by
  have hsurvives : Survives fun _ (w : World π) => w.Keyed ∧
      ∃ s', w.sessions.sessions.get? key = some s' ∧ r.ofSession s' = r.ofSession s :=
    { keyed := fun _ _ h => h.1
      effect := by
        rintro _ _ w w' ⟨-, s', hs', hsame⟩ heff hk'
        rw [← hsame] at hthere
        obtain ⟨s'', hs'', hsame'⟩ := heff.keepsRef r hs' hthere
        exact ⟨hk', s'', hs'', hsame'.trans hsame⟩ }
  exact (hsurvives.of_trace svc (T := []) ⟨hk, s, hs, rfl⟩ calls).2

/-! ## A lineage -/

/-- A successor has the reference its predecessor has. -/
def World.Agrees (w : World π) : Prop :=
  ∀ key s a p, w.sessions.sessions.get? key = some s → s.predecessorSessionRef = some a →
    w.sessions.sessions.get? a = some p → falsy (r.ofSession p) = false →
      r.ofSession s = r.ofSession p

/-- So has every session after it. -/
theorem World.Agrees.lineage {r : UpstreamRef} (h : w.Agrees r) (hl : w.Lineal) {a b : String}
    (hab : w.Lineage a b) {s t : CustomerSessionSnapshot}
    (hs : w.sessions.sessions.get? a = some s) (ht : w.sessions.sessions.get? b = some t)
    (hthere : falsy (r.ofSession s) = false) : r.ofSession t = r.ofSession s := by
  induction hab generalizing t with
  | refl =>
      obtain rfl := Option.some.inj (hs.symm.trans ht)
      rfl
  | @tail b c _ hbc ih =>
      obtain ⟨t', ht', hnamed⟩ := hbc
      obtain rfl := Option.some.inj (ht.symm.trans ht')
      obtain ⟨p, hp, -⟩ := hl.predecessor c t b ht hnamed
      have hsame := ih hp
      rw [h c t b p ht hnamed hp (by rw [hsame]; exact hthere), hsame]

/-- A session that is given a reference by an effect, if it has a successor, is given that of the
successor. -/
def GivesAgreed (w w' : World π) : Prop :=
  ∀ key s s', w.sessions.sessions.get? key = some s → w'.sessions.sessions.get? key = some s' →
    r.ofSession s' ≠ r.ofSession s →
      ∀ next t, w.sessions.sessions.get? next = some t → t.predecessorSessionRef = some key →
        r.ofSession t = r.ofSession s'

/-- A link between sessions that were there before, whatever their records are now. -/
theorem SessionEffect.linked_agree {r : UpstreamRef} {ops : List (Channel.Op × World π)}
    (heff : SessionEffect ops w w') (h : w.Agrees r) (hgives : GivesAgreed r w w')
    {key a : String} {s s' p p' : CustomerSessionSnapshot}
    (hs : w.sessions.sessions.get? key = some s) (hs' : w'.sessions.sessions.get? key = some s')
    (hp : w.sessions.sessions.get? a = some p) (hp' : w'.sessions.sessions.get? a = some p')
    (hnamed : s.predecessorSessionRef = some a) (hthere : falsy (r.ofSession p') = false) :
    r.ofSession s' = r.ofSession p' := by
  have hlink : r.ofSession s = r.ofSession p' := by
    by_cases hsame : r.ofSession p' = r.ofSession p
    · rw [hsame] at hthere ⊢
      exact h key s a p hs hnamed hp hthere
    · exact hgives a p p' hp hp' hsame key s hs hnamed
  obtain ⟨s'', hs'', hkept⟩ := heff.keepsRef r hs (by rw [hlink]; exact hthere)
  obtain rfl := Option.some.inj (hs'.symm.trans hs'')
  rw [hkept, hlink]

theorem SessionEffect.agrees {r : UpstreamRef} {ops : List (Channel.Op × World π)}
    (heff : SessionEffect ops w w') (hl : w.Lineal) (h : w.Agrees r) (hgives : GivesAgreed r w w') :
    w'.Agrees r := by
  intro key s' a p' hs' hnamed hp' hthere
  cases hsold : w.sessions.sessions.get? key with
  | some s =>
      obtain ⟨s'', hs'', hcontinues⟩ := heff.continues hsold
      obtain rfl := Option.some.inj (hs'.symm.trans hs'')
      rw [hcontinues.predecessor] at hnamed
      obtain ⟨p, hp, -⟩ := hl.predecessor key s a hsold hnamed
      exact heff.linked_agree h hgives hsold hs' hp hp' hnamed hthere
  | none =>
      cases heff.storedAfter hs' with
      | same hs =>
          rw [hsold] at hs
          cases hs
      | changed hstored _ =>
          rw [hstored] at hsold
          cases hsold
      | rotatedOut hstored _ _ =>
          rw [hstored] at hsold
          cases hsold
      | @successor current now _ _ _ _ hlast =>
          -- the successor is a copy
          obtain rfl : current.sessionRef = a := Option.some.inj hnamed
          obtain rfl := Option.some.inj (hlast.symm.trans hp')
          simp
      | created hnewborn _ _ =>
          rw [hnewborn.predecessor] at hnamed
          cases hnamed

/-- A session that has not been rotated has no successor to agree with. -/
theorem givesAgreed_of_frozen {r : UpstreamRef} (hl : w.Lineal)
    (hfrozen : ∀ key s, w.sessions.sessions.get? key = some s → s.staleOrRotated = true →
      w'.sessions.sessions.get? key = some s) : GivesAgreed r w w' := by
  intro key s s' hs hs' hnew next t ht hnamed
  cases hstale : s.staleOrRotated with
  | true =>
      obtain rfl := Option.some.inj (hs'.symm.trans (hfrozen key s hs hstale))
      exact absurd rfl hnew
  | false =>
      obtain ⟨p, hp, hrotated⟩ := hl.predecessor next t key ht hnamed
      obtain rfl := Option.some.inj (hs.symm.trans hp)
      simp [CustomerSessionSnapshot.staleOrRotated, hrotated] at hstale

section Calls

variable [XBOSOrderPort π] [Hashlib]

/-- Re-entry gives a session a reference it does not have, and that a successor of the session does
not have either. -/
def Strays (r : UpstreamRef) (w : World π) : ChannelCall π → Prop
  | .reenter ref =>
      ∃ s p state, w.sessions.get ref = some s ∧ CustomerSessionService.AsksReconciliation s ∧
        w.upstream.reconcileSession s = .ok (some p) ∧ assertEvidenceMatchesSession s p = .ok () ∧
        stateFromProjection p = .ok state ∧ falsy (r.ofSession s) = true ∧
        falsy (r.ofProjection p) = false ∧
        ∃ next t, w.sessions.sessions.get? next = some t ∧
          t.predecessorSessionRef = some (w.sessions.canonicalRef ref) ∧
          r.ofSession t ≠ r.ofProjection p
  | _ => False

variable (svc : OrderDraftConfirmationService)

/-- Chains whose sessions agree on both references. -/
def World.Uniform (w : World π) : Prop := w.Chained ∧ ∀ r, w.Agrees r

omit [XBOSOrderPort π] [Hashlib] in
theorem World.Uniform.effect {ops : List (Channel.Op × World π)} (h : w.Uniform)
    (heff : SessionEffect ops w w') (hk : w'.Keyed) (hgives : ∀ r, GivesAgreed r w w') :
    w'.Uniform :=
  ⟨h.1.effect heff hk, fun r => heff.agrees h.1.lineal (h.2 r) (hgives r)⟩

theorem keptByOrders_uniform :
    KeptByOrders svc fun _ (w : World π) => w.Uniform where
  keeps op T w hop hw := by
    refine hw.effect (handle_effect w hop) (handle_keyed op w hw.1.keyed) fun r => ?_
    refine givesAgreed_of_frozen hw.1.lineal fun key s hs _ => ?_
    cases op with
    | session op =>
        show (w.sessions.answer op).2.sessions.get? key = some s
        rw [w.sessions.answer_sessions hop]
        exact hs
    | _ => exact hs
  transition args T w hw := by
    have hk := hw.1.keyed
    refine hw.effect (svc.sessions.transition_effect hk args)
      (exec_invariant handle (fun op w _ => handle_keyed op w) (Uses.all _) hk) fun r => ?_
    exact givesAgreed_of_frozen hw.1.lineal fun key s hs hstale =>
      (transition_frozen svc.sessions hstale args ⟨hk, hs⟩).2

theorem attachInteractionRefs_givesAgreed (hk : w.Keyed) (ref : String)
    (cartRef quoteRef : Option String) :
    GivesAgreed r w
      (exec handle (CustomerSessionService.attachInteractionRefs ref cartRef quoteRef) w).2 := by
  intro key s s' hs hs' hnew
  exfalso
  apply hnew
  rcases CustomerSessionService.attachInteractionRefs_cases ref cartRef quoteRef w with
    ⟨current, hget, hexec⟩ | ⟨-, hexec⟩
  · have hstored := hk.get?_of_get hget
    rw [hexec] at hs'
    dsimp only at hs'
    rw [World.get?_stored, CustomerSessionSnapshot.replace_sessionRef] at hs'
    split at hs'
    · next hkey =>
      subst hkey
      obtain rfl := Option.some.inj (hs.symm.trans hstored)
      obtain rfl := Option.some.inj hs'
      cases r <;> rfl
    · obtain rfl := Option.some.inj (hs.symm.trans hs')
      rfl
  · rw [hexec] at hs'
    obtain rfl := Option.some.inj (hs.symm.trans hs')
    rfl

theorem reenter_givesAgreed (hk : w.Keyed) {ref : String} (hstrays : ¬ Strays r w (.reenter ref)) :
    GivesAgreed r w (exec handle (CustomerSessionService.reenter ref) w).2 := by
  intro key s s' hs hs' hnew next t ht hnamed
  rcases CustomerSessionService.reenter_cases ref w with
    ⟨current, state, p, hasks, henabled, -, named, hexec⟩ | ⟨_, hexec⟩
  · have href : current.sessionRef = w.sessions.canonicalRef ref := hk _ _ henabled.found
    rw [hexec] at hs'
    dsimp only at hs'
    rw [World.get?_stored, CustomerSessionSnapshot.replace_sessionRef] at hs'
    split at hs'
    · next hkey =>
      subst hkey
      obtain rfl := Option.some.inj (hs.symm.trans (hk.get?_of_get henabled.found))
      obtain rfl := Option.some.inj hs'
      rw [r.ofSession_replace, UpstreamRef.ofChanges_reenterChanges] at hnew ⊢
      have hrenews : Renews (r.ofProjection p) (r.ofSession s) := by
        by_contra hnot
        exact hnew (pyOr_eq_right_iff.mpr hnot)
      have hempty : falsy (r.ofSession s) = true := by
        by_contra hthere
        exact UpstreamRef.Differs.mismatch ⟨hrenews.1, by simpa using hthere, hrenews.2⟩
          henabled.matched
      rw [pyOr_of_not_falsy hrenews.1]
      by_contra hother
      exact hstrays ⟨s, p, state, henabled.found, hasks, henabled.reconciled, henabled.matched,
        henabled.projected, hempty, hrenews.1, next, t, ht, by rw [hnamed, href], hother⟩
    · obtain rfl := Option.some.inj (hs.symm.trans hs')
      exact absurd rfl hnew
  · rw [hexec] at hs'
    obtain rfl := Option.some.inj (hs.symm.trans hs')
    exact absurd rfl hnew

/-- A reference that has strayed is one that a successor does not have. -/
theorem not_agrees_of_strays (hc : w.Chained) {ref : String} (h : Strays r w (.reenter ref)) :
    ¬ (exec handle (CustomerSessionService.reenter ref) w).2.Agrees r := by
  obtain ⟨s, p, state, hget, hasks, hreconciled, hmatched, hprojected, -, hnames, next, t, ht,
    hnamed, hother⟩ := h
  have href : s.sessionRef = w.sessions.canonicalRef ref := hc.keyed _ _ hget
  rw [← href] at hnamed
  have hne : next ≠ s.sessionRef := by
    rintro rfl
    exact hc.acyclic _ (.single ⟨t, ht, hnamed⟩)
  intro hagrees
  rw [CustomerSessionService.exec_reenter_of hasks ⟨hget, hreconciled, hmatched, hprojected⟩]
    at hagrees
  have hnew : r.ofSession (s.replace (CustomerSessionService.reenterChanges state p)) =
      r.ofProjection p := by
    rw [r.ofSession_replace, UpstreamRef.ofChanges_reenterChanges, pyOr_of_not_falsy hnames]
  have hsame := hagrees next t s.sessionRef _ ((Dict.get?_set_of_ne _ hne _).trans ht) hnamed
    (Dict.get?_set_self _ _ _) (by rw [hnew]; exact hnames)
  rw [hnew] at hsame
  exact hother hsame

theorem step_uniform_iff (hw : w.Uniform) (call : ChannelCall π) :
    (∀ r, (step svc w call).Agrees r) ↔ ¬ ∃ r, Strays r w call := by
  have hk := hw.1.keyed
  have hkept := (keptByOrders_uniform (π := π) svc).keptByTransitions
  have hother (call : ChannelCall π) (hcall : ¬ call.ChangesSession)
      (hw : (call.change w).Uniform) : ∀ r, (step svc w call).Agrees r :=
    (hkept.of_call (T := []) hcall hw).2
  have heffect {α : Type} {p : Service α}
      (heff : SessionEffect (issued handle p w) w (exec handle p w).2)
      (hgives : ∀ r, GivesAgreed r w (exec handle p w).2) :
      ∀ r, (exec handle p.void w).2.Agrees r := by
    rw [exec_void_state]
    exact (hw.effect heff
      (exec_invariant handle (fun op w _ => handle_keyed op w) (Uses.all p) hk) hgives).2
  -- only a return to another context can stray; the others give what is frozen or agreed
  cases call with
  | createSession args =>
      refine iff_of_true (heffect (svc.sessions.createSession_effect args w) fun r => ?_) (by
        rintro ⟨r, ⟨⟩⟩)
      exact givesAgreed_of_frozen hw.1.lineal fun key s hs _ =>
        createSession_frozen svc.sessions args hs
  | resumeSession args =>
      refine iff_of_true (heffect (svc.sessions.resumeSession_effect hk args) fun r => ?_) (by
        rintro ⟨r, ⟨⟩⟩)
      exact givesAgreed_of_frozen hw.1.lineal fun key s hs hstale =>
        resumeSession_frozen svc.sessions args hk hs hstale
  | attachInteractionRefs ref cartRef quoteRef =>
      refine iff_of_true (heffect (CustomerSessionService.attachInteractionRefs_effect hk ref cartRef
        quoteRef) fun r => ?_) (by rintro ⟨r, ⟨⟩⟩)
      exact attachInteractionRefs_givesAgreed r hk ref cartRef quoteRef
  | reenter ref =>
      refine ⟨fun hagrees => ?_, fun hstrays => ?_⟩
      · rintro ⟨r, h⟩
        refine not_agrees_of_strays r hw.1 h ?_
        have hagrees := hagrees r
        unfold step ChannelCall.program at hagrees
        rwa [exec_void_state] at hagrees
      · exact heffect (CustomerSessionService.reenter_effect hk ref) fun r =>
          reenter_givesAgreed r hk fun h => hstrays ⟨r, h⟩
  | upstreamChanges upstream => exact iff_of_true hw.2 (by rintro ⟨r, ⟨⟩⟩)
  | orderPortChanges event => exact iff_of_true hw.2 (by rintro ⟨r, ⟨⟩⟩)
  | _ => exact iff_of_true (hother _ id hw) (by rintro ⟨r, ⟨⟩⟩)

/-! ## Evidence that names another reference -/

omit [XBOSOrderPort π] [Hashlib] in
theorem CustomerSessionService.Evidenced.unique {sessions : CustomerSessionService} {s : CustomerSessionSnapshot}
    {h : Option String} {p p' : UpstreamStateProjection} (hp : sessions.Evidenced w s h p)
    (hp' : sessions.Evidenced w s h p') : p = p' := by
  cases h with
  | none =>
      have hp : w.upstream.reconcileSession s = .ok (some p) := hp
      have hp' : w.upstream.reconcileSession s = .ok (some p') := hp'
      rw [hp] at hp'
      exact Option.some.inj (Except.ok.inj hp')
  | some ref =>
      obtain ⟨-, record, hrecord, -, rfl⟩ := hp
      obtain ⟨-, record', hrecord', -, rfl⟩ := hp'
      rw [hrecord] at hrecord'
      rw [Option.some.inj hrecord']

theorem transition_differs {sessions : CustomerSessionService} {args : TransitionArgs}
    (hgated : args.target.evidenceGated = true)
    (hfresh : w.sessions.idempotentResult args.sessionRef args.idempotencyKey = none)
    {s : CustomerSessionSnapshot} (hget : w.sessions.get args.sessionRef = some s)
    {p : UpstreamStateProjection} (hp : sessions.Evidenced w s args.evidenceHandleRef p)
    (hdiffers : r.Differs p s) :
    ∃ e, exec handle (sessions.transition args) w = (.error e, w) := by
  rcases sessions.transition_cases w args with
    ⟨current, refs, henabled, -⟩ | ⟨prior, hprior, -⟩ | ⟨-, herror⟩
  · exfalso
    obtain rfl := Option.some.inj (hget.symm.trans henabled.found)
    obtain ⟨p', hp', hmatched, -, -⟩ :=
      (sessions.takesRefs_of_gated hgated).mp henabled.evidence
    obtain rfl := hp.unique hp'
    exact hdiffers.mismatch hmatched
  · rw [hfresh] at hprior
    cases hprior
  · exact herror

theorem reenter_differs {ref : String} {s : CustomerSessionSnapshot}
    (hget : w.sessions.get ref = some s) (hasks : CustomerSessionService.AsksReconciliation s)
    {p : UpstreamStateProjection} (hp : w.upstream.reconcileSession s = .ok (some p))
    (hdiffers : r.Differs p s) :
    ∃ e, exec handle (CustomerSessionService.reenter ref) w = (.error e, w) := by
  rw [CustomerSessionService.exec_reenter_reconciled hget hasks hp]
  cases hmatched : assertEvidenceMatchesSession s p with
  | ok _ => exact absurd hmatched hdiffers.mismatch
  | error e => exact ⟨e, rfl⟩

/-- Along every run: each order and payment reference of a session is that of the session and of all
after it from then on, exactly if no re-entry strays. And a gated transition or a re-entry whose
evidence names another reference raises and leaves everything as it was. -/
theorem references_writeOnce_iff (orders : π) (upstream : Upstream) (refs : RefSource)
    (calls : List (ChannelCall π)) :
    ((∀ before between after, calls = before ++ (between ++ after) → ∀ r a b s t,
        (run svc (World.start orders upstream refs) before).sessions.sessions.get? a = some s →
        falsy (UpstreamRef.ofSession r s) = false →
        (run svc (World.start orders upstream refs) (before ++ between)).Lineage a b →
        (run svc (World.start orders upstream refs) (before ++ between)).sessions.sessions.get? b =
          some t →
        UpstreamRef.ofSession r t = UpstreamRef.ofSession r s) ↔
      ∀ before call after, calls = before ++ call :: after → ∀ r,
        ¬ Strays r (run svc (World.start orders upstream refs) before) call) ∧
    (∀ (w : World π) (args : TransitionArgs) s p r, args.target.evidenceGated = true →
      w.sessions.idempotentResult args.sessionRef args.idempotencyKey = none →
      w.sessions.get args.sessionRef = some s →
      svc.sessions.Evidenced w s args.evidenceHandleRef p → UpstreamRef.Differs r p s →
        ∃ e, exec handle (svc.sessions.transition args) w = (.error e, w)) ∧
    ∀ (w : World π) ref s p r, w.sessions.get ref = some s →
      CustomerSessionService.AsksReconciliation s →
      w.upstream.reconcileSession s = .ok (some p) → UpstreamRef.Differs r p s →
        ∃ e, exec handle (CustomerSessionService.reenter ref) w = (.error e, w) := by
  refine ⟨?_, fun w args s p r hgated hfresh hget hp hdiffers =>
    transition_differs r hgated hfresh hget hp hdiffers, fun w ref s p r hget hasks hp hdiffers =>
    reenter_differs r hget hasks hp hdiffers⟩
  have hstart : (World.start orders upstream refs).Chained := start_chained orders upstream refs
  have hthroughout := run_throughout_iff svc (I := World.Chained)
    (P := fun w => ∀ r, w.Agrees r) (Q := fun w call => ∃ r, Strays r w call)
    (fun w call hc => step_chained svc hc call)
    (fun w call hc h => step_uniform_iff svc ⟨hc, h⟩ call) hstart
    (fun r key s a p hs => by cases hs) calls
  have hchained (calls : List (ChannelCall π)) :
      (run svc (World.start orders upstream refs) calls).Chained :=
    run_invariant svc (I := World.Chained) (fun w call hc => step_chained svc hc call)
      hstart calls
  refine Iff.trans ⟨fun h before after hcalls r => ?_, fun h => ?_⟩ (hthroughout.trans ?_)
  · -- one link, in one world
    intro key s a p hs hnamed hp hthere
    refine h before [] after hcalls r a key p s hp hthere ?_ ?_
    · rw [List.append_nil]
      exact .single ⟨s, hs, hnamed⟩
    · rw [List.append_nil]
      exact hs
  · intro before between after hcalls r a b s t hs hthere hlineage ht
    -- the session itself keeps the reference; those after it agree with it
    obtain ⟨s', hs', hsame⟩ := run_keepsRef r svc (hchained before).keyed hs hthere between
    rw [← run_append] at hs'
    have hagrees := h (before ++ between) after (by rw [hcalls, List.append_assoc]) r
    rw [← hsame] at hthere ⊢
    exact hagrees.lineage (hchained _).lineal hlineage hs' ht hthere
  · exact ⟨fun h before call after hcalls r hstrays => h before call after hcalls ⟨r, hstrays⟩,
      fun h before call after hcalls ⟨r, hstrays⟩ => h before call after hcalls r hstrays⟩

end Calls

section Fixture

open Fixture

/-- XBOS reconciles every session to one projection. -/
def reconcilesTo (p : UpstreamStateProjection) : Upstream :=
  { upstream 1 3000 with reconcileSession := fun _ => .ok (some p) }

/-- The order is created. -/
def orderCreated (orderRef : Option String) : UpstreamStateProjection where
  evidenceRef := "evidence:fixture:order"
  correlationRef := "correlation:fixture:one"
  observedAtEpoch := 20
  orderRef := orderRef
  orderState := some .created

/-- The order is created, at first without a reference; the session is rotated; then the old session
is re-entered. -/
def lateReference : List Call :=
  intoReview ++ [.transition { sessionRef, target := .orderSubmitting, idempotencyKey := "k6" },
    .upstreamChanges (reconcilesTo (orderCreated none)),
    .transition { sessionRef, target := .orderCreated, idempotencyKey := "k7" },
    .resumeSession resumption,
    .upstreamChanges (reconcilesTo (orderCreated (some "order:fixture:late"))),
    .reenter sessionRef]

/-- The session that was rotated out has the reference of the order, its successor has none. -/
theorem lateReference_strays :
    ∃ s next t, (run {} world lateReference).sessions.sessions.get? sessionRef = some s ∧
      s.orderRef = some "order:fixture:late" ∧
      (run {} world lateReference).Lineage sessionRef next ∧
      (run {} world lateReference).sessions.sessions.get? next = some t ∧ t.orderRef = none := by
  have h : ∃ s, (run {} world lateReference).sessions.sessions.get? sessionRef = some s ∧
      s.orderRef = some "order:fixture:late" ∧
      ∃ next, s.rotatedToSessionRef = some next ∧
        ∃ t, (run {} world lateReference).sessions.sessions.get? next = some t ∧
          t.predecessorSessionRef = some sessionRef ∧ t.orderRef = none := by
    decide +kernel
  obtain ⟨s, hs, horder, next, -, t, ht, hnamed, hnone⟩ := h
  exact ⟨s, next, t, hs, horder, .single ⟨t, ht, hnamed⟩, ht, hnone⟩

end Fixture

end XbosCustomerChannel
