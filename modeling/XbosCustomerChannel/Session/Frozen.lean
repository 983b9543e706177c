import XbosCustomerChannel.Lifecycle.Predecessor

/-!
# Writes to a session that was rotated out

`transition` and `resume_session` look at whether a session is stale before they write it.
`attach_interaction_refs` and `reenter` do not; they are the only calls that can still write its
record, and `Thaws` says when they do.
-/

namespace XbosCustomerChannel

open Effects Effects.Program Data

/-- `a or b` is not `b`. -/
def Renews (a b : Option String) : Prop := falsy a = false ∧ a ≠ b

instance (a b : Option String) : Decidable (Renews a b) := inferInstanceAs (Decidable (_ ∧ _))

theorem pyOr_eq_right_iff {a b : Option String} : pyOr a b = b ↔ ¬ Renews a b := by
  unfold Renews
  cases h : falsy a with
  | true => simp [pyOr_of_falsy h]
  | false => simp [pyOr_of_not_falsy h]

theorem replace_interactionRefs_eq_iff (s : CustomerSessionSnapshot)
    (cartRef quoteRef : Option String) :
    s.replace { cartRef, quoteRef } = s ↔ ¬ (Renews cartRef s.cartRef ∨ Renews quoteRef s.quoteRef) := by
  rw [not_or, ← pyOr_eq_right_iff, ← pyOr_eq_right_iff]
  cases s
  simp [CustomerSessionSnapshot.replace]

theorem replace_reenterChanges_eq_iff (s : CustomerSessionSnapshot) (state : ChannelState)
    (p : UpstreamStateProjection) :
    s.replace (CustomerSessionService.reenterChanges state p) = s ↔
      ¬ (state ≠ s.state ∨ Renews p.orderRef s.orderRef ∨ Renews p.paymentRef s.paymentRef ∨
        some p.evidenceRef ≠ s.lastUpstreamEvidenceRef) := by
  rw [not_or, not_or, not_or, not_not, not_not, ← pyOr_eq_right_iff, ← pyOr_eq_right_iff]
  cases s
  simp [CustomerSessionSnapshot.replace, CustomerSessionService.reenterChanges]

section Thaws

variable {π : Type} [XBOSOrderPort π]

/-- The call writes `s`, stored at `key`, something it does not have: an interaction reference, or
what reconciliation projects. -/
def Thaws (w : World π) (key : String) (s : CustomerSessionSnapshot) : ChannelCall π → Prop
  | .attachInteractionRefs ref cartRef quoteRef =>
      w.sessions.canonicalRef ref = key ∧ (Renews cartRef s.cartRef ∨ Renews quoteRef s.quoteRef)
  | .reenter ref =>
      w.sessions.canonicalRef ref = key ∧ CustomerSessionService.AsksReconciliation s ∧
        ∃ p state, w.upstream.reconcileSession s = .ok (some p) ∧
          assertEvidenceMatchesSession s p = .ok () ∧ stateFromProjection p = .ok state ∧
          (state ≠ s.state ∨ Renews p.orderRef s.orderRef ∨ Renews p.paymentRef s.paymentRef ∨
            some p.evidenceRef ≠ s.lastUpstreamEvidenceRef)
  | _ => False

variable [Hashlib] {w : World π} {key : String} {s : CustomerSessionSnapshot}

omit [XBOSOrderPort π] [Hashlib] in
theorem World.get?_stored (w : World π) (s : CustomerSessionSnapshot) (key : String) :
    (w.stored s).sessions.sessions.get? key =
      if key = s.sessionRef then some s else w.sessions.sessions.get? key :=
  Dict.get?_set _ _ _ _

omit [XBOSOrderPort π] [Hashlib] in
/-- The session that is found under a reference to `key` is the record stored there. -/
theorem World.get_of_canonicalRef (hs : w.sessions.sessions.get? key = some s) {ref : String}
    (hkey : w.sessions.canonicalRef ref = key) : w.sessions.get ref = some s := by
  rw [InMemoryCustomerSessionStore.get, hkey, hs]

omit [XBOSOrderPort π] [Hashlib] in
/-- Storing a session over the record `s`. -/
theorem World.get?_stored_replace (hk : w.Keyed) (hs : w.sessions.sessions.get? key = some s)
    {ref : String} {current : CustomerSessionSnapshot} (hget : w.sessions.get ref = some current)
    (changes : SessionChanges) :
    (w.stored (current.replace changes)).sessions.sessions.get? key = some s ↔
      (w.sessions.canonicalRef ref = key → s.replace changes = s) := by
  have href : current.sessionRef = w.sessions.canonicalRef ref := hk _ _ hget
  rw [World.get?_stored, CustomerSessionSnapshot.replace_sessionRef, href]
  split
  · next hkey =>
    subst hkey
    obtain rfl := Option.some.inj (hs.symm.trans hget)
    simp
  · next hkey => simp [hs, Ne.symm hkey]

/-- The record stored at `key` is `s`. -/
def World.Frozen (key : String) (s : CustomerSessionSnapshot) (w : World π) : Prop :=
  w.Keyed ∧ w.sessions.sessions.get? key = some s

theorem transition_frozen (svc : CustomerSessionService) (hstale : s.staleOrRotated = true)
    (args : TransitionArgs) (hw : w.Frozen key s) :
    (exec handle (svc.transition args) w).2.Frozen key s := by
  obtain ⟨hk, hs⟩ := hw
  rcases svc.transition_cases w args with
    ⟨current, refs, henabled, hexec⟩ | ⟨prior, -, hexec⟩ | ⟨-, e, hexec⟩
  · rw [hexec]
    refine ⟨hk.stored _, (World.get?_stored_replace hk hs henabled.found _).mpr fun hkey => ?_⟩
    -- the session a transition writes is active
    obtain rfl := Option.some.inj ((World.get_of_canonicalRef hs hkey).symm.trans henabled.found)
    rw [henabled.active] at hstale
    cases hstale
  · rw [hexec]
    exact ⟨hk, hs⟩
  · rw [hexec]
    exact ⟨hk, hs⟩

theorem keptByOrders_frozen (svc : OrderDraftConfirmationService)
    (hstale : s.staleOrRotated = true) :
    KeptByOrders svc fun _ (w : World π) => w.Frozen key s where
  keeps op T w hop hw := by
    refine ⟨handle_keyed op w hw.1, ?_⟩
    cases op with
    | session op =>
        show (w.sessions.answer op).2.sessions.get? key = some s
        rw [w.sessions.answer_sessions hop]
        exact hw.2
    | _ => exact hw.2
  transition args _ w hw := transition_frozen svc.sessions hstale args hw

theorem createSession_frozen (svc : CustomerSessionService) (args : CreateSessionArgs)
    (hs : w.sessions.sessions.get? key = some s) :
    (exec handle (svc.createSession args w.newSessionRef) w).2.sessions.sessions.get? key =
      some s := by
  rcases svc.createSession_cases args w.newSessionRef w with
    ⟨e, hexec⟩ | ⟨new, hnew, -, r, aliases, hexec, -⟩
  · rw [hexec]
    exact hs
  · rw [hexec]
    exact (Dict.get?_set_of_ne _ (World.ne_of_fresh hs w.newSessionRef_notMem) _).trans hs

theorem resumeSession_frozen (svc : CustomerSessionService) (args : ResumeSessionArgs)
    (hk : w.Keyed) (hs : w.sessions.sessions.get? key = some s)
    (hstale : s.staleOrRotated = true) :
    (exec handle (svc.resumeSession args w.newSessionRef) w).2.sessions.sessions.get? key =
      some s := by
  rcases svc.resumeSession_cases args w.newSessionRef w with
    ⟨current, stored, henabled, hexec⟩ | ⟨e, hexec⟩
  · obtain ⟨hcanonical, rfl⟩ := CustomerSessionService.ResumeEnabled.stored_eq _ henabled hk
    have hne : key ≠ stored.sessionRef := by
      rintro rfl
      obtain rfl := Option.some.inj (hs.symm.trans (hk.get?_of_get henabled.found))
      rw [henabled.active] at hstale
      cases hstale
    have hfresh : key ≠ w.newSessionRef := World.ne_of_fresh hs w.newSessionRef_notMem
    rw [hexec, hcanonical]
    exact (Dict.get?_set_of_ne _ hfresh _).trans ((Dict.get?_set_of_ne _ hne _).trans hs)
  · rw [hexec]
    exact hs

theorem attachInteractionRefs_frozen_iff (hk : w.Keyed)
    (hs : w.sessions.sessions.get? key = some s) (ref : String) (cartRef quoteRef : Option String) :
    (exec handle (CustomerSessionService.attachInteractionRefs ref cartRef quoteRef)
        w).2.sessions.sessions.get? key = some s ↔
      ¬ (w.sessions.canonicalRef ref = key ∧
        (Renews cartRef s.cartRef ∨ Renews quoteRef s.quoteRef)) := by
  rw [not_and, ← replace_interactionRefs_eq_iff]
  rcases CustomerSessionService.attachInteractionRefs_cases ref cartRef quoteRef w with
    ⟨current, hget, hexec⟩ | ⟨hnone, hexec⟩
  · rw [hexec]
    exact World.get?_stored_replace hk hs hget _
  · rw [hexec]
    refine iff_of_true hs fun hkey => ?_
    rw [World.get_of_canonicalRef hs hkey] at hnone
    cases hnone

theorem reenter_frozen_iff (hk : w.Keyed) (hs : w.sessions.sessions.get? key = some s)
    (ref : String) :
    (exec handle (CustomerSessionService.reenter ref) w).2.sessions.sessions.get? key = some s ↔
      ¬ Thaws w key s (.reenter ref) := by
  constructor
  · rintro hkept ⟨rfl, hasks, p, state, hreconciled, hmatched, hprojected, hrenews⟩
    rw [CustomerSessionService.exec_reenter_of hasks ⟨hs, hreconciled, hmatched, hprojected⟩,
      World.get?_stored_replace hk hs hs] at hkept
    exact (replace_reenterChanges_eq_iff s state p).mp (hkept rfl) hrenews
  · intro hthaws
    rcases CustomerSessionService.reenter_cases ref w with
      ⟨current, state, p, hasks, henabled, -, named, hexec⟩ | ⟨r, hexec⟩
    · rw [hexec]
      refine (World.get?_stored_replace hk hs henabled.found _).mpr fun hkey => ?_
      obtain rfl := Option.some.inj ((World.get_of_canonicalRef hs hkey).symm.trans henabled.found)
      rw [replace_reenterChanges_eq_iff]
      exact fun hrenews => hthaws ⟨hkey, hasks, p, state, henabled.reconciled, henabled.matched,
        henabled.projected, hrenews⟩
    · rw [hexec]
      exact hs

/-- One entry of a run leaves the record of a stale session as it is exactly if it does not thaw
it. -/
theorem step_frozen_iff (svc : OrderDraftConfirmationService) (hk : w.Keyed)
    (hs : w.sessions.sessions.get? key = some s) (hstale : s.staleOrRotated = true)
    (call : ChannelCall π) :
    (step svc w call).sessions.sessions.get? key = some s ↔ ¬ Thaws w key s call := by
  have hkept : KeptByTransitions svc fun _ (w : World π) => w.Frozen key s :=
    (keptByOrders_frozen svc hstale).keptByTransitions
  have hother (call : ChannelCall π) (hcall : ¬ call.ChangesSession)
      (hw : (call.change w).Frozen key s) :
      (step svc w call).sessions.sessions.get? key = some s := (hkept.of_call (T := []) hcall hw).2
  cases call with
  | createSession args =>
      refine iff_of_true ?_ id
      show (exec handle (Program.void _) w).2.sessions.sessions.get? key = some s
      rw [exec_void_state]
      exact createSession_frozen svc.sessions args hs
  | resumeSession args =>
      -- a stale session is refused, and the successor of another gets a new reference
      refine iff_of_true ?_ id
      show (exec handle (Program.void _) w).2.sessions.sessions.get? key = some s
      rw [exec_void_state]
      exact resumeSession_frozen svc.sessions args hk hs hstale
  | attachInteractionRefs ref cartRef quoteRef =>
      show (exec handle (Program.void _) w).2.sessions.sessions.get? key = some s ↔ _
      rw [exec_void_state]
      exact attachInteractionRefs_frozen_iff hk hs ref cartRef quoteRef
  | reenter ref =>
      show (exec handle (Program.void _) w).2.sessions.sessions.get? key = some s ↔ _
      rw [exec_void_state]
      exact reenter_frozen_iff hk hs ref
  | _ => exact iff_of_true (hother _ id ⟨hk, hs⟩) id

end Thaws

section Run

variable {π : Type} [XBOSOrderPort π] [Hashlib] (svc : OrderDraftConfirmationService)

/-- Of every run in which a session is resumed: the record the rotation left stays as it is through
everything that follows exactly if no later call thaws it. -/
theorem rotatedOut_frozen_iff (orders : π) (upstream : Upstream) (refs : RefSource)
    (history : List (ChannelCall π)) (args : ResumeSessionArgs) (rotated : CustomerSessionSnapshot)
    (hrotated : (exec handle (svc.sessions.resumeSession args
      (run svc (World.start orders upstream refs) history).newSessionRef)
        (run svc (World.start orders upstream refs) history)).1 = .ok rotated) :
    ∃ s, (run svc (World.start orders upstream refs)
        (history ++ [.resumeSession args])).sessions.sessions.get? args.sessionRef = some s ∧
      s.rotatedToSessionRef = some rotated.sessionRef ∧
      ∀ calls : List (ChannelCall π),
        (∀ before after, calls = before ++ after →
          (run svc (World.start orders upstream refs)
            (history ++ .resumeSession args :: before)).sessions.sessions.get? args.sessionRef =
              some s) ↔
        ∀ before call after, calls = before ++ call :: after →
          ¬ Thaws (run svc (World.start orders upstream refs)
            (history ++ .resumeSession args :: before)) args.sessionRef s call := by
  have hk : (run svc (World.start orders upstream refs) history).Keyed :=
    run_keyed svc (start_keyed orders upstream refs) history
  obtain ⟨-, s, hs, hinto⟩ := rotatedInto_of_resumed svc hk hrotated
  have hstale : s.staleOrRotated = true := by
    simp [CustomerSessionSnapshot.staleOrRotated, hinto]
  refine ⟨s, by rw [run_append]; exact hs, hinto, fun calls => ?_⟩
  simp only [run_append, run_cons]
  exact run_throughout_iff svc (I := World.Keyed)
    (P := fun w => w.sessions.sessions.get? args.sessionRef = some s)
    (Q := fun w call => Thaws w args.sessionRef s call)
    (fun w call h => step_keyed svc h call)
    (fun w call hk hs => step_frozen_iff svc hk hs hstale call) (step_keyed svc hk _) hs calls

end Run

section Fixture

open Fixture

/-- The session in review is resumed. -/
def reviewResumed : Except Exc CustomerSessionSnapshot :=
  (exec handle (OrderDraftConfirmationService.sessions {} |>.resumeSession resumption
    (run {} world intoReview).newSessionRef) (run {} world intoReview)).1

theorem reviewResumed_ok : ∃ rotated, reviewResumed = .ok rotated :=
  exists_ok_of_isOk (by decide +kernel)

theorem rotatedOut_frozen_iff_resumption :
    ∃ s : CustomerSessionSnapshot,
      (run {} world (intoReview ++ [.resumeSession resumption])).sessions.sessions.get?
        resumption.sessionRef = some s ∧
      ∀ calls : List Call,
        (∀ before after, calls = before ++ after →
          (run {} world
            (intoReview ++ .resumeSession resumption :: before)).sessions.sessions.get?
              resumption.sessionRef = some s) ↔
        ∀ before call after, calls = before ++ call :: after →
          ¬ Thaws (run {} world (intoReview ++ .resumeSession resumption :: before))
            resumption.sessionRef s call := by
  obtain ⟨rotated, hrotated⟩ := reviewResumed_ok
  unfold reviewResumed world at hrotated
  obtain ⟨s, hs, -, hiff⟩ := rotatedOut_frozen_iff ({} : OrderDraftConfirmationService)
    ({} : FakeXBOSOrderClient) (upstream 1 3000) lengthRefs intoReview resumption rotated hrotated
  exact ⟨s, hs, hiff⟩

/-- A cart reference that arrives late is attached to the session that was rotated out. -/
theorem rotatedOut_attached :
    (∃ rotated, reviewResumed = .ok rotated) ∧
      (run {} world (intoReview ++
        [.resumeSession resumption])).sessions.sessions.get? sessionRef ≠
      (run {} world (intoReview ++ [.resumeSession resumption,
        .attachInteractionRefs sessionRef (some "cart:fixture:late") none])).sessions.sessions.get?
          sessionRef := by
  refine ⟨reviewResumed_ok, ?_⟩
  decide +kernel

end Fixture

end XbosCustomerChannel
