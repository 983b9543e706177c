import XbosCustomerChannel.Lifecycle.Predecessor
import XbosCustomerChannel.Order.Refused

/-!
# Handles of a session that was rotated out

Handles are bound to the session they were issued for, its generation included. A rotation ends them
without touching their records: the predecessor they name is no longer active, and the successor is
another session.
-/

namespace XbosCustomerChannel

open Effects Effects.Program Data

section Kept

variable {π : Type}

/-- Every handle is still there, bound as it was. -/
structure World.HandlesKept (w w' : World π) : Prop where
  confirmations : w.RecordsKept w'
  evidence : w.provenance.evidence.Extends w'.provenance.evidence

theorem World.HandlesKept.refl (w : World π) : w.HandlesKept w := ⟨.refl w, Dict.Extends.refl _⟩

theorem World.HandlesKept.trans {w w' w'' : World π} (h : w.HandlesKept w')
    (h' : w'.HandlesKept w'') : w.HandlesKept w'' :=
  ⟨h.confirmations.trans h'.confirmations, h.evidence.trans h'.evidence⟩

theorem World.HandlesKept.of_eq {w w' : World π} (h : w'.provenance = w.provenance) :
    w.HandlesKept w' := ⟨.of_eq h, by rw [h]; exact Dict.Extends.refl _⟩

variable [XBOSOrderPort π] [Hashlib]

theorem handle_handlesKept (op : Channel.Op) (w : World π) : w.HandlesKept (handle op w).2 := by
  refine ⟨handle_recordsKept op w, ?_⟩
  cases op with
  | session op => exact Dict.Extends.refl _
  | order op => exact Dict.Extends.refl _
  | upstream op => exact Dict.Extends.refl _
  | orderAuthority op => exact Dict.Extends.refl _
  | provenance op =>
      cases op with
      | resolveEvidence handle => exact Dict.Extends.refl _
      | resolveConfirmation handle => exact Dict.Extends.refl _
      | issueEvidence session projection =>
          show w.provenance.evidence.Extends
            (w.provenance.issueEvidence w.refs session projection).2.evidence
          unfold InMemoryChannelProvenanceStore.issueEvidence
          split
          · exact Dict.Extends.refl _
          · exact Dict.Extends.set_of_none (w.provenance.get?_newEvidenceHandle w.refs) _
      | issueConfirmation session confirmation =>
          show w.provenance.evidence.Extends
            (w.provenance.issueConfirmation w.refs session confirmation).2.evidence
          unfold InMemoryChannelProvenanceStore.issueConfirmation
          split
          · exact Dict.Extends.refl _
          · exact Dict.Extends.refl _
      | claimConfirmation handle clientRef =>
          show w.provenance.evidence.Extends
            (w.provenance.claimConfirmation handle clientRef).2.evidence
          unfold InMemoryChannelProvenanceStore.claimConfirmation
          split
          · exact Dict.Extends.refl _
          · split
            · exact Dict.Extends.refl _
            · split
              · exact Dict.Extends.refl _
              · exact Dict.Extends.refl _

theorem run_handlesKept (svc : OrderDraftConfirmationService) (w : World π)
    (calls : List (ChannelCall π)) : w.HandlesKept (run svc w calls) := by
  induction calls generalizing w with
  | nil => exact .refl w
  | cons call calls ih =>
      have hchange : w.HandlesKept (call.change w) := by
        apply World.HandlesKept.of_eq
        cases call <;> rfl
      have hcall : (call.change w).HandlesKept (step svc w call) :=
        exec_preserves handle World.HandlesKept.refl (fun _ _ _ h h' => h.trans h')
          (fun op w _ => handle_handlesKept op w) (Uses.all _) _
      exact (hchange.trans hcall).trans (ih (step svc w call))

end Kept

section Revoked

variable {π : Type} {w : World π} {ref successor : String}

/-- No active session is found that is bound as the rotated one was. -/
theorem World.RotatedInto.not_active (h : w.RotatedInto ref successor) (hk : w.Keyed)
    {name : String} {session : CustomerSessionSnapshot} (hget : w.sessions.get name = some session)
    (href : (bindingFromSession session).sessionRef = ref) : session.staleOrRotated = true := by
  obtain ⟨-, s, hs, hrotated⟩ := h
  have hstored := hk.get?_of_get hget
  have hsame : session.sessionRef = ref := href
  rw [hsame, hs] at hstored
  obtain rfl := Option.some.inj hstored
  simp [CustomerSessionSnapshot.staleOrRotated, hrotated]

variable [XBOSOrderPort π] [Hashlib] (svc : OrderDraftConfirmationService)

/-- A confirmation of the rotated session is not submitted, under whatever name. -/
theorem World.RotatedInto.submit_refused (h : w.RotatedInto ref successor) (hk : w.Keyed)
    {args : SubmitArgs} {record : ConfirmationProvenanceRecord}
    (hrecord : w.provenance.resolveConfirmation args.confirmationHandleRef = some record)
    (hbound : record.binding.sessionRef = ref) :
    (∃ e, exec handle (svc.submit args) w = (.error e, w)) ∧
      ∀ o ∈ issued handle (svc.submit args) w, ∀ request, o.1 ≠ .order (.submitOrder request) := by
  have hnone (session : CustomerSessionSnapshot) (record' : ConfirmationProvenanceRecord) :
      ¬ svc.Claims w args session record' := by
    intro hclaims
    obtain rfl := Option.some.inj (hrecord.symm.trans hclaims.recorded)
    have hstale := h.not_active hk hclaims.found (hclaims.bound ▸ hbound)
    rw [hclaims.valid.active] at hstale
    cases hstale
  rcases svc.submitRequest_ends hk args with
    ⟨session, record', hauthorized, -⟩ | ⟨-, e, hexec⟩ | ⟨session, record', hclaims, -⟩
  · exact absurd (svc.authorized_iff.mp hauthorized).1 (hnone session record')
  · refine ⟨⟨e, ?_⟩, svc.submitOrder_not_issued hexec⟩
    rw [svc.submit_eq, exec_bind_error handle hexec]
  · exact absurd hclaims (hnone session record')

/-- Evidence of the rotated session moves no session into a state that asks for evidence. -/
theorem World.RotatedInto.transition_refused (h : w.RotatedInto ref successor) (hk : w.Keyed)
    {args : TransitionArgs} {handleRef : String} {record : EvidenceProvenanceRecord}
    (hrecord : w.provenance.resolveEvidence handleRef = some record)
    (hbound : record.binding.sessionRef = ref) (hhandle : args.evidenceHandleRef = some handleRef)
    (hgated : args.target.evidenceGated = true)
    (hfresh : w.sessions.idempotentResult args.sessionRef args.idempotencyKey = none) :
    ∃ e, exec handle (svc.sessions.transition args) w = (.error e, w) := by
  rcases svc.sessions.transition_cases w args with
    ⟨current, refs, henabled, -⟩ | ⟨prior, hprior, -⟩ | ⟨-, herror⟩
  · exfalso
    obtain ⟨p, hevidenced, -⟩ := (svc.sessions.takesRefs_of_gated hgated).mp henabled.evidence
    rw [hhandle] at hevidenced
    obtain ⟨-, record', hrecord', hbinding, -⟩ := hevidenced
    obtain rfl := Option.some.inj (hrecord.symm.trans hrecord')
    have hstale := h.not_active hk henabled.found (hbinding ▸ hbound)
    rw [henabled.active] at hstale
    cases hstale
  · rw [hfresh] at hprior
    cases hprior
  · exact herror

/-- Of every run in which a session is resumed: handles that were issued for it are of no use in
anything that follows. A confirmation is refused to every submission, for the successor as for the
predecessor, and before the port; evidence is refused to every transition into a gated state that is
not a replay. Neither changes anything. -/
theorem rotatedOut_handles_revoked (orders : π) (upstream : Upstream) (refs : RefSource)
    (before after : List (ChannelCall π)) (args : ResumeSessionArgs)
    (rotated : CustomerSessionSnapshot)
    (hrotated : (exec handle (svc.sessions.resumeSession args
      (run svc (World.start orders upstream refs) before).newSessionRef)
        (run svc (World.start orders upstream refs) before)).1 = .ok rotated) :
    let w := run svc (World.start orders upstream refs) before
    let w' := run svc (World.start orders upstream refs) (before ++ .resumeSession args :: after)
    (∀ (submission : SubmitArgs) (record : ConfirmationProvenanceRecord),
      w.provenance.resolveConfirmation submission.confirmationHandleRef = some record →
        record.binding.sessionRef = args.sessionRef →
          (∃ e, exec handle (svc.submit submission) w' = (.error e, w')) ∧
            ∀ o ∈ issued handle (svc.submit submission) w', ∀ request,
              o.1 ≠ .order (.submitOrder request)) ∧
    ∀ (transition : TransitionArgs) (handleRef : String) (record : EvidenceProvenanceRecord),
      w.provenance.resolveEvidence handleRef = some record →
        record.binding.sessionRef = args.sessionRef →
          transition.evidenceHandleRef = some handleRef → transition.target.evidenceGated = true →
            w'.sessions.idempotentResult transition.sessionRef transition.idempotencyKey = none →
              ∃ e, exec handle (svc.sessions.transition transition) w' = (.error e, w') := by
  intro w w'
  have hk : w.Keyed := run_keyed svc (start_keyed orders upstream refs) before
  have hstep := rotatedInto_of_resumed svc hk hrotated
  have hrun := (survives_rotatedInto args.sessionRef rotated.sessionRef).of_trace svc (T := [])
    ⟨step_keyed svc hk _, hstep⟩ after
  have hw' : run svc (step svc w (.resumeSession args)) after = w' := by
    show _ = run svc (World.start orders upstream refs) (before ++ .resumeSession args :: after)
    rw [run_append, run_cons]
  rw [hw'] at hrun
  obtain ⟨hk', hinto⟩ := hrun
  have hkept : w.HandlesKept w' := by
    have h := run_handlesKept svc w (.resumeSession args :: after)
    rwa [run_cons, hw'] at h
  constructor
  · intro submission record hrecord hbound
    obtain ⟨record', hrecord', hsame⟩ := hkept.confirmations _ _ hrecord
    exact hinto.submit_refused svc hk' hrecord' (hsame.binding ▸ hbound)
  · intro transition handleRef record hrecord hbound hhandle hgated hfresh
    exact hinto.transition_refused svc hk' (hkept.evidence _ _ hrecord) hbound hhandle hgated hfresh

end Revoked

section Fixture

open Fixture

/-- A confirmation is prepared, and the session resumed. -/
def prepared : List Call := intoReview ++ [prepare 1 3000 10]

/-- What resuming comes to. -/
def preparedResumed : Except Exc CustomerSessionSnapshot :=
  (exec handle (OrderDraftConfirmationService.sessions {} |>.resumeSession resumption
    (run {} world prepared).newSessionRef) (run {} world prepared)).1

/-- The confirmation that was prepared is refused, to the successor too. -/
theorem rotatedOut_handles_revoked_prepared :
    ∃ rotated : CustomerSessionSnapshot, preparedResumed = .ok rotated ∧
      ∀ sessionRef : String, ∃ e,
        exec handle (OrderDraftConfirmationService.submit {}
            ⟨sessionRef, confirmationHandle, "submit:fixture:one", 20⟩)
          (run {} world (prepared ++ [.resumeSession resumption])) =
            (.error e, run {} world (prepared ++ [.resumeSession resumption])) := by
  obtain ⟨rotated, hrotated⟩ : ∃ rotated, preparedResumed = .ok rotated :=
    exists_ok_of_isOk (by decide +kernel)
  have hbound : ((run {} world prepared).provenance.resolveConfirmation confirmationHandle).map
      (·.binding.sessionRef) = some resumption.sessionRef := by
    decide +kernel
  obtain ⟨record, hrecord, hsession⟩ := Option.map_eq_some_iff.mp hbound
  refine ⟨rotated, hrotated, fun sessionRef => ?_⟩
  unfold preparedResumed world at hrotated
  have h := (rotatedOut_handles_revoked ({} : OrderDraftConfirmationService)
    ({} : FakeXBOSOrderClient) (upstream 1 3000) lengthRefs prepared [] resumption rotated hrotated).1
    ⟨sessionRef, confirmationHandle, "submit:fixture:one", 20⟩ record hrecord hsession
  exact h.1

end Fixture

end XbosCustomerChannel
