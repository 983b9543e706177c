import XbosCustomerChannel.Order.Lockstep

/-!
# `submit` in both worlds

The steps of `submit`, in their order. All but one ask about the customer's own session, handle and
client reference. The one is the submission itself, for a confirmation that others may have claimed.
-/

namespace XbosCustomerChannel

open Effects Effects.Program Data OrderDraftConfirmationService FakeXBOSOrderClient World

variable [Hashlib] (svc : OrderDraftConfirmationService) {key : String} {own : List String}
  {w w' : World FakeXBOSOrderClient}

namespace World

/-! ## Up to the request -/

omit [Hashlib] in
/-- Whether a record is there and bound to the session. -/
theorem exec_boundRecord [Hashlib] (args : SubmitArgs) (s : CustomerSessionSnapshot)
    (w : World FakeXBOSOrderClient) :
    exec handle (boundRecord args s) w =
      (match w.provenance.resolveConfirmation args.confirmationHandleRef with
        | none => .error ⟨.orderConfirmationRejected, "unknown_server_confirmation_handle"⟩
        | some record =>
            if record.binding = bindingFromSession s then .ok record
            else .error ⟨.orderConfirmationRejected, "confirmation_session_context_mismatch"⟩, w) := by
  unfold boundRecord
  rw [exec_ask_bind]
  dsimp only [handle, InMemoryChannelProvenanceStore.answer]
  cases w.provenance.resolveConfirmation args.confirmationHandleRef with
  | none => rfl
  | some record =>
      dsimp only
      rw [exec_raiseIf_bind]
      by_cases hbound : record.binding = bindingFromSession s
      · rw [if_neg (by simpa [bindingMatchesSession] using hbound), if_pos hbound]
        rfl
      · rw [if_pos (by simpa [bindingMatchesSession] using hbound), if_neg hbound]

/-- A handle of somebody else's is refused where it is known and where it is not. -/
theorem Alike.own_boundRecord (h : w.Alike key own w') (args : SubmitArgs)
    {s s' : CustomerSessionSnapshot} (hunnamed : s'.unnamed = s.unnamed)
    (hmine : s.sessionRef = key) :
    Coupled handle (RefusedAlike key own)
      (fun r r' t t' => r' = r ∧ t = w ∧ t' = w' ∧ r.binding.sessionRef = key ∧
        w.provenance.resolveConfirmation args.confirmationHandleRef = some r ∧
        w'.provenance.resolveConfirmation args.confirmationHandleRef = some r)
      (boundRecord args s) (boundRecord args s') w w' := by
  have hbinding : bindingFromSession s' = bindingFromSession s :=
    CustomerSessionSnapshot.eq_of_unnamed (fun _ => rfl) hunnamed
  have hleft := exec_boundRecord args s w
  have hright := exec_boundRecord args s' w'
  rw [hbinding, h.records] at hright
  cases hfound : w.provenance.resolveConfirmation args.confirmationHandleRef with
  | none =>
      rw [hfound] at hleft hright
      exact Coupled.of_error hleft hright ⟨rfl, h⟩
  | some record =>
      rw [hfound] at hleft hright
      by_cases hown : record.binding.sessionRef = key
      · have halone : w'.provenance.resolveConfirmation args.confirmationHandleRef =
            some record := by
          rw [h.records, hfound]
          simp [Option.filter, hown]
        rw [show (some record).filter (·.binding.sessionRef = key) = some record by
          simp [Option.filter, hown]] at hright
        by_cases hbound : record.binding = bindingFromSession s
        · simp only [hbound, if_true] at hleft hright
          exact Coupled.of_ok hleft hright ⟨rfl, rfl, rfl, hown, rfl, halone⟩
        · simp only [hbound, if_false] at hleft hright
          exact Coupled.of_error hleft hright ⟨rfl, h⟩
      · rw [show (some record).filter (·.binding.sessionRef = key) = none by
          simp [Option.filter, hown]] at hright
        have hbound : record.binding ≠ bindingFromSession s := by
          intro heq
          apply hown
          rw [heq]
          exact hmine
        simp only [hbound, if_false] at hleft
        exact Coupled.of_error hleft hright ⟨by decide, h⟩

theorem Alike.own_requireFreshConfirmation (h : w.Alike key own w') (args : SubmitArgs)
    {record : ConfirmationProvenanceRecord}
    (hrecord : w'.provenance.resolveConfirmation args.confirmationHandleRef = some record) :
    Coupled handle (RefusedAlike key own) (fun _ _ t t' => t = w ∧ t' = w')
      (requireFreshConfirmation args record) (requireFreshConfirmation args record) w w' := by
  have hleft := exec_requireFreshConfirmation args record w
  have hright := exec_requireFreshConfirmation args record w'
  have hissued : XBOSOrderPort.resolveOrderConfirmation w'.orders
      record.authoritativeXbosConfirmationRef =
        XBOSOrderPort.resolveOrderConfirmation w.orders record.authoritativeXbosConfirmationRef :=
    h.confirmations _ record hrecord
  rw [hissued] at hright
  cases hcheck : checkAuthoritativeConfirmation record
    (XBOSOrderPort.resolveOrderConfirmation w.orders record.authoritativeXbosConfirmationRef)
    args.nowEpoch with
  | ok _ =>
      rw [hcheck] at hleft hright
      exact Coupled.of_ok hleft hright ⟨rfl, rfl⟩
  | error e =>
      rw [hcheck] at hleft hright
      exact Coupled.of_error hleft hright ⟨rfl, h⟩

omit [Hashlib] in
/-- The claim, and what a refused one says. -/
theorem exec_claimHandle [Hashlib] (args : SubmitArgs) {record : ConfirmationProvenanceRecord}
    {w : World FakeXBOSOrderClient}
    (hfound : w.provenance.resolveConfirmation args.confirmationHandleRef = some record) :
    exec handle (claimHandle args) w =
      (if record.clientSubmitRefClaim.getD args.clientSubmitRef = args.clientSubmitRef then .ok ()
        else .error ⟨.orderSubmissionConflict, "confirmation_handle_client_submit_conflict"⟩,
        w.claimed args) := by
  have hanswer : (w.provenance.claimConfirmation args.confirmationHandleRef
      args.clientSubmitRef).1 =
        if record.clientSubmitRefClaim.getD args.clientSubmitRef = args.clientSubmitRef then
          .ok (record.claimedFor args.clientSubmitRef)
        else .error ⟨.provenanceConflict, "confirmation_handle_client_submit_conflict"⟩ := by
    have hfound : w.provenance.confirmations.get? args.confirmationHandleRef = some record := hfound
    unfold InMemoryChannelProvenanceStore.claimConfirmation
    rw [hfound]
    dsimp only
    split
    · next hclaim =>
      unfold ConfirmationProvenanceRecord.claimedFor
      rw [hclaim]
      simp
    · next claim hclaim =>
      rw [ConfirmationProvenanceRecord.claimedFor_of_claimed (by simp [hclaim]), hclaim]
      by_cases hsame : claim = args.clientSubmitRef
      · simp [hsame]
      · simp [hsame]
  have hhandle : handle (.provenance (.claimConfirmation args.confirmationHandleRef
      args.clientSubmitRef)) w =
        ((w.provenance.claimConfirmation args.confirmationHandleRef args.clientSubmitRef).1,
          w.claimed args) := rfl
  unfold claimHandle
  rw [exec_tryCatch, exec_ask_bind, hhandle, hanswer]
  by_cases hclaim : record.clientSubmitRefClaim.getD args.clientSubmitRef = args.clientSubmitRef
  · rw [if_pos hclaim, if_pos hclaim]
    rfl
  · rw [if_neg hclaim, if_neg hclaim]
    rfl

theorem Alike.own_claimHandle (h : w.Alike key own w') {args : SubmitArgs}
    {record : ConfirmationProvenanceRecord} (hmine : record.binding.sessionRef = key)
    (hrecord : w.provenance.resolveConfirmation args.confirmationHandleRef = some record)
    (hrecord' : w'.provenance.resolveConfirmation args.confirmationHandleRef = some record) :
    Coupled handle (RefusedAlike key own)
      (fun _ _ t t' => t = w.claimed args ∧ t' = w'.claimed args)
      (claimHandle args) (claimHandle args) w w' := by
  have hleft := exec_claimHandle args hrecord
  have hright := exec_claimHandle args hrecord'
  have hafter := h.claimed hrecord hmine
  by_cases hclaim : record.clientSubmitRefClaim.getD args.clientSubmitRef = args.clientSubmitRef
  · rw [if_pos hclaim] at hleft hright
    exact Coupled.of_ok hleft hright ⟨rfl, rfl⟩
  · rw [if_neg hclaim] at hleft hright
    exact Coupled.of_error hleft hright ⟨rfl, hafter⟩

/-! ## Transitions -/

/-- A transition of the customer's session, where the references it takes over leave the sessions
alike. -/
theorem Alike.own_transition (h : w.Alike key own w') (args : TransitionArgs)
    (evidenceHandleRef : Option String) (hmine : w.sessions.canonicalRef args.sessionRef = key)
    (hrefs : ∀ s s', w.sessions.get args.sessionRef = some s →
      w'.sessions.get args.sessionRef = some s' → s.Alike own w.orders w'.orders s' →
        Coupled handle (RefusedAlike key own)
          (fun refs refs' t t' => t = w ∧ t' = w' ∧
            (s.transitioned args refs).Alike own w.orders w'.orders
              (s'.transitioned { args with evidenceHandleRef } refs'))
          (svc.sessions.evidenceChanges s args)
          (svc.sessions.evidenceChanges s' { args with evidenceHandleRef }) w w') :
    Coupled handle (RefusedAlike key own)
      (fun _ _ t t' => t.Alike key own t' ∧ t.sessions.canonicalRef args.sessionRef = key ∧
        t.orders = w.orders)
      (svc.sessions.transition args)
      (svc.sessions.transition { args with evidenceHandleRef }) w w' := by
  have hresults : (w'.sessions.idempotentResult args.sessionRef args.idempotencyKey).isSome =
      (w.sessions.idempotentResult args.sessionRef args.idempotencyKey).isSome := by
    unfold InMemoryCustomerSessionStore.idempotentResult
    rw [h.canonicalRef, hmine]
    exact h.results args.idempotencyKey
  unfold CustomerSessionService.transition
  apply Coupled.bind_of_ok (exec_idempotentResult _ _ w) (exec_idempotentResult _ _ w')
  cases hprior : w.sessions.idempotentResult args.sessionRef args.idempotencyKey with
  | some prior =>
      cases hprior' : w'.sessions.idempotentResult args.sessionRef args.idempotencyKey with
      | some prior' => exact Coupled.done ⟨h, hmine, rfl⟩
      | none =>
          rw [hprior, hprior'] at hresults
          cases hresults
  | none =>
      cases hprior' : w'.sessions.idempotentResult args.sessionRef args.idempotencyKey with
      | some prior' =>
          rw [hprior, hprior'] at hresults
          cases hresults
      | none =>
          obtain ⟨s, s', hs, hs', halike⟩ := h.get hmine
          have hkey := h.sessionRef_eq hmine hs
          have hkey' : s'.sessionRef = key := by
            rw [h.keyed' _ s' hs', h.canonicalRef, hmine]
          have hstate : s'.state = s.state :=
            CustomerSessionSnapshot.eq_of_unnamed (fun _ => rfl) halike.unnamed
          have hstale : s'.staleOrRotated = s.staleOrRotated :=
            CustomerSessionSnapshot.eq_of_unnamed (fun _ => rfl) halike.unnamed
          unfold CustomerSessionService.applyTransition
          apply Coupled.bind_of_ok (exec_required_of hs) (exec_required_of hs')
          rw [hstale, hstate]
          apply Coupled.raiseIf_bind Iff.rfl (fun _ => ⟨rfl, h⟩)
          intro _
          apply Coupled.raiseIf_bind Iff.rfl (fun _ => ⟨rfl, h⟩)
          intro _
          apply Coupled.raiseIf_bind Iff.rfl (fun _ => ⟨rfl, h⟩)
          intro _
          apply (hrefs s s' hs hs' halike).bind
          rintro refs refs' _ _ ⟨rfl, rfl, hupdated⟩
          apply Coupled.of_ok rfl rfl
          exact ⟨h.transitioned hkey hkey' hupdated rfl rfl, hmine, rfl⟩

theorem Alike.own_enterSubmitting (h : w.Alike key own w') {args : SubmitArgs}
    (hmine : w.sessions.canonicalRef args.sessionRef = key) {s s' : CustomerSessionSnapshot}
    (halike : s.Alike own w.orders w'.orders s') :
    Coupled handle (RefusedAlike key own)
      (fun r r' t t' => r'.correlationRef = r.correlationRef ∧ t.Alike key own t' ∧
        t.sessions.canonicalRef args.sessionRef = key ∧ t.orders = w.orders)
      (svc.enterSubmitting args s) (svc.enterSubmitting args s') w w' := by
  have hstate : s'.state = s.state :=
    CustomerSessionSnapshot.eq_of_unnamed (fun _ => rfl) halike.unnamed
  unfold enterSubmitting
  rw [hstate]
  split
  · have hstart := h.own_transition svc (startArgs args) none hmine ?_
    · apply hstart.bind
      rintro _ _ t t' ⟨hafter, hmine', horders⟩
      -- the session read back is the customer's
      obtain ⟨r, r', hr, hr', hread⟩ := hafter.get hmine'
      apply Coupled.bind_of_ok (exec_get _ _) (exec_get _ _)
      have hr : t.sessions.get args.sessionRef = some r := hr
      have hr' : t'.sessions.get args.sessionRef = some r' := hr'
      rw [hr, hr']
      refine Coupled.done ⟨?_, hafter, hmine', horders⟩
      exact CustomerSessionSnapshot.eq_of_unnamed (fun _ => rfl) hread.unnamed
    · intro s s' _ _ halike
      exact Coupled.done ⟨rfl, rfl, halike.transitioned rfl rfl⟩
  · split
    · exact Coupled.raise ⟨rfl, h⟩
    · refine Coupled.done ⟨?_, h, hmine, rfl⟩
      exact CustomerSessionSnapshot.eq_of_unnamed (fun _ => rfl) halike.unnamed

/-- `submit` up to the request: both worlds come to the same one. -/
theorem Alike.own_submitRequest (h : w.Alike key own w') {args : SubmitArgs}
    (hmine : w.sessions.canonicalRef args.sessionRef = key) :
    Coupled handle (RefusedAlike key own)
      (fun r r' t t' => r' = r ∧ r.clientSubmitRef = args.clientSubmitRef ∧
        w'.orders.resolveOrderConfirmation r.confirmationRef =
          w.orders.resolveOrderConfirmation r.confirmationRef ∧
        t.Alike key own t' ∧ t.sessions.canonicalRef args.sessionRef = key)
      (svc.submitRequest args) (svc.submitRequest args) w w' := by
  unfold submitRequest
  apply (h.own_requireActiveSecureSession svc hmine args.nowEpoch).bind
  rintro s s' _ _ ⟨rfl, rfl, hs, halike⟩
  apply (h.own_boundRecord args halike.unnamed (h.sessionRef_eq hmine hs)).bind
  rintro _ record _ _ ⟨rfl, rfl, rfl, hown, hrecord, hrecord'⟩
  apply (h.own_requireFreshConfirmation args hrecord').bind
  rintro _ _ _ _ ⟨rfl, rfl⟩
  apply (h.own_claimHandle hown hrecord hrecord').bind
  rintro _ _ _ _ ⟨rfl, rfl⟩
  have hclaimed := h.claimed hrecord hown
  apply (hclaimed.own_enterSubmitting svc hmine halike).bind
  rintro r r' t t' ⟨hcorrelation, hafter, hmine', -⟩
  refine Coupled.done ⟨?_, rfl, h.confirmations _ record hrecord', hafter, hmine'⟩
  unfold requestFor
  rw [hcorrelation]

/-! ## At the port -/

/-- Both ports hold an order for a client reference of the customer's. -/
structure HeldAlike (clientSubmitRef : String) (order order' : CanonicalOrderProjection)
    (w w' : World FakeXBOSOrderClient) : Prop where
  unnamed : order'.unnamed = order.unnamed
  held : ∃ ref, w.orders.ordersByClientRef.get? clientSubmitRef = some (ref, order)
  held' : ∃ ref, w'.orders.ordersByClientRef.get? clientSubmitRef = some (ref, order')

theorem Alike.own_placeOrder (h : w.Alike key own w') {request : OrderSubmitRequest}
    (hmine : request.clientSubmitRef ∈ own)
    (hissued : w'.orders.resolveOrderConfirmation request.confirmationRef =
      w.orders.resolveOrderConfirmation request.confirmationRef)
    (hunclaimed : ∀ c ∈ w.orders.clientRefByConfirmation.get? request.confirmationRef, c ∈ own) :
    Coupled handle (RefusedAlike key own)
      (fun o o' t t' => HeldAlike request.clientSubmitRef o o' t t' ∧ t.Alike key own t' ∧
        t.sessions = w.sessions)
      (placeOrder request) (placeOrder request) w w' := by
  have hleft := exec_placeOrder_of_regular h.ports.regular request
  have hright := exec_placeOrder_of_regular h.ports.regular' request
  have hissued : w'.orders.issuedConfirmations.get? request.confirmationRef =
      w.orders.issuedConfirmations.get? request.confirmationRef := hissued
  rw [h.ports.regular.submitOrder_eq] at hleft
  rw [h.ports.regular'.submitOrder_eq, hissued, h.ports.claim_eq hunclaimed] at hright
  split at hleft
  · next hnot =>
    rw [if_pos hnot] at hright
    exact Coupled.of_error hleft hright ⟨rfl, h⟩
  next hgiven =>
  rw [if_neg hgiven] at hright
  rcases h.ports.entry_cases hmine with ⟨hfree, hfree'⟩ | ⟨⟨ref, o⟩, ⟨ref', o'⟩, he, he', hsame⟩
  · -- a new order, unless the confirmation is claimed for another reference of the customer's
    rw [hfree] at hleft
    rw [hfree'] at hright
    dsimp only at hleft hright
    split at hleft
    · next hclaimed =>
      rw [if_pos hclaimed] at hright
      exact Coupled.of_error hleft hright ⟨rfl, h⟩
    · next hclaimed =>
      rw [if_neg hclaimed] at hright
      refine Coupled.of_ok hleft hright ⟨⟨rfl, ?_, ?_⟩, h.placed hmine, rfl⟩
      · exact ⟨_, w.orders.get?_place_self request⟩
      · exact ⟨_, w'.orders.get?_place_self request⟩
  · -- the order that is held, for the same confirmation in both worlds
    obtain ⟨href, hunnamed⟩ := Prod.ext_iff.mp hsame
    have href : ref' = ref := href
    subst href
    rw [he] at hleft
    rw [he'] at hright
    dsimp only at hleft hright
    split at hleft
    · next hother =>
      rw [if_pos hother] at hright
      exact Coupled.of_error hleft hright ⟨rfl, h⟩
    · next hother =>
      rw [if_neg hother] at hright
      exact Coupled.of_ok hleft hright ⟨⟨hunnamed, ⟨_, he⟩, ⟨_, he'⟩⟩, h, rfl⟩

/-! ## Completing the session -/

omit [Hashlib] in
/-- An order read through its other fields is the same in both worlds. -/
theorem HeldAlike.eq {clientSubmitRef : String} {o o' : CanonicalOrderProjection}
    (h : HeldAlike clientSubmitRef o o' w w') {α : Type} {f : CanonicalOrderProjection → α}
    (hf : ∀ o, f o.unnamed = f o) : f o' = f o := by
  rw [← hf o', h.unnamed, hf o]

omit [Hashlib] in
/-- Whether a session refers to the order has the same answer in both worlds. -/
theorem HeldAlike.refers_iff {args : SubmitArgs} {o o' : CanonicalOrderProjection}
    (h : HeldAlike args.clientSubmitRef o o' w w') (hmine : args.clientSubmitRef ∈ own)
    {s s' : CustomerSessionSnapshot} (halike : s.Alike own w.orders w'.orders s') :
    s'.orderRef.isSome ∧ s'.orderRef ≠ some o'.orderRef ↔
      s.orderRef.isSome ∧ s.orderRef ≠ some o.orderRef := by
  obtain ⟨ref, he⟩ := h.held
  obtain ⟨ref', he'⟩ := h.held'
  rw [halike.named]
  exact and_congr_right' (not_congr (halike.orders _ hmine _ _ he he'))

omit [Hashlib] in
/-- The evidence of an order is for the session unless it refers to another one. -/
theorem assertEvidenceMatchesSession_orderEvidence {s : CustomerSessionSnapshot}
    {o : CanonicalOrderProjection} (h : o.correlationRef = s.correlationRef) {now : Int} :
    assertEvidenceMatchesSession s (orderEvidence o now) =
      if s.orderRef.isSome ∧ s.orderRef ≠ some o.orderRef then
        .error ⟨.authoritativeEvidenceRequired, "upstream_order_reference_mismatch"⟩
      else .ok () := by
  unfold assertEvidenceMatchesSession orderEvidence
  rw [if_neg (not_not_intro h)]
  simp

theorem Alike.own_evidenceChanges (h : w.Alike key own w') {args : SubmitArgs}
    (hmine : args.clientSubmitRef ∈ own) {o o' : CanonicalOrderProjection}
    (horder : HeldAlike args.clientSubmitRef o o' w w') {s s' : CustomerSessionSnapshot}
    (halike : s.Alike own w.orders w'.orders s') (hcorrelation : o.correlationRef = s.correlationRef) :
    Coupled handle (RefusedAlike key own)
      (fun refs refs' t t' => t = w.evidenced s (orderEvidence o args.nowEpoch) ∧
        t' = w'.evidenced s' (orderEvidence o' args.nowEpoch) ∧
        (s.transitioned (resultArgs args w.nextEvidenceHandle) refs).Alike own w.orders w'.orders
          (s'.transitioned (resultArgs args w'.nextEvidenceHandle) refs'))
      (svc.sessions.evidenceChanges s (resultArgs args w.nextEvidenceHandle))
      (svc.sessions.evidenceChanges s' (resultArgs args w'.nextEvidenceHandle))
      (w.evidenced s (orderEvidence o args.nowEpoch))
      (w'.evidenced s' (orderEvidence o' args.nowEpoch)) := by
  have hafter := h.evidenced s s' (orderEvidence o args.nowEpoch) (orderEvidence o' args.nowEpoch)
  have hcorrelation' : o'.correlationRef = s'.correlationRef := by
    rw [horder.eq (f := CanonicalOrderProjection.correlationRef) fun _ => rfl, hcorrelation]
    exact (CustomerSessionSnapshot.eq_of_unnamed (fun _ => rfl) halike.unnamed).symm
  unfold CustomerSessionService.evidenceChanges
  have hgated (evidenceHandleRef : String) :
      (resultArgs args evidenceHandleRef).target.evidenceGated = true := rfl
  rw [if_pos (hgated _), if_pos (hgated _)]
  -- the handle that was issued leads back to the evidence
  apply Coupled.bind (Q := fun p p' t t' => p = orderEvidence o args.nowEpoch ∧
    p' = orderEvidence o' args.nowEpoch ∧ t = w.evidenced s (orderEvidence o args.nowEpoch) ∧
    t' = w'.evidenced s' (orderEvidence o' args.nowEpoch))
  · by_cases hstore : svc.sessions.provenanceStore = true
    · apply Coupled.of_ok
      · exact svc.sessions.exec_resolveAuthoritativeProjection_of
          ⟨hstore, _, World.resolveEvidence_evidenced hcorrelation, rfl, rfl⟩
      · exact svc.sessions.exec_resolveAuthoritativeProjection_of
          ⟨hstore, _, World.resolveEvidence_evidenced hcorrelation', rfl, rfl⟩
      · exact ⟨rfl, rfl, rfl, rfl⟩
    · apply Coupled.raiseIf_bind Iff.rfl
      · intro _
        exact ⟨rfl, hafter⟩
      · intro hno
        simp [hstore] at hno
  rintro _ _ _ _ ⟨rfl, rfl, rfl, rfl⟩
  have hmatches : assertEvidenceMatchesSession s' (orderEvidence o' args.nowEpoch) =
      assertEvidenceMatchesSession s (orderEvidence o args.nowEpoch) := by
    rw [assertEvidenceMatchesSession_orderEvidence hcorrelation,
      assertEvidenceMatchesSession_orderEvidence hcorrelation']
    exact if_congr (horder.refers_iff hmine halike) rfl rfl
  have hsupports : assertProjectionSupports .orderCreated (orderEvidence o' args.nowEpoch) =
      assertProjectionSupports .orderCreated (orderEvidence o args.nowEpoch) :=
    horder.eq (f := fun o => assertProjectionSupports .orderCreated (orderEvidence o args.nowEpoch))
      fun _ => rfl
  rw [hmatches]
  apply Coupled.ofExcept_bind (fun e _ => ⟨rfl, hafter⟩)
  intro _ _
  show Coupled handle _ _ (ofExcept (assertProjectionSupports .orderCreated _) >>= _)
    (ofExcept (assertProjectionSupports .orderCreated _) >>= _) _ _
  rw [hsupports]
  apply Coupled.ofExcept_bind (fun e _ => ⟨rfl, hafter⟩)
  intro _ _
  obtain ⟨ref, he⟩ := horder.held
  obtain ⟨ref', he'⟩ := horder.held'
  refine Coupled.done ⟨rfl, rfl, ?_⟩
  exact halike.created h.ports he he' _ _

/-- Evidence of an order of another correlation is not issued. -/
theorem exec_recordOrder_of_ne {args : SubmitArgs}
    {s : CustomerSessionSnapshot} {o : CanonicalOrderProjection} {w : World FakeXBOSOrderClient}
    (hne : o.correlationRef ≠ s.correlationRef) :
    exec handle (svc.recordOrder args s o) w =
      (.error ⟨.valueError, "upstream_correlation_mismatch"⟩,
        w.evidenced s (orderEvidence o args.nowEpoch)) := by
  have hanswer : (w.provenance.issueEvidence w.refs s (orderEvidence o args.nowEpoch)).1 =
      .error ⟨.valueError, "upstream_correlation_mismatch"⟩ := by
    unfold InMemoryChannelProvenanceStore.issueEvidence
    rw [if_pos (by simpa [orderEvidence] using hne)]
  unfold recordOrder
  rw [exec_ask_bind]
  show exec handle (ofExcept (w.provenance.issueEvidence w.refs s _).1 >>= _)
    (w.evidenced s _) = _
  rw [hanswer]
  rfl

theorem Alike.own_recordOrder (h : w.Alike key own w') {args : SubmitArgs}
    (hsession : w.sessions.canonicalRef args.sessionRef = key)
    (hmine : args.clientSubmitRef ∈ own) {o o' : CanonicalOrderProjection}
    (horder : HeldAlike args.clientSubmitRef o o' w w') {s s' : CustomerSessionSnapshot}
    (hs : w.sessions.get args.sessionRef = some s) (hs' : w'.sessions.get args.sessionRef = some s')
    (halike : s.Alike own w.orders w'.orders s') :
    Coupled handle (RefusedAlike key own) (fun r r' t t' => r = o ∧ r' = o' ∧ t.Alike key own t')
      (svc.recordOrder args s o) (svc.recordOrder args s' o') w w' := by
  have hevidenced := h.evidenced s s' (orderEvidence o args.nowEpoch)
    (orderEvidence o' args.nowEpoch)
  have ho : o'.correlationRef = o.correlationRef :=
    horder.eq (f := CanonicalOrderProjection.correlationRef) fun _ => rfl
  have hcorr : s'.correlationRef = s.correlationRef :=
    CustomerSessionSnapshot.eq_of_unnamed (fun _ => rfl) halike.unnamed
  by_cases hcorrelation : o.correlationRef = s.correlationRef
  · have hcorrelation' : o'.correlationRef = s'.correlationRef := by rw [ho, hcorr, hcorrelation]
    have htransition := hevidenced.own_transition svc (resultArgs args w.nextEvidenceHandle)
      (some w'.nextEvidenceHandle) hsession ?_
    · rcases htransition.cases with
        ⟨_, _, t, t', hexec, hexec', hafter, -⟩ | ⟨e, e', t, t', hexec, hexec', hrefused⟩
      · apply Coupled.of_ok _ _ ⟨rfl, rfl, hafter⟩
        · rw [svc.exec_recordOrder_of hcorrelation, hexec]
        · rw [svc.exec_recordOrder_of hcorrelation']
          change exec handle (svc.sessions.transition (resultArgs args w'.nextEvidenceHandle)) _ = _
            at hexec'
          rw [hexec']
      · apply Coupled.of_error _ _ hrefused
        · rw [svc.exec_recordOrder_of hcorrelation, hexec]
        · rw [svc.exec_recordOrder_of hcorrelation']
          change exec handle (svc.sessions.transition (resultArgs args w'.nextEvidenceHandle)) _ = _
            at hexec'
          rw [hexec']
    · intro r r' hr hr' _
      -- the evidence is issued beside the session
      obtain rfl := Option.some.inj (hs.symm.trans hr)
      obtain rfl := Option.some.inj (hs'.symm.trans hr')
      exact h.own_evidenceChanges svc hmine horder halike hcorrelation
  · apply Coupled.of_error (exec_recordOrder_of_ne svc hcorrelation)
      (exec_recordOrder_of_ne svc _) ⟨rfl, hevidenced⟩
    rw [ho, hcorr]
    exact hcorrelation

theorem Alike.own_complete (h : w.Alike key own w') {args : SubmitArgs}
    (hsession : w.sessions.canonicalRef args.sessionRef = key)
    (hmine : args.clientSubmitRef ∈ own) {o o' : CanonicalOrderProjection}
    (horder : HeldAlike args.clientSubmitRef o o' w w') :
    Coupled handle (RefusedAlike key own) (fun r r' t t' => r = o ∧ r' = o' ∧ t.Alike key own t')
      (svc.complete args o) (svc.complete args o') w w' := by
  obtain ⟨s, s', hs, hs', halike⟩ := h.get hsession
  have hstate : s'.state = s.state :=
    CustomerSessionSnapshot.eq_of_unnamed (fun _ => rfl) halike.unnamed
  have hrefers := horder.refers_iff hmine halike
  unfold complete
  apply Coupled.bind_of_ok (exec_get _ _) (exec_get _ _)
  rw [hs, hs']
  dsimp only
  rw [hstate]
  split
  · by_cases hother : s.orderRef.isSome ∧ s.orderRef ≠ some o.orderRef
    · rw [if_pos hother, if_pos (hrefers.mpr hother)]
      exact Coupled.raise ⟨rfl, h⟩
    · rw [if_neg hother, if_neg (mt hrefers.mp hother)]
      exact Coupled.done ⟨rfl, rfl, h⟩
  · split
    · exact Coupled.raise ⟨rfl, h⟩
    · exact h.own_recordOrder svc hsession hmine horder hs hs' halike

/-- `submit` from the request on, where no one else has claimed the confirmation. -/
theorem Alike.own_placeAndComplete (h : w.Alike key own w') {args : SubmitArgs}
    (hsession : w.sessions.canonicalRef args.sessionRef = key)
    (hmine : args.clientSubmitRef ∈ own) {request : OrderSubmitRequest}
    (hclient : request.clientSubmitRef = args.clientSubmitRef)
    (hissued : w'.orders.resolveOrderConfirmation request.confirmationRef =
      w.orders.resolveOrderConfirmation request.confirmationRef)
    (hunclaimed : ∀ c ∈ w.orders.clientRefByConfirmation.get? request.confirmationRef, c ∈ own) :
    Coupled handle (RefusedAlike key own)
      (fun o o' t t' => o'.unnamed = o.unnamed ∧ o.confirmationRef = request.confirmationRef ∧
        t.Alike key own t')
      (svc.placeAndComplete args request) (svc.placeAndComplete args request) w w' := by
  unfold placeAndComplete
  apply (h.own_placeOrder (by rwa [hclient]) hissued hunclaimed).bind
  rintro o o' t t' ⟨horder, hafter, hsessions⟩
  have hassert : assertOrderResultMatchesRequest o' request =
      assertOrderResultMatchesRequest o request :=
    horder.eq (f := fun o => assertOrderResultMatchesRequest o request) fun _ => rfl
  rw [hassert]
  apply Coupled.ofExcept_bind (fun e _ => ⟨rfl, hafter⟩)
  intro _ hok
  have hconfirmation : o.confirmationRef = request.confirmationRef := by
    by_contra hne
    unfold assertOrderResultMatchesRequest at hok
    split at hok
    · cases hok
    split at hok
    · cases hok
    cases hok
  rw [hclient] at horder
  have hsession : t.sessions.canonicalRef args.sessionRef = key := by rw [hsessions, hsession]
  refine (hafter.own_complete svc hsession hmine horder).mono (fun _ _ _ _ he => he) ?_
  rintro _ _ t t' ⟨rfl, rfl, hlast⟩
  exact ⟨horder.unnamed, hconfirmation, hlast⟩

theorem mem_issued_placeAndComplete (args : SubmitArgs) (request : OrderSubmitRequest)
    (w : World FakeXBOSOrderClient) :
    (.order (.submitOrder request), w) ∈ issued handle (svc.placeAndComplete args request) w := by
  unfold placeAndComplete placeOrder
  apply mem_issued_bind_left
  rw [issued_tryCatch]
  exact List.mem_append_left _ List.mem_cons_self

/-- A call of `submit` of the customer's, where no one else has claimed the confirmation. -/
theorem Alike.own_submit (h : w.Alike key own w') {args : SubmitArgs}
    (hsession : w.sessions.canonicalRef args.sessionRef = key)
    (hmine : args.clientSubmitRef ∈ own)
    (hunclaimed : ∀ request ∈ (issued handle (svc.submit args) w).filterMap submittedBy,
      ∀ c ∈ w.orders.clientRefByConfirmation.get? request.confirmationRef, c ∈ own) :
    Coupled handle (RefusedAlike key own)
      (fun o o' t t' => o'.unnamed = o.unnamed ∧
        w'.orders.resolveOrderConfirmation o.confirmationRef =
          w.orders.resolveOrderConfirmation o.confirmationRef ∧ t.Alike key own t')
      (svc.submit args) (svc.submit args) w w' := by
  rw [submit_eq] at hunclaimed ⊢
  rcases (h.own_submitRequest svc hsession).cases with
    ⟨_, request, t, t', hexec, hexec', rfl, hclient, hissued, hafter, hsession'⟩ |
    ⟨e, e', t, t', hexec, hexec', hrefused⟩
  case inr =>
    exact Coupled.of_error (exec_bind_error handle hexec _) (exec_bind_error handle hexec' _)
      hrefused
  -- the port has not been reached so far
  have horders : t.orders = w.orders := by
    have hinternal := exec_orders_of_internal (svc.uses_submitRequest args) w
    rwa [hexec] at hinternal
  have horders' : t'.orders = w'.orders := by
    have hinternal := exec_orders_of_internal (svc.uses_submitRequest args) w'
    rwa [hexec'] at hinternal
  apply Coupled.bind_of_ok hexec hexec'
  have hfree : ∀ c ∈ t.orders.clientRefByConfirmation.get? request.confirmationRef, c ∈ own := by
    rw [horders]
    apply hunclaimed
    refine List.mem_filterMap.mpr ⟨(.order (.submitOrder request), t), ?_, rfl⟩
    exact mem_issued_bind_of_ok handle hexec (mem_issued_placeAndComplete svc args request t)
  have hsame : t'.orders.resolveOrderConfirmation request.confirmationRef =
      t.orders.resolveOrderConfirmation request.confirmationRef := by
    rw [horders, horders', hissued]
  refine (hafter.own_placeAndComplete svc hsession' hmine hclient hsame hfree).mono
    (fun _ _ _ _ he => he) ?_
  rintro o o' _ _ ⟨hunnamed, hconfirmation, hlast⟩
  refine ⟨hunnamed, ?_, hlast⟩
  rw [hconfirmation, hissued]

end World

end XbosCustomerChannel
