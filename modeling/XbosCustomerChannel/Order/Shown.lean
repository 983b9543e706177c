import XbosCustomerChannel.Calls
import XbosCustomerChannel.Fixture
import XbosCustomerChannel.Provenance.Fingerprint
import Mathlib.Data.List.Induction

/-!
# What is ordered is what was shown

A request reaches the order port only for a handle with a record. Records come from
`prepare_confirmation` and are never rewritten but for their claim, so the record a request was
checked against is still the one whose presentation the customer was given.
-/

namespace XbosCustomerChannel

open Effects Effects.Program Data OrderDraftConfirmationService

/-! ## No handle out of nothing -/

/-- The operation issues no confirmation handle. -/
def ChannelOp.IssuesNone (op : ChannelOp) : Prop :=
  ∀ session confirmation, op ≠ .provenance (.issueConfirmation session confirmation)

theorem ChannelOp.Reads.issuesNone {op : ChannelOp} (h : op.Reads) : op.IssuesNone := by
  rintro session confirmation rfl
  exact h

theorem ChannelOp.Interacts.issuesNone {op : ChannelOp} (h : op.Interacts) : op.IssuesNone := by
  rintro session confirmation rfl
  exact h

theorem ChannelOp.Internal.issuesNone {op : ChannelOp} (h : op.Internal) : op.IssuesNone := by
  rintro session confirmation rfl
  exact h

/-- Every record of `w'` is one of `w`, but for its claim. -/
def World.RecordsFrom {π : Type} (w w' : World π) : Prop :=
  ∀ handle r', w'.provenance.resolveConfirmation handle = some r' →
    ∃ r, w.provenance.resolveConfirmation handle = some r ∧ RecordKept r r'

namespace World

variable {π : Type}

theorem RecordsFrom.of_eq {w w' : World π}
    (h : w'.provenance.confirmations = w.provenance.confirmations) : w.RecordsFrom w' := by
  intro handle r' hr
  refine ⟨r', ?_, .refl r'⟩
  unfold InMemoryChannelProvenanceStore.resolveConfirmation at hr ⊢
  rw [← h]
  exact hr

theorem RecordsFrom.trans {w w' w'' : World π} (h₁ : w.RecordsFrom w') (h₂ : w'.RecordsFrom w'') :
    w.RecordsFrom w'' := by
  intro handle r'' hr''
  obtain ⟨r', hr', hkept'⟩ := h₂ handle r'' hr''
  obtain ⟨r, hr, hkept⟩ := h₁ handle r' hr'
  exact ⟨r, hr, hkept.trans hkept'⟩

theorem recordsFrom_claimed (w : World π) (args : SubmitArgs) : w.RecordsFrom (w.claimed args) := by
  intro handle r' hr'
  unfold claimed InMemoryChannelProvenanceStore.claimConfirmation at hr'
  cases hfound : w.provenance.confirmations.get? args.confirmationHandleRef with
  | none =>
      rw [hfound] at hr'
      exact ⟨r', hr', .refl r'⟩
  | some current =>
      rw [hfound] at hr'
      dsimp only at hr'
      split at hr'
      · next hclaim =>
        by_cases hh : handle = args.confirmationHandleRef
        · subst hh
          obtain rfl := Option.some.inj ((Dict.get?_set_self _ _ _).symm.trans hr')
          refine ⟨current, hfound, ⟨_, rfl⟩, fun c h => ?_⟩
          rw [hclaim] at h
          cases h
        · exact ⟨r', (Dict.get?_set_of_ne _ hh _).symm.trans hr', .refl r'⟩
      · split at hr'
        · exact ⟨r', hr', .refl r'⟩
        · exact ⟨r', hr', .refl r'⟩

end World

section Run

variable {π : Type} [XBOSOrderPort π] [Hashlib]

theorem handle_recordsFrom (op : Channel.Op) (w : World π) (h : ChannelOp.IssuesNone op) :
    w.RecordsFrom (handle op w).2 := by
  cases op with
  | session op => exact .of_eq rfl
  | order op => exact .of_eq rfl
  | upstream op => exact .of_eq rfl
  | orderAuthority op => exact .of_eq rfl
  | provenance op =>
      cases op with
      | resolveEvidence handle => exact .of_eq rfl
      | resolveConfirmation handle => exact .of_eq rfl
      | issueConfirmation session confirmation => exact absurd rfl (h session confirmation)
      | claimConfirmation handle clientRef =>
          exact World.recordsFrom_claimed w ⟨"", handle, clientRef, 0⟩
      | issueEvidence session p =>
          refine .of_eq ?_
          show (w.provenance.issueEvidence w.refs session p).2.confirmations = _
          unfold InMemoryChannelProvenanceStore.issueEvidence
          split <;> rfl

theorem exec_recordsFrom {α : Type} {p : Service α} (hp : p.Uses ChannelOp.IssuesNone)
    (w : World π) : w.RecordsFrom (exec handle p w).2 :=
  exec_preserves handle (R := World.RecordsFrom) (fun _ => .of_eq rfl) (fun _ _ _ => .trans)
    handle_recordsFrom hp w

/-! ## `prepare_confirmation` -/

/-- The world with a confirmation issued to the session. -/
def World.confirmed (w : World π) (session : CustomerSessionSnapshot)
    (confirmation : AuthoritativeOrderConfirmationSnapshot) : World π :=
  { w with provenance := (w.provenance.issueConfirmation w.refs session confirmation).2 }

/-- The record a confirmation is issued with. -/
def World.nextRecord (w : World π) (session : CustomerSessionSnapshot)
    (confirmation : AuthoritativeOrderConfirmationSnapshot) : ConfirmationProvenanceRecord :=
  InMemoryChannelProvenanceStore.confirmationRecord (w.provenance.newConfirmationHandle w.refs)
    session confirmation

omit [XBOSOrderPort π] in
theorem World.confirmed_records {w : World π} {session : CustomerSessionSnapshot}
    {confirmation : AuthoritativeOrderConfirmationSnapshot} {handleRef : String}
    {record : ConfirmationProvenanceRecord}
    (h : (w.confirmed session confirmation).provenance.resolveConfirmation handleRef =
      some record) :
    w.provenance.resolveConfirmation handleRef = some record ∨
      ((w.nextRecord session confirmation).confirmationHandleRef = handleRef ∧
        w.nextRecord session confirmation = record) := by
  unfold confirmed InMemoryChannelProvenanceStore.issueConfirmation at h
  split at h
  · exact .inl h
  · change (w.provenance.confirmations.set _ _).get? handleRef = some record at h
    rw [Dict.get?_set] at h
    split at h
    · next hhandle => exact .inr ⟨hhandle.symm, Option.some.inj h⟩
    · exact .inl h

/-- Drafting a confirmation reaches the order port only. -/
theorem handle_drafts (op : Channel.Op) (w : World π) (h : ChannelOp.Drafts op) :
    ∃ orders, (handle op w).2 = w.withOrders orders := by
  cases op with
  | session op => exact ⟨w.orders, handle_of_reads (.session op) w (by cases op <;> exact h)⟩
  | provenance op => exact ⟨w.orders, handle_of_reads (.provenance op) w (by cases op <;> exact h)⟩
  | order op => exact ⟨_, rfl⟩
  | upstream op => exact ⟨w.orders, rfl⟩
  | orderAuthority op => exact ⟨w.orders, rfl⟩

theorem exec_drafts {α : Type} {p : Service α} (hp : p.Uses ChannelOp.Drafts) (w : World π) :
    ∃ orders, (exec handle p w).2 = w.withOrders orders := by
  refine exec_preserves handle (R := fun w w' : World π => ∃ orders, w' = w.withOrders orders)
    (fun w => ⟨w.orders, rfl⟩) ?_ handle_drafts hp w
  rintro w _ _ ⟨orders, rfl⟩ ⟨orders', rfl⟩
  exact ⟨orders', rfl⟩

namespace OrderDraftConfirmationService

variable (svc : OrderDraftConfirmationService)

omit [XBOSOrderPort π] in
theorem uses_submit (args : SubmitArgs) : (svc.submit args).Uses ChannelOp.IssuesNone := by
  apply svc.uses_submit_of (fun _ h => h.issuesNone)
  rintro request session confirmation ⟨⟩

/-- A confirmation is issued to a session with a complete security binding. -/
theorem exec_issueConfirmation (session : CustomerSessionSnapshot)
    (confirmation : AuthoritativeOrderConfirmationSnapshot) (w : World π) :
    (∃ e, exec handle (issueConfirmation session confirmation) w = (.error e, w)) ∨
      exec handle (issueConfirmation session confirmation) w =
        (.ok (presentationFromRecord (w.nextRecord session confirmation)),
          w.confirmed session confirmation) := by
  unfold issueConfirmation World.confirmed
  rw [exec_ask_bind, exec_ofExcept]
  dsimp only [handle, InMemoryChannelProvenanceStore.answer]
  unfold InMemoryChannelProvenanceStore.issueConfirmation
  split
  · exact .inl ⟨_, rfl⟩
  · exact .inr rfl

/-- A call of `prepare_confirmation` issues one record, and returns its presentation, or raises and
issues none. -/
theorem prepareConfirmation_cases (args : PrepareConfirmationArgs) (w : World π) :
    (∃ e orders, exec handle (svc.prepareConfirmation args) w = (.error e, w.withOrders orders)) ∨
    ∃ session confirmation orders, w.sessions.get args.sessionRef = some session ∧
      svc.sessions.ValidActive w.upstream session args.nowEpoch ∧
      exec handle (svc.prepareConfirmation args) w =
        (.ok (presentationFromRecord (w.nextRecord session confirmation)),
          (w.withOrders orders).confirmed session confirmation) := by
  unfold prepareConfirmation
  rcases svc.requireActiveSecureSession_cases args.sessionRef args.nowEpoch w with
    ⟨session, hfound, hvalid, hexec⟩ | ⟨-, e, hexec⟩
  case inr => exact .inl ⟨e, w.orders, exec_bind_error handle hexec _⟩
  rw [exec_bind_ok handle hexec, exec_bind]
  obtain ⟨orders, horders⟩ := exec_drafts (uses_draftConfirmation args session) w
  cases hdraft : exec handle (draftConfirmation args session) w with
  | mk drafted w' =>
      rw [hdraft] at horders
      obtain rfl : w' = w.withOrders orders := horders
      cases drafted with
      | error e => exact .inl ⟨e, orders, rfl⟩
      | ok confirmation =>
          rcases exec_issueConfirmation session confirmation (w.withOrders orders) with
            ⟨e, hissue⟩ | hissue
          · exact .inl ⟨e, orders, hissue⟩
          · exact .inr ⟨session, confirmation, orders, hfound, hvalid, hissue⟩

end OrderDraftConfirmationService

/-! ## Where a record comes from -/

/-- The call has validated a session and issued the record to it; since then the record has changed
in its claim at most. -/
def World.Issued (svc : OrderDraftConfirmationService) (w : World π)
    (args : PrepareConfirmationArgs) (handleRef : String) (record : ConfirmationProvenanceRecord) :
    Prop :=
  ∃ session confirmation, w.sessions.get args.sessionRef = some session ∧
    svc.sessions.ValidActive w.upstream session args.nowEpoch ∧
    (exec handle (svc.prepareConfirmation args) w).1 =
      .ok (presentationFromRecord (w.nextRecord session confirmation)) ∧
    (w.nextRecord session confirmation).confirmationHandleRef = handleRef ∧
    RecordKept (w.nextRecord session confirmation) record

variable (svc : OrderDraftConfirmationService)

/-- An entry of a run adds the record of a `prepare_confirmation` call, or none. -/
theorem step_records (w : World π) (call : ChannelCall π) {handleRef : String}
    {record : ConfirmationProvenanceRecord}
    (hrecord : (step svc w call).provenance.resolveConfirmation handleRef = some record) :
    (∃ r, w.provenance.resolveConfirmation handleRef = some r ∧ RecordKept r record) ∨
      ∃ args, call = .prepareConfirmation args ∧ w.Issued svc args handleRef record := by
  have hchange : w.RecordsFrom (call.change w) := .of_eq (by cases call <;> rfl)
  have hnone (huses : (call.program svc w).Uses ChannelOp.IssuesNone) :
      ∃ r, w.provenance.resolveConfirmation handleRef = some r ∧ RecordKept r record :=
    hchange.trans (exec_recordsFrom huses _) handleRef record hrecord
  rcases call.uses_cases svc w with huses | ⟨args, rfl, -⟩ | ⟨args, rfl⟩
  · exact .inl (hnone (huses.mono fun _ h => h.issuesNone))
  · change (exec handle (svc.prepareConfirmation args).void w).2.provenance.resolveConfirmation
      handleRef = some record at hrecord
    rw [exec_void_state] at hrecord
    rcases svc.prepareConfirmation_cases args w with
      ⟨e, orders, hexec⟩ | ⟨session, confirmation, orders, hfound, hvalid, hexec⟩
    · rw [hexec] at hrecord
      exact .inl ⟨record, hrecord, .refl record⟩
    · rw [hexec] at hrecord
      rcases World.confirmed_records hrecord with hold | ⟨hhandle, rfl⟩
      · exact .inl ⟨record, hold, .refl record⟩
      · refine .inr ⟨args, rfl, session, confirmation, hfound, hvalid, ?_, hhandle, .refl _⟩
        rw [hexec]
  · exact .inl (hnone ((svc.uses_submit args).bind fun _ => Uses.done _))

/-- Every record was issued by an earlier call. -/
theorem run_records (orders : π) (upstream : Upstream) (refs : RefSource)
    (calls : List (ChannelCall π)) {handleRef : String} {record : ConfirmationProvenanceRecord}
    (hrecord : (run svc (World.start orders upstream refs) calls).provenance.resolveConfirmation
      handleRef = some record) :
    ∃ before args after, calls = before ++ .prepareConfirmation args :: after ∧
      (run svc (World.start orders upstream refs) before).Issued svc args handleRef record := by
  induction calls using List.reverseRecOn generalizing record with
  | nil => cases hrecord
  | append_singleton calls call ih =>
      rw [run_append, run_cons, run_nil] at hrecord
      rcases step_records svc _ call hrecord with ⟨r, hr, hkept⟩ | ⟨args, rfl, hissued⟩
      · obtain ⟨before, args, after, rfl, hissued⟩ := ih hr
        refine ⟨before, args, after ++ [call], by simp, ?_⟩
        obtain ⟨session, confirmation, hfound, hvalid, hreturned, hhandle, hkept'⟩ := hissued
        exact ⟨session, confirmation, hfound, hvalid, hreturned, hhandle, hkept'.trans hkept⟩
      · exact ⟨calls, args, [], rfl, hissued⟩

/-! ## Requests -/

/-- Placing an order makes one request, in the world it starts in. -/
theorem placeOrder_issued {request request' : OrderSubmitRequest} {w w' : World π}
    (h : (ChannelOp.order (.submitOrder request'), w') ∈
      issued handle (OrderDraftConfirmationService.placeOrder request) w) :
    request' = request ∧ w' = w := by
  unfold OrderDraftConfirmationService.placeOrder at h
  rw [issued_tryCatch] at h
  rcases List.mem_append.mp h with h | h
  · rw [issued_bind] at h
    simp only [issued_call, issued_done, exec_call, exec_done, issued_ofExcept, List.append_nil,
      List.mem_singleton, Prod.mk.injEq, ChannelOp.order.injEq, OrderPortOp.submitOrder.injEq] at h
    exact h
  · -- a lost answer is only asked about
    split at h
    · cases h
    · next e w₁ hraised =>
      refine absurd (Uses.of_issued handle (A := ChannelOp.Reads) ?_ h) id
      split
      · refine uses_ask_bind trivial fun found => ?_
        cases found <;> trivial
      · trivial

/-- Every request a call of `submit` makes is one that its checks have passed in the world the call
started in; the order port has not changed since. -/
theorem submit_issued {w w' : World π} (hk : w.Keyed) {args : SubmitArgs}
    {request : OrderSubmitRequest}
    (h : (ChannelOp.order (.submitOrder request), w') ∈ issued handle (svc.submit args) w) :
    ∃ session record, svc.Authorized w args session record ∧
      request = OrderDraftConfirmationService.requestFor args session record ∧
      w'.orders = w.orders := by
  rw [OrderDraftConfirmationService.submit_eq, issued_bind] at h
  rcases List.mem_append.mp h with h | h
  · exact absurd rfl (ChannelOp.Internal.ne_submitOrder
      ((svc.uses_submitRequest args).of_issued handle h) request)
  rcases svc.submitRequest_cases hk args with
    ⟨session, record, hauthorized, hexec⟩ | ⟨-, e, hexec | hexec⟩
  · rw [hexec] at h
    dsimp only at h
    unfold OrderDraftConfirmationService.placeAndComplete at h
    rw [issued_bind] at h
    rcases List.mem_append.mp h with h | h
    · obtain ⟨rfl, rfl⟩ := placeOrder_issued h
      exact ⟨session, record, hauthorized, rfl, w.entered_orders args session⟩
    · -- after the answer nothing more is requested
      split at h
      · next order w₁ hplaced =>
        refine absurd rfl (ChannelOp.Internal.ne_submitOrder (Uses.of_issued handle ?_ h) request)
        exact Uses.bind (Uses.ofExcept _) fun _ => svc.uses_complete args order
      · cases h
  · rw [hexec] at h
    cases h
  · rw [hexec] at h
    cases h

/-- The port holds a confirmation that has not expired and has the recorded fingerprint. -/
theorem held_of_authorized {w : World π} {args : SubmitArgs} {session : CustomerSessionSnapshot}
    {record : ConfirmationProvenanceRecord} (h : svc.Authorized w args session record) :
    ∃ confirmation, XBOSOrderPort.resolveOrderConfirmation w.orders
        record.authoritativeXbosConfirmationRef = some confirmation ∧
      args.nowEpoch < confirmation.expiresAtEpoch ∧
      confirmationCommercialFingerprint confirmation = record.commercialFingerprint := by
  have hfresh := h.fresh
  unfold checkAuthoritativeConfirmation at hfresh
  split at hfresh
  · cases hfresh
  · next confirmation hheld =>
    split at hfresh
    · cases hfresh
    · next hexpiry =>
      split at hfresh
      · cases hfresh
      · next hfingerprint =>
        exact ⟨confirmation, hheld, by omega, by simpa using hfingerprint⟩

/-! ## The guarantee -/

/-- The digest tells apart every recorded confirmation from every different one the port holds. -/
def World.CollisionFree (w : World π) : Prop :=
  ∀ handleRef record confirmationRef confirmation,
    w.provenance.resolveConfirmation handleRef = some record →
    XBOSOrderPort.resolveOrderConfirmation w.orders confirmationRef = some confirmation →
    Hashlib.sha256 (confirmationEncoding confirmation) =
      Hashlib.sha256 (confirmationEncoding record.authoritativeSnapshot) →
    confirmationEncoding confirmation = confirmationEncoding record.authoritativeSnapshot

/-- In every run, a request that a `submit` call passes to the order port is for a handle that an
earlier `prepare_confirmation` call returned, for a session with the same security binding; and the
confirmation the port then holds has the terms that were returned and has not expired. -/
theorem submitted_as_shown (orders : π) (upstream : Upstream) (refs : RefSource)
    (history : List (ChannelCall π)) {w : World π}
    (hw : w = run svc (World.start orders upstream refs) history) (hcollision : w.CollisionFree)
    {args : SubmitArgs} {request : OrderSubmitRequest} {w' : World π}
    (h : (ChannelOp.order (.submitOrder request), w') ∈ issued handle (svc.submit args) w) :
    ∃ before prepare after shown issuedTo session confirmation,
      history = before ++ .prepareConfirmation prepare :: after ∧
      (exec handle (svc.prepareConfirmation prepare)
        (run svc (World.start orders upstream refs) before)).1 = .ok shown ∧
      shown.confirmationHandleRef = args.confirmationHandleRef ∧
      (run svc (World.start orders upstream refs) before).sessions.get prepare.sessionRef =
        some issuedTo ∧
      w.sessions.get args.sessionRef = some session ∧
      bindingFromSession issuedTo = bindingFromSession session ∧
      request.correlationRef = session.correlationRef ∧
      XBOSOrderPort.resolveOrderConfirmation w'.orders request.confirmationRef =
        some confirmation ∧
      confirmation.confirmationRef = request.confirmationRef ∧
      confirmation.terms = shown.terms ∧ args.nowEpoch < confirmation.expiresAtEpoch := by
  have hk : w.Keyed := by
    rw [hw]
    exact run_keyed svc (start_keyed _ _ _) history
  obtain ⟨session, record, hauthorized, rfl, horders⟩ := submit_issued svc hk h
  -- the record, and the call that issued it
  have hrecord := hauthorized.recorded
  rw [hw] at hrecord
  obtain ⟨before, prepare, after, hhistory, issuedTo, drafted, hfound, -, hreturned, hhandle,
    hkept⟩ := run_records svc orders upstream refs history hrecord
  -- the confirmation the checks have seen
  obtain ⟨confirmation, hheld, hfresh, hfingerprint⟩ := held_of_authorized svc hauthorized
  have hdigest : confirmationCommercialFingerprint confirmation =
      confirmationCommercialFingerprint record.authoritativeSnapshot := by
    rw [hfingerprint, hkept.fingerprint, hkept.snapshot]
    rfl
  obtain ⟨href, hterms⟩ := terms_eq_of_encoding_eq
    (hcollision _ record _ confirmation hauthorized.recorded hheld hdigest)
  refine ⟨before, prepare, after, _, issuedTo, session, confirmation, hhistory, hreturned, hhandle,
    hfound, hauthorized.found, ?_, rfl, ?_, ?_, ?_, hfresh⟩
  · rw [← hauthorized.bound, hkept.binding]
    rfl
  · rw [horders]
    exact hheld
  · show _ = record.authoritativeXbosConfirmationRef
    rw [href, hkept.confirmationRef, hkept.snapshot]
    rfl
  · rw [hterms, hkept.snapshot]
    rfl

end Run

section Fixture

open Fixture

/-- The request of the first submission. -/
def firstRequest : OrderSubmitRequest where
  clientSubmitRef := firstOrder.clientSubmitRef
  correlationRef := firstOrder.correlationRef
  confirmationRef := firstOrder.confirmationRef

def isFirstSubmission : ChannelOp → Bool
  | .order (.submitOrder request) => request = firstRequest
  | _ => false

/-- One confirmation has been prepared, so there is nothing it could collide with. -/
theorem reviewed_collisionFree : reviewed.CollisionFree := by
  have hone : ∃ c, (reviewed.provenance.confirmations.entries.all
        fun e => e.2.authoritativeSnapshot = c) = true ∧
      (reviewed.orders.issuedConfirmations.entries.all fun e => e.2 = c) = true := by
    have hfound : ∃ record, reviewed.provenance.resolveConfirmation confirmationHandle =
        some record ∧ (reviewed.provenance.confirmations.entries.all
          fun e => e.2.authoritativeSnapshot = record.authoritativeSnapshot) = true ∧
        (reviewed.orders.issuedConfirmations.entries.all
          fun e => e.2 = record.authoritativeSnapshot) = true := by decide +kernel
    obtain ⟨record, -, hrecords, hheld⟩ := hfound
    exact ⟨record.authoritativeSnapshot, hrecords, hheld⟩
  obtain ⟨c, hrecords, hheld⟩ := hone
  intro handleRef record confirmationRef confirmation hrecord hconfirmation _
  have hsnapshot : record.authoritativeSnapshot = c := of_decide_eq_true
    (List.all_eq_true.mp hrecords _ (Dict.mem_entries_of_get? hrecord))
  have hsame : confirmation = c := of_decide_eq_true
    (List.all_eq_true.mp hheld _ (Dict.mem_entries_of_get? hconfirmation))
  rw [hsnapshot, hsame]

theorem submitted_as_shown_reviewed : ∃ w' : World FakeXBOSOrderClient,
    (ChannelOp.order (.submitOrder firstRequest), w') ∈
      issued handle (OrderDraftConfirmationService.submit {} (submission "submit:fixture:one" 20))
        reviewed ∧
    ∃ (shown : ServerIssuedConfirmation) (confirmation : AuthoritativeOrderConfirmationSnapshot),
      shown.confirmationHandleRef = confirmationHandle ∧
      XBOSOrderPort.resolveOrderConfirmation w'.orders firstRequest.confirmationRef =
        some confirmation ∧
      confirmation.terms = shown.terms ∧ 20 < confirmation.expiresAtEpoch := by
  have hrequested : ((issued handle
      (OrderDraftConfirmationService.submit {} (submission "submit:fixture:one" 20))
      reviewed).any fun o => isFirstSubmission o.1) = true := by decide +kernel
  obtain ⟨⟨op, w'⟩, hmem, hop⟩ := List.any_eq_true.mp hrequested
  have hop : op = .order (.submitOrder firstRequest) := by
    dsimp only [isFirstSubmission] at hop
    split at hop
    · rw [of_decide_eq_true hop]
    · cases hop
  subst hop
  have hreached : reviewed = run ({} : OrderDraftConfirmationService)
    (World.start {} (upstream 1 3000) lengthRefs) (intoReview ++ [prepare 1 3000 10]) := rfl
  have hshown := submitted_as_shown ({} : OrderDraftConfirmationService) ({} : FakeXBOSOrderClient)
    (upstream 1 3000) lengthRefs (intoReview ++ [prepare 1 3000 10]) hreached
    reviewed_collisionFree hmem
  obtain ⟨_, _, _, shown, _, _, confirmation, _, _, hhandle, _, _, _, _, hheld, _, hterms,
    hfresh⟩ := hshown
  exact ⟨w', hmem, shown, confirmation, hhandle, hheld, hterms, hfresh⟩

end Fixture

end XbosCustomerChannel
