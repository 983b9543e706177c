import XbosCustomerChannel.Order.Spec

/-!
# From the order port to a completed session

The part of `submit` that starts with the request: what the fixture answers, and how the session is
completed with the order it gave. Everything else `submit` does is `Internal` to the channel and
cannot touch the port.
-/

namespace XbosCustomerChannel

open Effects Effects.Program Data

/-- The operations of `submit` other than the submission itself. -/
def ChannelOp.Internal : ChannelOp → Prop
  | .session (.put _ _) => True
  | .session (.recordIdempotentResult _ _ _) => True
  | .provenance (.issueEvidence _ _) => True
  | .provenance (.claimConfirmation _ _) => True
  | op => op.Reads

theorem ChannelOp.Reads.internal {op : ChannelOp} (h : op.Reads) : op.Internal := by
  cases op with
  | session op => cases op <;> trivial
  | provenance op => cases op <;> trivial
  | order op => exact h
  | upstream op => exact h
  | orderAuthority op => exact h

theorem ChannelOp.Internal.ne_submitOrder {op : ChannelOp} (h : op.Internal)
    (request : OrderSubmitRequest) : op ≠ .order (.submitOrder request) := by
  rintro rfl
  exact h

section Uses

namespace CustomerSessionService

variable (svc : CustomerSessionService)

theorem uses_transition (args : TransitionArgs) :
    Uses ChannelOp.Internal (svc.transition args) := by
  apply svc.uses_transition_of args
  · intro op h
    exact h.internal
  · intro current changes
    trivial
  · intro ref key s
    trivial

end CustomerSessionService

namespace OrderDraftConfirmationService

variable (svc : OrderDraftConfirmationService)

theorem uses_claimHandle (args : SubmitArgs) : Uses ChannelOp.Internal (claimHandle args) := by
  refine Uses.tryCatch (uses_ask_bind trivial fun claimed => ?_) fun exc => ?_
  · exact Uses.bind (Uses.ofExcept _) fun _ => Uses.done _
  · split <;> trivial

theorem uses_enterSubmitting (args : SubmitArgs) (session : CustomerSessionSnapshot) :
    Uses ChannelOp.Internal (svc.enterSubmitting args session) := by
  unfold enterSubmitting
  split
  · refine Uses.bind (svc.sessions.uses_transition _) fun _ => ?_
    refine uses_ask_bind trivial fun found => ?_
    cases found <;> trivial
  · split <;> trivial

theorem uses_submitRequest [Hashlib] (args : SubmitArgs) :
    Uses ChannelOp.Internal (svc.submitRequest args) := by
  refine Uses.bind ((svc.uses_requireActiveSecureSession _ _).mono fun _ h => h.internal) ?_
  intro session
  refine Uses.bind ((uses_boundRecord _ _).mono fun _ h => h.internal) fun record => ?_
  refine Uses.bind ((uses_requireFreshConfirmation _ _).mono fun _ h => h.internal) fun _ => ?_
  refine Uses.bind (uses_claimHandle _) fun _ => ?_
  exact Uses.bind (svc.uses_enterSubmitting _ _) fun _ => Uses.done _

theorem uses_recordOrder (args : SubmitArgs) (latest : CustomerSessionSnapshot)
    (order : CanonicalOrderProjection) :
    Uses ChannelOp.Internal (svc.recordOrder args latest order) := by
  refine uses_ask_bind trivial fun issued => Uses.bind (Uses.ofExcept _) fun handle => ?_
  exact Uses.bind (svc.sessions.uses_transition _) fun _ => Uses.done _

theorem uses_complete (args : SubmitArgs) (order : CanonicalOrderProjection) :
    Uses ChannelOp.Internal (svc.complete args order) := by
  refine uses_ask_bind trivial fun found => ?_
  cases found with
  | none => trivial
  | some latest =>
      dsimp only
      split
      · split <;> trivial
      · split
        · trivial
        · exact svc.uses_recordOrder _ _ _

/-- Apart from its internal operations `submit` puts one request to the port. -/
theorem uses_submit_of [Hashlib] {A : Channel.Op → Prop} (hA : ∀ op, ChannelOp.Internal op → A op)
    (hport : ∀ request, A (.order (.submitOrder request))) (args : SubmitArgs) :
    (svc.submit args).Uses A := by
  rw [submit_eq]
  refine Uses.bind ((svc.uses_submitRequest args).mono hA) fun request => ?_
  refine Uses.bind (Uses.tryCatch (uses_ask_bind (hport request) fun _ => Uses.ofExcept _) ?_) ?_
  · intro exc
    split
    · refine uses_ask_bind (hA _ trivial) fun found => ?_
      cases found <;> trivial
    · trivial
  · intro order
    refine Uses.bind (Uses.ofExcept _) fun _ => ?_
    exact (svc.uses_complete args order).mono hA

/-- Whatever `submit` returns after the port has answered is the port's order. -/
theorem yields_complete (args : SubmitArgs) (order : CanonicalOrderProjection) :
    Yields (· = order) (svc.complete args order) := by
  refine Yields.bind fun found => ?_
  cases found with
  | none => trivial
  | some latest =>
      dsimp only
      split
      · split <;> trivial
      · split
        · trivial
        · exact Yields.bind fun _ => Yields.bind fun _ => Yields.bind fun _ => rfl

end OrderDraftConfirmationService

end Uses

section Frame

variable {π : Type} [XBOSOrderPort π] [Hashlib]

theorem handle_orders_of_internal (op : Channel.Op) (w : World π) (h : ChannelOp.Internal op) :
    (handle op w).2.orders = w.orders := by
  cases op with
  | session op => rfl
  | provenance op => rfl
  | order op => cases op <;> first | rfl | exact absurd h id
  | upstream op => rfl
  | orderAuthority op => rfl

theorem exec_orders_of_internal {α : Type} {p : Service α} (hp : p.Uses ChannelOp.Internal)
    (w : World π) : (exec handle p w).2.orders = w.orders :=
  exec_preserves handle (R := fun w w' => w'.orders = w.orders) (fun _ => rfl)
    (fun _ _ _ h₁ h₂ => h₂.trans h₁) handle_orders_of_internal hp w

end Frame

/-! ## Placing the order at the fixture -/

section Fixture

variable [Hashlib]

/-- The world with the order port replaced. -/
def World.withOrders {π : Type} (w : World π) (orders : π) : World π := { w with orders }

theorem handle_submitOrder {w : World FakeXBOSOrderClient} {request : OrderSubmitRequest}
    {r : Except Exc CanonicalOrderProjection} {client : FakeXBOSOrderClient}
    (h : w.orders.submitOrder request = (r, client)) :
    handle (.order (.submitOrder request)) w = (r, w.withOrders client) := by
  show ((w.orders.submitOrder request).1, w.withOrders (w.orders.submitOrder request).2) = _
  rw [h]

theorem exec_placeOrder_of_ok {w : World FakeXBOSOrderClient} {request : OrderSubmitRequest}
    {order : CanonicalOrderProjection} {client : FakeXBOSOrderClient}
    (h : w.orders.submitOrder request = (.ok order, client)) :
    exec handle (OrderDraftConfirmationService.placeOrder request) w =
      (.ok order, w.withOrders client) := by
  unfold OrderDraftConfirmationService.placeOrder
  rw [exec_tryCatch, exec_ask_bind, exec_ofExcept, handle_submitOrder h]

theorem exec_placeOrder_of_error {w : World FakeXBOSOrderClient} {request : OrderSubmitRequest}
    {e : Exc} {client : FakeXBOSOrderClient}
    (h : w.orders.submitOrder request = (.error e, client)) :
    exec handle (OrderDraftConfirmationService.placeOrder request) w =
      if e.cls.isA .orderTransportUnknown then
        match client.getOrderByClientRef request.clientSubmitRef with
        | some order => (.ok order, w.withOrders client)
        | none =>
            (.error
              ⟨.orderSubmissionUnknown, "canonical_order_outcome_unknown_reconcile_required"⟩,
              w.withOrders client)
      else (.error e, w.withOrders client) := by
  unfold OrderDraftConfirmationService.placeOrder
  rw [exec_tryCatch, exec_ask_bind, exec_ofExcept, handle_submitOrder h]
  dsimp only
  split
  · rw [exec_ask_bind]
    have hfound : handle (.order (.getOrderByClientRef request.clientSubmitRef)) (w.withOrders client) =
        (client.getOrderByClientRef request.clientSubmitRef, w.withOrders client) := rfl
    rw [hfound]
    cases client.getOrderByClientRef request.clientSubmitRef <;> rfl
  · rfl

/-- The order placed is the one held, the one created, or none. -/
theorem placeOrder_cases (w : World FakeXBOSOrderClient) (request : OrderSubmitRequest) :
    (∃ order, w.orders.Holds request order ∧
      exec handle (OrderDraftConfirmationService.placeOrder request) w = (.ok order, w)) ∨
    (w.orders.Places request ∧
      exec handle (OrderDraftConfirmationService.placeOrder request) w =
        (.ok (w.orders.nextOrder request), w.withOrders (w.orders.placed request))) ∨
    ((∀ order, ¬ w.orders.Holds request order) ∧ ¬ w.orders.Places request ∧
      ∃ e client, w.orders.SameTables client ∧
        exec handle (OrderDraftConfirmationService.placeOrder request) w =
          (.error e, w.withOrders client)) := by
  rcases w.orders.submitOrder_cases request with
    ⟨order, hholds, h⟩ | ⟨hplaces, h | h⟩ | ⟨hno, hnot, e, client, hsame, h, hunknown⟩
  · exact .inl ⟨order, hholds, exec_placeOrder_of_ok h⟩
  · exact .inr (.inl ⟨hplaces, exec_placeOrder_of_ok h⟩)
  · refine .inr (.inl ⟨hplaces, ?_⟩)
    rw [exec_placeOrder_of_error h, if_pos (by decide)]
    -- the lost response is looked up
    simp [FakeXBOSOrderClient.getOrderByClientRef, FakeXBOSOrderClient.placed,
      FakeXBOSOrderClient.place]
  · refine .inr (.inr ⟨hno, hnot, ?_⟩)
    rw [exec_placeOrder_of_error h]
    split
    · next hclass =>
      have hnone : client.getOrderByClientRef request.clientSubmitRef = none := by
        rw [FakeXBOSOrderClient.getOrderByClientRef, hsame.orders, hunknown hclass]
        rfl
      rw [hnone]
      exact ⟨_, client, hsame, rfl⟩
    · exact ⟨e, client, hsame, rfl⟩

end Fixture

/-! ## Completing the session -/

/-- The world with an evidence handle issued. -/
def World.evidenced {π : Type} (w : World π) (session : CustomerSessionSnapshot)
    (p : UpstreamStateProjection) : World π :=
  { w with provenance := (w.provenance.issueEvidence w.refs session p).2 }

/-- The handle that is issued next. -/
def World.nextEvidenceHandle {π : Type} (w : World π) : String :=
  w.provenance.newEvidenceHandle w.refs

theorem World.resolveEvidence_evidenced {π : Type} {w : World π}
    {session : CustomerSessionSnapshot} {p : UpstreamStateProjection}
    (h : p.correlationRef = session.correlationRef) :
    (w.evidenced session p).provenance.resolveEvidence w.nextEvidenceHandle =
      some
        { evidenceHandleRef := w.nextEvidenceHandle
          binding := bindingFromSession session
          projection := p } := by
  unfold evidenced InMemoryChannelProvenanceStore.issueEvidence
  rw [if_neg (by simpa using h)]
  exact Dict.get?_set_self _ _ _

namespace OrderDraftConfirmationService

/-- The session as the result transition leaves it. -/
def createdSession (args : SubmitArgs) (latest : CustomerSessionSnapshot) (handle : String)
    (order : CanonicalOrderProjection) : CustomerSessionSnapshot :=
  latest.transitioned (resultArgs args handle)
    { orderRef := some order.orderRef
      lastUpstreamEvidenceRef := some order.evidenceRef }

theorem createdSession_state (args : SubmitArgs) (latest : CustomerSessionSnapshot)
    (handle : String) (order : CanonicalOrderProjection) :
    (createdSession args latest handle order).state = .orderCreated := rfl

theorem createdSession_orderRef (args : SubmitArgs) (latest : CustomerSessionSnapshot)
    (handle : String) {order : CanonicalOrderProjection} (h : order.orderRef ≠ "") :
    (createdSession args latest handle order).orderRef = some order.orderRef :=
  pyOr_of_not_falsy (show falsy (some order.orderRef) = false by simpa [falsy] using h) _

variable (svc : OrderDraftConfirmationService) {π : Type} [XBOSOrderPort π] [Hashlib]

/-- Recording an order is issuing its evidence and taking the result transition. -/
theorem exec_recordOrder_of {w : World π} {args : SubmitArgs} {latest : CustomerSessionSnapshot}
    {order : CanonicalOrderProjection} (hcorr : order.correlationRef = latest.correlationRef) :
    exec handle (svc.recordOrder args latest order) w =
      match exec handle (svc.sessions.transition (resultArgs args w.nextEvidenceHandle))
        (w.evidenced latest (orderEvidence order args.nowEpoch)) with
      | (.ok _, w') => (.ok order, w')
      | (.error e, w') => (.error e, w') := by
  unfold recordOrder
  rw [exec_ask_bind]
  have hissue : (handle (.provenance (.issueEvidence latest (orderEvidence order args.nowEpoch)))
      w).1 = .ok w.nextEvidenceHandle := by
    show (w.provenance.issueEvidence w.refs latest _).1 = _
    unfold InMemoryChannelProvenanceStore.issueEvidence
    rw [if_neg (by simpa [orderEvidence] using hcorr)]
    rfl
  rw [hissue]
  show exec handle (svc.sessions.transition _ >>= fun _ => .done order) (w.evidenced latest _) = _
  rw [exec_bind]
  generalize exec handle (svc.sessions.transition (resultArgs args w.nextEvidenceHandle))
    (w.evidenced latest (orderEvidence order args.nowEpoch)) = out
  obtain ⟨r, w'⟩ := out
  cases r <;> rfl

/-- How `complete` goes on from the session it finds. -/
theorem exec_complete {w : World π} (args : SubmitArgs) {latest : CustomerSessionSnapshot}
    (order : CanonicalOrderProjection) (hfound : w.sessions.get args.sessionRef = some latest) :
    (latest.state = .orderCreated ∧
      (latest.orderRef = none ∨ latest.orderRef = some order.orderRef) ∧
      exec handle (svc.complete args order) w = (.ok order, w)) ∨
    (latest.state = .orderSubmitting ∧
      exec handle (svc.complete args order) w = exec handle (svc.recordOrder args latest order) w) ∨
    (¬ (latest.state = .orderCreated ∧
        (latest.orderRef = none ∨ latest.orderRef = some order.orderRef)) ∧
      latest.state ≠ .orderSubmitting ∧
      ∃ e, exec handle (svc.complete args order) w = (.error e, w)) := by
  unfold complete
  rw [exec_bind_ok handle (exec_get _ _), hfound]
  dsimp only
  split
  · next hcreated =>
    split
    · next hmismatch =>
      refine .inr (.inr ⟨?_, by rw [hcreated]; decide, _, rfl⟩)
      rintro ⟨-, hnone | hsame⟩
      · simp [hnone] at hmismatch
      · exact hmismatch.2 hsame
    · next hmatch =>
      refine .inl ⟨hcreated, ?_, rfl⟩
      cases href : latest.orderRef with
      | none => exact .inl rfl
      | some ref =>
          refine .inr ?_
          by_contra hne
          exact hmatch ⟨by rw [href]; rfl, by rw [href]; exact hne⟩
  · next hcreated =>
    split
    · next hother => exact .inr (.inr ⟨fun h => hcreated h.1, hother, _, rfl⟩)
    · next hsubmitting => exact .inr (.inl ⟨by simpa using hsubmitting, rfl⟩)

omit [XBOSOrderPort π] [Hashlib] in
/-- The result transition goes through for a session that can take the order. -/
theorem resultTransition_enabled {w : World π} (hstore : svc.sessions.provenanceStore = true)
    {args : SubmitArgs} {latest : CustomerSessionSnapshot} {order : CanonicalOrderProjection}
    (hfound : w.sessions.get args.sessionRef = some latest)
    (hactive : latest.staleOrRotated = false) (hstate : latest.state = .orderSubmitting)
    (hkey : w.sessions.idempotentResult args.sessionRef args.resultKey = none)
    (hcorr : order.correlationRef = latest.correlationRef)
    (href : latest.orderRef = none ∨ latest.orderRef = some order.orderRef) :
    svc.sessions.TransitionEnabled (w.evidenced latest (orderEvidence order args.nowEpoch))
      (resultArgs args w.nextEvidenceHandle) latest
      { orderRef := some order.orderRef
        lastUpstreamEvidenceRef := some order.evidenceRef } where
  fresh := hkey
  found := hfound
  active := hactive
  allowed := by rw [hstate]; exact List.mem_cons_self
  unaided := rfl
  evidence := by
    refine (svc.sessions.takesRefs_of_gated rfl).mpr
      ⟨orderEvidence order args.nowEpoch, ⟨hstore, _, World.resolveEvidence_evidenced hcorr, rfl,
        rfl⟩, ?_, ?_, rfl⟩
    · unfold assertEvidenceMatchesSession
      rw [if_neg (by simpa [orderEvidence] using hcorr), if_neg, if_neg]
      · simp [orderEvidence]
      · rcases href with href | href <;> simp [href, orderEvidence]
    · unfold assertProjectionSupports
      rw [if_neg, if_neg (by simp [resultArgs]), if_neg (by simp [resultArgs]),
        if_neg (by simp [resultArgs]), if_neg (by simp [resultArgs])]
      by_cases hconf : order.state = .confirmed <;> simp [orderEvidence, hconf]

theorem exec_recordOrder_enabled {w : World π} (hstore : svc.sessions.provenanceStore = true)
    {args : SubmitArgs} {latest : CustomerSessionSnapshot} {order : CanonicalOrderProjection}
    (hfound : w.sessions.get args.sessionRef = some latest)
    (hactive : latest.staleOrRotated = false) (hstate : latest.state = .orderSubmitting)
    (hkey : w.sessions.idempotentResult args.sessionRef args.resultKey = none)
    (hcorr : order.correlationRef = latest.correlationRef)
    (href : latest.orderRef = none ∨ latest.orderRef = some order.orderRef) :
    exec handle (svc.recordOrder args latest order) w =
      (.ok order,
        (w.evidenced latest (orderEvidence order args.nowEpoch)).transitioned
          (resultArgs args w.nextEvidenceHandle)
          (createdSession args latest w.nextEvidenceHandle order)) := by
  rw [svc.exec_recordOrder_of hcorr, svc.sessions.exec_transition_of
    (svc.resultTransition_enabled hstore hfound hactive hstate hkey hcorr href)]
  rfl

theorem exec_recordOrder_replayed {w : World π} {args : SubmitArgs}
    {latest : CustomerSessionSnapshot} {order : CanonicalOrderProjection}
    {prior : CustomerSessionSnapshot}
    (hkey : w.sessions.idempotentResult args.sessionRef args.resultKey = some prior)
    (hcorr : order.correlationRef = latest.correlationRef) :
    exec handle (svc.recordOrder args latest order) w =
      (.ok order, w.evidenced latest (orderEvidence order args.nowEpoch)) := by
  have hreplay : exec handle (svc.sessions.transition (resultArgs args w.nextEvidenceHandle))
      (w.evidenced latest (orderEvidence order args.nowEpoch)) =
        (.ok prior, w.evidenced latest (orderEvidence order args.nowEpoch)) :=
    svc.sessions.exec_transition_of_recorded hkey
  rw [svc.exec_recordOrder_of hcorr, hreplay]

end OrderDraftConfirmationService

/-! ## The whole call -/

namespace OrderDraftConfirmationService

section Fixture

variable [Hashlib] (svc : OrderDraftConfirmationService)

omit [Hashlib] in
theorem assertOrderResultMatchesRequest_of {order : CanonicalOrderProjection}
    {request : OrderSubmitRequest} (hclient : order.clientSubmitRef = request.clientSubmitRef)
    (hcorrelation : order.correlationRef = request.correlationRef)
    (hconfirmation : order.confirmationRef = request.confirmationRef) :
    assertOrderResultMatchesRequest order request = .ok () := by
  unfold assertOrderResultMatchesRequest
  rw [if_neg (not_not_intro hclient), if_neg (not_not_intro hcorrelation),
    if_neg (not_not_intro hconfirmation)]

theorem exec_placeAndComplete_of {args : SubmitArgs} {request : OrderSubmitRequest}
    {order : CanonicalOrderProjection} {w w' : World FakeXBOSOrderClient}
    (hplaced : exec handle (placeOrder request) w = (.ok order, w'))
    (hmatches : assertOrderResultMatchesRequest order request = .ok ()) :
    exec handle (svc.placeAndComplete args request) w =
      exec handle (svc.complete args order) w' := by
  unfold placeAndComplete
  rw [exec_bind_ok handle hplaced, hmatches]
  rfl

/-- An order of another correlation is refused after it has been given. -/
theorem exec_placeAndComplete_mismatch {args : SubmitArgs} {request : OrderSubmitRequest}
    {order : CanonicalOrderProjection} {w w' : World FakeXBOSOrderClient}
    (hplaced : exec handle (placeOrder request) w = (.ok order, w'))
    (hcorrelation : order.correlationRef ≠ request.correlationRef) :
    ∃ e, exec handle (svc.placeAndComplete args request) w = (.error e, w') := by
  unfold placeAndComplete assertOrderResultMatchesRequest
  rw [exec_bind_ok handle hplaced]
  split
  · exact ⟨_, rfl⟩
  · exact ⟨_, rfl⟩

theorem issued_of_authorized {args : SubmitArgs} {session : CustomerSessionSnapshot}
    {record : ConfirmationProvenanceRecord} {w : World FakeXBOSOrderClient}
    (h : svc.Authorized w args session record) :
    (w.orders.issuedConfirmations.get? record.authoritativeXbosConfirmationRef).isSome = true := by
  have hfresh := h.fresh
  change checkAuthoritativeConfirmation record
    (w.orders.issuedConfirmations.get? record.authoritativeXbosConfirmationRef) _ = _ at hfresh
  cases hissued : w.orders.issuedConfirmations.get? record.authoritativeXbosConfirmationRef with
  | none =>
      rw [hissued] at hfresh
      cases hfresh
  | some confirmation => rfl

/-- The orders the port holds after the completion are those it held before. -/
theorem complete_orders (args : SubmitArgs) (order : CanonicalOrderProjection)
    (w : World FakeXBOSOrderClient) :
    (exec handle (svc.complete args order) w).2.orders = w.orders :=
  exec_orders_of_internal (svc.uses_complete args order) w

/-- From the request on, the port's tables change only by the order placed. -/
theorem placeAndComplete_orders (args : SubmitArgs) (request : OrderSubmitRequest)
    (w : World FakeXBOSOrderClient) :
    (w.orders.Places request ∧
      (exec handle (svc.placeAndComplete args request) w).2.orders = w.orders.placed request) ∨
    (¬ w.orders.Places request ∧
      w.orders.SameTables (exec handle (svc.placeAndComplete args request) w).2.orders) := by
  -- whatever the order, the rest of the call stays away from the port
  have hrest {order : CanonicalOrderProjection} {w' : World FakeXBOSOrderClient}
      (hplaced : exec handle (placeOrder request) w = (.ok order, w')) :
      (exec handle (svc.placeAndComplete args request) w).2.orders = w'.orders := by
    unfold placeAndComplete
    rw [exec_bind_ok handle hplaced]
    exact exec_orders_of_internal
      (Uses.bind (Uses.ofExcept _) fun _ => svc.uses_complete args order) w'
  rcases placeOrder_cases w request with
    ⟨order, hholds, hplace⟩ | ⟨hplaces, hplace⟩ | ⟨-, hnot, e, client, hsame, hplace⟩
  · refine .inr ⟨fun hplaces => ?_, ?_⟩
    · have hfree := hplaces.free
      rw [hholds.2] at hfree
      cases hfree
    · rw [hrest hplace]
      exact ⟨rfl, rfl, rfl⟩
  · exact .inl ⟨hplaces, hrest hplace⟩
  · refine .inr ⟨hnot, ?_⟩
    unfold placeAndComplete
    rw [exec_bind_error handle hplace]
    exact hsame

/-- A `submit` call changes the port's tables only by the order it places once it is authorized. -/
theorem submit_orders {w : World FakeXBOSOrderClient} (hk : w.Keyed) (args : SubmitArgs) :
    (∃ session record, svc.Authorized w args session record ∧
      w.orders.Places (requestFor args session record) ∧
      (exec handle (svc.submit args) w).2.orders =
        w.orders.placed (requestFor args session record)) ∨
    ((∀ session record, svc.Authorized w args session record →
        ¬ w.orders.Places (requestFor args session record)) ∧
      w.orders.SameTables (exec handle (svc.submit args) w).2.orders) := by
  rw [submit_eq]
  rcases svc.submitRequest_cases hk args with
    ⟨session, record, hauthorized, hexec⟩ | ⟨hno, e, hexec⟩
  · rw [exec_bind_ok handle hexec]
    have hplace := svc.placeAndComplete_orders args (requestFor args session record)
      (w.entered args session)
    rw [World.entered_orders] at hplace
    rcases hplace with ⟨hplaces, horders⟩ | ⟨hnot, hsame⟩
    · exact .inl ⟨session, record, hauthorized, hplaces, horders⟩
    · refine .inr ⟨fun session' record' h => ?_, hsame⟩
      obtain rfl := Option.some.inj (hauthorized.found.symm.trans h.found)
      obtain rfl := Option.some.inj (hauthorized.recorded.symm.trans h.recorded)
      exact hnot
  · refine .inr ⟨fun session record h => absurd h (hno session record), ?_⟩
    rcases hexec with hexec | hexec
    · rw [exec_bind_error handle hexec]
      exact ⟨rfl, rfl, rfl⟩
    · rw [exec_bind_error handle hexec]
      exact ⟨rfl, rfl, rfl⟩

end Fixture

end OrderDraftConfirmationService

end XbosCustomerChannel
