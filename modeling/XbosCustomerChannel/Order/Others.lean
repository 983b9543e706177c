import XbosCustomerChannel.Order.Customers

/-!
# What the others leave alone

Of the world of everybody, the calls of the others change what belongs to their own sessions: other
snapshots, records and claims of other handles, orders of other client references. What they share
with the customer is the port's confirmations and who claimed them. `Alike.others` says that a call
of theirs leaves the two worlds alike unless it replaces a confirmation the customer holds a handle
for.
-/

namespace XbosCustomerChannel

open Effects Effects.Program Data OrderDraftConfirmationService FakeXBOSOrderClient

/-- Questions to XBOS that are answered out of none of the tables. -/
def ChannelOp.AsksXbos : ChannelOp → Prop
  | upstream _ => True
  | order (.resolveServiceContext _ _ _ _ _ _) => True
  | _ => False

theorem ChannelOp.AsksXbos.reads {op : ChannelOp} (h : op.AsksXbos) : op.Reads := by
  cases op with
  | order op =>
      cases op with
      | resolveServiceContext m l mode t c a => trivial
      | _ => exact h.elim
  | upstream op => trivial
  | _ => exact h.elim

/-- The record, claimed for the client reference unless it is claimed. -/
def ConfirmationProvenanceRecord.claimedFor (record : ConfirmationProvenanceRecord)
    (clientSubmitRef : String) : ConfirmationProvenanceRecord :=
  { record with
    clientSubmitRefClaim := some (record.clientSubmitRefClaim.getD clientSubmitRef) }

theorem ConfirmationProvenanceRecord.claimedFor_of_claimed {record : ConfirmationProvenanceRecord}
    {clientSubmitRef : String} (h : record.clientSubmitRefClaim ≠ none) :
    record.claimedFor clientSubmitRef = record := by
  obtain ⟨claim, hclaim⟩ := Option.ne_none_iff_exists'.mp h
  unfold claimedFor
  rw [hclaim, Option.getD_some, ← hclaim]

/-! ## What the calls of the others leave alone -/

namespace FakeXBOSOrderClient

/-- The client with the confirmation issued. -/
def issue (client : FakeXBOSOrderClient) (confirmation : AuthoritativeOrderConfirmationSnapshot) :
    FakeXBOSOrderClient :=
  { client with
    issuedConfirmations :=
      client.issuedConfirmations.set confirmation.confirmationRef confirmation }

/-- What the fixture prepares does not depend on its tables. -/
theorem prepareOrderConfirmation_cases (quote : CommercialQuoteSnapshot)
    (context : ServiceModeProjection) (now : Int) :
    (∃ e, ∀ client : FakeXBOSOrderClient,
      client.prepareOrderConfirmation quote context now = (.error e, client)) ∨
    ∃ c, ∀ client : FakeXBOSOrderClient,
      client.prepareOrderConfirmation quote context now = (.ok c, client.issue c) := by
  unfold prepareOrderConfirmation
  split
  · exact .inl ⟨_, fun client => rfl⟩
  split
  · exact .inl ⟨_, fun client => rfl⟩
  split
  · exact .inl ⟨_, fun client => rfl⟩
  · exact .inr ⟨_, fun client => rfl⟩

variable {own : List String} {client client' : FakeXBOSOrderClient}

theorem get?_place_self (client : FakeXBOSOrderClient) (request : OrderSubmitRequest) :
    (client.place request).ordersByClientRef.get? request.clientSubmitRef =
      some (request.confirmationRef, client.nextOrder request) :=
  Dict.get?_set_self _ _ _

/-- An order for a client reference of somebody else's. -/
theorem Alike.place_left (h : client.Alike own client') {request : OrderSubmitRequest}
    (hplaces : client.Places request) (hother : request.clientSubmitRef ∉ own) :
    (client.place request).Alike own client' where
  regular := h.regular.place request
  regular' := h.regular'
  orders := by
    intro c hc
    have hne : c ≠ request.clientSubmitRef := by
      rintro rfl
      exact hother hc
    show _ = ((client.ordersByClientRef.set _ _).get? c).map unnamedEntry
    rw [Dict.get?_set_of_ne _ hne]
    exact h.orders c hc
  claims := by
    intro c hc ref
    have hne : request.clientSubmitRef ≠ c := by
      rintro rfl
      exact hother hc
    show _ ↔ (client.clientRefByConfirmation.set _ _).get? ref = some c
    rw [h.claims c hc, Dict.get?_set]
    split
    · next href =>
      -- the confirmation was unclaimed, or claimed for this very reference
      subst href
      rcases hplaces.unclaimed with hclaim | hclaim <;> simp [hclaim, hne]
    · rfl
  alone := h.alone

/-- `submit_order` without a failure due. -/
theorem Regular.submitOrder_eq (h : client.Regular) (request : OrderSubmitRequest) :
    client.submitOrder request =
      if (client.issuedConfirmations.get? request.confirmationRef).isNone then
        (.error ⟨.orderSubmissionConflict, "confirmation_not_issued"⟩, client)
      else
        match client.ordersByClientRef.get? request.clientSubmitRef with
        | some e =>
            if e.1 ≠ request.confirmationRef then
              (.error ⟨.orderSubmissionConflict, "idempotency_payload_conflict"⟩, client)
            else (.ok e.2, client)
        | none =>
            if (client.clientRefByConfirmation.get? request.confirmationRef).isSome ∧
                client.clientRefByConfirmation.get? request.confirmationRef ≠
                  some request.clientSubmitRef then
              (.error ⟨.orderSubmissionConflict, "confirmation_handle_client_submit_conflict"⟩,
                client)
            else (.ok (client.nextOrder request), client.place request) := by
  unfold submitOrder
  rw [h.before, h.after]
  cases client.ordersByClientRef.get? request.clientSubmitRef <;> rfl

/-- Without a failure due, the port answers from its tables or places the next order. Its refusals
leave nothing unknown. -/
theorem Regular.submitOrder_cases (h : client.Regular) (request : OrderSubmitRequest) :
    (∃ r, client.submitOrder request = (r, client) ∧
      ∀ e, r = .error e → e.cls.isA .orderTransportUnknown = false) ∨
    (client.Places request ∧
      client.submitOrder request = (.ok (client.nextOrder request), client.place request)) := by
  rw [h.submitOrder_eq]
  split
  · refine .inl ⟨_, rfl, ?_⟩
    rintro _ ⟨⟩
    rfl
  next hissued =>
  split
  · next e he =>
    left
    split
    · refine ⟨_, rfl, ?_⟩
      rintro _ ⟨⟩
      rfl
    · refine ⟨_, rfl, ?_⟩
      rintro _ ⟨⟩
  · next hfree =>
    split
    · refine .inl ⟨_, rfl, ?_⟩
      rintro _ ⟨⟩
      rfl
    -- the confirmation is claimed for no other reference, so the order is placed
    · next hclaimed =>
      refine .inr ⟨⟨by simpa [Option.isSome_iff_ne_none] using hissued, hfree, ?_, h.before⟩, rfl⟩
      cases hc : client.clientRefByConfirmation.get? request.confirmationRef with
      | none => exact .inl rfl
      | some c =>
          right
          by_contra hne
          exact hclaimed ⟨by rw [hc]; rfl, by rwa [hc]⟩

end FakeXBOSOrderClient

namespace CustomerSessionSnapshot

variable {own : List String} {client client' : FakeXBOSOrderClient}
  {s s' : CustomerSessionSnapshot}

theorem Alike.place_left (h : s.Alike own client client' s') {request : OrderSubmitRequest}
    (hother : request.clientSubmitRef ∉ own) : s.Alike own (client.place request) client' s' where
  unnamed := h.unnamed
  named := h.named
  orders := by
    intro c hc e e' he he'
    have hne : c ≠ request.clientSubmitRef := by
      rintro rfl
      exact hother hc
    apply h.orders c hc e e' _ he'
    rw [← he]
    exact (Dict.get?_set_of_ne _ hne _).symm
  past := by
    intro n hn
    apply h.past
    exact Nat.lt_of_succ_lt hn
  past' := h.past'

end CustomerSessionSnapshot

namespace World

variable {key : String} {own : List String} {w w' : World FakeXBOSOrderClient}

/-- What a claim makes of the table of confirmations. -/
theorem resolveConfirmation_claimed {args : SubmitArgs} {record : ConfirmationProvenanceRecord}
    (hfound : w.provenance.resolveConfirmation args.confirmationHandleRef = some record)
    (handleRef : String) :
    (w.claimed args).provenance.resolveConfirmation handleRef =
      if handleRef = args.confirmationHandleRef then some (record.claimedFor args.clientSubmitRef)
      else w.provenance.resolveConfirmation handleRef := by
  have hsame (hclaim : record.clientSubmitRefClaim ≠ none) :
      w.provenance.resolveConfirmation handleRef =
        if handleRef = args.confirmationHandleRef then
          some (record.claimedFor args.clientSubmitRef)
        else w.provenance.resolveConfirmation handleRef := by
    rw [ConfirmationProvenanceRecord.claimedFor_of_claimed hclaim]
    split
    · next hh => rw [hh, hfound]
    · rfl
  unfold claimed InMemoryChannelProvenanceStore.claimConfirmation
  have hfound : w.provenance.confirmations.get? args.confirmationHandleRef = some record := hfound
  rw [hfound]
  dsimp only
  split
  · next hclaim =>
    show (w.provenance.confirmations.set _ _).get? handleRef = _
    rw [Dict.get?_set, ConfirmationProvenanceRecord.claimedFor, hclaim]
    rfl
  · next claim hclaim =>
    split
    · exact hsame (by simp [hclaim])
    · exact hsame (by simp [hclaim])

/-- What an issued handle makes of the table of confirmations. -/
theorem resolveConfirmation_confirmed [Hashlib] (w : World FakeXBOSOrderClient)
    (session : CustomerSessionSnapshot) (confirmation : AuthoritativeOrderConfirmationSnapshot)
    (handleRef : String) :
    (w.confirmed session confirmation).provenance.resolveConfirmation handleRef =
      if session.securityBindingComplete = true ∧
          handleRef = w.provenance.newConfirmationHandle w.refs then
        some (w.nextRecord session confirmation)
      else w.provenance.resolveConfirmation handleRef := by
  unfold confirmed InMemoryChannelProvenanceStore.issueConfirmation
  split
  · next hsecure =>
    rw [if_neg]
    simpa using fun h => absurd h (by simpa using hsecure)
  · next hsecure =>
    show (w.provenance.confirmations.set _ _).get? handleRef = _
    rw [Dict.get?_set]
    have hsecure : session.securityBindingComplete = true := by simpa using hsecure
    simp only [hsecure, true_and]
    rfl

theorem Alike.drawing_left (h : w.Alike key own w') (token : String) :
    (w.drawing token).Alike key own w' :=
  { h with }

theorem resolveConfirmation_evidenced (w : World FakeXBOSOrderClient)
    (session : CustomerSessionSnapshot) (p : UpstreamStateProjection) (handleRef : String) :
    (w.evidenced session p).provenance.resolveConfirmation handleRef =
      w.provenance.resolveConfirmation handleRef := by
  unfold evidenced InMemoryChannelProvenanceStore.issueEvidence
  split <;> rfl

theorem Alike.evidenced_left (h : w.Alike key own w') (session : CustomerSessionSnapshot)
    (p : UpstreamStateProjection) : (w.evidenced session p).Alike key own w' := by
  refine { h with records := ?_ }
  intro handleRef
  rw [resolveConfirmation_evidenced]
  exact h.records handleRef

/-- A transition of another session. -/
theorem Alike.transitioned_left (h : w.Alike key own w') {args : TransitionArgs}
    {updated : CustomerSessionSnapshot} (hsession : updated.sessionRef ≠ key)
    (hargs : w.sessions.canonicalRef args.sessionRef ≠ key) :
    (w.transitioned args updated).Alike key own w' := by
  refine { h with keyed := ?_, session := ?_, results := ?_ }
  · exact World.Keyed.stored h.keyed updated
  · obtain ⟨s, s', hs, hs', halike⟩ := h.session
    refine ⟨s, s', ?_, hs', halike⟩
    rw [← hs]
    exact Dict.get?_set_of_ne _ hsession.symm _
  · intro k
    rw [h.results k]
    have hne : (key, k) ≠ (w.sessions.canonicalRef args.sessionRef, args.idempotencyKey) := by
      intro heq
      exact hargs (Prod.ext_iff.mp heq).1.symm
    exact congrArg Option.isSome (Dict.get?_set_of_ne _ hne _).symm

/-- A claim of a handle that is not the customer's. -/
theorem Alike.claimed_left (h : w.Alike key own w') {args : SubmitArgs}
    {record : ConfirmationProvenanceRecord}
    (hfound : w.provenance.resolveConfirmation args.confirmationHandleRef = some record)
    (hother : record.binding.sessionRef ≠ key) : (w.claimed args).Alike key own w' := by
  refine { h with records := ?_ }
  intro handleRef
  rw [h.records handleRef, resolveConfirmation_claimed hfound]
  split
  · next hh =>
    subst hh
    rw [hfound]
    simp [Option.filter, ConfirmationProvenanceRecord.claimedFor, hother]
  · rfl

/-- A confirmation issued to another session. -/
theorem Alike.confirmed_left [Hashlib] (h : w.Alike key own w')
    {session : CustomerSessionSnapshot} (confirmation : AuthoritativeOrderConfirmationSnapshot) (hother : session.sessionRef ≠ key) :
    (w.confirmed session confirmation).Alike key own w' := by
  refine { h with records := ?_ }
  intro handleRef
  rw [h.records handleRef, resolveConfirmation_confirmed]
  split
  · next hh =>
    obtain ⟨-, rfl⟩ := hh
    -- nothing was found under a handle that is new
    have hnew : w.provenance.resolveConfirmation (w.provenance.newConfirmationHandle w.refs) =
        none := w.provenance.get?_newConfirmationHandle w.refs
    rw [hnew]
    have hbinding : (w.nextRecord session confirmation).binding.sessionRef ≠ key := hother
    simp [Option.filter, hbinding]
  · rfl

/-- A confirmation issued by the port that is not under a reference of the customer's, or is the one
already there. -/
theorem Alike.issue_left (h : w.Alike key own w')
    {confirmation : AuthoritativeOrderConfirmationSnapshot}
    (hkept : ∀ handleRef record, w'.provenance.resolveConfirmation handleRef = some record →
      record.authoritativeXbosConfirmationRef = confirmation.confirmationRef →
        w.orders.resolveOrderConfirmation confirmation.confirmationRef = some confirmation) :
    (w.withOrders (w.orders.issue confirmation)).Alike key own w' := by
  refine { h with session := ?_, confirmations := ?_, ports := ?_ }
  · obtain ⟨s, s', hs, hs', halike⟩ := h.session
    exact ⟨s, s', hs, hs', { halike with }⟩
  · intro handleRef record hrecord
    rw [h.confirmations handleRef record hrecord]
    show _ = (w.orders.issuedConfirmations.set _ _).get? _
    rw [Dict.get?_set]
    split
    · next href =>
      rw [href]
      exact hkept handleRef record hrecord href
    · rfl
  · exact { h.ports with regular := { h.ports.regular with } }

/-- An order placed for a client reference of somebody else's. -/
theorem Alike.placed_left (h : w.Alike key own w') {request : OrderSubmitRequest}
    (hplaces : w.orders.Places request) (hother : request.clientSubmitRef ∉ own) :
    (w.withOrders (w.orders.place request)).Alike key own w' := by
  refine { h with session := ?_, ports := ?_ }
  · obtain ⟨s, s', hs, hs', halike⟩ := h.session
    exact ⟨s, s', hs, hs', halike.place_left hother⟩
  · exact h.ports.place_left hplaces hother

end World

/-! ## The calls of the others -/

namespace OrderDraftConfirmationService

/-- `prepare_confirmation` up to the quote and the service context the port is asked with. -/
def draftInputs (args : PrepareConfirmationArgs) (session : CustomerSessionSnapshot) :
    Service (CommercialQuoteSnapshot × ServiceModeProjection) := do
  let entry := args.catalogSession.entry
  ofExcept (assertSessionMatchesEntry session entry)
  raiseIf (args.serviceMode.value ∉ entry.projection.allowedFulfillmentModes)
    ⟨.serviceModeUnavailable, "service_mode_not_allowed_by_xbos_context"⟩
  let tableRef ← ofExcept (serviceModeTable args)
  let review ← CatalogQuoteService.reviewForConfirmation args.catalogSession args.nowEpoch
  let ackRef :=
    if review.requiresReconfirmation then args.acknowledgedQuoteRef.getD ""
    else review.quote.quoteRef
  let acceptedQuote ← ofExcept (CatalogQuoteService.acceptReview review ackRef)
  let resolved : Except Exc ServiceModeProjection ←
    ask (.order (.resolveServiceContext entry.merchantRef entry.locationRef args.serviceMode
      tableRef args.contactRef args.deliveryAddressRef))
  let serviceContext ← ofExcept resolved
  pure (acceptedQuote, serviceContext)

/-- `prepare_confirmation` at the port. -/
def draftAtPort (args : PrepareConfirmationArgs)
    (inputs : CommercialQuoteSnapshot × ServiceModeProjection) :
    Service AuthoritativeOrderConfirmationSnapshot := do
  let prepared : Except Exc AuthoritativeOrderConfirmationSnapshot ←
    ask (.order (.prepareOrderConfirmation inputs.1 inputs.2 args.nowEpoch))
  let confirmation ← ofExcept prepared
  ofExcept (assertConfirmationMatchesAuthority confirmation inputs.1 args.catalogSession.entry
    args.serviceMode)
  pure confirmation

theorem draftConfirmation_eq (args : PrepareConfirmationArgs) (session : CustomerSessionSnapshot) :
    draftConfirmation args session = draftInputs args session >>= draftAtPort args := by
  unfold draftConfirmation draftInputs draftAtPort
  simp only [bind_assoc, pure_bind]

theorem uses_draftInputs (args : PrepareConfirmationArgs) (session : CustomerSessionSnapshot) :
    (draftInputs args session).Uses ChannelOp.AsksXbos := by
  unfold draftInputs
  refine Uses.bind (Uses.ofExcept _) fun _ => Uses.bind (Uses.raiseIf _ _) fun _ => ?_
  refine Uses.bind (Uses.ofExcept _) fun tableRef => ?_
  refine Uses.bind (uses_ask_bind trivial fun _ => Uses.bind (Uses.ofExcept _) fun _ => ?_) ?_
  · exact Uses.bind (Uses.raiseIf _ _) fun _ => Uses.ofExcept _
  intro review
  refine Uses.bind (Uses.ofExcept _) fun quote => uses_ask_bind trivial fun _ => ?_
  exact Uses.bind (Uses.ofExcept _) fun context => Uses.done _

/-- At the fixture the port refuses, or issues what it prepares. -/
theorem draftAtPort_cases [Hashlib] (args : PrepareConfirmationArgs)
    (inputs : CommercialQuoteSnapshot × ServiceModeProjection) :
    (∃ e, ∀ w : World FakeXBOSOrderClient,
      exec handle (draftAtPort args inputs) w = (.error e, w)) ∨
    ∃ c r, (∀ c', r = .ok c' → c' = c) ∧ ∀ w : World FakeXBOSOrderClient,
      (w.orders.prepareOrderConfirmation inputs.1 inputs.2 args.nowEpoch).1 = .ok c ∧
      exec handle (draftAtPort args inputs) w = (r, w.withOrders (w.orders.issue c)) := by
  rcases prepareOrderConfirmation_cases inputs.1 inputs.2 args.nowEpoch with ⟨e, he⟩ | ⟨c, hc⟩
  · refine .inl ⟨e, fun w => ?_⟩
    unfold draftAtPort
    rw [exec_ask_bind]
    show exec handle (ofExcept (w.orders.prepareOrderConfirmation _ _ _).1 >>= _)
      (w.withOrders (w.orders.prepareOrderConfirmation _ _ _).2) = _
    rw [he w.orders]
    rfl
  -- the confirmation is issued before the service looks at it
  · refine .inr ⟨c, assertConfirmationMatchesAuthority c inputs.1 args.catalogSession.entry
      args.serviceMode >>= fun _ => .ok c, ?_, fun w => ⟨by rw [hc w.orders], ?_⟩⟩
    · intro c' h
      cases hassert : assertConfirmationMatchesAuthority c inputs.1 args.catalogSession.entry
        args.serviceMode with
      | ok _ =>
          rw [hassert] at h
          exact (Except.ok.inj h).symm
      | error e =>
          rw [hassert] at h
          cases h
    · unfold draftAtPort
      rw [exec_ask_bind]
      show exec handle (ofExcept (w.orders.prepareOrderConfirmation _ _ _).1 >>= _)
        (w.withOrders (w.orders.prepareOrderConfirmation _ _ _).2) = _
      rw [hc w.orders, ofExcept_ok, done_bind]
      cases assertConfirmationMatchesAuthority c inputs.1 args.catalogSession.entry
        args.serviceMode <;> rfl

end OrderDraftConfirmationService

namespace World

variable [Hashlib] (svc : OrderDraftConfirmationService) {key : String} {own : List String}
  {w w' : World FakeXBOSOrderClient}

omit [Hashlib] in
theorem Alike.canonicalRef (h : w.Alike key own w') (ref : String) :
    w'.sessions.canonicalRef ref = w.sessions.canonicalRef ref := by
  unfold InMemoryCustomerSessionStore.canonicalRef
  rw [h.aliases]

omit [Hashlib] in
/-- The session another name leads to is another one. -/
theorem Alike.sessionRef_ne (h : w.Alike key own w') {ref : String}
    (hother : w'.sessions.canonicalRef ref ≠ key) {s : CustomerSessionSnapshot}
    (hs : w.sessions.get ref = some s) : s.sessionRef ≠ key := by
  rw [h.keyed _ s hs, ← h.canonicalRef]
  exact hother

omit [Hashlib] in
/-- The records of the customer alone are among those of everybody. -/
theorem Alike.mem_recordsOf (h : w.Alike key own w') {handleRef : String}
    {record : ConfirmationProvenanceRecord}
    (hrecord : w'.provenance.resolveConfirmation handleRef = some record) :
    record ∈ w.recordsOf key := by
  rw [h.records, Option.filter_eq_some_iff] at hrecord
  obtain ⟨hfound, hkey⟩ := hrecord
  apply List.mem_filter.mpr
  refine ⟨?_, hkey⟩
  exact List.mem_map.mpr ⟨_, Dict.mem_entries_of_get? hfound, rfl⟩

theorem Alike.others_prepareConfirmation (h : w.Alike key own w') {args : PrepareConfirmationArgs}
    (hother : w'.sessions.canonicalRef args.sessionRef ≠ key)
    (hkept : ∀ c ∈ (issued handle (svc.prepareConfirmation args) w).filterMap preparedBy,
      ∀ record ∈ w.recordsOf key, record.authoritativeXbosConfirmationRef = c.confirmationRef →
        w.orders.resolveOrderConfirmation c.confirmationRef = some c) :
    (exec handle (svc.prepareConfirmation args) w).2.Alike key own w' := by
  unfold prepareConfirmation at hkept ⊢
  rcases svc.requireActiveSecureSession_cases args.sessionRef args.nowEpoch w with
    ⟨s, hs, -, hexec⟩ | ⟨-, e, hexec⟩
  case inr =>
    rw [exec_bind_error handle hexec]
    exact h
  have hne := h.sessionRef_ne hother hs
  rw [exec_bind_ok handle hexec]
  apply exec_bind_state handle (I := fun w₁ => w₁.Alike key own w')
  · -- the port issues nothing, or a confirmation that is none of the customer's
    rcases exec_of_reads ((uses_draftInputs args s).mono fun _ h => h.reads) w with
      ⟨inputs, hinputs⟩ | ⟨e, hinputs⟩
    case inr =>
      rw [draftConfirmation_eq, exec_bind_error handle hinputs]
      exact h
    have hdraft : exec handle (draftConfirmation args s) w =
        exec handle (draftAtPort args inputs) w := by
      rw [draftConfirmation_eq, exec_bind_ok handle hinputs]
    rcases draftAtPort_cases args inputs with ⟨e, hport⟩ | ⟨c, r, -, hport⟩
    · rw [hdraft, hport w]
      exact h
    · rw [hdraft, (hport w).2]
      apply h.issue_left
      intro handleRef record hrecord href
      have hasked : (.order (.prepareOrderConfirmation inputs.1 inputs.2 args.nowEpoch), w) ∈
          issued handle (draftConfirmation args s) w := by
        rw [draftConfirmation_eq]
        exact mem_issued_bind_of_ok handle hinputs List.mem_cons_self
      have hprepared : preparedBy
          (.order (.prepareOrderConfirmation inputs.1 inputs.2 args.nowEpoch), w) = some c := by
        show (w.orders.prepareOrderConfirmation _ _ _).1.toOption = some c
        rw [(hport w).1]
        rfl
      refine hkept c (List.mem_filterMap.mpr ⟨_, ?_, hprepared⟩) record (h.mem_recordsOf hrecord)
        href
      exact mem_issued_bind_of_ok handle hexec (mem_issued_bind_left handle hasked _)
  · intro confirmation w₁ _ h₁
    rcases exec_issueConfirmation s confirmation w₁ with ⟨e, hissue⟩ | hissue
    · rw [hissue]
      exact h₁
    · rw [hissue]
      exact h₁.confirmed_left confirmation hne

theorem Alike.others_transition (h : w.Alike key own w') {args : TransitionArgs}
    (hother : w'.sessions.canonicalRef args.sessionRef ≠ key) :
    (exec handle (svc.sessions.transition args) w).2.Alike key own w' := by
  rcases svc.sessions.transition_cases w args with
    ⟨current, refs, henabled, hexec⟩ | ⟨prior, -, hexec⟩ | ⟨-, e, hexec⟩
  · rw [hexec]
    apply h.transitioned_left
    · show current.sessionRef ≠ key
      exact h.sessionRef_ne hother henabled.found
    · rw [← h.canonicalRef]
      exact hother
  · rw [hexec]
    exact h
  · rw [hexec]
    exact h

theorem Alike.others_claimHandle (h : w.Alike key own w') {args : SubmitArgs}
    {record : ConfirmationProvenanceRecord}
    (hfound : w.provenance.resolveConfirmation args.confirmationHandleRef = some record)
    (hother : record.binding.sessionRef ≠ key) :
    (exec handle (claimHandle args) w).2.Alike key own w' := by
  rcases claimHandle_cases args hfound with ⟨-, hexec⟩ | ⟨-, e, hexec⟩
  · rw [hexec]
    exact h.claimed_left hfound hother
  · rw [hexec]
    exact h

theorem Alike.others_enterSubmitting (h : w.Alike key own w') {args : SubmitArgs}
    (hother : w'.sessions.canonicalRef args.sessionRef ≠ key) (session : CustomerSessionSnapshot) :
    (exec handle (svc.enterSubmitting args session) w).2.Alike key own w' := by
  unfold enterSubmitting
  split
  · apply exec_bind_state handle (I := fun w₁ => w₁.Alike key own w')
    · exact h.others_transition svc hother
    · -- the session is only read back
      intro _ w₁ _ h₁
      rw [exec_bind_ok handle (exec_get _ _)]
      cases w₁.sessions.get args.sessionRef <;> exact h₁
  · split <;> exact h

theorem Alike.others_recordOrder (h : w.Alike key own w') {args : SubmitArgs}
    (hother : w'.sessions.canonicalRef args.sessionRef ≠ key) (latest : CustomerSessionSnapshot)
    (order : CanonicalOrderProjection) :
    (exec handle (svc.recordOrder args latest order) w).2.Alike key own w' := by
  unfold recordOrder
  rw [exec_ask_bind]
  have hevidenced := h.evidenced_left latest (orderEvidence order args.nowEpoch)
  apply exec_bind_state handle (I := fun w₁ => w₁.Alike key own w')
  · rw [exec_ofExcept]
    exact hevidenced
  · intro handleRef w₁ hexec _
    rw [exec_ofExcept] at hexec
    obtain rfl := (Prod.ext_iff.mp hexec).2
    apply exec_bind_state handle (I := fun w₁ => w₁.Alike key own w')
    · exact hevidenced.others_transition svc hother
    · intro _ w₂ _ h₂
      exact h₂

theorem Alike.others_complete (h : w.Alike key own w') {args : SubmitArgs}
    (hother : w'.sessions.canonicalRef args.sessionRef ≠ key) (order : CanonicalOrderProjection) :
    (exec handle (svc.complete args order) w).2.Alike key own w' := by
  cases hlatest : w.sessions.get args.sessionRef with
  | none =>
      unfold complete
      rw [exec_bind_ok handle (exec_get _ _), hlatest]
      exact h
  | some latest =>
      rcases svc.exec_complete args order hlatest with
        ⟨-, -, hexec⟩ | ⟨-, hexec⟩ | ⟨-, -, e, hexec⟩
      · rw [hexec]
        exact h
      · rw [hexec]
        exact h.others_recordOrder svc hother latest order
      · rw [hexec]
        exact h

/-- Placing an order at a port without a failure due. -/
theorem exec_placeOrder_of_regular (h : w.orders.Regular) (request : OrderSubmitRequest) :
    exec handle (placeOrder request) w =
      ((w.orders.submitOrder request).1, w.withOrders (w.orders.submitOrder request).2) := by
  rcases h.submitOrder_cases request with ⟨r, hsubmit, hknown⟩ | ⟨-, hsubmit⟩
  · rw [hsubmit]
    cases r with
    | ok order => exact exec_placeOrder_of_ok hsubmit
    | error e =>
        rw [exec_placeOrder_of_error hsubmit, hknown e rfl]
        rfl
  · rw [hsubmit]
    exact exec_placeOrder_of_ok hsubmit

theorem Alike.others_placeAndComplete (h : w.Alike key own w') {args : SubmitArgs}
    (hother : w'.sessions.canonicalRef args.sessionRef ≠ key) {request : OrderSubmitRequest}
    (hclient : request.clientSubmitRef ∉ own) :
    (exec handle (svc.placeAndComplete args request) w).2.Alike key own w' := by
  unfold placeAndComplete
  apply exec_bind_state handle (I := fun w₁ => w₁.Alike key own w')
  · rw [exec_placeOrder_of_regular h.ports.regular]
    rcases h.ports.regular.submitOrder_cases request with ⟨r, hsubmit, -⟩ | ⟨hplaces, hsubmit⟩
    · rw [hsubmit]
      exact h
    · rw [hsubmit]
      exact h.placed_left hplaces hclient
  · intro order w₁ _ h₁
    apply exec_bind_state handle (I := fun w₁ => w₁.Alike key own w')
    · rw [exec_ofExcept]
      exact h₁
    · intro _ w₂ _ h₂
      exact h₂.others_complete svc hother order

theorem Alike.others_submit (h : w.Alike key own w') {args : SubmitArgs}
    (hother : w'.sessions.canonicalRef args.sessionRef ≠ key)
    (hclient : args.clientSubmitRef ∉ own) :
    (exec handle (svc.submit args) w).2.Alike key own w' := by
  unfold submit
  rcases svc.requireActiveSecureSession_cases args.sessionRef args.nowEpoch w with
    ⟨s, hs, -, hexec⟩ | ⟨-, e, hexec⟩
  case inr =>
    rw [exec_bind_error handle hexec]
    exact h
  rw [exec_bind_ok handle hexec]
  rcases boundRecord_cases args s w with ⟨record, hrecord, hbound, hexec⟩ | ⟨-, e, hexec⟩
  case inr =>
    rw [exec_bind_error handle hexec]
    exact h
  rw [exec_bind_ok handle hexec]
  have hforeign : record.binding.sessionRef ≠ key := by
    rw [hbound]
    exact h.sessionRef_ne hother hs
  apply exec_bind_state handle (I := fun w₁ => w₁.Alike key own w')
  · rw [exec_requireFreshConfirmation]
    exact h
  intro _ w₁ hfresh _
  rw [exec_requireFreshConfirmation] at hfresh
  obtain rfl := (Prod.ext_iff.mp hfresh).2
  apply exec_bind_state handle (I := fun w₁ => w₁.Alike key own w')
  · exact h.others_claimHandle hrecord hforeign
  intro _ w₂ _ h₂
  apply exec_bind_state handle (I := fun w₁ => w₁.Alike key own w')
  · exact h₂.others_enterSubmitting svc hother s
  intro s₂ w₃ _ h₃
  exact h₃.others_placeAndComplete svc hother hclient

/-- A call of the others, undisturbing, leaves the world alike. -/
theorem Alike.others (h : w.Alike key own w') {call : CheckoutCall} (hother : ¬ call.On w key)
    (hclient : ∀ c ∈ call.clientSubmitRef, c ∉ own) (hcall : call.Undisturbed svc key own w) :
    ((checkout svc).step w call).Alike key own w' := by
  have hother' : w'.sessions.canonicalRef call.sessionRef ≠ key := by
    rw [h.canonicalRef]
    exact hother
  show (exec handle (call.program svc) (call.start w)).2.Alike key own w'
  cases call with
  | prepareConfirmation args token =>
      have hkept := hcall.kept hother
      unfold CheckoutCall.operations CheckoutCall.program at hkept
      rw [issued_void] at hkept
      unfold CheckoutCall.program
      rw [exec_void_state]
      exact (h.drawing_left token).others_prepareConfirmation svc hother' hkept
  | submit args =>
      unfold CheckoutCall.program
      rw [exec_void_state]
      exact h.others_submit svc hother' (hclient _ rfl)

end World

end XbosCustomerChannel
