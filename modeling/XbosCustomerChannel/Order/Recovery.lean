import XbosCustomerChannel.Fixture
import XbosCustomerChannel.Session.Lineage

/-!
# Recovering an order

Once a `submit` call has placed an order, the handle's record, its claim and the port's entry stay
what they are, and the session keeps its binding. A later call with the same references therefore
comes to the same entry, provided that it gets as far as the port: the checks on the authoritative
confirmation come first, also for a retry.
-/

namespace XbosCustomerChannel

open Effects Effects.Program Data OrderDraftConfirmationService

section Bound

variable {π : Type}

/-- The session found under the name is bound as given. -/
def World.BoundTo (w : World π) (ref : String) (binding : SessionSecurityBinding) : Prop :=
  ∃ s, w.sessions.get ref = some s ∧ bindingFromSession s = binding

theorem survives_boundTo (ref : String) (binding : SessionSecurityBinding) :
    Survives fun _ (w : World π) => w.Keyed ∧ w.BoundTo ref binding where
  keyed _ _ h := h.1
  effect _ _ _ _ h heff hk := by
    obtain ⟨-, s, hs, hbinding⟩ := h
    obtain ⟨s', hs', hsame⟩ := heff.get hs
    exact ⟨hk, s', hs', hsame.trans hbinding⟩

end Bound

section Recovery

variable [Hashlib] (svc : OrderDraftConfirmationService)

/-- The order of a submission, as the handle's record and the port show it. -/
structure World.Submitted (w : World FakeXBOSOrderClient) (args : SubmitArgs)
    (record : ConfirmationProvenanceRecord) (order : CanonicalOrderProjection) : Prop where
  keyed : w.Keyed
  consistent : w.orders.Consistent
  recorded : w.provenance.resolveConfirmation args.confirmationHandleRef = some record
  claimed : record.clientSubmitRefClaim = some args.clientSubmitRef
  held : w.orders.ordersByClientRef.get? args.clientSubmitRef =
    some (record.authoritativeXbosConfirmationRef, order)
  correlation : order.correlationRef = record.binding.correlationRef
  bound : w.BoundTo args.sessionRef record.binding

variable {args : SubmitArgs} {record : ConfirmationProvenanceRecord}
variable {order : CanonicalOrderProjection} {w : World FakeXBOSOrderClient}

/-- An authorized call has claimed its handle. -/
theorem claimed_of_authorized (hk : w.Keyed) {session : CustomerSessionSnapshot}
    (h : svc.Authorized w args session record) :
    (exec handle (svc.submit args) w).2.Claimed args.confirmationHandleRef
      args.clientSubmitRef := by
  rcases svc.submitRequest_cases hk args with ⟨session', record', h', hexec⟩ | ⟨hno, -⟩
  · have hentered : (w.entered args session').Claimed args.confirmationHandleRef
        args.clientSubmitRef := by
      obtain ⟨r, hr, hclaim⟩ := World.claimed_claimed h'.recorded h'.claimable
      exact ⟨r, by rw [World.entered_provenance]; exact hr, hclaim⟩
    rw [submit_eq, exec_bind_ok handle hexec]
    exact (exec_kept _ _).1.claimed hentered
  · exact absurd h (hno session record)

/-- A call that has made the port hold an order. -/
theorem submitted_of_placed (hk : w.Keyed) (hc : w.orders.Consistent)
    (hfree : w.orders.ordersByClientRef.get? args.clientSubmitRef = none)
    (hrecord : (step svc w (.submit args)).provenance.resolveConfirmation
      args.confirmationHandleRef = some record)
    (hheld : (step svc w (.submit args)).orders.ordersByClientRef.get? args.clientSubmitRef =
      some (record.authoritativeXbosConfirmationRef, order)) :
    (step svc w (.submit args)).Submitted args record order := by
  have hstep : step svc w (.submit args) = (exec handle (svc.submit args) w).2 :=
    exec_void_state handle (svc.submit args) w
  rcases svc.submit_orders hk args with
    ⟨session, record₀, hauthorized, hplaces, horders⟩ | ⟨-, hsame⟩
  · have hkept : RecordKept record₀ record := by
      obtain ⟨r, hr, hkept⟩ := (step_kept svc w (.submit args)).1 _ _ hauthorized.recorded
      rw [hrecord] at hr
      obtain rfl := Option.some.inj hr
      exact hkept
    have hbinding : record.binding = bindingFromSession session :=
      hkept.binding.trans hauthorized.bound
    refine ⟨step_keyed svc hk _, step_consistent svc hc _, hrecord, ?_, hheld, ?_, ?_⟩
    · obtain ⟨r, hr, hclaim⟩ := claimed_of_authorized svc hk hauthorized
      rw [← hstep, hrecord] at hr
      obtain rfl := Option.some.inj hr
      exact hclaim
    · have hget : (w.orders.placed (requestFor args session record₀)).ordersByClientRef.get?
          args.clientSubmitRef = some (record₀.authoritativeXbosConfirmationRef,
            w.orders.nextOrder (requestFor args session record₀)) := Dict.get?_set_self _ _ _
      rw [hstep, horders, hget] at hheld
      have hnext : w.orders.nextOrder (requestFor args session record₀) = order :=
        (Prod.ext_iff.mp (Option.some.inj hheld)).2
      rw [← hnext, hbinding]
      rfl
    · have hsurvives := (survives_boundTo args.sessionRef record.binding).of_call svc (T := [])
        ⟨hk, session, hauthorized.found, hbinding.symm⟩ (.submit args)
      exact hsurvives.2
  · rw [hstep, hsame.orders, hfree] at hheld
    cases hheld

/-- It stays so along every run. -/
theorem World.Submitted.run (h : w.Submitted args record order)
    (calls : List (ChannelCall FakeXBOSOrderClient)) :
    (run svc w calls).Submitted args record order := by
  obtain ⟨record', hrecord', hkept⟩ := (run_kept svc w calls).1 _ _ h.recorded
  have hsame : record' = record := by
    obtain ⟨claim, rfl⟩ := hkept.same
    have hclaim : claim = record.clientSubmitRefClaim :=
      (hkept.claim _ h.claimed).trans h.claimed.symm
    rw [hclaim]
  rw [hsame] at hrecord'
  exact
    { keyed := run_keyed svc h.keyed calls
      consistent := run_consistent svc h.consistent calls
      recorded := hrecord'
      claimed := h.claimed
      held := (run_kept svc w calls).2 _ _ h.held
      correlation := h.correlation
      bound := ((survives_boundTo args.sessionRef record.binding).of_trace svc (T := [])
        ⟨h.keyed, h.bound⟩ calls).2 }

/-- Completing a retry returns the order, whichever of the two retry states the session is in. -/
theorem exec_complete_of_retry (hstore : svc.sessions.provenanceStore = true)
    {session : CustomerSessionSnapshot} (hfound : w.sessions.get args.sessionRef = some session)
    (hactive : session.staleOrRotated = false)
    (hcorrelation : order.correlationRef = session.correlationRef)
    (hstate : session.state = .orderSubmitting ∨ session.state = .orderCreated)
    (href : session.orderRef = none ∨ session.orderRef = some order.orderRef) :
    (exec handle (svc.complete args order) w).1 = .ok order := by
  rcases svc.exec_complete args order hfound with
    ⟨-, -, hexec⟩ | ⟨hsubmitting, hexec⟩ | ⟨hnot, hother, -⟩
  · rw [hexec]
  · rw [hexec]
    cases hkey : w.sessions.idempotentResult args.sessionRef args.resultKey with
    | some prior => rw [exec_recordOrder_replayed svc hkey hcorrelation]
    | none =>
        rw [exec_recordOrder_enabled svc hstore hfound hactive hsubmitting hkey hcorrelation href]
  · exact absurd ⟨hstate.resolve_left hother, href⟩ hnot

/-- A retry that gets as far as the port returns the order. -/
theorem World.Submitted.exec_submit (h : w.Submitted args record order)
    (hstore : svc.sessions.provenanceStore = true) {now : Int} {session : CustomerSessionSnapshot}
    (hauthorized : svc.Authorized w (args.at now) session record)
    (hstate : session.state = .orderSubmitting ∨ session.state = .orderCreated)
    (href : session.orderRef = none ∨ session.orderRef = some order.orderRef) :
    (exec handle (svc.submit (args.at now)) w).1 = .ok order := by
  obtain ⟨hclient, hconfirmation, -, -⟩ := h.consistent.order _ _ _ h.held
  have hcorrelation : order.correlationRef = session.correlationRef := by
    rw [h.correlation, hauthorized.bound]
    rfl
  -- a retry does not start the session again
  have hstarts : ¬ w.Starts (args.at now) session := by
    intro hstarts
    rcases hstate with hstate | hstate
    · rw [hstarts.1] at hstate
      cases hstate
    · rw [hstarts.1] at hstate
      cases hstate
  have hfound : (w.entered (args.at now) session).sessions.get args.sessionRef = some session := by
    have hget := World.get_entered h.keyed hauthorized.found
    rw [World.submittingSession, if_neg hstarts] at hget
    exact hget
  rcases svc.submitRequest_cases h.keyed (args.at now) with
    ⟨session', record', hauthorized', hexec⟩ | ⟨hno, -⟩
  case inr => exact absurd hauthorized (hno session record)
  obtain rfl := Option.some.inj (hauthorized.found.symm.trans hauthorized'.found)
  obtain rfl := Option.some.inj (hauthorized.recorded.symm.trans hauthorized'.recorded)
  have hholds : w.orders.Holds (requestFor (args.at now) session record) order :=
    ⟨issued_of_authorized svc hauthorized, h.held⟩
  have hplace := placeOrder_cases (w.entered (args.at now) session)
    (requestFor (args.at now) session record)
  rw [World.entered_orders] at hplace
  rw [submit_eq, exec_bind_ok handle hexec]
  rcases hplace with ⟨prior, hprior, hplace⟩ | ⟨hplaces, -⟩ | ⟨hnone, -⟩
  · obtain rfl : order = prior :=
      (Prod.ext_iff.mp (Option.some.inj (hholds.2.symm.trans hprior.2))).2
    rw [exec_placeAndComplete_of svc hplace
      (assertOrderResultMatchesRequest_of hclient hcorrelation hconfirmation)]
    exact exec_complete_of_retry svc hstore hfound hauthorized.valid.active hcorrelation hstate href
  · have hfree := hplaces.free
    rw [hholds.2] at hfree
    cases hfree
  · exact absurd hholds (hnone order)

/-- In every run in which a `submit` call has made the port hold an order, every later call with the
same session, handle and client reference returns that order, as long as the session is valid and in
a retry state, refers to no other order, and the port still has the confirmation, unexpired and
unchanged. -/
theorem submit_recovers (hstore : svc.sessions.provenanceStore = true) (upstream : Upstream)
    (refs : RefSource) (before after : List (ChannelCall FakeXBOSOrderClient))
    {w w' : World FakeXBOSOrderClient}
    (hw : w = run svc (World.start {} upstream refs) (before ++ [.submit args]))
    (hfree : (run svc (World.start {} upstream refs) before).orders.ordersByClientRef.get?
      args.clientSubmitRef = none)
    (hrecord : w.provenance.resolveConfirmation args.confirmationHandleRef = some record)
    (hheld : w.orders.ordersByClientRef.get? args.clientSubmitRef =
      some (record.authoritativeXbosConfirmationRef, order))
    (hw' : w' = run svc w after) {now : Int} {session : CustomerSessionSnapshot}
    (hvalid : (exec handle (svc.sessions.validateActiveSession args.sessionRef now) w').1 =
      .ok session)
    (hstate : session.state = .orderSubmitting ∨ session.state = .orderCreated)
    (href : session.orderRef = none ∨ session.orderRef = some order.orderRef)
    (hfresh : checkAuthoritativeConfirmation record
      (w'.orders.resolveOrderConfirmation record.authoritativeXbosConfirmationRef) now = .ok ()) :
    (exec handle (svc.submit (args.at now)) w').1 = .ok order := by
  have hk := run_keyed svc (start_keyed ({} : FakeXBOSOrderClient) upstream refs) before
  have hc : (run svc (World.start {} upstream refs) before).orders.Consistent :=
    run_consistent svc FakeXBOSOrderClient.consistent_empty before
  have hstep : w = step svc (run svc (World.start {} upstream refs) before) (.submit args) := by
    rw [hw, run_append]
    rfl
  have hsubmitted : w'.Submitted args record order := by
    rw [hw']
    rw [hstep] at hrecord hheld ⊢
    exact (submitted_of_placed svc hk hc hfree hrecord hheld).run svc after
  rcases svc.sessions.validateActiveSession_cases args.sessionRef now w' with
    ⟨found, hfound, hactive, hexec⟩ | ⟨-, e, hexec⟩
  case inr =>
    rw [hexec] at hvalid
    cases hvalid
  rw [hexec] at hvalid
  obtain rfl := Except.ok.inj hvalid
  obtain ⟨s, hs, hbinding⟩ := hsubmitted.bound
  obtain rfl := Option.some.inj (hfound.symm.trans hs)
  refine hsubmitted.exec_submit svc hstore ?_ hstate href
  exact
    { found := hfound
      valid := hactive
      recorded := hsubmitted.recorded
      bound := hbinding.symm
      fresh := hfresh
      claimable := .inr hsubmitted.claimed
      state := .inr hstate }

end Recovery

section Fixture

open Fixture

def firstSubmission : SubmitArgs := submission "submit:fixture:one" 20

/-- The session is brought into review and a confirmation prepared. -/
def reviewing : List Call := intoReview ++ [prepare 1 3000 10]

/-- The world after the first submission. -/
def afterSubmission : World FakeXBOSOrderClient :=
  run {} (World.start {} (upstream 1 3000) lengthRefs) (reviewing ++ [.submit firstSubmission])

/-- What the submission comes to at a later time. -/
def retriedAt (now : Int) : Except Exc CanonicalOrderProjection :=
  (exec handle (OrderDraftConfirmationService.submit {} (firstSubmission.at now)) afterSubmission).1

/-- The session as it is validated at a later time. -/
def validatedAt (now : Int) : Except Exc CustomerSessionSnapshot :=
  (exec handle (CustomerSessionService.validateActiveSession {} firstSubmission.sessionRef now)
    afterSubmission).1

theorem Except.eq_ok_of_isOk {r : Except Exc Unit} (h : r.isOk = true) : r = .ok () := by
  cases r with
  | error e => cases h
  | ok u => rfl

theorem validatedAt_of (now : Int) (h : (validatedAt now).toOption.any (fun s =>
    s.state = .orderCreated ∧ s.orderRef = some firstOrder.orderRef) = true) :
    ∃ session, validatedAt now = .ok session ∧ session.state = .orderCreated ∧
      session.orderRef = some firstOrder.orderRef := by
  cases hres : validatedAt now with
  | error e =>
      rw [hres] at h
      cases h
  | ok session =>
      rw [hres] at h
      exact ⟨session, rfl, of_decide_eq_true h⟩

theorem submit_recovers_soon : retriedAt 25 = .ok firstOrder := by
  have hplaced : (∃ record,
      afterSubmission.provenance.resolveConfirmation firstSubmission.confirmationHandleRef =
        some record ∧
      afterSubmission.orders.ordersByClientRef.get? firstSubmission.clientSubmitRef =
        some (record.authoritativeXbosConfirmationRef, firstOrder) ∧
      (checkAuthoritativeConfirmation record (afterSubmission.orders.resolveOrderConfirmation
        record.authoritativeXbosConfirmationRef) 25).isOk = true) ∧
      (validatedAt 25).toOption.any (fun s =>
        s.state = .orderCreated ∧ s.orderRef = some firstOrder.orderRef) = true ∧
      (run {} (World.start {} (upstream 1 3000) lengthRefs)
        reviewing).orders.ordersByClientRef.get? firstSubmission.clientSubmitRef = none := by
    decide +kernel
  obtain ⟨⟨record, hrecord, hheld, hfresh⟩, hvalidated, hfree⟩ := hplaced
  obtain ⟨session, hvalid, hstate, href⟩ := validatedAt_of 25 hvalidated
  have hreached : afterSubmission = run ({} : OrderDraftConfirmationService)
    (World.start {} (upstream 1 3000) lengthRefs) (reviewing ++ [.submit firstSubmission]) := rfl
  have hagain : afterSubmission = run ({} : OrderDraftConfirmationService) afterSubmission [] :=
    (run_nil _ _).symm
  unfold validatedAt at hvalid
  unfold retriedAt
  exact submit_recovers ({} : OrderDraftConfirmationService) rfl (upstream 1 3000) lengthRefs
    reviewing [] hreached hfree hrecord hheld hagain hvalid (.inr hstate) (.inr href)
    (Except.eq_ok_of_isOk hfresh)

/-- The confirmation has expired; the session has not, and its order is at the port. -/
theorem retry_raises :
    (∃ session, validatedAt 400 = .ok session ∧ session.state = .orderCreated) ∧
      (orderOf afterSubmission firstSubmission.clientSubmitRef).isSome = true ∧
      (retriedAt 400).isOk = false := by
  have hlater : (validatedAt 400).toOption.any (fun s =>
        s.state = .orderCreated ∧ s.orderRef = some firstOrder.orderRef) = true ∧
      (orderOf afterSubmission firstSubmission.clientSubmitRef).isSome = true ∧
      (retriedAt 400).isOk = false := by decide +kernel
  obtain ⟨hvalidated, hplaced, hrefused⟩ := hlater
  obtain ⟨session, hvalid, hstate, -⟩ := validatedAt_of 400 hvalidated
  exact ⟨⟨session, hvalid, hstate⟩, hplaced, hrefused⟩

end Fixture

end XbosCustomerChannel
