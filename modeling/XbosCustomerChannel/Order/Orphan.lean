import XbosCustomerChannel.Fixture
import XbosCustomerChannel.Invariants

/-!
# Orphaned orders

After a `submit` call the port may hold an order for its client reference and its handle's
confirmation. Whether the session then shows that order depends on the call's two transitions: each
is replayed, without moving the session, if its key has a recorded result.
-/

namespace XbosCustomerChannel

open Effects Effects.Program Data

section Orphan

variable [Hashlib] (svc : OrderDraftConfirmationService)

/-- The call returned the order and its session refers to it. -/
def Shows (args : SubmitArgs)
    (out : Except Exc CanonicalOrderProjection × World FakeXBOSOrderClient)
    (order : CanonicalOrderProjection) : Prop :=
  out.1 = .ok order ∧ ∃ s, out.2.sessions.get args.sessionRef = some s ∧
    s.state = .orderCreated ∧ s.orderRef = some order.orderRef

/-- An order the port holds for the confirmation when the call ends is one the call has shown. -/
def ShowsHeld (args : SubmitArgs) (record : ConfirmationProvenanceRecord)
    (out : Except Exc CanonicalOrderProjection × World FakeXBOSOrderClient) : Prop :=
  ∀ order, out.2.orders.ordersByClientRef.get? args.clientSubmitRef =
    some (record.authoritativeXbosConfirmationRef, order) → Shows args out order

/-- The call orphans no order for its handle. -/
def NotOrphaned (args : SubmitArgs) (w : World FakeXBOSOrderClient) : Prop :=
  ∀ record, w.provenance.resolveConfirmation args.confirmationHandleRef = some record →
    ShowsHeld args record (exec handle (svc.submit args) w)

/-- Nothing keeps the two transitions of the call from moving the session. -/
structure MovesSession (args : SubmitArgs) (session : CustomerSessionSnapshot)
    (w : World FakeXBOSOrderClient) : Prop where
  stored : svc.sessions.provenanceStore = true
  start : session.state = .review →
    w.sessions.idempotentResult args.sessionRef args.startKey = none
  result : w.sessions.idempotentResult args.sessionRef args.resultKey = none

/-- When a call leaves no orphan, by the world it starts in. -/
structure KeepsOrder (args : SubmitArgs) (session : CustomerSessionSnapshot)
    (record : ConfirmationProvenanceRecord) (w : World FakeXBOSOrderClient) : Prop where
  held : ∀ order, w.orders.ordersByClientRef.get? args.clientSubmitRef =
      some (record.authoritativeXbosConfirmationRef, order) →
    svc.Authorized w args session record ∧ order.correlationRef = session.correlationRef ∧
      MovesSession svc args session w
  placed : svc.Authorized w args session record →
    w.orders.Places (OrderDraftConfirmationService.requestFor args session record) →
      MovesSession svc args session w

/-! ## Completing -/

namespace OrderDraftConfirmationService

/-- Recording an order shows it exactly if the result transition moves the session. -/
theorem recordOrder_shows_iff {args : SubmitArgs} {latest : CustomerSessionSnapshot}
    {order : CanonicalOrderProjection} {w : World FakeXBOSOrderClient} (hk : w.Keyed)
    (hfound : w.sessions.get args.sessionRef = some latest)
    (hactive : latest.staleOrRotated = false) (hstate : latest.state = .orderSubmitting)
    (hnone : latest.orderRef = none) (hcorrelation : order.correlationRef = latest.correlationRef)
    (href : order.orderRef ≠ "") :
    Shows args (exec handle (svc.recordOrder args latest order) w) order ↔
      svc.sessions.provenanceStore = true ∧
        w.sessions.idempotentResult args.sessionRef args.resultKey = none := by
  cases hkey : w.sessions.idempotentResult args.sessionRef args.resultKey with
  | some prior =>
      -- a replayed transition leaves the session as it was found
      rw [exec_recordOrder_replayed svc hkey hcorrelation]
      refine ⟨?_, fun h => by cases h.2⟩
      rintro ⟨-, s, hs, hcreated, -⟩
      obtain rfl : latest = s := Option.some.inj (hfound.symm.trans hs)
      rw [hstate] at hcreated
      cases hcreated
  | none =>
      refine ⟨fun h => ⟨?_, rfl⟩, fun h => ?_⟩
      · obtain ⟨hok, -⟩ := h
        rw [exec_recordOrder_of svc hcorrelation] at hok
        rcases svc.sessions.transition_cases
            (w.evidenced latest (orderEvidence order args.nowEpoch))
            (resultArgs args w.nextEvidenceHandle) with
          ⟨current, refs, henabled, hexec⟩ | ⟨prior, hprior, -⟩ | ⟨-, e, hexec⟩
        · obtain ⟨p, hevidenced, -⟩ :=
            (svc.sessions.takesRefs_of_gated rfl).mp henabled.evidence
          exact hevidenced.1
        · change w.sessions.idempotentResult args.sessionRef args.resultKey = some prior at hprior
          rw [hkey] at hprior
          cases hprior
        · rw [hexec] at hok
          cases hok
      · rw [exec_recordOrder_enabled svc h.1 hfound hactive hstate hkey hcorrelation (.inl hnone)]
        have hget : (w.stored (createdSession args latest w.nextEvidenceHandle order)).sessions.get
            args.sessionRef = some (createdSession args latest w.nextEvidenceHandle order) :=
          World.get_stored hk hfound rfl
        exact ⟨rfl, _, hget, createdSession_state _ _ _ _, createdSession_orderRef _ _ _ href⟩

/-- Completing a session that has no order yet. -/
theorem complete_shows_iff {args : SubmitArgs} {latest : CustomerSessionSnapshot}
    {order : CanonicalOrderProjection} {w : World FakeXBOSOrderClient} (hk : w.Keyed)
    (hfound : w.sessions.get args.sessionRef = some latest)
    (hactive : latest.staleOrRotated = false)
    (hstate : latest.state = .review ∨ latest.state = .orderSubmitting)
    (hnone : latest.orderRef = none) (hcorrelation : order.correlationRef = latest.correlationRef)
    (href : order.orderRef ≠ "") :
    Shows args (exec handle (svc.complete args order) w) order ↔
      latest.state = .orderSubmitting ∧ svc.sessions.provenanceStore = true ∧
        w.sessions.idempotentResult args.sessionRef args.resultKey = none := by
  rcases svc.exec_complete args order hfound with
    ⟨hcreated, -, -⟩ | ⟨hsubmitting, hexec⟩ | ⟨-, hother, e, hexec⟩
  · rw [hcreated] at hstate
    simp at hstate
  · rw [hexec, recordOrder_shows_iff svc hk hfound hactive hsubmitting hnone hcorrelation href]
    exact (and_iff_right hsubmitting).symm
  · rw [hexec]
    refine ⟨fun h => ?_, fun h => absurd h.1 hother⟩
    cases h.1

/-! ## The session the call completes -/

omit [Hashlib] in
theorem submittingSession_staleOrRotated (w : World FakeXBOSOrderClient) (args : SubmitArgs)
    (session : CustomerSessionSnapshot) :
    (w.submittingSession args session).staleOrRotated = session.staleOrRotated := by
  unfold World.submittingSession
  split <;> rfl

omit [Hashlib] in
/-- The session is in the submitting state unless its start transition has been replayed. -/
theorem submittingSession_state (w : World FakeXBOSOrderClient) (args : SubmitArgs)
    {session : CustomerSessionSnapshot}
    (hstate : session.state = .review ∨ session.state = .orderSubmitting) :
    ((w.submittingSession args session).state = .review ∨
        (w.submittingSession args session).state = .orderSubmitting) ∧
      ((w.submittingSession args session).state = .orderSubmitting ↔
        (session.state = .review →
          w.sessions.idempotentResult args.sessionRef args.startKey = none)) := by
  unfold World.submittingSession
  split
  · next hstarts =>
    have hsubmitting : (session.transitioned (startArgs args) {}).state = .orderSubmitting := rfl
    exact ⟨.inr hsubmitting, fun _ _ => hstarts.2, fun _ => hsubmitting⟩
  · next hstarts =>
    refine ⟨hstate, fun hsubmitting hreview => ?_, fun hfresh => ?_⟩
    · rw [hsubmitting] at hreview
      cases hreview
    · rcases hstate with hreview | hsubmitting
      · exact absurd ⟨hreview, hfresh hreview⟩ hstarts
      · exact hsubmitting

/-- Completing the session of an authorized call, whatever the port has become. -/
theorem complete_entered_shows_iff {args : SubmitArgs} {session : CustomerSessionSnapshot}
    {order : CanonicalOrderProjection} {w : World FakeXBOSOrderClient} (hk : w.Keyed)
    (hfound : w.sessions.get args.sessionRef = some session)
    (hactive : session.staleOrRotated = false)
    (hstate : session.state = .review ∨ session.state = .orderSubmitting)
    (hnone : session.orderRef = none) (hcorrelation : order.correlationRef = session.correlationRef)
    (href : order.orderRef ≠ "") (client : FakeXBOSOrderClient) :
    Shows args (exec handle (svc.complete args order) ((w.entered args session).withOrders client))
        order ↔ MovesSession svc args session w := by
  have hkeyed : ((w.entered args session).withOrders client).Keyed := hk.entered args session
  have hget : ((w.entered args session).withOrders client).sessions.get args.sessionRef =
      some (w.submittingSession args session) := World.get_entered hk hfound
  obtain ⟨hlatest, hsubmitting⟩ := submittingSession_state w args hstate
  rw [complete_shows_iff svc hkeyed hget
    (by rw [submittingSession_staleOrRotated]; exact hactive) hlatest
    (by rw [World.submittingSession_orderRef]; exact hnone)
    (by rw [World.submittingSession_correlationRef]; exact hcorrelation) href, hsubmitting]
  have hresult : ((w.entered args session).withOrders client).sessions.idempotentResult
      args.sessionRef args.resultKey = w.sessions.idempotentResult args.sessionRef args.resultKey :=
    World.idempotentResult_entered args session
  rw [hresult]
  exact ⟨fun h => ⟨h.2.1, h.1, h.2.2⟩, fun h => ⟨h.start, h.stored, h.result⟩⟩

end OrderDraftConfirmationService

open OrderDraftConfirmationService

/-! ## The whole call -/

section Authorized

variable {args : SubmitArgs} {session : CustomerSessionSnapshot}
variable {record : ConfirmationProvenanceRecord} {w : World FakeXBOSOrderClient}

/-- The port already holds an order. -/
theorem showsHeld_iff_of_holds {prior : CanonicalOrderProjection} (hk : w.Keyed)
    (hc : w.orders.Consistent) (hauthorized : svc.Authorized w args session record)
    (hstate : session.state = .review ∨ session.state = .orderSubmitting)
    (hnone : session.orderRef = none)
    (hholds : w.orders.Holds (requestFor args session record) prior)
    (hplace : exec handle (placeOrder (requestFor args session record)) (w.entered args session) =
      (.ok prior, w.entered args session)) :
    ShowsHeld args record (exec handle (svc.placeAndComplete args (requestFor args session record))
      (w.entered args session)) ↔ KeepsOrder svc args session record w := by
  obtain ⟨hclient, hconfirmation, href, -⟩ := hc.order _ _ _ hholds.2
  have hunique {order : CanonicalOrderProjection} (h : w.orders.ordersByClientRef.get?
      args.clientSubmitRef = some (record.authoritativeXbosConfirmationRef, order)) :
      order = prior := (Prod.ext_iff.mp (Option.some.inj (h.symm.trans hholds.2))).2
  have hnot : ¬ w.orders.Places (requestFor args session record) := by
    intro hplaces
    have hfree := hplaces.free
    rw [hholds.2] at hfree
    cases hfree
  unfold ShowsHeld
  -- the port gives the order back whoever's it is; the service looks at its correlation
  by_cases hcorrelation : prior.correlationRef = session.correlationRef
  · rw [exec_placeAndComplete_of svc hplace
      (assertOrderResultMatchesRequest_of hclient hcorrelation hconfirmation), complete_orders,
      World.entered_orders]
    have hshows := complete_entered_shows_iff svc hk hauthorized.found hauthorized.valid.active
      hstate hnone hcorrelation href (w.entered args session).orders
    constructor
    · intro h
      have hmoves := hshows.mp (h prior hholds.2)
      refine ⟨fun order horder => ?_, fun _ _ => hmoves⟩
      rw [hunique horder]
      exact ⟨hauthorized, hcorrelation, hmoves⟩
    · intro h order horder
      rw [hunique horder]
      exact hshows.mpr (h.held prior hholds.2).2.2
  · -- the order of another session is refused after it has been given
    obtain ⟨e, hexec⟩ := exec_placeAndComplete_mismatch svc hplace hcorrelation
    rw [hexec]
    constructor
    · intro h
      have hshows := h prior (by rw [World.entered_orders]; exact hholds.2)
      cases hshows.1
    · intro h
      exact absurd (h.held prior hholds.2).2.1 hcorrelation

/-- The call places an order. -/
theorem showsHeld_iff_of_places (hk : w.Keyed)
    (hauthorized : svc.Authorized w args session record)
    (hstate : session.state = .review ∨ session.state = .orderSubmitting)
    (hnone : session.orderRef = none)
    (hplaces : w.orders.Places (requestFor args session record))
    (hplace : exec handle (placeOrder (requestFor args session record)) (w.entered args session) =
      (.ok (w.orders.nextOrder (requestFor args session record)),
        (w.entered args session).withOrders
          (w.orders.placed (requestFor args session record)))) :
    ShowsHeld args record (exec handle (svc.placeAndComplete args (requestFor args session record))
      (w.entered args session)) ↔ KeepsOrder svc args session record w := by
  have hcorrelation : (w.orders.nextOrder (requestFor args session record)).correlationRef =
      session.correlationRef := rfl
  have hshows := complete_entered_shows_iff svc hk hauthorized.found hauthorized.valid.active
    hstate hnone hcorrelation (w.orders.nextOrder_orderRef_ne _)
    (w.orders.placed (requestFor args session record))
  have hget : (w.orders.placed (requestFor args session record)).ordersByClientRef.get?
      args.clientSubmitRef = some (record.authoritativeXbosConfirmationRef,
        w.orders.nextOrder (requestFor args session record)) := Dict.get?_set_self _ _ _
  unfold ShowsHeld
  rw [exec_placeAndComplete_of svc hplace (assertOrderResultMatchesRequest_of rfl rfl rfl),
    complete_orders]
  constructor
  · intro h
    have hmoves := hshows.mp (h _ hget)
    refine ⟨fun order horder => ?_, fun _ _ => hmoves⟩
    have hfree := hplaces.free
    rw [show w.orders.ordersByClientRef.get?
      (requestFor args session record).clientSubmitRef = some _ from horder] at hfree
    cases hfree
  · intro h order horder
    obtain rfl := (Prod.ext_iff.mp (Option.some.inj (hget.symm.trans horder))).2
    exact hshows.mpr (h.placed hauthorized hplaces)

/-- The port refuses. -/
theorem showsHeld_iff_of_refused {e : Exc} {client : FakeXBOSOrderClient}
    (hauthorized : svc.Authorized w args session record)
    (hno : ∀ order, ¬ w.orders.Holds (requestFor args session record) order)
    (hnot : ¬ w.orders.Places (requestFor args session record))
    (hsame : w.orders.SameTables client)
    (hplace : exec handle (placeOrder (requestFor args session record)) (w.entered args session) =
      (.error e, (w.entered args session).withOrders client)) :
    ShowsHeld args record (exec handle (svc.placeAndComplete args (requestFor args session record))
      (w.entered args session)) ↔ KeepsOrder svc args session record w := by
  have hissued := issued_of_authorized svc hauthorized
  unfold ShowsHeld placeAndComplete
  rw [exec_bind_error handle hplace]
  constructor
  · intro _
    exact ⟨fun order horder => absurd ⟨hissued, horder⟩ (hno order),
      fun _ hplaces => absurd hplaces hnot⟩
  · intro _ order horder
    rw [show ((w.entered args session).withOrders client).orders.ordersByClientRef =
      w.orders.ordersByClientRef from hsame.orders] at horder
    exact absurd ⟨hissued, horder⟩ (hno order)

theorem showsHeld_iff_of_authorized (hk : w.Keyed) (hc : w.orders.Consistent)
    (hauthorized : svc.Authorized w args session record)
    (hstate : session.state = .review ∨ session.state = .orderSubmitting)
    (hnone : session.orderRef = none) :
    ShowsHeld args record (exec handle (svc.placeAndComplete args (requestFor args session record))
      (w.entered args session)) ↔ KeepsOrder svc args session record w := by
  have hplace := placeOrder_cases (w.entered args session) (requestFor args session record)
  rw [World.entered_orders] at hplace
  rcases hplace with ⟨prior, hholds, hplace⟩ | ⟨hplaces, hplace⟩ |
    ⟨hno, hnot, e, client, hsame, hplace⟩
  · exact showsHeld_iff_of_holds svc hk hc hauthorized hstate hnone hholds hplace
  · exact showsHeld_iff_of_places svc hk hauthorized hstate hnone hplaces hplace
  · exact showsHeld_iff_of_refused svc hauthorized hno hnot hsame hplace

end Authorized

/-- In every reachable state, a `submit` call on a session in review or submitting that has no order
yet orphans no order exactly if the following held before it: an order that the port already held
for the client reference and the confirmation can be claimed by the call, and whenever the call has
an order to show, nothing is recorded that would be replayed in place of its transitions. -/
theorem notOrphaned_iff (upstream : Upstream) (refs : RefSource)
    (history : List (ChannelCall FakeXBOSOrderClient)) {w : World FakeXBOSOrderClient}
    (hw : w = run svc (World.start {} upstream refs) history) {args : SubmitArgs}
    {session : CustomerSessionSnapshot} (hfound : w.sessions.get args.sessionRef = some session)
    (hstate : session.state = .review ∨ session.state = .orderSubmitting)
    (hnone : session.orderRef = none) :
    NotOrphaned svc args w ↔
      ∀ record, w.provenance.resolveConfirmation args.confirmationHandleRef = some record →
        KeepsOrder svc args session record w := by
  have hk : w.Keyed := by
    rw [hw]
    exact run_keyed svc (start_keyed _ _ _) history
  have hc : w.orders.Consistent := by
    rw [hw]
    exact run_consistent svc FakeXBOSOrderClient.consistent_empty history
  refine forall_congr' fun record => imp_congr_right fun hrecord => ?_
  rw [submit_eq]
  rcases svc.submitRequest_cases hk args with
    ⟨session', record', hauthorized, hexec⟩ | ⟨hno, e, hexec⟩
  · obtain rfl := Option.some.inj (hfound.symm.trans hauthorized.found)
    obtain rfl := Option.some.inj (hrecord.symm.trans hauthorized.recorded)
    rw [exec_bind_ok handle hexec]
    exact showsHeld_iff_of_authorized svc hk hc hauthorized hstate hnone
  · -- the call raises before the port
    have hraises : ∃ w', w'.orders = w.orders ∧
        exec handle (svc.submitRequest args >>= svc.placeAndComplete args) w = (.error e, w') := by
      rcases hexec with hexec | hexec
      · exact ⟨w, rfl, exec_bind_error handle hexec _⟩
      · exact ⟨w.claimed args, rfl, exec_bind_error handle hexec _⟩
    obtain ⟨w', horders, hexec⟩ := hraises
    unfold ShowsHeld
    rw [hexec]
    constructor
    · intro h
      refine ⟨fun order horder => ?_, fun hauthorized _ => absurd hauthorized (hno _ _)⟩
      have hshows := h order (by rw [horders]; exact horder)
      cases hshows.1
    · intro h order horder
      rw [horders] at horder
      exact absurd (h.held order horder).1 (hno _ _)

end Orphan

section Fixture

open Fixture

theorem notOrphaned_iff_reviewed :
    NotOrphaned {} (submission "submit:fixture:one" 20) reviewed ↔
      ∀ session record, reviewed.sessions.get sessionRef = some session →
        reviewed.provenance.resolveConfirmation confirmationHandle = some record →
          KeepsOrder {} (submission "submit:fixture:one" 20) session record reviewed := by
  have hfound : ∃ session, reviewed.sessions.get sessionRef = some session ∧
      session.state = .review ∧ session.orderRef = none := by decide +kernel
  obtain ⟨session, hfound, hreview, hnone⟩ := hfound
  have hreached : reviewed = run ({} : OrderDraftConfirmationService)
    (World.start {} (upstream 1 3000) lengthRefs) (intoReview ++ [prepare 1 3000 10]) := rfl
  have h := notOrphaned_iff ({} : OrderDraftConfirmationService) (upstream 1 3000) lengthRefs
    (intoReview ++ [prepare 1 3000 10]) hreached
    (show reviewed.sessions.get (submission "submit:fixture:one" 20).sessionRef = some session from
      hfound) (.inl hreview) hnone
  rw [h]
  constructor
  · intro hkeeps session' record hsession hrecord
    obtain rfl := Option.some.inj (hfound.symm.trans hsession)
    exact hkeeps record hrecord
  · intro hkeeps record hrecord
    exact hkeeps session record hfound hrecord

/-- A submission fails without an effect; the customer is handed off and comes back to review. -/
def backInReview : World FakeXBOSOrderClient :=
  run {} reviewed
    [.orderPortChanges (FakeXBOSOrderClient.Event.failNext true false),
      .submit (submission "submit:fixture:one" 20),
      .transition { sessionRef, target := .humanHandoff, idempotencyKey := "k6" },
      .transition { sessionRef, target := .review, idempotencyKey := "k7" }]

/-- What the submission comes to when it is made again. -/
def submittedAgain : Except Exc CanonicalOrderProjection × World FakeXBOSOrderClient :=
  exec handle (OrderDraftConfirmationService.submit {} (submission "submit:fixture:one" 30))
    backInReview

theorem submittedAgain_orphans :
    (∃ session, backInReview.sessions.get sessionRef = some session ∧ session.state = .review ∧
      session.staleOrRotated = false ∧ session.orderRef = none) ∧
    ¬ NotOrphaned {} (submission "submit:fixture:one" 30) backInReview := by
  have hrun : (∃ session, backInReview.sessions.get sessionRef = some session ∧
        session.state = .review ∧ session.staleOrRotated = false ∧ session.orderRef = none) ∧
      (∃ record, backInReview.provenance.resolveConfirmation confirmationHandle = some record ∧
        ∃ held, submittedAgain.2.orders.ordersByClientRef.get? "submit:fixture:one" = some held ∧
          held.1 = record.authoritativeXbosConfirmationRef) ∧
      submittedAgain.1.isOk = false := by decide +kernel
  obtain ⟨hsession, ⟨record, hrecord, ⟨conf, order⟩, hget, rfl⟩, hraised⟩ := hrun
  refine ⟨hsession, fun h => ?_⟩
  have hshows : Shows (submission "submit:fixture:one" 30) submittedAgain order :=
    h record hrecord order hget
  rw [hshows.1] at hraised
  cases hraised

end Fixture

end XbosCustomerChannel
