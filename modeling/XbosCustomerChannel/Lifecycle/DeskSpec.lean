import XbosCustomerChannel.Lifecycle.Desk

/-!
# What the calls on orders do

One lemma for each method of the two services. The fixtures answer for the order and the correlation
they are asked for, so the checks of the services on what they are told never fail. `asked` is the one
call a step makes to the lifecycle fixture.
-/

namespace XbosCustomerChannel

open Effects Effects.Program Data

/-- The session of this name, if it refers to an order. -/
def World.ordered? {π : Type} (w : World π) (ref : String) : Option CustomerSessionSnapshot :=
  (w.sessions.get ref).filter fun session => !falsy session.orderRef

namespace FakeXBOSOrderChangeFulfillmentClient

variable {client : FakeXBOSOrderChangeFulfillmentClient} {orderRef correlationRef : String}

/-! ## Whom a projection names -/

theorem getFulfillmentProjection_names {projection : FulfillmentProjection}
    (h : (client.getFulfillmentProjection orderRef correlationRef).1 = .ok (some projection)) :
    projection.orderRef = orderRef ∧ projection.correlationRef = correlationRef := by
  unfold getFulfillmentProjection at h
  split at h
  · cases h
  · split at h
    · cases h
    · obtain rfl := Option.some.inj (Except.ok.inj h)
      exact ⟨rfl, rfl⟩

theorem reconcileOrderLifecycle_names {projection : OrderLifecycleProjection}
    (h : (client.reconcileOrderLifecycle orderRef correlationRef).1 = .ok projection) :
    projection.orderRef = orderRef ∧ projection.correlationRef = correlationRef := by
  unfold reconcileOrderLifecycle at h
  split at h
  · cases h
  · obtain rfl := Except.ok.inj h
    exact ⟨rfl, rfl⟩

end FakeXBOSOrderChangeFulfillmentClient

theorem OrderChangeFulfillmentService.assertProjectionMatchesSession_iff
    {orderRef correlationRef expectedOrderRef expectedCorrelationRef : String} :
    assertProjectionMatchesSession orderRef correlationRef expectedOrderRef
        expectedCorrelationRef = .ok () ↔
      orderRef = expectedOrderRef ∧ correlationRef = expectedCorrelationRef := by
  unfold assertProjectionMatchesSession
  by_cases horder : orderRef = expectedOrderRef
  · simp [horder]
  · simp [horder]

theorem PaymentExperienceService.assertProjectionMatchesSession_iff
    {projection : CanonicalPaymentRequestProjection} {orderRef correlationRef : String} :
    assertProjectionMatchesSession projection orderRef correlationRef = .ok () ↔
      projection.orderRef = orderRef ∧ projection.correlationRef = correlationRef := by
  unfold assertProjectionMatchesSession
  by_cases horder : projection.orderRef = orderRef
  · simp [horder]
  · simp [horder]

/-- The fixture answers for the order and the correlation it was asked for. -/
theorem PaymentExperienceService.matches_of_getPaymentRequest
    {client : FakeXBOSPaymentRequestClient} {orderRef correlationRef : String}
    {presented : PaymentRequestPresentation}
    (h : client.getPaymentRequest orderRef correlationRef = .ok presented) :
    assertProjectionMatchesSession presented.toCanonicalPaymentRequestProjection orderRef
      correlationRef = .ok () := by
  obtain ⟨policy, -, hcorrelated, hpresents⟩ := presents_of_getPaymentRequest h
  rw [assertProjectionMatchesSession_iff]
  exact ⟨hpresents.order, hpresents.correlation.trans hcorrelated⟩

namespace OrderDesk

open FakeXBOSOrderChangeFulfillmentClient

variable {π : Type} [XBOSOrderPort π] [Hashlib] {d : OrderDesk π} {ref : String}

/-! ## What a call asks of the fixture -/

theorem exec_requiredOrderSession_some (refusal : ExcClass) {session : CustomerSessionSnapshot}
    (h : d.world.ordered? ref = some session) :
    exec handle ((requiredOrderSession refusal ref).embed channelPorts) d = (.ok session, d) := by
  obtain ⟨hget, hordered⟩ := Option.filter_eq_some_iff.mp h
  have hordered : falsy session.orderRef = false := by simpa using hordered
  have hfound : exec handle ((ask (.session (.get ref))).embed channelPorts) d =
      (.ok (some session), d) := by
    rw [← hget]
    rfl
  unfold requiredOrderSession
  rw [embed_bind, exec_bind_ok handle hfound]
  dsimp only
  rw [embed_bind, embed_raiseIf, exec_raiseIf_bind, if_neg (by simp [hordered])]
  rfl

theorem exec_requiredOrderSession_none (refusal : ExcClass) (h : d.world.ordered? ref = none) :
    ∃ e, exec handle ((requiredOrderSession refusal ref).embed channelPorts) d = (.error e, d) := by
  have hfound : exec handle ((ask (.session (.get ref))).embed channelPorts) d =
      (.ok (d.world.sessions.get ref), d) := rfl
  unfold requiredOrderSession
  rw [embed_bind, exec_bind_ok handle hfound]
  cases hget : d.world.sessions.get ref with
  | none => exact ⟨_, rfl⟩
  | some session =>
      have hfalsy : falsy session.orderRef = true := by
        unfold World.ordered? at h
        simpa [hget] using h
      dsimp only
      rw [embed_bind, embed_raiseIf, exec_raiseIf_bind, if_pos hfalsy]
      exact ⟨_, rfl⟩

open OrderChangeFulfillmentService

variable {session : CustomerSessionSnapshot}

theorem exec_requiredSession (h : d.world.ordered? ref = some session) :
    exec handle (requiredSession ref) d = (.ok session, d) :=
  exec_requiredOrderSession_some _ h

/-- The services find in a projection of the fixture what they asked for. -/
theorem exec_merchantCancellationProjection (h : d.world.ordered? ref = some session) :
    let answer := d.lifecycle.getCancellationProjection (session.orderRef.getD "")
      session.correlationRef
    exec handle (merchantCancellationProjection ref) d =
      (answer.1, { d with lifecycle := answer.2 }) := by
  intro answer
  unfold merchantCancellationProjection
  rw [exec_bind_ok handle (exec_requiredSession h)]
  exact exec_ofExcept handle _ _

theorem exec_fulfillmentProjection (h : d.world.ordered? ref = some session) :
    let answer := d.lifecycle.getFulfillmentProjection (session.orderRef.getD "")
      session.correlationRef
    exec handle (fulfillmentProjection ref) d = (answer.1, { d with lifecycle := answer.2 }) := by
  intro answer
  have hasked : exec handle (@Program.perform OrderDeskPorts Exc
      (.getFulfillmentProjection (session.orderRef.getD "") session.correlationRef)) d =
      (.ok answer.1, { d with lifecycle := answer.2 }) := rfl
  unfold fulfillmentProjection
  rw [exec_bind_ok handle (exec_requiredSession h), exec_bind_ok handle hasked]
  cases hanswer : answer.1 with
  | error e => rfl
  | ok found =>
      cases found with
      | none => rfl
      | some projection =>
          have hmatches : assertProjectionMatchesSession projection.orderRef
              projection.correlationRef (session.orderRef.getD "") session.correlationRef =
                .ok () := by
            rw [assertProjectionMatchesSession_iff]
            exact getFulfillmentProjection_names hanswer
          dsimp only [ofExcept_ok, done_bind]
          rw [hmatches]
          rfl

theorem exec_reconcileReentry (h : d.world.ordered? ref = some session) :
    let answer := d.lifecycle.reconcileOrderLifecycle (session.orderRef.getD "")
      session.correlationRef
    exec handle (reconcileReentry ref) d = (answer.1, { d with lifecycle := answer.2 }) := by
  intro answer
  have hasked : exec handle (@Program.perform OrderDeskPorts Exc
      (.reconcileOrderLifecycle (session.orderRef.getD "") session.correlationRef)) d =
      (.ok answer.1, { d with lifecycle := answer.2 }) := rfl
  unfold reconcileReentry
  rw [exec_bind_ok handle (exec_requiredSession h), exec_bind_ok handle hasked]
  cases hanswer : answer.1 with
  | error e => rfl
  | ok projection =>
      have hmatches : assertProjectionMatchesSession projection.orderRef
          projection.correlationRef (session.orderRef.getD "") session.correlationRef = .ok () := by
        rw [assertProjectionMatchesSession_iff]
        exact reconcileOrderLifecycle_names hanswer
      dsimp only [ofExcept_ok, done_bind]
      rw [hmatches]
      rfl

/-- What a call asks of the lifecycle fixture. -/
def asked (d : OrderDesk π) : OrderDeskCall π → Option LifecycleCall
  | .channel (.orderCall ref (.requestChange requestedChangeRef clientChangeRef confirmed)) =>
      (d.world.ordered? ref).bind fun session =>
        if confirmed then
          some (.act (.requestOrderChange
            { clientChangeRef
              correlationRef := session.correlationRef
              orderRef := session.orderRef.getD ""
              requestedChangeRef }))
        else none
  | .channel (.orderCall ref (.requestCancellation reasonRef clientCancelRef confirmed)) =>
      (d.world.ordered? ref).bind fun session =>
        if confirmed then
          some (.act (.requestCancellation
            { clientCancelRef
              correlationRef := session.correlationRef
              orderRef := session.orderRef.getD ""
              reasonRef }))
        else none
  | .channel _ => none
  | .merchantCancellationProjection ref =>
      (d.world.ordered? ref).map fun session =>
        .getCancellationProjection (session.orderRef.getD "") session.correlationRef
  | .fulfillmentProjection ref =>
      (d.world.ordered? ref).map fun session =>
        .getFulfillmentProjection (session.orderRef.getD "") session.correlationRef
  | .reconcileReentry ref =>
      (d.world.ordered? ref).map fun session =>
        .reconcileOrderLifecycle (session.orderRef.getD "") session.correlationRef
  | .chooseMethod _ _ => none
  | .registerOrder orderRef correlationRef paymentState fulfillmentStage merchantInitiatedCancel =>
      some (.act (.registerOrder orderRef correlationRef paymentState fulfillmentStage
        merchantInitiatedCancel))
  | .setFulfillmentStage orderRef stage => some (.act (.setFulfillmentStage orderRef stage))
  | .registerOrderPaymentPolicy _ _ => none

theorem exec_ask_embed_bind {α : Type} (op : ChannelOp) (f : op.Resp → Service α) :
    exec handle ((ask op >>= f).embed channelPorts) d =
      exec handle ((f (handle (.channel op) d).1).embed channelPorts) (handle (.channel op) d).2 :=
  rfl

/-- What a request comes to that is only made if the customer confirmed it. -/
theorem exec_request_state {α : Type} (d : OrderDesk π) (ref : String) (confirmed : Bool) (e : Exc)
    (op : CustomerSessionSnapshot → OrderAuthorityOp)
    (decided : ∀ session, (op session).Resp → Except Exc α) :
    (exec handle ((requiredOrderSession .lifecycleAuthorityMismatch ref >>= fun session =>
      raiseIf (!confirmed) e >>= fun _ => ask (.orderAuthority (op session)) >>= fun answer =>
        ofExcept (decided session answer)).embed channelPorts) d).2 =
      (d.world.ordered? ref).elim d fun session =>
        if confirmed then (handle (.channel (.orderAuthority (op session))) d).2 else d := by
  rw [embed_bind]
  cases h : d.world.ordered? ref with
  | none =>
      obtain ⟨e, he⟩ := exec_requiredOrderSession_none .lifecycleAuthorityMismatch h
      rw [exec_bind_error handle he]
      rfl
  | some session =>
      rw [exec_bind_ok handle (exec_requiredOrderSession_some _ h), embed_bind, embed_raiseIf,
        exec_raiseIf_bind]
      cases confirmed with
      | false => rfl
      | true =>
          rw [if_neg (by simp), exec_ask_embed_bind, embed_ofExcept, exec_ofExcept]
          rfl

/-- `payment_request` reads the policies. -/
theorem exec_paymentRequest (h : d.world.ordered? ref = some session) :
    exec handle ((PaymentExperienceService.paymentRequest ref).embed channelPorts) d =
      ((d.payments.getPaymentRequest (session.orderRef.getD "") session.correlationRef).map
        PaymentRequestPresentation.toCanonicalPaymentRequestProjection, d) := by
  unfold PaymentExperienceService.paymentRequest
  rw [embed_bind, exec_bind_ok handle (exec_requiredOrderSession_some _ h), exec_ask_embed_bind]
  dsimp only [handle]
  cases hanswer : d.payments.getPaymentRequest (session.orderRef.getD "")
      session.correlationRef with
  | error e => rfl
  | ok presented =>
      have hmatches := PaymentExperienceService.matches_of_getPaymentRequest hanswer
      simp only [Except.map, ofExcept_ok, done_bind]
      rw [hmatches]
      rfl

theorem exec_paymentRequest_state (d : OrderDesk π) (ref : String) :
    (exec handle ((PaymentExperienceService.paymentRequest ref).embed channelPorts) d).2 = d := by
  cases h : d.world.ordered? ref with
  | none =>
      obtain ⟨e, he⟩ := exec_requiredOrderSession_none .paymentRequestAuthorityMismatch h
      unfold PaymentExperienceService.paymentRequest
      rw [embed_bind, exec_bind_error handle he]
  | some session => rw [exec_paymentRequest h]

theorem orderCall_lifecycle (d : OrderDesk π) (ref : String) (call : OrderCall) :
    (exec handle ((call.program ref).embed channelPorts) d).2.lifecycle =
      (d.asked (.channel (.orderCall ref call))).elim d.lifecycle fun c =>
        (d.lifecycle.perform c).2 := by
  cases call with
  | requestChange requestedChangeRef clientChangeRef confirmed =>
      simp only [OrderCall.program, embed_void, exec_void_state]
      refine (congrArg lifecycle (exec_request_state d ref confirmed _ (fun session =>
        .requestOrderChange
          { clientChangeRef
            correlationRef := session.correlationRef
            orderRef := session.orderRef.getD ""
            requestedChangeRef }) fun _ decision => decision)).trans ?_
      cases h : d.world.ordered? ref with
      | none => simp [asked, h]
      | some session =>
          simp only [asked, h]
          cases confirmed with
          | false => rfl
          | true => rfl
  | requestCancellation reasonRef clientCancelRef confirmed =>
      simp only [OrderCall.program, embed_void, exec_void_state]
      refine (congrArg lifecycle (exec_request_state d ref confirmed _ (fun session =>
        .requestCancellation
          { clientCancelRef
            correlationRef := session.correlationRef
            orderRef := session.orderRef.getD ""
            reasonRef }) fun _ decision => decision)).trans ?_
      cases h : d.world.ordered? ref with
      | none => simp [asked, h]
      | some session =>
          simp only [asked, h]
          cases confirmed with
          | false => rfl
          | true => rfl
  | paymentRequest =>
      simp only [OrderCall.program, embed_void, exec_void_state]
      exact congrArg lifecycle (exec_paymentRequest_state d ref)

theorem exec_presentedRequest (h : d.world.ordered? ref = some session) :
    exec handle (PaymentExperienceService.presentedRequest ref) d =
      (d.payments.getPaymentRequest (session.orderRef.getD "") session.correlationRef, d) := by
  have hasked : exec handle (@Program.perform OrderDeskPorts Exc
      (.getPaymentRequest (session.orderRef.getD "") session.correlationRef)) d =
      (.ok (d.payments.getPaymentRequest (session.orderRef.getD "") session.correlationRef), d) :=
    rfl
  unfold PaymentExperienceService.presentedRequest
  rw [exec_bind_ok handle (exec_requiredOrderSession_some _ h), exec_bind_ok handle hasked]
  cases hanswer : d.payments.getPaymentRequest (session.orderRef.getD "")
      session.correlationRef with
  | error e => rfl
  | ok presented =>
      have hmatches := PaymentExperienceService.matches_of_getPaymentRequest hanswer
      simp only [ofExcept_ok, done_bind]
      rw [hmatches]
      rfl

theorem exec_presentedRequest_none (h : d.world.ordered? ref = none) :
    ∃ e, exec handle (PaymentExperienceService.presentedRequest ref) d = (.error e, d) := by
  obtain ⟨e, he⟩ := exec_requiredOrderSession_none .paymentRequestAuthorityMismatch h
  unfold PaymentExperienceService.presentedRequest
  exact ⟨e, exec_bind_error handle he _⟩

theorem exec_chooseMethod_state (d : OrderDesk π) (ref : String) (method : PaymentMethodCode) :
    (exec handle (PaymentExperienceService.chooseMethod ref method) d).2 = d := by
  unfold PaymentExperienceService.chooseMethod
  cases h : d.world.ordered? ref with
  | none =>
      obtain ⟨e, he⟩ := exec_presentedRequest_none h
      rw [exec_bind_error handle he]
  | some session =>
      rw [exec_bind, exec_presentedRequest h]
      cases d.payments.getPaymentRequest (session.orderRef.getD "") session.correlationRef with
      | error e => rfl
      | ok presented =>
          dsimp only
          cases PaymentExperienceService.presentMethod presented method with
          | error e => rfl
          | ok action => rfl

/-- A call without a session that has an order gets no further. -/
theorem exec_requiredSession_bind_none {α : Type} (h : d.world.ordered? ref = none)
    (f : CustomerSessionSnapshot → OrderDeskService α) :
    (exec handle (requiredSession ref >>= f) d).2 = d := by
  obtain ⟨e, he⟩ := exec_requiredOrderSession_none .lifecycleAuthorityMismatch h
  rw [exec_bind_error handle (p := requiredSession ref) he]

variable (svc : OrderDraftConfirmationService)

/-- Whatever is called, the fixture is asked at most once. -/
theorem step_lifecycle (d : OrderDesk π) (call : OrderDeskCall π) :
    (d.step svc call).lifecycle =
      (d.asked call).elim d.lifecycle fun c => (d.lifecycle.perform c).2 := by
  cases call with
  | channel call =>
      cases call with
      | orderCall ref call => exact orderCall_lifecycle d ref call
      | _ => rfl
  | merchantCancellationProjection ref =>
      cases h : d.world.ordered? ref with
      | none =>
          simp only [step, asked, h]
          exact congrArg lifecycle (exec_requiredSession_bind_none h _)
      | some session =>
          simp only [step, asked, h, exec_merchantCancellationProjection h]
          rfl
  | fulfillmentProjection ref =>
      cases h : d.world.ordered? ref with
      | none =>
          simp only [step, asked, h]
          exact congrArg lifecycle (exec_requiredSession_bind_none h _)
      | some session =>
          simp only [step, asked, h, exec_fulfillmentProjection h]
          rfl
  | reconcileReentry ref =>
      cases h : d.world.ordered? ref with
      | none =>
          simp only [step, asked, h]
          exact congrArg lifecycle (exec_requiredSession_bind_none h _)
      | some session =>
          simp only [step, asked, h, exec_reconcileReentry h]
          rfl
  | chooseMethod ref method => exact congrArg lifecycle (exec_chooseMethod_state d ref method)
  | registerOrder => rfl
  | setFulfillmentStage => rfl
  | registerOrderPaymentPolicy => rfl

end OrderDesk

end XbosCustomerChannel
