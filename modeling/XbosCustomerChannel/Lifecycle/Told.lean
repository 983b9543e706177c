import XbosCustomerChannel.Lifecycle.DeskSpec
import XbosCustomerChannel.Lifecycle.Predecessor

/-!
# What a customer is told of an order

Over any run of the channel and of the calls on orders, what a customer is told is decided by what XBOS
registered for the order last and by the cancellations that were asked for since, under sessions that
have the order and its correlation.
-/

namespace XbosCustomerChannel

open Effects Data FakeXBOSOrderChangeFulfillmentClient

/-! ## Registrations -/

/-- What a registration says of an order for good. -/
structure OrderRegistration where
  correlationRef : String
  paymentState : UpstreamPaymentCommercialState
  merchantInitiatedCancel : Bool
  deriving DecidableEq, Repr

def LifecycleRecord.registration (record : LifecycleRecord) : OrderRegistration where
  correlationRef := record.correlationRef
  paymentState := record.paymentState
  merchantInitiatedCancel := record.merchantInitiatedCancel

def LifecycleCall.registration? (orderRef : String) : LifecycleCall → Option OrderRegistration
  | .act (.registerOrder orderRef' correlationRef paymentState _ merchantInitiatedCancel) =>
      if orderRef' = orderRef then
        some { correlationRef, paymentState, merchantInitiatedCancel }
      else none
  | _ => none

theorem LifecycleCall.registers_iff {call : LifecycleCall} {orderRef : String} :
    (call.registration? orderRef).isSome = true ↔ call.Registers orderRef := by
  constructor
  · intro h
    unfold LifecycleCall.registration? at h
    split at h
    · split at h
      · next heq =>
        subst heq
        exact ⟨_, _, _, _, rfl⟩
      · cases h
    · cases h
  · rintro ⟨correlationRef, paymentState, stage, merchantInitiatedCancel, rfl⟩
    simp [registration?]

/-- The registration an order has with the fixture. -/
def FakeXBOSOrderChangeFulfillmentClient.registration?
    (client : FakeXBOSOrderChangeFulfillmentClient) (orderRef : String) : Option OrderRegistration :=
  (client.records.get? orderRef).map LifecycleRecord.registration

namespace FakeXBOSOrderChangeFulfillmentClient

variable {client client' : FakeXBOSOrderChangeFulfillmentClient} {orderRef : String}

theorem registration?_congr (hrecords : client'.records = client.records) :
    client'.registration? orderRef = client.registration? orderRef := by
  unfold registration?
  rw [hrecords]

/-- Only a registration changes the registration of an order. -/
theorem registration?_perform (client : FakeXBOSOrderChangeFulfillmentClient)
    (call : LifecycleCall) :
    (client.perform call).2.registration? orderRef =
      (call.registration? orderRef).or (client.registration? orderRef) := by
  by_cases hacts : ∃ op, call = .act op
  · obtain ⟨op, rfl⟩ := hacts
    rw [perform_act]
    cases op with
    | registerOrder orderRef' correlationRef paymentState stage merchantInitiatedCancel =>
        show ((client.records.set orderRef' _).get? orderRef).map LifecycleRecord.registration = _
        rw [Dict.get?_set]
        by_cases heq : orderRef = orderRef'
        · subst heq
          simp [LifecycleCall.registration?, LifecycleRecord.registration]
        · simp [LifecycleCall.registration?, registration?, heq, Ne.symm heq]
    | setFulfillmentStage orderRef' stage =>
        show (((client.setFulfillmentStage orderRef' stage).2.records.get? orderRef)).map
          LifecycleRecord.registration = client.registration? orderRef
        rw [get?_setFulfillmentStage, Option.map_map]
        unfold registration?
        congr 1
        funext record
        dsimp only [Function.comp]
        split
        · rfl
        · rfl
    | requestOrderChange request =>
        exact registration?_congr (requestOrderChange_records request).1
    | requestCancellation request =>
        show (client.requestCancellation request).2.registration? orderRef =
          client.registration? orderRef
        cases requestCancellation_cancels client request with
        | idle _ hrecords _ => exact registration?_congr hrecords
        | canceled record hdecides _ hrecords _ =>
            unfold registration?
            rw [hrecords, Dict.get?_set]
            split
            · next heq =>
              rw [heq, hdecides.record_eq]
              rfl
            · rfl
  · rw [not_exists] at hacts
    rw [registration?_congr (records_of_asks call hacts)]
    cases call with
    | act op => exact absurd rfl (hacts op)
    | getCancellationProjection => rfl
    | getFulfillmentProjection => rfl
    | reconcileOrderLifecycle => rfl

/-! ## Projections -/

variable {correlationRef : String}

theorem reconcileOrderLifecycle_ok_iff :
    (∃ projection, (client.reconcileOrderLifecycle orderRef correlationRef).1 = .ok projection) ↔
      ∃ r, client.registration? orderRef = some r ∧ r.correlationRef = correlationRef := by
  unfold reconcileOrderLifecycle registration?
  constructor
  · rintro ⟨projection, h⟩
    split at h
    · cases h
    · next record hrecord =>
      obtain ⟨hget, hcorrelated⟩ := requiredMatches_ok.mp hrecord
      exact ⟨record.registration, by rw [hget]; rfl, hcorrelated⟩
  · rintro ⟨r, hr, hcorrelated⟩
    obtain ⟨record, hget, rfl⟩ := Option.map_eq_some_iff.mp hr
    rw [requiredMatches_ok.mpr ⟨hget, hcorrelated⟩]
    exact ⟨_, rfl⟩

/-- What a projection of the lifecycle was read off. -/
theorem record_of_reconcileOrderLifecycle {projection : OrderLifecycleProjection}
    (h : (client.reconcileOrderLifecycle orderRef correlationRef).1 = .ok projection) :
    ∃ record, client.records.get? orderRef = some record ∧
      record.correlationRef = correlationRef ∧ projection.orderState = record.orderState ∧
        projection.paymentState = record.paymentState ∧
          projection.fulfillmentState = record.fulfillmentState := by
  unfold reconcileOrderLifecycle at h
  split at h
  · cases h
  · next record hrecord =>
    obtain ⟨hget, hcorrelated⟩ := requiredMatches_ok.mp hrecord
    obtain rfl := Except.ok.inj h
    exact ⟨record, hget, hcorrelated, rfl, rfl, rfl⟩

theorem getCancellationProjection_ok {record : LifecycleRecord}
    (hget : client.records.get? orderRef = some record)
    (hcorrelated : record.correlationRef = correlationRef) :
    ∃ told, (client.getCancellationProjection orderRef correlationRef).1 = .ok told ∧
      told.isSome = record.merchantInitiatedCancel := by
  unfold getCancellationProjection
  rw [requiredMatches_ok.mpr ⟨hget, hcorrelated⟩]
  dsimp only
  cases hmerchant : record.merchantInitiatedCancel with
  | true =>
      rw [if_neg (by simp)]
      exact ⟨_, rfl, rfl⟩
  | false =>
      rw [if_pos (by simp)]
      exact ⟨none, rfl, rfl⟩

end FakeXBOSOrderChangeFulfillmentClient

namespace OrderDeskCall

variable {π : Type} [XBOSOrderPort π]

def registration? (orderRef : String) : OrderDeskCall π → Option OrderRegistration
  | .registerOrder orderRef' correlationRef paymentState _ merchantInitiatedCancel =>
      if orderRef' = orderRef then
        some { correlationRef, paymentState, merchantInitiatedCancel }
      else none
  | _ => none

end OrderDeskCall

theorem World.orderRef_of_ordered {π : Type} {w : World π} {ref : String}
    {session : CustomerSessionSnapshot} (h : w.ordered? ref = some session) :
    session.orderRef = some (session.orderRef.getD "") := by
  have hordered := (Option.filter_eq_some_iff.mp h).2
  cases horder : session.orderRef with
  | none => simp [horder, falsy] at hordered
  | some orderRef => rfl

namespace OrderDesk

variable {π : Type} [XBOSOrderPort π] [Hashlib]

/-- The call cancels the order: it registers it as canceled by the merchant, or it is a confirmed
cancellation, under a new client reference, of a session that has the order and the correlation the
order is registered with. -/
inductive Cancels (d : OrderDesk π) (orderRef : String) : OrderDeskCall π → Prop
  | registered (correlationRef : String) (paymentState : UpstreamPaymentCommercialState)
      (fulfillmentStage : Option FulfillmentStage) :
      Cancels d orderRef (.registerOrder orderRef correlationRef paymentState fulfillmentStage true)
  | requested (ref reasonRef clientCancelRef : String) (session : CustomerSessionSnapshot)
      (record : LifecycleRecord) (hsession : d.world.ordered? ref = some session)
      (horder : session.orderRef = some orderRef)
      (hunused : d.lifecycle.cancelByRef.get? clientCancelRef = none)
      (hrecord : d.lifecycle.records.get? orderRef = some record)
      (hcorrelated : record.correlationRef = session.correlationRef)
      (hcancellable : Cancellable record) :
      Cancels d orderRef (.channel (.orderCall ref (.requestCancellation reasonRef clientCancelRef
        true)))

variable {d : OrderDesk π} {orderRef : String}

omit [Hashlib] in
theorem asked_registerOrder {call : OrderDeskCall π} {correlationRef : String}
    {paymentState : UpstreamPaymentCommercialState} {stage : Option FulfillmentStage}
    {merchantInitiatedCancel : Bool}
    (h : d.asked call = some (.act (.registerOrder orderRef correlationRef paymentState stage
      merchantInitiatedCancel))) :
    call = .registerOrder orderRef correlationRef paymentState stage merchantInitiatedCancel := by
  cases call with
  | channel call =>
      cases call with
      | orderCall ref call => cases call <;> simp [asked, Option.bind_eq_some_iff] at h
      | _ => cases h
  | registerOrder => simpa [asked] using h
  | _ => simp [asked] at h

omit [Hashlib] in
theorem asked_requestCancellation {call : OrderDeskCall π} {request : CancellationRequest}
    (h : d.asked call = some (.act (.requestCancellation request))) :
    ∃ ref session,
      call = .channel (.orderCall ref
        (.requestCancellation request.reasonRef request.clientCancelRef true)) ∧
      d.world.ordered? ref = some session ∧ session.orderRef = some request.orderRef ∧
        request.correlationRef = session.correlationRef := by
  cases call with
  | channel call =>
      cases call with
      | orderCall ref call =>
          cases call with
          | requestCancellation reasonRef clientCancelRef confirmed =>
              obtain ⟨session, hsession, hconfirmed⟩ := Option.bind_eq_some_iff.mp h
              split at hconfirmed
              · next htrue =>
                obtain rfl := htrue
                injection hconfirmed with hconfirmed
                injection hconfirmed with hconfirmed
                injection hconfirmed with hconfirmed
                subst hconfirmed
                exact ⟨ref, session, rfl, hsession, World.orderRef_of_ordered hsession, rfl⟩
              · cases hconfirmed
          | _ => simp [asked, Option.bind_eq_some_iff] at h
      | _ => cases h
  | _ => simp [asked] at h

omit [Hashlib] in
theorem cancels_iff {call : OrderDeskCall π} :
    d.Cancels orderRef call ↔
      ∃ c, d.asked call = some c ∧ LifecycleCall.Cancels d.lifecycle orderRef c := by
  constructor
  · intro h
    cases h with
    | registered correlationRef paymentState stage =>
        exact ⟨_, rfl, .registered correlationRef paymentState stage⟩
    | requested ref reasonRef clientCancelRef session record hsession horder hunused hrecord
        hcorrelated hcancellable =>
        let request : CancellationRequest :=
          { clientCancelRef
            correlationRef := session.correlationRef
            orderRef
            reasonRef }
        refine ⟨.act (.requestCancellation request), by simp [asked, hsession, horder, request], ?_⟩
        exact .requested request record rfl ⟨hunused, hrecord, hcorrelated⟩ hcancellable
  · rintro ⟨c, hasked, hcancels⟩
    cases hcancels with
    | registered correlationRef paymentState stage =>
        rw [asked_registerOrder hasked]
        exact .registered correlationRef paymentState stage
    | requested request record horder hdecides hcancellable =>
        obtain ⟨ref, session, rfl, hsession, hsame, hcorrelated⟩ := asked_requestCancellation hasked
        subst horder
        exact .requested ref _ _ session record hsession hsame hdecides.unused hdecides.record_eq
          (hdecides.correlation.trans hcorrelated) hcancellable

omit [Hashlib] in
theorem registration?_asked (d : OrderDesk π) (call : OrderDeskCall π) :
    (d.asked call).bind (LifecycleCall.registration? orderRef) = call.registration? orderRef := by
  cases call with
  | channel call =>
      cases call with
      | orderCall ref call =>
          cases call with
          | requestChange requestedChangeRef clientChangeRef confirmed =>
              cases hsession : d.world.ordered? ref <;> cases confirmed <;>
                simp [asked, hsession, LifecycleCall.registration?, OrderDeskCall.registration?]
          | requestCancellation reasonRef clientCancelRef confirmed =>
              cases hsession : d.world.ordered? ref <;> cases confirmed <;>
                simp [asked, hsession, LifecycleCall.registration?, OrderDeskCall.registration?]
          | paymentRequest => rfl
      | _ => rfl
  | merchantCancellationProjection ref =>
      cases hsession : d.world.ordered? ref <;>
        simp [asked, hsession, LifecycleCall.registration?, OrderDeskCall.registration?]
  | fulfillmentProjection ref =>
      cases hsession : d.world.ordered? ref <;>
        simp [asked, hsession, LifecycleCall.registration?, OrderDeskCall.registration?]
  | reconcileReentry ref =>
      cases hsession : d.world.ordered? ref <;>
        simp [asked, hsession, LifecycleCall.registration?, OrderDeskCall.registration?]
  | chooseMethod => rfl
  | registerOrder => rfl
  | setFulfillmentStage => rfl
  | registerOrderPaymentPolicy => rfl

/-! ## Runs -/

section Runs

variable (svc : OrderDraftConfirmationService)

theorem registration?_step (d : OrderDesk π) (call : OrderDeskCall π) :
    (d.step svc call).lifecycle.registration? orderRef =
      (call.registration? orderRef).or (d.lifecycle.registration? orderRef) := by
  rw [step_lifecycle, ← registration?_asked d call]
  cases d.asked call with
  | none => rfl
  | some c => exact registration?_perform d.lifecycle c

/-- What one call makes of it that an order is canceled. -/
theorem canceled_step (d : OrderDesk π) (call : OrderDeskCall π) :
    (d.step svc call).lifecycle.Canceled orderRef ↔
      d.Cancels orderRef call ∨
        d.lifecycle.Canceled orderRef ∧ ¬ (call.registration? orderRef).isSome := by
  rw [step_lifecycle, cancels_iff, ← registration?_asked d call]
  cases d.asked call with
  | none => simp
  | some c =>
      show (d.lifecycle.perform c).2.Canceled orderRef ↔ _
      rw [canceled_perform, ← LifecycleCall.registers_iff]
      simp

variable (orders : π) (upstream : Upstream) (refs : RefSource)

/-- What XBOS said last of an order when it registered it. -/
def registered (calls : List (OrderDeskCall π)) (orderRef : String) : Option OrderRegistration :=
  History.lastSome? (OrderDeskCall.registration? orderRef) calls

/-- Some call of the run canceled the order, and it was not registered again since. -/
def CanceledSince (calls : List (OrderDeskCall π)) (orderRef : String) : Prop :=
  ∃ before call after, calls = before ++ call :: after ∧
    ((start orders upstream refs).run svc before).Cancels orderRef call ∧
      ∀ call' ∈ after, ¬ (call'.registration? orderRef).isSome

theorem registration?_run (calls : List (OrderDeskCall π)) (orderRef : String) :
    ((start orders upstream refs).run svc calls).lifecycle.registration? orderRef =
      registered calls orderRef :=
  @History.lastSome?_foldl _ _ _ _ (step svc)
    (fun d => d.lifecycle.registration? orderRef) (registration?_step svc) _ rfl calls

theorem canceled_run (calls : List (OrderDeskCall π)) (orderRef : String) :
    ((start orders upstream refs).run svc calls).lifecycle.Canceled orderRef ↔
      CanceledSince svc orders upstream refs calls orderRef := by
  have hnone : ¬ (start orders upstream refs).lifecycle.Canceled orderRef := by
    rintro ⟨record, hget, -⟩
    cases hget
  exact @History.latch_iff _ _ (step svc) (fun d => d.lifecycle.Canceled orderRef)
    (fun d => d.Cancels orderRef) (fun call => (call.registration? orderRef).isSome)
    (canceled_step svc) _ hnone calls

end Runs

/-! ## What the customer is told -/

section Told

variable (svc : OrderDraftConfirmationService) (orders : π) (upstream : Upstream) (refs : RefSource)

open OrderChangeFulfillmentService

/-- In every run of the channel, with customers' calls on their orders and decisions of XBOS between its
calls, and for every session that has an order: `reconcile_reentry` answers if and only if the order was
last registered with the correlation of the session. It then tells the payment state of that
registration, and an order that is canceled if and only if, since that registration, its merchant or a
confirmed request canceled it, the request made under a session with the order and with that same
correlation. The merchant's cancellation is told if and only if the registration is one. -/
theorem run_told (calls : List (OrderDeskCall π)) :
    let d := (start orders upstream refs).run svc calls
    ∀ ref session orderRef, d.world.ordered? ref = some session →
      session.orderRef = some orderRef →
      ((∃ projection, (exec handle (reconcileReentry ref) d).1 = .ok projection) ↔
        ∃ r, registered calls orderRef = some r ∧ r.correlationRef = session.correlationRef) ∧
      ∀ projection, (exec handle (reconcileReentry ref) d).1 = .ok projection →
        projection.orderRef = orderRef ∧ projection.correlationRef = session.correlationRef ∧
        (registered calls orderRef).map OrderRegistration.paymentState =
          some projection.paymentState ∧
        (projection.orderState = .canceled ↔
          CanceledSince svc orders upstream refs calls orderRef) ∧
        (projection.fulfillmentState = .canceled ↔
          CanceledSince svc orders upstream refs calls orderRef) ∧
        ∃ told, (exec handle (merchantCancellationProjection ref) d).1 = .ok told ∧
          (registered calls orderRef).map OrderRegistration.merchantInitiatedCancel =
            some told.isSome := by
  intro d ref session orderRef hsession horder
  have hreference : session.orderRef.getD "" = orderRef := by rw [horder, Option.getD_some]
  have hregistered : d.lifecycle.registration? orderRef = registered calls orderRef :=
    registration?_run svc orders upstream refs calls orderRef
  have hcanceled := canceled_run svc orders upstream refs calls orderRef
  rw [exec_reconcileReentry hsession, exec_merchantCancellationProjection hsession, hreference]
  dsimp only
  rw [reconcileOrderLifecycle_ok_iff, ← hregistered]
  refine ⟨Iff.rfl, fun projection hprojection => ?_⟩
  obtain ⟨hnamed, hcorrelated⟩ := reconcileOrderLifecycle_names hprojection
  obtain ⟨record, hget, hmatches, hstate, hpayment, hfulfillment⟩ :=
    record_of_reconcileOrderLifecycle hprojection
  have hiff : record.orderState = .canceled ↔
      CanceledSince svc orders upstream refs calls orderRef := by
    rw [← hcanceled]
    constructor
    · intro hcanceled
      exact ⟨record, hget, hcanceled⟩
    · rintro ⟨record', hget', hcanceled'⟩
      obtain rfl := Option.some.inj (hget.symm.trans hget')
      exact hcanceled'
  refine ⟨hnamed, hcorrelated, ?_, ?_, ?_, ?_⟩
  · simp [registration?, hget, hpayment, LifecycleRecord.registration]
  · rw [hstate, hiff]
  · rw [hfulfillment, record.fulfillmentState_canceled, hiff]
  · obtain ⟨told, htold, hsome⟩ := getCancellationProjection_ok hget hmatches
    refine ⟨told, htold, ?_⟩
    simp [registration?, hget, hsome, LifecycleRecord.registration]

end Told

end OrderDesk

section Fixture

open Fixture OrderChangeFulfillmentService

/-- A session gets its order, which is registered as paid, and cancels it. -/
def canceledByCustomer : List (OrderDeskCall FakeXBOSOrderClient) :=
  ordered.map .channel ++
    [.registerOrder "order:fixture:1" "correlation:fixture:one" .paid none false,
      .channel (.orderCall sessionRef (.requestCancellation "reason:1" "cancel:1" true))]

/-- The desk afterwards. -/
def canceledDesk : OrderDesk FakeXBOSOrderClient :=
  (OrderDesk.start {} (upstream 1 3000) lengthRefs).run {} canceledByCustomer

theorem run_told_canceled :
    OrderDesk.CanceledSince {} ({} : FakeXBOSOrderClient) (upstream 1 3000) lengthRefs
      canceledByCustomer "order:fixture:1" := by
  have hsession : ∃ session, canceledDesk.world.ordered? sessionRef = some session ∧
      session.orderRef = some "order:fixture:1" := by
    decide +kernel
  obtain ⟨session, hsession, horder⟩ := hsession
  have hcanceled : ((exec OrderDesk.handle (reconcileReentry sessionRef) canceledDesk).1.toOption.map
      OrderLifecycleProjection.orderState) = some .canceled := by
    decide +kernel
  obtain ⟨projection, hprojection, hstate⟩ := Option.map_eq_some_iff.mp hcanceled
  have htold := OrderDesk.run_told {} ({} : FakeXBOSOrderClient) (upstream 1 3000) lengthRefs
    canceledByCustomer sessionRef session "order:fixture:1" hsession horder
  exact (htold.2 projection (ok_of_toOption hprojection)).2.2.2.1.mp hstate

end Fixture

end XbosCustomerChannel
