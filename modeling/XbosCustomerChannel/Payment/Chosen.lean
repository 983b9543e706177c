import XbosCustomerChannel.Lifecycle.Told

/-!
# Which payment methods a customer can choose

The policies are keyed by orders, and a customer names a session. Over any run, the session gives access
to the latest policy of its order, if that policy has its correlation, and to nothing else.
-/

namespace XbosCustomerChannel

open Effects Effects.Program Data

variable {π : Type} [XBOSOrderPort π]

/-- The policy that a call registers for an order. -/
def OrderDeskCall.policy? (orderRef : String) : OrderDeskCall π → Option RegisteredPaymentPolicy
  | .registerOrderPaymentPolicy orderRef' policy =>
      if orderRef' = orderRef then some policy else none
  | _ => none

namespace OrderDesk

variable [Hashlib] (svc : OrderDraftConfirmationService)

/-- No call of a customer changes a policy. -/
theorem handle_payments (op : OrderDeskOp) (d : OrderDesk π) :
    (handle op d).2.payments = d.payments := by
  cases op with
  | channel op =>
      cases op with
      | orderAuthority op =>
          cases op with
          | requestOrderChange => rfl
          | requestCancellation => rfl
          | getPaymentRequest => rfl
      | _ => rfl
  | _ => rfl

theorem exec_payments {α : Type} (p : OrderDeskService α) (d : OrderDesk π) :
    (exec handle p d).2.payments = d.payments :=
  exec_keeps handle (A := fun _ => True) (fun op d _ => handle_payments op d) (Uses.all p) d

theorem policy?_step (orderRef : String) (d : OrderDesk π) (call : OrderDeskCall π) :
    (d.step svc call).payments.policies.get? orderRef =
      (call.policy? orderRef).or (d.payments.policies.get? orderRef) := by
  have hkept {d' : OrderDesk π} (h : d'.payments = d.payments) :
      d'.payments.policies.get? orderRef = d.payments.policies.get? orderRef := by rw [h]
  cases call with
  | channel call =>
      cases call with
      | orderCall ref call => exact hkept (exec_payments _ d)
      | _ => rfl
  | merchantCancellationProjection => exact hkept (exec_payments _ d)
  | fulfillmentProjection => exact hkept (exec_payments _ d)
  | reconcileReentry => exact hkept (exec_payments _ d)
  | chooseMethod => exact hkept (exec_payments _ d)
  | registerOrder => rfl
  | setFulfillmentStage => rfl
  | registerOrderPaymentPolicy orderRef' policy =>
      show (d.payments.policies.set orderRef' policy).get? orderRef = _
      rw [Dict.get?_set]
      by_cases heq : orderRef = orderRef'
      · simp [OrderDeskCall.policy?, heq]
      · simp [OrderDeskCall.policy?, heq, Ne.symm heq]

/-- The policy that was registered last for an order. -/
def policy (calls : List (OrderDeskCall π)) (orderRef : String) : Option RegisteredPaymentPolicy :=
  History.lastSome? (OrderDeskCall.policy? orderRef) calls

theorem policy?_run (orders : π) (upstream : Upstream) (refs : RefSource)
    (calls : List (OrderDeskCall π)) (orderRef : String) :
    ((start orders upstream refs).run svc calls).payments.policies.get? orderRef =
      policy calls orderRef :=
  @History.lastSome?_foldl _ _ _ _ (step svc)
    (fun d => d.payments.policies.get? orderRef) (policy?_step svc orderRef) _ rfl calls

/-! ## What is chosen -/

open PaymentExperienceService

variable {d : OrderDesk π} {ref : String} {session : CustomerSessionSnapshot}

theorem exec_chooseMethod (h : d.world.ordered? ref = some session) (method : PaymentMethodCode) :
    (exec handle (chooseMethod ref method) d).1 =
      (d.payments.getPaymentRequest (session.orderRef.getD "") session.correlationRef).bind
        fun presented => (presentMethod presented method).map fun action => (presented, action) := by
  unfold chooseMethod
  rw [exec_bind, exec_presentedRequest h]
  cases d.payments.getPaymentRequest (session.orderRef.getD "") session.correlationRef with
  | error e => rfl
  | ok presented =>
      dsimp only [Except.bind]
      cases presentMethod presented method with
      | error e => rfl
      | ok action => rfl

theorem chosen_iff (h : d.world.ordered? ref = some session) {method : PaymentMethodCode}
    {presented : PaymentRequestPresentation} {action : NextAction} :
    (exec handle (chooseMethod ref method) d).1 = .ok (presented, action) ↔
      d.payments.getPaymentRequest (session.orderRef.getD "") session.correlationRef =
          .ok presented ∧
        presentMethod presented method = .ok action := by
  rw [exec_chooseMethod h]
  cases d.payments.getPaymentRequest (session.orderRef.getD "") session.correlationRef with
  | error e => simp [Except.bind]
  | ok presented' =>
      cases hpresented : presentMethod presented' method with
      | error e =>
          simp only [Except.bind, hpresented, Except.map, reduceCtorEq, Except.ok.injEq, false_iff,
            not_and]
          rintro rfl
          simp [hpresented]
      | ok action' =>
          simp only [Except.bind, hpresented, Except.map, Except.ok.injEq, Prod.mk.injEq]
          constructor
          · rintro ⟨rfl, rfl⟩
            exact ⟨rfl, hpresented⟩
          · rintro ⟨rfl, haction⟩
            rw [hpresented] at haction
            exact ⟨rfl, Except.ok.inj haction⟩

/-- In every run of the channel, with policies registered between its calls, and for every session that
has an order: a customer who names the session can go on with a method if and only if the policy last
registered for the order has the correlation of the session and permits the method, the counter only
with the flag. What is shown is the amount and the methods of that policy, the same request that
`payment_request` answers, and how the customer goes on depends on the method alone. -/
theorem chosen_of_policy (orders : π) (upstream : Upstream) (refs : RefSource)
    (calls : List (OrderDeskCall π)) :
    let d := (start orders upstream refs).run svc calls
    ∀ ref session orderRef, d.world.ordered? ref = some session →
      session.orderRef = some orderRef → ∀ method,
      ((∃ chosen, (exec handle (chooseMethod ref method) d).1 = .ok chosen) ↔
        ∃ p, policy calls orderRef = some p ∧ p.correlationRef = session.correlationRef ∧
          method ∈ p.permittedMethods ∧
            (method = .payAtCounter → p.payAtCounterPermitted = true)) ∧
      ∀ presented action, (exec handle (chooseMethod ref method) d).1 = .ok (presented, action) →
        (∃ p, policy calls orderRef = some p ∧ presented.Presents orderRef p) ∧
        action = (FakeXBOSPaymentRequestClient.presentation method).nextAction ∧
        exec handle ((paymentRequest ref).embed channelPorts) d =
          (.ok presented.toCanonicalPaymentRequestProjection, d) := by
  intro d ref session orderRef hsession horder method
  have hreference : session.orderRef.getD "" = orderRef := by rw [horder, Option.getD_some]
  have hpolicy : d.payments.policies.get? orderRef = policy calls orderRef :=
    policy?_run svc orders upstream refs calls orderRef
  constructor
  · constructor
    · rintro ⟨⟨presented, action⟩, hchosen⟩
      obtain ⟨hpresented, haction⟩ := (chosen_iff hsession).mp hchosen
      rw [hreference] at hpresented
      obtain ⟨p, hp, hcorrelated, hpresents⟩ := presents_of_getPaymentRequest hpresented
      obtain ⟨hpermitted, hoffered, -⟩ := hpresents.presentMethod_ok_iff.mp haction
      exact ⟨p, hpolicy ▸ hp, hcorrelated, hpermitted, RegisteredPaymentPolicy.offers_iff.mp hoffered⟩
    · rintro ⟨p, hp, hcorrelated, hpermitted, hoffered⟩
      rw [← hpolicy] at hp
      obtain ⟨presented, hpresented⟩ := getPaymentRequest_ok_iff.mpr ⟨p, hp, hcorrelated⟩
      obtain ⟨p', hp', -, hpresents⟩ := presents_of_getPaymentRequest hpresented
      obtain rfl := Option.some.inj (hp.symm.trans hp')
      have haction := hpresents.presentMethod_ok_iff.mpr
        ⟨hpermitted, RegisteredPaymentPolicy.offers_iff.mpr hoffered, rfl⟩
      rw [← hreference] at hpresented
      exact ⟨_, (chosen_iff hsession).mpr ⟨hpresented, haction⟩⟩
  · intro presented action hchosen
    obtain ⟨hpresented, haction⟩ := (chosen_iff hsession).mp hchosen
    have hrequested := exec_paymentRequest hsession
    rw [hpresented] at hrequested
    rw [hreference] at hpresented
    obtain ⟨p, hp, -, hpresents⟩ := presents_of_getPaymentRequest hpresented
    exact ⟨⟨p, hpolicy ▸ hp, hpresents⟩, (hpresents.presentMethod_ok_iff.mp haction).2.2,
      hrequested⟩

end OrderDesk

section Fixture

open Fixture PaymentExperienceService

/-- A session gets its order, for which cards and the counter are permitted, the latter without the
flag. -/
def paidByCard : List (OrderDeskCall FakeXBOSOrderClient) :=
  ordered.map .channel ++
    [.registerOrderPaymentPolicy "order:fixture:1"
      { correlationRef := "correlation:fixture:one"
        amount := Decimal.ofNat 3000
        currency := "XAF"
        permittedMethods := [.card, .payAtCounter] }]

/-- The desk afterwards. -/
def payingDesk : OrderDesk FakeXBOSOrderClient :=
  (OrderDesk.start {} (upstream 1 3000) lengthRefs).run {} paidByCard

theorem chosen_of_policy_card :
    (∃ chosen, (exec OrderDesk.handle (chooseMethod sessionRef .card) payingDesk).1 = .ok chosen) ∧
      ¬ ∃ chosen, (exec OrderDesk.handle (chooseMethod sessionRef .payAtCounter) payingDesk).1 =
        .ok chosen := by
  have hsession : ∃ session, payingDesk.world.ordered? sessionRef = some session ∧
      session.orderRef = some "order:fixture:1" ∧
        session.correlationRef = "correlation:fixture:one" := by
    decide +kernel
  obtain ⟨session, hsession, horder, hcorrelated⟩ := hsession
  have hchosen := OrderDesk.chosen_of_policy {} ({} : FakeXBOSOrderClient) (upstream 1 3000)
    lengthRefs paidByCard sessionRef session "order:fixture:1" hsession horder
  constructor
  · refine (hchosen .card).1.mpr ⟨_, rfl, hcorrelated.symm, ?_, ?_⟩
    · simp
    · simp
  · intro h
    obtain ⟨p, hp, -, -, hflag⟩ := (hchosen .payAtCounter).1.mp h
    obtain rfl := Option.some.inj hp
    cases hflag rfl

end Fixture

end XbosCustomerChannel
