import XbosCustomerChannel.Lifecycle.Service
import XbosCustomerChannel.W1.Checkout

/-!
# Payment methods and how they are presented

`FakeXBOSPaymentRequestClient` keeps the payment policy of each order, and presents the methods a policy
permits. Of a request that was presented, `PaymentExperienceService` picks the method the customer
chose.
-/

namespace XbosCustomerChannel

open Data

inductive NextActionType
  | none
  | openUrl
  | displayQr
  | awaitPush
  | openWallet
  | wait
  deriving DecidableEq, Repr

structure NextAction where
  action : NextActionType
  actionRef : Option String := none
  deriving DecidableEq, Repr

structure PaymentMethodPresentation where
  method : PaymentMethodCode
  label : String
  nextAction : NextAction
  deriving DecidableEq, Repr

/-- A payment request together with its methods. -/
structure PaymentRequestPresentation extends CanonicalPaymentRequestProjection where
  methods : List PaymentMethodPresentation
  deriving DecidableEq, Repr

/-- `_RegisteredPaymentPolicy`. -/
structure RegisteredPaymentPolicy where
  correlationRef : String
  amount : Decimal
  currency : String
  permittedMethods : List PaymentMethodCode
  payAtCounterPermitted : Bool := false
  deriving DecidableEq, Repr

/-- Whether a method of the policy is presented. -/
def RegisteredPaymentPolicy.offers (policy : RegisteredPaymentPolicy) (method : PaymentMethodCode) :
    Bool :=
  method ≠ .payAtCounter || policy.payAtCounterPermitted

structure FakeXBOSPaymentRequestClient where
  policies : Dict String RegisteredPaymentPolicy := ∅

namespace FakeXBOSPaymentRequestClient

variable (client : FakeXBOSPaymentRequestClient)

/-- `register_order_payment_policy`. -/
def registerOrderPaymentPolicy (orderRef : String) (policy : RegisteredPaymentPolicy) :
    FakeXBOSPaymentRequestClient :=
  { client with policies := client.policies.set orderRef policy }

/-- `_presentation`. -/
def presentation : PaymentMethodCode → PaymentMethodPresentation
  | .xafpayWallet =>
      { method := .xafpayWallet
        label := "XafPay Wallet"
        nextAction := { action := .openWallet, actionRef := "wallet-ui:fixture" } }
  | .mtnMobileMoney =>
      { method := .mtnMobileMoney
        label := "MTN Mobile Money"
        nextAction := { action := .awaitPush, actionRef := "push-ui:fixture:mtn" } }
  | .orangeMoney =>
      { method := .orangeMoney
        label := "Orange Money"
        nextAction := { action := .awaitPush, actionRef := "push-ui:fixture:orange" } }
  | .card =>
      { method := .card
        label := "Card"
        nextAction := { action := .openUrl, actionRef := "checkout-ui:fixture:card" } }
  | .payAtCounter =>
      { method := .payAtCounter
        label := "Pay at counter"
        nextAction := { action := .none } }

/-- `get_payment_request`. -/
def getPaymentRequest (orderRef correlationRef : String) : Except Exc PaymentRequestPresentation :=
  match client.policies.get? orderRef with
  | none => .error ⟨.keyError, "canonical_order_payment_policy_not_found"⟩
  | some policy =>
      if policy.correlationRef ≠ correlationRef then
        .error ⟨.paymentRequestAuthorityMismatch, "canonical_order_correlation_mismatch"⟩
      else .ok
        { paymentRequestRef := "payment-request:fixture:" ++ orderRef
          orderRef
          correlationRef
          canonicalAmount := policy.amount
          currency := policy.currency
          methods := (policy.permittedMethods.filter policy.offers).map presentation
          policyRef := "payment-policy:fixture:" ++ orderRef
          evidenceRef := "payment-request-evidence:fixture:" ++ orderRef }

end FakeXBOSPaymentRequestClient

namespace PaymentExperienceService

/-- `present_method`. -/
def presentMethod (paymentRequest : PaymentRequestPresentation) (method : PaymentMethodCode) :
    Except Exc NextAction :=
  match paymentRequest.methods.find? (·.method = method) with
  | some presentation => .ok presentation.nextAction
  | none =>
      .error ⟨.other "PaymentMethodNotPermitted", "payment_method_not_permitted:" ++ method.value⟩

end PaymentExperienceService

/-! ## What a policy comes to -/

theorem RegisteredPaymentPolicy.offers_iff {policy : RegisteredPaymentPolicy}
    {method : PaymentMethodCode} :
    policy.offers method = true ↔
      (method = .payAtCounter → policy.payAtCounterPermitted = true) := by
  unfold offers
  by_cases hcounter : method = .payAtCounter
  · simp [hcounter]
  · simp [hcounter]

theorem presentation_method (method : PaymentMethodCode) :
    (FakeXBOSPaymentRequestClient.presentation method).method = method := by
  cases method with
  | xafpayWallet => rfl
  | mtnMobileMoney => rfl
  | orangeMoney => rfl
  | card => rfl
  | payAtCounter => rfl

/-- Under a reference that was registered: the amount and the methods of the policy. -/
theorem getPaymentRequest_ok_iff {client : FakeXBOSPaymentRequestClient}
    {orderRef correlationRef : String} :
    (∃ presented, client.getPaymentRequest orderRef correlationRef = .ok presented) ↔
      ∃ policy, client.policies.get? orderRef = some policy ∧
        policy.correlationRef = correlationRef := by
  unfold FakeXBOSPaymentRequestClient.getPaymentRequest
  cases hget : client.policies.get? orderRef with
  | none => simp
  | some policy =>
      by_cases hcorrelated : policy.correlationRef = correlationRef
      · simp [hcorrelated]
      · simp [hcorrelated]

/-- A request that was presented is that of the policy. -/
structure PaymentRequestPresentation.Presents (presented : PaymentRequestPresentation)
    (orderRef : String) (policy : RegisteredPaymentPolicy) : Prop where
  order : presented.orderRef = orderRef
  correlation : presented.correlationRef = policy.correlationRef
  amount : presented.canonicalAmount = policy.amount
  currency : presented.currency = policy.currency
  methods : presented.methods =
    (policy.permittedMethods.filter policy.offers).map FakeXBOSPaymentRequestClient.presentation

theorem presents_of_getPaymentRequest {client : FakeXBOSPaymentRequestClient}
    {orderRef correlationRef : String} {presented : PaymentRequestPresentation}
    (h : client.getPaymentRequest orderRef correlationRef = .ok presented) :
    ∃ policy, client.policies.get? orderRef = some policy ∧
      policy.correlationRef = correlationRef ∧ presented.Presents orderRef policy := by
  unfold FakeXBOSPaymentRequestClient.getPaymentRequest at h
  cases hget : client.policies.get? orderRef with
  | none =>
      rw [hget] at h
      cases h
  | some policy =>
      rw [hget] at h
      dsimp only at h
      split at h
      · cases h
      · next hcorrelated =>
        obtain rfl := Except.ok.inj h
        have hcorrelated := not_not.mp hcorrelated
        exact ⟨policy, rfl, hcorrelated, rfl, hcorrelated.symm, rfl, rfl, rfl⟩

/-- The customer can go on with the methods the policy permits and offers, each in its own way. -/
theorem PaymentRequestPresentation.Presents.presentMethod_ok_iff
    {presented : PaymentRequestPresentation} {orderRef : String} {policy : RegisteredPaymentPolicy}
    (h : presented.Presents orderRef policy) {method : PaymentMethodCode} {action : NextAction} :
    PaymentExperienceService.presentMethod presented method = .ok action ↔
      method ∈ policy.permittedMethods ∧ policy.offers method = true ∧
        action = (FakeXBOSPaymentRequestClient.presentation method).nextAction := by
  have hmem : (∃ p ∈ presented.methods, p.method = method) ↔
      method ∈ policy.permittedMethods ∧ policy.offers method = true := by
    rw [h.methods]
    simp [presentation_method]
  unfold PaymentExperienceService.presentMethod
  cases hfound : presented.methods.find? (·.method = method) with
  | none =>
      have hnot : ¬ (method ∈ policy.permittedMethods ∧ policy.offers method = true) := by
        rw [← hmem]
        rintro ⟨p, hp, hmethod⟩
        exact absurd hmethod (by simpa using List.find?_eq_none.mp hfound p hp)
      rw [← and_assoc]
      simp [hnot]
  | some p =>
      have hp : p ∈ presented.methods := List.mem_of_find?_eq_some hfound
      have hmethod : p.method = method := by simpa using List.find?_some hfound
      have hpresented : p = FakeXBOSPaymentRequestClient.presentation method := by
        rw [h.methods] at hp
        obtain ⟨m, -, rfl⟩ := List.mem_map.mp hp
        rw [← hmethod, presentation_method]
      obtain ⟨hpermitted, hoffered⟩ := hmem.mp ⟨p, hp, hmethod⟩
      simp [hpermitted, hoffered, hpresented, eq_comm]

end XbosCustomerChannel
