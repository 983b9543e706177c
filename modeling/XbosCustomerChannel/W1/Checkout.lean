import XbosCustomerChannel.Data.Traversal
import XbosCustomerChannel.Effects.Execution
import XbosCustomerChannel.Order.Model

/-!
# The W1 checkout

Customer-facing checkout over an injected domain boundary: what the customer is shown, and the state
that is carried to the next message. The boundary is a state that may answer anything. Its domain
errors become texts; any other exception escapes. Quantities are written without Python's limit on
digits.
-/

namespace XbosCustomerChannel

open Effects Data

/-! ## What is shown and what is carried -/

inductive PaymentMethodCode
  | xafpayWallet
  | mtnMobileMoney
  | orangeMoney
  | card
  | payAtCounter
  deriving DecidableEq, Repr

namespace PaymentMethodCode

def value : PaymentMethodCode → String
  | xafpayWallet => "xafpay_wallet"
  | mtnMobileMoney => "mtn_mobile_money"
  | orangeMoney => "orange_money"
  | card => "card"
  | payAtCounter => "pay_at_counter"

/-- `PaymentMethodCode(text)`; `none` is a `ValueError`. -/
def ofValue? (text : String) : Option PaymentMethodCode :=
  [xafpayWallet, mtnMobileMoney, orangeMoney, card, payAtCounter].find? (·.value = text)

/-- `_METHOD_LABELS`. -/
def label? : PaymentMethodCode → Option String
  | payAtCounter => some "Pay at counter"
  | mtnMobileMoney => some "MTN Mobile Money"
  | orangeMoney => some "Orange Money"
  | _ => none

end PaymentMethodCode

namespace ServiceMode

/-- `ServiceMode(text)`; `none` is a `ValueError`. -/
def ofValue? (text : String) : Option ServiceMode :=
  [dineIn, takeaway, delivery].find? (·.value = text)

/-- The title of the mode's button, and its label in a review. -/
def serviceLabel : ServiceMode → String
  | dineIn => "Dine in"
  | takeaway => "Takeaway"
  | delivery => "Delivery"

end ServiceMode

inductive W1CheckoutViewKind
  | text
  | buttons
  | list
  deriving DecidableEq, Repr

inductive W1CheckoutStage
  | cartReview
  | serviceMode
  | orderReview
  | submittedOrder
  | paymentOptions
  | methodSelected
  | error
  deriving DecidableEq, Repr

inductive W1CheckoutFailureCode
  | orderNotReady
  | orderConfirmationExpiredOrChanged
  | paymentOptionsUnavailable
  | contextMismatch
  | unknownOrderResult
  | unknownPaymentRequestResult
  | unsupportedMethod
  deriving DecidableEq, Repr

structure W1CheckoutButton where
  replyId : String
  title : String
  deriving DecidableEq, Repr

structure W1CheckoutListRow where
  replyId : String
  title : String
  description : Option String := none
  deriving DecidableEq, Repr

structure W1CheckoutView where
  kind : W1CheckoutViewKind
  body : String
  buttons : List W1CheckoutButton := []
  listButtonLabel : Option String := none
  listRows : List W1CheckoutListRow := []
  deriving DecidableEq, Repr

/-- The arguments of `W1CustomerSafePaymentOptions`. -/
structure W1PaymentOptionsFields where
  paymentRequestRef : String
  orderRef : String
  canonicalAmount : Decimal
  currency : String
  permittedMethods : List PaymentMethodCode
  paymentRequestState : String := "open"
  safeNextAction : String := "present_permitted_methods_only"
  deriving DecidableEq, Repr

/-- `__post_init__`. -/
def W1PaymentOptionsFields.postInit (o : W1PaymentOptionsFields) : Except Exc Unit :=
  if o.paymentRequestRef = "" ∨ o.orderRef = "" then
    .error ⟨.valueError, "payment_options_reference_required"⟩
  else if o.currency = "" then .error ⟨.valueError, "payment_options_currency_required"⟩
  else if o.paymentRequestState ≠ "open" then
    .error ⟨.valueError, "unsupported_payment_request_state"⟩
  else if o.safeNextAction ≠ "present_permitted_methods_only" then
    .error ⟨.valueError, "unsupported_safe_next_action"⟩
  else if o.permittedMethods = [] ∨
      ∃ method ∈ o.permittedMethods, method ∉ [.payAtCounter, .mtnMobileMoney, .orangeMoney] then
    .error ⟨.valueError, "unsupported_payment_method_projection"⟩
  else if ¬ o.permittedMethods.Nodup then
    .error ⟨.valueError, "duplicate_payment_method_projection"⟩
  else .ok ()

/-- C3-safe presentation shape; only what `__post_init__` accepts can be built. -/
structure W1CustomerSafePaymentOptions extends W1PaymentOptionsFields where
  accepted : toW1PaymentOptionsFields.postInit = .ok ()
  deriving DecidableEq

/-- The methods of accepted options are among the three that are offered. -/
theorem W1CustomerSafePaymentOptions.permitted (o : W1CustomerSafePaymentOptions)
    {method : PaymentMethodCode} (h : method ∈ o.permittedMethods) :
    method ∈ [PaymentMethodCode.payAtCounter, .mtnMobileMoney, .orangeMoney] := by
  have haccepted := o.accepted
  unfold W1PaymentOptionsFields.postInit at haccepted
  split at haccepted
  · cases haccepted
  split at haccepted
  · cases haccepted
  split at haccepted
  · cases haccepted
  split at haccepted
  · cases haccepted
  split at haccepted
  · cases haccepted
  next hmethods =>
  by_contra hnot
  exact hmethods (.inr ⟨method, h, hnot⟩)

structure W1CheckoutState where
  stage : W1CheckoutStage
  serviceMode : Option ServiceMode := none
  confirmation : Option AuthoritativeOrderConfirmationSnapshot := none
  order : Option CanonicalOrderProjection := none
  paymentOptions : Option W1CustomerSafePaymentOptions := none
  selectedMethod : Option PaymentMethodCode := none
  deriving DecidableEq

/-- A state that carries neither a confirmation nor anything of an order. -/
def W1CheckoutState.Bare (st : W1CheckoutState) : Prop := st = { stage := st.stage }

structure W1CheckoutResult where
  view : W1CheckoutView
  state : W1CheckoutState
  deriving DecidableEq

/-! ## The boundary -/

/-- What a call of the boundary raises: a `W1CheckoutDomainError`, or any other exception. -/
inductive W1BoundaryFault
  | domainError (code : W1CheckoutFailureCode)
  | other (e : Exc)
  deriving DecidableEq

class W1CheckoutDomainBoundary (β : Type) where
  prepareOrderReview : β → (session : CustomerSessionSnapshot) → (catalogSession : CatalogSession) →
    (serviceMode : ServiceMode) → Except W1BoundaryFault AuthoritativeOrderConfirmationSnapshot × β
  submitOrder : β → (session : CustomerSessionSnapshot) →
    (confirmation : AuthoritativeOrderConfirmationSnapshot) →
      Except W1BoundaryFault CanonicalOrderProjection × β
  paymentOptions : β → (session : CustomerSessionSnapshot) → (order : CanonicalOrderProjection) →
    Except W1BoundaryFault W1CustomerSafePaymentOptions × β

inductive W1CheckoutOp
  | prepareOrderReview (session : CustomerSessionSnapshot) (catalogSession : CatalogSession)
      (serviceMode : ServiceMode)
  | submitOrder (session : CustomerSessionSnapshot)
      (confirmation : AuthoritativeOrderConfirmationSnapshot)
  | paymentOptions (session : CustomerSessionSnapshot) (order : CanonicalOrderProjection)

abbrev W1CheckoutOp.Resp : W1CheckoutOp → Type
  | prepareOrderReview _ _ _ => Except W1BoundaryFault AuthoritativeOrderConfirmationSnapshot
  | submitOrder _ _ => Except W1BoundaryFault CanonicalOrderProjection
  | paymentOptions _ _ => Except W1BoundaryFault W1CustomerSafePaymentOptions

abbrev W1Boundary : Signature where
  Op := W1CheckoutOp
  Resp := W1CheckoutOp.Resp

abbrev W1CallOf (α : Type) := Program W1Boundary Exc α

abbrev askBoundary (op : W1CheckoutOp) : W1CallOf op.Resp :=
  @Program.call W1Boundary Exc _ op .done

/-- One call of the boundary. -/
def W1CheckoutDomainBoundary.handle {β : Type} [W1CheckoutDomainBoundary β] : Handler W1Boundary β
  | .prepareOrderReview session catalogSession mode, b =>
      W1CheckoutDomainBoundary.prepareOrderReview b session catalogSession mode
  | .submitOrder session confirmation, b =>
      W1CheckoutDomainBoundary.submitOrder b session confirmation
  | .paymentOptions session order, b => W1CheckoutDomainBoundary.paymentOptions b session order

/-! ## The checkout -/

namespace W1CheckoutUX

def failureMessage : W1CheckoutFailureCode → String
  | .orderNotReady =>
      "Your order is not ready for checkout yet. Review your cart and try again."
  | .orderConfirmationExpiredOrChanged =>
      "Your order details changed or expired. Please review the latest order before confirming."
  | .paymentOptionsUnavailable =>
      "Payment options are temporarily unavailable. You have not been charged."
  | .contextMismatch =>
      "We could not safely match this checkout to your current order. " ++
        "Please return to the menu or ask for help."
  | .unknownOrderResult => "We are checking your order. Do not submit a second order."
  | .unknownPaymentRequestResult =>
      "We are checking your payment options. Do not start a second payment request."
  | .unsupportedMethod =>
      "That payment method is not available for this order. Choose one of the offered methods."

def failure (code : W1CheckoutFailureCode) : W1CheckoutResult :=
  ⟨{ kind := .text, body := failureMessage code }, { stage := .error }⟩

/-- `try: … except W1CheckoutDomainError as exc: return self.failure(exc.code)`. -/
def orFailure {α : Type} (answer : Except W1BoundaryFault α) (k : α → W1CallOf W1CheckoutResult) :
    W1CallOf W1CheckoutResult :=
  match answer with
  | .ok a => k a
  | .error (.domainError code) => pure (failure code)
  | .error (.other e) => .raise e

/-- A quantity before a name; the sign between them is the two characters the source has there. -/
def counted (quantity : Int) (name : String) : String := quantity.repr ++ " Ã— " ++ name

def cartReview (catalogSession : CatalogSession) : W1CheckoutResult :=
  if catalogSession.cart.lines = [] then failure .orderNotReady
  else
    let lineText := catalogSession.cart.lines.mapM fun line =>
      (catalogSession.projection.item line.itemRef).map fun item => counted line.quantity item.name
    match lineText with
    | .error _ => failure .orderNotReady
    | .ok lineText =>
        ⟨{ kind := .buttons
           body := "Your cart\n" ++ String.intercalate "\n" lineText ++
             "\n\nContinue to review service and the current authoritative total."
           buttons := [⟨"checkout", "Checkout"⟩, ⟨"menu", "Menu"⟩] },
          { stage := .cartReview }⟩

def serviceMode (catalogSession : CatalogSession) : W1CheckoutResult :=
  let allowed := catalogSession.entry.projection.allowedFulfillmentModes
  let buttons := [ServiceMode.dineIn, .takeaway, .delivery].filterMap fun mode =>
    if mode.value ∈ allowed then some ⟨"service:" ++ mode.value, mode.serviceLabel⟩ else none
  if buttons = [] then failure .contextMismatch
  else
    ⟨{ kind := .buttons, body := "How would you like to receive your order?", buttons },
      { stage := .serviceMode }⟩

/-- The text of a review. -/
def reviewBody (mode : ServiceMode) (confirmation : AuthoritativeOrderConfirmationSnapshot) :
    String :=
  String.intercalate "\n" <|
    ["Review your order", "Service: " ++ mode.serviceLabel] ++
    (confirmation.lines.map fun line =>
      counted line.quantity line.itemRef ++ ": " ++ line.lineTotal.toSciString ++ " " ++
        confirmation.currency) ++
    (confirmation.deliveryFee.toList.map fun fee =>
      "Delivery fee: " ++ fee.toSciString ++ " " ++ confirmation.currency) ++
    (confirmation.taxesCharges.map fun charge =>
      charge.label ++ ": " ++ charge.amount.toSciString ++ " " ++ confirmation.currency) ++
    ["Total: " ++ confirmation.total.toSciString ++ " " ++ confirmation.currency,
      "Confirming the order does not mean it is paid."]

/-- The end of `select_service_mode`, with a confirmation. -/
def presentReview (mode : ServiceMode) (confirmation : AuthoritativeOrderConfirmationSnapshot) :
    W1CallOf W1CheckoutResult :=
  pure ⟨{ kind := .buttons
          body := reviewBody mode confirmation
          buttons := [⟨"order:confirm", "Confirm order"⟩, ⟨"order:change", "Change"⟩] },
    { stage := .orderReview, serviceMode := some mode, confirmation := some confirmation }⟩

def selectServiceMode (session : CustomerSessionSnapshot) (catalogSession : CatalogSession)
    (mode : ServiceMode) : W1CallOf W1CheckoutResult := do
  -- whoever dines in is asked for a table before the boundary is
  if mode = .dineIn ∧ falsy session.tableRef then pure (failure .contextMismatch)
  else if mode.value ∉ catalogSession.entry.projection.allowedFulfillmentModes then
    pure (failure .contextMismatch)
  else
    let answer : Except W1BoundaryFault AuthoritativeOrderConfirmationSnapshot ←
      askBoundary (.prepareOrderReview session catalogSession mode)
    orFailure answer (presentReview mode)

/-- The rows of the payment list; `_METHOD_LABELS[method]` is a `KeyError` where there is none. -/
def paymentRows (methods : List PaymentMethodCode) : Except Exc (List W1CheckoutListRow) :=
  methods.mapM fun method =>
    match method.label? with
    | some label => .ok { replyId := "pay:" ++ method.value, title := label }
    | none => .error ⟨.keyError, method.value⟩

/-- Every offered method has a label. -/
theorem paymentRows_ok (options : W1CustomerSafePaymentOptions) :
    ∃ rows, paymentRows options.permittedMethods = .ok rows := by
  rw [paymentRows, Traversal.exists_mapM_eq_ok]
  intro method hmethod
  have hpermitted := options.permitted hmethod
  simp only [List.mem_cons, List.not_mem_nil, or_false] at hpermitted
  rcases hpermitted with rfl | rfl | rfl
  all_goals exact ⟨_, rfl⟩

/-- The end of `confirm_order`, with an order and what the boundary says of paying for it. -/
def presentPayment (state : W1CheckoutState) (order : CanonicalOrderProjection)
    (options : W1CustomerSafePaymentOptions) : W1CallOf W1CheckoutResult :=
  -- the order has been submitted by now; a failure does not say so
  if options.orderRef ≠ order.orderRef then pure (failure .contextMismatch)
  else do
    let rows ← Program.ofExcept (paymentRows options.permittedMethods)
    pure ⟨{ kind := .list
            body := "Order submitted: " ++ order.orderRef ++ "\n" ++
              "Amount to pay: " ++ options.canonicalAmount.toSciString ++ " " ++ options.currency ++
              "\n" ++ "Payment options are available. Choose a method."
            listButtonLabel := some "Payment methods"
            listRows := rows },
      { stage := .paymentOptions
        serviceMode := state.serviceMode
        confirmation := state.confirmation
        order := some order
        paymentOptions := some options }⟩

/-- The part of `confirm_order` that follows a submission. -/
def requestPayment (session : CustomerSessionSnapshot) (state : W1CheckoutState)
    (order : CanonicalOrderProjection) : W1CallOf W1CheckoutResult := do
  let answer : Except W1BoundaryFault W1CustomerSafePaymentOptions ←
    askBoundary (.paymentOptions session order)
  orFailure answer (presentPayment state order)

def confirmOrder (session : CustomerSessionSnapshot) (state : Option W1CheckoutState) :
    W1CallOf W1CheckoutResult :=
  match state with
  | none => pure (failure .orderNotReady)
  | some state =>
      -- neither the stage nor the order of the state is looked at
      match state.confirmation with
      | none => pure (failure .orderNotReady)
      | some confirmation => do
          let answer : Except W1BoundaryFault CanonicalOrderProjection ←
            askBoundary (.submitOrder session confirmation)
          orFailure answer (requestPayment session state)

def selectedBody (method : PaymentMethodCode) (label : String) : String :=
  if method = .payAtCounter then
    "Pay at counter selected. Pay at the merchant counter when instructed. " ++
      "This selection does not mean the order is paid."
  else
    label ++ " selected. Your payment method is selected. " ++
      "The secure payment execution step has not started yet."

def selectPaymentMethod (state : Option W1CheckoutState) (method : PaymentMethodCode) :
    W1CheckoutResult :=
  match state with
  | none => failure .paymentOptionsUnavailable
  | some state =>
      match state.paymentOptions with
      | none => failure .paymentOptionsUnavailable
      | some options =>
          if method ∉ options.permittedMethods then failure .unsupportedMethod
          else
            match method.label? with
            | none => failure .unsupportedMethod
            | some label =>
                ⟨{ kind := .text, body := selectedBody method label },
                  { stage := .methodSelected
                    serviceMode := state.serviceMode
                    confirmation := state.confirmation
                    order := state.order
                    paymentOptions := state.paymentOptions
                    selectedMethod := some method }⟩

/-! ## What is carried on -/

theorem failure_bare (code : W1CheckoutFailureCode) : (failure code).state.Bare := rfl

theorem cartReview_bare (catalogSession : CatalogSession) :
    (cartReview catalogSession).state.Bare := by
  unfold cartReview
  split
  · rfl
  · dsimp only
    split <;> rfl

theorem serviceMode_bare (catalogSession : CatalogSession) :
    (serviceMode catalogSession).state.Bare := by
  unfold serviceMode
  dsimp only
  split <;> rfl

/-- Selecting a method keeps the rest of a state, or leaves nothing of it. -/
theorem selectPaymentMethod_cases (state : Option W1CheckoutState)
    (method : PaymentMethodCode) :
    (∃ st, state = some st ∧ (selectPaymentMethod state method).state =
      { st with stage := .methodSelected, selectedMethod := some method }) ∨
    (selectPaymentMethod state method).state.Bare := by
  unfold selectPaymentMethod
  split
  · exact .inr rfl
  split
  · exact .inr rfl
  split
  · exact .inr rfl
  split
  · exact .inr rfl
  · exact .inl ⟨_, rfl, rfl⟩

end W1CheckoutUX

end XbosCustomerChannel
