import XbosCustomerChannel.W1.Fixture
import XbosCustomerChannel.W1.Reviewed

/-!
# What a submitted order leaves

`confirm_order` submits, and then asks how the order can be paid for. Where that ends in a failure
the result is the one of any failure, and it carries no order. So an order that has been submitted is
forgotten exactly where asking for payment options fails in a way that the checkout answers.
-/

namespace XbosCustomerChannel

open Effects Data

open W1CheckoutDomainBoundary (submitOrder paymentOptions)

/-! ## One confirmation -/

section Confirmation

variable {β : Type} [W1CheckoutDomainBoundary β]

/-- What `confirm_order` returns or raises, with the boundary `b`. -/
def confirmResult (session : CustomerSessionSnapshot) (state : Option W1CheckoutState) (b : β) :
    Except Exc W1CheckoutResult :=
  (exec W1CheckoutDomainBoundary.handle (W1CheckoutUX.confirmOrder session state) b).1

/-- What `confirm_order` submits from `b` is answered with the order, and leaves `b'`. -/
def Orders (session : CustomerSessionSnapshot) (state : Option W1CheckoutState) (b : β)
    (order : CanonicalOrderProjection) (b' : β) : Prop :=
  ∃ st c, state = some st ∧ st.confirmation = some c ∧ submitOrder b session c = (.ok order, b')

/-- Answers to the request for payment options that the checkout makes a failure of. -/
def PaymentFails (order : CanonicalOrderProjection) :
    Except W1BoundaryFault W1CustomerSafePaymentOptions → Prop
  | .ok options => options.orderRef ≠ order.orderRef
  | .error (.domainError _) => True
  | .error (.other _) => False

/-- A submission is answered with an order, and the request for payment options then fails. -/
def LosesOrder (session : CustomerSessionSnapshot) (state : Option W1CheckoutState) (b : β) : Prop :=
  ∃ order b', Orders session state b order b' ∧
    PaymentFails order (paymentOptions b' session order).1

/-- If the submission is answered with an order, a result of `confirm_order` carries it. -/
def CarriesOrder (session : CustomerSessionSnapshot) (state : Option W1CheckoutState) (b : β) :
    Prop :=
  ∀ order b', Orders session state b order b' →
    ∀ r, confirmResult session state b = .ok r → r.state.order = some order

variable {session : CustomerSessionSnapshot} {state : Option W1CheckoutState} {b b' : β}
  {order : CanonicalOrderProjection}

/-- After the submission, `confirm_order` is what becomes of the request for payment options. -/
theorem Orders.confirmResult_eq (h : Orders session state b order b') :
    ∃ st, state = some st ∧ confirmResult session state b =
      (exec W1CheckoutDomainBoundary.handle
        (W1CheckoutUX.orFailure (paymentOptions b' session order).1
          (W1CheckoutUX.presentPayment st order)) (paymentOptions b' session order).2).1 := by
  obtain ⟨st, c, rfl, hc, hsubmit⟩ := h
  refine ⟨st, rfl, ?_⟩
  have hprogram : W1CheckoutUX.confirmOrder session (some st) =
      .call (.submitOrder session c) fun answer =>
        W1CheckoutUX.orFailure answer (W1CheckoutUX.requestPayment session st) := by
    rw [W1CheckoutUX.confirmOrder, hc]
    rfl
  rw [confirmResult, hprogram, exec_call]
  show (exec _ (W1CheckoutUX.orFailure (submitOrder b session c).1 _) (submitOrder b session c).2).1 = _
  rw [hsubmit]
  rfl

/-- A request that fails ends in a failure. -/
theorem Orders.failure (h : Orders session state b order b')
    (hfails : PaymentFails order (paymentOptions b' session order).1) :
    ∃ code, confirmResult session state b = .ok (W1CheckoutUX.failure code) := by
  obtain ⟨st, -, hresult⟩ := h.confirmResult_eq
  rw [hresult]
  generalize paymentOptions b' session order = answered at hfails
  obtain ⟨(code | e) | options, b''⟩ := answered
  · exact ⟨code, rfl⟩
  · exact absurd hfails (by simp [PaymentFails])
  · refine ⟨.contextMismatch, ?_⟩
    have hother : options.orderRef ≠ order.orderRef := hfails
    simp only [W1CheckoutUX.orFailure, W1CheckoutUX.presentPayment, if_pos hother]
    rfl

/-- One that does not fail raises, or its result carries the order. -/
theorem Orders.carries (h : Orders session state b order b')
    (hfails : ¬ PaymentFails order (paymentOptions b' session order).1) {r : W1CheckoutResult}
    (hr : confirmResult session state b = .ok r) : r.state.order = some order := by
  obtain ⟨st, -, hresult⟩ := h.confirmResult_eq
  rw [hresult] at hr
  generalize paymentOptions b' session order = answered at hfails hr
  obtain ⟨(code | e) | options, b''⟩ := answered
  · exact absurd trivial hfails
  · cases hr
  · have hsame : ¬ options.orderRef ≠ order.orderRef := hfails
    obtain ⟨rows, hrows⟩ := W1CheckoutUX.paymentRows_ok options
    simp only [W1CheckoutUX.orFailure, W1CheckoutUX.presentPayment, if_neg hsame, hrows] at hr
    cases hr
    rfl

theorem carriesOrder_iff : CarriesOrder session state b ↔ ¬ LosesOrder session state b := by
  constructor
  · rintro hcarries ⟨order, b', horders, hfails⟩
    obtain ⟨code, hfailure⟩ := horders.failure hfails
    cases hcarries order b' horders _ hfailure
  · intro hnot order b' horders r hr
    exact horders.carries (fun hfails => hnot ⟨order, b', horders, hfails⟩) hr

end Confirmation

/-! ## Runs -/

/-- Actions that are answered within the checkout as it stands; the others browse, or begin a
checkout anew. -/
def W1Action.continues : W1Action → Bool
  | .help => true
  | .unknown => true
  | .orderConfirm => true
  | .pay _ => true
  | _ => false

def W1RuntimeConversationState.Carries (s : W1RuntimeConversationState)
    (order : CanonicalOrderProjection) : Prop :=
  ∃ st, s.checkout = some st ∧ st.order = some order

namespace W1World

variable {β : Type} [W1CheckoutDomainBoundary β] [CaseFolding] (router : W1ConversationRouter)

/-- The message confirms, the submission is answered with the order, and there is a result. -/
def Submitted (w : W1World β) (inbound : NormalizedInboundMessage)
    (order : CanonicalOrderProjection) : Prop :=
  (∃ st c, Confirms router w.conversation inbound st c) ∧
    (∃ b', Orders w.conversation.session w.conversation.checkout w.boundary order b') ∧
    ∃ r, confirmResult w.conversation.session w.conversation.checkout w.boundary = .ok r

/-- The message confirms, the submission is answered with the order, and the request for payment
options then fails. -/
def Fails (w : W1World β) (inbound : NormalizedInboundMessage) (order : CanonicalOrderProjection) :
    Prop :=
  (∃ st c, Confirms router w.conversation inbound st c) ∧
    ∃ b', Orders w.conversation.session w.conversation.checkout w.boundary order b' ∧
      PaymentFails order (paymentOptions b' w.conversation.session order).1

/-- A run never forgets a submitted order: it is in the checkout state after its submission, and if
asking for payment options failed, until a message leaves the checkout. -/
structure Remembers (w : W1World β) (messages : List NormalizedInboundMessage) : Prop where
  carried : ∀ before inbound after order, messages = before ++ inbound :: after →
    Submitted router (run router w before) inbound order →
      (step router (run router w before) inbound).conversation.Carries order
  kept : ∀ before inbound later after order, messages = before ++ inbound :: (later ++ after) →
    Fails router (run router w before) inbound order →
      (∀ m ∈ later, (W1Action.of (W1ConversationRouter.action m)).continues) →
        (run router w (before ++ inbound :: later)).conversation.Carries order

variable {router} {w : W1World β} {inbound : NormalizedInboundMessage}
  {order : CanonicalOrderProjection}

/-- A message that confirms leaves the state of the result of `confirm_order`. -/
theorem step_of_confirms {st : W1CheckoutState} {c : AuthoritativeOrderConfirmationSnapshot}
    (h : Confirms router w.conversation inbound st c) {r : W1CheckoutResult}
    (hr : confirmResult w.conversation.session w.conversation.checkout w.boundary = .ok r) :
    (step router w inbound).conversation.checkout = some r.state := by
  unfold step after
  unfold confirmResult at hr
  rw [h.route, ← h.state, exec_bind]
  generalize exec W1CheckoutDomainBoundary.handle
    (W1CheckoutUX.confirmOrder w.conversation.session w.conversation.checkout) w.boundary = outcome
    at hr
  obtain ⟨result, b'⟩ := outcome
  obtain rfl : result = .ok r := hr
  rfl

/-- A failure leaves no order. -/
theorem Fails.not_carries (h : Fails router w inbound order) {order' : CanonicalOrderProjection} :
    ¬ (step router w inbound).conversation.Carries order' := by
  obtain ⟨⟨st, c, hconfirms⟩, b', horders, hfails⟩ := h
  obtain ⟨code, hfailure⟩ := horders.failure hfails
  rintro ⟨st', hst', horder⟩
  obtain rfl := Option.some.inj ((step_of_confirms hconfirms hfailure).symm.trans hst')
  cases horder

/-- Where asking for payment options does not fail, the order is carried. -/
theorem Submitted.carries (h : Submitted router w inbound order)
    (hnot : ¬ ∃ order, Fails router w inbound order) :
    (step router w inbound).conversation.Carries order := by
  obtain ⟨⟨st, c, hconfirms⟩, ⟨b', horders⟩, r, hr⟩ := h
  have hfails : ¬ PaymentFails order (paymentOptions b' w.conversation.session order).1 :=
    fun hfails => hnot ⟨order, ⟨st, c, hconfirms⟩, b', horders, hfails⟩
  exact ⟨r.state, step_of_confirms hconfirms hr, horders.carries hfails hr⟩

variable (router)

theorem remembers_iff (w : W1World β) (messages : List NormalizedInboundMessage) :
    Remembers router w messages ↔
      History.Each (fun before inbound => ¬ ∃ order, Fails router (run router w before) inbound order)
        messages := by
  constructor
  · rintro h before inbound after rfl ⟨order, hfails⟩
    -- no message has followed yet, and the order is already gone
    have hkept := h.kept before inbound [] after order rfl hfails (by simp)
    rw [run_concat] at hkept
    exact hfails.not_carries hkept
  · intro hall
    refine ⟨fun before inbound after order heq hsubmitted => ?_, ?_⟩
    · exact hsubmitted.carries (hall before inbound after heq)
    · intro before inbound later after order heq hfails
      exact absurd ⟨order, hfails⟩ (hall before inbound (later ++ after) heq)

/-- A submitted order is remembered, by `confirm_order` and by runs of messages, exactly if asking
for payment options after a submission never fails. -/
theorem submittedOrder_remembered_iff :
    (∀ session state (b : β), CarriesOrder session state b ↔ ¬ LosesOrder session state b) ∧
    ∀ (w : W1World β) messages, Remembers router w messages ↔
      History.Each (fun before inbound => ¬ ∃ order, Fails router (run router w before) inbound order)
        messages :=
  ⟨fun _ _ _ => carriesOrder_iff, remembers_iff router⟩

end W1World

/-! ## Payment options that are unavailable -/

section Unavailable

open Fixture W1World

/-- Takeaway is chosen; the boundary will have no payment options. -/
def unavailable : W1World RecordingBoundary :=
  W1World.run ⟨true⟩ (start secureSession catalogWithCart {}
    { paymentError := some (.domainError .paymentOptionsUnavailable) }) [tap "service:takeaway"]

/-- The order is placed, and the state that the confirmation leaves does not have it. -/
theorem unavailable_losesOrder :
    ¬ CarriesOrder unavailable.conversation.session unavailable.conversation.checkout
      unavailable.boundary := by
  intro hcarries
  have horders : Orders unavailable.conversation.session unavailable.conversation.checkout
      unavailable.boundary (submittedOrder 1 (confirmation .takeaway).confirmationRef)
      { paymentError := some (.domainError .paymentOptionsUnavailable), submitCalls := 1 } :=
    ⟨{ stage := .orderReview, serviceMode := some .takeaway
       confirmation := some (confirmation .takeaway) }, confirmation .takeaway,
      by decide +kernel, rfl, rfl⟩
  have hresult := hcarries _ _ horders (W1CheckoutUX.failure .paymentOptionsUnavailable)
    (by decide +kernel)
  cases hresult

end Unavailable

end XbosCustomerChannel
