import XbosCustomerChannel.Data.History
import XbosCustomerChannel.W1.Run

/-!
# Reviews and submissions

The confirmation that the checkout state holds is the one of the latest review, for the cart as it
is; so that is what is submitted. How often it is submitted is another matter: a submission that has
succeeded leaves the confirmation in place, in the state that presents the payment options and when
asking for them breaks off.
-/

namespace XbosCustomerChannel

open Effects Data

namespace W1World

variable {β : Type} [W1CheckoutDomainBoundary β]

/-! ## The latest review -/

/-- The call returned a review. -/
def isReview (e : W1BoundaryCall β) : Bool := e.reviewed.isSome

/-- The latest review of a history was of this catalog session and returned this confirmation. -/
def ReviewedAs (T : List (W1BoundaryCall β)) (catalogSession : CatalogSession)
    (c : AuthoritativeOrderConfirmationSnapshot) : Prop :=
  ∃ e session mode, History.last? isReview T = some e ∧
    e.op = .prepareOrderReview session catalogSession mode ∧ e.reviewed = some c

/-- A call submits the confirmation of the latest review, and the cart is still the reviewed one. -/
def SubmitsReviewed (before : List (W1BoundaryCall β)) (e : W1BoundaryCall β) : Prop :=
  ∀ c, e.submits = some c → ReviewedAs before e.conversation.catalogSession c

variable {T : List (W1BoundaryCall β)} {e e' : W1BoundaryCall β} {w w' : W1World β}

theorem reviewed_of_submit {session : CustomerSessionSnapshot}
    {c : AuthoritativeOrderConfirmationSnapshot} (h : e.op = .submitOrder session c) :
    e.reviewed = none := by
  simp only [W1BoundaryCall.reviewed, h]

theorem reviewed_of_payment {session : CustomerSessionSnapshot} {order : CanonicalOrderProjection}
    (h : e.op = .paymentOptions session order) : e.reviewed = none := by
  simp only [W1BoundaryCall.reviewed, h]

omit [W1CheckoutDomainBoundary β] in
theorem submits_of_payment {session : CustomerSessionSnapshot} {order : CanonicalOrderProjection}
    (h : e.op = .paymentOptions session order) : e.submits = none := by
  simp only [W1BoundaryCall.submits, h]

theorem last?_of_not_review (h : e.reviewed = none) :
    History.last? isReview (T ++ [e]) = History.last? isReview T := by
  rw [History.last?_concat, isReview, h]
  rfl

theorem last?_of_review {c : AuthoritativeOrderConfirmationSnapshot} (h : e.reviewed = some c) :
    History.last? isReview (T ++ [e]) = some e := by
  rw [History.last?_concat, isReview, h]
  rfl

/-- A confirmation that the checkout state holds is that of the latest review, for this cart. -/
def HoldsReviewed (T : List (W1BoundaryCall β)) (s : W1RuntimeConversationState) : Prop :=
  ∀ st c, s.checkout = some st → st.confirmation = some c → ReviewedAs T s.catalogSession c

theorem HoldsReviewed.keeps {s s' : W1RuntimeConversationState} (h : HoldsReviewed T s)
    (hkeeps : Keeps s s') {T' : List (W1BoundaryCall β)}
    (hlast : History.last? isReview T' = History.last? isReview T) : HoldsReviewed T' s' := by
  intro st' c hst' hc
  rcases hkeeps.checkout st' hst' with hbare | ⟨st, hst, hconfirmation, -, hcatalog⟩
  · rw [hbare] at hc
    cases hc
  · unfold ReviewedAs
    rw [hlast, hcatalog]
    exact h st c hst (hconfirmation.symm.trans hc)

variable [CaseFolding] {router : W1ConversationRouter} {inbound : NormalizedInboundMessage}

/-- After a message, the confirmation held is still that of the latest review. -/
theorem HoldsReviewed.effect {C : List (W1BoundaryCall β)} (h : HoldsReviewed T w.conversation)
    (heffect : Effect router w inbound C w') : HoldsReviewed (T ++ C) w'.conversation := by
  cases heffect with
  | quiet _ hkeeps => exact h.keeps hkeeps (by rw [List.append_nil])
  | reviewed mode c e _ he hc hw' =>
      intro st c' hst hc'
      rw [hw'] at hst ⊢
      obtain rfl := Option.some.inj hst
      obtain rfl := Option.some.inj hc'
      exact ⟨e, _, mode, last?_of_review hc, by rw [he], hc⟩
  | unreviewed mode e _ he hc hkeeps => exact h.keeps hkeeps (last?_of_not_review hc)
  | refused st c hconfirms e _ he ho hkeeps =>
      exact h.keeps hkeeps (last?_of_not_review (reviewed_of_submit (congrArg _ he)))
  | lost st c hconfirms order e e' _ he ho he' hbroke hbare hsession =>
      intro st' c' hst' hc'
      rw [hbare st' hst'] at hc'
      cases hc'
  | brokeOff st c hconfirms order e e' _ he ho he' hbroke hw' =>
      rw [hw', List.append_cons]
      refine h.keeps (.refl _) ?_
      rw [last?_of_not_review (reviewed_of_payment he'),
        last?_of_not_review (reviewed_of_submit (congrArg _ he))]
  | presented st c hconfirms order options e e' _ he ho he' hbroke hw' =>
      -- the state that presents the options has the confirmation that was submitted
      intro st' c' hst' hc'
      rw [hw'] at hst' ⊢
      obtain rfl := Option.some.inj hst'
      obtain rfl := Option.some.inj hc'
      unfold ReviewedAs
      rw [List.append_cons, last?_of_not_review (reviewed_of_payment he'),
        last?_of_not_review (reviewed_of_submit (congrArg _ he))]
      exact h st c hconfirms.state hconfirms.confirmation

/-- What a message submits is what the checkout state holds. -/
theorem HoldsReviewed.submits {C : List (W1BoundaryCall β)} (h : HoldsReviewed T w.conversation)
    (heffect : Effect router w inbound C w') (hT : History.Each SubmitsReviewed T) :
    History.Each SubmitsReviewed (T ++ C) := by
  have hsubmit {st : W1CheckoutState} {c : AuthoritativeOrderConfirmationSnapshot}
      (hconfirms : Confirms router w.conversation inbound st c) {e : W1BoundaryCall β}
      (he : e = ⟨w.conversation, .submitOrder w.conversation.session c, w.boundary⟩) :
      History.Each SubmitsReviewed (T ++ [e]) := by
    refine History.each_concat.mpr ⟨hT, fun c' hc' => ?_⟩
    subst he
    obtain rfl := Option.some.inj hc'
    exact h st c hconfirms.state hconfirms.confirmation
  have hpayment {e e' : W1BoundaryCall β} (hT : History.Each SubmitsReviewed (T ++ [e]))
      {order : CanonicalOrderProjection}
      (he' : e'.op = .paymentOptions w.conversation.session order) :
      History.Each SubmitsReviewed (T ++ [e, e']) := by
    rw [List.append_cons]
    refine History.each_concat.mpr ⟨hT, fun c' hc' => ?_⟩
    rw [submits_of_payment he'] at hc'
    cases hc'
  cases heffect with
  | quiet _ hkeeps => rwa [List.append_nil]
  | reviewed mode c e _ he hc hw' =>
      refine History.each_concat.mpr ⟨hT, fun c' hc' => ?_⟩
      subst he
      cases hc'
  | unreviewed mode e _ he hc hkeeps =>
      refine History.each_concat.mpr ⟨hT, fun c' hc' => ?_⟩
      subst he
      cases hc'
  | refused st c hconfirms e _ he ho hkeeps => exact hsubmit hconfirms he
  | lost st c hconfirms order e e' _ he ho he' => exact hpayment (hsubmit hconfirms he) he'
  | brokeOff st c hconfirms order e e' _ he ho he' => exact hpayment (hsubmit hconfirms he) he'
  | presented st c hconfirms order options e e' _ he ho he' =>
      exact hpayment (hsubmit hconfirms he) he'

variable (router)

/-- A conversation that starts to be routed: no checkout state, nothing called. -/
def start (session : CustomerSessionSnapshot) (catalogSession : CatalogSession)
    (navigation : W1NavigationCursor) (boundary : β) : W1World β :=
  ⟨{ session, catalogSession, navigation }, boundary⟩

theorem run_holdsReviewed (session : CustomerSessionSnapshot) (catalogSession : CatalogSession)
    (navigation : W1NavigationCursor) (boundary : β) (messages : List NormalizedInboundMessage) :
    HoldsReviewed (trace router (start session catalogSession navigation boundary) messages)
      (run router (start session catalogSession navigation boundary) messages).conversation := by
  induction messages using List.reverseRecOn with
  | nil =>
      intro st c hst
      cases hst
  | append_singleton messages inbound ih =>
      rw [run_concat, trace_concat]
      exact ih.effect (effect router _ inbound)

/-- Whatever is submitted in a run is the confirmation of the latest review, and the cart it was
made for is the current one. -/
theorem submits_reviewed (session : CustomerSessionSnapshot) (catalogSession : CatalogSession)
    (navigation : W1NavigationCursor) (boundary : β) (messages : List NormalizedInboundMessage) :
    History.Each SubmitsReviewed
      (trace router (start session catalogSession navigation boundary) messages) := by
  induction messages using List.reverseRecOn with
  | nil => exact History.each_nil
  | append_singleton messages inbound ih =>
      rw [trace_concat]
      have hholds := run_holdsReviewed router session catalogSession navigation boundary messages
      exact hholds.submits (effect router _ inbound) ih

end W1World

end XbosCustomerChannel
