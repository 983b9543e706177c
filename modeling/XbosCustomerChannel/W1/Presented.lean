import XbosCustomerChannel.W1.Reviewed

/-!
# What payment is presented for

Two stages are about paying. A state in one of them carries an order that the boundary returned for the
state's confirmation, and payment options for that order; a state in any other carries neither. Which
fields go together is a fact about one message (`Carried`), where the order came from one about the
history (`HoldsOrdered`).
-/

namespace XbosCustomerChannel

open Effects Effects.Program Data

/-- The stages in which payment is presented. -/
def W1CheckoutStage.Pays (stage : W1CheckoutStage) : Prop :=
  stage = .paymentOptions ∨ stage = .methodSelected

/-- Accepted options offer some of the three methods, each once. -/
theorem W1CustomerSafePaymentOptions.offers (o : W1CustomerSafePaymentOptions) :
    o.permittedMethods ≠ [] ∧ o.permittedMethods.Nodup := by
  have haccepted := o.accepted
  unfold W1PaymentOptionsFields.postInit at haccepted
  split at haccepted
  · cases haccepted
  split at haccepted
  · cases haccepted
  split at haccepted
  · cases haccepted
  split at haccepted
  · cases haccepted
  split at haccepted
  · cases haccepted
  next hmethods =>
  split at haccepted
  · cases haccepted
  next hnodup =>
  exact ⟨(not_or.mp hmethods).1, not_not.mp hnodup⟩

/-! ## Which fields go together -/

/-- A state that presents payment has an order and options for it, one of which is the selected method
if one is selected; another state has none of these. -/
structure W1CheckoutState.Carried (st : W1CheckoutState) : Prop where
  presents : st.stage.Pays → ∃ order options, st.order = some order ∧
    st.paymentOptions = some options ∧ options.orderRef = order.orderRef
  selects : st.stage = .methodSelected → ∃ options method, st.paymentOptions = some options ∧
    st.selectedMethod = some method ∧ method ∈ options.permittedMethods
  otherwise : ¬ st.stage.Pays →
    st.order = none ∧ st.paymentOptions = none ∧ st.selectedMethod = none

theorem W1CheckoutState.Bare.carried {st : W1CheckoutState} (h : st.Bare) (hstage : ¬ st.stage.Pays) :
    st.Carried where
  presents hpays := absurd hpays hstage
  selects hselected := absurd (.inr hselected) hstage
  otherwise _ := by
    rw [h]
    exact ⟨rfl, rfl, rfl⟩

namespace W1CheckoutUX

theorem failure_carried (code : W1CheckoutFailureCode) : (failure code).state.Carried := by
  apply (failure_bare code).carried
  rintro (h | h) <;> cases h

theorem cartReview_carried (catalogSession : CatalogSession) :
    (cartReview catalogSession).state.Carried := by
  apply (cartReview_bare catalogSession).carried
  unfold cartReview
  split
  · rintro (h | h) <;> cases h
  · dsimp only
    split
    · rintro (h | h) <;> cases h
    · rintro (h | h) <;> cases h

theorem serviceMode_carried (catalogSession : CatalogSession) :
    (serviceMode catalogSession).state.Carried := by
  apply (serviceMode_bare catalogSession).carried
  unfold serviceMode
  dsimp only
  split
  · rintro (h | h) <;> cases h
  · rintro (h | h) <;> cases h

/-- A domain error of the boundary ends in a failure. -/
theorem orFailure_carried {α : Type} (answer : Except W1BoundaryFault α)
    {k : α → W1CallOf W1CheckoutResult} (hk : ∀ a, (k a).Yields fun r => r.state.Carried) :
    (orFailure answer k).Yields fun r => r.state.Carried := by
  unfold orFailure
  split
  · exact hk _
  · exact failure_carried _
  · trivial

theorem selectServiceMode_carried (session : CustomerSessionSnapshot) (catalogSession : CatalogSession)
    (mode : ServiceMode) :
    (selectServiceMode session catalogSession mode).Yields fun r => r.state.Carried := by
  unfold selectServiceMode
  split
  · exact failure_carried _
  split
  · exact failure_carried _
  apply Yields.bind
  intro answer
  apply orFailure_carried
  intro confirmation
  constructor
  · rintro (h | h) <;> cases h
  · intro h
    cases h
  · intro _
    exact ⟨rfl, rfl, rfl⟩

theorem presentPayment_carried (state : W1CheckoutState) (order : CanonicalOrderProjection)
    (options : W1CustomerSafePaymentOptions) :
    (presentPayment state order options).Yields fun r => r.state.Carried := by
  unfold presentPayment
  split
  · exact failure_carried _
  next hsame =>
  apply Yields.bind
  intro rows
  constructor
  · intro _
    exact ⟨order, options, rfl, rfl, not_not.mp hsame⟩
  · intro h
    cases h
  · intro h
    exact absurd (.inl rfl) h

theorem confirmOrder_carried (session : CustomerSessionSnapshot) (state : Option W1CheckoutState) :
    (confirmOrder session state).Yields fun r => r.state.Carried := by
  unfold confirmOrder
  split
  · exact failure_carried _
  next st =>
  split
  · exact failure_carried _
  apply Yields.bind
  intro submitted
  apply orFailure_carried
  intro order
  apply Yields.bind
  intro answer
  exact orFailure_carried answer (presentPayment_carried st order)

/-- A method is selected where options are presented, and of these. -/
theorem selectPaymentMethod_carried {state : Option W1CheckoutState}
    (hstate : ∀ st, state = some st → st.Carried) (method : PaymentMethodCode) :
    (selectPaymentMethod state method).state.Carried := by
  unfold selectPaymentMethod
  split
  · exact failure_carried _
  next st =>
  split
  · exact failure_carried _
  next options hoptions =>
  split
  · exact failure_carried _
  next hmethod =>
  split
  · exact failure_carried _
  have hcarried := hstate st rfl
  have hpays : st.stage.Pays := by
    by_contra hnot
    rw [(hcarried.otherwise hnot).2.1] at hoptions
    cases hoptions
  obtain ⟨order, options', horder, hoptions', hsame⟩ := hcarried.presents hpays
  constructor
  · intro _
    exact ⟨order, options', horder, hoptions', hsame⟩
  · intro _
    exact ⟨options, method, hoptions, rfl, not_not.mp hmethod⟩
  · intro h
    exact absurd (.inr rfl) h

end W1CheckoutUX

/-- Every checkout state of a result is carried well. -/
def W1ConversationResult.Carried (r : W1ConversationResult) : Prop :=
  ∀ st, r.checkout = some st → st.Carried

theorem W1ConversationResult.carried_of_none {r : W1ConversationResult} (h : r.checkout = none) :
    r.Carried := by
  intro st hst
  rw [h] at hst
  cases hst

section Routing

open W1ConversationRouter

variable (router : W1ConversationRouter) {session : CustomerSessionSnapshot}
  {catalogSession : CatalogSession} {navigation : W1NavigationCursor}

theorem withCheckout_carried {result : W1CallOf W1CheckoutResult}
    (h : result.Yields fun r => r.state.Carried) :
    (router.withCheckout catalogSession navigation result).Yields W1ConversationResult.Carried := by
  unfold withCheckout
  split
  · apply Yields.bind_of h
    rintro r hr st ⟨⟩
    exact hr
  · exact W1ConversationResult.carried_of_none (unsupported_checkout catalogSession)

/-- Every answer carries a checkout state well, if the one before it was. -/
theorem answer_carried {state : Option W1CheckoutState} (hstate : ∀ st, state = some st → st.Carried)
    (action : W1Action) :
    (router.answer session catalogSession navigation state action).Yields
      W1ConversationResult.Carried := by
  cases action with
  | root => exact W1ConversationResult.carried_of_none (root_checkout _)
  | help => exact hstate
  | back => exact W1ConversationResult.carried_of_none (back_checkout _ _)
  | «section» => exact W1ConversationResult.carried_of_none (sectionView_checkout _ _)
  | item => exact W1ConversationResult.carried_of_none (itemView_checkout _ _)
  | quantity => exact W1ConversationResult.carried_of_none (quantityView_checkout _ _ _)
  | add => exact W1ConversationResult.carried_of_none (add_checkout _ _)
  | cart => exact withCheckout_carried router (W1CheckoutUX.cartReview_carried _)
  | checkout => exact withCheckout_carried router (W1CheckoutUX.serviceMode_carried _)
  | orderChange => exact withCheckout_carried router (W1CheckoutUX.cartReview_carried _)
  | unknown => exact hstate
  | service mode =>
      unfold answer
      dsimp only
      split
      · exact W1ConversationResult.carried_of_none (unsupported_checkout _)
      · exact withCheckout_carried router (W1CheckoutUX.selectServiceMode_carried _ _ _)
  | orderConfirm => exact withCheckout_carried router (W1CheckoutUX.confirmOrder_carried _ _)
  | pay method =>
      unfold answer
      dsimp only
      split
      · exact W1ConversationResult.carried_of_none (unsupported_checkout _)
      · exact withCheckout_carried router (W1CheckoutUX.selectPaymentMethod_carried hstate _)

end Routing

/-! ## Runs -/

namespace W1World

variable {β : Type} [W1CheckoutDomainBoundary β] {T : List (W1BoundaryCall β)}

/-- The order of a checkout state was returned for its confirmation by a call of the history. -/
def HoldsOrdered (T : List (W1BoundaryCall β)) (s : W1RuntimeConversationState) : Prop :=
  ∀ st order, s.checkout = some st → st.order = some order →
    ∃ c, st.confirmation = some c ∧ ∃ e ∈ T, e.submits = some c ∧ e.ordered = some order

theorem HoldsOrdered.keeps {s s' : W1RuntimeConversationState} (h : HoldsOrdered T s)
    (hkeeps : Keeps s s') (C : List (W1BoundaryCall β)) : HoldsOrdered (T ++ C) s' := by
  intro st' order hst' horder
  rcases hkeeps.checkout st' hst' with hbare | ⟨st, hst, hconfirmation, hsame, -⟩
  · rw [hbare] at horder
    cases horder
  · obtain ⟨c, hc, e, he, hreturned⟩ := h st order hst (hsame.symm.trans horder)
    exact ⟨c, hconfirmation.trans hc, e, List.mem_append_left _ he, hreturned⟩

variable [CaseFolding] {router : W1ConversationRouter} {w w' : W1World β}
  {inbound : NormalizedInboundMessage}

theorem HoldsOrdered.effect {C : List (W1BoundaryCall β)} (h : HoldsOrdered T w.conversation)
    (heffect : Effect router w inbound C w') : HoldsOrdered (T ++ C) w'.conversation := by
  cases heffect with
  | quiet _ hkeeps => exact h.keeps hkeeps []
  | reviewed mode c e _ he hc hw' =>
      intro st order hst horder
      rw [hw'] at hst
      obtain rfl := Option.some.inj hst
      cases horder
  | unreviewed mode e _ he hc hkeeps => exact h.keeps hkeeps [e]
  | refused st c hconfirms e _ he ho hkeeps => exact h.keeps hkeeps [e]
  | lost st c hconfirms order e e' _ he ho he' hbroke hbare hsession =>
      intro st' order' hst' horder'
      rw [hbare st' hst'] at horder'
      cases horder'
  | brokeOff st c hconfirms order e e' _ he ho he' hbroke hw' =>
      apply h.keeps
      rw [hw']
      exact .refl _
  | presented st c hconfirms order options e e' _ he ho he' hbroke hw' =>
      -- the order that is presented was submitted by this message
      intro st' order' hst' horder'
      rw [hw'] at hst'
      obtain rfl := Option.some.inj hst'
      obtain rfl := Option.some.inj horder'
      refine ⟨c, rfl, e, List.mem_append_right _ List.mem_cons_self, ?_, ho⟩
      rw [he]
      rfl

variable (router)

theorem step_carried (w : W1World β) (inbound : NormalizedInboundMessage)
    (h : ∀ st, w.conversation.checkout = some st → st.Carried) :
    ∀ st, (step router w inbound).conversation.checkout = some st → st.Carried := by
  have hroute : (w.conversation.route router inbound).Yields W1ConversationResult.Carried := by
    apply Yields.bind
    intro _
    exact answer_carried router h _
  exact step_of_yields (Q := fun s => ∀ st, s.checkout = some st → st.Carried) router hroute
    (fun _ hcarried => hcarried) h

/-- What a checkout state presents is about an order that was placed in the conversation. -/
def PaymentOf (T : List (W1BoundaryCall β)) (s : W1RuntimeConversationState) : Prop :=
  ∀ st, s.checkout = some st →
    (st.stage.Pays → ∃ c order options, st.confirmation = some c ∧ st.order = some order ∧
      st.paymentOptions = some options ∧ (∃ e ∈ T, e.submits = some c ∧ e.ordered = some order) ∧
      options.orderRef = order.orderRef ∧ options.permittedMethods ≠ [] ∧
      options.permittedMethods.Nodup ∧
      (∀ method ∈ options.permittedMethods,
        method ∈ [PaymentMethodCode.payAtCounter, .mtnMobileMoney, .orangeMoney]) ∧
      (st.stage = .methodSelected →
        ∃ method ∈ options.permittedMethods, st.selectedMethod = some method)) ∧
    (¬ st.stage.Pays → st.order = none ∧ st.paymentOptions = none ∧ st.selectedMethod = none)

omit [CaseFolding] in
theorem HoldsOrdered.paymentOf {s : W1RuntimeConversationState} (h : HoldsOrdered T s)
    (hcarried : ∀ st, s.checkout = some st → st.Carried) : PaymentOf T s := by
  intro st hst
  have hst' := hcarried st hst
  refine ⟨fun hpays => ?_, hst'.otherwise⟩
  obtain ⟨order, options, horder, hoptions, hsame⟩ := hst'.presents hpays
  obtain ⟨c, hc, hreturned⟩ := h st order hst horder
  refine ⟨c, order, options, hc, horder, hoptions, hreturned, hsame, options.offers.1,
    options.offers.2, fun method hmethod => options.permitted hmethod, fun hselected => ?_⟩
  obtain ⟨options', method, hoptions', hmethod, hpermitted⟩ := hst'.selects hselected
  obtain rfl : options = options' := Option.some.inj (hoptions.symm.trans hoptions')
  exact ⟨method, hpermitted, hmethod⟩

theorem run_holdsOrdered (session : CustomerSessionSnapshot) (catalogSession : CatalogSession)
    (navigation : W1NavigationCursor) (boundary : β) (messages : List NormalizedInboundMessage) :
    HoldsOrdered (trace router (start session catalogSession navigation boundary) messages)
      (run router (start session catalogSession navigation boundary) messages).conversation := by
  induction messages using List.reverseRecOn with
  | nil =>
      intro st order hst
      cases hst
  | append_singleton messages inbound ih =>
      rw [run_concat, trace_concat]
      exact ih.effect (effect router _ inbound)

theorem run_carried (session : CustomerSessionSnapshot) (catalogSession : CatalogSession)
    (navigation : W1NavigationCursor) (boundary : β) (messages : List NormalizedInboundMessage)
    (st : W1CheckoutState)
    (hst : (run router (start session catalogSession navigation boundary)
      messages).conversation.checkout = some st) : st.Carried := by
  induction messages using List.reverseRecOn generalizing st with
  | nil => cases hst
  | append_singleton messages inbound ih =>
      rw [run_concat] at hst
      exact step_carried router _ inbound ih st hst

/-- In every run the checkout state presents payment for an order placed in it, and for no other. -/
theorem payment_ofPlacedOrder (session : CustomerSessionSnapshot) (catalogSession : CatalogSession)
    (navigation : W1NavigationCursor) (boundary : β) (messages : List NormalizedInboundMessage) :
    PaymentOf (trace router (start session catalogSession navigation boundary) messages)
      (run router (start session catalogSession navigation boundary) messages).conversation := by
  have hheld := run_holdsOrdered router session catalogSession navigation boundary messages
  apply hheld.paymentOf
  exact run_carried router session catalogSession navigation boundary messages

end W1World

end XbosCustomerChannel
