import Mathlib.Data.List.DropRight
import XbosCustomerChannel.W1.Conversation

/-!
# Runs of inbound messages

Messages of one conversation, each routed with the state that the one before it left; a message that
raises leaves the state as it was. The calls of the boundary are kept with the conversation they were
made in. What a message can do is said once (`RouteShape`).
-/

namespace XbosCustomerChannel

open Effects Data

/-- What is carried from one message to the next. -/
structure W1RuntimeConversationState where
  session : CustomerSessionSnapshot
  catalogSession : CatalogSession
  navigation : W1NavigationCursor := {}
  checkout : Option W1CheckoutState := none
  deriving DecidableEq

/-- The state after a result. -/
def W1RuntimeConversationState.next (s : W1RuntimeConversationState) (r : W1ConversationResult) :
    W1RuntimeConversationState :=
  ⟨s.session, r.catalogSession, r.navigation, r.checkout⟩

/-- The routing of a message in a state. -/
def W1RuntimeConversationState.route [CaseFolding] (router : W1ConversationRouter)
    (s : W1RuntimeConversationState) (inbound : NormalizedInboundMessage) :
    W1CallOf W1ConversationResult :=
  router.route s.session s.catalogSession s.navigation inbound s.checkout

/-! ## What a message can do -/

section Shape

variable [CaseFolding] (router : W1ConversationRouter)

/-- The message confirms the confirmation that the checkout state holds. -/
structure Confirms (s : W1RuntimeConversationState) (inbound : NormalizedInboundMessage)
    (st : W1CheckoutState) (c : AuthoritativeOrderConfirmationSnapshot) : Prop where
  routed : router.checkout = true
  server : W1ConversationRouter.serverSession s.session = true
  action : W1Action.of (W1ConversationRouter.action inbound) = .orderConfirm
  state : s.checkout = some st
  confirmation : st.confirmation = some c

/-- The result of the router for a result of the checkout. -/
def W1RuntimeConversationState.finish (s : W1RuntimeConversationState) (r : W1CheckoutResult) :
    W1CallOf W1ConversationResult :=
  pure (W1ConversationRouter.fromCheckout r s.catalogSession s.navigation)

/-- The programs that routing a message can be. -/
inductive RouteShape (s : W1RuntimeConversationState) (inbound : NormalizedInboundMessage) :
    W1CallOf W1ConversationResult → Prop
  | refused (e : Exc) : RouteShape s inbound (.raise e)
  | kept (r : W1ConversationResult) (hcatalog : r.catalogSession = s.catalogSession)
      (hcheckout : r.checkout = s.checkout) : RouteShape s inbound (.done r)
  | left (r : W1ConversationResult) (hbare : ∀ st, r.checkout = some st → st.Bare) :
      RouteShape s inbound (.done r)
  | selected (st : W1CheckoutState) (method : PaymentMethodCode) (r : W1ConversationResult)
      (hst : s.checkout = some st) (hcatalog : r.catalogSession = s.catalogSession)
      (hcheckout : r.checkout =
        some { st with stage := .methodSelected, selectedMethod := some method }) :
      RouteShape s inbound (.done r)
  | reviewing (mode : ServiceMode) : RouteShape s inbound
      (.call (.prepareOrderReview s.session s.catalogSession mode) fun answer =>
        W1CheckoutUX.orFailure answer (W1CheckoutUX.presentReview mode) >>= s.finish)
  | confirming (st : W1CheckoutState) (c : AuthoritativeOrderConfirmationSnapshot)
      (hconfirms : Confirms router s inbound st c) : RouteShape s inbound
      (.call (.submitOrder s.session c) fun answer =>
        W1CheckoutUX.orFailure answer (W1CheckoutUX.requestPayment s.session st) >>= s.finish)

variable {router}

/-- An action of the checkout is answered by it, or the router has none. -/
theorem RouteShape.withCheckout {s : W1RuntimeConversationState} {inbound : NormalizedInboundMessage}
    {result : W1CallOf W1CheckoutResult}
    (h : router.checkout = true → RouteShape router s inbound (result >>= s.finish)) :
    RouteShape router s inbound (router.withCheckout s.catalogSession s.navigation result) := by
  unfold W1ConversationRouter.withCheckout
  split
  · next hcheckout => exact h hcheckout
  · exact .left _ (by simp)

theorem RouteShape.bare {s : W1RuntimeConversationState} {inbound : NormalizedInboundMessage}
    {result : W1CheckoutResult} (hbare : result.state.Bare) :
    RouteShape router s inbound (s.finish result) := by
  refine .left _ fun st hst => ?_
  obtain rfl := Option.some.inj hst
  exact hbare

/-- Routing a message is one of these programs. -/
theorem route_shape (s : W1RuntimeConversationState) (inbound : NormalizedInboundMessage) :
    RouteShape router s inbound (s.route router inbound) := by
  unfold W1RuntimeConversationState.route W1ConversationRouter.route Program.raiseIf
  split
  · exact .refused _
  next hserver =>
  rw [Program.done_bind]
  have hserver : W1ConversationRouter.serverSession s.session = true := by simpa using hserver
  -- the boundary is reached by two actions, a service mode and a confirmation
  cases haction : W1Action.of (W1ConversationRouter.action inbound) with
  | root => exact .left _ (by simp)
  | help => exact .kept _ rfl rfl
  | back => exact .left _ (by simp)
  | «section» sectionRef => exact .left _ (by simp)
  | item itemRef => exact .left _ (by simp)
  | quantity value => exact .left _ (by simp)
  | add => exact .left _ (by simp)
  | cart => exact .withCheckout fun _ => .bare (W1CheckoutUX.cartReview_bare _)
  | checkout => exact .withCheckout fun _ => .bare (W1CheckoutUX.serviceMode_bare _)
  | orderChange => exact .withCheckout fun _ => .bare (W1CheckoutUX.cartReview_bare _)
  | unknown => exact .kept _ rfl rfl
  | service mode =>
      unfold W1ConversationRouter.answer
      dsimp only
      split
      · exact .left _ (by simp)
      next mode _ =>
      refine .withCheckout fun _ => ?_
      unfold W1CheckoutUX.selectServiceMode
      split
      · exact .bare (W1CheckoutUX.failure_bare _)
      split
      · exact .bare (W1CheckoutUX.failure_bare _)
      exact .reviewing mode
  | orderConfirm =>
      refine .withCheckout fun hcheckout => ?_
      unfold W1CheckoutUX.confirmOrder
      split
      · exact .bare (W1CheckoutUX.failure_bare _)
      next st hst =>
      split
      · exact .bare (W1CheckoutUX.failure_bare _)
      next c hc => exact .confirming st c ⟨hcheckout, hserver, haction, hst, hc⟩
  | pay method =>
      unfold W1ConversationRouter.answer
      dsimp only
      split
      · exact .left _ (by simp)
      next method _ =>
      refine .withCheckout fun _ => ?_
      rcases W1CheckoutUX.selectPaymentMethod_cases s.checkout method with ⟨st, hst, hselected⟩ | hbare
      · exact .selected st method _ hst rfl (congrArg some hselected)
      · exact .bare hbare

end Shape

section Confirms

variable [CaseFolding] {router : W1ConversationRouter} {s : W1RuntimeConversationState}
  {inbound : NormalizedInboundMessage} {st : W1CheckoutState}
  {c : AuthoritativeOrderConfirmationSnapshot}

/-- A message that confirms is routed to `confirm_order`. -/
theorem Confirms.route (h : Confirms router s inbound st c) :
    s.route router inbound = W1CheckoutUX.confirmOrder s.session (some st) >>= s.finish := by
  unfold W1RuntimeConversationState.route W1ConversationRouter.route Program.raiseIf
  rw [h.server, if_neg (by simp), Program.done_bind, h.action, W1ConversationRouter.answer,
    W1ConversationRouter.withCheckout, h.routed, if_pos rfl, h.state]
  rfl

theorem Confirms.submits (h : Confirms router s inbound st c) :
    ∃ k, s.route router inbound = .call (.submitOrder s.session c) k := by
  rw [h.route, W1CheckoutUX.confirmOrder, h.confirmation]
  exact ⟨_, rfl⟩

end Confirms

/-! ## Runs -/

/-- A conversation and the boundary behind it. -/
structure W1World (β : Type) where
  conversation : W1RuntimeConversationState
  boundary : β

/-- A call of the boundary: the conversation it was made in, and the boundary that answered. -/
structure W1BoundaryCall (β : Type) where
  conversation : W1RuntimeConversationState
  op : W1CheckoutOp
  boundary : β

namespace W1World

variable {β : Type} [W1CheckoutDomainBoundary β]

omit [W1CheckoutDomainBoundary β] in
/-- The world after an outcome of routing. -/
def settle (w : W1World β) : Except Exc W1ConversationResult × β → W1World β
  | (.ok r, b) => ⟨w.conversation.next r, b⟩
  | (.error _, b) => { w with boundary := b }

/-- The world after a program of the router. -/
def after (w : W1World β) (p : W1CallOf W1ConversationResult) : W1World β :=
  w.settle (exec W1CheckoutDomainBoundary.handle p w.boundary)

/-- The calls a program of the router makes. -/
def callsOf (w : W1World β) (p : W1CallOf W1ConversationResult) : List (W1BoundaryCall β) :=
  (issued W1CheckoutDomainBoundary.handle p w.boundary).map fun o => ⟨w.conversation, o.1, o.2⟩

variable [CaseFolding] (router : W1ConversationRouter)

/-- One message. -/
def step (w : W1World β) (inbound : NormalizedInboundMessage) : W1World β :=
  w.after (w.conversation.route router inbound)

def calls (w : W1World β) (inbound : NormalizedInboundMessage) : List (W1BoundaryCall β) :=
  w.callsOf (w.conversation.route router inbound)

def run (w : W1World β) (messages : List NormalizedInboundMessage) : W1World β :=
  messages.foldl (step router) w

/-- The calls of a run. -/
def trace (w : W1World β) : List NormalizedInboundMessage → List (W1BoundaryCall β)
  | [] => []
  | inbound :: messages => calls router w inbound ++ trace (step router w inbound) messages

/-- What every result of a message gives the conversation, and the conversation has already, it has
after the message. -/
theorem step_of_yields {P : W1ConversationResult → Prop} {Q : W1RuntimeConversationState → Prop}
    {w : W1World β} {inbound : NormalizedInboundMessage}
    (hroute : (w.conversation.route router inbound).Yields P)
    (hnext : ∀ r, P r → Q (w.conversation.next r)) (hkept : Q w.conversation) :
    Q (step router w inbound).conversation := by
  unfold step after
  cases hexec : exec W1CheckoutDomainBoundary.handle (w.conversation.route router inbound)
    w.boundary with
  | mk answer b =>
      cases answer with
      | ok r => exact hnext r (hroute.of_exec _ hexec)
      | error e => exact hkept

theorem run_concat (w : W1World β) (messages : List NormalizedInboundMessage)
    (inbound : NormalizedInboundMessage) :
    run router w (messages ++ [inbound]) = step router (run router w messages) inbound := by
  simp [run]

theorem trace_append (w : W1World β) (messages messages' : List NormalizedInboundMessage) :
    trace router w (messages ++ messages') =
      trace router w messages ++ trace router (run router w messages) messages' := by
  induction messages generalizing w with
  | nil => rfl
  | cons inbound messages ih =>
      rw [List.cons_append, trace, ih, trace, List.append_assoc]
      rfl

theorem trace_concat (w : W1World β) (messages : List NormalizedInboundMessage)
    (inbound : NormalizedInboundMessage) :
    trace router w (messages ++ [inbound]) =
      trace router w messages ++ calls router (run router w messages) inbound := by
  rw [trace_append, trace, trace, List.append_nil]

end W1World

/-! ## What a message does -/

namespace W1BoundaryCall

variable {β : Type} [W1CheckoutDomainBoundary β] (e : W1BoundaryCall β)

open W1CheckoutDomainBoundary (prepareOrderReview submitOrder paymentOptions)

/-- The confirmation the call returned, if it prepared a review. -/
def reviewed : Option AuthoritativeOrderConfirmationSnapshot :=
  match e.op with
  | .prepareOrderReview session catalogSession mode =>
      (prepareOrderReview e.boundary session catalogSession mode).1.toOption
  | _ => none

omit [W1CheckoutDomainBoundary β] in
/-- The confirmation the call submits, if it does. -/
def submits : Option AuthoritativeOrderConfirmationSnapshot :=
  match e.op with
  | .submitOrder _ c => some c
  | _ => none

/-- The order the call returned, if it submitted one. -/
def ordered : Option CanonicalOrderProjection :=
  match e.op with
  | .submitOrder session c => (submitOrder e.boundary session c).1.toOption
  | _ => none

/-- The call asked for payment options and raised something other than a domain error. -/
def brokeOff : Bool :=
  match e.op with
  | .paymentOptions session order =>
      match (paymentOptions e.boundary session order).1 with
      | .error (.other _) => true
      | _ => false
  | _ => false

variable {s : W1RuntimeConversationState} {session : CustomerSessionSnapshot} {b b' : β}

theorem reviewed_eq {catalogSession : CatalogSession} {mode : ServiceMode}
    {answer : Except W1BoundaryFault AuthoritativeOrderConfirmationSnapshot}
    (h : prepareOrderReview b session catalogSession mode = (answer, b')) :
    reviewed ⟨s, .prepareOrderReview session catalogSession mode, b⟩ = answer.toOption := by
  show (prepareOrderReview b session catalogSession mode).1.toOption = answer.toOption
  rw [h]

theorem ordered_eq {c : AuthoritativeOrderConfirmationSnapshot}
    {answer : Except W1BoundaryFault CanonicalOrderProjection}
    (h : submitOrder b session c = (answer, b')) :
    ordered ⟨s, .submitOrder session c, b⟩ = answer.toOption := by
  show (submitOrder b session c).1.toOption = answer.toOption
  rw [h]

theorem brokeOff_eq {order : CanonicalOrderProjection}
    {answer : Except W1BoundaryFault W1CustomerSafePaymentOptions} :
    paymentOptions b session order = (answer, b') →
      brokeOff ⟨s, .paymentOptions session order, b⟩ =
        match answer with
        | .error (.other _) => true
        | _ => false := by
  intro h
  simp only [brokeOff, h]

end W1BoundaryCall

/-- Of a confirmation and an order, `s'` carries none, or those of `s` with its catalog session. -/
structure Keeps (s s' : W1RuntimeConversationState) : Prop where
  session : s'.session = s.session
  checkout : ∀ st', s'.checkout = some st' → st'.Bare ∨
    ∃ st, s.checkout = some st ∧ st'.confirmation = st.confirmation ∧ st'.order = st.order ∧
      s'.catalogSession = s.catalogSession

theorem Keeps.refl (s : W1RuntimeConversationState) : Keeps s s :=
  ⟨rfl, fun st hst => .inr ⟨st, hst, rfl, rfl, rfl⟩⟩

namespace W1World

variable {β : Type} [W1CheckoutDomainBoundary β] [CaseFolding] (router : W1ConversationRouter)

/-- What a message does: the calls it makes and the world it leaves. -/
inductive Effect (w : W1World β) (inbound : NormalizedInboundMessage) :
    List (W1BoundaryCall β) → W1World β → Prop
  | quiet (w' : W1World β) (hkeeps : Keeps w.conversation w'.conversation) : Effect w inbound [] w'
  | reviewed (mode : ServiceMode) (c : AuthoritativeOrderConfirmationSnapshot)
      (e : W1BoundaryCall β) (w' : W1World β)
      (he : e = ⟨w.conversation, .prepareOrderReview w.conversation.session
        w.conversation.catalogSession mode, w.boundary⟩)
      (hc : e.reviewed = some c)
      (hw' : w'.conversation = { w.conversation with
        checkout := some
          { stage := .orderReview, serviceMode := some mode, confirmation := some c } }) :
      Effect w inbound [e] w'
  | unreviewed (mode : ServiceMode) (e : W1BoundaryCall β) (w' : W1World β)
      (he : e = ⟨w.conversation, .prepareOrderReview w.conversation.session
        w.conversation.catalogSession mode, w.boundary⟩)
      (hc : e.reviewed = none) (hkeeps : Keeps w.conversation w'.conversation) :
      Effect w inbound [e] w'
  | refused (st : W1CheckoutState) (c : AuthoritativeOrderConfirmationSnapshot)
      (hconfirms : Confirms router w.conversation inbound st c) (e : W1BoundaryCall β)
      (w' : W1World β)
      (he : e = ⟨w.conversation, .submitOrder w.conversation.session c, w.boundary⟩)
      (ho : e.ordered = none) (hkeeps : Keeps w.conversation w'.conversation) :
      Effect w inbound [e] w'
  | lost (st : W1CheckoutState) (c : AuthoritativeOrderConfirmationSnapshot)
      (hconfirms : Confirms router w.conversation inbound st c) (order : CanonicalOrderProjection)
      (e e' : W1BoundaryCall β) (w' : W1World β)
      (he : e = ⟨w.conversation, .submitOrder w.conversation.session c, w.boundary⟩)
      (ho : e.ordered = some order)
      (he' : e'.op = .paymentOptions w.conversation.session order) (hbroke : e'.brokeOff = false)
      (hbare : ∀ st', w'.conversation.checkout = some st' → st'.Bare)
      (hsession : w'.conversation.session = w.conversation.session) :
      Effect w inbound [e, e'] w'
  | brokeOff (st : W1CheckoutState) (c : AuthoritativeOrderConfirmationSnapshot)
      (hconfirms : Confirms router w.conversation inbound st c) (order : CanonicalOrderProjection)
      (e e' : W1BoundaryCall β) (w' : W1World β)
      (he : e = ⟨w.conversation, .submitOrder w.conversation.session c, w.boundary⟩)
      (ho : e.ordered = some order)
      (he' : e'.op = .paymentOptions w.conversation.session order) (hbroke : e'.brokeOff = true)
      (hw' : w'.conversation = w.conversation) : Effect w inbound [e, e'] w'
  | presented (st : W1CheckoutState) (c : AuthoritativeOrderConfirmationSnapshot)
      (hconfirms : Confirms router w.conversation inbound st c) (order : CanonicalOrderProjection)
      (options : W1CustomerSafePaymentOptions) (e e' : W1BoundaryCall β) (w' : W1World β)
      (he : e = ⟨w.conversation, .submitOrder w.conversation.session c, w.boundary⟩)
      (ho : e.ordered = some order)
      (he' : e'.op = .paymentOptions w.conversation.session order) (hbroke : e'.brokeOff = false)
      (hw' : w'.conversation = { w.conversation with
        checkout := some
          { stage := .paymentOptions
            serviceMode := st.serviceMode
            confirmation := some c
            order := some order
            paymentOptions := some options } }) : Effect w inbound [e, e'] w'

omit [CaseFolding] in
theorem after_call (w : W1World β) (op : W1CheckoutOp)
    (k : op.Resp → W1CallOf W1ConversationResult) :
    w.after (.call op k) =
      { w with boundary := (W1CheckoutDomainBoundary.handle op w.boundary).2 }.after
        (k (W1CheckoutDomainBoundary.handle op w.boundary).1) := rfl

omit [CaseFolding] in
theorem callsOf_call (w : W1World β) (op : W1CheckoutOp)
    (k : op.Resp → W1CallOf W1ConversationResult) :
    w.callsOf (.call op k) = ⟨w.conversation, op, w.boundary⟩ ::
      { w with boundary := (W1CheckoutDomainBoundary.handle op w.boundary).2 }.callsOf
        (k (W1CheckoutDomainBoundary.handle op w.boundary).1) := rfl

variable {router} {w : W1World β} {inbound : NormalizedInboundMessage}

/-- A service mode is chosen. -/
theorem effect_reviewing (mode : ServiceMode) {p : W1CallOf W1ConversationResult}
    (hp : p = .call
      (.prepareOrderReview w.conversation.session w.conversation.catalogSession mode) fun answer =>
        W1CheckoutUX.orFailure answer (W1CheckoutUX.presentReview mode) >>= w.conversation.finish) :
    Effect router w inbound (w.callsOf p) (w.after p) := by
  rw [hp, callsOf_call, after_call]
  cases hanswer : W1CheckoutDomainBoundary.prepareOrderReview w.boundary w.conversation.session
    w.conversation.catalogSession mode with
  | mk answer b =>
      simp only [W1CheckoutDomainBoundary.handle, hanswer]
      rcases answer with (code | e) | c
      · refine .unreviewed mode _ _ rfl (W1BoundaryCall.reviewed_eq hanswer) ⟨rfl, ?_⟩
        rintro st' ⟨⟩
        exact .inl rfl
      · exact .unreviewed mode _ _ rfl (W1BoundaryCall.reviewed_eq hanswer) (.refl _)
      · exact .reviewed mode c _ _ rfl (W1BoundaryCall.reviewed_eq hanswer) rfl

section Confirming

variable {st : W1CheckoutState} {c : AuthoritativeOrderConfirmationSnapshot}
  (hconfirms : Confirms router w.conversation inbound st c)

include hconfirms

/-- The submission was answered with an order, and `b` is asked for payment options. -/
theorem effect_paying {order : CanonicalOrderProjection} {e : W1BoundaryCall β}
    (he : e = ⟨w.conversation, .submitOrder w.conversation.session c, w.boundary⟩)
    (ho : e.ordered = some order) (b : β) {p : W1CallOf W1ConversationResult}
    (hp : p = .call (.paymentOptions w.conversation.session order) fun answer =>
      W1CheckoutUX.orFailure answer (W1CheckoutUX.presentPayment st order) >>=
        w.conversation.finish) :
    Effect router w inbound (e :: { w with boundary := b }.callsOf p)
      ({ w with boundary := b }.after p) := by
  rw [hp, callsOf_call, after_call]
  cases hpayment : W1CheckoutDomainBoundary.paymentOptions b w.conversation.session order with
  | mk answer b' =>
      simp only [W1CheckoutDomainBoundary.handle, hpayment]
      rcases answer with (code | e') | options
      · refine .lost st c hconfirms order _ _ _ he ho rfl (W1BoundaryCall.brokeOff_eq hpayment) ?_ rfl
        rintro st' ⟨⟩
        rfl
      · exact .brokeOff st c hconfirms order _ _ _ he ho rfl (W1BoundaryCall.brokeOff_eq hpayment) rfl
      · have hbroke : (⟨w.conversation, .paymentOptions w.conversation.session order, b⟩ :
            W1BoundaryCall β).brokeOff = false := W1BoundaryCall.brokeOff_eq hpayment
        simp only [W1CheckoutUX.orFailure, W1CheckoutUX.presentPayment]
        split
        · refine .lost st c hconfirms order _ _ _ he ho rfl hbroke ?_ rfl
          rintro st' ⟨⟩
          rfl
        · obtain ⟨rows, hrows⟩ := W1CheckoutUX.paymentRows_ok options
          rw [hrows]
          refine .presented st c hconfirms order options _ _ _ he ho rfl hbroke ?_
          rw [← hconfirms.confirmation]
          rfl

/-- The order is confirmed. -/
theorem effect_confirming {p : W1CallOf W1ConversationResult}
    (hp : p = .call (.submitOrder w.conversation.session c) fun answer =>
      W1CheckoutUX.orFailure answer (W1CheckoutUX.requestPayment w.conversation.session st) >>=
        w.conversation.finish) : Effect router w inbound (w.callsOf p) (w.after p) := by
  rw [hp, callsOf_call, after_call]
  cases hanswer : W1CheckoutDomainBoundary.submitOrder w.boundary w.conversation.session c with
  | mk answer b =>
      simp only [W1CheckoutDomainBoundary.handle, hanswer]
      rcases answer with (code | e) | order
      · refine .refused st c hconfirms _ _ rfl (W1BoundaryCall.ordered_eq hanswer) ⟨rfl, ?_⟩
        rintro st' ⟨⟩
        exact .inl rfl
      · exact .refused st c hconfirms _ _ rfl (W1BoundaryCall.ordered_eq hanswer) (.refl _)
      · exact effect_paying hconfirms rfl (W1BoundaryCall.ordered_eq hanswer) b rfl

end Confirming

variable (router)

/-- Every message has an effect. -/
theorem effect (w : W1World β) (inbound : NormalizedInboundMessage) :
    Effect router w inbound (calls router w inbound) (step router w inbound) := by
  unfold calls step
  have hshape : RouteShape router w.conversation inbound (w.conversation.route router inbound) :=
    route_shape _ _
  generalize w.conversation.route router inbound = p at hshape
  -- only choosing a service mode and confirming call the boundary
  cases hshape with
  | refused e => exact .quiet _ (.refl _)
  | kept r hcatalog hcheckout =>
      refine .quiet _ ⟨rfl, fun st' hst' => .inr ⟨st', ?_, rfl, rfl, hcatalog⟩⟩
      exact hcheckout.symm.trans hst'
  | left r hbare => exact .quiet _ ⟨rfl, fun st' hst' => .inl (hbare st' hst')⟩
  | selected st method r hst hcatalog hcheckout =>
      refine .quiet _ ⟨rfl, fun st' hst' => .inr ⟨st, hst, ?_, ?_, hcatalog⟩⟩
      · rw [← Option.some.inj (hcheckout.symm.trans hst')]
      · rw [← Option.some.inj (hcheckout.symm.trans hst')]
  | reviewing mode => exact effect_reviewing mode rfl
  | confirming st c hconfirms => exact effect_confirming hconfirms rfl

end W1World

end XbosCustomerChannel
