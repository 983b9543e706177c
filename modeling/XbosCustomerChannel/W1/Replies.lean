import XbosCustomerChannel.W1.Fixture
import XbosCustomerChannel.W1.Rendering

/-!
# Which replies can be sent

Of the texts a reply is made of, those of a product, a cart, a review and a payment are as long as
their parts make them, and nothing between the router and the adapter shortens them. In a run over a
bounded catalog they decide alone whether the reply of a message can be sent.
-/

namespace XbosCustomerChannel

open Effects Effects.Program Data

open W1ConversationRouter W1CheckoutUX

/-! ## What stays bounded -/

/-- The catalog is `p`, the cart has items of it, and the quantity is one that is offered. -/
structure Browses (p : CatalogProjection) (catalogSession : CatalogSession)
    (navigation : W1NavigationCursor) : Prop where
  projection : catalogSession.projection = p
  known : ∀ line ∈ catalogSession.cart.lines, ∃ item, p.item line.itemRef = .ok item
  quantity : navigation.quantity ∈ [1, 2, 3]

theorem Browses.digit {p : CatalogProjection} {catalogSession : CatalogSession}
    {navigation : W1NavigationCursor} (h : Browses p catalogSession navigation) :
    navigation.quantity.repr.length = 1 := by
  have hquantity := h.quantity
  simp only [List.mem_cons, List.not_mem_nil, or_false] at hquantity
  rcases hquantity with h | h | h <;> rw [h] <;> decide

theorem Browses.moved {p : CatalogProjection} {catalogSession : CatalogSession}
    {navigation navigation' : W1NavigationCursor} (h : Browses p catalogSession navigation)
    (hquantity : navigation'.quantity ∈ [1, 2, 3]) : Browses p catalogSession navigation' :=
  ⟨h.projection, h.known, hquantity⟩

theorem Browses.reset {p : CatalogProjection} {catalogSession : CatalogSession}
    {navigation navigation' : W1NavigationCursor} (h : Browses p catalogSession navigation)
    (hquantity : navigation'.quantity = 1) : Browses p catalogSession navigation' := by
  apply h.moved
  rw [hquantity]
  decide

/-- A line that is added is for an item of the catalog. -/
theorem CatalogQuoteService.addToCart_ok {catalogSession updated : CatalogSession} {itemRef : String}
    {quantity : Int} {optionRefs : List String}
    (h : addToCart catalogSession itemRef quantity optionRefs = .ok updated) :
    ∃ item line, catalogSession.projection.item itemRef = .ok item ∧ line.itemRef = itemRef ∧
      updated = { catalogSession with cart := ⟨catalogSession.cart.lines ++ [line]⟩ } := by
  unfold addToCart at h
  cases hitem : catalogSession.projection.item itemRef with
  | error e =>
      rw [hitem] at h
      cases h
  | ok item =>
      rw [hitem] at h
      unfold InteractionCart.add at h
      split at h
      · cases h
        exact ⟨item, _, rfl, rfl, rfl⟩
      · cases h

/-- What adding comes to. -/
theorem add_cases (catalogSession : CatalogSession) (navigation : W1NavigationCursor) :
    add catalogSession navigation = unsupported catalogSession ∨
    ∃ item line, catalogSession.projection.item line.itemRef = .ok item ∧
      (add catalogSession navigation).catalogSession =
        { catalogSession with cart := ⟨catalogSession.cart.lines ++ [line]⟩ } ∧
      (add catalogSession navigation).navigation = navigation ∧
      (add catalogSession navigation).rendered.body =
        "Added " ++ counted navigation.quantity item.name ++ ". What next?" := by
  unfold add
  split
  · exact .inl rfl
  next itemRef _ =>
  cases hadded : CatalogQuoteService.addToCart catalogSession itemRef navigation.quantity [] with
  | error e => exact .inl rfl
  | ok updated =>
      obtain ⟨item, line, hitem, rfl, rfl⟩ := CatalogQuoteService.addToCart_ok hadded
      right
      refine ⟨item, line, hitem, ?_⟩
      simp only [bind, Except.bind, hitem]
      exact ⟨rfl, rfl, rfl⟩

section Browsing

variable {p : CatalogProjection} {catalogSession : CatalogSession} {navigation : W1NavigationCursor}

/-- A result browses the catalog. -/
def W1ConversationResult.Browses (p : CatalogProjection) (r : W1ConversationResult) : Prop :=
  XbosCustomerChannel.Browses p r.catalogSession r.navigation

variable (h : Browses p catalogSession navigation)

include h

theorem unsupported_browses : (unsupported catalogSession).Browses p := h.reset rfl

theorem root_browses : (root catalogSession).Browses p := h.reset rfl

theorem sectionView_browses (sectionRef : String) :
    (sectionView catalogSession sectionRef).Browses p := by
  unfold sectionView
  split
  · exact unsupported_browses h
  dsimp only
  split
  · exact unsupported_browses h
  · exact h.reset rfl

theorem itemView_browses (itemRef : String) : (itemView catalogSession itemRef).Browses p := by
  unfold itemView
  split
  · exact unsupported_browses h
  · exact h.reset rfl

theorem quantityView_browses (value : String) :
    (quantityView catalogSession navigation value).Browses p := by
  unfold quantityView
  split
  · next quantity _ hquantity =>
    split
    · exact unsupported_browses h
    · exact h.moved (quantityOf_mem hquantity)
  · exact unsupported_browses h

theorem back_browses : (back catalogSession navigation).Browses p := by
  unfold back
  split
  · exact sectionView_browses h _
  · exact root_browses h

/-- A line is added for an item of the catalog. -/
theorem add_browses : (add catalogSession navigation).Browses p := by
  rcases add_cases catalogSession navigation with hrefused | ⟨item, line, hitem, hcatalog, hcursor, -⟩
  · rw [hrefused]
    exact unsupported_browses h
  · rw [W1ConversationResult.Browses, hcatalog, hcursor]
    refine ⟨h.projection, fun line' hline' => ?_, h.quantity⟩
    rcases List.mem_append.mp hline' with hline' | hline'
    · exact h.known line' hline'
    · rw [List.mem_singleton.mp hline', ← h.projection]
      exact ⟨item, hitem⟩

variable (router : W1ConversationRouter)

theorem withCheckout_browses (result : W1CallOf W1CheckoutResult) :
    (router.withCheckout catalogSession navigation result).Yields (W1ConversationResult.Browses p) := by
  unfold withCheckout
  split
  · exact Yields.bind fun _ => h
  · exact unsupported_browses h

theorem answer_browses (session : CustomerSessionSnapshot) (state : Option W1CheckoutState)
    (action : W1Action) : (router.answer session catalogSession navigation state action).Yields
      (W1ConversationResult.Browses p) := by
  cases action with
  | root => exact root_browses h
  | help => exact h
  | back => exact back_browses h
  | «section» => exact sectionView_browses h _
  | item => exact itemView_browses h _
  | quantity => exact quantityView_browses h _
  | add => exact add_browses h
  | cart => exact withCheckout_browses h router _
  | checkout => exact withCheckout_browses h router _
  | orderChange => exact withCheckout_browses h router _
  | orderConfirm => exact withCheckout_browses h router _
  | unknown => exact h
  | service mode =>
      unfold answer
      dsimp only
      split
      · exact unsupported_browses h
      · exact withCheckout_browses h router _
  | pay method =>
      unfold answer
      dsimp only
      split
      · exact unsupported_browses h
      · exact withCheckout_browses h router _

end Browsing

/-! ## Replies without the boundary -/

section Browsed

variable {p : CatalogProjection} {catalogSession : CatalogSession} {navigation : W1NavigationCursor}

theorem sendable_of_body {r : W1RenderedMessage} (hframed : r.Framed) (hbody : Fits r.body) :
    r.Sendable := W1RenderedMessage.sendable_iff.mpr ⟨hframed, hbody⟩

theorem unsupported_sendable (catalogSession : CatalogSession) :
    (unsupported catalogSession).rendered.Sendable := by
  apply sendable_of_body (unsupported_framed _)
  show Fits "That selection is no longer available. Reply Menu to browse safely."
  decide +kernel

theorem helpMessage_sendable : helpMessage.Sendable := by
  apply sendable_of_body _ (by decide)
  refine ⟨by decide, ?_⟩
  simp only [helpMessage, List.forall_mem_cons]
  decide

theorem notUnderstood_sendable : notUnderstood.Sendable := sendable_of_body trivial (by decide)

/-- A product can be shown exactly if its text is short enough. -/
theorem product_sendable_iff (item : CatalogItemProjection)
    (hquantity : navigation.quantity.repr.length = 1) :
    (product catalogSession item navigation).rendered.Sendable ↔ productLength item ≤ 1024 :=
  body_fits (product_framed item navigation) (product_length catalogSession item hquantity)
    (Nat.succ_pos _)

variable (hbounded : catalogSession.projection.Bounded)

include hbounded

theorem root_sendable : (root catalogSession).rendered.Sendable := by
  apply sendable_of_body (root_framed hbounded)
  show Fits "Welcome. Choose a menu category."
  decide

theorem sectionView_sendable (sectionRef : String) :
    (sectionView catalogSession sectionRef).rendered.Sendable := by
  apply sendable_of_body (sectionView_framed hbounded sectionRef)
  unfold sectionView
  split
  · exact (W1RenderedMessage.sendable_iff.mp (unsupported_sendable catalogSession)).2
  next s hfound =>
  dsimp only
  split
  · exact (W1RenderedMessage.sendable_iff.mp (unsupported_sendable catalogSession)).2
  have hname := (hbounded.sections_short s (List.mem_of_find?_eq_some hfound)).2
  have hchoose : ": choose an item.".length = 17 := by decide
  rw [fits_iff]
  simp only [String.length_append, hchoose]
  have hlength := hname.2
  omega

theorem back_sendable (navigation : W1NavigationCursor) :
    (back catalogSession navigation).rendered.Sendable := by
  unfold back
  split
  · exact sectionView_sendable hbounded _
  · exact root_sendable hbounded

theorem add_sendable (hquantity : navigation.quantity.repr.length = 1) :
    (add catalogSession navigation).rendered.Sendable := by
  apply sendable_of_body (add_framed navigation)
  rcases add_cases catalogSession navigation with hrefused | ⟨item, line, hitem, -, -, hbody⟩
  · rw [hrefused]
    exact (W1RenderedMessage.sendable_iff.mp (unsupported_sendable catalogSession)).2
  · obtain ⟨-, hname, -⟩ := hbounded.items_short item (CatalogProjection.mem_of_item hitem).1
    have hparts : "Added ".length = 6 ∧ ". What next?".length = 12 := by decide
    obtain ⟨hadded, hnext⟩ := hparts
    have hlength := hname.2
    rw [hbody, fits_iff, String.length_append, String.length_append, counted_length, hquantity, hadded,
      hnext]
    omega

omit hbounded in
/-- An item that is found is shown as it is. -/
theorem itemView_sendable_iff (itemRef : String) :
    (itemView catalogSession itemRef).rendered.Sendable ↔
      ∀ item, catalogSession.projection.item itemRef = .ok item → productLength item ≤ 1024 := by
  unfold itemView
  cases hitem : catalogSession.projection.item itemRef with
  | error e => exact iff_of_true (unsupported_sendable _) (by simp)
  | ok item =>
      refine (product_sendable_iff item ?_).trans (by simp)
      show (Int.repr 1).length = 1
      decide

omit hbounded in
theorem quantityView_sendable_iff (value : String) :
    (quantityView catalogSession navigation value).rendered.Sendable ↔
      ∀ itemRef item, navigation.activeItemRef = some itemRef → (quantityOf value).isSome →
        catalogSession.projection.item itemRef = .ok item → productLength item ≤ 1024 := by
  unfold quantityView
  cases hactive : navigation.activeItemRef with
  | none => exact iff_of_true (unsupported_sendable _) (by simp)
  | some itemRef =>
      cases hquantity : quantityOf value with
      | none => exact iff_of_true (unsupported_sendable _) (by simp)
      | some quantity =>
          cases hitem : catalogSession.projection.item itemRef with
          | error e =>
              refine iff_of_true ?_ fun itemRef' item hsame _ hitem' => ?_
              · simpa [hitem] using unsupported_sendable catalogSession
              · obtain rfl := Option.some.inj hsame
                rw [hitem] at hitem'
                cases hitem'
          | ok item =>
              have hdigit : quantity.repr.length = 1 := by
                have hmem := quantityOf_mem hquantity
                simp only [List.mem_cons, List.not_mem_nil, or_false] at hmem
                rcases hmem with rfl | rfl | rfl <;> decide
              simp only [hitem]
              refine (product_sendable_iff item hdigit).trans ?_
              constructor
              · intro hlength itemRef' item' hsame _ hitem'
                obtain rfl := Option.some.inj hsame
                rw [hitem] at hitem'
                obtain rfl := Except.ok.inj hitem'
                exact hlength
              · intro hall
                exact hall itemRef item rfl rfl hitem

end Browsed

/-! ## Replies of the checkout -/

section Checkout

variable {β : Type} [W1CheckoutDomainBoundary β]

open W1CheckoutDomainBoundary (prepareOrderReview submitOrder paymentOptions)

/-- Whatever the program returns from `b` satisfies `P`. -/
def Returns {α : Type} (p : W1CallOf α) (b : β) (P : α → Prop) : Prop :=
  ∀ a, (exec W1CheckoutDomainBoundary.handle p b).1 = .ok a → P a

theorem returns_done {α : Type} {P : α → Prop} (a : α) (b : β) :
    Returns (.done a) b P ↔ P a := by
  constructor
  · intro h
    exact h a rfl
  · rintro h a' ⟨⟩
    exact h

theorem returns_raise {α : Type} {P : α → Prop} (e : Exc) (b : β) : Returns (.raise e) b P := by
  rintro a ⟨⟩

/-- A checkout view can be sent. -/
def CheckoutSendable (r : W1CheckoutResult) : Prop := (renderCheckout r.view).Sendable

theorem checkoutSendable_iff {r : W1CheckoutResult} (hframed : (renderCheckout r.view).Framed) {n : Nat}
    (hlength : r.view.body.length = n) (hpos : 0 < n) : CheckoutSendable r ↔ n ≤ 1024 := by
  apply body_fits hframed _ hpos
  rw [← hlength, renderCheckout]
  split <;> rfl

theorem returns_withCheckout {router : W1ConversationRouter} {catalogSession : CatalogSession}
    {navigation : W1NavigationCursor} {result : W1CallOf W1CheckoutResult} {b : β} :
    Returns (router.withCheckout catalogSession navigation result) b (fun r => r.rendered.Sendable) ↔
      (router.checkout = true → Returns result b CheckoutSendable) := by
  unfold withCheckout
  split
  · next hcheckout =>
    rw [Returns, exec_bind]
    constructor
    · intro h _ r hr
      cases hexec : exec W1CheckoutDomainBoundary.handle result b with
      | mk answer b' =>
          rw [hexec] at hr h
          cases hr
          exact h _ rfl
    · intro h r hr
      cases hexec : exec W1CheckoutDomainBoundary.handle result b with
      | mk answer b' =>
          rw [hexec] at hr
          cases answer with
          | error e => cases hr
          | ok checkoutResult =>
              cases hr
              exact h hcheckout checkoutResult (by rw [hexec])
  · next hcheckout =>
    exact iff_of_true ((returns_done _ b).mpr (unsupported_sendable catalogSession)) fun h =>
      absurd h hcheckout

theorem returns_failure (code : W1CheckoutFailureCode) (b : β) :
    Returns (pure (failure code)) b CheckoutSendable :=
  (returns_done _ b).mpr (failure_sendable code)

/-- What is shown of an answer of the boundary; a refusal can always be shown. -/
theorem returns_orFailure {α : Type} (answer : Except W1BoundaryFault α)
    (k : α → W1CallOf W1CheckoutResult) (b : β) :
    Returns (orFailure answer k) b CheckoutSendable ↔
      ∀ a, answer = .ok a → Returns (k a) b CheckoutSendable := by
  rcases answer with (code | e) | a
  · exact iff_of_true (returns_failure code b) (by simp)
  · exact iff_of_true (returns_raise e b) (by simp)
  · simp [orFailure]

/-- The service mode may be asked for: whoever dines in has a table, and the mode is offered. -/
def Offers (session : CustomerSessionSnapshot) (catalogSession : CatalogSession) (mode : ServiceMode) :
    Prop :=
  ¬ (mode = .dineIn ∧ falsy session.tableRef) ∧
    mode.value ∈ catalogSession.entry.projection.allowedFulfillmentModes

theorem returns_selectServiceMode (session : CustomerSessionSnapshot) (catalogSession : CatalogSession)
    (mode : ServiceMode) (b : β) :
    Returns (selectServiceMode session catalogSession mode) b CheckoutSendable ↔
      (Offers session catalogSession mode → ∀ confirmation,
        (prepareOrderReview b session catalogSession mode).1 = .ok confirmation →
          reviewLength mode confirmation ≤ 1024) := by
  unfold selectServiceMode Offers
  split
  · next htable => exact iff_of_true (returns_failure _ b) fun h => absurd htable h.1
  split
  · next hmode => exact iff_of_true (returns_failure _ b) fun h => absurd h.2 hmode
  next htable hmode =>
  have hoffers : ¬ (mode = .dineIn ∧ falsy session.tableRef) ∧
      mode.value ∈ catalogSession.entry.projection.allowedFulfillmentModes :=
    ⟨htable, not_not.mp hmode⟩
  refine (returns_orFailure (prepareOrderReview b session catalogSession mode).1 (presentReview mode)
    (prepareOrderReview b session catalogSession mode).2).trans ?_
  rw [forall_prop_of_true hoffers]
  apply forall₂_congr
  intro confirmation _
  apply (returns_done _ _).trans
  refine checkoutSendable_iff ?_ (reviewBody_length mode confirmation) (Nat.succ_pos _)
  exact presentReview_framed mode confirmation

theorem returns_presentPayment (state : W1CheckoutState) (order : CanonicalOrderProjection)
    (options : W1CustomerSafePaymentOptions) (b : β) :
    Returns (presentPayment state order options) b CheckoutSendable ↔
      (options.orderRef = order.orderRef → paymentLength order options ≤ 1024) := by
  have hframed := presentPayment_framed state order options
  unfold presentPayment at hframed ⊢
  split
  · next hother => exact iff_of_true (returns_failure _ b) fun h => absurd h hother
  next hsame =>
  obtain ⟨rows, hrows⟩ := paymentRows_ok options
  rw [if_neg hsame, hrows, ofExcept_ok, done_bind] at hframed
  rw [hrows, ofExcept_ok, done_bind]
  apply (returns_done _ b).trans
  rw [forall_prop_of_true (not_not.mp hsame)]
  refine checkoutSendable_iff ?_ ?_ (Nat.succ_pos _)
  · exact hframed
  have hparts : "Order submitted: ".length = 17 ∧ "\n".length = 1 ∧ "Amount to pay: ".length = 15 ∧
      " ".length = 1 ∧ "Payment options are available. Choose a method.".length = 47 := by decide
  obtain ⟨horder, hbreak, hamount, hspace, hoptions⟩ := hparts
  simp only [paymentLength, String.length_append, horder, hbreak, hamount, hspace,
    hoptions]
  omega

theorem returns_confirmOrder (session : CustomerSessionSnapshot) (state : Option W1CheckoutState)
    (b : β) : Returns (confirmOrder session state) b CheckoutSendable ↔
      ∀ st confirmation order options, state = some st → st.confirmation = some confirmation →
        (submitOrder b session confirmation).1 = .ok order →
        (paymentOptions (submitOrder b session confirmation).2 session order).1 = .ok options →
        options.orderRef = order.orderRef → paymentLength order options ≤ 1024 := by
  unfold confirmOrder
  split
  · exact iff_of_true (returns_failure _ b) (by simp)
  next st =>
  split
  · next hnone =>
    refine iff_of_true (returns_failure _ b) fun st' confirmation _ _ hst hconfirmation => ?_
    rw [← Option.some.inj hst, hnone] at hconfirmation
    cases hconfirmation
  next confirmation hconfirmation =>
  refine (returns_orFailure (submitOrder b session confirmation).1 (requestPayment session st)
    (submitOrder b session confirmation).2).trans ?_
  constructor
  · intro h st' confirmation' order options hst hconfirmation' hordered hanswered
    obtain rfl := Option.some.inj hst
    obtain rfl := Option.some.inj (hconfirmation.symm.trans hconfirmation')
    have hpaying := (returns_orFailure _ _ _).mp (h order hordered) options hanswered
    exact (returns_presentPayment st order options _).mp hpaying
  · intro h order hordered
    refine (returns_orFailure _ (presentPayment st order) _).mpr fun options hanswered => ?_
    exact (returns_presentPayment st order options _).mpr
      (h st confirmation order options rfl hconfirmation hordered hanswered)

end Checkout

/-! ## Runs -/

namespace W1World

variable {β : Type} [W1CheckoutDomainBoundary β] (router : W1ConversationRouter)

open W1CheckoutDomainBoundary (prepareOrderReview submitOrder paymentOptions)

/-- The text that the reply to an action is assembled of is short enough. -/
def TextFits (w : W1World β) : W1Action → Prop
  | .item itemRef => ∀ item,
      w.conversation.catalogSession.projection.item itemRef = .ok item → productLength item ≤ 1024
  | .quantity value => ∀ itemRef item, w.conversation.navigation.activeItemRef = some itemRef →
      (quantityOf value).isSome → w.conversation.catalogSession.projection.item itemRef = .ok item →
      productLength item ≤ 1024
  | .cart | .orderChange =>
      router.checkout = true → cartLength w.conversation.catalogSession ≤ 1024
  | .service mode => ∀ serviceMode, ServiceMode.ofValue? mode = some serviceMode →
      router.checkout = true →
      Offers w.conversation.session w.conversation.catalogSession serviceMode →
      ∀ confirmation, (prepareOrderReview w.boundary w.conversation.session
        w.conversation.catalogSession serviceMode).1 = .ok confirmation →
      reviewLength serviceMode confirmation ≤ 1024
  | .orderConfirm => router.checkout = true → ∀ st confirmation order options,
      w.conversation.checkout = some st → st.confirmation = some confirmation →
      (submitOrder w.boundary w.conversation.session confirmation).1 = .ok order →
      (paymentOptions (submitOrder w.boundary w.conversation.session confirmation).2
        w.conversation.session order).1 = .ok options →
      options.orderRef = order.orderRef → paymentLength order options ≤ 1024
  | _ => True

variable [CaseFolding]

/-- What the message is answered with can be sent. -/
def ReplySendable (w : W1World β) (inbound : NormalizedInboundMessage) : Prop :=
  Returns (w.conversation.route router inbound) w.boundary fun r => r.rendered.Sendable

omit [CaseFolding] in
theorem answer_sendable_iff {w : W1World β} {p : CatalogProjection} (hbounded : p.Bounded)
    (h : Browses p w.conversation.catalogSession w.conversation.navigation) (action : W1Action) :
    Returns (router.answer w.conversation.session w.conversation.catalogSession
      w.conversation.navigation w.conversation.checkout action) w.boundary
        (fun r => r.rendered.Sendable) ↔ TextFits router w action := by
  obtain ⟨⟨session, catalogSession, navigation, checkout⟩, b⟩ := w
  dsimp only at h ⊢
  have hbounded' : catalogSession.projection.Bounded := h.projection ▸ hbounded
  have hknown : ∀ line ∈ catalogSession.cart.lines,
      ∃ item, catalogSession.projection.item line.itemRef = .ok item := by
    rw [h.projection]
    exact h.known
  have hcart : Returns (router.withCheckout catalogSession navigation
      (pure (cartReview catalogSession))) b (fun r => r.rendered.Sendable) ↔
        (router.checkout = true → cartLength catalogSession ≤ 1024) := by
    apply returns_withCheckout.trans
    apply imp_congr_right
    intro _
    exact (returns_done _ b).trans (cartReview_sendable_iff hknown)
  -- only the actions that show an assembled text have a condition of their own
  cases action with
  | root => exact iff_of_true ((returns_done _ b).mpr (root_sendable hbounded')) trivial
  | help => exact iff_of_true ((returns_done _ b).mpr helpMessage_sendable) trivial
  | back => exact iff_of_true ((returns_done _ b).mpr (back_sendable hbounded' _)) trivial
  | «section» => exact iff_of_true ((returns_done _ b).mpr (sectionView_sendable hbounded' _)) trivial
  | item itemRef => exact (returns_done _ b).trans (itemView_sendable_iff itemRef)
  | quantity value => exact (returns_done _ b).trans (quantityView_sendable_iff value)
  | add => exact iff_of_true ((returns_done _ b).mpr (add_sendable hbounded' h.digit)) trivial
  | cart => exact hcart
  | orderChange => exact hcart
  | unknown => exact iff_of_true ((returns_done _ b).mpr notUnderstood_sendable) trivial
  | checkout =>
      refine iff_of_true (returns_withCheckout.mpr fun _ => ?_) trivial
      exact (returns_done _ b).mpr (serviceMode_sendable catalogSession)
  | service mode =>
      unfold answer TextFits
      dsimp only
      cases ServiceMode.ofValue? mode with
      | none => exact iff_of_true ((returns_done _ b).mpr (unsupported_sendable _)) (by simp)
      | some serviceMode =>
          dsimp only
          rw [returns_withCheckout, returns_selectServiceMode]
          simp only [Option.some.injEq, forall_eq']
  | orderConfirm =>
      apply returns_withCheckout.trans
      exact imp_congr_right fun _ => returns_confirmOrder session checkout b
  | pay method =>
      unfold answer
      dsimp only
      cases PaymentMethodCode.ofValue? method with
      | none => exact iff_of_true ((returns_done _ b).mpr (unsupported_sendable _)) trivial
      | some method =>
          refine iff_of_true (returns_withCheckout.mpr fun _ => ?_) trivial
          exact (returns_done _ b).mpr (selectPaymentMethod_sendable checkout method)

theorem step_browses {w : W1World β} {p : CatalogProjection}
    (h : Browses p w.conversation.catalogSession w.conversation.navigation)
    (inbound : NormalizedInboundMessage) :
    Browses p (step router w inbound).conversation.catalogSession
      (step router w inbound).conversation.navigation := by
  have hroute : (w.conversation.route router inbound).Yields (W1ConversationResult.Browses p) := by
    apply Yields.bind
    intro _
    exact answer_browses h router _ _ _
  exact step_of_yields (Q := fun s => Browses p s.catalogSession s.navigation) router hroute
    (fun _ hbrowses => hbrowses) h

/-- A conversation over a catalog, from an empty cart on. -/
def browsing (session : CustomerSessionSnapshot) (entry : ResolvedEntryContext)
    (projection : CatalogProjection) (boundary : β) : W1World β :=
  start session ⟨entry, projection, {}⟩ {} boundary

theorem run_browses (session : CustomerSessionSnapshot) (entry : ResolvedEntryContext)
    (projection : CatalogProjection) (boundary : β) (messages : List NormalizedInboundMessage) :
    Browses projection
      (run router (browsing session entry projection boundary) messages).conversation.catalogSession
      (run router (browsing session entry projection boundary) messages).conversation.navigation := by
  induction messages using List.reverseRecOn with
  | nil => exact ⟨rfl, by simp [browsing, start, run], by simp [browsing, start, run]⟩
  | append_singleton messages inbound ih =>
      rw [run_concat]
      exact step_browses router ih inbound

/-- In a run over a bounded catalog the reply to a message can be sent exactly if the text that it is
assembled of is short enough. -/
theorem reply_sendable_iff (session : CustomerSessionSnapshot) (entry : ResolvedEntryContext)
    (projection : CatalogProjection) (hbounded : projection.Bounded) (boundary : β)
    (messages : List NormalizedInboundMessage) (inbound : NormalizedInboundMessage) :
    ReplySendable router (run router (browsing session entry projection boundary) messages) inbound ↔
      (serverSession (run router (browsing session entry projection boundary)
          messages).conversation.session = true →
        TextFits router (run router (browsing session entry projection boundary) messages)
          (W1Action.of (action inbound))) := by
  have hbrowses := run_browses router session entry projection boundary messages
  generalize run router (browsing session entry projection boundary) messages = w at hbrowses ⊢
  unfold ReplySendable W1RuntimeConversationState.route W1ConversationRouter.route raiseIf
  split
  · next hserver =>
    refine iff_of_true (returns_raise _ _) fun h => ?_
    exact absurd h hserver
  · next hserver =>
    rw [done_bind, forall_prop_of_true (not_not.mp hserver)]
    exact answer_sendable_iff router hbounded hbrowses _

end W1World

/-! ## A large cart -/

namespace Fixture

open W1World (browsing ReplySendable TextFits answer_sendable_iff run_browses reply_sendable_iff)

theorem catalog_bounded : (catalog 1 3000).Bounded where
  sections_ne_nil := by simp [catalog]
  sections_short := by
    simp only [catalog, List.mem_singleton, forall_eq]
    exact ⟨⟨by decide, by decide⟩, by decide, by decide⟩
  items_short := by
    simp only [catalog, List.mem_singleton, forall_eq]
    exact ⟨⟨by decide, by decide⟩, ⟨by decide, by decide⟩, ⟨by decide, by decide⟩, by decide, by decide⟩

/-- The messages of a customer who looks at the item and adds it `n` times. -/
def adds (n : Nat) : List NormalizedInboundMessage :=
  tap "item:item:fixture:one" :: List.replicate n (tap "add")

def adding (n : Nat) : W1World RecordingBoundary :=
  W1World.run ⟨true⟩ (browsing secureSession entry (catalog 1 3000) {}) (adds n)

theorem adding_browses (n : Nat) : Browses (catalog 1 3000) (adding n).conversation.catalogSession
    (adding n).conversation.navigation :=
  run_browses ⟨true⟩ secureSession entry (catalog 1 3000) ({} : RecordingBoundary) (adds n)

theorem reply_sendable_iff_one :
    ReplySendable ⟨true⟩ (adding 1) (tap "cart") ↔
      (serverSession (adding 1).conversation.session = true →
        TextFits ⟨true⟩ (adding 1) (W1Action.of (action (tap "cart")))) :=
  reply_sendable_iff ⟨true⟩ secureSession entry (catalog 1 3000) catalog_bounded
    ({} : RecordingBoundary) (adds 1) (tap "cart")

/-- The cart of forty lines has a text of 1034 characters. -/
theorem largeCart_notSendable : (catalog 1 3000).Bounded ∧
    ¬ ReplySendable ⟨true⟩ (adding 40) (tap "cart") := by
  refine ⟨catalog_bounded, fun h => ?_⟩
  have hbrowses := adding_browses 40
  have hlength : cartLength (adding 40).conversation.catalogSession = 1034 := by decide +kernel
  have haction : W1Action.of (action (tap "cart")) = .cart := by decide +kernel
  have hserver : serverSession (adding 40).conversation.session = true := by decide +kernel
  unfold ReplySendable W1RuntimeConversationState.route W1ConversationRouter.route raiseIf at h
  rw [hserver, if_neg (by simp), done_bind, haction] at h
  generalize adding 40 = w at hbrowses hlength h
  have hfits : cartLength w.conversation.catalogSession ≤ 1024 :=
    (answer_sendable_iff ⟨true⟩ catalog_bounded hbrowses .cart).mp h rfl
  omega

end Fixture

end XbosCustomerChannel
