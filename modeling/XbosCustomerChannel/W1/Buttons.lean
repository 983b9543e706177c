import XbosCustomerChannel.W1.Fixture
import XbosCustomerChannel.W1.Turns

/-!
# Where buttons lead

What is rendered and what is answered are separate code. A button or a row is rendered with an id, and
the id of a tap is read as an action; two answers lead nowhere, that a selection is no longer available
and that it was not understood. Every id that is rendered is answered otherwise, except those of the
sections that have no item: the menu shows them like the others.
-/

namespace XbosCustomerChannel

open Effects Effects.Program Data

/-! ## Ids and dead ends -/

/-- The ids that can be tapped. -/
def W1RenderedMessage.replyIds (m : W1RenderedMessage) : List String :=
  m.buttons.map (·.replyId) ++ m.listSections.flatMap fun s => s.rows.map (·.replyId)

/-- The message of `_unsupported`. -/
def selectionUnavailable : W1RenderedMessage where
  kind := .text
  body := "That selection is no longer available. Reply Menu to browse safely."

def W1RenderedMessage.DeadEnd (m : W1RenderedMessage) : Prop :=
  m = selectionUnavailable ∨ m = W1ConversationRouter.notUnderstood

theorem W1RenderedMessage.not_deadEnd {m : W1RenderedMessage} (h : m.kind ≠ .text) :
    ¬ m.DeadEnd := by
  rintro (rfl | rfl)
  · exact h rfl
  · exact h rfl

theorem W1RenderedMessage.not_deadEnd_of_body {m : W1RenderedMessage}
    (h : m.body ≠ selectionUnavailable.body ∧ m.body ≠ W1ConversationRouter.notUnderstood.body) :
    ¬ m.DeadEnd := by
  rintro (rfl | rfl)
  · exact h.1 rfl
  · exact h.2 rfl

theorem ne_of_afterPrefix {pfx text : String} (h : Text.afterPrefix pfx text = none) (rest : String) :
    pfx ++ rest ≠ text := by
  rintro rfl
  rw [Text.afterPrefix_append] at h
  cases h

namespace W1Action

theorem of_section (sectionRef : String) :
    W1Action.of ("section:" ++ sectionRef) = .section sectionRef := by
  have hne {text : String} (h : Text.afterPrefix "section:" text = none) :
      "section:" ++ sectionRef ≠ text := ne_of_afterPrefix h sectionRef
  unfold W1Action.of
  rw [if_neg, if_neg (hne (by decide)), if_neg (hne (by decide)), Text.afterPrefix_append]
  simp only [List.mem_cons, List.not_mem_nil, or_false, not_or]
  exact ⟨hne (by decide), hne (by decide), hne (by decide)⟩

theorem of_item (itemRef : String) : W1Action.of ("item:" ++ itemRef) = .item itemRef := by
  have hne {text : String} (h : Text.afterPrefix "item:" text = none) :
      "item:" ++ itemRef ≠ text := ne_of_afterPrefix h itemRef
  have hsection : Text.afterPrefix "section:" ("item:" ++ itemRef) = none := by
    rw [Text.afterPrefix, String.toList_append]
    rfl
  unfold W1Action.of
  rw [if_neg, if_neg (hne (by decide)), if_neg (hne (by decide)), hsection]
  · dsimp only
    rw [Text.afterPrefix_append]
  simp only [List.mem_cons, List.not_mem_nil, or_false, not_or]
  exact ⟨hne (by decide), hne (by decide), hne (by decide)⟩

end W1Action

/-- Some item is in the section. -/
def CatalogProjection.Stocked (projection : CatalogProjection) (sectionRef : String) : Prop :=
  ∃ item ∈ projection.items, item.sectionRef = sectionRef

theorem CatalogProjection.exists_item {projection : CatalogProjection} {item : CatalogItemProjection}
    (h : item ∈ projection.items) : ∃ found, projection.item item.itemRef = .ok found := by
  unfold CatalogProjection.item
  cases hfind : projection.items.find? fun x => x.itemRef = item.itemRef with
  | some found => exact ⟨found, rfl⟩
  | none =>
      have hnone := List.find?_eq_none.mp hfind item h
      simp at hnone

/-- An action that is not answered by a dead end, with the cursor on an item or not. -/
def W1Action.Answerable (projection : CatalogProjection) (navigation : W1NavigationCursor) :
    W1Action → Prop
  | .section sectionRef =>
      (∃ s ∈ projection.sections, s.sectionRef = sectionRef) ∧ projection.Stocked sectionRef
  | .item itemRef => ∃ item, projection.item itemRef = .ok item
  | .quantity value => (W1ConversationRouter.quantityOf value).isSome ∧
      navigation.activeItemRef.isSome
  | .add => navigation.activeItemRef.isSome
  | .service mode => (ServiceMode.ofValue? mode).isSome
  | .pay method => (PaymentMethodCode.ofValue? method).isSome
  | .unknown => False
  | _ => True

/-! ## The checkout -/

/-- A view that is no dead end, and whose ids are answered wherever the cursor is. -/
structure W1CheckoutView.Open (view : W1CheckoutView) : Prop where
  alive : ¬ (W1ConversationRouter.renderCheckout view).DeadEnd
  offers : ∀ replyId ∈ (W1ConversationRouter.renderCheckout view).replyIds,
    ∀ projection navigation, (W1Action.of replyId).Answerable projection navigation

namespace W1CheckoutUX

theorem open_of_text {body : String} (h : body ≠ selectionUnavailable.body ∧
    body ≠ W1ConversationRouter.notUnderstood.body) :
    W1CheckoutView.Open { kind := .text, body } where
  alive := W1RenderedMessage.not_deadEnd_of_body h
  offers _ hid := absurd hid List.not_mem_nil

theorem open_of_buttons {body : String} {buttons : List W1CheckoutButton}
    (h : ∀ button ∈ buttons, ∀ projection navigation,
      (W1Action.of button.replyId).Answerable projection navigation) :
    W1CheckoutView.Open { kind := .buttons, body, buttons } where
  alive := W1RenderedMessage.not_deadEnd (by simp [W1ConversationRouter.renderCheckout])
  offers replyId hid := by
    simp only [W1ConversationRouter.renderCheckout, W1RenderedMessage.replyIds, List.map_map,
      List.flatMap_nil, List.append_nil] at hid
    obtain ⟨button, hbutton, rfl⟩ := List.mem_map.mp hid
    exact h button hbutton

theorem failure_open (code : W1CheckoutFailureCode) : (failure code).view.Open := by
  apply open_of_text
  cases code
  all_goals decide

theorem cartReview_open (catalogSession : CatalogSession) :
    (cartReview catalogSession).view.Open := by
  unfold cartReview
  split
  · exact failure_open _
  dsimp only
  split
  · exact failure_open _
  apply open_of_buttons
  intro button hbutton _ _
  simp only [List.mem_cons, List.not_mem_nil, or_false] at hbutton
  rcases hbutton with rfl | rfl
  · trivial
  · trivial

theorem serviceMode_open (catalogSession : CatalogSession) :
    (serviceMode catalogSession).view.Open := by
  unfold serviceMode
  dsimp only
  split
  · exact failure_open _
  apply open_of_buttons
  intro button hbutton _ _
  obtain ⟨mode, -, hmode⟩ := List.mem_filterMap.mp hbutton
  split at hmode
  · obtain rfl := Option.some.inj hmode
    cases mode
    all_goals rfl
  · cases hmode

theorem orFailure_open {α : Type} (answer : Except W1BoundaryFault α)
    {k : α → W1CallOf W1CheckoutResult} (hk : ∀ a, (k a).Yields fun r => r.view.Open) :
    (orFailure answer k).Yields fun r => r.view.Open := by
  unfold orFailure
  split
  · exact hk _
  · exact failure_open _
  · trivial

theorem selectServiceMode_open (session : CustomerSessionSnapshot) (catalogSession : CatalogSession)
    (mode : ServiceMode) :
    (selectServiceMode session catalogSession mode).Yields fun r => r.view.Open := by
  unfold selectServiceMode
  split
  · exact failure_open _
  split
  · exact failure_open _
  apply Yields.bind
  intro answer
  apply orFailure_open
  intro confirmation
  apply open_of_buttons
  intro button hbutton _ _
  simp only [List.mem_cons, List.not_mem_nil, or_false] at hbutton
  rcases hbutton with rfl | rfl
  · trivial
  · trivial

theorem paymentRows_answerable {methods : List PaymentMethodCode} {rows : List W1CheckoutListRow}
    (h : paymentRows methods = .ok rows) {row : W1CheckoutListRow} (hrow : row ∈ rows)
    (projection : CatalogProjection) (navigation : W1NavigationCursor) :
    (W1Action.of row.replyId).Answerable projection navigation := by
  obtain ⟨method, -, hmethod⟩ := Traversal.exists_of_mem_mapM h hrow
  cases hlabel : method.label? with
  | none =>
      rw [hlabel] at hmethod
      cases hmethod
  | some label =>
      rw [hlabel] at hmethod
      obtain rfl := Except.ok.inj hmethod
      have hpay : ∀ method : PaymentMethodCode, W1Action.of ("pay:" ++ method.value) =
          .pay method.value ∧ (PaymentMethodCode.ofValue? method.value).isSome := by
        intro method
        cases method
        all_goals decide
      rw [(hpay method).1]
      exact (hpay method).2

theorem presentPayment_open (state : W1CheckoutState) (order : CanonicalOrderProjection)
    (options : W1CustomerSafePaymentOptions) :
    (presentPayment state order options).Yields fun r => r.view.Open := by
  unfold presentPayment
  split
  · exact failure_open _
  apply Yields.bind_of (Yields.ofExcept _)
  intro rows hrows
  constructor
  · exact W1RenderedMessage.not_deadEnd (by simp [W1ConversationRouter.renderCheckout])
  · intro replyId hid
    simp only [W1ConversationRouter.renderCheckout, W1RenderedMessage.replyIds, List.map_nil,
      List.nil_append, List.flatMap_cons, List.flatMap_nil, List.append_nil, List.map_map] at hid
    obtain ⟨row, hrow, rfl⟩ := List.mem_map.mp hid
    exact paymentRows_answerable hrows hrow

theorem confirmOrder_open (session : CustomerSessionSnapshot) (state : Option W1CheckoutState) :
    (confirmOrder session state).Yields fun r => r.view.Open := by
  unfold confirmOrder
  split
  · exact failure_open _
  next st =>
  split
  · exact failure_open _
  apply Yields.bind
  intro submitted
  apply orFailure_open
  intro order
  apply Yields.bind
  intro answer
  exact orFailure_open answer (presentPayment_open st order)

theorem selectPaymentMethod_open (state : Option W1CheckoutState) (method : PaymentMethodCode) :
    (selectPaymentMethod state method).view.Open := by
  unfold selectPaymentMethod
  split
  · exact failure_open _
  split
  · exact failure_open _
  split
  · exact failure_open _
  split
  · exact failure_open _
  next label hlabel =>
  apply open_of_text
  cases method
  -- a method without a label is unsupported
  all_goals cases hlabel
  all_goals decide

end W1CheckoutUX

/-! ## The router -/

/-- An answer that is no dead end. -/
abbrev W1ConversationResult.Alive (r : W1ConversationResult) : Prop := ¬ r.rendered.DeadEnd

/-- Every id that an answer renders can be answered where it leaves the cursor. -/
def W1ConversationResult.Offers (projection : CatalogProjection) (r : W1ConversationResult) : Prop :=
  ∀ replyId ∈ r.rendered.replyIds, (W1Action.of replyId).Answerable projection r.navigation

namespace W1ConversationRouter

variable {catalogSession : CatalogSession} {navigation : W1NavigationCursor}

theorem unsupported_offers (projection : CatalogProjection) :
    (unsupported catalogSession).Offers projection :=
  fun _ hid => absurd hid List.not_mem_nil

theorem sectionView_offers (sectionRef : String) :
    (sectionView catalogSession sectionRef).Offers catalogSession.projection := by
  unfold sectionView
  split
  · exact unsupported_offers _
  dsimp only
  split
  · exact unsupported_offers _
  intro replyId hid
  simp only [W1RenderedMessage.replyIds, List.map_nil, List.nil_append, List.flatMap_cons,
    List.flatMap_nil, List.append_nil, List.map_map] at hid
  obtain ⟨item, hitem, rfl⟩ := List.mem_map.mp hid
  show (W1Action.of ("item:" ++ item.itemRef)).Answerable _ _
  rw [W1Action.of_item]
  exact CatalogProjection.exists_item (List.mem_filter.mp hitem).1

/-- A section of the catalog that has an item is shown. -/
theorem sectionView_alive {sectionRef : String}
    (hsection : ∃ s ∈ catalogSession.projection.sections, s.sectionRef = sectionRef)
    (hstocked : catalogSession.projection.Stocked sectionRef) :
    (sectionView catalogSession sectionRef).Alive := by
  obtain ⟨s, hs, href⟩ := hsection
  obtain ⟨item, hitem, hin⟩ := hstocked
  unfold sectionView
  split
  · next hnone =>
    have hno := List.find?_eq_none.mp hnone s hs
    simp [href] at hno
  dsimp only
  split
  · next hrows =>
    have hfilter : item ∈ catalogSession.projection.items.filter (·.sectionRef = sectionRef) :=
      List.mem_filter.mpr ⟨hitem, by simpa using hin⟩
    rw [List.map_eq_nil_iff.mp hrows] at hfilter
    exact absurd hfilter List.not_mem_nil
  · exact W1RenderedMessage.not_deadEnd (by simp)

/-- The menu offers every section; all of them lead somewhere if they all have an item. -/
theorem root_offers (hstocked : ∀ s ∈ catalogSession.projection.sections,
    catalogSession.projection.Stocked s.sectionRef) :
    (root catalogSession).Offers catalogSession.projection := by
  intro replyId hid
  simp only [root, W1RenderedMessage.replyIds, List.map_nil, List.nil_append, List.flatMap_cons,
    List.flatMap_nil, List.append_nil, List.map_map] at hid
  obtain ⟨s, hs, rfl⟩ := List.mem_map.mp hid
  have hmem := (List.mem_insertionSort _).mp hs
  show (W1Action.of ("section:" ++ s.sectionRef)).Answerable _ _
  rw [W1Action.of_section]
  exact ⟨⟨s, hmem, rfl⟩, hstocked s hmem⟩

/-- A product is shown with the cursor on an item. -/
theorem product_offers (projection : CatalogProjection) (item : CatalogItemProjection)
    {navigation : W1NavigationCursor} (hactive : navigation.activeItemRef.isSome) :
    (product catalogSession item navigation).Offers projection := by
  intro replyId hid
  simp only [product, W1RenderedMessage.replyIds, List.map_cons, List.map_nil, List.flatMap_nil,
    List.append_nil, List.mem_cons, List.not_mem_nil, or_false] at hid
  rcases hid with rfl | rfl | rfl
  · exact ⟨rfl, hactive⟩
  · exact ⟨rfl, hactive⟩
  · exact hactive

theorem product_alive (item : CatalogItemProjection) :
    (product catalogSession item navigation).Alive :=
  W1RenderedMessage.not_deadEnd (by simp [product])

theorem itemView_offers (itemRef : String) (projection : CatalogProjection) :
    (itemView catalogSession itemRef).Offers projection := by
  unfold itemView
  split
  · exact unsupported_offers _
  · exact product_offers _ _ rfl

theorem itemView_alive {itemRef : String}
    (hitem : ∃ item, catalogSession.projection.item itemRef = .ok item) :
    (itemView catalogSession itemRef).Alive := by
  obtain ⟨item, hitem⟩ := hitem
  unfold itemView
  rw [hitem]
  exact product_alive item

theorem quantityView_offers (value : String) (projection : CatalogProjection) :
    (quantityView catalogSession navigation value).Offers projection := by
  unfold quantityView
  split
  · split
    · exact unsupported_offers _
    · exact product_offers _ _ rfl
  · exact unsupported_offers _

variable (hplaced : navigation.Placed catalogSession.projection)

include hplaced

theorem quantityView_alive {value : String} (hvalue : (quantityOf value).isSome)
    (hactive : navigation.activeItemRef.isSome) :
    (quantityView catalogSession navigation value).Alive := by
  obtain ⟨quantity, hquantity⟩ := Option.isSome_iff_exists.mp hvalue
  obtain ⟨itemRef, href⟩ := Option.isSome_iff_exists.mp hactive
  obtain ⟨item, hitem, -⟩ := hplaced.item itemRef href
  unfold quantityView
  rw [hquantity, href]
  dsimp only
  rw [hitem]
  exact product_alive item

/-- An item can be added where the cursor is, and then the way back is the section of the item. -/
theorem add_answers (hactive : navigation.activeItemRef.isSome) :
    (add catalogSession navigation).Alive ∧
      (add catalogSession navigation).Offers catalogSession.projection := by
  obtain ⟨itemRef, href⟩ := Option.isSome_iff_exists.mp hactive
  obtain ⟨item, hitem, -⟩ := hplaced.item itemRef href
  have hpos : 0 < navigation.quantity := by
    have hquantity := hplaced.quantity itemRef href
    simp only [List.mem_cons, List.not_mem_nil, or_false] at hquantity
    omega
  unfold add
  rw [href]
  simp only [CatalogQuoteService.addToCart, hitem, InteractionCart.add, dif_pos hpos, bind,
    Except.bind, pure, Except.pure]
  constructor
  · exact W1RenderedMessage.not_deadEnd (by simp)
  · intro replyId hid
    simp only [W1RenderedMessage.replyIds, List.map_cons, List.map_nil, List.flatMap_nil,
      List.append_nil, List.mem_cons, List.not_mem_nil, or_false] at hid
    rcases hid with rfl | rfl | rfl
    all_goals trivial

theorem back_alive (hcover : ∀ item ∈ catalogSession.projection.items,
    ∃ s ∈ catalogSession.projection.sections, s.sectionRef = item.sectionRef) :
    (back catalogSession navigation).Alive := by
  unfold back
  split
  · next itemRef sectionRef hactive hactiveSection =>
    obtain ⟨item, hitem, hin⟩ := hplaced.item itemRef hactive
    rw [hactiveSection] at hin
    obtain rfl := Option.some.inj hin
    have hmem := (CatalogProjection.item_ok hitem).1
    exact sectionView_alive (hcover item hmem) ⟨item, hmem, rfl⟩
  · exact W1RenderedMessage.not_deadEnd (by simp [root])

omit hplaced

theorem back_offers (hstocked : ∀ s ∈ catalogSession.projection.sections,
    catalogSession.projection.Stocked s.sectionRef) :
    (back catalogSession navigation).Offers catalogSession.projection := by
  unfold back
  split
  · exact sectionView_offers _
  · exact root_offers hstocked

/-! ### Every answer -/

variable (router : W1ConversationRouter) {session : CustomerSessionSnapshot}
  {state : Option W1CheckoutState}

theorem withCheckout_alive (hrouter : router.checkout = true) {result : W1CallOf W1CheckoutResult}
    (h : result.Yields fun r => r.view.Open) :
    (router.withCheckout catalogSession navigation result).Yields W1ConversationResult.Alive := by
  unfold withCheckout
  rw [if_pos hrouter]
  apply Yields.bind_of h
  intro r hr
  exact hr.alive

theorem withCheckout_offers {result : W1CallOf W1CheckoutResult}
    (h : result.Yields fun r => r.view.Open) :
    (router.withCheckout catalogSession navigation result).Yields
      (W1ConversationResult.Offers catalogSession.projection) := by
  unfold withCheckout
  split
  · apply Yields.bind_of h
    intro r hr replyId hid
    exact hr.offers replyId hid _ _
  · exact unsupported_offers _

/-- An action that can be answered is answered, and not by a dead end. -/
theorem answer_alive (hrouter : router.checkout = true)
    (hplaced : navigation.Placed catalogSession.projection)
    (hcover : ∀ item ∈ catalogSession.projection.items,
      ∃ s ∈ catalogSession.projection.sections, s.sectionRef = item.sectionRef)
    {action : W1Action} (h : action.Answerable catalogSession.projection navigation) :
    (router.answer session catalogSession navigation state action).Yields
      W1ConversationResult.Alive := by
  cases action with
  | root => exact W1RenderedMessage.not_deadEnd (by simp [root])
  | help => exact W1RenderedMessage.not_deadEnd (by simp [helpMessage])
  | back => exact back_alive hplaced hcover
  | «section» sectionRef => exact sectionView_alive h.1 h.2
  | item itemRef => exact itemView_alive h
  | quantity value => exact quantityView_alive hplaced h.1 h.2
  | add => exact (add_answers hplaced h).1
  | cart => exact router.withCheckout_alive hrouter (W1CheckoutUX.cartReview_open _)
  | checkout => exact router.withCheckout_alive hrouter (W1CheckoutUX.serviceMode_open _)
  | orderConfirm => exact router.withCheckout_alive hrouter (W1CheckoutUX.confirmOrder_open _ _)
  | orderChange => exact router.withCheckout_alive hrouter (W1CheckoutUX.cartReview_open _)
  | unknown => exact h.elim
  | service mode =>
      obtain ⟨serviceMode, hmode⟩ := Option.isSome_iff_exists.mp h
      unfold answer
      dsimp only
      rw [hmode]
      exact router.withCheckout_alive hrouter (W1CheckoutUX.selectServiceMode_open _ _ _)
  | pay method =>
      obtain ⟨code, hmethod⟩ := Option.isSome_iff_exists.mp h
      unfold answer
      dsimp only
      rw [hmethod]
      exact router.withCheckout_alive hrouter (W1CheckoutUX.selectPaymentMethod_open _ _)

/-- Whatever is answered, what it renders can be answered, if every section has an item. -/
theorem answer_offers (hplaced : navigation.Placed catalogSession.projection)
    (hstocked : ∀ s ∈ catalogSession.projection.sections,
      catalogSession.projection.Stocked s.sectionRef) (action : W1Action) :
    (router.answer session catalogSession navigation state action).Yields
      (W1ConversationResult.Offers catalogSession.projection) := by
  cases action with
  | root => exact root_offers hstocked
  | help =>
      intro replyId hid
      simp only [helpMessage, W1RenderedMessage.replyIds, List.map_cons, List.map_nil,
        List.flatMap_nil, List.append_nil, List.mem_cons, List.not_mem_nil, or_false] at hid
      rcases hid with rfl | rfl
      all_goals trivial
  | back => exact back_offers hstocked
  | «section» sectionRef => exact sectionView_offers sectionRef
  | item itemRef => exact itemView_offers itemRef _
  | quantity value => exact quantityView_offers value _
  | add =>
      cases hactive : navigation.activeItemRef with
      | some itemRef => exact (add_answers hplaced (by rw [hactive]; rfl)).2
      | none =>
          unfold answer add
          rw [hactive]
          exact unsupported_offers _
  | cart => exact router.withCheckout_offers (W1CheckoutUX.cartReview_open _)
  | checkout => exact router.withCheckout_offers (W1CheckoutUX.serviceMode_open _)
  | orderConfirm => exact router.withCheckout_offers (W1CheckoutUX.confirmOrder_open _ _)
  | orderChange => exact router.withCheckout_offers (W1CheckoutUX.cartReview_open _)
  | unknown => exact fun _ hid => absurd hid List.not_mem_nil
  | service mode =>
      unfold answer
      dsimp only
      split
      · exact unsupported_offers _
      · exact router.withCheckout_offers (W1CheckoutUX.selectServiceMode_open _ _ _)
  | pay method =>
      unfold answer
      dsimp only
      split
      · exact unsupported_offers _
      · exact router.withCheckout_offers (W1CheckoutUX.selectPaymentMethod_open _ _)

end W1ConversationRouter

/-! ## Runs -/

/-- The turn is a tap on a button or a row with the id. -/
def W1Turn.Taps (t : W1Turn) (replyId : String) : Prop :=
  ∃ kind title, t.inbound.interactiveReply = some ⟨kind, replyId, title⟩

theorem W1Turn.Taps.action [CaseFolding] {t : W1Turn} {replyId : String} (h : t.Taps replyId) :
    t.action = W1Action.of replyId := by
  obtain ⟨kind, title, hreply⟩ := h
  unfold W1Turn.action W1ConversationRouter.action
  rw [hreply]
  cases kind
  all_goals rfl

namespace W1Chat

variable {β : Type} [W1CheckoutDomainBoundary β] [CaseFolding] (router : W1ConversationRouter)

/-- Tapping the id is answered by a dead end. -/
def DeadButton (chat : W1Chat β) (replyId : String) : Prop :=
  ∃ t : W1Turn, t.Taps replyId ∧
    ∃ r, (routed router chat t).1 = .ok r ∧ r.rendered.DeadEnd

/-- No id of the message that was rendered last is dead. -/
def NoDeadButtons (chat : W1Chat β) : Prop :=
  ∀ m, chat.rendered = some m → ∀ replyId ∈ m.replyIds, ¬ DeadButton router chat replyId

/-- The catalog is `projection`, the cursor is placed, and what was rendered last can be answered. -/
structure Answerable (projection : CatalogProjection) (chat : W1Chat β) : Prop where
  projection_eq : chat.world.conversation.catalogSession.projection = projection
  cursor : chat.world.conversation.navigation.Placed projection
  offers : ∀ m, chat.rendered = some m → ∀ replyId ∈ m.replyIds,
    (W1Action.of replyId).Answerable projection chat.world.conversation.navigation

variable {router} {projection : CatalogProjection}

theorem Answerable.turn {chat : W1Chat β} (h : Answerable projection chat)
    (hstocked : ∀ s ∈ projection.sections, projection.Stocked s.sectionRef) (t : W1Turn) :
    Answerable projection (turn router chat t) := by
  obtain ⟨rfl, hcursor, hoffers⟩ := h
  have hoffers' : ∀ m, (turn router chat t).rendered = some m → ∀ replyId ∈ m.replyIds,
      (W1Action.of replyId).Answerable chat.world.conversation.catalogSession.projection
        (turn router chat t).world.conversation.navigation := by
    apply turn_of_yields (Q := fun chat' => ∀ m, chat'.rendered = some m → ∀ replyId ∈ m.replyIds,
        (W1Action.of replyId).Answerable chat.world.conversation.catalogSession.projection
          chat'.world.conversation.navigation)
      (router.answer_offers hcursor hstocked t.action)
    · rintro r b hoffered m ⟨⟩
      exact hoffered
    · intro b
      exact hoffers
  rcases turn_moves chat t with hmoves | ⟨hcatalog, hnavigation⟩
  · have hsame := hmoves.projection.2
    exact ⟨hsame, hsame ▸ hmoves.placed hcursor, hoffers'⟩
  · exact ⟨by rw [hcatalog], by rw [hnavigation]; exact hcursor, hoffers'⟩

theorem Answerable.noDeadButtons {chat : W1Chat β} (h : Answerable projection chat)
    (hrouter : router.checkout = true)
    (hcover : ∀ item ∈ projection.items, ∃ s ∈ projection.sections, s.sectionRef = item.sectionRef) :
    NoDeadButtons router chat := by
  obtain ⟨rfl, hcursor, hoffers⟩ := h
  rintro m hm replyId hid ⟨t, htaps, r, hrouted, hdead⟩
  have halive : (router.answer t.session chat.world.conversation.catalogSession
      chat.world.conversation.navigation chat.world.conversation.checkout t.action).Yields
      W1ConversationResult.Alive := by
    rw [htaps.action]
    exact router.answer_alive hrouter hcursor hcover (hoffers m hm replyId hid)
  have hroute : (router.route t.session chat.world.conversation.catalogSession
      chat.world.conversation.navigation t.inbound chat.world.conversation.checkout).Yields
      W1ConversationResult.Alive := Yields.bind fun _ => halive
  exact hroute.of_exec _ (Prod.ext hrouted rfl) hdead

/-- The menu has a row for every section, and the row of a section without items is dead. -/
theorem deadButton_of_not_stocked {chat : W1Chat β} {s : CatalogSectionProjection}
    (hs : s ∈ chat.world.conversation.catalogSession.projection.sections)
    (hempty : ¬ chat.world.conversation.catalogSession.projection.Stocked s.sectionRef) :
    ∃ t, ¬ NoDeadButtons router (turn router chat t) := by
  -- the menu is asked for in a session that is served, and then the row is tapped
  have hserver : W1ConversationRouter.serverSession Fixture.secureSession = true := by decide
  refine ⟨⟨Fixture.secureSession, Fixture.tap "menu"⟩, fun hno => ?_⟩
  have hmenu : turn router chat ⟨Fixture.secureSession, Fixture.tap "menu"⟩ =
      ⟨⟨⟨Fixture.secureSession, chat.world.conversation.catalogSession, {}, none⟩,
        chat.world.boundary⟩,
        some (W1ConversationRouter.root chat.world.conversation.catalogSession).rendered⟩ := by
    unfold turn
    rw [routed_of_answer (r := W1ConversationRouter.root _) hserver rfl]
    rfl
  rw [hmenu] at hno
  have hrow : "section:" ++ s.sectionRef ∈
      (W1ConversationRouter.root chat.world.conversation.catalogSession).rendered.replyIds := by
    simp only [W1ConversationRouter.root, W1RenderedMessage.replyIds, List.map_nil, List.nil_append,
      List.flatMap_cons, List.flatMap_nil, List.append_nil, List.map_map]
    exact List.mem_map.mpr ⟨s, (List.mem_insertionSort _).mpr hs, rfl⟩
  apply hno _ rfl _ hrow
  have htaps : (⟨Fixture.secureSession, Fixture.tap ("section:" ++ s.sectionRef)⟩ : W1Turn).Taps
      ("section:" ++ s.sectionRef) := ⟨_, _, rfl⟩
  refine ⟨_, htaps, W1ConversationRouter.sectionView chat.world.conversation.catalogSession
    s.sectionRef, ?_, ?_⟩
  · rw [routed_of_answer hserver]
    rw [htaps.action, W1Action.of_section]
    rfl
  · unfold W1ConversationRouter.sectionView
    split
    · exact Or.inl rfl
    dsimp only
    split
    · exact Or.inl rfl
    next hrows =>
    -- a row would be an item of the section
    refine absurd (List.map_eq_nil_iff.mpr (List.filter_eq_nil_iff.mpr ?_)) hrows
    intro item hitem hin
    exact hempty ⟨item, hitem, by simpa using hin⟩

/-- In a conversation with checkout, over a catalog whose items are in its sections, nothing that is
rendered is ever dead, if and only if every section has an item. -/
theorem noDeadButtons_iff (hrouter : router.checkout = true) {catalogSession : CatalogSession}
    (hcover : ∀ item ∈ catalogSession.projection.items,
      ∃ s ∈ catalogSession.projection.sections, s.sectionRef = item.sectionRef)
    (session : CustomerSessionSnapshot) (checkout : Option W1CheckoutState) (boundary : β) :
    (∀ ts, NoDeadButtons router
        (turns router (opened session catalogSession checkout boundary) ts)) ↔
      ∀ s ∈ catalogSession.projection.sections, ∃ item ∈ catalogSession.projection.items,
        item.sectionRef = s.sectionRef := by
  constructor
  · intro hno s hs
    by_contra hempty
    obtain ⟨t, hdead⟩ : ∃ t, ¬ NoDeadButtons router
        (turn router (opened session catalogSession checkout boundary) t) :=
      deadButton_of_not_stocked hs hempty
    exact hdead (hno [t])
  · intro hstocked ts
    have hopened : Answerable catalogSession.projection
        (opened session catalogSession checkout boundary) := by
      refine ⟨rfl, W1NavigationCursor.placed_of_none rfl, ?_⟩
      rintro m ⟨⟩
    exact (turns_keep hopened (fun _ t h => h.turn hstocked t) ts).noDeadButtons hrouter hcover

end W1Chat

namespace Fixture

/-- A section that nothing is in, beside the one of the catalog. -/
def catalogWithEmptySection : CatalogSession :=
  ⟨entry, { catalog 1 3000 with
    sections := [⟨"section:fixture:daily", "Daily Selection", 1⟩,
      ⟨"section:fixture:seasonal", "Seasonal", 2⟩] }, {}⟩

/-- The daily selection is not dead. -/
theorem noDeadButtons_daily :
    W1Chat.NoDeadButtons ⟨true⟩
      (W1Chat.turns ⟨true⟩ (W1Chat.opened secureSession catalogWithCart none
        ({} : RecordingBoundary)) [⟨secureSession, tap "menu"⟩]) := by
  have hcover : ∀ item ∈ catalogWithCart.projection.items,
      ∃ s ∈ catalogWithCart.projection.sections, s.sectionRef = item.sectionRef := by decide
  exact (W1Chat.noDeadButtons_iff rfl hcover secureSession none ({} : RecordingBoundary)).mpr
    (by decide) _

/-- The seasonal section is shown in the menu, and tapping it leads nowhere. -/
theorem seasonal_dead :
    (∀ item ∈ catalogWithEmptySection.projection.items,
      ∃ s ∈ catalogWithEmptySection.projection.sections, s.sectionRef = item.sectionRef) ∧
    ¬ W1Chat.NoDeadButtons ⟨true⟩
      (W1Chat.turns ⟨true⟩ (W1Chat.opened secureSession catalogWithEmptySection none
        ({} : RecordingBoundary)) [⟨secureSession, tap "menu"⟩]) := by
  refine ⟨by decide, fun hno => ?_⟩
  refine hno (W1ConversationRouter.root catalogWithEmptySection).rendered rfl
    "section:section:fixture:seasonal" (by decide) ?_
  exact ⟨⟨secureSession, tap "section:section:fixture:seasonal"⟩, ⟨_, _, rfl⟩,
    W1ConversationRouter.unsupported catalogWithEmptySection, by decide +kernel, Or.inl rfl⟩

end Fixture

end XbosCustomerChannel
