import XbosCustomerChannel.W1.Buttons
import XbosCustomerChannel.W1.Cart

/-!
# Carts that can be put together by tapping

A customer who types nothing but the first word taps on what is shown, and what is shown depends on
where the taps have led. The carts that can be reached this way are told apart by their lines alone:
every item that is in a section of the catalog, once or twice in a line, and in any order.
-/

namespace XbosCustomerChannel

open Effects Effects.Program Data

/-! ## What is listed -/

/-- The item is in the catalog, and so is its section. -/
def CatalogProjection.Lists (projection : CatalogProjection) (itemRef : String) : Prop :=
  ∃ item ∈ projection.items, item.itemRef = itemRef ∧
    ∃ s ∈ projection.sections, s.sectionRef = item.sectionRef

/-- A line that taps can lead to. -/
structure CartLine.Tappable (projection : CatalogProjection) (line : CartLine) : Prop where
  listed : projection.Lists line.itemRef
  quantity : line.quantity ∈ [1, 2]
  optionRefs : line.optionRefs = []

/-- What is tapped on, where it has to do with items. -/
def W1Action.Listed (projection : CatalogProjection) : W1Action → Prop
  | .item itemRef => projection.Lists itemRef
  | .quantity value => value ∈ ["1", "2"]
  | _ => True

/-- An action that is answered wherever the cursor is, by every catalog, has nothing to do with
items. -/
theorem W1Action.listed_of_always {action : W1Action}
    (h : ∀ projection navigation, action.Answerable projection navigation)
    (projection : CatalogProjection) : action.Listed projection := by
  cases action with
  | item itemRef =>
      obtain ⟨item, hitem⟩ := h { projection with items := [] } {}
      cases hitem
  | quantity value =>
      obtain ⟨-, hactive⟩ := h projection {}
      cases hactive
  | _ => trivial

/-- Of what an answer renders, what has to do with items is listed. -/
def W1ConversationResult.Lists (projection : CatalogProjection) (r : W1ConversationResult) : Prop :=
  ∀ replyId ∈ r.rendered.replyIds, (W1Action.of replyId).Listed projection

namespace W1ConversationRouter

variable {catalogSession : CatalogSession} {navigation : W1NavigationCursor}

theorem unsupported_lists (projection : CatalogProjection) :
    (unsupported catalogSession).Lists projection :=
  fun _ hid => absurd hid List.not_mem_nil

theorem root_lists (projection : CatalogProjection) : (root catalogSession).Lists projection := by
  intro replyId hid
  simp only [root, W1RenderedMessage.replyIds, List.map_nil, List.nil_append, List.flatMap_cons,
    List.flatMap_nil, List.append_nil, List.map_map] at hid
  obtain ⟨s, -, rfl⟩ := List.mem_map.mp hid
  show (W1Action.of ("section:" ++ s.sectionRef)).Listed _
  rw [W1Action.of_section]
  trivial

/-- The ids of a section are those of its items. -/
theorem mem_sectionView {sectionRef replyId : String}
    (h : replyId ∈ (sectionView catalogSession sectionRef).rendered.replyIds) :
    ∃ item ∈ catalogSession.projection.items, replyId = "item:" ++ item.itemRef ∧
      ∃ s ∈ catalogSession.projection.sections, s.sectionRef = item.sectionRef := by
  unfold sectionView at h
  split at h
  · exact absurd h List.not_mem_nil
  next s hs =>
  dsimp only at h
  split at h
  · exact absurd h List.not_mem_nil
  simp only [W1RenderedMessage.replyIds, List.map_nil, List.nil_append, List.flatMap_cons,
    List.flatMap_nil, List.append_nil, List.map_map] at h
  obtain ⟨item, hitem, rfl⟩ := List.mem_map.mp h
  obtain ⟨hmem, hin⟩ := List.mem_filter.mp hitem
  refine ⟨item, hmem, rfl, s, List.mem_of_find?_eq_some hs, ?_⟩
  have href : s.sectionRef = sectionRef := by simpa using List.find?_some hs
  have hin : item.sectionRef = sectionRef := by simpa using hin
  rw [href, hin]

theorem sectionView_lists (sectionRef : String) :
    (sectionView catalogSession sectionRef).Lists catalogSession.projection := by
  intro replyId hid
  obtain ⟨item, hitem, rfl, hsection⟩ := mem_sectionView hid
  rw [W1Action.of_item]
  exact ⟨item, hitem, rfl, hsection⟩

theorem product_lists (projection : CatalogProjection) (item : CatalogItemProjection) :
    (product catalogSession item navigation).Lists projection := by
  intro replyId hid
  simp only [product, W1RenderedMessage.replyIds, List.map_cons, List.map_nil, List.flatMap_nil,
    List.append_nil, List.mem_cons, List.not_mem_nil, or_false] at hid
  rcases hid with rfl | rfl | rfl
  · show "1" ∈ ["1", "2"]
    decide
  · show "2" ∈ ["1", "2"]
    decide
  · trivial

/-- A quantity is chosen for the item that the cursor is on. -/
theorem quantityView_of_item {itemRef value : String} {item : CatalogItemProjection} {quantity : Int}
    (hitem : catalogSession.projection.item itemRef = .ok item)
    (hquantity : quantityOf value = some quantity) {activeSectionRef : Option String} {n : Int} :
    quantityView catalogSession ⟨activeSectionRef, some itemRef, n⟩ value =
      product catalogSession item ⟨activeSectionRef, some itemRef, quantity⟩ := by
  unfold quantityView
  rw [hquantity]
  dsimp only
  rw [hitem]
  dsimp only
  rw [(CatalogProjection.item_ok hitem).2]

theorem add_lists (projection : CatalogProjection) :
    (add catalogSession navigation).Lists projection := by
  unfold add
  split
  · exact unsupported_lists _
  dsimp only
  split
  · exact unsupported_lists _
  intro replyId hid
  simp only [W1RenderedMessage.replyIds, List.map_cons, List.map_nil, List.flatMap_nil,
    List.append_nil, List.mem_cons, List.not_mem_nil, or_false] at hid
  rcases hid with rfl | rfl | rfl
  · trivial
  · trivial
  · trivial

theorem mem_root {s : CatalogSectionProjection}
    (hs : s ∈ catalogSession.projection.sections) :
    "section:" ++ s.sectionRef ∈ (root catalogSession).rendered.replyIds := by
  simp only [root, W1RenderedMessage.replyIds, List.map_nil, List.nil_append, List.flatMap_cons,
    List.flatMap_nil, List.append_nil, List.map_map]
  exact List.mem_map.mpr ⟨s, (List.mem_insertionSort _).mpr hs, rfl⟩

/-- A section shows its items. -/
theorem mem_sectionView_of_item {item : CatalogItemProjection}
    (hitem : item ∈ catalogSession.projection.items) {s : CatalogSectionProjection}
    (hs : s ∈ catalogSession.projection.sections) (hin : s.sectionRef = item.sectionRef) :
    "item:" ++ item.itemRef ∈
        (sectionView catalogSession item.sectionRef).rendered.replyIds ∧
      (sectionView catalogSession item.sectionRef).catalogSession = catalogSession := by
  have hfilter : item ∈ catalogSession.projection.items.filter
      (·.sectionRef = item.sectionRef) := List.mem_filter.mpr ⟨hitem, by simp⟩
  unfold sectionView
  split
  · next hnone =>
    have hno := List.find?_eq_none.mp hnone s hs
    simp [hin] at hno
  dsimp only
  split
  · next hrows =>
    rw [List.map_eq_nil_iff.mp hrows] at hfilter
    exact absurd hfilter List.not_mem_nil
  · simp only [W1RenderedMessage.replyIds, List.map_nil, List.nil_append, List.flatMap_cons,
      List.flatMap_nil, List.append_nil, List.map_map, and_true]
    exact List.mem_map.mpr ⟨item, hfilter, rfl⟩

variable (router : W1ConversationRouter) {session : CustomerSessionSnapshot}
  {state : Option W1CheckoutState}

theorem withCheckout_lists {projection : CatalogProjection} {result : W1CallOf W1CheckoutResult}
    (h : result.Yields fun r => r.view.Open) :
    (router.withCheckout catalogSession navigation result).Yields
      (W1ConversationResult.Lists projection) := by
  unfold withCheckout
  split
  · apply Yields.bind_of h
    intro r hr replyId hid
    exact W1Action.listed_of_always (hr.offers replyId hid) projection
  · exact unsupported_lists _

theorem answer_lists (action : W1Action) :
    (router.answer session catalogSession navigation state action).Yields
      (W1ConversationResult.Lists catalogSession.projection) := by
  cases action with
  | root => exact root_lists _
  | help =>
      intro replyId hid
      simp only [helpMessage, W1RenderedMessage.replyIds, List.map_cons, List.map_nil,
        List.flatMap_nil, List.append_nil, List.mem_cons, List.not_mem_nil, or_false] at hid
      rcases hid with rfl | rfl
      · trivial
      · trivial
  | back =>
      show (back catalogSession navigation).Lists _
      unfold back
      split
      · exact sectionView_lists _
      · exact root_lists _
  | «section» sectionRef => exact sectionView_lists sectionRef
  | item itemRef =>
      show (itemView catalogSession itemRef).Lists _
      unfold itemView
      split
      · exact unsupported_lists _
      · exact product_lists _ _
  | quantity value =>
      show (quantityView catalogSession navigation value).Lists _
      unfold quantityView
      split
      · split
        · exact unsupported_lists _
        · exact product_lists _ _
      · exact unsupported_lists _
  | add => exact add_lists _
  | cart => exact router.withCheckout_lists (W1CheckoutUX.cartReview_open _)
  | checkout => exact router.withCheckout_lists (W1CheckoutUX.serviceMode_open _)
  | orderConfirm => exact router.withCheckout_lists (W1CheckoutUX.confirmOrder_open _ _)
  | orderChange => exact router.withCheckout_lists (W1CheckoutUX.cartReview_open _)
  | unknown => exact fun _ hid => absurd hid List.not_mem_nil
  | service mode =>
      unfold answer
      dsimp only
      split
      · exact unsupported_lists _
      · exact router.withCheckout_lists (W1CheckoutUX.selectServiceMode_open _ _ _)
  | pay method =>
      unfold answer
      dsimp only
      split
      · exact unsupported_lists _
      · exact router.withCheckout_lists (W1CheckoutUX.selectPaymentMethod_open _ _)

end W1ConversationRouter

/-! ## Where taps lead -/

namespace W1Chat

variable {β : Type} [W1CheckoutDomainBoundary β] [CaseFolding] (router : W1ConversationRouter)

/-- The id is shown. -/
def Shows (chat : W1Chat β) (replyId : String) : Prop :=
  ∃ m, chat.rendered = some m ∧ replyId ∈ m.replyIds

/-- The chats that taps on what is shown lead to. -/
inductive Tapped (start : W1Chat β) : W1Chat β → Prop
  | start : Tapped start start
  | tap {chat : W1Chat β} {t : W1Turn} {replyId : String} (h : Tapped start chat)
      (hshown : chat.Shows replyId) (htaps : t.Taps replyId) : Tapped start (turn router chat t)

/-- What every chat has that was put together by tapping. -/
structure PutTogether (projection : CatalogProjection) (chat : W1Chat β) : Prop where
  projection_eq : chat.world.conversation.catalogSession.projection = projection
  lines : ∀ line ∈ chat.world.conversation.catalogSession.cart.lines, line.Tappable projection
  cursor : ∀ itemRef, chat.world.conversation.navigation.activeItemRef = some itemRef →
    projection.Lists itemRef ∧ chat.world.conversation.navigation.quantity ∈ [1, 2]
  shown : ∀ replyId, chat.Shows replyId → (W1Action.of replyId).Listed projection

variable {router} {projection : CatalogProjection}

/-- A turn with an action that is listed keeps it. -/
theorem PutTogether.turn {chat : W1Chat β} (h : PutTogether projection chat) {t : W1Turn}
    (hlisted : t.action.Listed projection) : PutTogether projection (turn router chat t) := by
  obtain ⟨rfl, hlines, hcursor, hshown⟩ := h
  have hshown' : ∀ replyId, (turn router chat t).Shows replyId →
      (W1Action.of replyId).Listed chat.world.conversation.catalogSession.projection := by
    apply turn_of_yields (Q := fun chat' => ∀ replyId, chat'.Shows replyId →
        (W1Action.of replyId).Listed chat.world.conversation.catalogSession.projection)
      (router.answer_lists t.action)
    · rintro r b hlists replyId ⟨m, ⟨⟩, hid⟩
      exact hlists replyId hid
    · intro b
      exact hshown
  rcases turn_moves chat t with hmoves | ⟨hcatalog, hnavigation⟩
  case inr => exact ⟨by rw [hcatalog], by rwa [hcatalog], by rwa [hnavigation], hshown'⟩
  refine ⟨hmoves.projection.2, ?_, ?_, hshown'⟩
  · generalize (turn router chat t).world.conversation.catalogSession = catalogSession' at hmoves
    generalize (turn router chat t).world.conversation.navigation = navigation' at hmoves
    generalize t.action = action at hmoves hlisted
    cases hmoves with
    | adds itemRef item hactive hitem hpos =>
        intro line hline
        rcases List.mem_append.mp hline with hline | hline
        · exact hlines line hline
        · obtain rfl := List.mem_singleton.mp hline
          obtain ⟨hlists, hquantity⟩ := hcursor itemRef hactive
          exact ⟨hlists, hquantity, rfl⟩
    | _ => exact hlines
  · generalize (turn router chat t).world.conversation.catalogSession = catalogSession' at hmoves
    generalize (turn router chat t).world.conversation.navigation = navigation' at hmoves
    generalize t.action = action at hmoves hlisted
    cases hmoves with
    | stays _ => exact hcursor
    | leaves =>
        intro itemRef hactive
        cases hactive
    | enters sectionRef _ =>
        intro itemRef hactive
        cases hactive
    | selects itemRef item hitem =>
        intro itemRef' hactive
        obtain rfl := Option.some.inj hactive
        exact ⟨hlisted, by simp⟩
    | counts value itemRef quantity item hactive hquantity hitem =>
        intro itemRef' hactive'
        obtain rfl := Option.some.inj hactive'
        rw [(CatalogProjection.item_ok hitem).2]
        refine ⟨(hcursor itemRef hactive).1, ?_⟩
        have hvalue : value ∈ ["1", "2"] := hlisted
        simp only [List.mem_cons, List.not_mem_nil, or_false] at hvalue
        rcases hvalue with rfl | rfl
        · cases hquantity
          simp
        · cases hquantity
          simp
    | adds itemRef item hactive hitem hpos => exact hcursor

theorem PutTogether.tapped {start chat : W1Chat β} (h : PutTogether projection start)
    (htapped : Tapped router start chat) : PutTogether projection chat := by
  induction htapped with
  | start => exact h
  | tap _ hshown htaps ih =>
      apply ih.turn
      rw [htaps.action]
      exact ih.shown _ hshown

/-! ## Any such cart -/

/-- What the chat shows and holds is the answer `r`. -/
structure Showing (chat : W1Chat β) (r : W1ConversationResult) : Prop where
  rendered : chat.rendered = some r.rendered
  catalogSession : chat.world.conversation.catalogSession = r.catalogSession
  navigation : chat.world.conversation.navigation = r.navigation

omit [W1CheckoutDomainBoundary β] [CaseFolding] in
theorem Showing.shows {chat : W1Chat β} {r : W1ConversationResult} (h : chat.Showing r)
    {replyId : String} (hid : replyId ∈ r.rendered.replyIds) : chat.Shows replyId :=
  ⟨_, h.rendered, hid⟩

/-- The turn that taps on an id in a session. -/
def tapOn (t : W1Turn) (replyId : String) : W1Turn :=
  ⟨t.session, { t.inbound with interactiveReply := some ⟨.buttonReply, replyId, replyId⟩ }⟩

omit [CaseFolding] in
theorem taps_tapOn (t : W1Turn) (replyId : String) : (tapOn t replyId).Taps replyId :=
  ⟨.buttonReply, replyId, rfl⟩

/-- An answer that needs no boundary is what is shown next. -/
theorem showing_turn {chat : W1Chat β} {t : W1Turn} {r : W1ConversationResult}
    (hserver : W1ConversationRouter.serverSession t.session = true)
    (h : router.answer t.session chat.world.conversation.catalogSession
      chat.world.conversation.navigation chat.world.conversation.checkout t.action = pure r) :
    (turn router chat t).Showing r := by
  unfold turn
  rw [routed_of_answer hserver h]
  exact ⟨rfl, rfl, rfl⟩

/-- A tap on what is shown. -/
theorem Tapped.showing {start chat : W1Chat β} {r : W1ConversationResult}
    (h : Tapped router start chat) (hr : chat.Showing r) (r' : W1ConversationResult)
    {replyId : String} (hid : replyId ∈ r.rendered.replyIds) {t : W1Turn}
    (hserver : W1ConversationRouter.serverSession t.session = true)
    (hanswer : ∀ checkout, router.answer t.session r.catalogSession r.navigation checkout
      (W1Action.of replyId) = pure r') :
    Tapped router start (turn router chat (tapOn t replyId)) ∧
      (turn router chat (tapOn t replyId)).Showing r' := by
  refine ⟨h.tap (hr.shows hid) (taps_tapOn t replyId), ?_⟩
  apply showing_turn (t := tapOn t replyId) hserver
  rw [(taps_tapOn t replyId).action, hr.catalogSession, hr.navigation]
  exact hanswer _

open W1ConversationRouter

/-- From the menu, a line can be added to the cart by tapping, and the menu is shown again. -/
theorem Tapped.adds {start chat : W1Chat β} {catalogSession : CatalogSession}
    (h : Tapped router start chat) (hmenu : chat.Showing (root catalogSession)) {line : CartLine}
    (hline : line.Tappable catalogSession.projection) {t : W1Turn}
    (hserver : serverSession t.session = true) :
    ∃ chat', Tapped router start chat' ∧ chat'.Showing (root
      { catalogSession with cart := ⟨catalogSession.cart.lines ++ [line]⟩ }) := by
  obtain ⟨⟨item, hmem, href, s, hs, hin⟩, hquantity, hoptions⟩ := hline
  obtain ⟨found, hfound⟩ := CatalogProjection.exists_item hmem
  rw [href] at hfound
  -- the section
  obtain ⟨h, hshown⟩ := h.showing hmenu (sectionView catalogSession s.sectionRef) (mem_root hs)
    hserver fun _ => by
      rw [W1Action.of_section]
      rfl
  obtain ⟨hrow, hsame⟩ := mem_sectionView_of_item hmem hs hin
  rw [← hin, href] at hrow
  rw [← hin] at hsame
  -- the item
  obtain ⟨h, hshown⟩ := h.showing hshown (itemView catalogSession line.itemRef) hrow
    hserver fun _ => by
      rw [W1Action.of_item, hsame]
      rfl
  have hproduct : itemView catalogSession line.itemRef = product catalogSession found
      { activeSectionRef := some found.sectionRef, activeItemRef := some line.itemRef } := by
    unfold itemView
    rw [hfound]
  rw [hproduct] at hshown
  -- the quantity
  have hcounted : ∃ value, "qty:" ++ value ∈ ["qty:1", "qty:2"] ∧
      W1Action.of ("qty:" ++ value) = .quantity value ∧ quantityOf value = some line.quantity := by
    simp only [List.mem_cons, List.not_mem_nil, or_false] at hquantity
    rcases hquantity with hone | htwo
    · refine ⟨"1", by decide, by decide, ?_⟩
      rw [hone]
      rfl
    · refine ⟨"2", by decide, by decide, ?_⟩
      rw [htwo]
      rfl
  obtain ⟨value, hvalue, hof, hcount⟩ := hcounted
  have hbutton : "qty:" ++ value ∈ (product catalogSession found
      { activeSectionRef := some found.sectionRef
        activeItemRef := some line.itemRef }).rendered.replyIds := by
    simp only [List.mem_cons, List.not_mem_nil, or_false] at hvalue
    rcases hvalue with hvalue | hvalue
    · simp [hvalue, product, W1RenderedMessage.replyIds]
    · simp [hvalue, product, W1RenderedMessage.replyIds]
  obtain ⟨h, hshown⟩ := h.showing hshown (product catalogSession found
    ⟨some found.sectionRef, some line.itemRef, line.quantity⟩) hbutton hserver fun _ => by
      rw [hof]
      exact congrArg pure (quantityView_of_item hfound hcount)
  -- the line, and back to the menu
  have hoffered : "add" ∈ (product catalogSession found
      ⟨some found.sectionRef, some line.itemRef, line.quantity⟩).rendered.replyIds := by
    simp [product, W1RenderedMessage.replyIds]
  obtain ⟨h, hshown⟩ := h.showing hshown (add catalogSession
    ⟨some found.sectionRef, some line.itemRef, line.quantity⟩) hoffered hserver fun _ => rfl
  have hadded : (add catalogSession
      ⟨some found.sectionRef, some line.itemRef, line.quantity⟩).catalogSession =
        { catalogSession with cart := ⟨catalogSession.cart.lines ++ [line]⟩ } ∧
      "menu" ∈ (add catalogSession
        ⟨some found.sectionRef, some line.itemRef, line.quantity⟩).rendered.replyIds := by
    obtain ⟨itemRef, quantity, optionRefs, hpos⟩ := line
    subst hoptions
    unfold add
    simp only [CatalogQuoteService.addToCart, hfound, InteractionCart.add, dif_pos hpos, bind,
      Except.bind, pure, Except.pure]
    simp [W1RenderedMessage.replyIds]
  obtain ⟨h, hshown⟩ := h.showing hshown (root
    { catalogSession with cart := ⟨catalogSession.cart.lines ++ [line]⟩ }) hadded.2 hserver fun _ => by
      rw [hadded.1]
      rfl
  exact ⟨_, h, hshown⟩

/-- From the menu of an empty cart, taps lead to exactly the carts whose lines can be tapped. -/
theorem exists_tapped_of_lines {start : W1Chat β} {catalogSession : CatalogSession}
    (hmenu : start.Showing (root catalogSession)) {lines : List CartLine}
    (hempty : catalogSession.cart.lines = [])
    (hlines : ∀ line ∈ lines, line.Tappable catalogSession.projection) {t : W1Turn}
    (hserver : serverSession t.session = true) :
    ∃ chat, Tapped router start chat ∧
      chat.Showing (root { catalogSession with cart := ⟨lines⟩ }) := by
  induction lines using List.reverseRecOn with
  | nil =>
      refine ⟨start, .start, ?_⟩
      rw [← hempty]
      exact hmenu
  | append_singleton lines line ih =>
      obtain ⟨chat, h, hshown⟩ := ih fun line hline => hlines line (List.mem_append_left _ hline)
      exact h.adds hshown (hlines line (List.mem_append_right _ (List.mem_singleton_self line)))
        hserver

/-- A customer of a browsed catalog asks for the menu in a session that is served and from then on
only taps on what is shown, in whatever order and in whatever sessions. Whatever the checkout and the
boundary do, the carts that can come about are exactly the lists of lines of items that a section of
the catalog shows, at the quantities one and two and with no options. -/
theorem tapped_carts (entry : ResolvedEntryContext) (projection : CatalogProjection)
    (session : CustomerSessionSnapshot) (checkout : Option W1CheckoutState) (boundary : β)
    (t : W1Turn) (hasks : t.action = .root) (hserver : serverSession t.session = true)
    (lines : List CartLine) :
    (∃ chat, Tapped router (turn router (opened session ⟨entry, projection, {}⟩ checkout boundary) t)
        chat ∧ chat.world.conversation.catalogSession.cart.lines = lines) ↔
      ∀ line ∈ lines, line.Tappable projection := by
  have hmenu : (turn router (opened session ⟨entry, projection, {}⟩ checkout boundary) t).Showing
      (root ⟨entry, projection, {}⟩) := by
    apply showing_turn hserver
    rw [hasks]
    rfl
  constructor
  · rintro ⟨chat, h, rfl⟩
    have hput : PutTogether projection
        (turn router (opened session ⟨entry, projection, {}⟩ checkout boundary) t) := by
      refine ⟨congrArg CatalogSession.projection hmenu.catalogSession, ?_, ?_, ?_⟩
      · rw [hmenu.catalogSession]
        intro line hline
        cases hline
      · rw [hmenu.navigation]
        intro itemRef hactive
        cases hactive
      · rintro replyId ⟨m, hm, hid⟩
        obtain rfl := Option.some.inj (hm.symm.trans hmenu.rendered)
        exact root_lists projection replyId hid
    exact (hput.tapped h).lines
  · intro hlines
    obtain ⟨chat, h, hshown⟩ := exists_tapped_of_lines hmenu rfl hlines hserver
    refine ⟨chat, h, ?_⟩
    rw [hshown.catalogSession]
    rfl

end W1Chat

section Fixture

open Fixture

/-- The customer asks for the menu of the fixture. -/
def asksForMenu : W1Turn := ⟨secureSession, tap "menu"⟩

/-- The item of the fixture, first two of it and then one. -/
theorem tapped_carts_twice : ∃ chat : W1Chat RecordingBoundary,
    W1Chat.Tapped ⟨true⟩ (W1Chat.turn ⟨true⟩
        (W1Chat.opened secureSession ⟨entry, catalog 1 3000, {}⟩ none {}) asksForMenu) chat ∧
      chat.world.conversation.catalogSession.cart.lines =
        [{ itemRef := "item:fixture:one", quantity := 2 },
          { itemRef := "item:fixture:one", quantity := 1 }] := by
  have hlisted : (catalog 1 3000).Lists "item:fixture:one" :=
    ⟨item 3000, by decide, rfl, ⟨"section:fixture:daily", "Daily Selection", 1⟩, by decide, rfl⟩
  apply (W1Chat.tapped_carts entry (catalog 1 3000) secureSession none ({} : RecordingBoundary)
    asksForMenu (by decide) (by decide) _).mpr
  intro line hline
  simp only [List.mem_cons, List.not_mem_nil, or_false] at hline
  rcases hline with rfl | rfl
  · exact ⟨hlisted, by decide, rfl⟩
  · exact ⟨hlisted, by decide, rfl⟩

end Fixture

end XbosCustomerChannel
