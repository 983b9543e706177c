import XbosCustomerChannel.W1.Turns

/-!
# The cart along a conversation

A conversation that starts with a browsed catalog, an empty cart and the default cursor only ever adds
lines to the cart: one for each `add`, for the item the cursor is on, at the quantity of the cursor.
-/

namespace XbosCustomerChannel

open Effects Data

/-- A line of an item of the catalog, at one of the three quantities and with no options. -/
structure CartLine.Offered (projection : CatalogProjection) (line : CartLine) : Prop where
  item : ∃ item ∈ projection.items, item.itemRef = line.itemRef
  quantity : line.quantity ∈ [1, 2, 3]
  optionRefs : line.optionRefs = []

/-- What the conversation has in every state: what was browsed, a cart of lines that were offered, and
a cursor that is placed. -/
structure CatalogSession.Browsed (entry : ResolvedEntryContext) (projection : CatalogProjection)
    (catalogSession : CatalogSession) (navigation : W1NavigationCursor) : Prop where
  entry_eq : catalogSession.entry = entry
  projection_eq : catalogSession.projection = projection
  lines : ∀ line ∈ catalogSession.cart.lines, line.Offered projection
  cursor : navigation.Placed projection

/-- What one turn does to the cart and to the quantity. -/
structure CartStep (action : W1Action) (catalogSession catalogSession' : CatalogSession)
    (navigation navigation' : W1NavigationCursor) : Prop where
  cart : catalogSession'.cart = catalogSession.cart ∨
    action = .add ∧ ∃ line, navigation.activeItemRef = some line.itemRef ∧
      line.quantity = navigation.quantity ∧
      catalogSession'.cart.lines = catalogSession.cart.lines ++ [line]
  reselected : navigation'.activeItemRef ≠ navigation.activeItemRef → navigation'.quantity = 1

section Moves

variable {entry : ResolvedEntryContext} {projection : CatalogProjection}
  {catalogSession catalogSession' : CatalogSession} {navigation navigation' : W1NavigationCursor}
  {action : W1Action}

theorem CatalogSession.Browsed.moves (h : catalogSession.Browsed entry projection navigation)
    (hmoves : Moves catalogSession navigation action catalogSession' navigation') :
    catalogSession'.Browsed entry projection navigation' := by
  obtain ⟨rfl, rfl, hlines, hcursor⟩ := h
  obtain ⟨hentry, hprojection⟩ := hmoves.projection
  refine ⟨hentry, hprojection, ?_, hprojection ▸ hmoves.placed hcursor⟩
  cases hmoves with
  | stays => exact hlines
  | leaves => exact hlines
  | enters => exact hlines
  | selects => exact hlines
  | counts => exact hlines
  | adds itemRef item hactive hitem hpos =>
      intro line hline
      rcases List.mem_append.mp hline with hline | hline
      · exact hlines line hline
      · obtain rfl := List.mem_singleton.mp hline
        obtain ⟨hmem, href⟩ := CatalogProjection.item_ok hitem
        exact ⟨⟨item, hmem, href⟩, hcursor.quantity itemRef hactive, rfl⟩

theorem Moves.cartStep (hmoves : Moves catalogSession navigation action catalogSession' navigation') :
    CartStep action catalogSession catalogSession' navigation navigation' := by
  cases hmoves with
  | stays => exact ⟨Or.inl rfl, fun hne => absurd rfl hne⟩
  | leaves => exact ⟨Or.inl rfl, fun _ => rfl⟩
  | enters => exact ⟨Or.inl rfl, fun _ => rfl⟩
  | selects => exact ⟨Or.inl rfl, fun _ => rfl⟩
  | counts value itemRef quantity item hactive hquantity hitem =>
      -- the item stays the same, so nothing is said of its quantity
      refine ⟨Or.inl rfl, fun hne => absurd ?_ hne⟩
      rw [hactive, (CatalogProjection.item_ok hitem).2]
  | adds itemRef item hactive hitem hpos =>
      exact ⟨Or.inr ⟨rfl, _, hactive, rfl, rfl⟩, fun hne => absurd rfl hne⟩

end Moves

namespace W1Chat

variable {β : Type} [W1CheckoutDomainBoundary β] [CaseFolding] (router : W1ConversationRouter)

/-- The state of the catalog and the cursor after some turns. -/
def BrowsedAs (entry : ResolvedEntryContext) (projection : CatalogProjection) (chat : W1Chat β) :
    Prop :=
  chat.world.conversation.catalogSession.Browsed entry projection chat.world.conversation.navigation

variable {router} {entry : ResolvedEntryContext} {projection : CatalogProjection}

theorem BrowsedAs.turn {chat : W1Chat β} (h : BrowsedAs entry projection chat) (t : W1Turn) :
    BrowsedAs entry projection (turn router chat t) := by
  unfold BrowsedAs
  rcases turn_moves chat t with hmoves | ⟨hcatalog, hnavigation⟩
  · exact CatalogSession.Browsed.moves h hmoves
  · rw [hcatalog, hnavigation]
    exact h

omit [W1CheckoutDomainBoundary β] [CaseFolding] in
theorem browsedAs_opened (session : CustomerSessionSnapshot) (checkout : Option W1CheckoutState)
    (boundary : β) :
    BrowsedAs entry projection (opened session ⟨entry, projection, {}⟩ checkout boundary) where
  entry_eq := rfl
  projection_eq := rfl
  lines _ hline := absurd hline List.not_mem_nil
  cursor := W1NavigationCursor.placed_of_none rfl

theorem turn_cartStep (chat : W1Chat β) (t : W1Turn) :
    CartStep t.action chat.world.conversation.catalogSession
      (turn router chat t).world.conversation.catalogSession chat.world.conversation.navigation
      (turn router chat t).world.conversation.navigation := by
  rcases turn_moves chat t with hmoves | ⟨hcatalog, hnavigation⟩
  · exact hmoves.cartStep
  · rw [hcatalog, hnavigation]
    exact ⟨Or.inl rfl, fun hne => absurd rfl hne⟩

/-- A routed selection of an item leaves the cursor at the quantity one. -/
theorem turn_selects (chat : W1Chat β) {t : W1Turn} {itemRef : String}
    (haction : t.action = .item itemRef)
    (hserver : W1ConversationRouter.serverSession t.session = true) :
    (turn router chat t).world.conversation.navigation.quantity = 1 := by
  unfold turn
  rw [routed_of_answer (r := W1ConversationRouter.itemView _ itemRef) hserver (by rw [haction]; rfl)]
  dsimp only
  unfold W1ConversationRouter.itemView
  split
  · rfl
  · rfl

variable (router entry projection)

/-- Along every conversation that starts with a browsed catalog, the entry and the projection stay,
the cart grows by `add` alone and holds only what was offered, the cursor is on items of the catalog at
the quantities one, two and three, and another item starts at one. -/
theorem turns_cart_appendOnly (session : CustomerSessionSnapshot)
    (checkout : Option W1CheckoutState) (boundary : β) (ts : List W1Turn) (t : W1Turn) :
    let chat := turns router (opened session ⟨entry, projection, {}⟩ checkout boundary) ts
    let chat' := turns router (opened session ⟨entry, projection, {}⟩ checkout boundary) (ts ++ [t])
    BrowsedAs entry projection chat ∧ BrowsedAs entry projection chat' ∧
      CartStep t.action chat.world.conversation.catalogSession
        chat'.world.conversation.catalogSession chat.world.conversation.navigation
        chat'.world.conversation.navigation ∧
      ∀ itemRef, t.action = .item itemRef →
        W1ConversationRouter.serverSession t.session = true →
          chat'.world.conversation.navigation.quantity = 1 := by
  intro chat chat'
  have hkeep (ts : List W1Turn) : BrowsedAs entry projection
      (turns router (opened session ⟨entry, projection, {}⟩ checkout boundary) ts) :=
    turns_keep (browsedAs_opened session checkout boundary) (fun _ t h => h.turn t) ts
  refine ⟨hkeep ts, hkeep (ts ++ [t]), ?_, ?_⟩
  · show CartStep _ _ (turns router _ (ts ++ [t])).world.conversation.catalogSession _
      (turns router _ (ts ++ [t])).world.conversation.navigation
    rw [turns_concat]
    exact turn_cartStep chat t
  · intro itemRef haction hserver
    show (turns router _ (ts ++ [t])).world.conversation.navigation.quantity = 1
    rw [turns_concat]
    exact turn_selects chat haction hserver

end W1Chat

end XbosCustomerChannel
