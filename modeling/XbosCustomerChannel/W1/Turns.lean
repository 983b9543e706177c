import XbosCustomerChannel.W1.Run

/-!
# Turns of a conversation

A message comes with the session it belongs to, and what is rendered for it stays in front of the
customer until the next one. Here a conversation is followed together with the message that was
rendered last.

What an answer does to the catalog session and to the cursor is said once (`Moves`).
-/

namespace XbosCustomerChannel

open Effects Effects.Program Data

/-- A message, and the session it comes with. -/
structure W1Turn where
  session : CustomerSessionSnapshot
  inbound : NormalizedInboundMessage

/-- The action that is read from the message. -/
def W1Turn.action [CaseFolding] (t : W1Turn) : W1Action :=
  W1Action.of (W1ConversationRouter.action t.inbound)

/-! ## What an answer moves -/

/-- What an answer makes of a catalog session and a cursor. -/
inductive Moves (catalogSession : CatalogSession) (navigation : W1NavigationCursor) :
    W1Action → CatalogSession → W1NavigationCursor → Prop
  | stays {action : W1Action} (hitem : ∀ itemRef, action ≠ .item itemRef) :
      Moves catalogSession navigation action catalogSession navigation
  | leaves {action : W1Action} : Moves catalogSession navigation action catalogSession {}
  | enters {action : W1Action} (sectionRef : String) (hitem : ∀ itemRef, action ≠ .item itemRef) :
      Moves catalogSession navigation action catalogSession { activeSectionRef := some sectionRef }
  | selects (itemRef : String) (item : CatalogItemProjection)
      (hitem : catalogSession.projection.item itemRef = .ok item) :
      Moves catalogSession navigation (.item itemRef) catalogSession
        { activeSectionRef := some item.sectionRef, activeItemRef := some itemRef }
  | counts (value itemRef : String) (quantity : Int) (item : CatalogItemProjection)
      (hactive : navigation.activeItemRef = some itemRef)
      (hquantity : W1ConversationRouter.quantityOf value = some quantity)
      (hitem : catalogSession.projection.item itemRef = .ok item) :
      Moves catalogSession navigation (.quantity value) catalogSession
        ⟨navigation.activeSectionRef, some item.itemRef, quantity⟩
  | adds (itemRef : String) (item : CatalogItemProjection)
      (hactive : navigation.activeItemRef = some itemRef)
      (hitem : catalogSession.projection.item itemRef = .ok item)
      (hpos : 0 < navigation.quantity) :
      Moves catalogSession navigation .add
        { catalogSession with
          cart := ⟨catalogSession.cart.lines ++ [⟨itemRef, navigation.quantity, [], hpos⟩]⟩ }
        navigation

/-- The answer `r` moves as said. -/
abbrev W1ConversationResult.MovesFrom (catalogSession : CatalogSession)
    (navigation : W1NavigationCursor) (action : W1Action) (r : W1ConversationResult) : Prop :=
  Moves catalogSession navigation action r.catalogSession r.navigation

namespace W1ConversationRouter

variable (catalogSession : CatalogSession) (navigation : W1NavigationCursor)

theorem sectionView_moves {action : W1Action} (sectionRef : String)
    (hitem : ∀ itemRef, action ≠ .item itemRef) :
    (sectionView catalogSession sectionRef).MovesFrom catalogSession navigation action := by
  unfold sectionView
  split
  · exact .leaves
  dsimp only
  split
  · exact .leaves
  · exact .enters sectionRef hitem

theorem itemView_moves (itemRef : String) :
    (itemView catalogSession itemRef).MovesFrom catalogSession navigation (.item itemRef) := by
  unfold itemView
  split
  · exact .leaves
  next item hitem => exact .selects itemRef item hitem

theorem quantityView_moves (value : String) :
    (quantityView catalogSession navigation value).MovesFrom catalogSession navigation
      (.quantity value) := by
  unfold quantityView
  split
  · next itemRef quantity hactive hquantity =>
    split
    · exact .leaves
    next item hitem => exact .counts value itemRef quantity item hactive hquantity hitem
  · exact .leaves

theorem add_moves :
    (add catalogSession navigation).MovesFrom catalogSession navigation .add := by
  unfold add
  split
  · exact .leaves
  next itemRef hactive =>
  cases hitem : catalogSession.projection.item itemRef with
  | error e =>
      simp only [CatalogQuoteService.addToCart, hitem, bind, Except.bind]
      exact .leaves
  | ok item =>
      by_cases hpos : 0 < navigation.quantity
      · simp only [CatalogQuoteService.addToCart, hitem, InteractionCart.add, dif_pos hpos, bind,
          Except.bind, pure, Except.pure]
        exact .adds itemRef item hactive hitem hpos
      · simp only [CatalogQuoteService.addToCart, hitem, InteractionCart.add, dif_neg hpos, bind,
          Except.bind]
        exact .leaves

theorem back_moves : (back catalogSession navigation).MovesFrom catalogSession navigation .back := by
  unfold back
  split
  · next sectionRef _ _ => exact sectionView_moves _ _ sectionRef (by simp)
  · exact .leaves

variable {catalogSession navigation} (router : W1ConversationRouter)
  {session : CustomerSessionSnapshot} {state : Option W1CheckoutState}

/-- The checkout moves nothing. -/
theorem withCheckout_moves (result : W1CallOf W1CheckoutResult) {action : W1Action}
    (hitem : ∀ itemRef, action ≠ .item itemRef) :
    (router.withCheckout catalogSession navigation result).Yields
      (W1ConversationResult.MovesFrom catalogSession navigation action) := by
  unfold withCheckout
  split
  · apply Yields.bind
    intro r
    exact .stays hitem
  · exact .leaves

theorem answer_moves (action : W1Action) :
    (router.answer session catalogSession navigation state action).Yields
      (W1ConversationResult.MovesFrom catalogSession navigation action) := by
  cases action with
  | root => exact .leaves
  | help => exact .stays (by simp)
  | back => exact back_moves _ _
  | «section» sectionRef => exact sectionView_moves _ _ sectionRef (by simp)
  | item itemRef => exact itemView_moves _ _ itemRef
  | quantity value => exact quantityView_moves _ _ value
  | add => exact add_moves _ _
  | cart => exact router.withCheckout_moves _ (by simp)
  | checkout => exact router.withCheckout_moves _ (by simp)
  | orderConfirm => exact router.withCheckout_moves _ (by simp)
  | orderChange => exact router.withCheckout_moves _ (by simp)
  | unknown => exact .stays (by simp)
  | service mode =>
      unfold answer
      dsimp only
      split
      · exact .leaves
      · exact router.withCheckout_moves _ (by simp)
  | pay method =>
      unfold answer
      dsimp only
      split
      · exact .leaves
      · exact router.withCheckout_moves _ (by simp)

end W1ConversationRouter

/-! ## Turns -/

/-- A conversation, the boundary behind it, and the message that was rendered last. -/
structure W1Chat (β : Type) where
  world : W1World β
  rendered : Option W1RenderedMessage := none

namespace W1Chat

variable {β : Type}

/-- A catalog session that no message has been routed for yet. -/
def opened (session : CustomerSessionSnapshot) (catalogSession : CatalogSession)
    (checkout : Option W1CheckoutState) (boundary : β) : W1Chat β :=
  ⟨⟨⟨session, catalogSession, {}, checkout⟩, boundary⟩, none⟩

variable [W1CheckoutDomainBoundary β] [CaseFolding] (router : W1ConversationRouter)

/-- The routing of a turn. -/
def routed (chat : W1Chat β) (t : W1Turn) : Except Exc W1ConversationResult × β :=
  exec W1CheckoutDomainBoundary.handle
    (router.route t.session chat.world.conversation.catalogSession
      chat.world.conversation.navigation t.inbound chat.world.conversation.checkout)
    chat.world.boundary

/-- One turn; a message that raises leaves everything but the boundary as it was. -/
def turn (chat : W1Chat β) (t : W1Turn) : W1Chat β :=
  match routed router chat t with
  | (.ok r, b) => ⟨⟨⟨t.session, r.catalogSession, r.navigation, r.checkout⟩, b⟩, some r.rendered⟩
  | (.error _, b) => ⟨⟨{ chat.world.conversation with session := t.session }, b⟩, chat.rendered⟩

def turns (chat : W1Chat β) (ts : List W1Turn) : W1Chat β := ts.foldl (turn router) chat

/-- A turn is a step of the world, for its session. -/
theorem turn_world (chat : W1Chat β) (t : W1Turn) :
    (turn router chat t).world = W1World.step router
      { chat.world with conversation := { chat.world.conversation with session := t.session } }
      t.inbound := by
  unfold turn W1World.step W1World.after routed W1RuntimeConversationState.route
  dsimp only
  split
  · next r b hexec =>
    rw [hexec]
    rfl
  · next e b hexec =>
    rw [hexec]
    rfl

theorem turns_concat (chat : W1Chat β) (ts : List W1Turn) (t : W1Turn) :
    turns router chat (ts ++ [t]) = turn router (turns router chat ts) t := by
  simp [turns]

variable {router}

/-- An answer that needs no boundary. -/
theorem routed_of_answer {chat : W1Chat β} {t : W1Turn} {r : W1ConversationResult}
    (hserver : W1ConversationRouter.serverSession t.session = true)
    (h : router.answer t.session chat.world.conversation.catalogSession
      chat.world.conversation.navigation chat.world.conversation.checkout t.action = pure r) :
    routed router chat t = (.ok r, chat.world.boundary) := by
  unfold W1Turn.action at h
  unfold routed W1ConversationRouter.route Program.raiseIf
  rw [hserver, if_neg (by simp), Program.done_bind, h]
  rfl

/-- What every answer gives the chat, and the chat has already, it has after the turn. -/
theorem turn_of_yields {P : W1ConversationResult → Prop} {Q : W1Chat β → Prop} {chat : W1Chat β}
    {t : W1Turn}
    (hanswer : (router.answer t.session chat.world.conversation.catalogSession
      chat.world.conversation.navigation chat.world.conversation.checkout t.action).Yields P)
    (hnext : ∀ r b, P r →
      Q ⟨⟨⟨t.session, r.catalogSession, r.navigation, r.checkout⟩, b⟩, some r.rendered⟩)
    (hkept : ∀ b,
      Q ⟨⟨{ chat.world.conversation with session := t.session }, b⟩, chat.rendered⟩) :
    Q (turn router chat t) := by
  have hroute : (router.route t.session chat.world.conversation.catalogSession
      chat.world.conversation.navigation t.inbound chat.world.conversation.checkout).Yields P :=
    Yields.bind fun _ => hanswer
  unfold turn
  split
  · next r b hexec => exact hnext r b (hroute.of_exec _ hexec)
  · next e b hexec => exact hkept b

/-- A turn moves the catalog session and the cursor like its action, or leaves them. -/
theorem turn_moves (chat : W1Chat β) (t : W1Turn) :
    Moves chat.world.conversation.catalogSession chat.world.conversation.navigation t.action
        (turn router chat t).world.conversation.catalogSession
        (turn router chat t).world.conversation.navigation ∨
      (turn router chat t).world.conversation.catalogSession =
          chat.world.conversation.catalogSession ∧
        (turn router chat t).world.conversation.navigation = chat.world.conversation.navigation := by
  apply turn_of_yields (Q := fun chat' =>
      Moves chat.world.conversation.catalogSession chat.world.conversation.navigation t.action
          chat'.world.conversation.catalogSession chat'.world.conversation.navigation ∨
        chat'.world.conversation.catalogSession = chat.world.conversation.catalogSession ∧
          chat'.world.conversation.navigation = chat.world.conversation.navigation)
    (router.answer_moves t.action)
  · intro r b hmoves
    exact Or.inl hmoves
  · intro b
    exact Or.inr ⟨rfl, rfl⟩

/-- What the chat has at first and every turn keeps, it always has. -/
theorem turns_keep {Q : W1Chat β → Prop} {chat : W1Chat β} (hchat : Q chat)
    (hturn : ∀ chat t, Q chat → Q (turn router chat t)) (ts : List W1Turn) :
    Q (turns router chat ts) := by
  induction ts using List.reverseRecOn with
  | nil => exact hchat
  | append_singleton ts t ih =>
      rw [turns_concat]
      exact hturn _ _ ih

end W1Chat

/-! ## Where the cursor is -/

/-- A cursor with an active item is on an item of the catalog and in its section, at one of the three
quantities. -/
structure W1NavigationCursor.Placed (projection : CatalogProjection)
    (navigation : W1NavigationCursor) : Prop where
  item : ∀ itemRef, navigation.activeItemRef = some itemRef →
    ∃ item, projection.item itemRef = .ok item ∧
      navigation.activeSectionRef = some item.sectionRef
  quantity : ∀ itemRef, navigation.activeItemRef = some itemRef → navigation.quantity ∈ [1, 2, 3]

theorem W1NavigationCursor.placed_of_none {projection : CatalogProjection}
    {navigation : W1NavigationCursor} (h : navigation.activeItemRef = none) :
    navigation.Placed projection := by
  constructor
  · intro itemRef hactive
    rw [h] at hactive
    cases hactive
  · intro itemRef hactive
    rw [h] at hactive
    cases hactive

theorem CatalogProjection.item_ok {projection : CatalogProjection} {itemRef : String}
    {item : CatalogItemProjection} (h : projection.item itemRef = .ok item) :
    item ∈ projection.items ∧ item.itemRef = itemRef := by
  unfold CatalogProjection.item at h
  split at h
  · next found hfind =>
    obtain rfl := Except.ok.inj h
    exact ⟨List.mem_of_find?_eq_some hfind, by simpa using List.find?_some hfind⟩
  · cases h

theorem Moves.projection {catalogSession catalogSession' : CatalogSession}
    {navigation navigation' : W1NavigationCursor} {action : W1Action}
    (h : Moves catalogSession navigation action catalogSession' navigation') :
    catalogSession'.entry = catalogSession.entry ∧
      catalogSession'.projection = catalogSession.projection := by
  cases h <;> exact ⟨rfl, rfl⟩

theorem Moves.placed {catalogSession catalogSession' : CatalogSession}
    {navigation navigation' : W1NavigationCursor} {action : W1Action}
    (h : Moves catalogSession navigation action catalogSession' navigation')
    (hplaced : navigation.Placed catalogSession.projection) :
    navigation'.Placed catalogSession'.projection := by
  cases h with
  | stays => exact hplaced
  | leaves => exact W1NavigationCursor.placed_of_none rfl
  | enters => exact W1NavigationCursor.placed_of_none rfl
  | selects itemRef item hitem =>
      constructor
      · intro itemRef' hactive
        obtain rfl := Option.some.inj hactive
        exact ⟨item, hitem, rfl⟩
      · intro _ _
        simp
  | counts value itemRef quantity item hactive hquantity hitem =>
      constructor
      · intro itemRef' hactive'
        obtain rfl := Option.some.inj hactive'
        obtain ⟨item', hitem', hsection⟩ := hplaced.item itemRef hactive
        rw [hitem] at hitem'
        obtain rfl := Except.ok.inj hitem'
        rw [(CatalogProjection.item_ok hitem).2]
        exact ⟨item, hitem, hsection⟩
      · intro _ _
        exact W1ConversationRouter.quantityOf_mem hquantity
  | adds => exact hplaced

end XbosCustomerChannel
