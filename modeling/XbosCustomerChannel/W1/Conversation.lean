import XbosCustomerChannel.Catalog.Service
import XbosCustomerChannel.Data.Text
import XbosCustomerChannel.Transports.MetaWhatsApp
import XbosCustomerChannel.W1.Checkout

/-!
# The W1 conversation router

One inbound message is read as an action, and the action is answered from the catalog, the cursor and
the checkout state. `str.casefold` is a parameter.
-/

namespace XbosCustomerChannel

open Effects Data

/-- `str.casefold`. -/
class CaseFolding where
  casefold : String → String

/-! ## What is rendered -/

inductive W1RenderKind
  | text
  | buttons
  | list
  deriving DecidableEq, Repr

structure W1Button where
  replyId : String
  title : String
  deriving DecidableEq, Repr

structure W1ListRow where
  replyId : String
  title : String
  description : Option String := none
  deriving DecidableEq, Repr

structure W1ListSection where
  title : String
  rows : List W1ListRow
  deriving DecidableEq, Repr

structure W1RenderedMessage where
  kind : W1RenderKind
  body : String
  buttons : List W1Button := []
  listButtonLabel : Option String := none
  listSections : List W1ListSection := []
  deriving DecidableEq, Repr

/-- Ephemeral render cursor only. -/
structure W1NavigationCursor where
  activeSectionRef : Option String := none
  activeItemRef : Option String := none
  quantity : Int := 1
  deriving DecidableEq, Repr

structure W1ConversationResult where
  rendered : W1RenderedMessage
  catalogSession : CatalogSession
  navigation : W1NavigationCursor
  checkout : Option W1CheckoutState := none
  deriving DecidableEq

/-! ## Actions -/

/-- What the text of an action asks for. -/
inductive W1Action
  | root
  | help
  | back
  | section (sectionRef : String)
  | item (itemRef : String)
  | quantity (value : String)
  | add
  | cart
  | checkout
  | service (mode : String)
  | orderConfirm
  | orderChange
  | pay (method : String)
  | unknown
  deriving DecidableEq, Repr

/-- The tests `route` makes of the text, in their order. -/
def W1Action.of (action : String) : W1Action :=
  if action ∈ ["start", "menu", "restart"] then .root
  else if action = "help" then .help
  else if action = "back" then .back
  else match Text.afterPrefix "section:" action with
  | some sectionRef => .section sectionRef
  | none => match Text.afterPrefix "item:" action with
  | some itemRef => .item itemRef
  | none => match Text.afterPrefix "qty:" action with
  | some value => .quantity value
  | none =>
  if action = "add" then .add
  else if action = "cart" then .cart
  else if action = "checkout" then .checkout
  else match Text.afterPrefix "service:" action with
  | some mode => .service mode
  | none =>
  if action = "order:confirm" then .orderConfirm
  else if action = "order:change" then .orderChange
  else match Text.afterPrefix "pay:" action with
  | some method => .pay method
  | none => .unknown

/-! ## The router -/

/-- `W1ConversationRouter`: whether it was given a checkout. -/
structure W1ConversationRouter where
  checkout : Bool

namespace W1ConversationRouter

/-- `_assert_server_session`, as a test. -/
def serverSession (session : CustomerSessionSnapshot) : Bool :=
  session.securityBindingComplete && session.sessionRef != "" &&
    session.state ∈ [.browsing, .cart, .serviceMode, .review, .orderSubmitting, .orderCreated,
      .paymentMethod]

/-- `_action`. -/
def action [CaseFolding] (inbound : NormalizedInboundMessage) : String :=
  match inbound.interactiveReply with
  | some reply =>
      -- the id of a reply is taken as it is; only text is stripped and folded
      if reply.kind ∉ [.buttonReply, .listReply] then "unsupported" else reply.replyId
  | none =>
      match inbound.text with
      | none => "unsupported"
      | some text => CaseFolding.casefold (String.ofList (Text.strip text.toList))

/-- `_unsupported`. -/
def unsupported (catalogSession : CatalogSession) : W1ConversationResult where
  rendered :=
    { kind := .text
      body := "That selection is no longer available. Reply Menu to browse safely." }
  catalogSession := catalogSession
  navigation := {}

/-- `_root`; sections of one sort order keep their order. -/
def root (catalogSession : CatalogSession) : W1ConversationResult where
  rendered :=
    { kind := .list
      body := "Welcome. Choose a menu category."
      listButtonLabel := some "Menu"
      listSections :=
        [⟨"Categories",
          (catalogSession.projection.sections.insertionSort (·.sortOrder ≤ ·.sortOrder)).map
            fun s => { replyId := "section:" ++ s.sectionRef, title := s.name }⟩] }
  catalogSession := catalogSession
  navigation := {}

/-- `_section`. -/
def sectionView (catalogSession : CatalogSession) (sectionRef : String) : W1ConversationResult :=
  match catalogSession.projection.sections.find? (·.sectionRef = sectionRef) with
  | none => unsupported catalogSession
  | some s =>
      let rows := (catalogSession.projection.items.filter (·.sectionRef = sectionRef)).map
        fun item => (⟨"item:" ++ item.itemRef, item.name, some item.description⟩ : W1ListRow)
      if rows = [] then unsupported catalogSession
      else
        { rendered :=
            { kind := .list
              body := s.name ++ ": choose an item."
              listButtonLabel := some "Items"
              listSections := [⟨s.name, rows⟩] }
          catalogSession
          navigation := { activeSectionRef := some sectionRef } }

/-- `_product`. -/
def product (catalogSession : CatalogSession) (item : CatalogItemProjection)
    (navigation : W1NavigationCursor) : W1ConversationResult where
  rendered :=
    { kind := .buttons
      body := item.name ++ ": " ++ item.description ++ "\n" ++
        "Displayed price: " ++ item.displayPrice.toSciString ++ " " ++ item.currency ++ "\n" ++
        "Quantity: " ++ navigation.quantity.repr
      buttons := [⟨"qty:1", "1"⟩, ⟨"qty:2", "2"⟩, ⟨"add", "Add to cart"⟩] }
  catalogSession := catalogSession
  navigation := navigation

/-- `_item`. -/
def itemView (catalogSession : CatalogSession) (itemRef : String) : W1ConversationResult :=
  match catalogSession.projection.item itemRef with
  | .error _ => unsupported catalogSession
  | .ok item =>
      product catalogSession item
        { activeSectionRef := some item.sectionRef, activeItemRef := some itemRef }

/-- `int(value)`, of the three values that are offered or accepted. -/
def quantityOf (value : String) : Option Int :=
  if value = "1" then some 1
  else if value = "2" then some 2
  else if value = "3" then some 3
  else none

/-- What is offered or accepted is one of three quantities. -/
theorem quantityOf_mem {value : String} {quantity : Int} (h : quantityOf value = some quantity) :
    quantity ∈ [1, 2, 3] := by
  unfold quantityOf at h
  split at h
  · cases h
    decide
  split at h
  · cases h
    decide
  split at h
  · cases h
    decide
  · cases h

/-- `_quantity`. -/
def quantityView (catalogSession : CatalogSession) (navigation : W1NavigationCursor)
    (value : String) : W1ConversationResult :=
  match navigation.activeItemRef, quantityOf value with
  | some itemRef, some quantity =>
      match catalogSession.projection.item itemRef with
      | .error _ => unsupported catalogSession
      | .ok item =>
          product catalogSession item ⟨navigation.activeSectionRef, some item.itemRef, quantity⟩
  | _, _ => unsupported catalogSession

/-- `_add`. -/
def add (catalogSession : CatalogSession) (navigation : W1NavigationCursor) :
    W1ConversationResult :=
  match navigation.activeItemRef with
  | none => unsupported catalogSession
  | some itemRef =>
      let added := do
        let updated ← CatalogQuoteService.addToCart catalogSession itemRef navigation.quantity []
        let item ← updated.projection.item itemRef
        pure (updated, item)
      match added with
      | .error _ => unsupported catalogSession
      | .ok (updated, item) =>
          { rendered :=
              { kind := .buttons
                body := "Added " ++ W1CheckoutUX.counted navigation.quantity item.name ++
                  ". What next?"
                buttons := [⟨"cart", "View cart"⟩, ⟨"menu", "Menu"⟩, ⟨"back", "Back"⟩] }
            catalogSession := updated
            navigation }

/-- `_back`. -/
def back (catalogSession : CatalogSession) (navigation : W1NavigationCursor) :
    W1ConversationResult :=
  match navigation.activeItemRef, navigation.activeSectionRef with
  | some _, some sectionRef => sectionView catalogSession sectionRef
  | _, _ => root catalogSession

/-- The rendering of a checkout view. -/
def renderCheckout (view : W1CheckoutView) : W1RenderedMessage :=
  match view.kind with
  | .text => { kind := .text, body := view.body }
  | .buttons =>
      { kind := .buttons
        body := view.body
        buttons := view.buttons.map fun button => ⟨button.replyId, button.title⟩ }
  | .list =>
      { kind := .list
        body := view.body
        listButtonLabel := pyOr view.listButtonLabel (some "Options")
        listSections :=
          [⟨"Options", view.listRows.map fun row => ⟨row.replyId, row.title, row.description⟩⟩] }

/-- `_from_checkout`. -/
def fromCheckout (checkoutResult : W1CheckoutResult) (catalogSession : CatalogSession)
    (navigation : W1NavigationCursor) : W1ConversationResult where
  rendered := renderCheckout checkoutResult.view
  catalogSession := catalogSession
  navigation := navigation
  checkout := some checkoutResult.state

def helpMessage : W1RenderedMessage where
  kind := .buttons
  body := "Choose Menu to browse, or Restart to return here."
  buttons := [⟨"menu", "Menu"⟩, ⟨"restart", "Restart"⟩]

def notUnderstood : W1RenderedMessage where
  kind := .text
  body := "I did not understand that. Reply Menu, Help, or Restart."

/-! ### Browsing leaves the checkout -/

@[simp] theorem unsupported_checkout (catalogSession : CatalogSession) :
    (unsupported catalogSession).checkout = none := rfl

@[simp] theorem root_checkout (catalogSession : CatalogSession) :
    (root catalogSession).checkout = none := rfl

@[simp] theorem sectionView_checkout (catalogSession : CatalogSession)
    (sectionRef : String) : (sectionView catalogSession sectionRef).checkout = none := by
  unfold sectionView
  split
  · rfl
  · dsimp only
    split <;> rfl

@[simp] theorem itemView_checkout (catalogSession : CatalogSession)
    (itemRef : String) : (itemView catalogSession itemRef).checkout = none := by
  unfold itemView
  split <;> rfl

@[simp] theorem quantityView_checkout (catalogSession : CatalogSession)
    (navigation : W1NavigationCursor) (value : String) :
    (quantityView catalogSession navigation value).checkout = none := by
  unfold quantityView
  split
  · split <;> rfl
  · rfl

@[simp] theorem add_checkout (catalogSession : CatalogSession)
    (navigation : W1NavigationCursor) : (add catalogSession navigation).checkout = none := by
  unfold add
  split
  · rfl
  · dsimp only
    split <;> rfl

@[simp] theorem back_checkout (catalogSession : CatalogSession)
    (navigation : W1NavigationCursor) : (back catalogSession navigation).checkout = none := by
  unfold back
  split
  · exact sectionView_checkout _ _
  · rfl

/-! ### Routing -/

variable (router : W1ConversationRouter)

/-- An action of the checkout, which a router without one does not support. -/
def withCheckout (catalogSession : CatalogSession) (navigation : W1NavigationCursor)
    (result : W1CallOf W1CheckoutResult) : W1CallOf W1ConversationResult :=
  if router.checkout then do
    let checkoutResult ← result
    pure (fromCheckout checkoutResult catalogSession navigation)
  else pure (unsupported catalogSession)

/-- The answer to an action. -/
def answer (session : CustomerSessionSnapshot) (catalogSession : CatalogSession)
    (navigation : W1NavigationCursor) (checkoutState : Option W1CheckoutState) :
    W1Action → W1CallOf W1ConversationResult
  | .root => pure (root catalogSession)
  | .help => pure ⟨helpMessage, catalogSession, navigation, checkoutState⟩
  | .back => pure (back catalogSession navigation)
  | .section sectionRef => pure (sectionView catalogSession sectionRef)
  | .item itemRef => pure (itemView catalogSession itemRef)
  | .quantity value => pure (quantityView catalogSession navigation value)
  | .add => pure (add catalogSession navigation)
  | .cart =>
      router.withCheckout catalogSession navigation (pure (W1CheckoutUX.cartReview catalogSession))
  | .checkout =>
      router.withCheckout catalogSession navigation (pure (W1CheckoutUX.serviceMode catalogSession))
  | .service mode =>
      -- the source asks for the checkout first; both refusals are the same
      match ServiceMode.ofValue? mode with
      | none => pure (unsupported catalogSession)
      | some mode =>
          router.withCheckout catalogSession navigation
            (W1CheckoutUX.selectServiceMode session catalogSession mode)
  | .orderConfirm =>
      router.withCheckout catalogSession navigation
        (W1CheckoutUX.confirmOrder session checkoutState)
  | .orderChange =>
      router.withCheckout catalogSession navigation (pure (W1CheckoutUX.cartReview catalogSession))
  | .pay method =>
      match PaymentMethodCode.ofValue? method with
      | none => pure (unsupported catalogSession)
      | some method =>
          router.withCheckout catalogSession navigation
            (pure (W1CheckoutUX.selectPaymentMethod checkoutState method))
  | .unknown => pure ⟨notUnderstood, catalogSession, navigation, checkoutState⟩

def route [CaseFolding] (session : CustomerSessionSnapshot) (catalogSession : CatalogSession)
    (navigation : W1NavigationCursor) (inbound : NormalizedInboundMessage)
    (checkoutState : Option W1CheckoutState) : W1CallOf W1ConversationResult := do
  Program.raiseIf (¬ serverSession session)
    ⟨.permissionError, "w1_server_session_binding_required"⟩
  router.answer session catalogSession navigation checkoutState (W1Action.of (action inbound))

end W1ConversationRouter

end XbosCustomerChannel
