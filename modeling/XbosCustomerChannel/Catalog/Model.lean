import XbosCustomerChannel.Data.Decimal
import XbosCustomerChannel.Session.State

/-!
# Catalog, cart and quote
-/

namespace XbosCustomerChannel

open Data (Decimal)

inductive AvailabilityState
  | available
  | unavailable
  deriving DecidableEq, Repr

def AvailabilityState.value : AvailabilityState → String
  | available => "available"
  | unavailable => "unavailable"

theorem AvailabilityState.value_injective : Function.Injective AvailabilityState.value := by
  intro a b h
  cases a <;> cases b <;> first | rfl | exact absurd h (by decide)

structure CatalogItemProjection where
  itemRef : String
  sectionRef : String
  name : String
  description : String
  mediaRefs : List String
  modifierGroupRefs : List String
  availability : AvailabilityState
  displayPrice : Decimal
  currency : String
  deriving DecidableEq, Repr

structure CatalogSectionProjection where
  sectionRef : String
  name : String
  sortOrder : Int
  deriving DecidableEq, Repr

structure CatalogProjection where
  catalogRef : String
  merchantRef : String
  locationRef : String
  version : String
  currency : String
  terminology : List (String × String)
  sections : List CatalogSectionProjection
  items : List CatalogItemProjection
  deriving DecidableEq, Repr

/-- The first item with the reference. -/
def CatalogProjection.item (p : CatalogProjection) (itemRef : String) :
    Except Exc CatalogItemProjection :=
  match p.items.find? (·.itemRef = itemRef) with
  | some item => .ok item
  | none => .error ⟨.keyError, itemRef⟩

/-- Interaction state only. A line is never built with a non-positive quantity. -/
structure CartLine where
  itemRef : String
  quantity : Int
  optionRefs : List String := []
  quantity_pos : 0 < quantity := by decide
  deriving DecidableEq, Repr

structure InteractionCart where
  lines : List CartLine := []
  deriving DecidableEq, Repr

def InteractionCart.add (cart : InteractionCart) (itemRef : String) (quantity : Int)
    (optionRefs : List String) : Except Exc InteractionCart :=
  if h : 0 < quantity then .ok ⟨cart.lines ++ [⟨itemRef, quantity, optionRefs, h⟩]⟩
  else .error ⟨.valueError, "quantity_must_be_positive"⟩

structure QuoteLineSnapshot where
  itemRef : String
  quantity : Int
  unitPrice : Decimal
  lineTotal : Decimal
  availability : AvailabilityState
  optionRefs : List String := []
  deriving DecidableEq, Repr

structure CommercialQuoteSnapshot where
  quoteRef : String
  merchantRef : String
  locationRef : String
  currency : String
  total : Decimal
  version : String
  expiresAtEpoch : Int
  lines : List QuoteLineSnapshot
  deriving DecidableEq, Repr

inductive QuoteChangeKind
  | priceChanged
  | availabilityChanged
  | itemMissing
  deriving DecidableEq, Repr

structure QuoteChange where
  kind : QuoteChangeKind
  itemRef : String
  displayedValue : String
  quotedValue : String
  deriving DecidableEq, Repr

structure QuoteReview where
  quote : CommercialQuoteSnapshot
  changes : List QuoteChange
  requiresReconfirmation : Bool
  canContinue : Bool
  deriving DecidableEq, Repr

structure CatalogSession where
  entry : ResolvedEntryContext
  projection : CatalogProjection
  cart : InteractionCart
  deriving DecidableEq, Repr

end XbosCustomerChannel
