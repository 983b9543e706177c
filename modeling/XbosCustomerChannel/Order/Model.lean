import XbosCustomerChannel.Catalog.Model

/-!
# Service modes, confirmations and canonical orders
-/

namespace XbosCustomerChannel

open Data (Decimal)

inductive ServiceMode
  | dineIn
  | takeaway
  | delivery
  deriving DecidableEq, Repr

def ServiceMode.value : ServiceMode → String
  | dineIn => "dine_in"
  | takeaway => "takeaway"
  | delivery => "delivery"

theorem ServiceMode.value_injective : Function.Injective ServiceMode.value := by
  intro a b h
  cases a <;> cases b <;> first | rfl | exact absurd h (by decide)

inductive CanonicalOrderState
  | created
  | confirmed
  deriving DecidableEq, Repr

/-- XBOS-projected service semantics. -/
structure ServiceModeProjection where
  serviceContextRef : String
  merchantRef : String
  locationRef : String
  mode : ServiceMode
  available : Bool
  tableRef : Option String := none
  pickupContextRef : Option String := none
  contactRef : Option String := none
  deliveryAddressRef : Option String := none
  serviceAreaRef : Option String := none
  deliveryFee : Option Decimal := none
  currency : Option String := none
  deriving DecidableEq, Repr

structure CommercialChargeSnapshot where
  chargeRef : String
  label : String
  amount : Decimal
  deriving DecidableEq, Repr

/-- Commercial confirmation supplied by XBOS semantics, not calculated by the channel. -/
structure AuthoritativeOrderConfirmationSnapshot where
  confirmationRef : String
  quoteRef : String
  quoteVersion : String
  merchantRef : String
  locationRef : String
  serviceContextRef : String
  serviceMode : ServiceMode
  lines : List QuoteLineSnapshot
  deliveryFee : Option Decimal
  taxesCharges : List CommercialChargeSnapshot
  total : Decimal
  currency : String
  expiresAtEpoch : Int
  deriving DecidableEq, Repr

structure OrderSubmitRequest where
  clientSubmitRef : String
  correlationRef : String
  confirmationRef : String
  deriving DecidableEq, Repr

/-- Projection of the canonical XBOS order returned through the typed boundary. -/
structure CanonicalOrderProjection where
  orderRef : String
  clientSubmitRef : String
  correlationRef : String
  confirmationRef : String
  state : CanonicalOrderState
  evidenceRef : String
  deriving DecidableEq, Repr

end XbosCustomerChannel
