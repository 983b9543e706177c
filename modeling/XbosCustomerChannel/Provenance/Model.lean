import XbosCustomerChannel.Data.Json
import XbosCustomerChannel.Order.Model

/-!
# Provenance records and the commercial fingerprint

The fingerprint of a confirmation is the SHA-256 digest of its JSON text. The digest is a
parameter (`Hashlib`): nothing about it is assumed here. What the text itself pins down is proved
in `Provenance.Fingerprint`.
-/

namespace XbosCustomerChannel

open Data (Decimal Json)

/-- `hashlib.sha256(data).hexdigest()`. -/
class Hashlib where
  sha256 : List UInt8 → String

/-- Session and context binding copied into a server-owned provenance record. -/
structure SessionSecurityBinding where
  sessionRef : String
  sessionGeneration : Nat
  ownerIdentityRef : Option String
  entryTokenRef : Option String
  tenantRef : Option String
  merchantRef : Option String
  locationRef : Option String
  tableRef : Option String
  diningAreaRef : Option String
  contextBindingRef : Option String
  correlationRef : String
  deriving DecidableEq, Repr

/-- Server-issued locator for an internally obtained upstream state projection. -/
structure EvidenceProvenanceRecord where
  evidenceHandleRef : String
  binding : SessionSecurityBinding
  projection : UpstreamStateProjection
  deriving DecidableEq, Repr

/-- Customer-safe confirmation presentation plus an opaque server-issued handle. -/
structure ServerIssuedConfirmation where
  confirmationHandleRef : String
  quoteRef : String
  quoteVersion : String
  merchantRef : String
  locationRef : String
  serviceContextRef : String
  serviceMode : ServiceMode
  lines : List QuoteLineSnapshot
  deliveryFee : Option Decimal
  taxesCharges : List CommercialChargeSnapshot
  total : Decimal
  currency : String
  expiresAtEpoch : Int
  deriving DecidableEq, Repr

/-- Server-owned binding between an opaque handle and authoritative XBOS material. -/
structure ConfirmationProvenanceRecord where
  confirmationHandleRef : String
  authoritativeXbosConfirmationRef : String
  binding : SessionSecurityBinding
  quoteRef : String
  quoteVersion : String
  serviceContextRef : String
  serviceMode : ServiceMode
  commercialFingerprint : String
  authoritativeSnapshot : AuthoritativeOrderConfirmationSnapshot
  clientSubmitRefClaim : Option String := none
  deriving DecidableEq, Repr

def bindingFromSession (session : CustomerSessionSnapshot) : SessionSecurityBinding where
  sessionRef := session.sessionRef
  sessionGeneration := session.generation
  ownerIdentityRef := session.ownerIdentityRef
  entryTokenRef := session.entryTokenRef
  tenantRef := session.tenantRef
  merchantRef := session.merchantRef
  locationRef := session.locationRef
  tableRef := session.tableRef
  diningAreaRef := session.diningAreaRef
  contextBindingRef := session.contextBindingRef
  correlationRef := session.correlationRef

def bindingMatchesSession (binding : SessionSecurityBinding) (session : CustomerSessionSnapshot) :
    Bool := binding = bindingFromSession session

/-! ## The fingerprint -/

/-- `_decimal`. -/
def decimalJson : Option Decimal → Json
  | none => .null
  | some d => .str d.formatF

def lineJson (line : QuoteLineSnapshot) : Json :=
  .obj [
    ("item_ref", .str line.itemRef),
    ("quantity", .int line.quantity),
    ("option_refs", .arr (line.optionRefs.map .str)),
    ("unit_price", decimalJson (some line.unitPrice)),
    ("line_total", decimalJson (some line.lineTotal)),
    ("availability", .str line.availability.value)]

def chargeJson (charge : CommercialChargeSnapshot) : Json :=
  .obj [
    ("charge_ref", .str charge.chargeRef),
    ("label", .str charge.label),
    ("amount", decimalJson (some charge.amount))]

def confirmationPayload (snapshot : AuthoritativeOrderConfirmationSnapshot) : Json :=
  .obj [
    ("confirmation_ref", .str snapshot.confirmationRef),
    ("quote_ref", .str snapshot.quoteRef),
    ("quote_version", .str snapshot.quoteVersion),
    ("merchant_ref", .str snapshot.merchantRef),
    ("location_ref", .str snapshot.locationRef),
    ("service_context_ref", .str snapshot.serviceContextRef),
    ("service_mode", .str snapshot.serviceMode.value),
    ("lines", .arr (snapshot.lines.map lineJson)),
    ("delivery_fee", decimalJson snapshot.deliveryFee),
    ("taxes_charges", .arr (snapshot.taxesCharges.map chargeJson)),
    ("total", decimalJson (some snapshot.total)),
    ("currency", .str snapshot.currency),
    ("expires_at_epoch", .int snapshot.expiresAtEpoch)]

/-- The bytes that are hashed. -/
def confirmationEncoding (snapshot : AuthoritativeOrderConfirmationSnapshot) : List UInt8 :=
  (confirmationPayload snapshot).encode

/-- Stable fingerprint of authoritative material whose change requires re-confirmation. -/
def confirmationCommercialFingerprint [Hashlib]
    (snapshot : AuthoritativeOrderConfirmationSnapshot) : String :=
  Hashlib.sha256 (confirmationEncoding snapshot)

def presentationFromRecord (record : ConfirmationProvenanceRecord) : ServerIssuedConfirmation where
  confirmationHandleRef := record.confirmationHandleRef
  quoteRef := record.authoritativeSnapshot.quoteRef
  quoteVersion := record.authoritativeSnapshot.quoteVersion
  merchantRef := record.authoritativeSnapshot.merchantRef
  locationRef := record.authoritativeSnapshot.locationRef
  serviceContextRef := record.authoritativeSnapshot.serviceContextRef
  serviceMode := record.authoritativeSnapshot.serviceMode
  lines := record.authoritativeSnapshot.lines
  deliveryFee := record.authoritativeSnapshot.deliveryFee
  taxesCharges := record.authoritativeSnapshot.taxesCharges
  total := record.authoritativeSnapshot.total
  currency := record.authoritativeSnapshot.currency
  expiresAtEpoch := record.authoritativeSnapshot.expiresAtEpoch

end XbosCustomerChannel
