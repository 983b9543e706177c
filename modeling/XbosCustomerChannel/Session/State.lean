import XbosCustomerChannel.Errors

/-!
# Channel session state

The interaction snapshot a session is stored as, the upstream projections that evidence-gated
states rest on, and the entry context a session is bound to.
-/

namespace XbosCustomerChannel

inductive EntryPurpose
  | dineIn
  | takeaway
  | delivery
  | merchantDiscovery
  deriving DecidableEq, Repr

def EntryPurpose.value : EntryPurpose → String
  | dineIn => "dine_in"
  | takeaway => "takeaway"
  | delivery => "delivery"
  | merchantDiscovery => "merchant_discovery"

structure MerchantContextProjection where
  merchantRef : String
  locationRef : String
  serviceAvailable : Bool
  displayName : String
  terminology : List (String × String)
  currency : String
  allowedFulfillmentModes : List String
  deriving DecidableEq, Repr

/-- Server-side XBOS context attestation. -/
structure EntryContextAttestation where
  tenantRef : Option String
  merchantRef : String
  locationRef : String
  tableRef : Option String
  diningAreaRef : Option String
  purpose : EntryPurpose
  contextBindingRef : String
  projection : MerchantContextProjection
  deriving DecidableEq, Repr

structure ResolvedEntryContext where
  tokenRef : String
  merchantRef : String
  locationRef : String
  tableRef : Option String
  diningAreaRef : Option String
  purpose : EntryPurpose
  projection : MerchantContextProjection
  tenantRef : Option String := none
  contextBindingRef : String := "legacy_unattested"
  deriving DecidableEq, Repr

inductive ChannelState
  | start
  | merchantContext
  | browsing
  | cart
  | serviceMode
  | customerDetails
  | review
  | orderSubmitting
  | orderCreated
  | paymentMethod
  | paymentPending
  | paid
  | fulfillment
  | completed
  | humanHandoff
  | canceled
  deriving DecidableEq, Repr

def ChannelState.value : ChannelState → String
  | start => "start"
  | merchantContext => "merchant_context"
  | browsing => "browsing"
  | cart => "cart"
  | serviceMode => "service_mode"
  | customerDetails => "customer_details"
  | review => "review"
  | orderSubmitting => "order_submitting"
  | orderCreated => "order_created"
  | paymentMethod => "payment_method"
  | paymentPending => "payment_pending"
  | paid => "paid"
  | fulfillment => "fulfillment"
  | completed => "completed"
  | humanHandoff => "human_handoff"
  | canceled => "canceled"

inductive UpstreamOrderState
  | created
  | confirmed
  | canceled
  deriving DecidableEq, Repr

inductive UpstreamPaymentCommercialState
  | notRequested
  | pending
  | paid
  | failed
  | canceled
  deriving DecidableEq, Repr

inductive UpstreamFulfillmentState
  | notStarted
  | active
  | completed
  | canceled
  deriving DecidableEq, Repr

/-- Channel interaction snapshot. -/
structure CustomerSessionSnapshot where
  sessionRef : String
  conversationRef : String
  correlationRef : String
  state : ChannelState
  entryTokenRef : Option String := none
  ownerIdentityRef : Option String := none
  tenantRef : Option String := none
  merchantRef : Option String := none
  locationRef : Option String := none
  tableRef : Option String := none
  diningAreaRef : Option String := none
  entryPurpose : Option EntryPurpose := none
  contextBindingRef : Option String := none
  createdAtEpoch : Option Int := none
  expiresAtEpoch : Option Int := none
  generation : Nat := 0
  predecessorSessionRef : Option String := none
  rotatedToSessionRef : Option String := none
  invalidatedAtEpoch : Option Int := none
  securityBindingComplete : Bool := false
  cartRef : Option String := none
  quoteRef : Option String := none
  orderRef : Option String := none
  paymentRef : Option String := none
  lastUpstreamEvidenceRef : Option String := none
  humanHandoffRef : Option String := none
  transitionCount : Nat := 0
  deriving DecidableEq, Repr

/-- Typed evidence projected from authoritative upstream systems. -/
structure UpstreamStateProjection where
  evidenceRef : String
  correlationRef : String
  observedAtEpoch : Int
  orderRef : Option String := none
  orderState : Option UpstreamOrderState := none
  paymentRef : Option String := none
  paymentState : Option UpstreamPaymentCommercialState := none
  fulfillmentState : Option UpstreamFulfillmentState := none
  deriving DecidableEq, Repr

/-- `invalidated_at_epoch is not None or rotated_to_session_ref is not None`. -/
def CustomerSessionSnapshot.staleOrRotated (s : CustomerSessionSnapshot) : Bool :=
  s.invalidatedAtEpoch.isSome || s.rotatedToSessionRef.isSome

/-! ## Context binding -/

/-- The tuple an attestation is compared by. -/
structure BoundContext where
  tenantRef : Option String
  merchantRef : Option String
  locationRef : Option String
  tableRef : Option String
  diningAreaRef : Option String
  purpose : Option EntryPurpose
  contextBindingRef : Option String
  deriving DecidableEq

def CustomerSessionSnapshot.boundContext (s : CustomerSessionSnapshot) : BoundContext :=
  ⟨s.tenantRef, s.merchantRef, s.locationRef, s.tableRef, s.diningAreaRef, s.entryPurpose,
    s.contextBindingRef⟩

def ResolvedEntryContext.boundContext (e : ResolvedEntryContext) : BoundContext :=
  ⟨e.tenantRef, some e.merchantRef, some e.locationRef, e.tableRef, e.diningAreaRef,
    some e.purpose, some e.contextBindingRef⟩

def EntryContextAttestation.boundContext (a : EntryContextAttestation) : BoundContext :=
  ⟨a.tenantRef, some a.merchantRef, some a.locationRef, a.tableRef, a.diningAreaRef,
    some a.purpose, some a.contextBindingRef⟩

/-! ## Writes -/

/-- The keyword arguments of the `dataclasses.replace` calls whose result is stored. A field that
is `none` keeps the base's value; a reference that is given but empty does too, as the call sites
pass `new or current`. -/
structure SessionChanges where
  state : Option ChannelState := none
  orderRef : Option String := none
  paymentRef : Option String := none
  lastUpstreamEvidenceRef : Option String := none
  cartRef : Option String := none
  quoteRef : Option String := none
  humanHandoffRef : Option (Option String) := none
  countsTransition : Bool := false
  deriving DecidableEq, Repr

/-- `dataclasses.replace(base, **changes)`. -/
def CustomerSessionSnapshot.replace (base : CustomerSessionSnapshot) (changes : SessionChanges) :
    CustomerSessionSnapshot :=
  { base with
    state := changes.state.getD base.state
    orderRef := pyOr changes.orderRef base.orderRef
    paymentRef := pyOr changes.paymentRef base.paymentRef
    lastUpstreamEvidenceRef := changes.lastUpstreamEvidenceRef <|> base.lastUpstreamEvidenceRef
    cartRef := pyOr changes.cartRef base.cartRef
    quoteRef := pyOr changes.quoteRef base.quoteRef
    humanHandoffRef := changes.humanHandoffRef.getD base.humanHandoffRef
    transitionCount := base.transitionCount + changes.countsTransition.toNat }

namespace CustomerSessionSnapshot

variable (base : CustomerSessionSnapshot) (changes : SessionChanges)

@[simp] theorem replace_sessionRef : (base.replace changes).sessionRef = base.sessionRef := rfl

theorem replace_empty : base.replace {} = base := by
  cases base
  simp [replace]

end CustomerSessionSnapshot

end XbosCustomerChannel
