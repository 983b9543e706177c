import XbosCustomerChannel.Data.Dict
import XbosCustomerChannel.Order.Model

/-!
# The XBOS order port and its deterministic fixture

`XBOSOrderPort π` is the port as the service sees it: a state of `π` that answers. Between calls
the port may also change by itself; `Event` lists how.

`FakeXBOSOrderClient` is the fixture. It keeps one table of orders by client reference, one of the
client reference by confirmation, and the confirmations issued, which it may replace or withdraw.
Two flags make the next submission fail before or after its effect.
-/

namespace XbosCustomerChannel

open Data (Decimal Dict)

class XBOSOrderPort (π : Type) where
  resolveServiceContext : π → (merchantRef locationRef : String) → ServiceMode →
    (tableRef contactRef deliveryAddressRef : Option String) → Except Exc ServiceModeProjection
  prepareOrderConfirmation : π → CommercialQuoteSnapshot → ServiceModeProjection → Int →
    Except Exc AuthoritativeOrderConfirmationSnapshot × π
  resolveOrderConfirmation : π → String → Option AuthoritativeOrderConfirmationSnapshot
  submitOrder : π → OrderSubmitRequest → Except Exc CanonicalOrderProjection × π
  getOrderByClientRef : π → String → Option CanonicalOrderProjection
  Event : Type
  occur : Event → π → π

structure FakeXBOSOrderClient where
  ordersByClientRef : Dict String (String × CanonicalOrderProjection) := ∅
  issuedConfirmations : Dict String AuthoritativeOrderConfirmationSnapshot := ∅
  clientRefByConfirmation : Dict String String := ∅
  orderCounter : Nat := 0
  failNextAfterEffect : Bool := false
  failNextBeforeEffect : Bool := false

namespace FakeXBOSOrderClient

def tableContexts : List (String × String × String) :=
  [("merchant:fixture:alpha", "location:fixture:one", "table:fixture:a1"),
    ("merchant:fixture:beta", "location:fixture:two", "table:fixture:b1")]

def deliveryAddresses : List ((String × String × String) × (String × Decimal)) :=
  [(("merchant:fixture:alpha", "location:fixture:one", "address:fixture:inside"),
    ("service-area:fixture:alpha-local", Decimal.ofNat 750))]

variable (client : FakeXBOSOrderClient)

/-- Service contexts do not depend on the client's tables. -/
def resolveServiceContext (merchantRef locationRef : String) (mode : ServiceMode)
    (tableRef contactRef deliveryAddressRef : Option String) :
    Except Exc ServiceModeProjection :=
  match mode with
  | .dineIn =>
      match tableRef with
      | none => .error ⟨.serviceModeUnavailable, "invalid_or_stale_table_context"⟩
      | some table =>
          if (merchantRef, locationRef, table) ∈ tableContexts then
            .ok
              { serviceContextRef := "service-context:fixture:dine:" ++ table
                merchantRef, locationRef, mode
                available := true
                tableRef := some table
                currency := some "XAF" }
          else .error ⟨.serviceModeUnavailable, "invalid_or_stale_table_context"⟩
  | .takeaway =>
      if falsy contactRef then .error ⟨.serviceModeUnavailable, "takeaway_contact_required"⟩
      else
        .ok
          { serviceContextRef :=
              "service-context:fixture:takeaway:" ++ merchantRef ++ ":" ++ locationRef
            merchantRef, locationRef, mode
            available := true
            pickupContextRef := some ("pickup-context:fixture:" ++ locationRef)
            contactRef
            currency := some "XAF" }
  | .delivery =>
      if falsy contactRef || falsy deliveryAddressRef then
        .error ⟨.serviceModeUnavailable, "delivery_contact_and_address_required"⟩
      else
        let address := deliveryAddressRef.getD ""
        match deliveryAddresses.lookup (merchantRef, locationRef, address) with
        | none => .error ⟨.serviceModeUnavailable, "delivery_service_area_unavailable"⟩
        | some (serviceArea, fee) =>
            .ok
              { serviceContextRef := "service-context:fixture:delivery:" ++ address
                merchantRef, locationRef, mode
                available := true
                contactRef, deliveryAddressRef
                serviceAreaRef := some serviceArea
                deliveryFee := some fee
                currency := some "XAF" }

def confirmationRefFor (quote : CommercialQuoteSnapshot) (serviceContext : ServiceModeProjection) :
    String :=
  "confirmation:fixture:" ++ quote.version ++ ":" ++ serviceContext.mode.value ++ ":" ++
    serviceContext.serviceContextRef

def prepareOrderConfirmation (quote : CommercialQuoteSnapshot)
    (serviceContext : ServiceModeProjection) (nowEpoch : Int) :
    Except Exc AuthoritativeOrderConfirmationSnapshot × FakeXBOSOrderClient :=
  if !serviceContext.available then
    (.error ⟨.serviceModeUnavailable, "service_context_unavailable"⟩, client)
  else if (quote.merchantRef, quote.locationRef) ≠
      (serviceContext.merchantRef, serviceContext.locationRef) then
    (.error ⟨.serviceModeUnavailable, "quote_service_context_mismatch"⟩, client)
  else if quote.expiresAtEpoch ≤ nowEpoch then
    (.error ⟨.serviceModeUnavailable, "quote_expired"⟩, client)
  else
    let fee := serviceContext.deliveryFee
    let extra := match fee with
      | some f => if f.truthy then f else Decimal.ofNat 0
      | none => Decimal.ofNat 0
    let confirmation : AuthoritativeOrderConfirmationSnapshot :=
      { confirmationRef := confirmationRefFor quote serviceContext
        quoteRef := quote.quoteRef
        quoteVersion := quote.version
        merchantRef := quote.merchantRef
        locationRef := quote.locationRef
        serviceContextRef := serviceContext.serviceContextRef
        serviceMode := serviceContext.mode
        lines := quote.lines
        deliveryFee := fee
        taxesCharges := []
        total := quote.total.plus extra
        currency := quote.currency
        expiresAtEpoch := quote.expiresAtEpoch }
    (.ok confirmation,
      { client with
        issuedConfirmations :=
          client.issuedConfirmations.set confirmation.confirmationRef confirmation })

def resolveOrderConfirmation (confirmationRef : String) :
    Option AuthoritativeOrderConfirmationSnapshot :=
  client.issuedConfirmations.get? confirmationRef

/-- A confirmation of another reference, or of one that was not issued, is refused. -/
def replaceIssuedConfirmation (confirmationRef : String)
    (confirmation : AuthoritativeOrderConfirmationSnapshot) : FakeXBOSOrderClient :=
  if confirmation.confirmationRef ≠ confirmationRef then client
  else if (client.issuedConfirmations.get? confirmationRef).isNone then client
  else
    { client with
      issuedConfirmations := client.issuedConfirmations.set confirmationRef confirmation }

def invalidateConfirmation (confirmationRef : String) : FakeXBOSOrderClient :=
  { client with issuedConfirmations := client.issuedConfirmations.remove confirmationRef }

/-- The order the next effect creates. -/
def nextOrder (request : OrderSubmitRequest) : CanonicalOrderProjection where
  orderRef := "order:fixture:" ++ toString (client.orderCounter + 1)
  clientSubmitRef := request.clientSubmitRef
  correlationRef := request.correlationRef
  confirmationRef := request.confirmationRef
  state := .confirmed
  evidenceRef := "xbos-order-evidence:fixture:" ++ toString (client.orderCounter + 1)

/-- The client with the next order placed. -/
def place (request : OrderSubmitRequest) : FakeXBOSOrderClient :=
  { client with
    ordersByClientRef :=
      client.ordersByClientRef.set request.clientSubmitRef
        (request.confirmationRef, client.nextOrder request)
    clientRefByConfirmation :=
      client.clientRefByConfirmation.set request.confirmationRef request.clientSubmitRef
    orderCounter := client.orderCounter + 1 }

def submitOrder (request : OrderSubmitRequest) :
    Except Exc CanonicalOrderProjection × FakeXBOSOrderClient :=
  if (client.issuedConfirmations.get? request.confirmationRef).isNone then
    (.error ⟨.orderSubmissionConflict, "confirmation_not_issued"⟩, client)
  else
    match client.ordersByClientRef.get? request.clientSubmitRef with
    | some (priorConfirmationRef, prior) =>
        if priorConfirmationRef ≠ request.confirmationRef then
          (.error ⟨.orderSubmissionConflict, "idempotency_payload_conflict"⟩, client)
        else (.ok prior, client)
    | none =>
        let priorClientRef := client.clientRefByConfirmation.get? request.confirmationRef
        if priorClientRef.isSome ∧ priorClientRef ≠ some request.clientSubmitRef then
          (.error ⟨.orderSubmissionConflict, "confirmation_handle_client_submit_conflict"⟩, client)
        else if client.failNextBeforeEffect then
          (.error ⟨.orderTransportUnknown, "transport_unknown_before_authoritative_effect"⟩,
            { client with failNextBeforeEffect := false })
        else if client.failNextAfterEffect then
          (.error ⟨.orderTransportUnknown, "transport_unknown_after_authoritative_effect"⟩,
            { client.place request with failNextAfterEffect := false })
        else (.ok (client.nextOrder request), client.place request)

/-- The client after an effect, whether or not the response was lost. -/
def placed (request : OrderSubmitRequest) : FakeXBOSOrderClient :=
  { client.place request with failNextAfterEffect := false }

/-- The request is for an order the client already holds. -/
def Holds (request : OrderSubmitRequest) (order : CanonicalOrderProjection) : Prop :=
  (client.issuedConfirmations.get? request.confirmationRef).isSome = true ∧
    client.ordersByClientRef.get? request.clientSubmitRef = some (request.confirmationRef, order)

/-- The request has an effect. -/
structure Places (request : OrderSubmitRequest) : Prop where
  issued : (client.issuedConfirmations.get? request.confirmationRef).isSome = true
  free : client.ordersByClientRef.get? request.clientSubmitRef = none
  unclaimed : client.clientRefByConfirmation.get? request.confirmationRef = none ∨
    client.clientRefByConfirmation.get? request.confirmationRef = some request.clientSubmitRef
  noFailure : client.failNextBeforeEffect = false

/-- The same orders and confirmations. -/
structure SameTables (client client' : FakeXBOSOrderClient) : Prop where
  orders : client'.ordersByClientRef = client.ordersByClientRef
  confirmations : client'.issuedConfirmations = client.issuedConfirmations
  clientRefs : client'.clientRefByConfirmation = client.clientRefByConfirmation

theorem submitOrder_cases (request : OrderSubmitRequest) :
    (∃ order, client.Holds request order ∧ client.submitOrder request = (.ok order, client)) ∨
    (client.Places request ∧
      (client.submitOrder request = (.ok (client.nextOrder request), client.placed request) ∨
        client.submitOrder request =
          (.error ⟨.orderTransportUnknown, "transport_unknown_after_authoritative_effect"⟩,
            client.placed request))) ∨
    ((∀ order, ¬ client.Holds request order) ∧ ¬ client.Places request ∧
      ∃ e client', client.SameTables client' ∧ client.submitOrder request = (.error e, client') ∧
        (e.cls.isA .orderTransportUnknown = true →
          client.ordersByClientRef.get? request.clientSubmitRef = none)) := by
  have hsame : client.SameTables client := ⟨rfl, rfl, rfl⟩
  unfold submitOrder
  split
  · next hissued =>
    refine .inr (.inr ⟨fun o h => ?_, fun h => ?_, _, client, hsame, rfl, fun h => absurd h (by decide)⟩)
    · simp [Option.isSome_iff_ne_none.mp h.1] at hissued
    · simp [Option.isSome_iff_ne_none.mp h.issued] at hissued
  next hissued =>
  have hissued : (client.issuedConfirmations.get? request.confirmationRef).isSome = true := by
    simpa [Option.isSome_iff_ne_none] using hissued
  split
  · next confirmationRef prior hprior =>
    split
    · next hne =>
      refine .inr (.inr ⟨fun o h => ?_, fun h => ?_, _, client, hsame, rfl, fun h => absurd h (by decide)⟩)
      · rw [h.2] at hprior
        exact hne (Prod.ext_iff.mp (Option.some.inj hprior)).1.symm
      · rw [h.free] at hprior
        cases hprior
    · next heq =>
      obtain rfl : confirmationRef = request.confirmationRef := by simpa using heq
      exact .inl ⟨prior, ⟨hissued, hprior⟩, rfl⟩
  · next hfree =>
    -- no order yet: the claim and the failures that are due decide
    have hno : ∀ order, ¬ client.Holds request order := by
      intro order h
      rw [h.2] at hfree
      cases hfree
    dsimp only
    split
    · next hclaimed =>
      refine .inr (.inr ⟨hno, fun h => ?_, _, client, hsame, rfl, fun h => absurd h (by decide)⟩)
      rcases h.unclaimed with h | h <;> simp [h] at hclaimed
    next hclaimed =>
    have hunclaimed : client.clientRefByConfirmation.get? request.confirmationRef = none ∨
        client.clientRefByConfirmation.get? request.confirmationRef =
          some request.clientSubmitRef := by
      cases hc : client.clientRefByConfirmation.get? request.confirmationRef with
      | none => exact .inl rfl
      | some c =>
          refine .inr ?_
          by_contra hne
          exact hclaimed (by rw [hc]; exact ⟨rfl, hne⟩)
    split
    · next hfail =>
      refine .inr (.inr ⟨hno, fun h => ?_, _, { client with failNextBeforeEffect := false },
        ⟨rfl, rfl, rfl⟩, rfl, fun _ => hfree⟩)
      rw [h.noFailure] at hfail
      cases hfail
    next hfail =>
    have hplaces : client.Places request := ⟨hissued, hfree, hunclaimed, by simpa using hfail⟩
    split
    -- the effect has taken place, whether or not the answer comes back
    · exact .inr (.inl ⟨hplaces, .inr rfl⟩)
    · next hafter =>
      refine .inr (.inl ⟨hplaces, .inl ?_⟩)
      unfold placed
      congr 1
      cases client
      simpa [place] using hafter

def getOrderByClientRef (clientSubmitRef : String) : Option CanonicalOrderProjection :=
  (client.ordersByClientRef.get? clientSubmitRef).map (·.2)

/-- What can happen to the fixture between calls. -/
inductive Event
  | failNext (beforeEffect afterEffect : Bool)
  | replaceIssuedConfirmation (confirmationRef : String)
      (confirmation : AuthoritativeOrderConfirmationSnapshot)
  | invalidateConfirmation (confirmationRef : String)

def occur : Event → FakeXBOSOrderClient → FakeXBOSOrderClient
  | .failNext before after, client =>
      { client with failNextBeforeEffect := before, failNextAfterEffect := after }
  | .replaceIssuedConfirmation ref confirmation, client =>
      client.replaceIssuedConfirmation ref confirmation
  | .invalidateConfirmation ref, client => client.invalidateConfirmation ref

instance : XBOSOrderPort FakeXBOSOrderClient where
  resolveServiceContext _ := resolveServiceContext
  prepareOrderConfirmation := prepareOrderConfirmation
  resolveOrderConfirmation := resolveOrderConfirmation
  submitOrder := submitOrder
  getOrderByClientRef := getOrderByClientRef
  Event := Event
  occur := occur

end FakeXBOSOrderClient

end XbosCustomerChannel
