import XbosCustomerChannel.Catalog.Model

/-!
# The deterministic catalog fixture

`FakeXBOSCatalogClient`: one merchant at one location, two items, and a version that names every
catalog and every quote. The price and the availability of an item can be set between calls.
-/

namespace XbosCustomerChannel

open Data (Decimal)

structure FakeXBOSCatalogClient where
  merchantRef : String := "merchant:fixture:alpha"
  locationRef : String := "location:fixture:one"
  version : Nat := 1
  /-- The values of `_items`, which are stored under their own references. -/
  items : List CatalogItemProjection :=
    [{ itemRef := "item:fixture:one"
       sectionRef := "section:fixture:daily"
       name := "Fixture Daily Item"
       description := "Deterministic catalog fixture"
       mediaRefs := ["media:fixture:item-one"]
       modifierGroupRefs := ["modifier-group:fixture:sides"]
       availability := .available
       displayPrice := Decimal.ofNat 3000
       currency := "XAF" },
     { itemRef := "item:fixture:two"
       sectionRef := "section:fixture:main"
       name := "Fixture Main Item"
       description := "Second deterministic catalog fixture"
       mediaRefs := []
       modifierGroupRefs := []
       availability := .available
       displayPrice := Decimal.ofNat 4500
       currency := "XAF" }]

namespace FakeXBOSCatalogClient

variable (client : FakeXBOSCatalogClient)

/-- `_assert_context`. -/
def assertContext (merchantRef locationRef : String) : Except Exc Unit :=
  if (merchantRef, locationRef) ≠ (client.merchantRef, client.locationRef) then
    .error ⟨.keyError, "catalog_context_not_found"⟩
  else .ok ()

def projection (merchantRef locationRef : String) : CatalogProjection where
  catalogRef := "catalog:fixture:alpha"
  merchantRef := merchantRef
  locationRef := locationRef
  version := "fixture-v" ++ toString client.version
  currency := "XAF"
  terminology := [("menu", "Menu"), ("item", "Item")]
  sections :=
    [⟨"section:fixture:daily", "Daily Selection", 1⟩, ⟨"section:fixture:main", "Main Selection", 2⟩]
  items := client.items

/-- The line of a quote for a line of the cart; an item that is not there has none. -/
def quoteLine (line : CartLine) : Option QuoteLineSnapshot :=
  (client.items.find? (·.itemRef = line.itemRef)).map fun item =>
    { itemRef := item.itemRef
      quantity := line.quantity
      unitPrice := item.displayPrice
      lineTotal := item.displayPrice.times line.quantity
      availability := item.availability
      optionRefs := line.optionRefs }

/-- The sum of the available lines. -/
def quoteTotal (lines : List QuoteLineSnapshot) : Decimal :=
  (lines.filter (·.availability = .available)).foldl (fun total line => total.plus line.lineTotal)
    (Decimal.ofNat 0)

def resolveQuote (merchantRef locationRef : String) (cart : InteractionCart) (nowEpoch : Int) :
    Except Exc CommercialQuoteSnapshot := do
  client.assertContext merchantRef locationRef
  let lines := cart.lines.filterMap client.quoteLine
  pure
    { quoteRef := "quote:fixture:v" ++ toString client.version
      merchantRef, locationRef
      currency := "XAF"
      total := quoteTotal lines
      version := "fixture-v" ++ toString client.version
      expiresAtEpoch := nowEpoch + 300
      lines }

/-! ## Changes -/

/-- An item is replaced in its place and the version counts on; a reference without an item is a
`KeyError`. -/
def replaceItem (itemRef : String) (changed : CatalogItemProjection → CatalogItemProjection) :
    Except Exc Unit × FakeXBOSCatalogClient :=
  if client.items.any (·.itemRef = itemRef) then
    (.ok (), { client with
      items := client.items.map fun item => if item.itemRef = itemRef then changed item else item
      version := client.version + 1 })
  else (.error ⟨.keyError, itemRef⟩, client)

/-- `set_price`. -/
def setPrice (itemRef : String) (amount : Decimal) : Except Exc Unit × FakeXBOSCatalogClient :=
  client.replaceItem itemRef fun item => { item with displayPrice := amount }

/-- `set_availability`. -/
def setAvailability (itemRef : String) (state : AvailabilityState) :
    Except Exc Unit × FakeXBOSCatalogClient :=
  client.replaceItem itemRef fun item => { item with availability := state }

end FakeXBOSCatalogClient

end XbosCustomerChannel
