import Mathlib.Data.List.Induction
import XbosCustomerChannel.Catalog.FakeClient

/-!
# The price list of the catalog fixture

After any changes, an item has the price and the availability that were last set for it, or those it
had at first. That is the price list a quote is to be measured by; `find?_after` says that the
fixture keeps it, and `quoteLine_after` that its quote lines are read off it.
-/

namespace XbosCustomerChannel

open Data (Decimal)

/-- A change of the fixture between two calls. -/
inductive CatalogControl
  | setPrice (itemRef : String) (amount : Decimal)
  | setAvailability (itemRef : String) (state : AvailabilityState)

namespace CatalogControl

/-- The price that the change sets for the item. -/
def price? (itemRef : String) : CatalogControl → Option Decimal
  | setPrice ref amount => if ref = itemRef then some amount else none
  | setAvailability _ _ => none

/-- The availability that the change sets for the item. -/
def availability? (itemRef : String) : CatalogControl → Option AvailabilityState
  | setPrice _ _ => none
  | setAvailability ref state => if ref = itemRef then some state else none

/-- What was last set, or what there was at first. -/
def lastSet {β : Type} (sets? : CatalogControl → Option β) (controls : List CatalogControl)
    (atFirst : β) : β := (controls.filterMap sets?).getLast?.getD atFirst

theorem lastSet_concat {β : Type} (sets? : CatalogControl → Option β)
    (controls : List CatalogControl) (c : CatalogControl) (atFirst : β) :
    lastSet sets? (controls ++ [c]) atFirst = (sets? c).getD (lastSet sets? controls atFirst) := by
  unfold lastSet
  rw [List.filterMap_append]
  cases hc : sets? c <;> simp [hc]

/-- The item with what the change sets for its reference. -/
def applied (c : CatalogControl) (item : CatalogItemProjection) : CatalogItemProjection :=
  { item with
    displayPrice := (c.price? item.itemRef).getD item.displayPrice
    availability := (c.availability? item.itemRef).getD item.availability }

theorem applied_setPrice (itemRef : String) (amount : Decimal) (item : CatalogItemProjection) :
    (setPrice itemRef amount).applied item =
      if item.itemRef = itemRef then { item with displayPrice := amount } else item := by
  by_cases heq : item.itemRef = itemRef
  · subst heq
    simp [applied, price?, availability?]
  · simp [applied, price?, availability?, heq, Ne.symm heq]

theorem applied_setAvailability (itemRef : String) (state : AvailabilityState)
    (item : CatalogItemProjection) : (setAvailability itemRef state).applied item =
      if item.itemRef = itemRef then { item with availability := state } else item := by
  by_cases heq : item.itemRef = itemRef
  · subst heq
    simp [applied, price?, availability?]
  · simp [applied, price?, availability?, heq, Ne.symm heq]

end CatalogControl

namespace FakeXBOSCatalogClient

open CatalogControl

/-- The client after a change; one that is refused changes nothing. -/
def control (client : FakeXBOSCatalogClient) : CatalogControl → FakeXBOSCatalogClient
  | .setPrice itemRef amount => (client.setPrice itemRef amount).2
  | .setAvailability itemRef state => (client.setAvailability itemRef state).2

/-- The fixture after these changes. -/
def after (controls : List CatalogControl) : FakeXBOSCatalogClient := controls.foldl control {}

theorem after_concat (controls : List CatalogControl) (c : CatalogControl) :
    after (controls ++ [c]) = (after controls).control c := by
  simp [after]

/-- The price of an item after these changes: what it was last set to, or its first. -/
def priceAfter (controls : List CatalogControl) (itemRef : String) : Option Decimal :=
  (({} : FakeXBOSCatalogClient).items.find? (·.itemRef = itemRef)).map fun item =>
    lastSet (price? itemRef) controls item.displayPrice

/-- The availability of an item after these changes. -/
def availabilityAfter (controls : List CatalogControl) (itemRef : String) :
    Option AvailabilityState :=
  (({} : FakeXBOSCatalogClient).items.find? (·.itemRef = itemRef)).map fun item =>
    lastSet (availability? itemRef) controls item.availability

/-! ## The fixture keeps the price list -/

variable (client : FakeXBOSCatalogClient)

theorem find?_replaceItem (itemRef : String)
    (changed : CatalogItemProjection → CatalogItemProjection)
    (hkept : ∀ item, (changed item).itemRef = item.itemRef) (ref : String) :
    (client.replaceItem itemRef changed).2.items.find? (·.itemRef = ref) =
      (client.items.find? (·.itemRef = ref)).map fun item =>
        if item.itemRef = itemRef then changed item else item := by
  unfold replaceItem
  split
  · dsimp only
    rw [List.find?_map]
    apply congrArg (Option.map _)
    apply congrArg (List.find? · client.items)
    funext item
    simp only [Function.comp_apply]
    split
    · rw [hkept]
    · rfl
  · next hunknown =>
      cases hfound : client.items.find? (·.itemRef = ref) with
      | none => rfl
      | some item =>
          -- the item that is found is another one than the one that is not there
          have hother : item.itemRef ≠ itemRef := by
            intro heq
            apply hunknown
            exact List.any_eq_true.mpr ⟨item, List.mem_of_find?_eq_some hfound, by simp [heq]⟩
          simp [hother]

theorem find?_control (c : CatalogControl) (ref : String) :
    (client.control c).items.find? (·.itemRef = ref) =
      (client.items.find? (·.itemRef = ref)).map c.applied := by
  cases c with
  | setPrice itemRef amount =>
      rw [funext (applied_setPrice itemRef amount)]
      apply client.find?_replaceItem
      intro item
      rfl
  | setAvailability itemRef state =>
      rw [funext (applied_setAvailability itemRef state)]
      apply client.find?_replaceItem
      intro item
      rfl

/-- The item of a reference, as it stands after these changes. -/
theorem find?_after (controls : List CatalogControl) (ref : String) :
    (after controls).items.find? (·.itemRef = ref) =
      (({} : FakeXBOSCatalogClient).items.find? (·.itemRef = ref)).map fun item =>
        { item with
          displayPrice := lastSet (price? ref) controls item.displayPrice
          availability := lastSet (availability? ref) controls item.availability } := by
  induction controls using List.reverseRecOn with
  | nil => simp [after, lastSet]
  | append_singleton controls c ih =>
      rw [after_concat, find?_control, ih]
      cases hfound : ({} : FakeXBOSCatalogClient).items.find? (·.itemRef = ref) with
      | none => rfl
      | some item =>
          have href : item.itemRef = ref := by
            simpa using List.find?_some hfound
          simp [applied, lastSet_concat, href]

/-- A quote has a line for a cart line if the item is there, at its price and availability. -/
theorem quoteLine_after {controls : List CatalogControl} {line : CartLine}
    {quoted : QuoteLineSnapshot} (h : (after controls).quoteLine line = some quoted) :
    quoted.itemRef = line.itemRef ∧ quoted.quantity = line.quantity ∧
      quoted.optionRefs = line.optionRefs ∧
      priceAfter controls line.itemRef = some quoted.unitPrice ∧
      availabilityAfter controls line.itemRef = some quoted.availability ∧
      quoted.lineTotal = quoted.unitPrice.times line.quantity := by
  unfold quoteLine at h
  rw [find?_after] at h
  cases hfound : ({} : FakeXBOSCatalogClient).items.find? (·.itemRef = line.itemRef) with
  | none =>
      rw [hfound] at h
      cases h
  | some item =>
      rw [hfound] at h
      obtain rfl := Option.some.inj h
      have href : item.itemRef = line.itemRef := by
        simpa using List.find?_some hfound
      refine ⟨href, rfl, rfl, ?_, ?_, rfl⟩
      · unfold priceAfter
        rw [hfound]
        rfl
      · unfold availabilityAfter
        rw [hfound]
        rfl

end FakeXBOSCatalogClient

end XbosCustomerChannel
