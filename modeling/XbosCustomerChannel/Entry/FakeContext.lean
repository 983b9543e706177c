import XbosCustomerChannel.Data.Traversal
import XbosCustomerChannel.Data.VersionedRef
import XbosCustomerChannel.Entry.Service

/-!
# The deterministic context fixture

`FakeXBOSContextClient`: two merchants with a location each, the tables there, and the references
that bind a place. A table that is reassigned is bound anew, under the next version of its reference.
-/

namespace XbosCustomerChannel

open Data

structure FakeXBOSContextClient where
  contexts : Dict (String × String) (String × MerchantContextProjection)
  tables : Dict (String × String × String) (Option String × String)
  discoveryBindings : Dict (String × String) String

/-- The keyword arguments of `reassign_table`. -/
structure Reassignment where
  merchantRef : String
  locationRef : String
  tableRef : String
  diningAreaRef : Option String := none
  deriving DecidableEq, Repr

def Reassignment.key (r : Reassignment) : String × String × String :=
  (r.merchantRef, r.locationRef, r.tableRef)

namespace FakeXBOSContextClient

def alpha : MerchantContextProjection where
  merchantRef := "merchant:fixture:alpha"
  locationRef := "location:fixture:one"
  serviceAvailable := true
  displayName := "Fixture Merchant Alpha"
  terminology := [("table", "Table"), ("order", "Order")]
  currency := "XAF"
  allowedFulfillmentModes := ["dine_in", "takeaway", "delivery"]

def beta : MerchantContextProjection where
  merchantRef := "merchant:fixture:beta"
  locationRef := "location:fixture:two"
  serviceAvailable := true
  displayName := "Fixture Merchant Beta"
  terminology := [("table", "Table"), ("order", "Order")]
  currency := "XAF"
  allowedFulfillmentModes := ["dine_in", "takeaway"]

/-- `__init__`. -/
def fixture : FakeXBOSContextClient where
  contexts := (∅ : Dict (String × String) (String × MerchantContextProjection))
    |>.set ("merchant:fixture:alpha", "location:fixture:one") ("tenant:fixture:a", alpha)
    |>.set ("merchant:fixture:beta", "location:fixture:two") ("tenant:fixture:b", beta)
  tables := (∅ : Dict (String × String × String) (Option String × String))
    |>.set ("merchant:fixture:alpha", "location:fixture:one", "table:fixture:a1")
      (some "area:fixture:main", "ctxbind:alpha:one:a1:v1")
    |>.set ("merchant:fixture:alpha", "location:fixture:one", "table:fixture:a2")
      (some "area:fixture:main", "ctxbind:alpha:one:a2:v1")
    |>.set ("merchant:fixture:beta", "location:fixture:two", "table:fixture:b1")
      (none, "ctxbind:beta:two:b1:v1")
  discoveryBindings := (∅ : Dict (String × String) String)
    |>.set ("merchant:fixture:alpha", "location:fixture:one") "ctxbind:alpha:one:discovery:v1"
    |>.set ("merchant:fixture:beta", "location:fixture:two") "ctxbind:beta:two:discovery:v1"

/-- The binding that follows one: `f"{stem}:v{version}"`, with the version read and raised by one. -/
def followingBinding (currentBinding : String) : Except Exc String := do
  match Text.rsplit VersionedRef.separator currentBinding.toList with
  | none => .error ⟨.other "IndexError", "list index out of range"⟩
  | some (stem, versionText) =>
      match PyInt.parse versionText with
      | none =>
          .error ⟨.valueError,
            "invalid literal for int() with base 10: '" ++ String.ofList versionText ++ "'"⟩
      | some version => do
          let following ← HmacEntryTokenCodec.formatInt (version + 1)
          pure (String.ofList (stem ++ VersionedRef.separator ++ following.toList))

variable (client : FakeXBOSContextClient)

def reassignTable (r : Reassignment) : Except Exc Unit × FakeXBOSContextClient :=
  match client.tables.get? r.key with
  | none => (.error ⟨.keyError, "table_context_not_found"⟩, client)
  | some (_, currentBinding) =>
      match followingBinding currentBinding with
      | .error e => (.error e, client)
      | .ok binding =>
          (.ok (), { client with tables := client.tables.set r.key (r.diningAreaRef, binding) })

/-- What `resolve_context` and `attest_context` have in common: the tenant and the projection of a
place that is open to the purpose. -/
def contextFor (merchantRef locationRef : String) (tableRef : Option String)
    (purpose : EntryPurpose) : Except Exc (String × MerchantContextProjection) :=
  match client.contexts.get? (merchantRef, locationRef) with
  | none => .error ⟨.keyError, "xbos_context_not_found"⟩
  | some (tenantRef, projection) =>
      if purpose.value ∉ projection.allowedFulfillmentModes ∧ purpose ≠ .merchantDiscovery then
        .error ⟨.permissionError, "entry_purpose_not_available"⟩
      else if purpose = .dineIn ∧ tableRef = none then
        .error ⟨.valueError, "table_required_for_dine_in"⟩
      else .ok (tenantRef, projection)

/-- `resolve_context`, which does not look the table up. -/
def resolveContext (merchantRef locationRef : String) (tableRef : Option String)
    (purpose : EntryPurpose) : Except Exc MerchantContextProjection :=
  (client.contextFor merchantRef locationRef tableRef purpose).map Prod.snd

/-- The area and the binding of a table, or the binding of a place without one. -/
def bindingFor (merchantRef locationRef : String) (tableRef diningAreaRef : Option String) :
    Except Exc (Option String × String) :=
  match tableRef with
  | some tableRef =>
      match client.tables.get? (merchantRef, locationRef, tableRef) with
      | none => .error ⟨.permissionError, "table_not_member_of_context"⟩
      | some (resolvedArea, bindingRef) =>
          if diningAreaRef.isSome ∧ resolvedArea ≠ diningAreaRef then
            .error ⟨.permissionError, "dining_area_not_member_of_context"⟩
          else .ok (resolvedArea, bindingRef)
  | none =>
      match client.discoveryBindings.get? (merchantRef, locationRef) with
      | none => .error ⟨.keyError, "('" ++ merchantRef ++ "', '" ++ locationRef ++ "')"⟩
      | some bindingRef =>
          if diningAreaRef.isSome then
            .error ⟨.permissionError, "dining_area_requires_table_context"⟩
          else .ok (none, bindingRef)

def attestContext (merchantRef locationRef : String) (tableRef : Option String)
    (purpose : EntryPurpose) (diningAreaRef : Option String) : Except Exc EntryContextAttestation := do
  let (tenantRef, projection) ← client.contextFor merchantRef locationRef tableRef purpose
  let (resolvedArea, bindingRef) ←
    client.bindingFor merchantRef locationRef tableRef diningAreaRef
  pure
    { tenantRef := some tenantRef
      merchantRef
      locationRef
      tableRef
      diningAreaRef := resolvedArea
      purpose
      contextBindingRef := bindingRef
      projection }

/-- The client as the context port; what happens to it from outside is that tables are reassigned. -/
instance : XBOSContextPort FakeXBOSContextClient where
  attestContext client merchantRef locationRef tableRef purpose diningAreaRef :=
    (client.attestContext merchantRef locationRef tableRef purpose diningAreaRef, client)
  Event := Reassignment
  occur r client := (client.reassignTable r).2

def run (rs : List Reassignment) : FakeXBOSContextClient :=
  rs.foldl (fun client r => (client.reassignTable r).2) client

@[simp] theorem run_nil : client.run [] = client := rfl

@[simp] theorem run_cons (r : Reassignment) (rs : List Reassignment) :
    client.run (r :: rs) = (client.reassignTable r).2.run rs := rfl

/-! ## What the methods do -/

/-- A place: a merchant, a location, and a table or none. -/
abbrev Place := String × String × Option String

/-- The area and the reference a place is bound by. -/
def bound? : Place → Option (Option String × String)
  | (merchantRef, locationRef, some tableRef) =>
      client.tables.get? (merchantRef, locationRef, tableRef)
  | (merchantRef, locationRef, none) =>
      (client.discoveryBindings.get? (merchantRef, locationRef)).map fun bindingRef => (none, bindingRef)

def bindingRef? (place : Place) : Option String := (client.bound? place).map Prod.snd

variable {client}

/-- An area may be asked for or not. -/
theorem bindingFor_ok {merchantRef locationRef : String} {tableRef diningAreaRef : Option String}
    {found : Option String × String} :
    client.bindingFor merchantRef locationRef tableRef diningAreaRef = .ok found ↔
      client.bound? (merchantRef, locationRef, tableRef) = some found ∧
        (diningAreaRef.isSome → found.1 = diningAreaRef) := by
  unfold bindingFor bound?
  cases tableRef with
  | some tableRef =>
      cases hget : client.tables.get? (merchantRef, locationRef, tableRef) with
      | none => simp [hget]
      | some bound =>
          simp only [hget]
          split
          · next hother =>
            simp only [reduceCtorEq, Option.some.injEq, false_iff, not_and]
            rintro rfl harea
            exact hother.2 (harea hother.1)
          · next hsame =>
            simp only [Except.ok.injEq, Option.some.injEq, iff_self_and]
            rintro rfl hgiven
            by_contra hne
            exact hsame ⟨hgiven, hne⟩
  | none =>
      cases hget : client.discoveryBindings.get? (merchantRef, locationRef) with
      | none => simp [hget]
      | some bindingRef =>
          simp only [hget, Option.map_some]
          split
          · next hgiven =>
            simp only [reduceCtorEq, Option.some.injEq, false_iff, not_and]
            rintro rfl harea
            rw [← harea hgiven] at hgiven
            cases hgiven
          · next hnot =>
            simp only [Except.ok.injEq, Option.some.injEq, iff_self_and]
            rintro rfl hgiven
            exact absurd hgiven hnot

/-- An attestation names the place that was asked for and its binding. -/
theorem attestContext_ok {merchantRef locationRef : String} {tableRef : Option String}
    {purpose : EntryPurpose} {diningAreaRef : Option String} {a : EntryContextAttestation}
    (h : client.attestContext merchantRef locationRef tableRef purpose diningAreaRef = .ok a) :
    (a.merchantRef = merchantRef ∧ a.locationRef = locationRef ∧ a.tableRef = tableRef) ∧
      client.bindingRef? (merchantRef, locationRef, tableRef) = some a.contextBindingRef := by
  unfold attestContext at h
  obtain ⟨context, -, h⟩ := Traversal.bind_eq_ok.mp h
  obtain ⟨found, hfound, h⟩ := Traversal.bind_eq_ok.mp h
  obtain rfl := Except.ok.inj h
  refine ⟨⟨rfl, rfl, rfl⟩, ?_⟩
  rw [bindingRef?, (bindingFor_ok.mp hfound).1]
  rfl

/-- A binding that was written as a versioned reference is followed by its next version, while that
one can be written. -/
theorem followingBinding_text {r : VersionedRef} {binding : String}
    (hwritable : (PyInt.format r.version).isSome) (h : followingBinding r.text = .ok binding) :
    binding = r.next.text ∧ (PyInt.format r.next.version).isSome := by
  unfold followingBinding at h
  rw [VersionedRef.text_toList, VersionedRef.rsplit_chars] at h
  simp only [PyInt.parse_of_format hwritable] at h
  obtain ⟨following, hfollowing, h⟩ := Traversal.bind_eq_ok.mp h
  unfold HmacEntryTokenCodec.formatInt at hfollowing
  split at hfollowing
  · next text hformat =>
    obtain rfl := Except.ok.inj hfollowing
    obtain rfl := Except.ok.inj h
    have hnext : PyInt.format r.next.version = some text := hformat
    refine ⟨?_, by rw [hnext]; rfl⟩
    unfold PyInt.format at hformat
    split at hformat
    · obtain rfl := Option.some.inj hformat
      rfl
    · cases hformat
  · cases hfollowing

end FakeXBOSContextClient

end XbosCustomerChannel
