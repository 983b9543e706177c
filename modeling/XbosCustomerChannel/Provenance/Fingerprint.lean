import XbosCustomerChannel.Provenance.Model

/-!
# What the fingerprint pins down

The terms of a confirmation are what a customer agrees to: its lines, its charges, its amounts as
numbers. The encoding that is hashed determines them, however long the references and whatever the
representation of the decimals (`terms_eq_of_encoding_eq`).
-/

namespace XbosCustomerChannel

open Data (Decimal Json)

/-! ## Terms -/

structure LineTerms where
  itemRef : String
  quantity : Int
  optionRefs : List String
  unitPrice : ℚ
  lineTotal : ℚ
  availability : AvailabilityState
  deriving DecidableEq

structure ChargeTerms where
  chargeRef : String
  label : String
  amount : ℚ
  deriving DecidableEq

/-- What is agreed to with a confirmation. -/
structure CommercialTerms where
  quoteRef : String
  quoteVersion : String
  merchantRef : String
  locationRef : String
  serviceContextRef : String
  serviceMode : ServiceMode
  lines : List LineTerms
  deliveryFee : Option ℚ
  taxesCharges : List ChargeTerms
  total : ℚ
  currency : String
  expiresAtEpoch : Int
  deriving DecidableEq

def QuoteLineSnapshot.terms (line : QuoteLineSnapshot) : LineTerms where
  itemRef := line.itemRef
  quantity := line.quantity
  optionRefs := line.optionRefs
  unitPrice := line.unitPrice.value
  lineTotal := line.lineTotal.value
  availability := line.availability

def CommercialChargeSnapshot.terms (charge : CommercialChargeSnapshot) : ChargeTerms where
  chargeRef := charge.chargeRef
  label := charge.label
  amount := charge.amount.value

/-- The terms the port holds. -/
def AuthoritativeOrderConfirmationSnapshot.terms (c : AuthoritativeOrderConfirmationSnapshot) :
    CommercialTerms where
  quoteRef := c.quoteRef
  quoteVersion := c.quoteVersion
  merchantRef := c.merchantRef
  locationRef := c.locationRef
  serviceContextRef := c.serviceContextRef
  serviceMode := c.serviceMode
  lines := c.lines.map QuoteLineSnapshot.terms
  deliveryFee := c.deliveryFee.map Decimal.value
  taxesCharges := c.taxesCharges.map CommercialChargeSnapshot.terms
  total := c.total.value
  currency := c.currency
  expiresAtEpoch := c.expiresAtEpoch

/-- The terms the customer is shown. -/
def ServerIssuedConfirmation.terms (shown : ServerIssuedConfirmation) : CommercialTerms where
  quoteRef := shown.quoteRef
  quoteVersion := shown.quoteVersion
  merchantRef := shown.merchantRef
  locationRef := shown.locationRef
  serviceContextRef := shown.serviceContextRef
  serviceMode := shown.serviceMode
  lines := shown.lines.map QuoteLineSnapshot.terms
  deliveryFee := shown.deliveryFee.map Decimal.value
  taxesCharges := shown.taxesCharges.map CommercialChargeSnapshot.terms
  total := shown.total.value
  currency := shown.currency
  expiresAtEpoch := shown.expiresAtEpoch

/-- What is shown is what is recorded. -/
theorem terms_presentationFromRecord (record : ConfirmationProvenanceRecord) :
    (presentationFromRecord record).terms = record.authoritativeSnapshot.terms := rfl

/-! ## From the text back to the terms -/

theorem value_eq_of_decimalJson {a b : Option Decimal}
    (h : (decimalJson a).text = (decimalJson b).text) :
    a.map Decimal.value = b.map Decimal.value := by
  cases a with
  | none =>
      cases b with
      | none => rfl
      | some b => exact absurd h Json.text_null_ne_str
  | some a =>
      cases b with
      | none => exact absurd h.symm Json.text_null_ne_str
      | some b =>
          exact congrArg some (Decimal.value_eq_of_formatF_eq (Json.text_str_inj h))

theorem value_eq_of_decimalJson_some {a b : Decimal}
    (h : (decimalJson (some a)).text = (decimalJson (some b)).text) : a.value = b.value :=
  Option.some.inj (value_eq_of_decimalJson h)

theorem strings_eq_of_text {xs ys : List String}
    (h : (Json.arr (xs.map Json.str)).text = (Json.arr (ys.map Json.str)).text) : xs = ys := by
  have h := Json.map_eq_of_arr (g := id) (fun _ _ => Json.text_str_inj) h
  rwa [List.map_id, List.map_id] at h

theorem terms_eq_of_lineJson {line line' : QuoteLineSnapshot}
    (h : (lineJson line).text = (lineJson line').text) : line.terms = line'.terms := by
  have field {k : String} {v w : Json} (i : Nat) := Json.text_eq_of_obj (k := k) (v := v) (w := w)
    (i := i) h (show ["item_ref", "quantity", "option_refs", "unit_price", "line_total",
      "availability"].Nodup by decide)
  have hitem := Json.text_str_inj (field 0 rfl rfl)
  have hquantity := Json.text_int_inj (field 1 rfl rfl)
  have hoptions := strings_eq_of_text (field 2 rfl rfl)
  have hprice := value_eq_of_decimalJson_some (field 3 rfl rfl)
  have htotal := value_eq_of_decimalJson_some (field 4 rfl rfl)
  have havailability := AvailabilityState.value_injective (Json.text_str_inj (field 5 rfl rfl))
  unfold QuoteLineSnapshot.terms
  rw [hitem, hquantity, hoptions, hprice, htotal, havailability]

theorem terms_eq_of_chargeJson {charge charge' : CommercialChargeSnapshot}
    (h : (chargeJson charge).text = (chargeJson charge').text) : charge.terms = charge'.terms := by
  have field {k : String} {v w : Json} (i : Nat) := Json.text_eq_of_obj (k := k) (v := v) (w := w)
    (i := i) h (show ["charge_ref", "label", "amount"].Nodup by decide)
  have href := Json.text_str_inj (field 0 rfl rfl)
  have hlabel := Json.text_str_inj (field 1 rfl rfl)
  have hamount := value_eq_of_decimalJson_some (field 2 rfl rfl)
  unfold CommercialChargeSnapshot.terms
  rw [href, hlabel, hamount]

/-- Confirmations with one encoding are one to the customer. -/
theorem terms_eq_of_encoding_eq {c c' : AuthoritativeOrderConfirmationSnapshot}
    (h : confirmationEncoding c = confirmationEncoding c') :
    c.confirmationRef = c'.confirmationRef ∧ c.terms = c'.terms := by
  have field {k : String} {v w : Json} (i : Nat) := Json.text_eq_of_obj (k := k) (v := v) (w := w)
    (i := i) (Json.text_eq_of_encode_eq h) (show ["confirmation_ref", "quote_ref", "quote_version",
      "merchant_ref", "location_ref", "service_context_ref", "service_mode", "lines",
      "delivery_fee", "taxes_charges", "total", "currency", "expires_at_epoch"].Nodup by decide)
  have hquote := Json.text_str_inj (field 1 rfl rfl)
  have hversion := Json.text_str_inj (field 2 rfl rfl)
  have hmerchant := Json.text_str_inj (field 3 rfl rfl)
  have hlocation := Json.text_str_inj (field 4 rfl rfl)
  have hcontext := Json.text_str_inj (field 5 rfl rfl)
  have hmode := ServiceMode.value_injective (Json.text_str_inj (field 6 rfl rfl))
  have hlines := Json.map_eq_of_arr (fun _ _ => terms_eq_of_lineJson) (field 7 rfl rfl)
  have hfee := value_eq_of_decimalJson (field 8 rfl rfl)
  have hcharges := Json.map_eq_of_arr (fun _ _ => terms_eq_of_chargeJson) (field 9 rfl rfl)
  have htotal := value_eq_of_decimalJson_some (field 10 rfl rfl)
  have hcurrency := Json.text_str_inj (field 11 rfl rfl)
  have hexpiry := Json.text_int_inj (field 12 rfl rfl)
  refine ⟨Json.text_str_inj (field 0 rfl rfl), ?_⟩
  unfold AuthoritativeOrderConfirmationSnapshot.terms
  rw [hquote, hversion, hmerchant, hlocation, hcontext, hmode, hlines, hfee, hcharges, htotal,
    hcurrency, hexpiry]

/-! ## Field by field -/

/-- Lines that differ at most in how their amounts are written. -/
structure QuoteLineSnapshot.Agrees (line line' : QuoteLineSnapshot) : Prop where
  itemRef : line.itemRef = line'.itemRef
  quantity : line.quantity = line'.quantity
  optionRefs : line.optionRefs = line'.optionRefs
  availability : line.availability = line'.availability
  unitPrice : line.unitPrice.value = line'.unitPrice.value
  lineTotal : line.lineTotal.value = line'.lineTotal.value

structure CommercialChargeSnapshot.Agrees (charge charge' : CommercialChargeSnapshot) : Prop where
  chargeRef : charge.chargeRef = charge'.chargeRef
  label : charge.label = charge'.label
  amount : charge.amount.value = charge'.amount.value

structure AuthoritativeOrderConfirmationSnapshot.Agrees
    (c c' : AuthoritativeOrderConfirmationSnapshot) : Prop where
  confirmationRef : c.confirmationRef = c'.confirmationRef
  quoteRef : c.quoteRef = c'.quoteRef
  quoteVersion : c.quoteVersion = c'.quoteVersion
  merchantRef : c.merchantRef = c'.merchantRef
  locationRef : c.locationRef = c'.locationRef
  serviceContextRef : c.serviceContextRef = c'.serviceContextRef
  serviceMode : c.serviceMode = c'.serviceMode
  lines : List.Forall₂ QuoteLineSnapshot.Agrees c.lines c'.lines
  /-- An absent fee agrees with no fee, also not with one of zero. -/
  deliveryFee : c.deliveryFee.map Decimal.value = c'.deliveryFee.map Decimal.value
  taxesCharges : List.Forall₂ CommercialChargeSnapshot.Agrees c.taxesCharges c'.taxesCharges
  total : c.total.value = c'.total.value
  currency : c.currency = c'.currency
  expiresAtEpoch : c.expiresAtEpoch = c'.expiresAtEpoch

theorem QuoteLineSnapshot.agrees_of_terms_eq {line line' : QuoteLineSnapshot}
    (h : line.terms = line'.terms) : line.Agrees line' where
  itemRef := congrArg LineTerms.itemRef h
  quantity := congrArg LineTerms.quantity h
  optionRefs := congrArg LineTerms.optionRefs h
  availability := congrArg LineTerms.availability h
  unitPrice := congrArg LineTerms.unitPrice h
  lineTotal := congrArg LineTerms.lineTotal h

theorem CommercialChargeSnapshot.agrees_of_terms_eq {charge charge' : CommercialChargeSnapshot}
    (h : charge.terms = charge'.terms) : charge.Agrees charge' where
  chargeRef := congrArg ChargeTerms.chargeRef h
  label := congrArg ChargeTerms.label h
  amount := congrArg ChargeTerms.amount h

theorem forall₂_of_map_eq {α β : Type} {f : α → β} {R : α → α → Prop}
    (hR : ∀ {x y}, f x = f y → R x y) {xs ys : List α} (h : xs.map f = ys.map f) :
    List.Forall₂ R xs ys := by
  rw [← List.forall₂_eq_eq_eq, List.forall₂_map_left_iff, List.forall₂_map_right_iff] at h
  exact h.imp fun _ _ => hR

/-- Confirmations with one encoding agree on every field, line by line and charge by charge. -/
theorem agrees_of_encoding_eq {c c' : AuthoritativeOrderConfirmationSnapshot}
    (h : confirmationEncoding c = confirmationEncoding c') : c.Agrees c' := by
  obtain ⟨hconfirmation, hterms⟩ := terms_eq_of_encoding_eq h
  exact {
    confirmationRef := hconfirmation
    quoteRef := congrArg CommercialTerms.quoteRef hterms
    quoteVersion := congrArg CommercialTerms.quoteVersion hterms
    merchantRef := congrArg CommercialTerms.merchantRef hterms
    locationRef := congrArg CommercialTerms.locationRef hterms
    serviceContextRef := congrArg CommercialTerms.serviceContextRef hterms
    serviceMode := congrArg CommercialTerms.serviceMode hterms
    lines := forall₂_of_map_eq QuoteLineSnapshot.agrees_of_terms_eq
      (congrArg CommercialTerms.lines hterms)
    deliveryFee := congrArg CommercialTerms.deliveryFee hterms
    taxesCharges := forall₂_of_map_eq CommercialChargeSnapshot.agrees_of_terms_eq
      (congrArg CommercialTerms.taxesCharges hterms)
    total := congrArg CommercialTerms.total hterms
    currency := congrArg CommercialTerms.currency hterms
    expiresAtEpoch := congrArg CommercialTerms.expiresAtEpoch hterms }

/-- One line at a price, with a charge of the same amount. -/
def chargedOnce (amount : Decimal) : AuthoritativeOrderConfirmationSnapshot where
  confirmationRef := "confirmation:1"
  quoteRef := "quote:1"
  quoteVersion := "v1"
  merchantRef := "merchant:fixture:alpha"
  locationRef := "location:fixture:alpha-1"
  serviceContextRef := "service:1"
  serviceMode := .takeaway
  lines := [⟨"item:1", 1, amount, amount, .available, ["option:\"é\""]⟩]
  deliveryFee := none
  taxesCharges := [⟨"charge:1", "Service", amount⟩]
  total := amount
  currency := "XAF"
  expiresAtEpoch := 2000

/-- A thousand is encoded in one way, in units or as one thousand. -/
theorem agrees_of_encoding_eq_thousand :
    chargedOnce ⟨false, 1000, 0⟩ ≠ chargedOnce ⟨false, 1, 3⟩ ∧
      (chargedOnce ⟨false, 1000, 0⟩).Agrees (chargedOnce ⟨false, 1, 3⟩) :=
  ⟨by decide, agrees_of_encoding_eq (by decide +kernel)⟩

end XbosCustomerChannel
