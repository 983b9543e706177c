import XbosCustomerChannel.Run

/-!
# A small deterministic world

One merchant, one item, one customer, and answers that do not change unless they are told to. Runs
on fixed inputs, where a statement is shown to fail or its hypotheses to be satisfiable, happen
here.
-/

namespace XbosCustomerChannel.Fixture

open XbosCustomerChannel Data

/-! ## References -/

/-- The greatest length of a reference. -/
def longest : List String → Nat
  | [] => 0
  | s :: ss => max s.length (longest ss)

theorem length_le_longest {s : String} {ss : List String} (h : s ∈ ss) : s.length ≤ longest ss := by
  induction ss with
  | nil => cases h
  | cons t ts ih =>
      rcases List.mem_cons.mp h with rfl | h
      · exact le_max_left _ _
      · exact (ih h).trans (le_max_right _ _)

/-- A new reference is longer than every reference taken. -/
def lengthRefs : RefSource where
  token _ taken := String.ofList (List.replicate (longest taken + 1) 'r')
  fresh := by
    intro stem taken hmem
    have hlength := length_le_longest hmem
    rw [String.length_append, String.length_ofList, List.length_replicate] at hlength
    omega

/-! ## Digests -/

/-- The SHA-256 digests of the two confirmations that are prepared here; the byte that is looked at
is the version of the quote. -/
def digest (bytes : List UInt8) : String :=
  if bytes[51]? = some 49 then "b772b9559454c990490b389d2e06dd2d122ed35ca74400b7da14cfff453677f2"
  else "89d96010c79198ebc1ad0e9a79632b90367f184f3bce2760b953fce7342b1d2a"

scoped instance : Hashlib := ⟨digest⟩

/-! ## XBOS -/

def projection : MerchantContextProjection where
  merchantRef := "merchant:fixture:alpha"
  locationRef := "location:fixture:one"
  serviceAvailable := true
  displayName := "Fixture Merchant Alpha"
  terminology := [("table", "Table"), ("order", "Order")]
  currency := "XAF"
  allowedFulfillmentModes := ["dine_in", "takeaway", "delivery"]

def attestation : EntryContextAttestation where
  tenantRef := some "tenant:fixture:a"
  merchantRef := "merchant:fixture:alpha"
  locationRef := "location:fixture:one"
  tableRef := none
  diningAreaRef := none
  purpose := .takeaway
  contextBindingRef := "ctxbind:alpha:one:discovery:v1"
  projection := projection

def entry : ResolvedEntryContext where
  tokenRef := "entry:fixture:takeaway:none"
  merchantRef := "merchant:fixture:alpha"
  locationRef := "location:fixture:one"
  tableRef := none
  diningAreaRef := none
  purpose := .takeaway
  projection := projection
  tenantRef := some "tenant:fixture:a"
  contextBindingRef := "ctxbind:alpha:one:discovery:v1"

def binding : IdentityBindingRecord where
  identityBindingRef := "identity_binding_r"
  identityRef := "identity:fixture:one"
  canonicalChannelSubjectRef := "subject:fixture:one"
  subjectAttestationRef := "subject-attestation:fixture:one"
  conversationRef := "conversation:fixture:one"
  tenantRef := some "tenant:fixture:a"
  merchantRef := "merchant:fixture:alpha"
  locationRef := "location:fixture:one"
  tableRef := none
  diningAreaRef := none
  contextBindingRef := "ctxbind:alpha:one:discovery:v1"
  issuedAtEpoch := 0
  expiresAtEpoch := 100000

def item (price : Nat) : CatalogItemProjection where
  itemRef := "item:fixture:one"
  sectionRef := "section:fixture:daily"
  name := "Fixture Daily Item"
  description := "Deterministic catalog fixture"
  mediaRefs := []
  modifierGroupRefs := []
  availability := .available
  displayPrice := Decimal.ofNat price
  currency := "XAF"

def catalog (version price : Nat) : CatalogProjection where
  catalogRef := "catalog:fixture:alpha"
  merchantRef := "merchant:fixture:alpha"
  locationRef := "location:fixture:one"
  version := "fixture-v" ++ toString version
  currency := "XAF"
  terminology := [("menu", "Menu"), ("item", "Item")]
  sections := [⟨"section:fixture:daily", "Daily Selection", 1⟩]
  items := [item price]

def quote (version price : Nat) (nowEpoch : Int) : CommercialQuoteSnapshot where
  quoteRef := "quote:fixture:v" ++ toString version
  merchantRef := "merchant:fixture:alpha"
  locationRef := "location:fixture:one"
  currency := "XAF"
  total := Decimal.ofNat price
  version := "fixture-v" ++ toString version
  expiresAtEpoch := nowEpoch + 300
  lines := [⟨"item:fixture:one", 1, Decimal.ofNat price, Decimal.ofNat price, .available, []⟩]

/-- XBOS at one version of the catalog. -/
def upstream (version price : Nat) : Upstream where
  resolveQuote _ _ _ nowEpoch := .ok (quote version price nowEpoch)
  attestContext _ _ _ _ _ := .ok attestation
  reconcileSession _ := .ok none
  resolveBinding _ := some binding
  requestOrderChange request :=
    .ok ⟨"decision:fixture:1", request.orderRef, request.correlationRef, true, "accepted",
      "evidence:fixture:1"⟩
  requestCancellation request :=
    .ok ⟨"decision:fixture:2", request.orderRef, request.correlationRef, .cancelBeforePayment, true,
      false, "accepted", "evidence:fixture:2"⟩
  getPaymentRequest order correlation :=
    .ok ⟨"payment-request:fixture:1", order, correlation, Decimal.ofNat 3000, "XAF",
      "policy:fixture:1", "evidence:fixture:3"⟩

/-! ## A customer -/

abbrev Call := ChannelCall FakeXBOSOrderClient

def world : World FakeXBOSOrderClient := .start {} (upstream 1 3000) lengthRefs

def sessionRef : String := "sess_r"

def confirmationHandle : String := "confirmation_handle_r"

/-- The session is created and brought into review. -/
def intoReview : List Call :=
  [.createSession
      { conversationRef := "conversation:fixture:one"
        correlationRef := "correlation:fixture:one"
        identityBindingRef := some "identity_binding_r"
        entryContext := some entry
        nowEpoch := some 0
        expiresAtEpoch := some 10000 },
    .transition { sessionRef, target := .merchantContext, idempotencyKey := "k1" },
    .transition { sessionRef, target := .browsing, idempotencyKey := "k2" },
    .transition { sessionRef, target := .cart, idempotencyKey := "k3" },
    .transition { sessionRef, target := .serviceMode, idempotencyKey := "k4" },
    .transition { sessionRef, target := .review, idempotencyKey := "k5" }]

def prepare (version price : Nat) (nowEpoch : Int) : Call :=
  .prepareConfirmation
    { sessionRef
      catalogSession := ⟨entry, catalog version price, ⟨[⟨"item:fixture:one", 1, [], Int.one_pos⟩]⟩⟩
      serviceMode := .takeaway
      nowEpoch
      contactRef := some "contact:fixture:one" }

def submission (clientSubmitRef : String) (nowEpoch : Int) : SubmitArgs :=
  ⟨sessionRef, confirmationHandle, clientSubmitRef, nowEpoch⟩

/-- The session in review with a confirmation to submit. -/
def reviewed : World FakeXBOSOrderClient := run {} world (intoReview ++ [prepare 1 3000 10])

/-- The order the port gives for the first submission. -/
def firstOrder : CanonicalOrderProjection where
  orderRef := "order:fixture:1"
  clientSubmitRef := "submit:fixture:one"
  correlationRef := "correlation:fixture:one"
  confirmationRef := "confirmation:fixture:fixture-v1:takeaway:" ++
    "service-context:fixture:takeaway:merchant:fixture:alpha:location:fixture:one"
  state := .confirmed
  evidenceRef := "xbos-order-evidence:fixture:1"

/-- The order of a client reference. -/
def orderOf (w : World FakeXBOSOrderClient) (clientSubmitRef : String) :
    Option CanonicalOrderProjection := w.orders.getOrderByClientRef clientSubmitRef

end XbosCustomerChannel.Fixture
