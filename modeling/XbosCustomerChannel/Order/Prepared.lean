import Mathlib.Data.List.Forall2
import XbosCustomerChannel.Catalog.Acceptance
import XbosCustomerChannel.Catalog.Prices
import XbosCustomerChannel.Order.Shown

/-!
# A prepared confirmation is the cart, priced

With the two fixtures behind the ports, `prepare_confirmation` answers with the cart at the price
list of the catalog. A quote drops a line whose item is not there and leaves an unavailable line out
of its total; the review looks at every line of the cart, so neither gets past it.
-/

namespace XbosCustomerChannel

open Effects Effects.Program Data CatalogQuoteService

/-! ## The catalog behind the port -/

/-- The world with this catalog answering for quotes. -/
def World.withCatalog {π : Type} (w : World π) (client : FakeXBOSCatalogClient) : World π :=
  { w with upstream := { w.upstream with resolveQuote := client.resolveQuote } }

namespace CatalogQuoteService

theorem reviewQuote_quote {session : CatalogSession} {quote : CommercialQuoteSnapshot}
    {review : QuoteReview} (h : reviewQuote session quote = .ok review) : review.quote = quote := by
  unfold reviewQuote at h
  split at h
  · cases h
  · rw [← Except.ok.inj h]

theorem acceptReview_quote {review : QuoteReview} {acknowledged : String}
    {quote : CommercialQuoteSnapshot} (h : acceptReview review acknowledged = .ok quote) :
    quote = review.quote := by
  unfold acceptReview at h
  split at h
  · cases h
  split at h
  · cases h
  exact (Except.ok.inj h).symm

variable {π : Type} [XBOSOrderPort π] [Hashlib]

/-- A review is of the quote that XBOS gives for the cart, in the session's context. -/
theorem reviewForConfirmation_ok {session : CatalogSession} {now : Int} {w w' : World π}
    {review : QuoteReview}
    (h : exec handle (reviewForConfirmation session now) w = (.ok review, w')) :
    w' = w ∧ w.upstream.resolveQuote session.entry.merchantRef session.entry.locationRef session.cart
        now = .ok review.quote ∧
      review.quote.merchantRef = session.entry.merchantRef ∧
      review.quote.locationRef = session.entry.locationRef := by
  unfold reviewForConfirmation at h
  rw [exec_ask_bind] at h
  obtain ⟨quote, hquote, h⟩ := ofExcept_bind_ok_inv handle h
  obtain ⟨hcontext, h⟩ := raiseIf_bind_ok_inv handle h
  rw [exec_ofExcept] at h
  obtain ⟨hreview, rfl⟩ := Prod.mk.inj h
  rw [reviewQuote_quote hreview]
  rw [not_or, not_not, not_not] at hcontext
  exact ⟨rfl, hquote, hcontext⟩

end CatalogQuoteService

namespace FakeXBOSOrderClient

/-- The fee that the fixture's service contexts have. -/
def feeOf : ServiceMode → Option Decimal
  | .delivery => some (Decimal.ofNat 750)
  | _ => none

/-- A service context is of its mode, has the fee of that and, at a table, is named by it. -/
theorem resolveServiceContext_ok {merchantRef locationRef : String} {mode : ServiceMode}
    {tableRef contactRef deliveryAddressRef : Option String} {context : ServiceModeProjection}
    (h : resolveServiceContext merchantRef locationRef mode tableRef contactRef deliveryAddressRef =
      .ok context) :
    context.deliveryFee = feeOf mode ∧
      (mode = .dineIn → ∃ table, tableRef = some table ∧
        (merchantRef, locationRef, table) ∈ tableContexts ∧
        context.serviceContextRef = "service-context:fixture:dine:" ++ table) := by
  unfold resolveServiceContext at h
  cases mode with
  | dineIn =>
      dsimp only at h
      split at h
      · cases h
      · next table =>
          split at h
          · next hknown =>
              obtain rfl := Except.ok.inj h
              exact ⟨rfl, fun _ => ⟨table, rfl, hknown, rfl⟩⟩
          · cases h
  | takeaway =>
      dsimp only at h
      split at h
      · cases h
      · obtain rfl := Except.ok.inj h
        exact ⟨rfl, fun hmode => by cases hmode⟩
  | delivery =>
      dsimp only at h
      split at h
      · cases h
      · split at h
        · cases h
        · next area fee hlookup =>
            obtain rfl := Except.ok.inj h
            -- the one address that is served
            have hfee : fee = Decimal.ofNat 750 := by
              unfold deliveryAddresses at hlookup
              simp only [List.lookup_cons, List.lookup_nil] at hlookup
              split at hlookup
              · exact (Prod.mk.inj (Option.some.inj hlookup)).2.symm
              · cases hlookup
            exact ⟨congrArg some hfee, fun hmode => by cases hmode⟩

/-- The amount that is added for a fee: none is nothing. -/
def feeAdded (fee : Option Decimal) : Decimal :=
  match fee with
  | some f => if f.truthy then f else Decimal.ofNat 0
  | none => Decimal.ofNat 0

theorem value_feeAdded_feeOf (mode : ServiceMode) :
    (feeAdded (feeOf mode)).value = ((feeOf mode).map Decimal.value).getD 0 := by
  cases mode with
  | dineIn => simp [feeOf, feeAdded, Decimal.ofNat, Decimal.value]
  | takeaway => simp [feeOf, feeAdded, Decimal.ofNat, Decimal.value]
  | delivery => rfl

/-- The confirmation of a quote in a service context. -/
structure Confirms (confirmation : AuthoritativeOrderConfirmationSnapshot)
    (quote : CommercialQuoteSnapshot) (context : ServiceModeProjection) : Prop where
  lines : confirmation.lines = quote.lines
  fee : confirmation.deliveryFee = context.deliveryFee
  total : confirmation.total = quote.total.plus (feeAdded context.deliveryFee)
  expiry : confirmation.expiresAtEpoch = quote.expiresAtEpoch
  context : confirmation.serviceContextRef = context.serviceContextRef

theorem prepareOrderConfirmation_ok {client client' : FakeXBOSOrderClient}
    {quote : CommercialQuoteSnapshot} {context : ServiceModeProjection} {now : Int}
    {confirmation : AuthoritativeOrderConfirmationSnapshot}
    (h : client.prepareOrderConfirmation quote context now = (.ok confirmation, client')) :
    now < quote.expiresAtEpoch ∧ Confirms confirmation quote context := by
  unfold prepareOrderConfirmation at h
  split at h
  · cases h
  split at h
  · cases h
  split at h
  · cases h
  next hexpiry =>
  obtain ⟨hconfirmation, -⟩ := Prod.mk.inj h
  obtain rfl := Except.ok.inj hconfirmation
  exact ⟨not_le.mp hexpiry, ⟨rfl, rfl, rfl, rfl, rfl⟩⟩

end FakeXBOSOrderClient

/-! ## What `prepare_confirmation` went through -/

namespace OrderDraftConfirmationService

variable [Hashlib]

/-- The service context is that of the session's own table, which XBOS knows at its place. -/
def AtOwnTable (session : CustomerSessionSnapshot) (serviceContextRef : String) : Prop :=
  ∃ merchant location table, session.merchantRef = some merchant ∧
    session.locationRef = some location ∧ session.tableRef = some table ∧
    (merchant, location, table) ∈ FakeXBOSOrderClient.tableContexts ∧
    serviceContextRef = "service-context:fixture:dine:" ++ table

omit [Hashlib] in
theorem assertSessionMatchesEntry_place {session : CustomerSessionSnapshot}
    {entry : ResolvedEntryContext} (h : assertSessionMatchesEntry session entry = .ok ()) :
    session.merchantRef = some entry.merchantRef ∧ session.locationRef = some entry.locationRef ∧
      session.tableRef = entry.tableRef := by
  unfold assertSessionMatchesEntry at h
  split at h
  · cases h
  next hplace =>
  split at h
  · cases h
  next htable =>
  obtain ⟨hmerchant, hlocation⟩ := Prod.mk.inj (not_not.mp hplace)
  exact ⟨hmerchant, hlocation, not_not.mp htable⟩

omit [Hashlib] in
theorem serviceModeTable_dineIn {args : PrepareConfirmationArgs} (hmode : args.serviceMode = .dineIn)
    {tableRef : Option String} (h : serviceModeTable args = .ok tableRef) :
    args.catalogSession.entry.tableRef = tableRef := by
  unfold serviceModeTable at h
  rw [hmode] at h
  dsimp only at h
  split at h
  · cases h
  · exact Except.ok.inj h

/-- A drafted confirmation is of an accepted quote, in a service context for the session's place. -/
theorem draftConfirmation_ok {args : PrepareConfirmationArgs} {session : CustomerSessionSnapshot}
    {w w' : World FakeXBOSOrderClient} {confirmation : AuthoritativeOrderConfirmationSnapshot}
    (h : exec handle (draftConfirmation args session) w = (.ok confirmation, w')) :
    ∃ quote context acknowledged,
      w.upstream.resolveQuote args.catalogSession.entry.merchantRef
        args.catalogSession.entry.locationRef args.catalogSession.cart args.nowEpoch = .ok quote ∧
      quote.merchantRef = args.catalogSession.entry.merchantRef ∧
      quote.locationRef = args.catalogSession.entry.locationRef ∧
      Accepts args.catalogSession acknowledged w args.nowEpoch quote ∧
      context.deliveryFee = FakeXBOSOrderClient.feeOf args.serviceMode ∧
      (args.serviceMode = .dineIn → AtOwnTable session context.serviceContextRef) ∧
      args.nowEpoch < quote.expiresAtEpoch ∧
      FakeXBOSOrderClient.Confirms confirmation quote context := by
  unfold draftConfirmation at h
  obtain ⟨_, hsession, h⟩ := ofExcept_bind_ok_inv handle h
  obtain ⟨-, h⟩ := raiseIf_bind_ok_inv handle h
  obtain ⟨tableRef, htable, h⟩ := ofExcept_bind_ok_inv handle h
  obtain ⟨review, w₁, hreview, h⟩ := bind_ok_inv handle h
  obtain ⟨hsame, hquote, hmerchant, hlocation⟩ := reviewForConfirmation_ok hreview
  rw [hsame] at h
  obtain ⟨quote, haccept, h⟩ := ofExcept_bind_ok_inv handle h
  rw [exec_ask_bind] at h
  obtain ⟨context, hcontext, h⟩ := ofExcept_bind_ok_inv handle h
  rw [exec_ask_bind] at h
  obtain ⟨prepared, hprepared, h⟩ := ofExcept_bind_ok_inv handle h
  obtain ⟨_, -, h⟩ := ofExcept_bind_ok_inv handle h
  obtain rfl : prepared = confirmation := Except.ok.inj (Prod.mk.inj h).1
  -- the quote that is accepted is the one that was reviewed
  have hreviewed : quote = review.quote := acceptReview_quote haccept
  subst hreviewed
  obtain ⟨hfee, hdine⟩ := FakeXBOSOrderClient.resolveServiceContext_ok hcontext
  obtain ⟨hexpiry, hconfirms⟩ := FakeXBOSOrderClient.prepareOrderConfirmation_ok
    (Prod.ext hprepared rfl)
  refine ⟨_, context, _, hquote, hmerchant, hlocation, ⟨review, by rw [hreview], haccept⟩, hfee,
    fun hmode => ?_, hexpiry, hconfirms⟩
  obtain ⟨hsameMerchant, hsameLocation, hsameTable⟩ := assertSessionMatchesEntry_place hsession
  obtain ⟨table, rfl, hknown, href⟩ := hdine hmode
  exact ⟨_, _, table, hsameMerchant, hsameLocation,
    hsameTable.trans (serviceModeTable_dineIn hmode htable), hknown, href⟩

end OrderDraftConfirmationService

/-! ## The cart at the price list -/

namespace FakeXBOSCatalogClient

theorem resolveQuote_ok {client : FakeXBOSCatalogClient} {merchantRef locationRef : String}
    {cart : InteractionCart} {now : Int} {quote : CommercialQuoteSnapshot}
    (h : client.resolveQuote merchantRef locationRef cart now = .ok quote) :
    quote.lines = cart.lines.filterMap client.quoteLine ∧ quote.total = quoteTotal quote.lines ∧
      quote.expiresAtEpoch = now + 300 := by
  unfold resolveQuote at h
  cases hcontext : client.assertContext merchantRef locationRef with
  | error e =>
      rw [hcontext] at h
      cases h
  | ok _ =>
      rw [hcontext] at h
      obtain rfl := Except.ok.inj h
      exact ⟨rfl, rfl, rfl⟩

/-- The price and the availability of a quote line go by its item alone. -/
theorem quoteLine_of_sameItem {client : FakeXBOSCatalogClient} {line line' : CartLine}
    {quoted : QuoteLineSnapshot} (hsame : line'.itemRef = line.itemRef)
    (h : client.quoteLine line = some quoted) :
    ∃ quoted', client.quoteLine line' = some quoted' ∧
      quoted'.availability = quoted.availability := by
  unfold quoteLine at h ⊢
  rw [hsame]
  obtain ⟨item, hitem, rfl⟩ := Option.map_eq_some_iff.mp h
  exact ⟨_, Option.map_eq_some_iff.mpr ⟨item, hitem, rfl⟩, rfl⟩

end FakeXBOSCatalogClient

namespace CatalogQuoteService

open FakeXBOSCatalogClient

/-- The quote line of a cart line: the same item, quantity and options, available, at the current
price, with the exact product. -/
structure Priced (controls : List CatalogControl) (line : CartLine) (quoted : QuoteLineSnapshot) :
    Prop where
  item : quoted.itemRef = line.itemRef
  quantity : quoted.quantity = line.quantity
  options : quoted.optionRefs = line.optionRefs
  available : quoted.availability = .available
  stillAvailable : availabilityAfter controls line.itemRef = some .available
  price : priceAfter controls line.itemRef = some quoted.unitPrice
  lineTotal : quoted.lineTotal.value = quoted.unitPrice.value * line.quantity

/-- The products of prices and quantities in a cart. -/
def lineTotals (controls : List CatalogControl) (cart : InteractionCart) : List Decimal :=
  cart.lines.filterMap fun line =>
    (priceAfter controls line.itemRef).map (·.times line.quantity)

/-- None of the products, nor their sum with the fee, is rounded. -/
structure Exact (controls : List CatalogControl) (cart : InteractionCart) (fee : Decimal) :
    Prop where
  products : ∀ line ∈ cart.lines, ∀ price, priceAfter controls line.itemRef = some price →
    price.TimesExact line.quantity
  sum : Decimal.SumExact (Decimal.ofNat 0) (lineTotals controls cart ++ [fee])

/-- Every line of the cart has a quote line that is available. -/
theorem quoteLine_of_accepts {π : Type} [XBOSOrderPort π] [Hashlib] {client : FakeXBOSCatalogClient}
    {session : CatalogSession} {acknowledged : String} {w : World π} {now : Int}
    {quote : CommercialQuoteSnapshot}
    (hquote : w.upstream.resolveQuote session.entry.merchantRef session.entry.locationRef
      session.cart now = .ok quote)
    (hmerchant : quote.merchantRef = session.entry.merchantRef)
    (hlocation : quote.locationRef = session.entry.locationRef)
    (hlines : quote.lines = session.cart.lines.filterMap client.quoteLine)
    (haccepts : Accepts session acknowledged w now quote) {line : CartLine}
    (hline : line ∈ session.cart.lines) :
    ∃ quoted, client.quoteLine line = some quoted ∧ quoted.availability = .available := by
  obtain ⟨-, last, hlast, havailable, -⟩ :=
    (accepts_iff hquote hmerchant hlocation).mp haccepts line hline
  -- the line that was looked at may be of another cart line, but it is of the same item
  obtain ⟨hmem, hitem⟩ := lastLine_eq_some hlast
  rw [hlines] at hmem
  obtain ⟨other, -, hother⟩ := List.mem_filterMap.mp hmem
  have hsame : line.itemRef = other.itemRef := by
    rw [← hitem]
    unfold quoteLine at hother
    obtain ⟨item, hfound, rfl⟩ := Option.map_eq_some_iff.mp hother
    simpa using List.find?_some hfound
  obtain ⟨quoted, hquoted, havailability⟩ := quoteLine_of_sameItem hsame hother
  exact ⟨quoted, hquoted, havailability.trans havailable⟩

theorem priced_of_quoteLine {controls : List CatalogControl} {line : CartLine}
    (hexact : ∀ price, priceAfter controls line.itemRef = some price →
      price.TimesExact line.quantity)
    {quoted : QuoteLineSnapshot} (h : (after controls).quoteLine line = some quoted)
    (havailable : quoted.availability = .available) : Priced controls line quoted := by
  obtain ⟨hitem, hquantity, hoptions, hprice, havailability, htotal⟩ := quoteLine_after h
  refine ⟨hitem, hquantity, hoptions, havailable, by rw [havailability, havailable], hprice, ?_⟩
  rw [htotal]
  exact hexact _ hprice

/-- If nothing is dropped, the quote lines are the cart lines, priced. -/
theorem priced_filterMap {controls : List CatalogControl} {lines : List CartLine}
    (hexact : ∀ line ∈ lines, ∀ price, priceAfter controls line.itemRef = some price →
      price.TimesExact line.quantity)
    (hquoted : ∀ line ∈ lines, ∃ quoted, (after controls).quoteLine line = some quoted ∧
      quoted.availability = .available) :
    List.Forall₂ (Priced controls) lines (lines.filterMap (after controls).quoteLine) := by
  induction lines with
  | nil => exact .nil
  | cons line lines ih =>
      obtain ⟨quoted, hline, havailable⟩ := hquoted line (by simp)
      rw [List.filterMap_cons_some hline]
      refine .cons (priced_of_quoteLine (hexact line (by simp)) hline havailable) (ih ?_ ?_)
      · exact fun l hl => hexact l (by simp [hl])
      · exact fun l hl => hquoted l (by simp [hl])

theorem map_lineTotal (controls : List CatalogControl) (cart : InteractionCart) :
    (cart.lines.filterMap (after controls).quoteLine).map (·.lineTotal) =
      lineTotals controls cart := by
  unfold lineTotals
  rw [List.map_filterMap]
  apply congrArg (List.filterMap · cart.lines)
  funext line
  unfold quoteLine priceAfter
  rw [find?_after]
  simp [Option.map_map, Function.comp_def]

/-- The total of a quote with nothing unavailable in it. -/
theorem quoteTotal_of_available {lines : List QuoteLineSnapshot}
    (h : ∀ line ∈ lines, line.availability = .available) :
    quoteTotal lines = (lines.map (·.lineTotal)).foldl Decimal.plus (Decimal.ofNat 0) := by
  have hall : lines.filter (fun line => line.availability = .available) = lines := by
    apply List.filter_eq_self.mpr
    intro line hline
    simpa using h line hline
  unfold quoteTotal
  rw [hall, List.foldl_map]

theorem available_of_priced {controls : List CatalogControl} {lines : List CartLine}
    {quoted : List QuoteLineSnapshot} (h : List.Forall₂ (Priced controls) lines quoted) :
    ∀ line ∈ quoted, line.availability = .available := by
  induction h with
  | nil => simp
  | cons hline _ ih => exact List.forall_mem_cons.mpr ⟨hline.available, ih⟩

/-- The products and the fee, added up without rounding. -/
theorem Exact.value_total {controls : List CatalogControl} {cart : InteractionCart} {fee : Decimal}
    (h : Exact controls cart fee) :
    (((lineTotals controls cart).foldl Decimal.plus (Decimal.ofNat 0)).plus fee).value =
      ((lineTotals controls cart).map Decimal.value).sum + fee.value := by
  have hvalue := Decimal.value_foldl_plus h.sum
  have hzero : (Decimal.ofNat 0).value = 0 := by simp [Decimal.ofNat, Decimal.value]
  rw [List.foldl_append, List.map_append, List.sum_append, hzero, zero_add] at hvalue
  simpa using hvalue

/-- The total of a priced cart with a fee. -/
theorem value_total_of_priced {controls : List CatalogControl} {cart : InteractionCart}
    {fee : Decimal} (hexact : Exact controls cart fee) {lines : List QuoteLineSnapshot}
    (hlines : lines = cart.lines.filterMap (after controls).quoteLine)
    (hpriced : List.Forall₂ (Priced controls) cart.lines lines) :
    ((quoteTotal lines).plus fee).value = (lines.map (·.lineTotal.value)).sum + fee.value := by
  have htotals : lines.map (·.lineTotal) = lineTotals controls cart := by
    rw [hlines, map_lineTotal]
  rw [quoteTotal_of_available (available_of_priced hpriced), htotals, hexact.value_total, ← htotals,
    List.map_map]
  rfl

end CatalogQuoteService

/-- What the customer is shown is the cart at the price list after these changes. -/
structure CartPriced (controls : List CatalogControl) (args : PrepareConfirmationArgs)
    (session : CustomerSessionSnapshot) (shown : ServerIssuedConfirmation) : Prop where
  lines : List.Forall₂ (CatalogQuoteService.Priced controls) args.catalogSession.cart.lines
    shown.lines
  fee : shown.deliveryFee.isSome ↔ args.serviceMode = .delivery
  total : shown.total.value = (shown.lines.map (·.lineTotal.value)).sum +
    (shown.deliveryFee.map Decimal.value).getD 0
  expiry : args.nowEpoch < shown.expiresAtEpoch
  table : args.serviceMode = .dineIn →
    OrderDraftConfirmationService.AtOwnTable session shown.serviceContextRef

namespace OrderDraftConfirmationService

open FakeXBOSCatalogClient FakeXBOSOrderClient

variable [Hashlib] (svc : OrderDraftConfirmationService)

/-- A confirmation that is returned was drafted for the stored session. -/
theorem prepareConfirmation_ok {args : PrepareConfirmationArgs} {w w' : World FakeXBOSOrderClient}
    {shown : ServerIssuedConfirmation}
    (h : exec handle (svc.prepareConfirmation args) w = (.ok shown, w')) :
    ∃ session confirmation w₁, w.sessions.get args.sessionRef = some session ∧
      exec handle (draftConfirmation args session) w = (.ok confirmation, w₁) ∧
      shown = presentationFromRecord (w₁.nextRecord session confirmation) := by
  unfold prepareConfirmation at h
  rcases svc.requireActiveSecureSession_cases args.sessionRef args.nowEpoch w with
    ⟨session, hstored, -, hexec⟩ | ⟨-, e, hexec⟩
  case inr =>
    rw [exec_bind_error handle hexec] at h
    cases h
  rw [exec_bind_ok handle hexec] at h
  obtain ⟨confirmation, w₁, hdraft, hissue⟩ := bind_ok_inv handle h
  rcases exec_issueConfirmation session confirmation w₁ with ⟨e, hexec'⟩ | hexec'
  · cases hexec'.symm.trans hissue
  · obtain ⟨hshown, -⟩ := Prod.mk.inj (hissue.symm.trans hexec')
    exact ⟨session, confirmation, w₁, hstored, hdraft, Except.ok.inj hshown⟩

/-- A prepared confirmation is the cart, at the prices and the availabilities that were set last; as
far as the amounts are exact, so is its total. -/
theorem prepareConfirmation_cartPriced (controls : List CatalogControl)
    (w : World FakeXBOSOrderClient) (args : PrepareConfirmationArgs)
    (shown : ServerIssuedConfirmation) (w' : World FakeXBOSOrderClient)
    (h : exec handle (svc.prepareConfirmation args) (w.withCatalog (after controls)) =
      (.ok shown, w'))
    (hexact : CatalogQuoteService.Exact controls args.catalogSession.cart
      (feeAdded (feeOf args.serviceMode))) :
    ∃ session, w.sessions.get args.sessionRef = some session ∧
      CartPriced controls args session shown := by
  obtain ⟨session, confirmation, w₁, hstored, hdraft, rfl⟩ := svc.prepareConfirmation_ok h
  refine ⟨session, hstored, ?_⟩
  obtain ⟨quote, context, acknowledged, hquote, hmerchant, hlocation, haccepts, hfee, hdine, hexpiry,
    hconfirms⟩ := draftConfirmation_ok hdraft
  have hresolved : (after controls).resolveQuote args.catalogSession.entry.merchantRef
      args.catalogSession.entry.locationRef args.catalogSession.cart args.nowEpoch = .ok quote :=
    hquote
  obtain ⟨hlines, htotal, -⟩ := resolveQuote_ok hresolved
  -- the review lets no missing and no unavailable line through
  have hpriced : List.Forall₂ (CatalogQuoteService.Priced controls) args.catalogSession.cart.lines
      quote.lines := by
    rw [hlines]
    apply CatalogQuoteService.priced_filterMap hexact.products
    intro line hline
    exact CatalogQuoteService.quoteLine_of_accepts hquote hmerchant hlocation hlines haccepts hline
  have htotal' : confirmation.total.value = (quote.lines.map (·.lineTotal.value)).sum +
      (feeAdded (feeOf args.serviceMode)).value := by
    rw [hconfirms.total, hfee, htotal]
    exact CatalogQuoteService.value_total_of_priced hexact hlines hpriced
  have hshownFee : confirmation.deliveryFee = feeOf args.serviceMode := hconfirms.fee.trans hfee
  refine ⟨?_, ?_, ?_, ?_, fun hmode => ?_⟩
  · show List.Forall₂ _ _ confirmation.lines
    rw [hconfirms.lines]
    exact hpriced
  · show confirmation.deliveryFee.isSome ↔ _
    rw [hshownFee]
    cases args.serviceMode <;> simp [feeOf]
  · show confirmation.total.value = (confirmation.lines.map (·.lineTotal.value)).sum + _
    rw [htotal', hconfirms.lines]
    apply congrArg
    show _ = (confirmation.deliveryFee.map Decimal.value).getD 0
    rw [hshownFee, value_feeAdded_feeOf]
  · show args.nowEpoch < confirmation.expiresAtEpoch
    rw [hconfirms.expiry]
    exact hexpiry
  · show AtOwnTable session confirmation.serviceContextRef
    rw [hconfirms.context]
    exact hdine hmode

end OrderDraftConfirmationService

/-! ## A cart after a change of price -/

namespace Fixture

open FakeXBOSCatalogClient

def raisedPrice : List CatalogControl :=
  [.setPrice "item:fixture:one" (Decimal.ofNat 3500),
    .setAvailability "item:fixture:two" .unavailable]

/-- The item twice, with and without a side dish, and the new price acknowledged. -/
def acknowledgedCart : PrepareConfirmationArgs where
  sessionRef := sessionRef
  catalogSession :=
    ⟨entry, catalog 1 3000,
      ⟨[⟨"item:fixture:one", 2, ["option:fixture:side-a"], by decide⟩,
        ⟨"item:fixture:one", 1, [], Int.one_pos⟩]⟩⟩
  serviceMode := .delivery
  nowEpoch := 10
  acknowledgedQuoteRef := some "quote:fixture:v3"
  contactRef := some "contact:fixture:one"
  deliveryAddressRef := some "address:fixture:inside"

theorem prepareConfirmation_cartPriced_raised : ∃ shown w',
    exec handle (({} : OrderDraftConfirmationService).prepareConfirmation acknowledgedCart)
      ((run {} world intoReview).withCatalog (after raisedPrice)) = (.ok shown, w') ∧
    ∃ session, (run {} world intoReview).sessions.get sessionRef = some session ∧
      CartPriced raisedPrice acknowledgedCart session shown := by
  have hok : (exec handle
      (({} : OrderDraftConfirmationService).prepareConfirmation acknowledgedCart)
      ((run {} world intoReview).withCatalog (after raisedPrice))).1.isOk = true := by
    decide +kernel
  have hprice : priceAfter raisedPrice "item:fixture:one" = some (Decimal.ofNat 3500) := by
    decide +kernel
  have htotals : CatalogQuoteService.lineTotals raisedPrice acknowledgedCart.catalogSession.cart =
      [Decimal.ofNat 7000, Decimal.ofNat 3500] := by
    decide +kernel
  have hexact : CatalogQuoteService.Exact raisedPrice acknowledgedCart.catalogSession.cart
      (Decimal.ofNat 750) := by
    refine ⟨fun line hline price hline' => ?_, ?_⟩
    · rcases List.mem_pair.mp hline with rfl | rfl
      · obtain rfl := Option.some.inj (hprice.symm.trans hline')
        exact Decimal.timesExact_of_le (by decide +kernel)
      · obtain rfl := Option.some.inj (hprice.symm.trans hline')
        exact Decimal.timesExact_of_le (by decide +kernel)
    · rw [htotals]
      exact ⟨Decimal.plusExact_of_le (by decide +kernel), Decimal.plusExact_of_le (by decide +kernel),
        Decimal.plusExact_of_le (by decide +kernel), trivial⟩
  obtain ⟨shown, hshown⟩ := exists_ok_of_isOk hok
  exact ⟨shown, _, Prod.ext hshown rfl, OrderDraftConfirmationService.prepareConfirmation_cartPriced
    {} raisedPrice (run {} world intoReview) acknowledgedCart shown _ (Prod.ext hshown rfl) hexact⟩

end Fixture

end XbosCustomerChannel
