import XbosCustomerChannel.Order.Prepared

/-!
# What an acknowledged quote still covers

A customer browses the catalog, fills the cart and is quoted; prices and availability change all the
while. The reference of a quote is the version of the catalog, so it stands for the price list and not
for the cart it was made for. An acknowledgement is good until the next change, whatever is added to the
cart.
-/

namespace XbosCustomerChannel

open Effects Data CatalogQuoteService

/-! ## Browsing -/

def FakeXBOSCatalogClient.getCatalog (client : FakeXBOSCatalogClient)
    (merchantRef locationRef : String) : Except Exc CatalogProjection := do
  client.assertContext merchantRef locationRef
  pure (client.projection merchantRef locationRef)

/-- `browse`, with `get_catalog` of the port. -/
def CatalogQuoteService.browse (getCatalog : String → String → Except Exc CatalogProjection)
    (entry : ResolvedEntryContext) : Except Exc CatalogSession := do
  let projection ← getCatalog entry.merchantRef entry.locationRef
  if projection.merchantRef ≠ entry.merchantRef ∨ projection.locationRef ≠ entry.locationRef then
    .error ⟨.runtimeError, "catalog_context_mismatch"⟩
  else pure { entry, projection, cart := {} }

theorem browse_ok {client : FakeXBOSCatalogClient} {entry : ResolvedEntryContext}
    {browsed : CatalogSession} (h : browse client.getCatalog entry = .ok browsed) :
    browsed.entry = entry ∧ browsed.cart.lines = [] ∧ browsed.projection.items = client.items := by
  unfold browse FakeXBOSCatalogClient.getCatalog at h
  cases hcontext : client.assertContext entry.merchantRef entry.locationRef with
  | error e =>
      rw [hcontext] at h
      cases h
  | ok _ =>
      rw [hcontext] at h
      simp only [bind, Except.bind, pure, Except.pure] at h
      split at h
      · cases h
      · obtain rfl := Except.ok.inj h
        exact ⟨rfl, rfl, rfl⟩

/-! ## Visits -/

/-- A catalog, and what a customer who browsed it carries. -/
structure CatalogVisit where
  client : FakeXBOSCatalogClient
  session : CatalogSession

/-- The catalog changes, or the customer adds to the cart. -/
inductive CatalogVisitCall
  | control (c : CatalogControl)
  | addToCart (itemRef : String) (quantity : Int) (optionRefs : List String)

def CatalogVisitCall.control? : CatalogVisitCall → Option CatalogControl
  | .control c => some c
  | .addToCart _ _ _ => none

namespace CatalogVisit

def step (v : CatalogVisit) : CatalogVisitCall → CatalogVisit
  | .control c => { v with client := v.client.control c }
  | .addToCart itemRef quantity optionRefs =>
      match CatalogQuoteService.addToCart v.session itemRef quantity optionRefs with
      | .ok session => { v with session }
      | .error _ => v

def run (v : CatalogVisit) (calls : List CatalogVisitCall) : CatalogVisit := calls.foldl step v

end CatalogVisit

/-- The changes of the catalog among the calls. -/
def CatalogVisit.controls (calls : List CatalogVisitCall) : List CatalogControl :=
  calls.filterMap CatalogVisitCall.control?

/-! ## Versions -/

namespace CatalogControl

def itemRef : CatalogControl → String
  | setPrice ref _ => ref
  | setAvailability ref _ => ref

/-- The change is of an item that is there; others are refused. -/
def Effective (c : CatalogControl) : Prop :=
  ∃ item ∈ ({} : FakeXBOSCatalogClient).items, item.itemRef = c.itemRef

instance (c : CatalogControl) : Decidable c.Effective :=
  inferInstanceAs (Decidable (∃ item ∈ ({} : FakeXBOSCatalogClient).items, _))

end CatalogControl

namespace FakeXBOSCatalogClient

open CatalogControl

/-- The items that are there are those that were there at first. -/
theorem exists_item_after (controls : List CatalogControl) (ref : String) :
    (∃ item ∈ (after controls).items, item.itemRef = ref) ↔
      ∃ item ∈ ({} : FakeXBOSCatalogClient).items, item.itemRef = ref := by
  have hfind (client : FakeXBOSCatalogClient) :
      (∃ item ∈ client.items, item.itemRef = ref) ↔
        (client.items.find? (·.itemRef = ref)).isSome := by
    rw [List.find?_isSome]
    simp
  rw [hfind, hfind, find?_after, Option.isSome_map]

theorem version_replaceItem (client : FakeXBOSCatalogClient) (ref : String)
    (changed : CatalogItemProjection → CatalogItemProjection) :
    (client.replaceItem ref changed).2.version =
      client.version + if client.items.any (·.itemRef = ref) then 1 else 0 := by
  unfold replaceItem
  split
  · rfl
  · rfl

theorem version_control (client : FakeXBOSCatalogClient) (c : CatalogControl) :
    (client.control c).version =
      client.version + if client.items.any (·.itemRef = c.itemRef) then 1 else 0 := by
  cases c with
  | setPrice ref amount => exact version_replaceItem client ref _
  | setAvailability ref state => exact version_replaceItem client ref _

/-- The version counts the changes of items that are there. -/
theorem version_after (controls : List CatalogControl) :
    (after controls).version = 1 + controls.countP (fun c => decide c.Effective) := by
  induction controls using List.reverseRecOn with
  | nil => rfl
  | append_singleton controls c ih =>
      have heffective : (after controls).items.any (·.itemRef = c.itemRef) =
          decide c.Effective := by
        rw [Bool.eq_iff_iff, List.any_eq_true, decide_eq_true_iff]
        simp only [decide_eq_true_eq]
        exact exists_item_after controls c.itemRef
      rw [after_concat, version_control, ih, heffective, List.countP_append, List.countP_singleton,
        Nat.add_assoc]

/-- A quote names where it is for, and the version of the catalog. -/
theorem resolveQuote_names {client : FakeXBOSCatalogClient} {merchantRef locationRef : String}
    {cart : InteractionCart} {now : Int} {quote : CommercialQuoteSnapshot}
    (h : client.resolveQuote merchantRef locationRef cart now = .ok quote) :
    quote.merchantRef = merchantRef ∧ quote.locationRef = locationRef ∧
      quote.quoteRef = "quote:fixture:v" ++ toString client.version := by
  unfold resolveQuote at h
  cases hcontext : client.assertContext merchantRef locationRef with
  | error e =>
      rw [hcontext] at h
      cases h
  | ok _ =>
      rw [hcontext] at h
      obtain rfl := Except.ok.inj h
      exact ⟨rfl, rfl, rfl⟩

/-- A quote keeps its reference until the next change of an item that is there. -/
theorem quoteRef_eq_iff {controls later : List CatalogControl} {merchantRef locationRef : String}
    {cart cart' : InteractionCart} {epoch now : Int} {earlier quote : CommercialQuoteSnapshot}
    (hearlier : (after controls).resolveQuote merchantRef locationRef cart epoch = .ok earlier)
    (hquote : (after (controls ++ later)).resolveQuote merchantRef locationRef cart' now =
      .ok quote) :
    earlier.quoteRef = quote.quoteRef ↔ ∀ c ∈ later, ¬ c.Effective := by
  obtain ⟨-, -, hearlier⟩ := resolveQuote_names hearlier
  obtain ⟨-, -, hquote⟩ := resolveQuote_names hquote
  have hversion : earlier.quoteRef = quote.quoteRef ↔
      (after controls).version = (after (controls ++ later)).version := by
    rw [hearlier, hquote]
    constructor
    · intro h
      exact Json.toString_inj (String.append_right_inj _ |>.mp h)
    · intro h
      rw [h]
  rw [hversion, version_after, version_after, List.countP_append]
  have hnone : later.countP (fun c => decide c.Effective) = 0 ↔ ∀ c ∈ later, ¬ c.Effective := by
    rw [List.countP_eq_zero]
    simp
  rw [← hnone]
  omega

/-- Two price lists agree on an item. -/
def SameTerms (controls controls' : List CatalogControl) (ref : String) : Prop :=
  (priceAfter controls ref).map Decimal.value = (priceAfter controls' ref).map Decimal.value ∧
    availabilityAfter controls ref = availabilityAfter controls' ref

/-- What an item was shown with is what it had then. -/
theorem terms_of_find? {controls : List CatalogControl} {ref : String}
    {item : CatalogItemProjection}
    (h : (after controls).items.find? (·.itemRef = ref) = some item) :
    priceAfter controls ref = some item.displayPrice ∧
      availabilityAfter controls ref = some item.availability := by
  rw [find?_after] at h
  obtain ⟨first, hfirst, rfl⟩ := Option.map_eq_some_iff.mp h
  unfold priceAfter availabilityAfter
  rw [hfirst]
  exact ⟨rfl, rfl⟩

end FakeXBOSCatalogClient

/-! ## A visit follows the catalog -/

namespace CatalogVisit

open FakeXBOSCatalogClient

/-- The customer was shown the catalog after `before`, and it has changed by `since`; the cart holds items
that were shown. -/
structure Follows (v : CatalogVisit) (entry : ResolvedEntryContext)
    (before since : List CatalogControl) : Prop where
  client : v.client = after (before ++ since)
  entry : v.session.entry = entry
  items : v.session.projection.items = (after before).items
  shown : ∀ line ∈ v.session.cart.lines, ∃ item,
    (after before).items.find? (·.itemRef = line.itemRef) = some item

variable {v : CatalogVisit} {entry : ResolvedEntryContext} {before since : List CatalogControl}

theorem follows_of_browse {browsed : CatalogSession}
    (h : browse (after before).getCatalog entry = .ok browsed) :
    Follows ⟨after before, browsed⟩ entry before [] := by
  obtain ⟨hentry, hcart, hitems⟩ := browse_ok h
  refine ⟨by rw [List.append_nil], hentry, hitems, ?_⟩
  intro line hline
  rw [hcart] at hline
  cases hline

theorem item_ok_iff {p : CatalogProjection} {ref : String} {item : CatalogItemProjection} :
    p.item ref = .ok item ↔ p.items.find? (·.itemRef = ref) = some item := by
  unfold CatalogProjection.item
  cases p.items.find? (·.itemRef = ref) with
  | none => simp
  | some found => simp

theorem Follows.addToCart (h : v.Follows entry before since) {ref : String} {quantity : Int}
    {optionRefs : List String} {session : CatalogSession}
    (hadd : CatalogQuoteService.addToCart v.session ref quantity optionRefs = .ok session) :
    ({ v with session } : CatalogVisit).Follows entry before since := by
  unfold CatalogQuoteService.addToCart InteractionCart.add at hadd
  cases hitem : v.session.projection.item ref with
  | error e =>
      rw [hitem] at hadd
      cases hadd
  | ok item =>
      rw [hitem] at hadd
      simp only [bind, Except.bind, pure, Except.pure] at hadd
      split at hadd
      · cases hadd
      · next hcart =>
        split at hcart
        · obtain rfl := Except.ok.inj hcart
          obtain rfl := Except.ok.inj hadd
          refine ⟨h.client, h.entry, h.items, fun line hline => ?_⟩
          rcases List.mem_append.mp hline with hline | hline
          · exact h.shown line hline
          · obtain rfl := List.mem_singleton.mp hline
            rw [item_ok_iff, h.items] at hitem
            exact ⟨item, hitem⟩
        · cases hcart

theorem Follows.step (h : v.Follows entry before since) (call : CatalogVisitCall) :
    (v.step call).Follows entry before (since ++ call.control?.toList) := by
  cases call with
  | control c =>
      refine ⟨?_, h.entry, h.items, h.shown⟩
      show v.client.control c = after (before ++ (since ++ [c]))
      rw [h.client, ← List.append_assoc, after_concat]
  | addToCart ref quantity optionRefs =>
      simp only [CatalogVisitCall.control?, Option.toList_none, List.append_nil]
      unfold CatalogVisit.step
      dsimp only
      split
      · next session hadd => exact h.addToCart hadd
      · exact h

theorem Follows.run (h : v.Follows entry before since) (calls : List CatalogVisitCall) :
    (v.run calls).Follows entry before (since ++ controls calls) := by
  induction calls generalizing v since with
  | nil => simpa [controls, CatalogVisit.run] using h
  | cons call calls ih =>
      have hrest := ih (h.step call)
      have hcontrols : controls (call :: calls) = call.control?.toList ++ controls calls := by
        unfold controls
        cases hcall : call.control? with
        | none => simp [hcall]
        | some c => simp [hcall]
      rw [hcontrols, ← List.append_assoc]
      exact hrest

/-! ## What is accepted -/

variable {quote : CommercialQuoteSnapshot}

/-- Every cart line has a quote line of its item. -/
theorem Follows.lastLine (h : v.Follows entry before since)
    (hlines : quote.lines = v.session.cart.lines.filterMap v.client.quoteLine) {line : CartLine}
    (hline : line ∈ v.session.cart.lines) :
    ∃ last, CatalogQuoteService.lastLine quote line.itemRef = some last ∧
      priceAfter (before ++ since) line.itemRef = some last.unitPrice ∧
      availabilityAfter (before ++ since) line.itemRef = some last.availability := by
  rw [h.client] at hlines
  obtain ⟨shown, hshown⟩ := h.shown line hline
  -- items are never taken out of the catalog
  have hthere : ∃ item, (after (before ++ since)).items.find? (·.itemRef = line.itemRef) =
      some item := by
    rw [find?_after] at hshown ⊢
    obtain ⟨first, hfirst, -⟩ := Option.map_eq_some_iff.mp hshown
    rw [hfirst]
    exact ⟨_, rfl⟩
  obtain ⟨item, hitem⟩ := hthere
  have hquoted : ∃ quoted, (after (before ++ since)).quoteLine line = some quoted := by
    unfold quoteLine
    rw [hitem]
    exact ⟨_, rfl⟩
  obtain ⟨quoted, hquoted⟩ := hquoted
  have hlast : (CatalogQuoteService.lastLine quote line.itemRef).isSome := by
    unfold CatalogQuoteService.lastLine History.last?
    rw [List.find?_isSome]
    refine ⟨quoted, ?_, by simp [(quoteLine_after hquoted).1]⟩
    rw [List.mem_reverse, hlines]
    exact List.mem_filterMap.mpr ⟨line, hline, hquoted⟩
  obtain ⟨last, hlast⟩ := Option.isSome_iff_exists.mp hlast
  obtain ⟨hmem, hsame⟩ := lastLine_eq_some hlast
  rw [hlines] at hmem
  obtain ⟨other, -, hother⟩ := List.mem_filterMap.mp hmem
  obtain ⟨hitem, -, -, hprice, havailability, -⟩ := quoteLine_after hother
  rw [← hitem, hsame] at hprice havailability
  exact ⟨last, hlast, hprice, havailability⟩

theorem Follows.lastLineAcceptable_iff (h : v.Follows entry before since)
    (hlines : quote.lines = v.session.cart.lines.filterMap v.client.quoteLine)
    (acknowledged : String) {line : CartLine} (hline : line ∈ v.session.cart.lines) :
    LastLineAcceptable v.session quote acknowledged line ↔
      availabilityAfter (before ++ since) line.itemRef = some .available ∧
        (acknowledged ≠ quote.quoteRef → SameTerms before (before ++ since) line.itemRef) := by
  obtain ⟨last, hlast, hprice, havailability⟩ := h.lastLine hlines hline
  obtain ⟨shown, hshown⟩ := h.shown line hline
  obtain ⟨hshownPrice, hshownAvailability⟩ := terms_of_find? hshown
  have hitem : v.session.projection.item line.itemRef = .ok shown := by
    rw [item_ok_iff, h.items, hshown]
  have hdisplayed : AsDisplayed v.session last ↔
      SameTerms before (before ++ since) line.itemRef := by
    unfold AsDisplayed SameTerms
    rw [(lastLine_eq_some hlast).2, hitem, hprice, havailability, hshownPrice, hshownAvailability]
    simp
  unfold LastLineAcceptable Acceptable
  rw [hitem, hlast, havailability]
  simp [hdisplayed]

variable {π : Type} [XBOSOrderPort π] [Hashlib]

theorem Follows.accepts_iff (h : v.Follows entry before since) {w : World π} {now : Int}
    (hquote : v.client.resolveQuote v.session.entry.merchantRef v.session.entry.locationRef
      v.session.cart now = .ok quote) (acknowledged : String) :
    Accepts v.session acknowledged (w.withCatalog v.client) now quote ↔
      ∀ line ∈ v.session.cart.lines,
        availabilityAfter (before ++ since) line.itemRef = some .available ∧
          (acknowledged ≠ quote.quoteRef → SameTerms before (before ++ since) line.itemRef) := by
  obtain ⟨hmerchant, hlocation, -⟩ := resolveQuote_names hquote
  have hlines := (resolveQuote_ok hquote).1
  rw [CatalogQuoteService.accepts_iff (by exact hquote) hmerchant hlocation]
  refine forall₂_congr fun line hline => ?_
  exact h.lastLineAcceptable_iff hlines acknowledged hline

/-- A customer browses, is quoted at some point and acknowledges that quote at a later one, while prices
and availability change and the cart is added to all along. The quote that is then current is accepted if
and only if every item in the cart is available now and, unless no item was changed since the quote that
is acknowledged, has the price and the availability it was shown with. -/
theorem acknowledged_accepts_iff (w : World π) (entry : ResolvedEntryContext)
    (before : List CatalogControl) {browsed : CatalogSession}
    (hbrowse : browse (after before).getCatalog entry = .ok browsed)
    (first second : List CatalogVisitCall) (epoch now : Int) :
    let earlier := run ⟨after before, browsed⟩ first
    let v := earlier.run second
    let current := before ++ controls first ++ controls second
    ∀ acknowledged quote,
      earlier.client.resolveQuote entry.merchantRef entry.locationRef earlier.session.cart epoch =
        .ok acknowledged →
      v.client.resolveQuote entry.merchantRef entry.locationRef v.session.cart now = .ok quote →
      (Accepts v.session acknowledged.quoteRef (w.withCatalog v.client) now quote ↔
        ∀ line ∈ v.session.cart.lines,
          availabilityAfter current line.itemRef = some .available ∧
            ((∀ c ∈ controls second, ¬ c.Effective) ∨
              SameTerms before current line.itemRef)) := by
  intro earlier v current acknowledged quote hacknowledged hquote
  have hearlier : earlier.Follows entry before (controls first) := by
    have h := (follows_of_browse hbrowse).run first
    rwa [List.nil_append] at h
  have hv : v.Follows entry before (controls first ++ controls second) := hearlier.run second
  have hcurrent : before ++ (controls first ++ controls second) = current :=
    (List.append_assoc _ _ _).symm
  have hfresh : acknowledged.quoteRef = quote.quoteRef ↔
      ∀ c ∈ controls second, ¬ c.Effective := by
    rw [hearlier.client] at hacknowledged
    rw [hv.client, hcurrent] at hquote
    exact quoteRef_eq_iff hacknowledged hquote
  rw [← hv.entry] at hquote
  rw [hv.accepts_iff hquote, hcurrent, ← hfresh]
  refine forall₂_congr fun line hline => and_congr_right fun _ => ?_
  exact Decidable.imp_iff_not_or.trans (by rw [not_not])

end CatalogVisit

section Fixture

open Fixture FakeXBOSCatalogClient

def browsedCatalog : CatalogSession :=
  ⟨entry, ({} : FakeXBOSCatalogClient).projection entry.merchantRef entry.locationRef, {}⟩

/-- An item is in the cart. -/
def visit : CatalogVisit := .run ⟨after [], browsedCatalog⟩ [.addToCart "item:fixture:one" 1 []]

/-- Its price is changed. -/
def raised : List CatalogVisitCall :=
  [.control (.setPrice "item:fixture:one" (Decimal.ofNat 3500))]

def visitQuote (v : CatalogVisit) (now : Int) : Except Exc CommercialQuoteSnapshot :=
  v.client.resolveQuote entry.merchantRef entry.locationRef v.session.cart now

/-- The quote from before the change does not do. -/
theorem acknowledged_accepts_iff_raised : ∃ acknowledged quote : CommercialQuoteSnapshot,
    visitQuote visit 10 = .ok acknowledged ∧ visitQuote (visit.run raised) 20 = .ok quote ∧
      ¬ Accepts (visit.run raised).session acknowledged.quoteRef
        (world.withCatalog (visit.run raised).client) 20 quote := by
  have hbrowse : browse (after []).getCatalog entry = .ok browsedCatalog := rfl
  have hacknowledged : (visitQuote visit 10).isOk = true := by decide +kernel
  have hquote : (visitQuote (visit.run raised) 20).isOk = true := by decide +kernel
  obtain ⟨acknowledged, hacknowledged⟩ := exists_ok_of_isOk hacknowledged
  obtain ⟨quote, hquote⟩ := exists_ok_of_isOk hquote
  have haccepts := CatalogVisit.acknowledged_accepts_iff world entry [] hbrowse
    [.addToCart "item:fixture:one" 1 []] raised 10 20 acknowledged quote hacknowledged hquote
  refine ⟨acknowledged, quote, hacknowledged, hquote, fun h => ?_⟩
  have hline : (⟨"item:fixture:one", 1, [], Int.one_pos⟩ : CartLine) ∈
      (visit.run raised).session.cart.lines := by
    decide +kernel
  obtain ⟨-, hunchanged | hterms⟩ := haccepts.mp h _ hline
  · have heffective : (CatalogControl.setPrice "item:fixture:one" (Decimal.ofNat 3500)).Effective := by
      decide +kernel
    exact hunchanged _ (List.mem_singleton.mpr rfl) heffective
  · exact absurd hterms.1 (by decide +kernel)

end Fixture

end XbosCustomerChannel
