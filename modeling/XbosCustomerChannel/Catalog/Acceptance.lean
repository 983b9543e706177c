import XbosCustomerChannel.Catalog.Service
import XbosCustomerChannel.Fixture

/-!
# What an accepted quote can hide

The review looks at one quote line per item, the last one of the item. A cart may hold an item twice,
with different options, and a quote has a line for each; so what is accepted has been checked against
what the customer was shown for the last lines only.
-/

namespace XbosCustomerChannel

open Effects Effects.Program Data

namespace CatalogQuoteService

/-! ## The line that is looked at -/

/-- The last line of an item. -/
def lastLine (quote : CommercialQuoteSnapshot) (itemRef : String) : Option QuoteLineSnapshot :=
  History.last? (fun line => line.itemRef = itemRef) quote.lines

theorem get?_quotedByRef (quote : CommercialQuoteSnapshot) (itemRef : String) :
    (quotedByRef quote).get? itemRef = lastLine quote itemRef :=
  Dict.get?_foldl_set QuoteLineSnapshot.itemRef quote.lines itemRef

theorem lastLine_eq_some {quote : CommercialQuoteSnapshot} {itemRef : String}
    {line : QuoteLineSnapshot} (h : lastLine quote itemRef = some line) :
    line ∈ quote.lines ∧ line.itemRef = itemRef := by
  simpa using History.last?_eq_some h

variable (session : CatalogSession) (quote : CommercialQuoteSnapshot) (acknowledgedQuoteRef : String)

/-- Price and availability of the line are those that the customer was shown for the item. -/
def AsDisplayed (line : QuoteLineSnapshot) : Prop :=
  ∃ displayed, session.projection.item line.itemRef = .ok displayed ∧
    displayed.displayPrice.value = line.unitPrice.value ∧
    displayed.availability = line.availability

/-- The line may be accepted: it is available, and as displayed unless the quote is acknowledged. -/
def Acceptable (line : QuoteLineSnapshot) : Prop :=
  line.availability = .available ∧
    (acknowledgedQuoteRef ≠ quote.quoteRef → AsDisplayed session line)

/-- The item of a cart line is in the catalog, and its last quote line may be accepted. -/
def LastLineAcceptable (cartLine : CartLine) : Prop :=
  (∃ displayed, session.projection.item cartLine.itemRef = .ok displayed) ∧
    ∃ line, lastLine quote cartLine.itemRef = some line ∧
      Acceptable session quote acknowledgedQuoteRef line

/-- Every quote line of the item of a cart line may be accepted. -/
def LinesAcceptable (cartLine : CartLine) : Prop :=
  ∀ line ∈ quote.lines, line.itemRef = cartLine.itemRef →
    Acceptable session quote acknowledgedQuoteRef line

/-! ## The review loop -/

/-- The changes so far and whether the quote can be used let it be accepted. -/
def Passes (acc : List QuoteChange × Bool) : Prop :=
  acc.2 = true ∧ (acknowledgedQuoteRef ≠ quote.quoteRef → acc.1 = [])

variable {session quote acknowledgedQuoteRef}

theorem lineChanges_eq_nil {displayed : CatalogItemProjection} {quoted : QuoteLineSnapshot}
    {itemRef : String} : lineChanges displayed quoted itemRef = [] ↔
      displayed.displayPrice.value = quoted.unitPrice.value ∧
        displayed.availability = quoted.availability := by
  unfold lineChanges
  by_cases hprice : displayed.displayPrice.value = quoted.unitPrice.value <;>
    by_cases havailability : displayed.availability = quoted.availability <;>
    simp [hprice, havailability]

theorem acceptReview_ok_iff {changes : List QuoteChange} {canContinue : Bool} :
    acceptReview ⟨quote, changes, !changes.isEmpty, canContinue⟩ acknowledgedQuoteRef = .ok quote ↔
      Passes quote acknowledgedQuoteRef (changes, canContinue) := by
  unfold acceptReview Passes
  cases canContinue <;> cases changes <;> simp

/-- One turn of the loop goes by the last quote line of the item. -/
theorem reviewLine_passes_iff {acc : List QuoteChange × Bool} {cartLine : CartLine} :
    (∃ acc', reviewLine session quote acc cartLine = .ok acc' ∧
      Passes quote acknowledgedQuoteRef acc') ↔
      Passes quote acknowledgedQuoteRef acc ∧
        LastLineAcceptable session quote acknowledgedQuoteRef cartLine := by
  unfold reviewLine LastLineAcceptable
  rw [get?_quotedByRef]
  cases hitem : session.projection.item cartLine.itemRef with
  | error e => simp
  | ok displayed =>
      cases hlast : lastLine quote cartLine.itemRef with
      | none => simp [Passes]
      | some line =>
          have hline : session.projection.item line.itemRef = .ok displayed := by
            rw [(lastLine_eq_some hlast).2, hitem]
          have hdisplayed : AsDisplayed session line ↔
              lineChanges displayed line cartLine.itemRef = [] := by
            rw [lineChanges_eq_nil]
            simp [AsDisplayed, hline]
          simp only [Passes, Acceptable, hdisplayed, Except.ok.injEq, exists_eq_left',
            Option.some.injEq, Bool.and_eq_true, decide_eq_true_eq, List.append_eq_nil_iff]
          tauto

/-- The loop passes exactly if the last quote lines may be accepted. -/
theorem foldlM_reviewLine_passes_iff (cartLines : List CartLine) (acc : List QuoteChange × Bool) :
    (∃ acc', cartLines.foldlM (reviewLine session quote) acc = .ok acc' ∧
      Passes quote acknowledgedQuoteRef acc') ↔
      Passes quote acknowledgedQuoteRef acc ∧
        ∀ cartLine ∈ cartLines, LastLineAcceptable session quote acknowledgedQuoteRef cartLine := by
  induction cartLines generalizing acc with
  | nil =>
      rw [List.foldlM_nil]
      simp [pure, Except.pure]
  | cons cartLine cartLines ih =>
      rw [List.forall_mem_cons, ← and_assoc, ← reviewLine_passes_iff, List.foldlM_cons]
      cases hline : reviewLine session quote acc cartLine with
      | error e => simp [bind, Except.bind]
      | ok acc₁ =>
          have hrest := ih acc₁
          simpa [bind, Except.bind] using hrest

/-! ## What is accepted -/

variable {π : Type} [XBOSOrderPort π] [Hashlib] (session acknowledgedQuoteRef)

/-- The quote is accepted on a review for the session. -/
def Accepts (w : World π) (nowEpoch : Int) (quote : CommercialQuoteSnapshot) : Prop :=
  ∃ review, (exec handle (reviewForConfirmation session nowEpoch) w).1 = .ok review ∧
    acceptReview review acknowledgedQuoteRef = .ok quote

variable {session acknowledgedQuoteRef} {w : World π} {nowEpoch : Int}
  (hquote : w.upstream.resolveQuote session.entry.merchantRef session.entry.locationRef session.cart
    nowEpoch = .ok quote)
  (hmerchant : quote.merchantRef = session.entry.merchantRef)
  (hlocation : quote.locationRef = session.entry.locationRef)

include hquote hmerchant hlocation

/-- A quote is accepted exactly if the last lines of the items in the cart may be. -/
theorem accepts_iff : Accepts session acknowledgedQuoteRef w nowEpoch quote ↔
    ∀ cartLine ∈ session.cart.lines,
      LastLineAcceptable session quote acknowledgedQuoteRef cartLine := by
  have hreview : (exec handle (reviewForConfirmation session nowEpoch) w).1 =
      reviewQuote session quote := by
    have hasked : exec handle (ask (.upstream (.resolveQuote session.entry.merchantRef
        session.entry.locationRef session.cart nowEpoch))) w = (.ok (.ok quote), w) := by
      rw [← hquote]
      rfl
    unfold reviewForConfirmation
    rw [exec_bind_ok handle hasked, ofExcept_ok, done_bind,
      exec_raiseIf_bind, if_neg (by simp [hmerchant, hlocation]), exec_ofExcept]
  have hstart : Passes quote acknowledgedQuoteRef ([], true) := ⟨rfl, fun _ => rfl⟩
  refine Iff.trans ?_ ((foldlM_reviewLine_passes_iff _ _).trans (and_iff_right hstart))
  unfold Accepts
  rw [hreview]
  unfold reviewQuote
  cases session.cart.lines.foldlM (reviewLine session quote) ([], true) with
  | error e => simp
  | ok acc =>
      obtain ⟨changes, canContinue⟩ := acc
      simp only [Except.ok.injEq, exists_eq_left', acceptReview_ok_iff]

/-- An accepted quote hides nothing exactly if, whenever the last line of every item in the cart may
be accepted, every line of them may. -/
theorem accepts_linesAcceptable_iff :
    (Accepts session acknowledgedQuoteRef w nowEpoch quote →
      ∀ cartLine ∈ session.cart.lines, (∃ line ∈ quote.lines, line.itemRef = cartLine.itemRef) ∧
        LinesAcceptable session quote acknowledgedQuoteRef cartLine) ↔
    ((∀ cartLine ∈ session.cart.lines,
        LastLineAcceptable session quote acknowledgedQuoteRef cartLine) →
      ∀ cartLine ∈ session.cart.lines,
        LinesAcceptable session quote acknowledgedQuoteRef cartLine) := by
  rw [accepts_iff hquote hmerchant hlocation]
  refine forall_congr' fun hlast => ?_
  constructor
  · intro h cartLine hmem
    exact (h cartLine hmem).2
  · intro h cartLine hmem
    obtain ⟨-, line, hline, -⟩ := hlast cartLine hmem
    exact ⟨⟨line, lastLine_eq_some hline⟩, h cartLine hmem⟩

end CatalogQuoteService

/-! ## One item with two options -/

section TwoOptions

open Fixture CatalogQuoteService

/-- The item is in the cart with one side dish and with another. -/
def twoOptions : CatalogSession :=
  ⟨entry, catalog 1 3000,
    ⟨[⟨"item:fixture:one", 1, ["option:fixture:side-a"], Int.one_pos⟩,
      ⟨"item:fixture:one", 1, ["option:fixture:side-b"], Int.one_pos⟩]⟩⟩

def optionLine (availability : AvailabilityState) (optionRef : String) : QuoteLineSnapshot :=
  ⟨"item:fixture:one", 1, Decimal.ofNat 3000, Decimal.ofNat 3000, availability, [optionRef]⟩

/-- The first side dish has this availability, the second can be had. -/
def optionsQuote (availability : AvailabilityState) : CommercialQuoteSnapshot :=
  { quote 1 6000 10 with
    lines := [optionLine availability "option:fixture:side-a",
      optionLine .available "option:fixture:side-b"] }

def optionsWorld (availability : AvailabilityState) : World FakeXBOSOrderClient :=
  .start {} { upstream 1 3000 with
    resolveQuote := fun _ _ _ _ => .ok (optionsQuote availability) } lengthRefs

theorem accepts_linesAcceptable_iff_twoOptions :
    (Accepts twoOptions "quote:fixture:v1" (optionsWorld .available) 10 (optionsQuote .available) →
      ∀ cartLine ∈ twoOptions.cart.lines,
        (∃ line ∈ (optionsQuote .available).lines, line.itemRef = cartLine.itemRef) ∧
        LinesAcceptable twoOptions (optionsQuote .available) "quote:fixture:v1" cartLine) ↔
    ((∀ cartLine ∈ twoOptions.cart.lines,
        LastLineAcceptable twoOptions (optionsQuote .available) "quote:fixture:v1" cartLine) →
      ∀ cartLine ∈ twoOptions.cart.lines,
        LinesAcceptable twoOptions (optionsQuote .available) "quote:fixture:v1" cartLine) :=
  accepts_linesAcceptable_iff rfl rfl rfl

/-- The quote is accepted although the first side dish is unavailable. -/
theorem unavailable_isAccepted :
    ¬ (Accepts twoOptions "quote:fixture:v1" (optionsWorld .unavailable) 10
        (optionsQuote .unavailable) →
      ∀ cartLine ∈ twoOptions.cart.lines,
        (∃ line ∈ (optionsQuote .unavailable).lines, line.itemRef = cartLine.itemRef) ∧
        LinesAcceptable twoOptions (optionsQuote .unavailable) "quote:fixture:v1" cartLine) := by
  intro h
  have haccepts : Accepts twoOptions "quote:fixture:v1" (optionsWorld .unavailable) 10
      (optionsQuote .unavailable) := by
    refine (accepts_iff rfl rfl rfl).mpr fun cartLine hmem => ?_
    -- both cart lines are reviewed against the line of the second side dish
    have hitem : cartLine.itemRef = "item:fixture:one" := by
      rcases List.mem_pair.mp hmem with rfl | rfl <;> rfl
    unfold LastLineAcceptable
    rw [hitem]
    exact ⟨⟨item 3000, rfl⟩, optionLine .available "option:fixture:side-b", rfl, rfl,
      fun hother => absurd rfl hother⟩
  obtain ⟨-, hlines⟩ := h haccepts _ List.mem_cons_self
  obtain ⟨havailable, -⟩ := hlines _ List.mem_cons_self rfl
  exact absurd havailable (by decide)

end TwoOptions

end XbosCustomerChannel
