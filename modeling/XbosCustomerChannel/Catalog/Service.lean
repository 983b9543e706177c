import XbosCustomerChannel.Ports

/-!
# Cart and quote review

`CatalogQuoteService`: an item is added to the cart, and on the way to a confirmation the cart is
quoted again and every difference from what the customer was shown is a change to acknowledge.
-/

namespace XbosCustomerChannel

open Effects Effects.Program Data

namespace CatalogQuoteService

/-- `add_to_cart`. The lookup validates what is shown; the cart keeps no price or availability. -/
def addToCart (session : CatalogSession) (itemRef : String) (quantity : Int)
    (optionRefs : List String) : Except Exc CatalogSession := do
  let _ ← session.projection.item itemRef
  let cart ← session.cart.add itemRef quantity optionRefs
  pure { session with cart }

/-- `{line.item_ref: line for line in quote.lines}`: the last line of an item wins. -/
def quotedByRef (quote : CommercialQuoteSnapshot) : Dict String QuoteLineSnapshot :=
  quote.lines.foldl (fun d line => d.set line.itemRef line) ∅

/-- The changes of one cart line against its quoted line. -/
def lineChanges (displayed : CatalogItemProjection) (quoted : QuoteLineSnapshot)
    (itemRef : String) : List QuoteChange :=
  (if displayed.displayPrice.value ≠ quoted.unitPrice.value then
    [⟨.priceChanged, itemRef, displayed.displayPrice.toSciString, quoted.unitPrice.toSciString⟩]
  else []) ++
  (if displayed.availability ≠ quoted.availability then
    [⟨.availabilityChanged, itemRef, displayed.availability.value, quoted.availability.value⟩]
  else [])

/-- One turn of the review loop, on the changes so far and whether the quote can be used. -/
def reviewLine (session : CatalogSession) (quote : CommercialQuoteSnapshot)
    (acc : List QuoteChange × Bool) (cartLine : CartLine) : Except Exc (List QuoteChange × Bool) :=
  match session.projection.item cartLine.itemRef with
  | .error e => .error e
  | .ok displayed =>
      match (quotedByRef quote).get? cartLine.itemRef with
      | none => .ok (acc.1 ++ [⟨.itemMissing, cartLine.itemRef, "present", "missing"⟩], false)
      | some quoted =>
          .ok (acc.1 ++ lineChanges displayed quoted cartLine.itemRef,
            acc.2 && quoted.availability = .available)

/-- The review of a quote for the session's cart. -/
def reviewQuote (session : CatalogSession) (quote : CommercialQuoteSnapshot) :
    Except Exc QuoteReview :=
  match session.cart.lines.foldlM (reviewLine session quote) ([], true) with
  | .error e => .error e
  | .ok (changes, canContinue) =>
      .ok { quote, changes, requiresReconfirmation := !changes.isEmpty, canContinue }

/-- `review_for_confirmation`. -/
def reviewForConfirmation (session : CatalogSession) (nowEpoch : Int) : Service QuoteReview := do
  let answer : Except Exc CommercialQuoteSnapshot ←
    ask (.upstream (.resolveQuote session.entry.merchantRef session.entry.locationRef session.cart
      nowEpoch))
  let quote ← ofExcept answer
  raiseIf (quote.merchantRef ≠ session.entry.merchantRef ∨
    quote.locationRef ≠ session.entry.locationRef) ⟨.runtimeError, "quote_context_mismatch"⟩
  ofExcept (reviewQuote session quote)

/-- `accept_review`. -/
def acceptReview (review : QuoteReview) (acknowledgedQuoteRef : String) :
    Except Exc CommercialQuoteSnapshot :=
  if !review.canContinue then .error ⟨.quoteUnavailable, "authoritative_quote_not_available"⟩
  else if review.requiresReconfirmation ∧ acknowledgedQuoteRef ≠ review.quote.quoteRef then
    .error ⟨.reconfirmationRequired, "latest_quote_must_be_explicitly_acknowledged"⟩
  else .ok review.quote

end CatalogQuoteService

end XbosCustomerChannel
