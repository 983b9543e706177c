import XbosCustomerChannel.Fixture
import XbosCustomerChannel.W1.Runtime

/-!
# A small checkout

A boundary that prepares one confirmation, numbers its orders, and answers for payment as it is told
to; a customer who taps buttons; a state port that holds one state; a provider that answers as
scripted.
-/

namespace XbosCustomerChannel.Fixture

open XbosCustomerChannel Data

structure RecordingBoundary where
  paymentError : Option W1BoundaryFault := none
  submitCalls : Nat := 0

def confirmation (serviceMode : ServiceMode) : AuthoritativeOrderConfirmationSnapshot where
  confirmationRef := "confirmation:u1:" ++ serviceMode.value
  quoteRef := "quote:u1"
  quoteVersion := "v1"
  merchantRef := "merchant:fixture:alpha"
  locationRef := "location:fixture:one"
  serviceContextRef := "service:u1:" ++ serviceMode.value
  serviceMode := serviceMode
  lines := [⟨"item:fixture:one", 1, Decimal.ofNat 3000, Decimal.ofNat 3000, .available, []⟩]
  deliveryFee := none
  taxesCharges := []
  total := Decimal.ofNat 3000
  currency := "XAF"
  expiresAtEpoch := 5000

def submittedOrder (number : Nat) (confirmationRef : String) : CanonicalOrderProjection where
  orderRef := "order:u1:" ++ toString number
  clientSubmitRef := "client-submit:u1:" ++ toString number
  correlationRef := "correlation:fixture:one"
  confirmationRef := confirmationRef
  state := .confirmed
  evidenceRef := "evidence:u1:order"

/-- Options for an order that is given by its reference. -/
def optionsFor (order : CanonicalOrderProjection) : Except Exc W1CustomerSafePaymentOptions :=
  let fields : W1PaymentOptionsFields :=
    { paymentRequestRef := "payment-request:u1:1001"
      orderRef := order.orderRef
      canonicalAmount := Decimal.ofNat 3000
      currency := "XAF"
      permittedMethods := [.payAtCounter, .mtnMobileMoney, .orangeMoney] }
  if h : fields.postInit = .ok () then .ok ⟨fields, h⟩
  else .error ⟨.valueError, "payment_options_reference_required"⟩

instance : W1CheckoutDomainBoundary RecordingBoundary where
  prepareOrderReview b _ _ serviceMode := (.ok (confirmation serviceMode), b)
  submitOrder b _ c :=
    let number := b.submitCalls + 1
    (.ok (submittedOrder number c.confirmationRef), { b with submitCalls := number })
  paymentOptions b _ order :=
    match b.paymentError with
    | some fault => (.error fault, b)
    | none => ((optionsFor order).mapError .other, b)

/-- Of the texts here, only ASCII ones are folded. -/
scoped instance : CaseFolding := ⟨String.toLower⟩

def secureSession : CustomerSessionSnapshot where
  sessionRef := "sess:xc9:u1"
  conversationRef := "conversation:xc9:u1"
  correlationRef := "corr:xc9:u1"
  state := .browsing
  ownerIdentityRef := some "identity:fixture:customer"
  merchantRef := some "merchant:fixture:alpha"
  locationRef := some "location:fixture:one"
  securityBindingComplete := true

def catalogWithCart : CatalogSession :=
  ⟨entry, catalog 1 3000, ⟨[⟨"item:fixture:one", 1, [], Int.one_pos⟩]⟩⟩

structure StateStore where
  state : W1RuntimeConversationState

instance : W1RuntimeStatePort StateStore where
  load p _ := (.ok p.state, p)
  save _ _ state := (.ok (), ⟨state⟩)
  held p _ := some p.state
  held_load _ _ := rfl
  held_save _ _ _ _ := rfl
  held_save_error _ _ _ _ h := by cases h

/-- Answers with these status codes, and from then on with a message reference. -/
structure ScriptedHttp where
  statusCodes : List Int := []

instance : MetaHttpClient ScriptedHttp where
  post client _ _ :=
    match client.statusCodes with
    | [] => (.ok { statusCode := 200, firstMessageId := some "wamid.out.1" }, client)
    | statusCode :: rest => (.ok { statusCode }, ⟨rest⟩)

/-- A tap on a button or a row. -/
def tap (replyId : String) : NormalizedInboundMessage where
  providerMessageRef := "wamid." ++ replyId
  sender := ⟨"raw-phone", by decide⟩
  occurredAtEpoch := 10
  text := none
  interactiveReply := some ⟨.buttonReply, replyId, replyId⟩
  contextProviderMessageRef := none
  metadataPhoneNumberId := "phone-id"

end XbosCustomerChannel.Fixture
