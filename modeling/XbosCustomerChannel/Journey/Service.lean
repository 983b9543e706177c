import XbosCustomerChannel.Data.Decimal
import XbosCustomerChannel.Data.Dict
import XbosCustomerChannel.Effects.Interleaving
import XbosCustomerChannel.Errors

/-!
# The customer journey

`run_confirm_and_pay` takes a customer from an entry point to a receipt over three ports: commerce,
payments and the transport. It decides nothing about orders or money, it tells the customer what the
ports say. Commerce and payments are any components that answer its questions; the transport is the
fixture, which sends once for each idempotency key.
-/

namespace XbosCustomerChannel

open Effects Effects.Program Data

/-! ## What the ports speak of -/

structure EntryContext where
  merchantRef : String
  locationRef : String
  serviceMode : String
  tableRef : Option String := none
  deriving DecidableEq, Repr

structure MenuItem where
  itemRef : String
  name : String
  displayPrice : Decimal
  currency : String
  deriving DecidableEq, Repr

structure Quote where
  quoteRef : String
  merchantRef : String
  amount : Decimal
  currency : String
  itemRefs : List String
  deriving DecidableEq, Repr

structure OrderRef where
  orderRef : String
  state : String
  quoteRef : String
  deriving DecidableEq, Repr

inductive PaymentState
  | pending
  | succeeded
  | failed
  | canceled
  deriving DecidableEq, Repr

structure PaymentRequest where
  paymentRef : String
  amount : Decimal
  currency : String
  state : PaymentState
  deriving DecidableEq, Repr

structure Receipt where
  receiptRef : String
  orderRef : String
  amount : Decimal
  currency : String
  deriving DecidableEq, Repr

structure OutboundMessage where
  messageRef : String
  channel : String
  body : String
  deriving DecidableEq, Repr

/-! ## The ports -/

/-- What a journey asks of `XBOSCommercePort`. -/
inductive CommerceOp
  | resolveEntryContext (entryRef : String)
  | getMenu (context : EntryContext)
  | resolveQuote (context : EntryContext) (itemRefs : List String)
  | openOrder (quote : Quote) (idempotencyKey : String)
  | confirmOrder (orderRef idempotencyKey : String)
  | getOrderStatus (orderRef : String)
  | getReceipt (orderRef : String)

abbrev CommerceOp.Resp : CommerceOp → Type
  | resolveEntryContext _ => Except Exc EntryContext
  | getMenu _ => Except Exc (List MenuItem)
  | resolveQuote _ _ => Except Exc Quote
  | openOrder _ _ => Except Exc OrderRef
  | confirmOrder _ _ => Except Exc OrderRef
  | getOrderStatus _ => Except Exc OrderRef
  | getReceipt _ => Except Exc Receipt

/-- What a journey asks of `PaymentPort`. -/
inductive PaymentOp
  | createPaymentRequest (quote : Quote) (idempotencyKey : String)
  | getPaymentStatus (paymentRef : String)

abbrev PaymentOp.Resp : PaymentOp → Type
  | createPaymentRequest _ _ => Except Exc PaymentRequest
  | getPaymentStatus _ => Except Exc PaymentState

class XBOSCommercePort (κ : Type) where
  answer : (op : CommerceOp) → κ → op.Resp × κ

class PaymentPort (ρ : Type) where
  answer : (op : PaymentOp) → ρ → op.Resp × ρ

inductive JourneyOp
  | commerce (op : CommerceOp)
  | payment (op : PaymentOp)
  | sendMessage (customerRef body idempotencyKey : String)

abbrev JourneyOp.Resp : JourneyOp → Type
  | commerce op => op.Resp
  | payment op => op.Resp
  | sendMessage _ _ _ => OutboundMessage

abbrev Journey : Signature where
  Op := JourneyOp
  Resp := JourneyOp.Resp

/-! ## The transport -/

/-- `FakeWhatsAppTransport`, as far as it sends. -/
structure FakeWhatsAppTransport where
  sent : Dict String OutboundMessage := ∅

/-- `send_message`: one message for each key. -/
def FakeWhatsAppTransport.sendMessage (t : FakeWhatsAppTransport) (body idempotencyKey : String) :
    OutboundMessage × FakeWhatsAppTransport :=
  match t.sent.get? idempotencyKey with
  | some message => (message, t)
  | none =>
      let message : OutboundMessage :=
        { messageRef := "message:fixture:" ++ toString (t.sent.size + 1)
          channel := "whatsapp_fake"
          body }
      (message, { t with sent := t.sent.set idempotencyKey message })

structure JourneyWorld (κ ρ : Type) where
  commerce : κ
  payments : ρ
  transport : FakeWhatsAppTransport := {}

section Handler

variable {κ ρ : Type} [XBOSCommercePort κ] [PaymentPort ρ]

def handleJourney : Handler Journey (JourneyWorld κ ρ)
  | .commerce op, w =>
      ((XBOSCommercePort.answer op w.commerce).1,
        { w with commerce := (XBOSCommercePort.answer op w.commerce).2 })
  | .payment op, w =>
      ((PaymentPort.answer op w.payments).1,
        { w with payments := (PaymentPort.answer op w.payments).2 })
  | .sendMessage _ body key, w =>
      ((w.transport.sendMessage body key).1,
        { w with transport := (w.transport.sendMessage body key).2 })

end Handler

/-! ## The service -/

structure JourneyOutcome where
  order : OrderRef
  paymentState : PaymentState
  receipt : Receipt
  deriving DecidableEq, Repr

structure JourneyArgs where
  customerRef : String
  entryRef : String
  itemRefs : List String
  correlationRef : String

/-- The text of the message while the payment has not succeeded. -/
def pendingBody : String :=
  "Payment is still pending. Your order has not been marked paid. You can safely check again."

/-- The text of the message with the receipt. -/
def receiptBody (receipt : Receipt) : String :=
  "Payment confirmed. Receipt " ++ receipt.receiptRef ++ "."

def JourneyArgs.pendingKey (args : JourneyArgs) : String := args.correlationRef ++ ":msg:pending"

def JourneyArgs.receiptKey (args : JourneyArgs) : String := args.correlationRef ++ ":msg:receipt"

namespace CustomerJourneyService

/-- Ask a port, whose refusal is an exception. -/
abbrev askFor {α : Type} (op : JourneyOp) (answer : op.Resp → Except Exc α) :
    Program Journey Exc α :=
  @Program.call Journey Exc α op fun r => ofExcept (answer r)

/-- Send a message. -/
abbrev send (customerRef body key : String) : Program Journey Exc OutboundMessage :=
  @Program.call Journey Exc _ (.sendMessage customerRef body key) .done

/-- `run_confirm_and_pay`. -/
def runConfirmAndPay (args : JourneyArgs) : Program Journey Exc JourneyOutcome := do
  let context ← askFor (.commerce (.resolveEntryContext args.entryRef)) id
  let _ ← askFor (.commerce (.getMenu context)) id
  let quote ← askFor (.commerce (.resolveQuote context args.itemRefs)) id
  let order ← askFor (.commerce (.openOrder quote (args.correlationRef ++ ":order:open"))) id
  let order ← askFor
    (.commerce (.confirmOrder order.orderRef (args.correlationRef ++ ":order:confirm"))) id
  let payment ← askFor
    (.payment (.createPaymentRequest quote (args.correlationRef ++ ":payment:create"))) id
  let state ← askFor (.payment (.getPaymentStatus payment.paymentRef)) id
  if state ≠ .succeeded then do
    let _ ← send args.customerRef pendingBody args.pendingKey
    .raise ⟨.runtimeError, "payment_not_succeeded"⟩
  else do
    let authoritativeOrder ← askFor (.commerce (.getOrderStatus order.orderRef)) id
    let receipt ← askFor (.commerce (.getReceipt authoritativeOrder.orderRef)) id
    let _ ← send args.customerRef (receiptBody receipt) args.receiptKey
    pure ⟨authoritativeOrder, state, receipt⟩

end CustomerJourneyService

/-! ## The fixtures -/

/-- `FakeXBOSCommerceClient`, as far as a journey asks it. -/
structure FakeXBOSCommerceClient where
  context : EntryContext :=
    ⟨"merchant:fixture:alpha", "location:fixture:one", "dine_in", some "table:fixture:a1"⟩
  menu : List MenuItem :=
    [⟨"item:fixture:one", "Fixture Item One", Decimal.ofNat 3000, "XAF"⟩,
      ⟨"item:fixture:two", "Fixture Item Two", Decimal.ofNat 3000, "XAF"⟩]
  ordersByKey : Dict String OrderRef := ∅

namespace FakeXBOSCommerceClient

variable (client : FakeXBOSCommerceClient)

/-- `resolve_entry_context`. -/
def resolveEntryContext (entryRef : String) : Except Exc EntryContext :=
  if entryRef ≠ "entry:fixture:alpha" then .error ⟨.keyError, entryRef⟩ else .ok client.context

/-- `resolve_quote`. -/
def resolveQuote (context : EntryContext) (itemRefs : List String) : Except Exc Quote :=
  let selected := client.menu.filter fun item => item.itemRef ∈ itemRefs
  if selected.isEmpty then .error ⟨.keyError, "no_items"⟩
  else .ok
    { quoteRef := "quote:fixture:1"
      merchantRef := context.merchantRef
      amount := selected.foldl (fun sum item => sum.plus item.displayPrice) (Decimal.ofNat 0)
      currency := "XAF"
      itemRefs := selected.map MenuItem.itemRef }

/-- `open_order`. -/
def openOrder (quote : Quote) (idempotencyKey : String) : OrderRef × FakeXBOSCommerceClient :=
  match client.ordersByKey.get? idempotencyKey with
  | some order => (order, client)
  | none =>
      let order : OrderRef := ⟨"order:fixture:1", "draft", quote.quoteRef⟩
      (order, { client with ordersByKey := client.ordersByKey.set idempotencyKey order })

/-- `confirm_order`. -/
def confirmOrder (orderRef : String) : OrderRef :=
  ⟨orderRef, "confirmed_pending_payment", "quote:fixture:1"⟩

/-- `get_order_status`. -/
def getOrderStatus (orderRef : String) : OrderRef := ⟨orderRef, "confirmed_paid", "quote:fixture:1"⟩

/-- `get_receipt`. -/
def getReceipt (orderRef : String) : Receipt :=
  ⟨"receipt:fixture:1", orderRef, Decimal.ofNat 3000, "XAF"⟩

end FakeXBOSCommerceClient

instance instCommercePortFake : XBOSCommercePort FakeXBOSCommerceClient where
  answer
    | .resolveEntryContext entryRef, client => (client.resolveEntryContext entryRef, client)
    | .getMenu _, client => (.ok client.menu, client)
    | .resolveQuote context itemRefs, client => (client.resolveQuote context itemRefs, client)
    | .openOrder quote key, client =>
        (.ok (client.openOrder quote key).1, (client.openOrder quote key).2)
    | .confirmOrder orderRef _, client => (.ok (FakeXBOSCommerceClient.confirmOrder orderRef), client)
    | .getOrderStatus orderRef, client =>
        (.ok (FakeXBOSCommerceClient.getOrderStatus orderRef), client)
    | .getReceipt orderRef, client => (.ok (FakeXBOSCommerceClient.getReceipt orderRef), client)

/-- `FakePaymentService`. -/
structure FakePaymentService where
  terminalState : PaymentState := .succeeded
  requestsByKey : Dict String PaymentRequest := ∅

/-- `create_payment_request`. -/
def FakePaymentService.createPaymentRequest (service : FakePaymentService) (quote : Quote)
    (idempotencyKey : String) : PaymentRequest × FakePaymentService :=
  match service.requestsByKey.get? idempotencyKey with
  | some request => (request, service)
  | none =>
      let request : PaymentRequest := ⟨"payment:fixture:1", quote.amount, quote.currency, .pending⟩
      (request, { service with requestsByKey := service.requestsByKey.set idempotencyKey request })

instance instPaymentPortFake : PaymentPort FakePaymentService where
  answer
    | .createPaymentRequest quote key, service =>
        (.ok (service.createPaymentRequest quote key).1, (service.createPaymentRequest quote key).2)
    | .getPaymentStatus _, service => (.ok service.terminalState, service)

end XbosCustomerChannel
