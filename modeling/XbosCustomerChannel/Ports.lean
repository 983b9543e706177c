import XbosCustomerChannel.Effects.Execution
import XbosCustomerChannel.Identity.Model
import XbosCustomerChannel.Order.FakeClient
import XbosCustomerChannel.Provenance.Store
import XbosCustomerChannel.Session.Store

/-!
# Ports and the world behind them

Everything a service reaches is an operation of one signature, `Channel`: a method of one of the
two stores, a method of the order port, or a call to an XBOS system. `World π` is the state that
answers. The order port is a state of its own (`π`); the other XBOS systems are answers as they
stand at the moment of the call (`Upstream`), which may be anything and may change between calls.
-/

namespace XbosCustomerChannel

open Effects Data

/-! ## The lifecycle and payment-request boundary -/

structure OrderChangeRequest where
  clientChangeRef : String
  correlationRef : String
  orderRef : String
  requestedChangeRef : String
  deriving DecidableEq, Repr

structure CancellationRequest where
  clientCancelRef : String
  correlationRef : String
  orderRef : String
  reasonRef : String
  deriving DecidableEq, Repr

/-- The decision fields are XBOS's own; the services pass decisions on unread. -/
structure OrderChangeDecision where
  decisionRef : String
  orderRef : String
  correlationRef : String
  accepted : Bool
  reasonCode : String
  evidenceRef : String
  deriving DecidableEq, Repr

inductive CancellationCase
  | cancelBeforePayment
  | cancelAfterPayment
  | cancelAfterPreparationBegan
  | merchantInitiatedCancellation
  deriving DecidableEq, Repr

structure CancellationDecision where
  decisionRef : String
  orderRef : String
  correlationRef : String
  case : CancellationCase
  accepted : Bool
  financialCorrectionRequired : Bool
  reasonCode : String
  evidenceRef : String
  deriving DecidableEq, Repr

structure CanonicalPaymentRequestProjection where
  paymentRequestRef : String
  orderRef : String
  correlationRef : String
  canonicalAmount : Decimal
  currency : String
  policyRef : String
  evidenceRef : String
  deriving DecidableEq, Repr

/-! ## Operations -/

/-- Calls to XBOS systems that answer a question. -/
inductive UpstreamOp
  | resolveQuote (merchantRef locationRef : String) (cart : InteractionCart) (nowEpoch : Int)
  | attestContext (merchantRef locationRef : String) (tableRef : Option String)
      (purpose : EntryPurpose) (diningAreaRef : Option String)
  | reconcileSession (session : CustomerSessionSnapshot)
  | resolveBinding (identityBindingRef : String)

abbrev UpstreamOp.Resp : UpstreamOp → Type
  | resolveQuote _ _ _ _ => Except Exc CommercialQuoteSnapshot
  | attestContext _ _ _ _ _ => Except Exc EntryContextAttestation
  | reconcileSession _ => Except Exc (Option UpstreamStateProjection)
  | resolveBinding _ => Option IdentityBindingRecord

/-- Calls that act on, or present, the order a session refers to. -/
inductive OrderAuthorityOp
  | requestOrderChange (request : OrderChangeRequest)
  | requestCancellation (request : CancellationRequest)
  | getPaymentRequest (orderRef correlationRef : String)

abbrev OrderAuthorityOp.Resp : OrderAuthorityOp → Type
  | requestOrderChange _ => Except Exc OrderChangeDecision
  | requestCancellation _ => Except Exc CancellationDecision
  | getPaymentRequest _ _ => Except Exc CanonicalPaymentRequestProjection

inductive OrderPortOp
  | resolveServiceContext (merchantRef locationRef : String) (mode : ServiceMode)
      (tableRef contactRef deliveryAddressRef : Option String)
  | prepareOrderConfirmation (quote : CommercialQuoteSnapshot)
      (serviceContext : ServiceModeProjection) (nowEpoch : Int)
  | resolveOrderConfirmation (confirmationRef : String)
  | submitOrder (request : OrderSubmitRequest)
  | getOrderByClientRef (clientSubmitRef : String)

abbrev OrderPortOp.Resp : OrderPortOp → Type
  | resolveServiceContext _ _ _ _ _ _ => Except Exc ServiceModeProjection
  | prepareOrderConfirmation _ _ _ => Except Exc AuthoritativeOrderConfirmationSnapshot
  | resolveOrderConfirmation _ => Option AuthoritativeOrderConfirmationSnapshot
  | submitOrder _ => Except Exc CanonicalOrderProjection
  | getOrderByClientRef _ => Option CanonicalOrderProjection

inductive ChannelOp
  | session (op : SessionStoreOp)
  | provenance (op : ProvenanceStoreOp)
  | order (op : OrderPortOp)
  | upstream (op : UpstreamOp)
  | orderAuthority (op : OrderAuthorityOp)

abbrev ChannelOp.Resp : ChannelOp → Type
  | session op => op.Resp
  | provenance op => op.Resp
  | order op => op.Resp
  | upstream op => op.Resp
  | orderAuthority op => op.Resp

abbrev Channel : Signature where
  Op := ChannelOp
  Resp := ChannelOp.Resp

/-- A service method's body. -/
abbrev Service (α : Type) := Program Channel Exc α

/-- Issue one operation of the channel. -/
abbrev ask (op : ChannelOp) : Service op.Resp := @Program.call Channel Exc _ op .done

/-! ## The world -/

/-- What the XBOS systems answer. -/
structure Upstream where
  resolveQuote : (merchantRef locationRef : String) → InteractionCart → (nowEpoch : Int) →
    Except Exc CommercialQuoteSnapshot
  attestContext : (merchantRef locationRef : String) → (tableRef : Option String) →
    EntryPurpose → (diningAreaRef : Option String) → Except Exc EntryContextAttestation
  reconcileSession : CustomerSessionSnapshot → Except Exc (Option UpstreamStateProjection)
  resolveBinding : String → Option IdentityBindingRecord
  requestOrderChange : OrderChangeRequest → Except Exc OrderChangeDecision
  requestCancellation : CancellationRequest → Except Exc CancellationDecision
  getPaymentRequest : (orderRef correlationRef : String) →
    Except Exc CanonicalPaymentRequestProjection

structure World (π : Type) where
  sessions : InMemoryCustomerSessionStore := {}
  provenance : InMemoryChannelProvenanceStore := {}
  orders : π
  upstream : Upstream
  refs : RefSource

variable {π : Type} [XBOSOrderPort π] [Hashlib]

def Upstream.answer (u : Upstream) : (op : UpstreamOp) → op.Resp
  | .resolveQuote merchant location cart now => u.resolveQuote merchant location cart now
  | .attestContext merchant location table purpose area =>
      u.attestContext merchant location table purpose area
  | .reconcileSession session => u.reconcileSession session
  | .resolveBinding ref => u.resolveBinding ref

def Upstream.authorityAnswer (u : Upstream) : (op : OrderAuthorityOp) → op.Resp
  | .requestOrderChange request => u.requestOrderChange request
  | .requestCancellation request => u.requestCancellation request
  | .getPaymentRequest order correlation => u.getPaymentRequest order correlation

def orderPortAnswer (port : π) : (op : OrderPortOp) → op.Resp × π
  | .resolveServiceContext merchant location mode table contact address =>
      (XBOSOrderPort.resolveServiceContext port merchant location mode table contact address, port)
  | .prepareOrderConfirmation quote context now =>
      XBOSOrderPort.prepareOrderConfirmation port quote context now
  | .resolveOrderConfirmation ref => (XBOSOrderPort.resolveOrderConfirmation port ref, port)
  | .submitOrder request => XBOSOrderPort.submitOrder port request
  | .getOrderByClientRef ref => (XBOSOrderPort.getOrderByClientRef port ref, port)

/-- One atomic operation on the world. -/
def handle : Handler Channel (World π)
  | .session op, w => ((w.sessions.answer op).1, { w with sessions := (w.sessions.answer op).2 })
  | .provenance op, w =>
      ((w.provenance.answer w.refs op).1,
        { w with provenance := (w.provenance.answer w.refs op).2 })
  | .order op, w =>
      ((orderPortAnswer w.orders op).1, { w with orders := (orderPortAnswer w.orders op).2 })
  | .upstream op, w => (w.upstream.answer op, w)
  | .orderAuthority op, w => (w.upstream.authorityAnswer op, w)

/-! ## What each kind of operation leaves alone -/

/-- Operations that only read. -/
def ChannelOp.Reads : ChannelOp → Prop
  | session (.canonicalRef _) => True
  | session (.get _) => True
  | session (.idempotentResult _ _) => True
  | provenance (.resolveEvidence _) => True
  | provenance (.resolveConfirmation _) => True
  | order (.resolveServiceContext _ _ _ _ _ _) => True
  | order (.resolveOrderConfirmation _) => True
  | order (.getOrderByClientRef _) => True
  | upstream _ => True
  | orderAuthority _ => True
  | _ => False

theorem handle_of_reads (op : Channel.Op) (w : World π) (h : ChannelOp.Reads op) :
    (handle op w).2 = w := by
  cases op with
  | session op => cases op <;> first | rfl | exact absurd h id
  | provenance op => cases op <;> first | rfl | exact absurd h id
  | order op => cases op <;> first | rfl | exact absurd h id
  | upstream op => rfl
  | orderAuthority op => rfl

theorem handle_upstream (op : Channel.Op) (w : World π) :
    (handle op w).2.upstream = w.upstream := by
  cases op <;> rfl

end XbosCustomerChannel
