import XbosCustomerChannel.Effects.Unwinding
import XbosCustomerChannel.Order.Shown

/-!
# Customers at one order port

Calls of `prepare_confirmation` and `submit` for several sessions, all on the fixture. Whether the
others disturb one customer is a question about two runs: `World.Alike` relates the world in which
everybody calls to the one in which only that customer does.
-/

namespace XbosCustomerChannel

open Effects Effects.Program Data OrderDraftConfirmationService

/-! ## Calls -/

/-- A generator about to draw the token. A token that is taken is redrawn. -/
def RefSource.drawing (refs : RefSource) (token : String) : RefSource where
  token stem taken := if stem ++ token ∈ taken then refs.token stem taken else token
  fresh stem taken := by
    split
    · exact refs.fresh stem taken
    · next hnew => exact hnew

def World.drawing {π : Type} (w : World π) (token : String) : World π :=
  { w with refs := w.refs.drawing token }

/-- A call of the order draft and confirmation service. -/
inductive CheckoutCall
  /-- The token is the one drawn for the handle. -/
  | prepareConfirmation (args : PrepareConfirmationArgs) (token : String)
  | submit (args : SubmitArgs)

namespace CheckoutCall

def sessionRef : CheckoutCall → String
  | prepareConfirmation args _ => args.sessionRef
  | submit args => args.sessionRef

def clientSubmitRef : CheckoutCall → Option String
  | prepareConfirmation _ _ => none
  | submit args => some args.clientSubmitRef

/-- The client references of a list of calls. -/
def clientSubmitRefs (calls : List CheckoutCall) : List String := calls.filterMap clientSubmitRef

variable (w : World FakeXBOSOrderClient)

/-- The call is made on the session that is stored under the key. -/
def On (key : String) (call : CheckoutCall) : Prop :=
  w.sessions.canonicalRef call.sessionRef = key

instance (key : String) : DecidablePred (On w key) :=
  fun _ => inferInstanceAs (Decidable (_ = _))

/-- The token drawn is a new one. -/
def Drawn : CheckoutCall → Prop
  | prepareConfirmation _ token =>
      "confirmation_handle_" ++ token ∉ w.provenance.confirmations.keys
  | submit _ => True

instance : DecidablePred (Drawn w)
  | prepareConfirmation _ _ => inferInstanceAs (Decidable (¬ _))
  | submit _ => isTrue trivial

/-- The world the call starts in. -/
def start : CheckoutCall → World FakeXBOSOrderClient
  | prepareConfirmation _ token => w.drawing token
  | submit _ => w

def program [Hashlib] (svc : OrderDraftConfirmationService) : CheckoutCall → Service Unit
  | prepareConfirmation args _ => (svc.prepareConfirmation args).void
  | submit args => (svc.submit args).void

end CheckoutCall

/-! ## Outcomes -/

/-- The order without the names the port gave. -/
def CanonicalOrderProjection.unnamed (order : CanonicalOrderProjection) :
    CanonicalOrderProjection := { order with orderRef := "", evidenceRef := "" }

/-- The session without the names of its order and of its evidence. -/
def CustomerSessionSnapshot.unnamed (s : CustomerSessionSnapshot) : CustomerSessionSnapshot :=
  { s with orderRef := none, lastUpstreamEvidenceRef := none }

/-- The exception, with a handle of another session refused as one that is not known. -/
def Exc.refusal (exc : Exc) : Exc :=
  if exc = ⟨.orderConfirmationRejected, "confirmation_session_context_mismatch"⟩ then
    ⟨.orderConfirmationRejected, "unknown_server_confirmation_handle"⟩
  else exc

/-- What the caller of a service gets, up to the names of orders and evidence. -/
inductive CheckoutOutcome
  | presented (confirmation : ServerIssuedConfirmation)
  /-- An order, with the commercial terms of its confirmation. -/
  | ordered (order : CanonicalOrderProjection)
      (terms : Option AuthoritativeOrderConfirmationSnapshot)
  | raised (exc : Exc)
  deriving DecidableEq

section Machine

variable [Hashlib] (svc : OrderDraftConfirmationService)

def CheckoutCall.outcome (w : World FakeXBOSOrderClient) : CheckoutCall → CheckoutOutcome
  | prepareConfirmation args token =>
      match exec handle (svc.prepareConfirmation args) (w.drawing token) with
      | (.ok confirmation, _) => .presented confirmation
      | (.error exc, _) => .raised exc.refusal
  | submit args =>
      match exec handle (svc.submit args) w with
      | (.ok order, w') =>
          .ordered order.unnamed (w'.orders.resolveOrderConfirmation order.confirmationRef)
      | (.error exc, _) => .raised exc.refusal

/-- The service and everything behind it, as it takes one call after another. -/
def checkout : Machine (World FakeXBOSOrderClient) CheckoutCall CheckoutOutcome where
  step w call := (exec handle (call.program svc) (call.start w)).2
  outcome := CheckoutCall.outcome svc

end Machine

/-! ## Undisturbed calls -/

/-- The confirmation an operation has the port prepare. -/
def preparedBy : Channel.Op × World FakeXBOSOrderClient →
    Option AuthoritativeOrderConfirmationSnapshot
  | (.order (.prepareOrderConfirmation quote context now), w) =>
      (w.orders.prepareOrderConfirmation quote context now).1.toOption
  | _ => none

/-- The request an operation puts to the port. -/
def submittedBy : Channel.Op × World FakeXBOSOrderClient → Option OrderSubmitRequest
  | (.order (.submitOrder request), _) => some request
  | _ => none

/-- The records of the handles issued to the session under the key. -/
def World.recordsOf {π : Type} (w : World π) (key : String) : List ConfirmationProvenanceRecord :=
  (w.provenance.confirmations.entries.map (·.2)).filter (·.binding.sessionRef = key)

section Undisturbed

variable [Hashlib] (svc : OrderDraftConfirmationService)

/-- The operations of a call. -/
def CheckoutCall.operations (w : World FakeXBOSOrderClient) (call : CheckoutCall) :
    List (Channel.Op × World FakeXBOSOrderClient) :=
  issued handle (call.program svc) (call.start w)

/-- A call of the others replaces no confirmation the customer holds a handle for, and a call of the
customer finds no confirmation claimed for a client reference of theirs. -/
structure CheckoutCall.Undisturbed (key : String) (own : List String)
    (w : World FakeXBOSOrderClient) (call : CheckoutCall) : Prop where
  kept : ¬ call.On w key → ∀ c ∈ (call.operations svc w).filterMap preparedBy,
    ∀ record ∈ w.recordsOf key, record.authoritativeXbosConfirmationRef = c.confirmationRef →
      w.orders.resolveOrderConfirmation c.confirmationRef = some c
  unclaimed : call.On w key → ∀ request ∈ (call.operations svc w).filterMap submittedBy,
    ∀ c ∈ w.orders.clientRefByConfirmation.get? request.confirmationRef, c ∈ own

instance (key : String) (own : List String) (w : World FakeXBOSOrderClient) (call : CheckoutCall) :
    Decidable (call.Undisturbed svc key own w) :=
  decidable_of_iff
    ((¬ call.On w key → ∀ c ∈ (call.operations svc w).filterMap preparedBy,
      ∀ record ∈ w.recordsOf key, record.authoritativeXbosConfirmationRef = c.confirmationRef →
        w.orders.resolveOrderConfirmation c.confirmationRef = some c) ∧
    (call.On w key → ∀ request ∈ (call.operations svc w).filterMap submittedBy,
      ∀ c ∈ w.orders.clientRefByConfirmation.get? request.confirmationRef, c ∈ own))
    ⟨fun h => ⟨h.1, h.2⟩, fun h => ⟨h.kept, h.unclaimed⟩⟩

end Undisturbed

/-! ## The two worlds -/

namespace FakeXBOSOrderClient

/-- The reference of the `n`-th order. -/
def orderRefOf (n : Nat) : String := "order:fixture:" ++ toString n

theorem orderRefOf_injective : Function.Injective orderRefOf := by
  intro m n h
  apply Json.toString_inj
  simpa [orderRefOf] using h

theorem orderRefOf_ne_empty (n : Nat) : orderRefOf n ≠ "" := by
  intro h
  have hlength := congrArg String.length h
  rw [orderRefOf, String.length_append] at hlength
  simp at hlength

/-- No failure is due, and the orders are named by number. -/
structure Regular (client : FakeXBOSOrderClient) : Prop where
  before : client.failNextBeforeEffect = false
  after : client.failNextAfterEffect = false
  numbered : ∀ c e, client.ordersByClientRef.get? c = some e →
    ∃ n ≤ client.orderCounter, e.2.orderRef = orderRefOf n
  distinct : ∀ c₁ e₁ c₂ e₂, client.ordersByClientRef.get? c₁ = some e₁ →
    client.ordersByClientRef.get? c₂ = some e₂ → e₁.2.orderRef = e₂.2.orderRef → c₁ = c₂

theorem regular_empty : Regular {} where
  before := rfl
  after := rfl
  numbered := by
    intro c e h
    cases h
  distinct := by
    intro c₁ e₁ c₂ e₂ h
    cases h

theorem Regular.place {client : FakeXBOSOrderClient} (h : client.Regular)
    (request : OrderSubmitRequest) : (client.place request).Regular where
  before := h.before
  after := h.after
  numbered := by
    intro c e he
    have he : (client.ordersByClientRef.set request.clientSubmitRef
      (request.confirmationRef, client.nextOrder request)).get? c = some e := he
    rw [Dict.get?_set] at he
    split at he
    · obtain rfl := Option.some.inj he
      exact ⟨client.orderCounter + 1, le_rfl, rfl⟩
    · obtain ⟨n, hn, hname⟩ := h.numbered c e he
      exact ⟨n, Nat.le_succ_of_le hn, hname⟩
  distinct := by
    intro c₁ e₁ c₂ e₂ h₁ h₂ hsame
    -- the number of the new order is beyond all that are taken
    have hnew (c : String) (e : String × CanonicalOrderProjection)
        (he : client.ordersByClientRef.get? c = some e) :
        e.2.orderRef ≠ (client.nextOrder request).orderRef := by
      intro hname
      obtain ⟨n, hn, hn'⟩ := h.numbered c e he
      have := orderRefOf_injective (hn'.symm.trans hname)
      omega
    change (client.ordersByClientRef.set request.clientSubmitRef
      (request.confirmationRef, client.nextOrder request)).get? _ = _ at h₁ h₂
    rw [Dict.get?_set] at h₁ h₂
    split at h₁ <;> split at h₂
    · next hc₁ hc₂ => rw [hc₁, hc₂]
    · obtain rfl := Option.some.inj h₁
      exact absurd hsame.symm (hnew _ _ h₂)
    · obtain rfl := Option.some.inj h₂
      exact absurd hsame (hnew _ _ h₁)
    · exact h.distinct _ _ _ _ h₁ h₂ hsame

/-- An entry of the order table without the names the port gave. -/
def unnamedEntry (e : String × CanonicalOrderProjection) : String × CanonicalOrderProjection :=
  (e.1, e.2.unnamed)

/-- The port as everybody calls it, and as the customer with the client references alone does. -/
structure Alike (own : List String) (client client' : FakeXBOSOrderClient) : Prop where
  regular : client.Regular
  regular' : client'.Regular
  orders : ∀ c ∈ own, (client'.ordersByClientRef.get? c).map unnamedEntry =
    (client.ordersByClientRef.get? c).map unnamedEntry
  claims : ∀ c ∈ own, ∀ ref, client'.clientRefByConfirmation.get? ref = some c ↔
    client.clientRefByConfirmation.get? ref = some c
  alone : ∀ ref c, client'.clientRefByConfirmation.get? ref = some c → c ∈ own

end FakeXBOSOrderClient

open FakeXBOSOrderClient

/-- Two snapshots of a session that refer to the same order of the customer's, if to any. Neither
refers to an order that is still to come. -/
structure CustomerSessionSnapshot.Alike (own : List String) (client client' : FakeXBOSOrderClient)
    (s s' : CustomerSessionSnapshot) : Prop where
  unnamed : s'.unnamed = s.unnamed
  named : s'.orderRef.isSome = s.orderRef.isSome
  orders : ∀ c ∈ own, ∀ e e', client.ordersByClientRef.get? c = some e →
    client'.ordersByClientRef.get? c = some e' →
      (s'.orderRef = some e'.2.orderRef ↔ s.orderRef = some e.2.orderRef)
  past : ∀ n, client.orderCounter < n → s.orderRef ≠ some (orderRefOf n)
  past' : ∀ n, client'.orderCounter < n → s'.orderRef ≠ some (orderRefOf n)

/-- The world in which everybody calls, and the one in which only the customer of the session under
the key does. -/
structure World.Alike (key : String) (own : List String) (w w' : World FakeXBOSOrderClient) :
    Prop where
  keyed : w.Keyed
  keyed' : w'.Keyed
  upstream : w'.upstream = w.upstream
  aliases : w'.sessions.aliases = w.sessions.aliases
  session : ∃ s s', w.sessions.sessions.get? key = some s ∧
    w'.sessions.sessions.get? key = some s' ∧ s.Alike own w.orders w'.orders s'
  results : ∀ k, (w'.sessions.idempotentResults.get? (key, k)).isSome =
    (w.sessions.idempotentResults.get? (key, k)).isSome
  records : ∀ h, w'.provenance.resolveConfirmation h =
    (w.provenance.resolveConfirmation h).filter (·.binding.sessionRef = key)
  confirmations : ∀ h record, w'.provenance.resolveConfirmation h = some record →
    w'.orders.resolveOrderConfirmation record.authoritativeXbosConfirmationRef =
      w.orders.resolveOrderConfirmation record.authoritativeXbosConfirmationRef
  ports : w.orders.Alike own w'.orders

end XbosCustomerChannel
