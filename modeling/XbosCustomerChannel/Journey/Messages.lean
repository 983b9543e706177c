import XbosCustomerChannel.Effects.Path
import XbosCustomerChannel.Journey.Service

/-!
# What customers are told

Journeys at once, over any commerce and payments: a message is sent in the last step of a journey
only, and says what the journey was answered. A receipt is announced under the key for receipts and
only after a payment that succeeded; everything else about a payment is announced as pending, under
the other key.
-/

namespace XbosCustomerChannel

open Effects Data

/-! ## Keys -/

theorem append_left_cancel {a b c : String} (h : a ++ c = b ++ c) : a = b := by
  apply String.toList_inj.mp
  have hlist := congrArg String.toList h
  rw [String.toList_append, String.toList_append] at hlist
  exact List.append_cancel_right hlist

theorem JourneyArgs.pendingKey_ne_receiptKey (args args' : JourneyArgs) :
    args.pendingKey ≠ args'.receiptKey := by
  intro h
  have hlast := congrArg (fun key => key.toList.getLast?) h
  simp [pendingKey, receiptKey, String.toList_append] at hlast

/-- Keys of journeys with different correlations are different. -/
theorem JourneyArgs.correlation_of_key {args args' : JourneyArgs} {key : String}
    (h : key = args.pendingKey ∨ key = args.receiptKey)
    (h' : key = args'.pendingKey ∨ key = args'.receiptKey) :
    args.correlationRef = args'.correlationRef := by
  rcases h with rfl | rfl
  · rcases h' with h' | h'
    · exact append_left_cancel h'
    · exact absurd h' (pendingKey_ne_receiptKey args args')
  · rcases h' with h' | h'
    · exact absurd h'.symm (pendingKey_ne_receiptKey args' args)
    · exact append_left_cancel h'

/-! ## The transport -/

namespace FakeWhatsAppTransport

/-- The text that was sent under a key. -/
def body? (t : FakeWhatsAppTransport) (key : String) : Option String :=
  (t.sent.get? key).map OutboundMessage.body

variable (t : FakeWhatsAppTransport) (body key : String)

/-- The first message under a key stays. -/
theorem body?_sendMessage (key' : String) :
    (t.sendMessage body key).2.body? key' =
      if key' = key then some ((t.body? key).getD body) else t.body? key' := by
  unfold sendMessage body?
  cases hsent : t.sent.get? key with
  | some message =>
      by_cases hkey : key' = key
      · simp [hkey, hsent]
      · simp [hkey]
  | none =>
      by_cases hkey : key' = key
      · simp [hkey]
      · simp [hkey, Dict.get?_set_of_ne]

end FakeWhatsAppTransport

/-! ## A journey in two parts -/

namespace CustomerJourneyService

/-- What a journey comes to. -/
inductive Verdict
  | unpaid
  | paid (order : OrderRef) (receipt : Receipt)

/-- The questions of a journey. -/
def verdict (args : JourneyArgs) : Program Journey Exc Verdict := do
  let context ← askFor (.commerce (.resolveEntryContext args.entryRef)) id
  let _ ← askFor (.commerce (.getMenu context)) id
  let quote ← askFor (.commerce (.resolveQuote context args.itemRefs)) id
  let order ← askFor (.commerce (.openOrder quote (args.correlationRef ++ ":order:open"))) id
  let order ← askFor
    (.commerce (.confirmOrder order.orderRef (args.correlationRef ++ ":order:confirm"))) id
  let payment ← askFor
    (.payment (.createPaymentRequest quote (args.correlationRef ++ ":payment:create"))) id
  let state ← askFor (.payment (.getPaymentStatus payment.paymentRef)) id
  if state ≠ .succeeded then pure .unpaid
  else do
    let authoritativeOrder ← askFor (.commerce (.getOrderStatus order.orderRef)) id
    let receipt ← askFor (.commerce (.getReceipt authoritativeOrder.orderRef)) id
    pure (.paid authoritativeOrder receipt)

/-- The one message of a journey. -/
def announce (args : JourneyArgs) : Verdict → Program Journey Exc JourneyOutcome
  | .unpaid => do
      let _ ← send args.customerRef pendingBody args.pendingKey
      .raise ⟨.runtimeError, "payment_not_succeeded"⟩
  | .paid order receipt => do
      let _ ← send args.customerRef (receiptBody receipt) args.receiptKey
      pure ⟨order, .succeeded, receipt⟩

theorem runConfirmAndPay_eq (args : JourneyArgs) :
    runConfirmAndPay args = verdict args >>= announce args := by
  unfold runConfirmAndPay verdict
  simp only [bind_assoc]
  congr! 14 with context _ quote order order' payment state
  split
  · rfl
  · next hstate =>
      obtain rfl : state = .succeeded := not_not.mp hstate
      simp only [bind_assoc]
      rfl

/-- Not a message. -/
def Asks : JourneyOp → Prop
  | .sendMessage _ _ _ => False
  | _ => True

theorem uses_commerce {α : Type} (op : CommerceOp) (answer : op.Resp → Except Exc α) :
    (askFor (.commerce op) answer).Uses Asks :=
  ⟨trivial, fun _ => Program.Uses.ofExcept _⟩

theorem uses_payment {α : Type} (op : PaymentOp) (answer : op.Resp → Except Exc α) :
    (askFor (.payment op) answer).Uses Asks :=
  ⟨trivial, fun _ => Program.Uses.ofExcept _⟩

theorem uses_verdict (args : JourneyArgs) : (verdict args).Uses Asks := by
  unfold verdict
  refine .bind (uses_commerce _ _) fun context => .bind (uses_commerce _ _) fun _ => ?_
  refine .bind (uses_commerce _ _) fun quote => .bind (uses_commerce _ _) fun order => ?_
  refine .bind (uses_commerce _ _) fun order => .bind (uses_payment _ _) fun payment => ?_
  apply Program.Uses.bind (uses_payment _ _)
  intro state
  split
  · trivial
  · refine .bind (uses_commerce _ _) fun order => .bind (uses_commerce _ _) fun receipt => ?_
    trivial

end CustomerJourneyService

open CustomerJourneyService

variable {κ ρ ι : Type} [XBOSCommercePort κ] [PaymentPort ρ]

/-! ## What stands behind a message -/

section Warranted

/-- A journey that issued `T` may tell its customer this. -/
inductive Warranted (T : List (JourneyOp × JourneyWorld κ ρ)) (args : JourneyArgs) :
    (key body : String) → Prop
  /-- The payment was not there yet. -/
  | pending {payment : PaymentRequest} {state : PaymentState} {w : JourneyWorld κ ρ}
      (asked : (.payment (.getPaymentStatus payment.paymentRef), w) ∈ T)
      (answered : (PaymentPort.answer (.getPaymentStatus payment.paymentRef) w.payments).1 =
        .ok state)
      (unpaid : state ≠ .succeeded) : Warranted T args args.pendingKey pendingBody
  /-- The payment that was requested for the quote had succeeded, and the receipt is that of the
  order. -/
  | receipt {quote : Quote} {payment : PaymentRequest} {order : OrderRef} {receipt : Receipt}
      {w₁ w₂ w₃ : JourneyWorld κ ρ}
      (requested : (.payment (.createPaymentRequest quote (args.correlationRef ++ ":payment:create")),
        w₁) ∈ T)
      (created : (PaymentPort.answer (.createPaymentRequest quote
        (args.correlationRef ++ ":payment:create")) w₁.payments).1 = .ok payment)
      (asked : (.payment (.getPaymentStatus payment.paymentRef), w₂) ∈ T)
      (succeeded : (PaymentPort.answer (.getPaymentStatus payment.paymentRef) w₂.payments).1 =
        .ok .succeeded)
      (read : (.commerce (.getReceipt order.orderRef), w₃) ∈ T)
      (answered : (XBOSCommercePort.answer (.getReceipt order.orderRef) w₃.commerce).1 =
        .ok receipt) : Warranted T args args.receiptKey (receiptBody receipt)

theorem Warranted.key {T : List (JourneyOp × JourneyWorld κ ρ)} {args : JourneyArgs}
    {key body : String} (h : Warranted T args key body) :
    key = args.pendingKey ∨ key = args.receiptKey := by
  cases h with
  | pending _ _ _ => exact Or.inl rfl
  | receipt _ _ _ _ _ _ => exact Or.inr rfl

theorem Warranted.mono {T T' : List (JourneyOp × JourneyWorld κ ρ)} {args : JourneyArgs}
    {key body : String} (h : Warranted T args key body) (hsub : T ⊆ T') : Warranted T' args key body := by
  cases h with
  | pending asked answered unpaid => exact .pending (hsub asked) answered unpaid
  | receipt requested created asked succeeded read answered =>
      exact .receipt (hsub requested) created (hsub asked) succeeded (hsub read) answered

/-- A question on the way to a verdict was answered. -/
theorem path_askFor {α : Type} {op : JourneyOp} {answer : op.Resp → Except Exc α}
    {f : α → Program Journey Exc Verdict} {T : List (JourneyOp × JourneyWorld κ ρ)} {v : Verdict}
    (h : Path handleJourney (askFor op answer >>= f) T (.done v)) :
    ∃ w a T', T = (op, w) :: T' ∧ answer (handleJourney op w).1 = .ok a ∧
      Path handleJourney (f a) T' (.done v) := by
  cases h with
  | @step _ _ w T' _ h =>
      have h : Path handleJourney (Program.ofExcept (answer (handleJourney op w).1) >>= f) T'
          (.done v) := h
      cases hanswer : answer (handleJourney op w).1 with
      | error e =>
          rw [hanswer] at h
          obtain ⟨-, hraise⟩ := h.of_raise
          cases hraise
      | ok a =>
          rw [hanswer] at h
          exact ⟨w, a, T', rfl, hanswer, h⟩

/-- What was answered on the way to a verdict. -/
theorem warranted_of_verdict {args : JourneyArgs} {T : List (JourneyOp × JourneyWorld κ ρ)}
    {v : Verdict} (h : Path handleJourney (verdict args) T (.done v)) :
    (v = .unpaid → Warranted T args args.pendingKey pendingBody) ∧
      ∀ order receipt, v = .paid order receipt →
        Warranted T args args.receiptKey (receiptBody receipt) := by
  unfold verdict at h
  obtain ⟨_, context, _, rfl, -, h⟩ := path_askFor h
  obtain ⟨_, _, _, rfl, -, h⟩ := path_askFor h
  obtain ⟨_, quote, _, rfl, -, h⟩ := path_askFor h
  obtain ⟨_, order, _, rfl, -, h⟩ := path_askFor h
  obtain ⟨_, order', _, rfl, -, h⟩ := path_askFor h
  obtain ⟨w₁, payment, _, rfl, hcreated, h⟩ := path_askFor h
  obtain ⟨w₂, state, _, rfl, hstate, h⟩ := path_askFor h
  split at h
  · next hunpaid =>
      obtain ⟨-, hv⟩ := h.of_done
      cases hv
      exact ⟨fun _ => .pending (by simp) hstate hunpaid, fun _ _ hpaid => by cases hpaid⟩
  · next hpaid =>
      obtain rfl := not_not.mp hpaid
      obtain ⟨_, authoritative, _, rfl, -, h⟩ := path_askFor h
      obtain ⟨w₃, receipt, _, rfl, hreceipt, h⟩ := path_askFor h
      obtain ⟨-, hv⟩ := h.of_done
      cases hv
      refine ⟨fun hunpaid => (by cases hunpaid), fun _ _ hv => ?_⟩
      cases hv
      exact .receipt (by simp) hcreated (by simp) hstate (by simp) hreceipt

/-- A message is sent last, and what it says is warranted. -/
theorem warranted_of_sent {args : JourneyArgs} {T : List (JourneyOp × JourneyWorld κ ρ)}
    {q : Program Journey Exc JourneyOutcome}
    (h : Path handleJourney (runConfirmAndPay args) T q) {customerRef body key : String}
    {w : JourneyWorld κ ρ} (hsent : (.sendMessage customerRef body key, w) ∈ T) :
    Warranted T args key body := by
  rw [runConfirmAndPay_eq] at h
  rcases h.of_bind with ⟨q', hverdict⟩ | ⟨v, T₁, T₂, rfl, hverdict, hannounce⟩
  · exact absurd (hverdict.uses (uses_verdict args) _ hsent) id
  have hwarranted := warranted_of_verdict hverdict
  have hsent : (.sendMessage customerRef body key, w) ∈ T₂ := by
    rcases List.mem_append.mp hsent with hsent | hsent
    · exact absurd (hverdict.uses (uses_verdict args) _ hsent) id
    · exact hsent
  have hsub : T₁ ⊆ T₁ ++ T₂ := List.subset_append_left T₁ T₂
  cases v with
  | unpaid =>
      cases hannounce with
      | nil => cases hsent
      | step h =>
          obtain ⟨rfl, -⟩ := h.of_raise
          cases List.mem_singleton.mp hsent
          exact (hwarranted.1 rfl).mono hsub
  | paid order receipt =>
      cases hannounce with
      | nil => cases hsent
      | step h =>
          obtain ⟨rfl, -⟩ := h.of_done
          cases List.mem_singleton.mp hsent
          exact (hwarranted.2 order receipt rfl).mono hsub

end Warranted

/-! ## Journeys at once -/

section Pool

variable [DecidableEq ι]

/-- The message that the transport has under a key was sent by one of the journeys. -/
theorem sent_by {P : Pool Journey (JourneyWorld κ ρ) Exc JourneyOutcome ι}
    (hempty : ∀ key, P.state.transport.body? key = none) {turns : List (Turn ι (JourneyWorld κ ρ))}
    (houtside : ∀ change, .outside change ∈ turns → ∀ w, (change w).transport = w.transport)
    {key body : String}
    (hsent : (P.run handleJourney turns).state.transport.body? key = some body) :
    ∃ i customerRef w, (i, .sendMessage customerRef body key, w) ∈ P.trace handleJourney turns := by
  induction turns using List.reverseRecOn with
  | nil =>
      rw [Pool.run_nil, hempty] at hsent
      cases hsent
  | append_singleton turns turn ih =>
      have ih := ih fun change h => houtside change (List.mem_append_left _ h)
      have hearlier {e} (h : e ∈ P.trace handleJourney turns) :
          e ∈ P.trace handleJourney (turns ++ [turn]) := by
        rw [Pool.trace_append]
        exact List.mem_append_left _ h
      have hbefore (h : (P.run handleJourney turns).state.transport.body? key = some body) :
          ∃ i customerRef w,
            (i, .sendMessage customerRef body key, w) ∈ P.trace handleJourney (turns ++ [turn]) := by
        obtain ⟨i, customerRef, w, hi⟩ := ih h
        exact ⟨i, customerRef, w, hearlier hi⟩
      rw [Pool.run_append, Pool.run_cons, Pool.run_nil] at hsent
      cases turn with
      | outside change =>
          apply hbefore
          have hsame := houtside change (List.mem_append_right _ (List.mem_singleton_self _))
            (P.run handleJourney turns).state
          rw [← hsame]
          exact hsent
      | thread i =>
          by_cases hcall : ∃ op k, (P.run handleJourney turns).threads i = .call op k
          case neg =>
            rw [Pool.step_thread_of_not_call _ fun op k hi => hcall ⟨op, k, hi⟩] at hsent
            exact hbefore hsent
          obtain ⟨op, k, hi⟩ := hcall
          rw [Pool.step_thread_call _ hi] at hsent
          cases op with
          | commerce op => exact hbefore hsent
          | payment op => exact hbefore hsent
          | sendMessage customerRef text key' =>
              have hsent : ((P.run handleJourney turns).state.transport.sendMessage text key').2.body?
                  key = some body := hsent
              rw [FakeWhatsAppTransport.body?_sendMessage] at hsent
              split at hsent
              case isFalse => exact hbefore hsent
              next hkey =>
              subst hkey
              cases hold : (P.run handleJourney turns).state.transport.body? key with
              | some old =>
                  rw [hold] at hsent
                  exact hbefore (hold.trans hsent)
              | none =>
                  rw [hold] at hsent
                  obtain rfl := Option.some.inj hsent
                  refine ⟨i, customerRef, (P.run handleJourney turns).state, ?_⟩
                  rw [Pool.trace_concat, Pool.issues_of_call hi]
                  exact List.mem_append_right _ (List.mem_singleton_self _)

/-- What a journey leaves its customer with: the receipt if it returned, and otherwise nothing, or
the message that the payment is pending. -/
def Told (args : JourneyArgs) : Except Exc JourneyOutcome → JourneyWorld κ ρ → Prop
  | .ok outcome, w =>
      outcome.paymentState = .succeeded ∧
        w.transport.body? args.receiptKey = some (receiptBody outcome.receipt) ∧
        w.transport.body? args.pendingKey = none
  | .error e, w =>
      w.transport.body? args.receiptKey = none ∧
        (w.transport.body? args.pendingKey = none ∨
          w.transport.body? args.pendingKey = some pendingBody ∧
            e = ⟨.runtimeError, "payment_not_succeeded"⟩)

/-- The others leave the two messages of a journey alone. -/
def MessagesKept (args : JourneyArgs) (w w' : JourneyWorld κ ρ) : Prop :=
  w'.transport.body? args.pendingKey = w.transport.body? args.pendingKey ∧
    w'.transport.body? args.receiptKey = w.transport.body? args.receiptKey

/-- A journey sends its own messages only. -/
def SendsOwn (args : JourneyArgs) (op : JourneyOp) (_ : JourneyWorld κ ρ) : Prop :=
  ∀ customerRef body key, op = .sendMessage customerRef body key →
    key = args.pendingKey ∨ key = args.receiptKey

omit [XBOSCommercePort κ] [PaymentPort ρ] in
theorem MessagesKept.refl (args : JourneyArgs) (w : JourneyWorld κ ρ) : MessagesKept args w w :=
  ⟨rfl, rfl⟩

omit [XBOSCommercePort κ] [PaymentPort ρ] in
theorem MessagesKept.trans {args : JourneyArgs} (w w' w'' : JourneyWorld κ ρ)
    (h : MessagesKept args w w') (h' : MessagesKept args w' w'') : MessagesKept args w w'' :=
  ⟨h'.1.trans h.1, h'.2.trans h.2⟩

omit [XBOSCommercePort κ] [PaymentPort ρ] in
theorem MessagesKept.of_transport {args : JourneyArgs} {w w' : JourneyWorld κ ρ}
    (h : w'.transport = w.transport) : MessagesKept args w w' := by
  unfold MessagesKept
  rw [h]
  exact ⟨rfl, rfl⟩

omit [XBOSCommercePort κ] [PaymentPort ρ] in
theorem Told.kept {args : JourneyArgs} {r : Except Exc JourneyOutcome} {w w' : JourneyWorld κ ρ}
    (h : Told args r w) (hkept : MessagesKept args w w') : Told args r w' := by
  obtain ⟨hpending, hreceipt⟩ := hkept
  cases r with
  | ok outcome => exact ⟨h.1, hreceipt.trans h.2.1, hpending.trans h.2.2⟩
  | error e =>
      refine ⟨hreceipt.trans h.1, ?_⟩
      rw [hpending]
      exact h.2

omit [DecidableEq ι] in
/-- Journeys with different correlations do not send each other's messages. -/
theorem compatible_journeys {args : ι → JourneyArgs}
    (hdistinct : Function.Injective fun i => (args i).correlationRef) :
    Pool.Compatible (σ := JourneyWorld κ ρ) handleJourney (fun _ _ => True)
      (fun w w' => w'.transport = w.transport) (fun i => MessagesKept (args i))
      fun i => SendsOwn (args i) where
  refl i w := MessagesKept.refl (args i) w
  trans i := MessagesKept.trans
  thread i j op w hij _ hsends := by
    cases op with
    | commerce op => exact .of_transport rfl
    | payment op => exact .of_transport rfl
    | sendMessage customerRef body key =>
        have hkey := hsends customerRef body key rfl
        have hne (own : String) (hown : own = (args i).pendingKey ∨ own = (args i).receiptKey) :
            own ≠ key := by
          rintro rfl
          exact hij (hdistinct (JourneyArgs.correlation_of_key hown hkey))
        constructor
        · exact (FakeWhatsAppTransport.body?_sendMessage _ _ _ _).trans
            (if_neg (hne _ (Or.inl rfl)))
        · exact (FakeWhatsAppTransport.body?_sendMessage _ _ _ _).trans
            (if_neg (hne _ (Or.inr rfl)))
  outside i w w' h := .of_transport h

/-- Neither message of a journey was sent. -/
def Untold (args : JourneyArgs) (w : JourneyWorld κ ρ) : Prop :=
  w.transport.body? args.pendingKey = none ∧ w.transport.body? args.receiptKey = none

omit [XBOSCommercePort κ] [PaymentPort ρ] in
theorem Untold.kept {args : JourneyArgs} {w w' : JourneyWorld κ ρ} (h : Untold args w)
    (hkept : MessagesKept args w w') : Untold args w' :=
  ⟨hkept.1.trans h.1, hkept.2.trans h.2⟩

/-- The last step of a journey. -/
theorem safe_announce (args : JourneyArgs) (v : Verdict) {w : JourneyWorld κ ρ}
    (h : Untold args w) :
    Safe handleJourney (MessagesKept args) (fun _ _ => True) (SendsOwn args) (Told args)
      (announce args v) w := by
  cases v with
  | unpaid =>
      intro w' hkept _
      have hw' := h.kept hkept
      constructor
      · intro customerRef body key hop
        cases hop
        exact Or.inl rfl
      · intro w'' hkept'
        refine Told.kept (?_ : Told args _ (handleJourney _ w').2) hkept'
        have hpending := w'.transport.body?_sendMessage pendingBody args.pendingKey args.pendingKey
        have hreceipt := w'.transport.body?_sendMessage pendingBody args.pendingKey args.receiptKey
        rw [if_pos rfl, hw'.1] at hpending
        rw [if_neg (JourneyArgs.pendingKey_ne_receiptKey args args).symm, hw'.2] at hreceipt
        exact ⟨hreceipt, Or.inr ⟨hpending, rfl⟩⟩
  | paid order receipt =>
      intro w' hkept _
      have hw' := h.kept hkept
      constructor
      · intro customerRef body key hop
        cases hop
        exact Or.inr rfl
      · intro w'' hkept'
        refine Told.kept (?_ : Told args _ (handleJourney _ w').2) hkept'
        have hpending :=
          w'.transport.body?_sendMessage (receiptBody receipt) args.receiptKey args.pendingKey
        have hreceipt :=
          w'.transport.body?_sendMessage (receiptBody receipt) args.receiptKey args.receiptKey
        rw [if_pos rfl, hw'.2] at hreceipt
        rw [if_neg (JourneyArgs.pendingKey_ne_receiptKey args args), hw'.1] at hpending
        exact ⟨rfl, hreceipt, hpending⟩

theorem safe_runConfirmAndPay (args : JourneyArgs) {w : JourneyWorld κ ρ} (h : Untold args w) :
    Safe handleJourney (MessagesKept args) (fun _ _ => True) (SendsOwn args) (Told args)
      (runConfirmAndPay args) w := by
  rw [runConfirmAndPay_eq]
  apply Safe.bind_of_uses (I := Untold args) (MessagesKept.refl args)
  · intro w w' hkept hw
    exact hw.kept hkept
  · intro op w (hasks : Asks op) hw _
    cases op with
    | commerce op => exact ⟨fun _ _ _ hop => (by cases hop), hw⟩
    | payment op => exact ⟨fun _ _ _ hop => (by cases hop), hw⟩
    | sendMessage customerRef body key => exact hasks.elim
  · exact uses_verdict args
  · exact Program.Yields.all _
  · intro v w _ hw
    exact safe_announce args v hw
  · intro e w hw
    exact ⟨hw.2, Or.inl hw.1⟩
  · exact h

end Pool

section Fixture

/-- Two customers of the fixtures. -/
def twoJourneys (second : Bool) : JourneyArgs where
  customerRef := "customer:fixture:1"
  entryRef := "entry:fixture:alpha"
  itemRefs := ["item:fixture:one"]
  correlationRef := if second then "corr:2" else "corr:1"

/-- The first journey asks for its payment too early. -/
def earlyAndLate : List (Turn Bool (JourneyWorld FakeXBOSCommerceClient FakePaymentService)) :=
  List.replicate 4 (.thread true) ++ List.replicate 8 (.thread false) ++
    [.outside fun w => { w with payments := { w.payments with terminalState := .succeeded } }] ++
    List.replicate 6 (.thread true)

def earlyAndLatePool : Pool Journey (JourneyWorld FakeXBOSCommerceClient FakePaymentService) Exc
    JourneyOutcome Bool :=
  ⟨{ commerce := {}, payments := { terminalState := .pending } },
    fun i => runConfirmAndPay (twoJourneys i)⟩

end Fixture

end XbosCustomerChannel
