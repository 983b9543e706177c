import XbosCustomerChannel.W1.Fixture

/-!
# The messages of a callback

`handle_webhook` again, with the router as one more port that may answer anything or raise anything
(`routerCalls` and `exec_webhook` say that the runtime with its router is a case of it). What raises in
the `try` block is answered with the fallback; the fallback itself is sent outside of it, so where it
raises too the messages that follow are neither loaded nor routed.
-/

namespace XbosCustomerChannel

open Effects Effects.Program Data

inductive WebhookOp
  | load (inbound : NormalizedInboundMessage)
  | route (inbound : NormalizedInboundMessage) (state : W1RuntimeConversationState)
  | save (inbound : NormalizedInboundMessage) (state : W1RuntimeConversationState)
  | post (recipient : UntrustedProviderUserRef) (payload : MetaPayload)

abbrev WebhookOp.Resp : WebhookOp → Type
  | load _ => Except Exc W1RuntimeConversationState
  | route _ _ => Except Exc W1ConversationResult
  | save _ _ => Except Exc Unit
  | post _ _ => Except Exc MetaHttpResponse

abbrev WebhookPorts : Signature where
  Op := WebhookOp
  Resp := WebhookOp.Resp

abbrev WebhookCallOf (α : Type) := Program WebhookPorts Exc α

abbrev askWebhook (op : WebhookOp) : WebhookCallOf op.Resp :=
  @Program.call WebhookPorts Exc _ op .done

namespace Webhook

def deliver (recipient : UntrustedProviderUserRef) (payload : Except Exc MetaPayload) :
    WebhookCallOf ProviderOutboundMessage := do
  let payload ← ofExcept payload
  let answer : Except Exc MetaHttpResponse ← askWebhook (.post recipient payload)
  let response ← ofExcept answer
  ofExcept (MetaWhatsAppOutboundAdapter.outboundMessage response)

/-- What the fallback posts. -/
def fallbackPayload : Except Exc MetaPayload :=
  MetaWhatsAppOutboundAdapter.textPayload
    ("We could not continue this request safely. " ++ "Please reply Menu or Help.")

def attempt (inbound : NormalizedInboundMessage) : WebhookCallOf ProviderOutboundMessage := do
  let loaded : Except Exc W1RuntimeConversationState ← askWebhook (.load inbound)
  let state ← ofExcept loaded
  let routed : Except Exc W1ConversationResult ← askWebhook (.route inbound state)
  let result ← ofExcept routed
  let saved : Except Exc Unit ← askWebhook (.save inbound (state.next result))
  ofExcept saved
  deliver inbound.sender (W1WhatsAppRuntime.payload result.rendered)

def handleMessage (inbound : NormalizedInboundMessage) : WebhookCallOf ProviderOutboundMessage :=
  (attempt inbound).tryCatch fun _ => deliver inbound.sender fallbackPayload

def handleMessages : List NormalizedInboundMessage → WebhookCallOf (List ProviderOutboundMessage)
  | [] => pure []
  | inbound :: messages => do
      let sent ← handleMessage inbound
      let rest ← handleMessages messages
      pure (sent :: rest)

/-! ## The runtime with its router -/

section Runtime

variable {σ β ω : Type} [W1RuntimeStatePort σ] [W1CheckoutDomainBoundary β] [MetaHttpClient ω]
  [CaseFolding] (router : W1ConversationRouter)

/-- The router over the boundary, among the other ports. -/
def routerCalls : Handler WebhookPorts (W1RuntimeWorld σ β ω)
  | .load inbound, w => W1RuntimeWorld.answer (.load inbound) w
  | .route inbound state, w =>
      let routed := exec W1CheckoutDomainBoundary.handle (state.route router inbound) w.boundary
      (routed.1, { w with boundary := routed.2 })
  | .save inbound state, w => W1RuntimeWorld.answer (.save inbound state) w
  | .post recipient payload, w => W1RuntimeWorld.answer (.post recipient payload) w

theorem exec_deliver (recipient : UntrustedProviderUserRef) (payload : Except Exc MetaPayload)
    (w : W1RuntimeWorld σ β ω) :
    exec (routerCalls router) (deliver recipient payload) w =
      exec W1RuntimeWorld.answer (W1WhatsAppRuntime.deliver recipient payload) w := by
  unfold deliver W1WhatsAppRuntime.deliver
  cases payload with
  | error e => rfl
  | ok payload =>
      show exec (routerCalls router) (ofExcept (W1RuntimeWorld.answer (.post recipient payload) w).1 >>= _)
        (W1RuntimeWorld.answer (.post recipient payload) w).2 = _
      rw [ofExcept_ok, done_bind, W1RuntimeWorld.exec_askRuntime_bind]
      cases (W1RuntimeWorld.answer (.post recipient payload) w).1 with
      | error e => rfl
      | ok response => rw [ofExcept_ok, ofExcept_ok, done_bind, done_bind, exec_ofExcept, exec_ofExcept]

theorem exec_attempt (inbound : NormalizedInboundMessage) (w : W1RuntimeWorld σ β ω) :
    exec (routerCalls router) (attempt inbound) w =
      exec W1RuntimeWorld.answer (W1WhatsAppRuntime.attempt router inbound) w := by
  unfold attempt W1WhatsAppRuntime.attempt
  rw [W1RuntimeWorld.exec_askRuntime_bind]
  show exec (routerCalls router) (ofExcept (W1RuntimeWorld.answer (.load inbound) w).1 >>= _)
    (W1RuntimeWorld.answer (.load inbound) w).2 = _
  cases (W1RuntimeWorld.answer (.load inbound) w).1 with
  | error e => rfl
  | ok state =>
      rw [ofExcept_ok, ofExcept_ok, done_bind, done_bind, exec_bind _ (Program.embed _ _),
        exec_embed W1RuntimeWorld.answers_boundary]
      generalize (W1RuntimeWorld.answer (.load inbound) w).2 = w₁
      show exec (routerCalls router) (ofExcept
        (exec W1CheckoutDomainBoundary.handle (state.route router inbound) w₁.boundary).1 >>= _)
        { w₁ with boundary :=
          (exec W1CheckoutDomainBoundary.handle (state.route router inbound) w₁.boundary).2 } = _
      simp only [W1RuntimeWorld.boundaryPart]
      obtain ⟨routed, b⟩ := exec W1CheckoutDomainBoundary.handle (state.route router inbound)
        w₁.boundary
      cases routed with
      | error e => rfl
      | ok result =>
          dsimp only
          rw [ofExcept_ok, done_bind, W1RuntimeWorld.exec_askRuntime_bind]
          generalize { w₁ with boundary := b } = w₂
          show exec (routerCalls router) (ofExcept
            (W1RuntimeWorld.answer (.save inbound (state.next result)) w₂).1 >>= _)
            (W1RuntimeWorld.answer (.save inbound (state.next result)) w₂).2 = _
          cases (W1RuntimeWorld.answer (.save inbound (state.next result)) w₂).1 with
          | error e => rfl
          | ok _ => exact exec_deliver router _ _ _

/-- The runtime with its router handles a callback as these ports do. -/
theorem exec_webhook (messages : List NormalizedInboundMessage) (w : W1RuntimeWorld σ β ω) :
    exec (routerCalls router) (handleMessages messages) w =
      exec W1RuntimeWorld.answer (W1WhatsAppRuntime.handleMessages router messages) w := by
  induction messages generalizing w with
  | nil => rfl
  | cons inbound messages ih =>
      have hmessage : exec (routerCalls router) (handleMessage inbound) w =
          exec W1RuntimeWorld.answer (W1WhatsAppRuntime.handleMessage router inbound) w := by
        unfold handleMessage W1WhatsAppRuntime.handleMessage
        rw [exec_tryCatch, exec_tryCatch, exec_attempt]
        split
        · rfl
        · exact exec_deliver router _ _ _
      unfold handleMessages W1WhatsAppRuntime.handleMessages
      rw [exec_bind, exec_bind, hmessage]
      split
      · rw [exec_bind, exec_bind, ih]
        rfl
      · rfl

end Runtime

/-! ## One message -/

section Message

variable {τ : Type} (H : Handler WebhookPorts τ)

/-- What comes of posting. -/
def delivered (t : τ) (recipient : UntrustedProviderUserRef) (payload : Except Exc MetaPayload) :
    Except Exc ProviderOutboundMessage := do
  let payload ← payload
  let response ← (show Except Exc MetaHttpResponse from (H (.post recipient payload) t).1)
  MetaWhatsAppOutboundAdapter.outboundMessage response

/-- What is rejected by the validation is not posted. -/
def posted (t : τ) (recipient : UntrustedProviderUserRef) (payload : Except Exc MetaPayload) : τ :=
  match payload with
  | .ok payload => (H (.post recipient payload) t).2
  | .error _ => t

/-- A port raises on the way, or the reply is not delivered; that leaves the last state. -/
inductive Fails (t : τ) (inbound : NormalizedInboundMessage) : τ → Prop
  | load (e : Exc) : (H (.load inbound) t).1 = .error e → Fails t inbound (H (.load inbound) t).2
  | route (state : W1RuntimeConversationState) (t₁ : τ) (e : Exc) :
      H (.load inbound) t = (.ok state, t₁) → (H (.route inbound state) t₁).1 = .error e →
      Fails t inbound (H (.route inbound state) t₁).2
  | save (state : W1RuntimeConversationState) (result : W1ConversationResult) (t₁ t₂ : τ) (e : Exc) :
      H (.load inbound) t = (.ok state, t₁) → H (.route inbound state) t₁ = (.ok result, t₂) →
      (H (.save inbound (state.next result)) t₂).1 = .error e →
      Fails t inbound (H (.save inbound (state.next result)) t₂).2
  | reply (state : W1RuntimeConversationState) (result : W1ConversationResult) (t₁ t₂ t₃ : τ)
      (e : Exc) :
      H (.load inbound) t = (.ok state, t₁) → H (.route inbound state) t₁ = (.ok result, t₂) →
      H (.save inbound (state.next result)) t₂ = (.ok (), t₃) →
      delivered H t₃ inbound.sender (W1WhatsAppRuntime.payload result.rendered) = .error e →
      Fails t inbound (posted H t₃ inbound.sender (W1WhatsAppRuntime.payload result.rendered))

/-- The message is not handled, and neither is the fallback delivered. -/
def Drops (t : τ) (inbound : NormalizedInboundMessage) : Prop :=
  ∃ t', Fails H t inbound t' ∧ ∃ e, delivered H t' inbound.sender fallbackPayload = .error e

theorem exec_ask_bind {α : Type} (op : WebhookOp) (f : op.Resp → WebhookCallOf α) (t : τ) :
    exec H (askWebhook op >>= f) t = exec H (f (H op t).1) (H op t).2 := rfl

theorem issued_ask_bind {α : Type} (op : WebhookOp) (f : op.Resp → WebhookCallOf α) (t : τ) :
    issued H (askWebhook op >>= f) t = (op, t) :: issued H (f (H op t).1) (H op t).2 := rfl

theorem exec_deliver_eq (t : τ) (recipient : UntrustedProviderUserRef)
    (payload : Except Exc MetaPayload) :
    exec H (deliver recipient payload) t = (delivered H t recipient payload, posted H t recipient payload) := by
  unfold deliver delivered posted
  cases payload with
  | error e => rfl
  | ok payload =>
      rw [ofExcept_ok, done_bind, exec_ask_bind]
      show exec H (ofExcept (H (.post recipient payload) t).1 >>= _) (H (.post recipient payload) t).2 =
        ((H (.post recipient payload) t).1 >>= _, (H (.post recipient payload) t).2)
      cases (H (.post recipient payload) t).1 with
      | error e => rfl
      | ok response =>
          rw [ofExcept_ok, done_bind, exec_ofExcept]
          rfl

/-- The `try` block raises exactly if a port does on the way or the reply is not delivered. -/
theorem attempt_raises_iff (t t' : τ) (inbound : NormalizedInboundMessage) :
    (∃ e, exec H (attempt inbound) t = (.error e, t')) ↔ Fails H t inbound t' := by
  constructor
  · rintro ⟨e, h⟩
    unfold attempt at h
    rw [exec_ask_bind] at h
    -- from left to right: where the block raises, one of its ports or the reply did
    cases hload : H (.load inbound) t with
    | mk loaded t₁ =>
    rw [hload] at h
    cases loaded with
    | error e' =>
        cases h
        have hfails := @Fails.load _ H t inbound e (by rw [hload])
        rwa [hload] at hfails
    | ok state =>
    rw [ofExcept_ok, done_bind, exec_ask_bind] at h
    cases hroute : H (.route inbound state) t₁ with
    | mk routed t₂ =>
    rw [hroute] at h
    cases routed with
    | error e' =>
        cases h
        have hfails := Fails.route (H := H) state t₁ e hload (by rw [hroute])
        rwa [hroute] at hfails
    | ok result =>
    rw [ofExcept_ok, done_bind, exec_ask_bind] at h
    cases hsave : H (.save inbound (state.next result)) t₂ with
    | mk saved t₃ =>
    rw [hsave] at h
    cases saved with
    | error e' =>
        cases h
        have hfails := Fails.save (H := H) state result t₁ t₂ e hload hroute (by rw [hsave])
        rwa [hsave] at hfails
    | ok _ =>
        rw [ofExcept_ok, done_bind, exec_deliver_eq] at h
        obtain ⟨hreply, rfl⟩ := Prod.mk.inj h
        exact .reply state result t₁ t₂ t₃ e hload hroute hsave hreply
  -- and a failure on the way is what the block raises
  · intro h
    unfold attempt
    rw [exec_ask_bind]
    cases h with
    | load e hload => exact ⟨e, by rw [hload]; rfl⟩
    | route state t₁ e hload hroute =>
        refine ⟨e, ?_⟩
        rw [hload, ofExcept_ok, done_bind, exec_ask_bind, hroute]
        rfl
    | save state result t₁ t₂ e hload hroute hsave =>
        refine ⟨e, ?_⟩
        rw [hload, ofExcept_ok, done_bind, exec_ask_bind, hroute, ofExcept_ok, done_bind, exec_ask_bind,
          hsave]
        rfl
    | reply state result t₁ t₂ t₃ e hload hroute hsave hreply =>
        refine ⟨e, ?_⟩
        rw [hload, ofExcept_ok, done_bind, exec_ask_bind, hroute, ofExcept_ok, done_bind, exec_ask_bind,
          hsave, ofExcept_ok, done_bind, exec_deliver_eq, hreply]

/-- What a message is answered with raises exactly if the message is dropped. -/
theorem handleMessage_raises_iff (t : τ) (inbound : NormalizedInboundMessage) :
    (∃ e, (exec H (handleMessage inbound) t).1 = .error e) ↔ Drops H t inbound := by
  unfold handleMessage Drops
  rw [exec_tryCatch]
  cases hattempt : exec H (attempt inbound) t with
  | mk answered t' =>
  cases answered with
  | ok sent =>
      refine iff_of_false (by simp) ?_
      rintro ⟨t'', hfails, -⟩
      obtain ⟨e, hraises⟩ := (attempt_raises_iff H t t'' inbound).mpr hfails
      rw [hattempt] at hraises
      cases hraises
  | error e =>
      have hfails := (attempt_raises_iff H t t' inbound).mp ⟨e, hattempt⟩
      dsimp only
      rw [exec_deliver_eq]
      refine ⟨fun h => ⟨t', hfails, h⟩, ?_⟩
      rintro ⟨t'', hfails', h⟩
      obtain ⟨e', hraises⟩ := (attempt_raises_iff H t t'' inbound).mpr hfails'
      rw [hattempt] at hraises
      obtain ⟨-, rfl⟩ := Prod.mk.inj hraises
      exact h

/-! ## What is loaded and what is routed -/

/-- The message that a call loads. -/
def loadOf (o : WebhookOp × τ) : Option NormalizedInboundMessage :=
  match o.1 with
  | .load inbound => some inbound
  | _ => none

/-- The message that a call routes. -/
def routeOf (o : WebhookOp × τ) : Option NormalizedInboundMessage :=
  match o.1 with
  | .route inbound _ => some inbound
  | _ => none

/-- The messages of a callback that are loaded, in the order in which they are. -/
def loads (t : τ) (messages : List NormalizedInboundMessage) : List NormalizedInboundMessage :=
  (issued H (handleMessages messages) t).filterMap loadOf

/-- The messages of a callback that are routed, in the order in which they are. -/
def routes (t : τ) (messages : List NormalizedInboundMessage) : List NormalizedInboundMessage :=
  (issued H (handleMessages messages) t).filterMap routeOf

/-- The state port answers for the message. -/
def Loaded (t : τ) (inbound : NormalizedInboundMessage) : Prop :=
  ∃ state, (H (.load inbound) t).1 = .ok state

theorem issued_deliver {A : WebhookOp × τ → Option NormalizedInboundMessage}
    (hA : ∀ recipient payload t, A (.post recipient payload, t) = none)
    (t : τ) (recipient : UntrustedProviderUserRef) (payload : Except Exc MetaPayload) :
    (issued H (deliver recipient payload) t).filterMap A = [] := by
  unfold deliver
  cases payload with
  | error e => rfl
  | ok payload =>
      rw [ofExcept_ok, done_bind, issued_ask_bind, List.filterMap_cons, hA]
      show List.filterMap A (issued H (ofExcept (H (.post recipient payload) t).1 >>= _) _) = []
      cases (H (.post recipient payload) t).1 with
      | error e => rfl
      | ok response =>
          rw [ofExcept_ok, done_bind, issued_ofExcept]
          rfl

theorem issued_handleMessage {A : WebhookOp × τ → Option NormalizedInboundMessage}
    (hA : ∀ recipient payload t, A (.post recipient payload, t) = none) (t : τ)
    (inbound : NormalizedInboundMessage) :
    (issued H (handleMessage inbound) t).filterMap A = (issued H (attempt inbound) t).filterMap A := by
  unfold handleMessage
  rw [issued_tryCatch, List.filterMap_append]
  split
  · simp
  · rw [issued_deliver H hA, List.append_nil]

/-- What a message loads and routes: it is loaded, and routed where the state port has answered. -/
theorem picked_handleMessage {A : WebhookOp × τ → Option NormalizedInboundMessage}
    (hposted : ∀ recipient payload t, A (.post recipient payload, t) = none)
    (hsaved : ∀ inbound state t, A (.save inbound state, t) = none) (t : τ)
    (inbound : NormalizedInboundMessage) :
    (issued H (handleMessage inbound) t).filterMap A =
      (A (.load inbound, t)).toList ++
        match (H (.load inbound) t).1 with
        | .ok state => (A (.route inbound state, (H (.load inbound) t).2)).toList
        | .error _ => [] := by
  have hcons (o : WebhookOp × τ) (os : List (WebhookOp × τ)) :
      (o :: os).filterMap A = (A o).toList ++ os.filterMap A := by
    rw [List.filterMap_cons]
    cases A o <;> rfl
  rw [issued_handleMessage H hposted]
  unfold attempt
  rw [issued_ask_bind, hcons]
  congr 1
  show List.filterMap A (issued H (ofExcept (H (.load inbound) t).1 >>= _) _) = _
  cases (H (.load inbound) t).1 with
  | error e => rfl
  | ok state =>
  rw [ofExcept_ok, done_bind, issued_ask_bind, hcons]
  show _ ++ List.filterMap A (issued H (ofExcept (H (.route inbound state) _).1 >>= _) _) = _
  rw [List.append_right_eq_self]
  cases (H (.route inbound state) (H (.load inbound) t).2).1 with
  | error e => rfl
  | ok result =>
  rw [ofExcept_ok, done_bind, issued_ask_bind, hcons, hsaved]
  show List.filterMap A (issued H (ofExcept (H (.save inbound (state.next result)) _).1 >>= _) _) = []
  cases (H (.save inbound (state.next result)) _).1 with
  | error e => rfl
  | ok _ => exact issued_deliver H hposted _ _ _

/-- A message is loaded once, whatever becomes of it. -/
theorem loads_handleMessage (t : τ) (inbound : NormalizedInboundMessage) :
    (issued H (handleMessage inbound) t).filterMap loadOf = [inbound] := by
  rw [picked_handleMessage H (fun _ _ _ => rfl) (fun _ _ _ => rfl)]
  cases (H (.load inbound) t).1 <;> rfl

/-- A message that has been loaded is routed once, whatever becomes of it. -/
theorem routes_handleMessage (t : τ) (inbound : NormalizedInboundMessage) :
    (issued H (handleMessage inbound) t).filterMap routeOf =
      if (H (.load inbound) t).1.isOk then [inbound] else [] := by
  rw [picked_handleMessage H (fun _ _ _ => rfl) (fun _ _ _ => rfl)]
  cases (H (.load inbound) t).1 <;> rfl

/-! ## A callback -/

theorem handleMessages_cons (inbound : NormalizedInboundMessage)
    (messages : List NormalizedInboundMessage) :
    handleMessages (inbound :: messages) =
      handleMessage inbound >>= fun sent => handleMessages messages >>= fun rest => .done (sent :: rest) :=
  rfl

theorem exec_handleMessage_of_not_drops {t : τ} {inbound : NormalizedInboundMessage}
    (h : ¬ Drops H t inbound) :
    ∃ sent, exec H (handleMessage inbound) t = (.ok sent, (exec H (handleMessage inbound) t).2) := by
  cases hanswered : exec H (handleMessage inbound) t with
  | mk answered t' =>
  cases answered with
  | ok sent => exact ⟨sent, rfl⟩
  | error e => exact absurd ((handleMessage_raises_iff H t inbound).mp ⟨e, by rw [hanswered]⟩) h

theorem exec_cons_of_not_drops {t : τ} {inbound : NormalizedInboundMessage}
    (h : ¬ Drops H t inbound) (messages : List NormalizedInboundMessage) :
    (exec H (handleMessages (inbound :: messages)) t).2 =
      (exec H (handleMessages messages) (exec H (handleMessage inbound) t).2).2 := by
  obtain ⟨sent, hsent⟩ := exec_handleMessage_of_not_drops H h
  rw [handleMessages_cons, exec_bind_ok H hsent, exec_bind]
  cases exec H (handleMessages messages) (exec H (handleMessage inbound) t).2 with
  | mk answered t' => cases answered <;> rfl

/-- Where the first message is dropped the callback ends with it. -/
theorem issued_cons_of_drops {t : τ} {inbound : NormalizedInboundMessage} (h : Drops H t inbound)
    (messages : List NormalizedInboundMessage) :
    issued H (handleMessages (inbound :: messages)) t = issued H (handleMessage inbound) t := by
  obtain ⟨e, he⟩ := (handleMessage_raises_iff H t inbound).mpr h
  rw [handleMessages_cons, issued_bind,
    show exec H (handleMessage inbound) t = (.error e, _) from Prod.ext he rfl]
  exact List.append_nil _

/-- Where it is not, the others are handled as a callback of their own. -/
theorem issued_cons {t : τ} {inbound : NormalizedInboundMessage}
    {messages : List NormalizedInboundMessage} (h : messages ≠ [] → ¬ Drops H t inbound) :
    issued H (handleMessages (inbound :: messages)) t =
      issued H (handleMessage inbound) t ++
        issued H (handleMessages messages) (exec H (handleMessage inbound) t).2 := by
  by_cases hdrops : Drops H t inbound
  · have hlast : messages = [] := not_not.mp fun hne => h hne hdrops
    rw [issued_cons_of_drops H hdrops, hlast]
    exact (List.append_nil _).symm
  · obtain ⟨sent, hsent⟩ := exec_handleMessage_of_not_drops H hdrops
    rw [handleMessages_cons, issued_bind, hsent]
    dsimp only
    rw [issued_bind]
    congr 1
    split <;> exact List.append_nil _

/-- Every message of a callback meets `P` with those that follow it, in the state that the messages
before it leave. -/
def Along (P : τ → NormalizedInboundMessage → List NormalizedInboundMessage → Prop) (t : τ)
    (messages : List NormalizedInboundMessage) : Prop :=
  ∀ before inbound rest, messages = before ++ inbound :: rest →
    P (exec H (handleMessages before) t).2 inbound rest

/-- No message before the last is dropped. -/
def NoneDropped (t : τ) (messages : List NormalizedInboundMessage) : Prop :=
  Along H (fun t inbound rest => rest ≠ [] → ¬ Drops H t inbound) t messages

/-- The state port answers for every message. -/
def EachLoaded (t : τ) (messages : List NormalizedInboundMessage) : Prop :=
  Along H (fun t inbound _ => Loaded H t inbound) t messages

theorem along_nil {P : τ → NormalizedInboundMessage → List NormalizedInboundMessage → Prop} (t : τ) :
    Along H P t [] := by
  intro before inbound rest h
  cases before <;> cases h

theorem along_cons {P : τ → NormalizedInboundMessage → List NormalizedInboundMessage → Prop} {t : τ}
    {inbound : NormalizedInboundMessage} {messages : List NormalizedInboundMessage}
    (h : messages ≠ [] → ¬ Drops H t inbound) :
    Along H P t (inbound :: messages) ↔
      P t inbound messages ∧ Along H P (exec H (handleMessage inbound) t).2 messages := by
  constructor
  · intro hall
    refine ⟨hall [] inbound messages rfl, ?_⟩
    rintro before inbound' rest rfl
    have hP := hall (inbound :: before) inbound' rest rfl
    rwa [exec_cons_of_not_drops H (h (by simp))] at hP
  · rintro ⟨hfirst, hrest⟩ before inbound' rest heq
    cases before with
    | nil =>
        obtain ⟨rfl, rfl⟩ := List.cons.inj heq
        exact hfirst
    | cons first before =>
        obtain ⟨rfl, rfl⟩ := List.cons.inj heq
        rw [exec_cons_of_not_drops H (h (by simp))]
        exact hrest before inbound' rest rfl

/-- Every message of a callback is loaded once, in order, exactly if no message before the last is
dropped. -/
theorem loads_eq_iff (t : τ) (messages : List NormalizedInboundMessage) :
    loads H t messages = messages ↔ NoneDropped H t messages := by
  induction messages generalizing t with
  | nil => exact iff_of_true rfl (along_nil H t)
  | cons inbound messages ih =>
      have hfirst := loads_handleMessage H t inbound
      by_cases hdrops : messages ≠ [] ∧ Drops H t inbound
      · -- the loop ends here, with messages to go
        refine iff_of_false ?_ fun hnone => hnone [] inbound messages rfl hdrops.1 hdrops.2
        unfold loads
        rw [issued_cons_of_drops H hdrops.2, hfirst]
        intro heq
        exact hdrops.1 (List.cons.inj heq).2.symm
      · have hnot : messages ≠ [] → ¬ Drops H t inbound := fun hne hd => hdrops ⟨hne, hd⟩
        have hrest : loads H t (inbound :: messages) =
            inbound :: loads H (exec H (handleMessage inbound) t).2 messages := by
          unfold loads
          rw [issued_cons H hnot, List.filterMap_append, hfirst]
          rfl
        have hnone : NoneDropped H t (inbound :: messages) ↔
            NoneDropped H (exec H (handleMessage inbound) t).2 messages :=
          (along_cons H hnot).trans (and_iff_right hnot)
        rw [hrest, hnone, ← ih, List.cons.injEq, eq_self_iff_true, true_and]

/-- No more messages are routed than there are. -/
theorem routes_length_le (t : τ) (messages : List NormalizedInboundMessage) :
    (routes H t messages).length ≤ messages.length := by
  induction messages generalizing t with
  | nil => exact Nat.le_refl 0
  | cons inbound messages ih =>
      have hfirst : ((issued H (handleMessage inbound) t).filterMap routeOf).length ≤ 1 := by
        rw [routes_handleMessage]
        split <;> simp
      unfold routes
      by_cases hdrops : Drops H t inbound
      · rw [issued_cons_of_drops H hdrops, List.length_cons]
        omega
      · rw [issued_cons H fun _ => hdrops, List.filterMap_append, List.length_append, List.length_cons]
        have hrest := ih (exec H (handleMessage inbound) t).2
        unfold routes at hrest
        omega

/-- Unless a message before the last is dropped, every message is routed once, in order, exactly if
the state port answers for each. -/
theorem routes_eq_iff {t : τ} {messages : List NormalizedInboundMessage}
    (hnone : NoneDropped H t messages) :
    routes H t messages = messages ↔ EachLoaded H t messages := by
  induction messages generalizing t with
  | nil => exact iff_of_true rfl (along_nil H t)
  | cons inbound messages ih =>
      have hnot : messages ≠ [] → ¬ Drops H t inbound := hnone [] inbound messages rfl
      have hrest : routes H t (inbound :: messages) =
          (issued H (handleMessage inbound) t).filterMap routeOf ++
            routes H (exec H (handleMessage inbound) t).2 messages := by
        unfold routes
        rw [issued_cons H hnot, List.filterMap_append]
      have hloaded : EachLoaded H t (inbound :: messages) ↔
          Loaded H t inbound ∧ EachLoaded H (exec H (handleMessage inbound) t).2 messages :=
        along_cons H hnot
      rw [hrest, hloaded, routes_handleMessage, ← ih ((along_cons H hnot).mp hnone).2]
      unfold Loaded
      cases (H (.load inbound) t).1 with
      | ok state => simp [Except.isOk, Except.toBool]
      | error e =>
          refine iff_of_false ?_ (by simp)
          intro heq
          have hle := routes_length_le H (exec H (handleMessage inbound) t).2 messages
          have hlength := congrArg List.length heq
          simp only [Except.isOk, Except.toBool, Bool.false_eq_true, if_false, List.nil_append,
            List.length_cons] at hlength
          omega

/-- Every message of a callback is loaded once and routed once, in order, exactly if the state port
answers for each and no message before the last is dropped. -/
theorem handled_iff (t : τ) (messages : List NormalizedInboundMessage) :
    (loads H t messages = messages ∧ routes H t messages = messages) ↔
      NoneDropped H t messages ∧ EachLoaded H t messages := by
  rw [loads_eq_iff]
  exact and_congr_right fun hnone => routes_eq_iff H hnone

end Message

end Webhook

/-! ## A provider that is down -/

section Down

open Fixture Webhook

/-- The provider rejects the first two things it is sent. -/
def down : W1RuntimeWorld StateStore RecordingBoundary ScriptedHttp :=
  ⟨⟨{ session := secureSession, catalogSession := catalogWithCart }⟩, {}, ⟨[500, 500]⟩⟩

/-- The reply to the first message and the fallback for it: the second message is not loaded. -/
theorem down_dropsNext :
    loads (routerCalls ⟨true⟩) down [tap "menu", tap "help"] ≠ [tap "menu", tap "help"] := by
  decide +kernel

end Down

end XbosCustomerChannel
