import XbosCustomerChannel.Effects.Embedding
import XbosCustomerChannel.W1.Run

/-!
# The W1 runtime

What becomes of the messages of a callback: each is loaded, routed, saved and answered, and any
exception on the way is answered with one text instead. The state port and the HTTP client are states
that may answer anything; of the port it is known what it holds.
-/

namespace XbosCustomerChannel

open Effects Data

/-! ## The ports -/

/-- Server-side state resolution. To load stores nothing; to save stores the state, or raises and
stores nothing. -/
class W1RuntimeStatePort (σ : Type) where
  load : σ → (inbound : NormalizedInboundMessage) → Except Exc W1RuntimeConversationState × σ
  save : σ → (inbound : NormalizedInboundMessage) → (state : W1RuntimeConversationState) →
    Except Exc Unit × σ
  /-- The state that is held for the conversation of a message. -/
  held : σ → NormalizedInboundMessage → Option W1RuntimeConversationState
  held_load : ∀ p inbound, held (load p inbound).2 inbound = held p inbound
  held_save : ∀ p inbound state, (save p inbound state).1 = .ok () →
    held (save p inbound state).2 inbound = some state
  held_save_error : ∀ p inbound state e, (save p inbound state).1 = .error e →
    held (save p inbound state).2 inbound = held p inbound

class MetaHttpClient (ω : Type) where
  post : ω → (recipient : UntrustedProviderUserRef) → (payload : MetaPayload) →
    Except Exc MetaHttpResponse × ω

inductive W1RuntimeOp
  | load (inbound : NormalizedInboundMessage)
  | save (inbound : NormalizedInboundMessage) (state : W1RuntimeConversationState)
  | boundary (op : W1CheckoutOp)
  | post (recipient : UntrustedProviderUserRef) (payload : MetaPayload)

abbrev W1RuntimeOp.Resp : W1RuntimeOp → Type
  | load _ => Except Exc W1RuntimeConversationState
  | save _ _ => Except Exc Unit
  | boundary op => op.Resp
  | post _ _ => Except Exc MetaHttpResponse

abbrev W1RuntimePorts : Signature where
  Op := W1RuntimeOp
  Resp := W1RuntimeOp.Resp

abbrev W1RuntimeCallOf (α : Type) := Program W1RuntimePorts Exc α

abbrev askRuntime (op : W1RuntimeOp) : W1RuntimeCallOf op.Resp :=
  @Program.call W1RuntimePorts Exc _ op .done

/-- The calls of the boundary among those of the runtime. -/
def boundaryCalls : Embedding W1Boundary W1RuntimePorts := ⟨.boundary, fun _ r => r⟩

/-! ## The runtime -/

namespace W1WhatsAppRuntime

/-- What the outbound adapter posts for a rendered message, or the exception of its validation. -/
def payload (rendered : W1RenderedMessage) : Except Exc MetaPayload :=
  match rendered.kind with
  | .text => MetaWhatsAppOutboundAdapter.textPayload rendered.body
  | .buttons =>
      MetaWhatsAppOutboundAdapter.buttonsPayload rendered.body
        (rendered.buttons.map fun button => ⟨button.replyId, button.title⟩)
  | .list =>
      MetaWhatsAppOutboundAdapter.listPayload rendered.body
        ((pyOr rendered.listButtonLabel (some "Options")).getD "Options")
        (rendered.listSections.map fun s =>
          ⟨s.title, s.rows.map fun row => ⟨row.replyId, row.title, row.description⟩⟩)

/-- A `send_…` of the outbound adapter, given what it is to post. -/
def deliver (recipient : UntrustedProviderUserRef) (payload : Except Exc MetaPayload) :
    W1RuntimeCallOf ProviderOutboundMessage := do
  let payload ← Program.ofExcept payload
  let answer : Except Exc MetaHttpResponse ← askRuntime (.post recipient payload)
  let response ← Program.ofExcept answer
  Program.ofExcept (MetaWhatsAppOutboundAdapter.outboundMessage response)

/-- `_send`. -/
def send (inbound : NormalizedInboundMessage) (rendered : W1RenderedMessage) :
    W1RuntimeCallOf ProviderOutboundMessage :=
  deliver inbound.sender (payload rendered)

/-- The answer to a message that could not be handled. -/
def fallback (inbound : NormalizedInboundMessage) : W1RuntimeCallOf ProviderOutboundMessage :=
  deliver inbound.sender <| MetaWhatsAppOutboundAdapter.textPayload
    ("We could not continue this request safely. " ++ "Please reply Menu or Help.")

variable [CaseFolding] (router : W1ConversationRouter)

/-- The `try` block of `handle_webhook`. -/
def attempt (inbound : NormalizedInboundMessage) : W1RuntimeCallOf ProviderOutboundMessage := do
  let loaded : Except Exc W1RuntimeConversationState ← askRuntime (.load inbound)
  let state ← Program.ofExcept loaded
  let result ← (state.route router inbound).embed boundaryCalls
  -- the next state is saved before the reply is sent
  let saved : Except Exc Unit ← askRuntime (.save inbound (state.next result))
  Program.ofExcept saved
  send inbound result.rendered

/-- One message of a callback. -/
def handleMessage (inbound : NormalizedInboundMessage) : W1RuntimeCallOf ProviderOutboundMessage :=
  (attempt router inbound).tryCatch fun _ => fallback inbound

/-- `handle_webhook`, from the messages of the callback on. -/
def handleMessages : List NormalizedInboundMessage → W1RuntimeCallOf (List ProviderOutboundMessage)
  | [] => pure []
  | inbound :: messages => do
      let sent ← handleMessage router inbound
      let rest ← handleMessages messages
      pure (sent :: rest)

end W1WhatsAppRuntime

/-! ## Running it -/

/-- Everything the runtime talks to. -/
structure W1RuntimeWorld (σ β ω : Type) where
  port : σ
  boundary : β
  client : ω

namespace W1RuntimeWorld

open W1RuntimeStatePort (load save held held_load held_save held_save_error)
open MetaHttpClient (post)
open W1WhatsAppRuntime

variable {σ β ω : Type}

def boundaryPart : Part β (W1RuntimeWorld σ β ω) where
  get w := w.boundary
  put b w := { w with boundary := b }
  get_put _ _ := rfl
  put_get _ := rfl
  put_put _ _ _ := rfl

variable [W1RuntimeStatePort σ] [W1CheckoutDomainBoundary β] [MetaHttpClient ω]

/-- One call of the runtime. -/
def answer : Handler W1RuntimePorts (W1RuntimeWorld σ β ω)
  | .load inbound, w => ((load w.port inbound).1, { w with port := (load w.port inbound).2 })
  | .save inbound state, w =>
      ((save w.port inbound state).1, { w with port := (save w.port inbound state).2 })
  | .boundary op, w =>
      ((W1CheckoutDomainBoundary.handle op w.boundary).1,
        { w with boundary := (W1CheckoutDomainBoundary.handle op w.boundary).2 })
  | .post recipient payload, w =>
      ((post w.client recipient payload).1,
        { w with client := (post w.client recipient payload).2 })

theorem answers_boundary :
    (boundaryPart (σ := σ) (ω := ω)).Answers boundaryCalls
      (W1CheckoutDomainBoundary.handle (β := β)) answer :=
  fun _ _ => ⟨rfl, rfl⟩

variable (w : W1RuntimeWorld σ β ω)

/-! ### Sending -/

/-- What comes of posting. -/
def delivered (client : ω) (recipient : UntrustedProviderUserRef)
    (payload : Except Exc MetaPayload) : Except Exc ProviderOutboundMessage := do
  let payload ← payload
  let response ← (post client recipient payload).1
  MetaWhatsAppOutboundAdapter.outboundMessage response

theorem exec_askRuntime_bind {α : Type} (op : W1RuntimeOp) (f : op.Resp → W1RuntimeCallOf α) :
    exec answer (askRuntime op >>= f) w = exec answer (f (answer op w).1) (answer op w).2 := rfl

/-- To deliver is to post; only the client may change. -/
theorem exec_deliver (recipient : UntrustedProviderUserRef) (payload : Except Exc MetaPayload) :
    ∃ client, exec answer (deliver recipient payload) w =
      (delivered w.client recipient payload, { w with client := client }) := by
  unfold deliver
  cases payload with
  | error e => exact ⟨w.client, rfl⟩
  | ok payload =>
      refine ⟨(post w.client recipient payload).2, ?_⟩
      have hdelivered : delivered w.client recipient (.ok payload) =
          (post w.client recipient payload).1 >>= MetaWhatsAppOutboundAdapter.outboundMessage := rfl
      rw [hdelivered, Program.ofExcept_ok, Program.done_bind, exec_askRuntime_bind]
      simp only [answer]
      cases (post w.client recipient payload).1 with
      | error e => rfl
      | ok response =>
          rw [Program.ofExcept_ok, Program.done_bind, exec_ofExcept]
          rfl

/-! ### The `try` block -/

variable [CaseFolding] (router : W1ConversationRouter) (inbound : NormalizedInboundMessage)

/-- The message is loaded, routed and saved, which leaves `w'`. -/
structure Saves (state : W1RuntimeConversationState) (result : W1ConversationResult)
    (w' : W1RuntimeWorld σ β ω) : Prop where
  loaded : (load w.port inbound).1 = .ok state
  routed : exec W1CheckoutDomainBoundary.handle (state.route router inbound) w.boundary =
    (.ok result, w'.boundary)
  saved : save (load w.port inbound).2 inbound (state.next result) = (.ok (), w'.port)
  client : w'.client = w.client

variable {w router inbound} {state : W1RuntimeConversationState} {result : W1ConversationResult}
  {w' : W1RuntimeWorld σ β ω}

omit [MetaHttpClient ω] in
/-- What has been saved is held. -/
theorem Saves.holds (h : Saves w router inbound state result w') :
    W1RuntimeStatePort.held w'.port inbound = some (state.next result) := by
  have hheld := held_save (load w.port inbound).2 inbound (state.next result) (by rw [h.saved])
  rwa [h.saved] at hheld

/-- Once it has saved, the `try` block sends. -/
theorem Saves.exec_attempt (h : Saves w router inbound state result w') :
    exec answer (attempt router inbound) w = exec answer (send inbound result.rendered) w' := by
  unfold attempt
  rw [exec_askRuntime_bind]
  simp only [answer]
  rw [h.loaded, Program.ofExcept_ok, Program.done_bind, exec_bind, exec_embed answers_boundary]
  simp only [boundaryPart, h.routed]
  rw [exec_askRuntime_bind]
  simp only [answer]
  rw [h.saved, Program.ofExcept_ok, Program.done_bind, ← h.client]

/-- A `try` block that does not save raises, and leaves what is held. -/
theorem exec_attempt_of_not_saves (h : ∀ state result w', ¬ Saves w router inbound state result w') :
    ∃ e w', exec answer (attempt router inbound) w = (.error e, w') ∧
      W1RuntimeStatePort.held w'.port inbound = W1RuntimeStatePort.held w.port inbound := by
  unfold attempt
  rw [exec_askRuntime_bind]
  simp only [answer]
  have hload := held_load w.port inbound
  -- the block stops at the load, at the routing or at the save
  cases hloaded : (load w.port inbound).1 with
  | error e => exact ⟨e, _, rfl, hload⟩
  | ok state =>
      rw [Program.ofExcept_ok, Program.done_bind, exec_bind, exec_embed answers_boundary]
      simp only [boundaryPart]
      cases hrouted : exec W1CheckoutDomainBoundary.handle (state.route router inbound) w.boundary with
      | mk outcome boundary =>
          cases outcome with
          | error e => exact ⟨e, _, rfl, hload⟩
          | ok result =>
              dsimp only
              rw [exec_askRuntime_bind]
              simp only [answer]
              cases hsaved : save (load w.port inbound).2 inbound (state.next result) with
              | mk answered port =>
                  cases answered with
                  | error e =>
                      have hsave := held_save_error (load w.port inbound).2 inbound
                        (state.next result) e (by rw [hsaved])
                      rw [hsaved] at hsave
                      exact ⟨e, _, rfl, hsave.trans hload⟩
                  | ok _ =>
                      exact absurd ⟨hloaded, hrouted, hsaved, rfl⟩ (h state result ⟨port, boundary, w.client⟩)

/-! ### Callbacks -/

/-- The messages of a callback that are all answered are answered one after another. -/
theorem exec_handleMessages_cons {messages : List NormalizedInboundMessage}
    {sents : List ProviderOutboundMessage} {w'' : W1RuntimeWorld σ β ω} :
    exec answer (handleMessages router (inbound :: messages)) w = (.ok sents, w'') ↔
      ∃ sent w' rest, exec answer (handleMessage router inbound) w = (.ok sent, w') ∧
        exec answer (handleMessages router messages) w' = (.ok rest, w'') ∧ sents = sent :: rest := by
  constructor
  · intro h
    obtain ⟨sent, w', hfirst, hrest⟩ := bind_ok_inv answer h
    obtain ⟨rest, w₂, hmessages, hdone⟩ := bind_ok_inv answer hrest
    cases hdone
    exact ⟨sent, w', rest, hfirst, hmessages, rfl⟩
  · rintro ⟨sent, w', rest, hfirst, hmessages, rfl⟩
    unfold handleMessages
    rw [exec_bind_ok answer hfirst, exec_bind_ok answer hmessages]
    rfl

end W1RuntimeWorld

end XbosCustomerChannel
