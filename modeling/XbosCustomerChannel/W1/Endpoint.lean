import XbosCustomerChannel.Effects.Interleaving
import XbosCustomerChannel.Runtime.App
import XbosCustomerChannel.W1.Webhook

/-!
# The runtime behind the webhook

`handle_webhook` as it is called: a body and its signature, which anyone may send, any number of times
and at once. Only a body that carries its signature, and whose payload is a callback, has the runtime do
anything.
-/

namespace XbosCustomerChannel

open Effects Effects.Program Data

/-- What is posted to the webhook. -/
structure WebhookRequest where
  rawBody : List UInt8
  signature : Option String
  deriving DecidableEq

namespace W1WhatsAppRuntime

variable [Hmac] [IntLimit] [CaseFolding] (loads : String → Option JsonValue)
  (config : MetaWhatsAppConfig) (router : W1ConversationRouter)

/-- `handle_webhook`. -/
def handleWebhook (request : WebhookRequest) : W1RuntimeCallOf (List ProviderOutboundMessage) := do
  let callback ← ofExcept (MetaWhatsAppInboundAdapter.received loads config request.rawBody
    request.signature)
  handleMessages router callback.messages

omit [CaseFolding] in
/-- The body carries its signature, and is a callback. -/
structure Accepted (request : WebhookRequest) : Prop where
  signed : request.signature =
    some (MetaWhatsAppInboundAdapter.signatureOf config request.rawBody)
  callback : ∃ payload, MetaWhatsAppInboundAdapter.readBody loads request.rawBody = some payload ∧
    Callback.IsCallback Callback.Converts payload

variable {loads config router} {request : WebhookRequest}

omit [CaseFolding] in
theorem accepted_iff : Accepted loads config request ↔ ∃ callback,
    MetaWhatsAppInboundAdapter.received loads config request.rawBody request.signature =
      .ok callback := by
  rw [MetaWhatsAppInboundAdapter.received_accepts]
  exact ⟨fun h => ⟨h.signed, h.callback⟩, fun h => ⟨h.1, h.2⟩⟩

/-- Any other call raises at once. -/
theorem handleWebhook_of_not_accepted (router : W1ConversationRouter) (h : ¬ Accepted loads config request) :
    ∃ e, MetaWhatsAppInboundAdapter.received loads config request.rawBody request.signature =
        .error e ∧ handleWebhook loads config router request = .raise e := by
  cases hreceived : MetaWhatsAppInboundAdapter.received loads config request.rawBody
      request.signature with
  | ok callback => exact absurd (accepted_iff.mpr ⟨callback, hreceived⟩) h
  | error e =>
      refine ⟨e, rfl, ?_⟩
      unfold handleWebhook
      rw [hreceived]
      rfl

/-- An accepted one handles the messages of its callback. -/
theorem handleWebhook_of_accepted {callback : NormalizedProviderCallback}
    (h : MetaWhatsAppInboundAdapter.received loads config request.rawBody request.signature =
      .ok callback) :
    handleWebhook loads config router request = handleMessages router callback.messages := by
  unfold handleWebhook
  rw [h]
  rfl

/-! ## Calls at once -/

variable {τ ι : Type} [DecidableEq ι]

/-- Calls of the webhook, over a state that answers for the ports. -/
def webhooks (loads : String → Option JsonValue) (config : MetaWhatsAppConfig)
    (router : W1ConversationRouter) (t : τ) (requests : ι → WebhookRequest) :
    Pool W1RuntimePorts τ Exc (List ProviderOutboundMessage) ι where
  state := t
  threads i := handleWebhook loads config router (requests i)

end W1WhatsAppRuntime

end XbosCustomerChannel
