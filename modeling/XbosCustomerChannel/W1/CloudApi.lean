import Mathlib.Algebra.Order.Ring.Unbundled.Rat
import XbosCustomerChannel.Transports.Outbound
import XbosCustomerChannel.W1.Runtime

/-!
# The runtime over the Cloud API

The HTTP client of the runtime, made of `httpx` and the bytes in between. What the runtime does over
any client it does over this one; what it has delivered is told apart by the bytes, and what it is told
of it is read off the response.
-/

namespace XbosCustomerChannel

open Effects Data MetaWhatsAppOutboundAdapter W1WhatsAppRuntime

/-- `MetaWhatsAppOutboundAdapter`, with its client. -/
structure CloudApi (η : Type) where
  loads : String → Option JsonValue
  config : MetaWhatsAppConfig
  timeoutSeconds : ℚ := 10
  client : η

namespace CloudApi

variable {η : Type} [HttpxClient η] (api : CloudApi η) (recipient : UntrustedProviderUserRef)
  (payload : MetaPayload)

def request : MetaHttpRequest :=
  MetaWhatsAppOutboundAdapter.request api.config api.timeoutSeconds recipient payload

/-- `_send`. -/
def send : Except Exc ProviderOutboundMessage × CloudApi η :=
  ((sendPayload api.loads api.config api.timeoutSeconds api.client recipient payload).1,
    { api with client :=
        (sendPayload api.loads api.config api.timeoutSeconds api.client recipient payload).2 })

instance instMetaHttpClient : MetaHttpClient (CloudApi η) where
  post api recipient payload :=
    ((HttpxMetaHttpClient.post api.client (api.request recipient payload)).1.map
        (readResponse api.loads),
      { api with client :=
          (HttpxMetaHttpClient.post api.client (api.request recipient payload)).2 })

/-- The adapter over bytes does what the adapter over responses does. -/
theorem send_eq :
    api.send recipient payload =
      ((MetaHttpClient.post api recipient payload).1 >>= outboundMessage,
        (MetaHttpClient.post api recipient payload).2) := by
  have hpost : MetaHttpClient.post api recipient payload =
      ((HttpxMetaHttpClient.post api.client (api.request recipient payload)).1.map
          (readResponse api.loads),
        { api with client :=
            (HttpxMetaHttpClient.post api.client (api.request recipient payload)).2 }) := rfl
  rw [hpost]
  unfold send sendPayload
  show _ = ((HttpxMetaHttpClient.post api.client
    (MetaWhatsAppOutboundAdapter.request api.config api.timeoutSeconds recipient payload)).1.map
      (readResponse api.loads) >>= outboundMessage, _)
  unfold CloudApi.request
  cases hanswer : HttpxMetaHttpClient.post api.client
    (MetaWhatsAppOutboundAdapter.request api.config api.timeoutSeconds recipient payload) with
  | mk r client =>
      cases r with
      | error e => rfl
      | ok response =>
          dsimp only
          rw [sent_eq]
          rfl

/-- A response that acknowledges a message under a reference. -/
def Acknowledges (response : RawHttpResponse) (ref : String) : Prop :=
  (200 ≤ response.statusCode ∧ response.statusCode < 300) ∧ ref ≠ "" ∧
    ∃ message rest,
      fieldOf (responseObject api.loads response.body) "messages" = .arr (.obj message :: rest) ∧
        fieldOf message "id" = .str ref

/-- A response that asks for fewer messages. -/
def Limits (response : RawHttpResponse) : Prop :=
  ¬ (200 ≤ response.statusCode ∧ response.statusCode < 300) ∧
    (response.statusCode = 429 ∨
      ∃ code ∈ providerCode (responseObject api.loads response.body), code ∈ [4, 80007, 130429])

omit [HttpxClient η] in
theorem sent_ok {response : RawHttpResponse} {ref : String} :
    sent api.loads response = .ok ⟨ref⟩ ↔ api.Acknowledges response ref := by
  rw [sent_eq]
  unfold outboundMessage Acknowledges readResponse
  dsimp only
  rw [← firstMessageId_eq_some]
  split
  · next hstatus => simp [hstatus]
  · next hstatus =>
      rw [and_iff_right (not_not.mp hstatus)]
      cases firstMessageId (responseObject api.loads response.body) with
      | none => simp
      | some id => simp

omit [HttpxClient η] in
theorem sent_limited {response : RawHttpResponse} :
    (∃ e, sent api.loads response = .error e ∧ e.cls = .metaRateLimitError) ↔
      api.Limits response := by
  rw [sent_eq]
  unfold outboundMessage Limits readResponse
  dsimp only
  split
  · next hstatus =>
      rw [and_iff_right hstatus]
      unfold providerError
      dsimp only
      split
      · next hlimited =>
          rw [iff_true_right hlimited]
          exact ⟨_, rfl, rfl⟩
      · next hlimited =>
          rw [iff_false_right hlimited]
          -- transient or permanent, it is a plain provider error
          split
          · rintro ⟨e, he, hcls⟩
            cases he
            cases hcls
          · rintro ⟨e, he, hcls⟩
            cases he
            cases hcls
  · next hstatus =>
      cases firstMessageId (responseObject api.loads response.body) with
      | none => simp [metaProviderError, not_not.mp hstatus]
      | some id => simp [not_not.mp hstatus]

end CloudApi

variable {σ β η : Type} [W1RuntimeStatePort σ] [W1CheckoutDomainBoundary β] [HttpxClient η]

end XbosCustomerChannel
