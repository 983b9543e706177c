import XbosCustomerChannel.Errors

/-!
# The Meta WhatsApp boundary

Inbound messages as they are after normalization, and the outbound side: what the Cloud API is sent
is validated first, and what it answers is either a message reference or a provider error. URL,
headers and the JSON text of a payload are left out; a response is what the adapter reads of it, and
one whose body makes the JSON parser itself fail counts as raised by the client.
-/

namespace XbosCustomerChannel

/-! ## Inbound -/

/-- Raw WhatsApp sender/recipient locator; explicitly not an XCIA subject. -/
structure UntrustedProviderUserRef where
  value : String
  given : value ≠ ""
  deriving DecidableEq

inductive InteractionKind
  | buttonReply
  | listReply
  deriving DecidableEq, Repr

structure NormalizedInteractiveReply where
  kind : InteractionKind
  replyId : String
  title : String
  deriving DecidableEq, Repr

structure NormalizedInboundMessage where
  providerMessageRef : String
  sender : UntrustedProviderUserRef
  occurredAtEpoch : Int
  text : Option String
  interactiveReply : Option NormalizedInteractiveReply
  contextProviderMessageRef : Option String
  metadataPhoneNumberId : String
  deriving DecidableEq

/-! ## Outbound -/

structure InteractiveButton where
  replyId : String
  title : String
  deriving DecidableEq, Repr

structure InteractiveListRow where
  replyId : String
  title : String
  description : Option String := none
  deriving DecidableEq, Repr

structure InteractiveListSection where
  title : String
  rows : List InteractiveListRow
  deriving DecidableEq, Repr

structure ProviderOutboundMessage where
  providerMessageRef : String
  deriving DecidableEq, Repr

/-- What is posted, apart from the recipient. A row without a description is sent without one. -/
inductive MetaPayload
  | text (body : String)
  | buttons (body : String) (buttons : List InteractiveButton)
  | list (body buttonLabel : String) (sections : List InteractiveListSection)
  deriving DecidableEq, Repr

/-- A response: the `code` of its `error` object if that is an integer, and the `id` of its first
message if that is a non-empty text. -/
structure MetaHttpResponse where
  statusCode : Int
  errorCode : Option Int := none
  firstMessageId : Option String := none
  deriving DecidableEq, Repr

inductive ProviderErrorKind
  | rateLimited
  | transient
  | permanent
  deriving DecidableEq, Repr

def ProviderErrorKind.value : ProviderErrorKind → String
  | rateLimited => "rate_limited"
  | transient => "transient"
  | permanent => "permanent"

namespace MetaWhatsAppOutboundAdapter

/-- `_outbound_text`. -/
def outboundText (value : String) : Except Exc String :=
  if value = "" ∨ 1024 < value.length then .error ⟨.valueError, "meta_outbound_text_invalid"⟩
  else .ok value

def textPayload (body : String) : Except Exc MetaPayload := do
  let body ← outboundText body
  pure (.text body)

def buttonsPayload (body : String) (buttons : List InteractiveButton) : Except Exc MetaPayload := do
  if ¬ (1 ≤ buttons.length ∧ buttons.length ≤ 3) then
    .error ⟨.valueError, "meta_button_count_invalid"⟩
  else
    let actions ← buttons.mapM fun button => do
      let replyId ← outboundText button.replyId
      let title ← outboundText button.title
      pure (⟨replyId, title⟩ : InteractiveButton)
    let body ← outboundText body
    pure (.buttons body actions)

def listPayload (body buttonLabel : String) (sections : List InteractiveListSection) :
    Except Exc MetaPayload := do
  if sections = [] ∨ ∃ s ∈ sections, s.rows = [] then
    .error ⟨.valueError, "meta_list_sections_invalid"⟩
  else
    let rendered ← sections.mapM fun s => do
      let title ← outboundText s.title
      let rows ← s.rows.mapM fun row => do
        let replyId ← outboundText row.replyId
        let title ← outboundText row.title
        pure (⟨replyId, title, row.description.filter (· ≠ "")⟩ : InteractiveListRow)
      pure (⟨title, rows⟩ : InteractiveListSection)
    let body ← outboundText body
    let buttonLabel ← outboundText buttonLabel
    pure (.list body buttonLabel rendered)

/-- `MetaProviderError`. -/
def metaProviderError (cls : ExcClass) (kind : ProviderErrorKind) (statusCode : Int) : Exc :=
  ⟨cls, "meta_provider_error:" ++ kind.value ++ ":" ++ statusCode.repr⟩

/-- `_provider_error`. -/
def providerError (response : MetaHttpResponse) : Exc :=
  if response.statusCode = 429 ∨ ∃ code ∈ response.errorCode, code ∈ [4, 80007, 130429] then
    metaProviderError .metaRateLimitError .rateLimited response.statusCode
  else if response.statusCode ≥ 500 then
    metaProviderError .metaProviderError .transient response.statusCode
  else metaProviderError .metaProviderError .permanent response.statusCode

/-- The end of `_send`, with the client's response. -/
def outboundMessage (response : MetaHttpResponse) : Except Exc ProviderOutboundMessage :=
  if ¬ (200 ≤ response.statusCode ∧ response.statusCode < 300) then .error (providerError response)
  else
    match response.firstMessageId with
    | none => .error (metaProviderError .metaProviderError .transient response.statusCode)
    | some ref => .ok ⟨ref⟩

end MetaWhatsAppOutboundAdapter

end XbosCustomerChannel
