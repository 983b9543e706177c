import XbosCustomerChannel.Data.JsonValue
import XbosCustomerChannel.Data.PyIntSpelling
import XbosCustomerChannel.Transports.MetaWhatsApp

/-!
# Provider callbacks

`normalize_provider_callback`: the messages and the delivery statuses of a payload, in their order, or
a rejection that names what was found wrong first. How many digits `int` reads is a setting of the
interpreter.
-/

namespace XbosCustomerChannel

open Data

/-- `sys.get_int_max_str_digits()`; zero stands for no limit. -/
class IntLimit where
  maxStrDigits : Nat

def InteractionKind.value : InteractionKind → String
  | buttonReply => "button_reply"
  | listReply => "list_reply"

/-- `InteractionKind(text)`; `none` is a `ValueError`. -/
def InteractionKind.ofValue? (text : String) : Option InteractionKind :=
  [buttonReply, listReply].find? (·.value = text)

inductive DeliveryState
  | sent
  | delivered
  | read
  | failed
  deriving DecidableEq, Repr

def DeliveryState.value : DeliveryState → String
  | sent => "sent"
  | delivered => "delivered"
  | read => "read"
  | failed => "failed"

/-- `DeliveryState(text)`; `none` is a `ValueError`. -/
def DeliveryState.ofValue? (text : String) : Option DeliveryState :=
  [sent, delivered, read, failed].find? (·.value = text)

structure NormalizedDeliveryStatus where
  providerMessageRef : String
  state : DeliveryState
  occurredAtEpoch : Int
  recipient : Option UntrustedProviderUserRef
  errorCode : Option Int := none
  deriving DecidableEq

structure NormalizedProviderCallback where
  messages : List NormalizedInboundMessage
  deliveryStatuses : List NormalizedDeliveryStatus
  deriving DecidableEq

namespace Callback

/-! ## Parts of a payload -/

def rejected (reason : String) : Exc := ⟨.providerPayloadRejected, reason⟩

/-- `UntrustedProviderUserRef(value)`. -/
def userRef (value : String) : Except Exc UntrustedProviderUserRef :=
  if given : value ≠ "" then .ok ⟨value, given⟩ else .error (rejected "provider_user_ref_missing")

/-- `_mapping`. -/
def mapping (value : JsonValue) (reason : String) : Except Exc JsonObject :=
  match value with
  | .obj entries => .ok entries
  | _ => .error (rejected reason)

/-- `_sequence`. -/
def sequence (value : JsonValue) (reason : String) : Except Exc (List JsonValue) :=
  match value with
  | .arr items => if items = [] then .error (rejected reason) else .ok items
  | _ => .error (rejected reason)

/-- `_optional_sequence`. -/
def optionalSequence (value : JsonValue) (reason : String) : Except Exc (List JsonValue) :=
  match value with
  | .null => .ok []
  | value => sequence value reason

/-- `_text`. -/
def text (value : JsonValue) (reason : String) : Except Exc String :=
  match value with
  | .str text => if text = "" then .error (rejected reason) else .ok text
  | _ => .error (rejected reason)

/-- `isinstance(value, int)`, and the integer: `True` and `False` are integers. -/
def int? : JsonValue → Option Int
  | .int n => some n
  | .bool b => some (if b then 1 else 0)
  | _ => none

/-- The `ValueError` of `int` for a text of too many digits. -/
def tooManyDigits (limit digits : Nat) : Exc :=
  ⟨.valueError, "Exceeds the limit (" ++ toString limit ++
    " digits) for integer string conversion: value has " ++ toString digits ++
    " digits; use sys.set_int_max_str_digits() to increase the limit"⟩

/-- `_epoch`. -/
def epoch [IntLimit] (value : JsonValue) (reason : String) : Except Exc Int :=
  match int? value with
  | some n => .ok n
  | none =>
      match value with
      | .str text =>
          if PyInt.isDecimal text.toList then
            match PyInt.ofDecimal? IntLimit.maxStrDigits text.toList with
            | some n => .ok n
            | none => .error (tooManyDigits IntLimit.maxStrDigits text.toList.length)
          else .error (rejected reason)
      | _ => .error (rejected reason)

/-! ## Messages -/

/-- The part of `_normalize_message` that reads the context. -/
def contextRef (message : JsonObject) : Except Exc (Option String) :=
  match message.lookup "context" with
  | none => .ok none
  | some context => do
      let context ← mapping context "provider_context_invalid"
      let ref ← text (fieldOf context "id") "provider_context_id_missing"
      pure (some ref)

/-- The part of `_normalize_message` that reads an interactive reply. -/
def interactiveReply (message : JsonObject) : Except Exc NormalizedInteractiveReply := do
  let interactive ← mapping (fieldOf message "interactive") "provider_interactive_missing"
  let kindValue ← text (fieldOf interactive "type") "provider_interactive_type_missing"
  match InteractionKind.ofValue? kindValue with
  | none => .error (rejected "unsupported_interactive_type")
  | some kind => do
      let reply ← mapping (fieldOf interactive kind.value) "provider_interactive_reply_missing"
      let replyId ← text (fieldOf reply "id") "provider_interactive_reply_id_missing"
      let title ← text (fieldOf reply "title") "provider_interactive_reply_title_missing"
      pure ⟨kind, replyId, title⟩

/-- `_normalize_message`. -/
def normalizeMessage [IntLimit] (phoneNumberId : String) (message : JsonObject) :
    Except Exc NormalizedInboundMessage := do
  let providerMessageRef ← text (fieldOf message "id") "provider_message_id_missing"
  let senderValue ← text (fieldOf message "from") "provider_sender_missing"
  let sender ← userRef senderValue
  let occurredAtEpoch ← epoch (fieldOf message "timestamp") "provider_message_timestamp_invalid"
  let messageType ← text (fieldOf message "type") "provider_message_type_missing"
  let contextProviderMessageRef ← contextRef message
  if messageType = "text" then do
    let contents ← mapping (fieldOf message "text") "provider_text_invalid"
    let body ← text (fieldOf contents "body") "provider_text_missing"
    pure ⟨providerMessageRef, sender, occurredAtEpoch, some body, none, contextProviderMessageRef,
      phoneNumberId⟩
  else if messageType ≠ "interactive" then .error (rejected "unsupported_message_type")
  else do
    let reply ← interactiveReply message
    pure ⟨providerMessageRef, sender, occurredAtEpoch, none, some reply, contextProviderMessageRef,
      phoneNumberId⟩

/-! ## Statuses -/

/-- The part of `_normalize_status` that reads the state. A rejection is a `ValueError`, and so is
replaced as well. -/
def deliveryState (status : JsonObject) : Except Exc DeliveryState :=
  let state : Except Exc DeliveryState := do
    let value ← text (fieldOf status "status") "provider_status_missing"
    match DeliveryState.ofValue? value with
    | some state => pure state
    | none => .error ⟨.valueError, "'" ++ value ++ "' is not a valid DeliveryState"⟩
  match state with
  | .ok state => .ok state
  | .error e =>
      if e.caughtBy [.valueError] then .error (rejected "unsupported_delivery_status") else .error e

/-- The part of `_normalize_status` that reads the recipient. -/
def recipient (status : JsonObject) : Except Exc (Option UntrustedProviderUserRef) :=
  match fieldOf status "recipient_id" with
  | .null => .ok none
  | value => do
      let value ← text value "provider_recipient_invalid"
      let ref ← userRef value
      pure (some ref)

/-- The part of `_normalize_status` that reads the code of the first error. -/
def errorCode (status : JsonObject) : Except Exc (Option Int) :=
  match fieldOf status "errors" with
  | .null => .ok none
  | errors => do
      let errors ← sequence errors "provider_status_errors_invalid"
      match errors with
      | [] => .error ⟨.other "IndexError", "list index out of range"⟩
      | first :: _ => do
          let first ← mapping first "provider_status_error_invalid"
          pure (int? (fieldOf first "code"))

/-- `_normalize_status`. -/
def normalizeStatus [IntLimit] (status : JsonObject) : Except Exc NormalizedDeliveryStatus := do
  let providerMessageRef ← text (fieldOf status "id") "provider_status_id_missing"
  let state ← deliveryState status
  let recipient ← recipient status
  let errorCode ← errorCode status
  let occurredAtEpoch ← epoch (fieldOf status "timestamp") "provider_status_timestamp_invalid"
  pure ⟨providerMessageRef, state, occurredAtEpoch, recipient, errorCode⟩

/-! ## The loops -/

/-- The messages and the statuses of a change: a turn of the inner loop, which appends them to those
that were found before. -/
def normalizeChange [IntLimit] (change : JsonValue) :
    Except Exc (List NormalizedInboundMessage × List NormalizedDeliveryStatus) := do
  let change ← mapping change "provider_change_invalid"
  match fieldOf change "field" with
  | .str "messages" => do
      let value ← mapping (fieldOf change "value") "provider_message_value_missing"
      let metadata ← mapping (fieldOf value "metadata") "provider_metadata_missing"
      let phoneNumberId ← text (fieldOf metadata "phone_number_id")
        "provider_phone_number_id_missing"
      let messages ← optionalSequence (fieldOf value "messages") "provider_messages_invalid"
      let messages ← messages.mapM fun message => do
        let message ← mapping message "provider_message_invalid"
        normalizeMessage phoneNumberId message
      let statuses ← optionalSequence (fieldOf value "statuses") "provider_statuses_invalid"
      let statuses ← statuses.mapM fun status => do
        let status ← mapping status "provider_status_invalid"
        normalizeStatus status
      pure (messages, statuses)
  | _ => .error (rejected "unsupported_webhook_field")

/-- The messages and the statuses of an entry: a turn of the outer loop. -/
def normalizeEntry [IntLimit] (entry : JsonValue) :
    Except Exc (List NormalizedInboundMessage × List NormalizedDeliveryStatus) := do
  let entry ← mapping entry "provider_entry_invalid"
  let changes ← sequence (fieldOf entry "changes") "provider_changes_missing"
  let found ← changes.mapM normalizeChange
  pure (found.flatMap (·.1), found.flatMap (·.2))

/-- `normalize_provider_callback`. -/
def normalizeProviderCallback [IntLimit] (payload : JsonValue) :
    Except Exc NormalizedProviderCallback := do
  let root ← mapping payload "provider_payload_not_object"
  match fieldOf root "object" with
  | .str "whatsapp_business_account" => do
      let entries ← sequence (fieldOf root "entry") "provider_entry_missing"
      let found ← entries.mapM normalizeEntry
      let messages := found.flatMap (·.1)
      let statuses := found.flatMap (·.2)
      if messages = [] ∧ statuses = [] then .error (rejected "provider_callback_empty")
      else pure ⟨messages, statuses⟩
  | _ => .error (rejected "unsupported_provider_object")

end Callback

end XbosCustomerChannel
