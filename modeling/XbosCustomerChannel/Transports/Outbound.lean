import Mathlib.Data.Rat.Defs
import XbosCustomerChannel.Data.JsonOrdered
import XbosCustomerChannel.Data.JsonValue
import XbosCustomerChannel.Transports.Inbound

/-!
# What is posted to the Cloud API

The outbound adapter down to the bytes: the JSON text of a message, the request around it, and what is
read of the response. `httpx` is a state that answers requests; what `json.loads` makes of a text is a
parameter, `none` being a `JSONDecodeError`. Two messages with one text are one message
(`requestBody_inj`).
-/

namespace XbosCustomerChannel

open Data

/-- The keyword arguments of `post`. -/
structure MetaHttpRequest where
  url : String
  headers : List (String × String)
  body : List UInt8
  timeoutSeconds : ℚ
  deriving DecidableEq

/-- `MetaHttpResponse`, before anything is read of it. -/
structure RawHttpResponse where
  statusCode : Int
  body : List UInt8
  deriving DecidableEq

/-- `httpx.Client`. -/
class HttpxClient (η : Type) where
  post : η → MetaHttpRequest → Except Exc RawHttpResponse × η

/-- `HttpxMetaHttpClient.post`. -/
def HttpxMetaHttpClient.post {η : Type} [HttpxClient η] (client : η) (request : MetaHttpRequest) :
    Except Exc RawHttpResponse × η :=
  if request.timeoutSeconds ≤ 0 then
    (.error ⟨.valueError, "meta_http_timeout_required"⟩, client)
  else HttpxClient.post client request

namespace MetaWhatsAppOutboundAdapter

/-! ## The request -/

def buttonObject (button : InteractiveButton) : Json :=
  .obj [("type", .str "reply"),
    ("reply", .obj [("id", .str button.replyId), ("title", .str button.title)])]

/-- The entry for the description, where there is one. -/
def descriptionMember : Option String → List (String × Json)
  | none => []
  | some description => [("description", .str description)]

def rowObject (row : InteractiveListRow) : Json :=
  .obj ([("id", .str row.replyId), ("title", .str row.title)] ++ descriptionMember row.description)

def sectionObject (s : InteractiveListSection) : Json :=
  .obj [("title", .str s.title), ("rows", .arr (s.rows.map rowObject))]

/-- The payload that `send_text`, `send_buttons` and `send_list` hand to `_send`. -/
def payloadMembers : MetaPayload → List (String × Json)
  | .text body => [("type", .str "text"), ("text", .obj [("body", .str body)])]
  | .buttons body buttons =>
      [("type", .str "interactive"),
        ("interactive", .obj
          [("type", .str "button"), ("body", .obj [("text", .str body)]),
            ("action", .obj [("buttons", .arr (buttons.map buttonObject))])])]
  | .list body buttonLabel sections =>
      [("type", .str "interactive"),
        ("interactive", .obj
          [("type", .str "list"), ("body", .obj [("text", .str body)]),
            ("action", .obj [("button", .str buttonLabel),
              ("sections", .arr (sections.map sectionObject))])])]

/-- `json.dumps({"messaging_product": ..., "to": ..., **payload}, ...).encode("utf-8")`. -/
def requestBody (recipient : UntrustedProviderUserRef) (payload : MetaPayload) : List UInt8 :=
  (Json.obj ([("messaging_product", .str "whatsapp"), ("to", .str recipient.value)] ++
    payloadMembers payload)).bytes

def request (config : MetaWhatsAppConfig) (timeoutSeconds : ℚ)
    (recipient : UntrustedProviderUserRef) (payload : MetaPayload) : MetaHttpRequest where
  url := "https://graph.facebook.com/" ++ config.graphApiVersion ++ "/" ++ config.phoneNumberId ++
    "/messages"
  headers := [("Authorization", "Bearer " ++ config.accessToken), ("Content-Type", "application/json")]
  body := requestBody recipient payload
  timeoutSeconds

/-! ## The response -/

variable (loads : String → Option JsonValue)

/-- `_response_object`. -/
def responseObject (body : List UInt8) : JsonObject :=
  match (MetaWhatsAppInboundAdapter.decodeBody body).bind loads with
  | some (.obj entries) => entries
  | _ => []

/-- `code if isinstance(code, int) else None`; a boolean is an integer. -/
def intCode : JsonValue → Option Int
  | .int n => some n
  | .bool b => some (if b then 1 else 0)
  | _ => none

/-- The `code` of the error, if the error is an object. -/
def providerCode (payload : JsonObject) : Option Int :=
  match fieldOf payload "error" with
  | .obj error => intCode (fieldOf error "code")
  | _ => none

/-- `_provider_error`. -/
def rawProviderError (statusCode : Int) (payload : JsonObject) : Exc :=
  if statusCode = 429 ∨ ∃ code ∈ providerCode payload, code ∈ [4, 80007, 130429] then
    metaProviderError .metaRateLimitError .rateLimited statusCode
  else if statusCode ≥ 500 then metaProviderError .metaProviderError .transient statusCode
  else metaProviderError .metaProviderError .permanent statusCode

/-- `_send`, from the response on. -/
def sent (response : RawHttpResponse) : Except Exc ProviderOutboundMessage :=
  let parsed := responseObject loads response.body
  if ¬ (200 ≤ response.statusCode ∧ response.statusCode < 300) then
    .error (rawProviderError response.statusCode parsed)
  else
    match fieldOf parsed "messages" with
    | .arr (.obj message :: _) =>
        match fieldOf message "id" with
        | .str ref =>
            if ref = "" then
              .error (metaProviderError .metaProviderError .transient response.statusCode)
            else .ok ⟨ref⟩
        | _ => .error (metaProviderError .metaProviderError .transient response.statusCode)
    | _ => .error (metaProviderError .metaProviderError .transient response.statusCode)

/-- `_send`. -/
def sendPayload {η : Type} [HttpxClient η] (config : MetaWhatsAppConfig) (timeoutSeconds : ℚ)
    (client : η) (recipient : UntrustedProviderUserRef) (payload : MetaPayload) :
    Except Exc ProviderOutboundMessage × η :=
  match HttpxMetaHttpClient.post client (request config timeoutSeconds recipient payload) with
  | (.error e, client) => (.error e, client)
  | (.ok response, client) => (sent loads response, client)

/-! ## The text of a message determines it -/

theorem buttonObject_injective : Function.Injective buttonObject := by
  intro b b' h
  simp only [buttonObject, Json.obj.injEq, List.cons.injEq, Prod.mk.injEq, Json.str.injEq, true_and,
    and_true] at h
  cases b
  cases b'
  simpa using h

theorem rowObject_injective : Function.Injective rowObject := by
  intro row row' h
  simp only [rowObject, Json.obj.injEq, List.cons_append, List.nil_append, List.cons.injEq,
    Prod.mk.injEq, Json.str.injEq, true_and] at h
  obtain ⟨hid, htitle, hdescription⟩ := h
  have hsame : row.description = row'.description := by
    cases hd : row.description with
    | none =>
        cases hd' : row'.description with
        | none => rfl
        | some _ =>
            rw [hd, hd'] at hdescription
            cases hdescription
    | some description =>
        cases hd' : row'.description with
        | none =>
            rw [hd, hd'] at hdescription
            cases hdescription
        | some description' =>
            rw [hd, hd'] at hdescription
            simp only [descriptionMember, List.cons.injEq, Prod.mk.injEq, Json.str.injEq, true_and,
              and_true] at hdescription
            rw [hdescription]
  cases row
  cases row'
  simp_all

theorem sectionObject_injective : Function.Injective sectionObject := by
  intro s s' h
  simp only [sectionObject, Json.obj.injEq, List.cons.injEq, Prod.mk.injEq, Json.str.injEq,
    Json.arr.injEq, true_and, and_true] at h
  obtain ⟨htitle, hrows⟩ := h
  have hrows := List.map_injective_iff.mpr rowObject_injective hrows
  cases s
  cases s'
  simp_all

theorem payloadMembers_injective : Function.Injective payloadMembers := by
  intro p p' h
  cases p with
  | text body =>
      cases p' with
      | text body' => simpa [payloadMembers] using h
      | buttons _ _ => simp [payloadMembers] at h
      | list _ _ _ => simp [payloadMembers] at h
  | buttons body buttons =>
      cases p' with
      | text _ => simp [payloadMembers] at h
      | buttons body' buttons' =>
          simp only [payloadMembers, List.cons.injEq, Prod.mk.injEq, Json.obj.injEq, Json.str.injEq,
            Json.arr.injEq, true_and, and_true] at h
          rw [h.1, List.map_injective_iff.mpr buttonObject_injective h.2]
      | list _ _ _ => simp [payloadMembers] at h
  | list body buttonLabel sections =>
      cases p' with
      | text _ => simp [payloadMembers] at h
      | buttons _ _ => simp [payloadMembers] at h
      | list body' buttonLabel' sections' =>
          simp only [payloadMembers, List.cons.injEq, Prod.mk.injEq, Json.obj.injEq, Json.str.injEq,
            Json.arr.injEq, true_and, and_true] at h
          obtain ⟨hbody, hlabel, hsections⟩ := h
          rw [hbody, hlabel, List.map_injective_iff.mpr sectionObject_injective hsections]

theorem requestBody_inj {recipient recipient' : UntrustedProviderUserRef}
    {payload payload' : MetaPayload} :
    requestBody recipient payload = requestBody recipient' payload' ↔
      recipient = recipient' ∧ payload = payload' := by
  constructor
  · intro h
    have hobject := Json.bytes_inj.mp h
    simp only [Json.obj.injEq, List.cons_append, List.nil_append, List.cons.injEq, Prod.mk.injEq,
      Json.str.injEq, true_and] at hobject
    refine ⟨?_, payloadMembers_injective hobject.2⟩
    cases recipient
    cases recipient'
    simpa using hobject.1
  · rintro ⟨rfl, rfl⟩
    rfl

/-! ## What is read of a response -/

/-- The `id` of the first message, if it is a text that is not empty. -/
def firstMessageId (parsed : JsonObject) : Option String :=
  match fieldOf parsed "messages" with
  | .arr (.obj message :: _) =>
      match fieldOf message "id" with
      | .str ref => if ref = "" then none else some ref
      | _ => none
  | _ => none

def readResponse (response : RawHttpResponse) : MetaHttpResponse where
  statusCode := response.statusCode
  errorCode := providerCode (responseObject loads response.body)
  firstMessageId := firstMessageId (responseObject loads response.body)

theorem firstMessageId_eq_some {parsed : JsonObject} {ref : String} :
    firstMessageId parsed = some ref ↔ ref ≠ "" ∧ ∃ message rest,
      fieldOf parsed "messages" = .arr (.obj message :: rest) ∧ fieldOf message "id" = .str ref := by
  unfold firstMessageId
  constructor
  · intro h
    split at h
    · next message rest hmessages =>
        split at h
        · next text hid =>
            split at h
            · cases h
            · next hgiven =>
                obtain rfl := Option.some.inj h
                exact ⟨hgiven, message, rest, hmessages, hid⟩
        · cases h
    · cases h
  · rintro ⟨hgiven, message, rest, hmessages, hid⟩
    simp [hmessages, hid, hgiven]

/-- Nothing else of the response counts. -/
theorem sent_eq (response : RawHttpResponse) :
    sent loads response = outboundMessage (readResponse loads response) := by
  unfold sent outboundMessage readResponse firstMessageId
  dsimp only
  split
  · rfl
  · split
    · split
      · split <;> rfl
      · rfl
    · rfl

end MetaWhatsAppOutboundAdapter

end XbosCustomerChannel
