import XbosCustomerChannel.Data.Traversal
import XbosCustomerChannel.Transports.Callback

/-!
# The grammar of callbacks

Which payloads are callbacks, what their messages and statuses are, and what each of them says, all by
the payload alone. The normalizer returns for the payloads of this grammar, with one result for each
message and each status, in their order.

A timestamp is an integer or decimal digits; the normalizer takes the two truth values for integers.
-/

namespace XbosCustomerChannel

open Data Data.JsonValue

namespace Callback

/-! ## Well-formed payloads -/

/-- An integer, or a text of decimal digits. -/
def IsEpoch (v : JsonValue) : Prop :=
  (∃ n, v = .int n) ∨ ∃ text, v = .str text ∧ PyInt.isDecimal text.toList

/-- The same, or a truth value. -/
def IsEpochOrBool (v : JsonValue) : Prop := IsEpoch v ∨ ∃ b, v = .bool b

/-- A text with a body, or a reply of one of the two kinds with an id and a title. -/
def HasContents (message : JsonObject) : Prop :=
  (fieldOf message "type" = .str "text" ∧
    (fieldOf message "text").IsObject fun contents => (fieldOf contents "body").IsText) ∨
  (fieldOf message "type" = .str "interactive" ∧
    (fieldOf message "interactive").IsObject fun interactive =>
      ∃ kind : InteractionKind, fieldOf interactive "type" = .str kind.value ∧
        (fieldOf interactive kind.value).IsObject fun reply =>
          (fieldOf reply "id").IsText ∧ (fieldOf reply "title").IsText)

/-- A message, with `T` for its timestamp. -/
structure IsMessage (T : JsonValue → Prop) (message : JsonObject) : Prop where
  id : (fieldOf message "id").IsText
  sender : (fieldOf message "from").IsText
  timestamp : T (fieldOf message "timestamp")
  context : ∀ context, message.lookup "context" = some context →
    context.IsObject fun context => (fieldOf context "id").IsText
  contents : HasContents message

/-- A status, with `T` for its timestamp. -/
structure IsStatus (T : JsonValue → Prop) (status : JsonObject) : Prop where
  id : (fieldOf status "id").IsText
  state : ∃ state : DeliveryState, fieldOf status "status" = .str state.value
  recipient : fieldOf status "recipient_id" = .null ∨ (fieldOf status "recipient_id").IsText
  errors : fieldOf status "errors" = .null ∨
    ∃ first later, fieldOf status "errors" = .arr (.obj first :: later)
  timestamp : T (fieldOf status "timestamp")

structure IsValue (T : JsonValue → Prop) (value : JsonObject) : Prop where
  phoneNumberId : (fieldOf value "metadata").IsObject fun metadata =>
    (fieldOf metadata "phone_number_id").IsText
  messages : (fieldOf value "messages").IsOptionalList (IsMessage T)
  statuses : (fieldOf value "statuses").IsOptionalList (IsStatus T)

structure IsChange (T : JsonValue → Prop) (change : JsonObject) : Prop where
  field : fieldOf change "field" = .str "messages"
  value : (fieldOf change "value").IsObject (IsValue T)

def IsEntry (T : JsonValue → Prop) (entry : JsonObject) : Prop :=
  (fieldOf entry "changes").IsList (IsChange T)

/-! ## What a payload consists of -/

/-- The metadata's phone number, if there is one. -/
def phoneNumberOf (value : JsonValue) : String :=
  match (value.get "metadata").get "phone_number_id" with
  | .str phoneNumberId => phoneNumberId
  | _ => ""

/-- The messages of a change, each with the phone number they came to. -/
def messagesOfChange (change : JsonObject) : List (String × JsonObject) :=
  ((fieldOf change "value").get "messages").objects.map (phoneNumberOf (fieldOf change "value"), ·)

def statusesOfChange (change : JsonObject) : List JsonObject :=
  ((fieldOf change "value").get "statuses").objects

def changesOf (entry : JsonObject) : List JsonObject := (fieldOf entry "changes").objects

def entriesOf (payload : JsonValue) : List JsonObject := (payload.get "entry").objects

/-- The messages of a payload, in their order. -/
def messagesOf (payload : JsonValue) : List (String × JsonObject) :=
  (entriesOf payload).flatMap fun entry => (changesOf entry).flatMap messagesOfChange

/-- The statuses of a payload, in their order. -/
def statusesOf (payload : JsonValue) : List JsonObject :=
  (entriesOf payload).flatMap fun entry => (changesOf entry).flatMap statusesOfChange

/-- The timestamps of all messages and statuses. -/
def timestampsOf (payload : JsonValue) : List JsonValue :=
  (messagesOf payload).map (fun message => fieldOf message.2 "timestamp") ++
    (statusesOf payload).map (fieldOf · "timestamp")

/-- A callback: an account object with entries of changes, and some message or status in them. -/
structure IsCallback (T : JsonValue → Prop) (payload : JsonValue) : Prop where
  account : payload.IsObject fun root =>
    fieldOf root "object" = .str "whatsapp_business_account" ∧
      (fieldOf root "entry").IsList (IsEntry T)
  given : messagesOf payload ≠ [] ∨ statusesOf payload ≠ []

/-! ## What a message and a status say -/

/-- The integer that a timestamp stands for. -/
def EpochOf [IntLimit] (v : JsonValue) (n : Int) : Prop :=
  int? v = some n ∨ ∃ text, v = .str text ∧ PyInt.isDecimal text.toList ∧
    PyInt.ofDecimal? IntLimit.maxStrDigits text.toList = some n

def ContextOf (message : JsonObject) : Option String → Prop
  | none => message.lookup "context" = none
  | some ref => ref ≠ "" ∧ ∃ context, message.lookup "context" = some (.obj context) ∧
      fieldOf context "id" = .str ref

structure ReplyOf (message : JsonObject) (reply : NormalizedInteractiveReply) : Prop where
  given : reply.replyId ≠ "" ∧ reply.title ≠ ""
  reply : ∃ interactive contents, fieldOf message "interactive" = .obj interactive ∧
    fieldOf interactive "type" = .str reply.kind.value ∧
    fieldOf interactive reply.kind.value = .obj contents ∧
    fieldOf contents "id" = .str reply.replyId ∧ fieldOf contents "title" = .str reply.title

/-- The contents of a message: its text or its reply. -/
def ContentsOf (message : JsonObject) : Option String → Option NormalizedInteractiveReply → Prop
  | some body, none => body ≠ "" ∧ fieldOf message "type" = .str "text" ∧
      ∃ contents, fieldOf message "text" = .obj contents ∧ fieldOf contents "body" = .str body
  | none, some reply => fieldOf message "type" = .str "interactive" ∧ ReplyOf message reply
  | _, _ => False

/-- `r` is the message that came to a phone number. -/
structure MessageOf [IntLimit] (message : String × JsonObject) (r : NormalizedInboundMessage) :
    Prop where
  id : fieldOf message.2 "id" = .str r.providerMessageRef
  given : r.providerMessageRef ≠ ""
  sender : fieldOf message.2 "from" = .str r.sender.value
  timestamp : EpochOf (fieldOf message.2 "timestamp") r.occurredAtEpoch
  context : ContextOf message.2 r.contextProviderMessageRef
  contents : ContentsOf message.2 r.text r.interactiveReply
  phoneNumberId : r.metadataPhoneNumberId = message.1

def RecipientOf (status : JsonObject) : Option UntrustedProviderUserRef → Prop
  | none => fieldOf status "recipient_id" = .null
  | some recipient => fieldOf status "recipient_id" = .str recipient.value

/-- The code of the first error, if it is an integer. -/
def ErrorCodeOf (status : JsonObject) (code : Option Int) : Prop :=
  (fieldOf status "errors" = .null ∧ code = none) ∨
    ∃ first later, fieldOf status "errors" = .arr (.obj first :: later) ∧
      code = int? (fieldOf first "code")

structure StatusOf [IntLimit] (status : JsonObject) (r : NormalizedDeliveryStatus) : Prop where
  id : fieldOf status "id" = .str r.providerMessageRef
  given : r.providerMessageRef ≠ ""
  state : fieldOf status "status" = .str r.state.value
  recipient : RecipientOf status r.recipient
  errorCode : ErrorCodeOf status r.errorCode
  timestamp : EpochOf (fieldOf status "timestamp") r.occurredAtEpoch

/-! ## What the parts accept -/

open Traversal

variable {v : JsonValue} {reason : String}

@[simp] theorem mapping_ok {entries : JsonObject} :
    mapping v reason = .ok entries ↔ v = .obj entries := by
  unfold mapping
  split
  · simp
  · next hnot => simpa using fun heq => hnot entries heq

@[simp] theorem sequence_ok {items : List JsonValue} :
    sequence v reason = .ok items ↔ v = .arr items ∧ items ≠ [] := by
  unfold sequence
  split
  · next found =>
    split
    · next hnil =>
      subst hnil
      simp
    · next hne =>
      simp only [Except.ok.injEq, JsonValue.arr.injEq, iff_self_and]
      rintro rfl
      exact hne
  · next hnot => simpa using fun heq => absurd heq (hnot items)

@[simp] theorem text_ok {t : String} : text v reason = .ok t ↔ v = .str t ∧ t ≠ "" := by
  unfold text
  split
  · next found =>
    split
    · next hempty =>
      subst hempty
      simp [eq_comm]
    · next hgiven =>
      simp only [Except.ok.injEq, JsonValue.str.injEq, iff_self_and]
      rintro rfl
      exact hgiven
  · next hnot => simpa using fun heq => absurd heq (hnot t)

@[simp] theorem userRef_ok {value : String} {ref : UntrustedProviderUserRef} :
    userRef value = .ok ref ↔ value = ref.value := by
  unfold userRef
  split
  · constructor
    · intro h
      rw [← Except.ok.inj h]
    · rintro rfl
      rfl
  · next hempty =>
    rw [not_not] at hempty
    simpa [hempty] using ref.given.symm

@[simp] theorem epoch_ok [IntLimit] {n : Int} : epoch v reason = .ok n ↔ EpochOf v n := by
  unfold epoch EpochOf
  cases hint : int? v with
  | some m =>
      have hnot : ∀ text, v ≠ .str text := by
        rintro text rfl
        cases hint
      simp [hnot]
  | none =>
      cases v with
      | str text =>
          simp only [reduceCtorEq, JsonValue.str.injEq, false_or]
          split
          · next hdecimal =>
            constructor
            · intro h
              refine ⟨text, rfl, hdecimal, ?_⟩
              split at h
              · next m hm => rw [hm, Except.ok.inj h]
              · cases h
            · rintro ⟨text', rfl, -, hvalue⟩
              rw [hvalue]
          · next hnot =>
            constructor
            · intro h
              cases h
            · rintro ⟨text', rfl, hdecimal, -⟩
              exact absurd hdecimal hnot
      | null => simp
      | bool => simp
      | int => simp
      | float => simp
      | arr => simp
      | obj => simp

theorem interactionKind_iff {value : String} {kind : InteractionKind} :
    InteractionKind.ofValue? value = some kind ↔ value = kind.value := by
  constructor
  · intro h
    have hfound := List.find?_some h
    exact (of_decide_eq_true hfound).symm
  · rintro rfl
    cases kind
    all_goals rfl

theorem deliveryState_iff {value : String} {state : DeliveryState} :
    DeliveryState.ofValue? value = some state ↔ value = state.value := by
  constructor
  · intro h
    have hfound := List.find?_some h
    exact (of_decide_eq_true hfound).symm
  · rintro rfl
    cases state
    all_goals rfl

@[simp] theorem deliveryState_ok {status : JsonObject} {state : DeliveryState} :
    deliveryState status = .ok state ↔ fieldOf status "status" = .str state.value := by
  unfold deliveryState
  constructor
  · intro h
    dsimp only at h
    split at h
    · next found hfound =>
      obtain rfl := Except.ok.inj h
      obtain ⟨value, hvalue, hstate⟩ := bind_eq_ok.mp hfound
      split at hstate
      · next known hknown =>
        obtain rfl := Except.ok.inj hstate
        rw [(text_ok.mp hvalue).1, deliveryState_iff.mp hknown]
      · cases hstate
    · split at h
      · cases h
      · cases h
  · intro h
    have hgiven : state.value ≠ "" := by
      cases state
      all_goals decide
    have hvalue : text (fieldOf status "status") "provider_status_missing" = .ok state.value :=
      text_ok.mpr ⟨h, hgiven⟩
    simp only [hvalue, bind, Except.bind, deliveryState_iff.mpr rfl, pure, Except.pure]

@[simp] theorem recipient_ok {status : JsonObject} {r : Option UntrustedProviderUserRef} :
    recipient status = .ok r ↔ RecipientOf status r := by
  unfold recipient RecipientOf
  split
  · next hnull =>
    cases r with
    | none => simp [hnull]
    | some ref => simp [hnull]
  · next hgiven =>
    simp only [bind_eq_ok, text_ok, userRef_ok]
    cases r with
    | none =>
        simp only [pure, Except.pure, Except.ok.injEq, reduceCtorEq, and_false, exists_false,
          false_iff]
        exact hgiven
    | some ref =>
        constructor
        · rintro ⟨value, ⟨hvalue, -⟩, ref', rfl, href⟩
          obtain rfl := Option.some.inj (Except.ok.inj href)
          exact hvalue
        · intro hvalue
          exact ⟨ref.value, ⟨hvalue, ref.given⟩, ref, rfl, rfl⟩

@[simp] theorem errorCode_ok {status : JsonObject} {code : Option Int} :
    errorCode status = .ok code ↔ ErrorCodeOf status code := by
  unfold errorCode ErrorCodeOf
  split
  · next hnull => simp [hnull, eq_comm]
  · next hgiven =>
    simp only [bind_eq_ok, sequence_ok]
    constructor
    · rintro ⟨items, ⟨hitems, hne⟩, hfirst⟩
      split at hfirst
      · cases hfirst
      · next first later =>
        obtain ⟨entries, hentries, hcode⟩ := bind_eq_ok.mp hfirst
        rw [mapping_ok.mp hentries] at hitems
        exact Or.inr ⟨entries, later, hitems, (Except.ok.inj hcode).symm⟩
    · rintro (⟨hnull, -⟩ | ⟨first, later, hitems, rfl⟩)
      · exact absurd hnull hgiven
      exact ⟨.obj first :: later, ⟨hitems, by simp⟩, rfl⟩

@[simp] theorem contextRef_ok {message : JsonObject} {ref : Option String} :
    contextRef message = .ok ref ↔ ContextOf message ref := by
  unfold contextRef ContextOf
  split
  · next habsent =>
    cases ref with
    | none => simp [habsent]
    | some ref => simp [habsent]
  · next context hcontext =>
    simp only [bind_eq_ok, mapping_ok, text_ok]
    cases ref with
    | none => simp [hcontext, pure, Except.pure]
    | some ref =>
        constructor
        · rintro ⟨entries, rfl, ref', ⟨hid, hgiven⟩, href⟩
          obtain rfl := Option.some.inj (Except.ok.inj href)
          exact ⟨hgiven, entries, hcontext, hid⟩
        · rintro ⟨hgiven, entries, hsame, hid⟩
          rw [hcontext] at hsame
          exact ⟨entries, Option.some.inj hsame, ref, ⟨hid, hgiven⟩, rfl⟩

@[simp] theorem interactiveReply_ok {message : JsonObject} {reply : NormalizedInteractiveReply} :
    interactiveReply message = .ok reply ↔ ReplyOf message reply := by
  unfold interactiveReply
  simp only [bind_eq_ok, mapping_ok, text_ok]
  constructor
  · rintro ⟨interactive, hinteractive, value, ⟨hvalue, -⟩, hreply⟩
    split at hreply
    · cases hreply
    · next kind hkind =>
      obtain rfl := interactionKind_iff.mp hkind
      simp only [bind_eq_ok, mapping_ok, text_ok] at hreply
      obtain ⟨contents, hcontents, id, ⟨hid, hidGiven⟩, title, ⟨htitle, htitleGiven⟩, hr⟩ := hreply
      obtain rfl := Except.ok.inj hr
      exact ⟨⟨hidGiven, htitleGiven⟩, interactive, contents, hinteractive, hvalue, hcontents, hid,
        htitle⟩
  · rintro ⟨⟨hidGiven, htitleGiven⟩, interactive, contents, hinteractive, hvalue, hcontents, hid,
      htitle⟩
    have hgiven : reply.kind.value ≠ "" := by
      cases reply.kind
      all_goals decide
    refine ⟨interactive, hinteractive, reply.kind.value, ⟨hvalue, hgiven⟩, ?_⟩
    rw [interactionKind_iff.mpr rfl]
    simp only [bind_eq_ok, mapping_ok, text_ok]
    exact ⟨contents, hcontents, _, ⟨hid, hidGiven⟩, _, ⟨htitle, htitleGiven⟩, rfl⟩

/-! ## Messages and statuses -/

/-- The normalizer returns what a message says. -/
theorem normalizeMessage_ok [IntLimit] {phoneNumberId : String} {message : JsonObject}
    {r : NormalizedInboundMessage} :
    normalizeMessage phoneNumberId message = .ok r ↔ MessageOf (phoneNumberId, message) r := by
  unfold normalizeMessage
  simp only [bind_eq_ok, text_ok, userRef_ok, epoch_ok, contextRef_ok]
  constructor
  · rintro ⟨ref, ⟨hid, hgiven⟩, senderValue, ⟨hfrom, -⟩, sender, rfl, epoch, hepoch, messageType,
      ⟨htype, -⟩, context, hcontext, hcontents⟩
    split at hcontents
    · next htext =>
      simp only [bind_eq_ok, mapping_ok, text_ok] at hcontents
      obtain ⟨contents, hcontents, body, ⟨hbody, hbodyGiven⟩, hr⟩ := hcontents
      obtain rfl := Except.ok.inj hr
      rw [htext] at htype
      exact ⟨hid, hgiven, hfrom, hepoch, hcontext, ⟨hbodyGiven, htype, contents, hcontents, hbody⟩, rfl⟩
    split at hcontents
    · cases hcontents
    · next hinteractive =>
      simp only [bind_eq_ok, interactiveReply_ok] at hcontents
      obtain ⟨reply, hreply, hr⟩ := hcontents
      obtain rfl := Except.ok.inj hr
      rw [not_not.mp hinteractive] at htype
      exact ⟨hid, hgiven, hfrom, hepoch, hcontext, ⟨htype, hreply⟩, rfl⟩
  · rintro ⟨hid, hgiven, hfrom, hepoch, hcontext, hcontents, rfl⟩
    obtain ⟨ref, sender, epoch, body, reply, context, phoneNumberId⟩ := r
    refine ⟨ref, ⟨hid, hgiven⟩, sender.value, ⟨hfrom, sender.given⟩, sender, rfl, epoch, hepoch, ?_⟩
    cases body with
    | some body =>
        cases reply with
        | some reply => exact hcontents.elim
        | none =>
            obtain ⟨hbodyGiven, htype, contents, hcontents, hbody⟩ := hcontents
            refine ⟨"text", ⟨htype, by decide⟩, context, hcontext, ?_⟩
            rw [if_pos rfl]
            simp only [bind_eq_ok, mapping_ok, text_ok]
            exact ⟨contents, hcontents, body, ⟨hbody, hbodyGiven⟩, rfl⟩
    | none =>
        cases reply with
        | none => exact hcontents.elim
        | some reply =>
            obtain ⟨htype, hreply⟩ := hcontents
            refine ⟨"interactive", ⟨htype, by decide⟩, context, hcontext, ?_⟩
            rw [if_neg (by decide), if_neg (by decide)]
            simp only [bind_eq_ok, interactiveReply_ok]
            exact ⟨reply, hreply, rfl⟩

theorem normalizeStatus_ok [IntLimit] {status : JsonObject} {r : NormalizedDeliveryStatus} :
    normalizeStatus status = .ok r ↔ StatusOf status r := by
  unfold normalizeStatus
  simp only [bind_eq_ok, text_ok, deliveryState_ok, recipient_ok, errorCode_ok, epoch_ok]
  constructor
  · rintro ⟨ref, ⟨hid, hgiven⟩, state, hstate, recipient, hrecipient, code, hcode, epoch, hepoch, hr⟩
    obtain rfl := Except.ok.inj hr
    exact ⟨hid, hgiven, hstate, hrecipient, hcode, hepoch⟩
  · rintro ⟨hid, hgiven, hstate, hrecipient, hcode, hepoch⟩
    exact ⟨_, ⟨hid, hgiven⟩, _, hstate, _, hrecipient, _, hcode, _, hepoch, rfl⟩

/-- A timestamp that is converted. -/
def Converts [IntLimit] (v : JsonValue) : Prop := ∃ n, EpochOf v n

theorem exists_contextOf {message : JsonObject} :
    (∃ ref, ContextOf message ref) ↔ ∀ context, message.lookup "context" = some context →
      context.IsObject fun context => (fieldOf context "id").IsText := by
  constructor
  · rintro ⟨ref, href⟩ context hcontext
    cases ref with
    | none =>
        rw [show message.lookup "context" = none from href] at hcontext
        cases hcontext
    | some ref =>
        obtain ⟨hgiven, entries, hsame, hid⟩ := href
        rw [hcontext] at hsame
        exact ⟨entries, Option.some.inj hsame, ref, hid, hgiven⟩
  · intro h
    cases hcontext : message.lookup "context" with
    | none => exact ⟨none, hcontext⟩
    | some context =>
        obtain ⟨entries, rfl, ref, hid, hgiven⟩ := h context hcontext
        exact ⟨some ref, hgiven, entries, hcontext, hid⟩

theorem exists_contentsOf {message : JsonObject} :
    (∃ body reply, ContentsOf message body reply) ↔ HasContents message := by
  constructor
  · rintro ⟨body, reply, h⟩
    cases body with
    | some body =>
        cases reply with
        | some reply => exact h.elim
        | none =>
            obtain ⟨hgiven, htype, contents, hcontents, hbody⟩ := h
            exact Or.inl ⟨htype, contents, hcontents, body, hbody, hgiven⟩
    | none =>
        cases reply with
        | none => exact h.elim
        | some reply =>
            obtain ⟨htype, ⟨hid, htitle⟩, interactive, contents, hinteractive, hkind, hcontents, hidOf,
              htitleOf⟩ := h
            exact Or.inr ⟨htype, interactive, hinteractive, reply.kind, hkind, contents, hcontents,
              ⟨_, hidOf, hid⟩, _, htitleOf, htitle⟩
  · rintro (⟨htype, contents, hcontents, body, hbody, hgiven⟩ |
      ⟨htype, interactive, hinteractive, kind, hkind, contents, hcontents, ⟨id, hidOf, hid⟩, title,
        htitleOf, htitle⟩)
    · exact ⟨some body, none, hgiven, htype, contents, hcontents, hbody⟩
    · exact ⟨none, some ⟨kind, id, title⟩, htype, ⟨hid, htitle⟩, interactive, contents, hinteractive,
        hkind, hcontents, hidOf, htitleOf⟩

/-- A message says something if it is one. -/
theorem exists_messageOf [IntLimit] {phoneNumberId : String} {message : JsonObject} :
    (∃ r, MessageOf (phoneNumberId, message) r) ↔ IsMessage Converts message := by
  constructor
  · rintro ⟨r, hid, hgiven, hfrom, hepoch, hcontext, hcontents, -⟩
    exact ⟨⟨_, hid, hgiven⟩, ⟨_, hfrom, r.sender.given⟩, ⟨_, hepoch⟩, exists_contextOf.mp ⟨_, hcontext⟩,
      exists_contentsOf.mp ⟨_, _, hcontents⟩⟩
  · rintro ⟨⟨ref, hid, hgiven⟩, ⟨sender, hfrom, hsender⟩, ⟨epoch, hepoch⟩, hcontext, hcontents⟩
    obtain ⟨context, hcontext⟩ := exists_contextOf.mpr hcontext
    obtain ⟨body, reply, hcontents⟩ := exists_contentsOf.mpr hcontents
    exact ⟨⟨ref, ⟨sender, hsender⟩, epoch, body, reply, context, phoneNumberId⟩, hid, hgiven, hfrom,
      hepoch, hcontext, hcontents, rfl⟩

theorem exists_recipientOf {status : JsonObject} : (∃ r, RecipientOf status r) ↔
    fieldOf status "recipient_id" = .null ∨ (fieldOf status "recipient_id").IsText := by
  constructor
  · rintro ⟨r, h⟩
    cases r with
    | none => exact Or.inl h
    | some ref => exact Or.inr ⟨_, h, ref.given⟩
  · rintro (h | ⟨value, h, hgiven⟩)
    · exact ⟨none, h⟩
    · exact ⟨some ⟨value, hgiven⟩, h⟩

theorem exists_errorCodeOf {status : JsonObject} : (∃ code, ErrorCodeOf status code) ↔
    fieldOf status "errors" = .null ∨
      ∃ first later, fieldOf status "errors" = .arr (.obj first :: later) := by
  constructor
  · rintro ⟨code, ⟨h, -⟩ | ⟨first, later, h, -⟩⟩
    · exact Or.inl h
    · exact Or.inr ⟨first, later, h⟩
  · rintro (h | ⟨first, later, h⟩)
    · exact ⟨none, Or.inl ⟨h, rfl⟩⟩
    · exact ⟨_, Or.inr ⟨first, later, h, rfl⟩⟩

theorem exists_statusOf [IntLimit] {status : JsonObject} :
    (∃ r, StatusOf status r) ↔ IsStatus Converts status := by
  constructor
  · rintro ⟨r, hid, hgiven, hstate, hrecipient, hcode, hepoch⟩
    exact ⟨⟨_, hid, hgiven⟩, ⟨_, hstate⟩, exists_recipientOf.mp ⟨_, hrecipient⟩,
      exists_errorCodeOf.mp ⟨_, hcode⟩, _, hepoch⟩
  · rintro ⟨⟨ref, hid, hgiven⟩, ⟨state, hstate⟩, hrecipient, herrors, epoch, hepoch⟩
    obtain ⟨recipient, hrecipient⟩ := exists_recipientOf.mpr hrecipient
    obtain ⟨code, hcode⟩ := exists_errorCodeOf.mpr herrors
    exact ⟨⟨ref, state, epoch, recipient, code⟩, hid, hgiven, hstate, hrecipient, hcode, hepoch⟩

end Callback

end XbosCustomerChannel
