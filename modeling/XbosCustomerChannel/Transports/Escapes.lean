import XbosCustomerChannel.Transports.Acceptance
import XbosCustomerChannel.Transports.Inbound

/-!
# What escapes the webhook

The webhook declares three rejections. Two kinds of exceptions escape them: the comparison of a text
that is not ASCII, and `int` of more digits than the interpreter reads.
-/

namespace XbosCustomerChannel

open Data Data.JsonValue Data.Traversal

/-- The rejections that are declared. -/
def declared : List ExcClass :=
  [.missingWebhookSignature, .invalidWebhookSignature, .providerPayloadRejected]

/-- An exception of any other class is raised. -/
def Escapes {α : Type} (r : Except Exc α) : Prop := ∃ e, r = .error e ∧ e.cls ∉ declared

section Escapes

variable {α β : Type}

@[simp] theorem escapes_ok (a : α) : ¬ Escapes (.ok a : Except Exc α) := by
  rintro ⟨e, h, -⟩
  cases h

@[simp] theorem escapes_pure (a : α) : ¬ Escapes (pure a : Except Exc α) := escapes_ok a

@[simp] theorem escapes_error {e : Exc} :
    Escapes (.error e : Except Exc α) ↔ e.cls ∉ declared := by
  constructor
  · rintro ⟨e', h, he⟩
    rwa [Except.error.inj h]
  · intro h
    exact ⟨e, rfl, h⟩

@[simp] theorem rejected_declared (reason : String) :
    (Callback.rejected reason).cls ∈ declared := by
  simp [Callback.rejected, declared]

theorem escapes_rejected (reason : String) :
    ¬ Escapes (.error (Callback.rejected reason) : Except Exc α) := by
  simp

/-- The declared rejections are value errors. -/
theorem caughtBy_of_declared {e : Exc} (h : e.cls ∈ declared) : e.caughtBy [.valueError] = true := by
  have hall : ∀ cls ∈ declared, [ExcClass.valueError].any cls.isA = true := by decide
  exact hall e.cls h

theorem escapes_bind {x : Except Exc α} {f : α → Except Exc β} :
    Escapes (x >>= f) ↔ Escapes x ∨ ∃ a, x = .ok a ∧ Escapes (f a) := by
  cases x with
  | ok a => simp [bind, Except.bind]
  | error e => simp [bind, Except.bind]

@[simp] theorem escapes_map {f : α → β} {x : Except Exc α} : Escapes (f <$> x) ↔ Escapes x := by
  cases x with
  | ok a => simp [Functor.map, Except.map]
  | error e => simp [Functor.map, Except.map]

/-- An exception escapes a traversal if it escapes the first item that is not gone through. -/
theorem escapes_mapM {f : α → Except Exc β} {xs : List α} :
    Escapes (xs.mapM f) ↔ FirstOf (fun x => ∃ y, f x = .ok y) (fun x => Escapes (f x)) xs := by
  constructor
  · rintro ⟨e, h, he⟩
    exact (mapM_eq_error.mp h).imp (fun _ hx => hx) fun x hx => ⟨e, hx, he⟩
  · rintro ⟨earlier, x, later, hxs, hearlier, e, hx, he⟩
    exact ⟨e, mapM_eq_error.mpr ⟨earlier, x, later, hxs, hearlier, hx⟩, he⟩

end Escapes

namespace Callback

/-! ## Parts of a payload -/

section Parts

variable {v : JsonValue} {reason : String}

@[simp] theorem escapes_mapping : ¬ Escapes (mapping v reason) := by
  unfold mapping
  split
  · apply escapes_ok
  · apply escapes_rejected

@[simp] theorem escapes_sequence : ¬ Escapes (sequence v reason) := by
  unfold sequence
  split
  · split
    · apply escapes_rejected
    · apply escapes_ok
  · apply escapes_rejected

@[simp] theorem escapes_optionalSequence : ¬ Escapes (optionalSequence v reason) := by
  unfold optionalSequence
  split
  · apply escapes_ok
  · apply escapes_sequence

@[simp] theorem escapes_text : ¬ Escapes (text v reason) := by
  unfold text
  split
  · split
    · apply escapes_rejected
    · apply escapes_ok
  · apply escapes_rejected

@[simp] theorem escapes_userRef {value : String} : ¬ Escapes (userRef value) := by
  unfold userRef
  split
  · apply escapes_ok
  · apply escapes_rejected

/-- Decimal digits that are too many for `int`. -/
def Overlong [IntLimit] (v : JsonValue) : Prop :=
  ∃ text, v = .str text ∧ PyInt.isDecimal text.toList ∧
    PyInt.ofDecimal? IntLimit.maxStrDigits text.toList = none

@[simp] theorem escapes_epoch [IntLimit] : Escapes (epoch v reason) ↔ Overlong v := by
  unfold epoch Overlong
  cases v with
  | str text =>
      simp only [int?, JsonValue.str.injEq, exists_eq_left']
      split
      · next hdecimal =>
        split
        · next n hn => simp [hn]
        · next hn =>
          simp only [hdecimal, hn, and_self, iff_true, escapes_error]
          simp [tooManyDigits, declared]
      · next hdecimal => simp [hdecimal]
  | bool b => simp [int?]
  | int n => simp [int?]
  | null => simp [int?]
  | float => simp [int?]
  | arr => simp [int?]
  | obj => simp [int?]

@[simp] theorem escapes_contextRef {message : JsonObject} : ¬ Escapes (contextRef message) := by
  unfold contextRef
  split
  · apply escapes_ok
  · simp [escapes_bind]

@[simp] theorem escapes_interactiveReply {message : JsonObject} :
    ¬ Escapes (interactiveReply message) := by
  unfold interactiveReply
  simp only [escapes_bind, escapes_mapping, escapes_text, false_or, not_exists, not_and]
  rintro interactive - value -
  split
  · apply escapes_rejected
  · simp [escapes_bind]

@[simp] theorem escapes_deliveryState {status : JsonObject} : ¬ Escapes (deliveryState status) := by
  unfold deliveryState
  dsimp only
  split
  · apply escapes_ok
  · next e he =>
    split
    · apply escapes_rejected
    · next huncaught =>
      -- Whatever fails here is a value error.
      refine absurd ?_ huncaught
      rcases bind_eq_error.mp he with htext | ⟨value, -, hvalue⟩
      · apply caughtBy_of_declared
        by_contra hother
        exact escapes_text ⟨e, htext, hother⟩
      · split at hvalue
        · cases hvalue
        · obtain rfl := Except.error.inj hvalue
          rfl

@[simp] theorem escapes_recipient {status : JsonObject} : ¬ Escapes (recipient status) := by
  unfold recipient
  split
  · apply escapes_ok
  · simp [escapes_bind]

/-- A list of errors is not empty, and so has a first one. -/
@[simp] theorem escapes_errorCode {status : JsonObject} : ¬ Escapes (errorCode status) := by
  unfold errorCode
  split
  · apply escapes_ok
  · simp only [escapes_bind, escapes_sequence, false_or, not_exists, not_and, sequence_ok]
    rintro items ⟨-, hne⟩
    split
    · exact absurd rfl hne
    · simp

end Parts

/-! ## Lists of objects -/

/-- A list of objects of which the first that is not `good` is `bad`. -/
def HasFirst (good bad : JsonObject → Prop) (v : JsonValue) : Prop :=
  ∃ items, v = .arr items ∧ FirstOf (·.IsObject good) (·.IsObject bad) items

theorem escapes_items {β : Type} {f : JsonValue → Except Exc β} {good bad : JsonObject → Prop}
    (hgood : ∀ item, (∃ y, f item = .ok y) ↔ item.IsObject good)
    (hbad : ∀ item, Escapes (f item) ↔ item.IsObject bad) (items : List JsonValue) :
    Escapes (items.mapM f) ↔ FirstOf (·.IsObject good) (·.IsObject bad) items := by
  rw [escapes_mapM]
  exact firstOf_congr hgood hbad

theorem hasFirst_iff {v : JsonValue} {reason : String} {good bad : JsonObject → Prop} :
    (∃ items, sequence v reason = .ok items ∧
      FirstOf (·.IsObject good) (·.IsObject bad) items) ↔ HasFirst good bad v := by
  simp only [sequence_ok]
  constructor
  · rintro ⟨items, ⟨hitems, -⟩, hfirst⟩
    exact ⟨items, hitems, hfirst⟩
  · rintro ⟨items, hitems, earlier, x, later, rfl, hfirst⟩
    exact ⟨_, ⟨hitems, by simp⟩, earlier, x, later, rfl, hfirst⟩

theorem hasFirst_optional_iff {v : JsonValue} {reason : String} {good bad : JsonObject → Prop} :
    (∃ items, optionalSequence v reason = .ok items ∧
      FirstOf (·.IsObject good) (·.IsObject bad) items) ↔ HasFirst good bad v := by
  constructor
  · rintro ⟨items, hitems, hfirst⟩
    rcases optionalSequence_ok.mp hitems with ⟨-, rfl⟩ | ⟨hv, -⟩
    · obtain ⟨earlier, x, later, h, -⟩ := hfirst
      simp at h
    · exact ⟨items, hv, hfirst⟩
  · rintro ⟨items, hitems, earlier, x, later, rfl, hfirst⟩
    exact ⟨_, optionalSequence_ok.mpr (Or.inr ⟨hitems, by simp⟩), earlier, x, later, rfl, hfirst⟩

/-! ## Messages and statuses -/

section Normalizer

variable [IntLimit]

/-- The timestamp of a message is too long, and nothing before it is wrong. -/
structure OverlongMessage (message : JsonObject) : Prop where
  id : (fieldOf message "id").IsText
  sender : (fieldOf message "from").IsText
  timestamp : Overlong (fieldOf message "timestamp")

theorem escapes_normalizeMessage {phoneNumberId : String} {message : JsonObject} :
    Escapes (normalizeMessage phoneNumberId message) ↔ OverlongMessage message := by
  unfold normalizeMessage
  simp only [escapes_bind, escapes_text, escapes_userRef, escapes_epoch, escapes_contextRef, text_ok,
    userRef_ok, false_or]
  constructor
  · rintro ⟨ref, hid, senderValue, hfrom, sender, -, htimestamp | ⟨epoch, -, messageType, -, context, -,
      hcontents⟩⟩
    · exact ⟨⟨ref, hid⟩, ⟨senderValue, hfrom⟩, htimestamp⟩
    · -- what follows the timestamp only rejects
      split at hcontents
      · simp [escapes_bind] at hcontents
      split at hcontents
      · simp at hcontents
      · simp at hcontents
  · rintro ⟨⟨ref, hid⟩, ⟨senderValue, hfrom, hgiven⟩, htimestamp⟩
    exact ⟨ref, hid, senderValue, ⟨hfrom, hgiven⟩, ⟨senderValue, hgiven⟩, rfl, Or.inl htimestamp⟩

/-- The timestamp of a status is read last. -/
theorem escapes_normalizeStatus {status : JsonObject} :
    Escapes (normalizeStatus status) ↔ IsStatus Overlong status := by
  unfold normalizeStatus
  simp only [escapes_bind, escapes_text, escapes_deliveryState, escapes_recipient, escapes_errorCode,
    escapes_epoch, escapes_pure, text_ok, deliveryState_ok, recipient_ok, errorCode_ok, false_or,
    and_false, exists_false, or_false]
  constructor
  · rintro ⟨ref, hid, state, hstate, recipient, hrecipient, code, hcode, htimestamp⟩
    exact ⟨⟨ref, hid⟩, ⟨state, hstate⟩, exists_recipientOf.mp ⟨_, hrecipient⟩,
      exists_errorCodeOf.mp ⟨_, hcode⟩, htimestamp⟩
  · rintro ⟨⟨ref, hid⟩, ⟨state, hstate⟩, hrecipient, herrors, htimestamp⟩
    obtain ⟨recipient, hrecipient⟩ := exists_recipientOf.mpr hrecipient
    obtain ⟨code, hcode⟩ := exists_errorCodeOf.mpr herrors
    exact ⟨ref, hid, state, hstate, recipient, hrecipient, code, hcode, htimestamp⟩

/-! ## Changes, entries and payloads -/

/-- The first thing wrong with a value, whose messages are read before its statuses, is a timestamp of
too many digits. -/
structure OverlongValue (value : JsonObject) : Prop where
  phoneNumberId : (fieldOf value "metadata").IsObject fun metadata =>
    (fieldOf metadata "phone_number_id").IsText
  item : HasFirst (IsMessage Converts) OverlongMessage (fieldOf value "messages") ∨
    (fieldOf value "messages").IsOptionalList (IsMessage Converts) ∧
      HasFirst (IsStatus Converts) (IsStatus Overlong) (fieldOf value "statuses")

structure OverlongChange (change : JsonObject) : Prop where
  field : fieldOf change "field" = .str "messages"
  value : (fieldOf change "value").IsObject OverlongValue

def OverlongEntry (entry : JsonObject) : Prop :=
  HasFirst (IsChange Converts) OverlongChange (fieldOf entry "changes")

/-- The first thing wrong with a payload is a timestamp of too many digits. -/
def OverlongFirst (payload : JsonValue) : Prop :=
  payload.IsObject fun root => fieldOf root "object" = .str "whatsapp_business_account" ∧
    HasFirst (IsEntry Converts) OverlongEntry (fieldOf root "entry")

theorem escapes_messageItem (reason phoneNumberId : String) (item : JsonValue) :
    Escapes (do
      let message ← mapping item reason
      normalizeMessage phoneNumberId message) ↔ item.IsObject OverlongMessage := by
  simp only [escapes_bind, escapes_mapping, false_or, mapping_ok, escapes_normalizeMessage]
  rfl

theorem escapes_statusItem (reason : String) (item : JsonValue) :
    Escapes (do
      let status ← mapping item reason
      normalizeStatus status) ↔ item.IsObject (IsStatus Overlong) := by
  simp only [escapes_bind, escapes_mapping, false_or, mapping_ok, escapes_normalizeStatus]
  rfl

theorem escapes_normalizeChange (item : JsonValue) :
    Escapes (normalizeChange item) ↔ item.IsObject OverlongChange := by
  unfold normalizeChange
  simp only [escapes_bind, escapes_mapping, false_or, mapping_ok]
  apply exists_congr
  intro change
  apply and_congr_right
  rintro -
  split
  · next hfield =>
    simp only [escapes_bind, escapes_mapping, escapes_text, escapes_optionalSequence, escapes_pure,
      false_or, mapping_ok, text_ok, and_false, exists_false, or_false,
      escapes_items (messageItem_accepted _ _) (escapes_messageItem _ _),
      escapes_items (statusItem_accepted _) (escapes_statusItem _), hasFirst_optional_iff]
    constructor
    · rintro ⟨value, hvalue, metadata, hmetadata, phoneNumberId, hphone, items, hitems, hfirst |
        ⟨messages, hmessages, hfirst⟩⟩
      · exact ⟨hfield, value, hvalue, ⟨metadata, hmetadata, phoneNumberId, hphone⟩,
          Or.inl (hasFirst_optional_iff.mp ⟨items, hitems, hfirst⟩)⟩
      · have hlist := (optionalSequence_accepted _ (messageItem_accepted _ _)).mp
          ⟨items, hitems, messages, hmessages⟩
        exact ⟨hfield, value, hvalue, ⟨metadata, hmetadata, phoneNumberId, hphone⟩,
          Or.inr ⟨hlist, hfirst⟩⟩
    · rintro ⟨-, value, hvalue, ⟨metadata, hmetadata, phoneNumberId, hphone⟩, hfirst |
        ⟨hlist, hfirst⟩⟩
      · obtain ⟨items, hitems, hfirst⟩ := hasFirst_optional_iff.mpr hfirst
        exact ⟨value, hvalue, metadata, hmetadata, phoneNumberId, hphone, items, hitems,
          Or.inl hfirst⟩
      · obtain ⟨items, hitems, messages, hmessages⟩ :=
          (optionalSequence_accepted "provider_messages_invalid"
            (messageItem_accepted "provider_message_invalid" phoneNumberId)).mpr hlist
        exact ⟨value, hvalue, metadata, hmetadata, phoneNumberId, hphone, items, hitems,
          Or.inr ⟨messages, hmessages, hfirst⟩⟩
  · next hother =>
    simp only [escapes_rejected, false_iff]
    intro h
    exact hother h.field

theorem escapes_normalizeEntry (item : JsonValue) :
    Escapes (normalizeEntry item) ↔ item.IsObject OverlongEntry := by
  unfold normalizeEntry
  simp only [escapes_bind, escapes_mapping, escapes_sequence, escapes_pure, false_or, mapping_ok,
    and_false, exists_false, or_false,
    escapes_items normalizeChange_accepted escapes_normalizeChange, hasFirst_iff]
  rfl

/-- An exception escapes the normalizer for these payloads. -/
theorem escapes_normalizeProviderCallback (payload : JsonValue) :
    Escapes (normalizeProviderCallback payload) ↔ OverlongFirst payload := by
  unfold normalizeProviderCallback
  simp only [escapes_bind, escapes_mapping, false_or, mapping_ok]
  apply exists_congr
  intro root
  apply and_congr_right
  rintro -
  split
  · next hobject =>
    simp only [escapes_bind, escapes_sequence, escapes_rejected, escapes_pure, apply_ite Escapes, ite_self,
      false_or, and_false, exists_false, or_false, hobject, true_and,
      escapes_items normalizeEntry_accepted escapes_normalizeEntry, hasFirst_iff]
  · next hother =>
    simp only [escapes_rejected, false_iff]
    rintro ⟨hobject, -⟩
    exact hother hobject

end Normalizer

end Callback

/-! ## The webhook -/

namespace MetaWhatsAppInboundAdapter

/-- The comparison of two texts fails unless both are ASCII. -/
theorem escapes_compareDigest {a b : List Char} :
    Escapes (HmacEntryTokenCodec.compareDigest a b) ↔ ¬ (Text.isAscii a ∧ Text.isAscii b) := by
  unfold HmacEntryTokenCodec.compareDigest
  split
  · next hascii => simp [hascii]
  · next hascii =>
    simp only [escapes_error, hascii, not_false_eq_true, iff_true]
    decide

theorem escapes_verifySubscription {config : MetaWhatsAppConfig}
    {mode verifyToken challenge : Option String} :
    Escapes (verifySubscription config mode verifyToken challenge) ↔
      ∃ token given, mode = some "subscribe" ∧ verifyToken = some token ∧ challenge = some given ∧
        ¬ (Text.isAscii config.verificationToken.toList ∧ Text.isAscii token.toList) := by
  unfold verifySubscription
  split
  · next token given =>
    split
    · next hmode => simp [hmode]
    · next hmode =>
      rw [not_not] at hmode
      simp only [escapes_bind, escapes_compareDigest, apply_ite Escapes, escapes_pure, ite_self,
        and_false, exists_false, or_false, hmode, Option.some.injEq, true_and, exists_eq_left',
        exists_and_left]
  · next hmissing =>
    simp only [escapes_ok, false_iff]
    rintro ⟨token, given, -, rfl, rfl, -⟩
    exact hmissing token given rfl rfl

/-- A subscription is answered with nothing or with its challenge. -/
theorem verifySubscription_ok {config : MetaWhatsAppConfig}
    {mode verifyToken challenge answer : Option String}
    (h : verifySubscription config mode verifyToken challenge = .ok answer) :
    answer = none ∨ answer = challenge := by
  unfold verifySubscription at h
  split at h
  · split at h
    · exact Or.inl (Except.ok.inj h).symm
    · obtain ⟨genuine, -, h⟩ := bind_eq_ok.mp h
      split at h
      · exact Or.inl (Except.ok.inj h).symm
      · exact Or.inr (Except.ok.inj h).symm
  · exact Or.inl (Except.ok.inj h).symm

/-- There is no other failure than the comparison's. -/
theorem verifySubscription_error {config : MetaWhatsAppConfig}
    {mode verifyToken challenge : Option String} {e : Exc}
    (h : verifySubscription config mode verifyToken challenge = .error e) :
    Escapes (verifySubscription config mode verifyToken challenge) := by
  refine ⟨e, h, ?_⟩
  unfold verifySubscription at h
  split at h
  · split at h
    · cases h
    · rcases bind_eq_error.mp h with hcompare | ⟨genuine, -, h⟩
      · unfold HmacEntryTokenCodec.compareDigest at hcompare
        split at hcompare
        · cases hcompare
        · obtain rfl := Except.error.inj hcompare
          decide
      · split at h
        · cases h
        · cases h
  · cases h

section Webhook

variable [Hmac]

theorem escapes_verifySignature {config : MetaWhatsAppConfig} {rawBody : List UInt8}
    {signature : Option String} :
    Escapes (verifySignature config rawBody signature) ↔
      ∃ supplied, signature = some ("sha256=" ++ supplied) ∧ ¬ Text.isAscii supplied.toList := by
  cases signature with
  | none => simp [verifySignature, declared]
  | some signature =>
      cases hpfx : Text.afterPrefix "sha256=" signature with
      | none =>
          simp only [verifySignature, hpfx, escapes_error, Option.some.injEq]
          constructor
          · intro h
            simp [invalidSignature, declared] at h
          · rintro ⟨supplied, rfl, -⟩
            rw [Text.afterPrefix_append] at hpfx
            cases hpfx
      | some supplied =>
          obtain rfl := Text.afterPrefix_eq_some.mp hpfx
          have hinvalid : ¬ Escapes (.error invalidSignature : Except Exc Unit) := by
            simp [invalidSignature, declared]
          simp only [verifySignature, Text.afterPrefix_append, escapes_bind, escapes_compareDigest,
            expectedDigest_isAscii, true_and, apply_ite Escapes, hinvalid, escapes_pure, ite_self,
            and_false, exists_false, or_false, Option.some.injEq, String.append_right_inj,
            exists_eq_left']

variable [IntLimit]

theorem escapes_received {loads : String → Option JsonValue} {config : MetaWhatsAppConfig}
    {rawBody : List UInt8} {signature : Option String} :
    Escapes (received loads config rawBody signature) ↔
      (∃ supplied, signature = some ("sha256=" ++ supplied) ∧ ¬ Text.isAscii supplied.toList) ∨
        signature = some (signatureOf config rawBody) ∧ ∃ text payload,
          decodeBody rawBody = some text ∧ loads text = some payload ∧
            Callback.OverlongFirst payload := by
  rw [received_eq, escapes_bind, escapes_verifySignature]
  apply or_congr_right
  simp only [verifySignature_ok, exists_const]
  apply and_congr_right
  rintro -
  cases decodeBody rawBody with
  | none => simp
  | some text =>
      cases hloads : loads text with
      | none => simp [hloads]
      | some payload => simp [hloads, Callback.escapes_normalizeProviderCallback]

/-- The webhook fails by declared rejections, and parses what carries its signature, unless a text that
is compared is not ASCII or the first thing wrong with a signed callback is a timestamp of too many
digits. -/
theorem rejections_declared_iff (config : MetaWhatsAppConfig) (loads : String → Option JsonValue)
    (rawBody : List UInt8) (signature mode verifyToken challenge : Option String) :
    (¬ Escapes (received loads config rawBody signature) ∧
      (∃ answer, verifySubscription config mode verifyToken challenge = .ok answer ∧
        (answer = none ∨ answer = challenge)) ∧
      (receive config rawBody signature).Uses fun _ =>
        signature = some (signatureOf config rawBody)) ↔
    (∀ supplied, signature = some ("sha256=" ++ supplied) → Text.isAscii supplied.toList) ∧
      (signature = some (signatureOf config rawBody) → ∀ text payload,
        decodeBody rawBody = some text → loads text = some payload →
          ¬ Callback.OverlongFirst payload) ∧
      (∀ token given, mode = some "subscribe" → verifyToken = some token → challenge = some given →
        Text.isAscii config.verificationToken.toList ∧ Text.isAscii token.toList) := by
  have huses := (receive_uses config rawBody signature).mono fun _ h => h.1
  have hanswered : (∃ answer, verifySubscription config mode verifyToken challenge = .ok answer ∧
      (answer = none ∨ answer = challenge)) ↔
      ¬ Escapes (verifySubscription config mode verifyToken challenge) := by
    constructor
    · rintro ⟨answer, h, -⟩
      rw [h]
      exact escapes_ok answer
    · intro h
      cases hresult : verifySubscription config mode verifyToken challenge with
      | ok answer => exact ⟨answer, rfl, verifySubscription_ok hresult⟩
      | error e => exact absurd (verifySubscription_error hresult) h
  rw [hanswered, escapes_received, escapes_verifySubscription, not_or]
  constructor
  · rintro ⟨⟨hsignature, hbody⟩, htoken, -⟩
    refine ⟨?_, ?_, ?_⟩
    · intro supplied hsupplied
      by_contra hascii
      exact hsignature ⟨supplied, hsupplied, hascii⟩
    · intro hsigned text payload htext hpayload hoverlong
      exact hbody ⟨hsigned, text, payload, htext, hpayload, hoverlong⟩
    · intro token given hmode hverifyToken hchallenge
      by_contra hascii
      exact htoken ⟨token, given, hmode, hverifyToken, hchallenge, hascii⟩
  · rintro ⟨hsignature, hbody, htoken⟩
    refine ⟨⟨?_, ?_⟩, ?_, huses⟩
    · rintro ⟨supplied, hsupplied, hascii⟩
      exact hascii (hsignature supplied hsupplied)
    · rintro ⟨hsigned, text, payload, htext, hpayload, hoverlong⟩
      exact hbody hsigned text payload htext hpayload hoverlong
    · rintro ⟨token, given, hmode, hverifyToken, hchallenge, hascii⟩
      exact hascii (htoken token given hmode hverifyToken hchallenge)

end Webhook

/-- The digest of the body `{}` under the key `secret`. -/
def secretDigest : List UInt8 :=
  [119, 50, 89, 2, 202, 202, 129, 45, 194, 89, 115, 58, 172, 208, 70, 183, 56, 23, 55, 44,
    119, 123, 141, 149, 180, 2, 100, 116, 116, 81, 110, 19]

def secretConfig : MetaWhatsAppConfig where
  graphApiVersion := "v99.0"
  phoneNumberId := "phone-id"
  appSecret := "secret"
  verificationToken := "verify"
  accessToken := "token"
  versioned := ⟨"99.0", rfl⟩
  given := by decide

/-- A signature with an accent is refused by a `TypeError`, which is not declared. -/
theorem accented_signature_escapes :
    @received ⟨fun _ _ => secretDigest⟩ ⟨4300⟩ (fun _ => some (.obj [])) secretConfig (utf8 "{}")
        (some "sha256=é") =
      .error ⟨.typeError, "comparing strings with non-ASCII characters is not supported"⟩ ∧
    @Escapes NormalizedProviderCallback
      (.error ⟨.typeError, "comparing strings with non-ASCII characters is not supported"⟩) := by
  constructor
  · rfl
  · rw [escapes_error]
    decide

end MetaWhatsAppInboundAdapter

end XbosCustomerChannel
