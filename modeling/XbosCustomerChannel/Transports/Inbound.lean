import XbosCustomerChannel.Effects.Execution
import XbosCustomerChannel.Security.EntryTokens
import XbosCustomerChannel.Transports.Callback

/-!
# The webhook

What comes over the webhook may come from anyone. A subscription is answered with its challenge if it
names the verification token; a callback is parsed only after its signature was compared with that of
its body. The JSON parser is an operation, so that it can be said when it is used.
-/

namespace XbosCustomerChannel

open Effects Data

/-- `MetaWhatsAppConfig`; the constructor refuses other values. -/
structure MetaWhatsAppConfig where
  graphApiVersion : String
  phoneNumberId : String
  appSecret : String
  verificationToken : String
  accessToken : String
  versioned : ∃ rest, graphApiVersion = "v" ++ rest
  given : phoneNumberId ≠ "" ∧ appSecret ≠ "" ∧ verificationToken ≠ "" ∧ accessToken ≠ ""

/-- `json.loads` of a text; no response is a `JSONDecodeError`. -/
abbrev JsonParser : Signature where
  Op := String
  Resp _ := Option JsonValue

namespace MetaWhatsAppInboundAdapter

/-- `raw_body.decode("utf-8")`; `none` is a `UnicodeDecodeError`. -/
def decodeBody (rawBody : List UInt8) : Option String := String.fromUTF8? rawBody.toByteArray

/-- `verify_webhook_subscription`. -/
def verifySubscription (config : MetaWhatsAppConfig) (mode verifyToken challenge : Option String) :
    Except Exc (Option String) :=
  match verifyToken, challenge with
  | some verifyToken, some challenge =>
      if mode ≠ some "subscribe" then .ok none
      else do
        let genuine ← HmacEntryTokenCodec.compareDigest config.verificationToken.toList
          verifyToken.toList
        if ¬ genuine then pure none else pure (some challenge)
  | _, _ => .ok none

variable [Hmac]

/-- The digest that is expected of a body. -/
def expectedDigest (config : MetaWhatsAppConfig) (rawBody : List UInt8) : String :=
  hexdigest (Hmac.digest (utf8 config.appSecret) rawBody)

def invalidSignature : Exc := ⟨.invalidWebhookSignature, "invalid_x_hub_signature_256"⟩

/-- `verify_webhook_signature`. -/
def verifySignature (config : MetaWhatsAppConfig) (rawBody : List UInt8) (signature : Option String) :
    Except Exc Unit :=
  match signature with
  | none => .error ⟨.missingWebhookSignature, "missing_x_hub_signature_256"⟩
  | some signature =>
      match Text.afterPrefix "sha256=" signature with
      | none => .error invalidSignature
      | some supplied => do
          let genuine ← HmacEntryTokenCodec.compareDigest (expectedDigest config rawBody).toList
            supplied.toList
          if ¬ genuine then .error invalidSignature else pure ()

/-- The part of `receive` that follows the verification. -/
def parse [IntLimit] (rawBody : List UInt8) : Program JsonParser Exc NormalizedProviderCallback :=
  match decodeBody rawBody with
  | none => .raise (Callback.rejected "malformed_provider_payload")
  | some text => do
      match ← Program.perform (S := JsonParser) text with
      | none => .raise (Callback.rejected "malformed_provider_payload")
      | some payload => .ofExcept (Callback.normalizeProviderCallback payload)

def receive [IntLimit] (config : MetaWhatsAppConfig) (rawBody : List UInt8)
    (signature : Option String) : Program JsonParser Exc NormalizedProviderCallback := do
  .ofExcept (verifySignature config rawBody signature)
  parse rawBody

/-- What `receive` comes to with a parser. -/
def received [IntLimit] (loads : String → Option JsonValue) (config : MetaWhatsAppConfig)
    (rawBody : List UInt8) (signature : Option String) : Except Exc NormalizedProviderCallback :=
  (exec (fun text (s : Unit) => (loads text, s)) (receive config rawBody signature) ()).1

/-! ## What is verified -/

/-- The signature of a body. -/
def signatureOf (config : MetaWhatsAppConfig) (rawBody : List UInt8) : String :=
  "sha256=" ++ expectedDigest config rawBody

omit [Hmac] in
theorem hexByte_isAscii (b : UInt8) : ∀ c ∈ hexByte b, c.toNat < 128 := by
  have hdigit : ∀ n < 16, (Nat.digitChar n).toNat < 128 := by decide
  have hb := b.toNat_lt
  unfold hexByte
  simp only [List.mem_cons, List.not_mem_nil, or_false]
  rintro c (rfl | rfl)
  · exact hdigit _ (by omega)
  · exact hdigit _ (by omega)

theorem expectedDigest_isAscii (config : MetaWhatsAppConfig) (rawBody : List UInt8) :
    Text.isAscii (expectedDigest config rawBody).toList := by
  unfold expectedDigest hexdigest
  rw [String.toList_ofList]
  apply List.all_eq_true.mpr
  intro c hc
  obtain ⟨b, -, hc⟩ := List.mem_flatMap.mp hc
  exact decide_eq_true (hexByte_isAscii b c hc)

/-- A digest that is supplied is compared if it is an ASCII text. -/
theorem verifySignature_append (config : MetaWhatsAppConfig) (rawBody : List UInt8)
    (supplied : String) :
    verifySignature config rawBody (some ("sha256=" ++ supplied)) =
      if Text.isAscii supplied.toList then
        if supplied = expectedDigest config rawBody then .ok () else .error invalidSignature
      else .error ⟨.typeError, "comparing strings with non-ASCII characters is not supported"⟩ := by
  unfold verifySignature HmacEntryTokenCodec.compareDigest
  simp only [Text.afterPrefix_append, expectedDigest_isAscii, true_and]
  by_cases hascii : Text.isAscii supplied.toList
  · by_cases hsame : supplied = expectedDigest config rawBody
    · simp [hsame, expectedDigest_isAscii, bind, Except.bind, pure, Except.pure]
    · have hne : (expectedDigest config rawBody).toList ≠ supplied.toList :=
        fun heq => hsame (String.toList_injective heq).symm
      simp [hascii, hsame, hne, bind, Except.bind]
  · simp [hascii, bind, Except.bind]

theorem verifySignature_ok {config : MetaWhatsAppConfig} {rawBody : List UInt8}
    {signature : Option String} {u : Unit} :
    verifySignature config rawBody signature = .ok u ↔
      signature = some (signatureOf config rawBody) := by
  constructor
  · intro h
    cases signature with
    | none => cases h
    | some signature =>
        cases hpfx : Text.afterPrefix "sha256=" signature with
        | none =>
            simp only [verifySignature, hpfx] at h
            cases h
        | some supplied =>
            obtain rfl := Text.afterPrefix_eq_some.mp hpfx
            rw [verifySignature_append] at h
            split at h
            · split at h
              · next hsame => rw [hsame, signatureOf]
              · cases h
            · cases h
  · rintro rfl
    rw [signatureOf, verifySignature_append, if_pos (expectedDigest_isAscii config rawBody), if_pos rfl]

/-- The parser is used for a body that carries its signature, and for no other. -/
theorem receive_uses [IntLimit] (config : MetaWhatsAppConfig) (rawBody : List UInt8)
    (signature : Option String) :
    (receive config rawBody signature).Uses fun text =>
      signature = some (signatureOf config rawBody) ∧ decodeBody rawBody = some text := by
  unfold receive
  cases hverify : verifySignature config rawBody signature with
  | error e => trivial
  | ok =>
      have hsignature := verifySignature_ok.mp hverify
      rw [Program.ofExcept_ok, Program.done_bind]
      unfold parse
      split
      · trivial
      · next text htext =>
        apply Program.Uses.bind
        · exact Program.Uses.perform_iff.mpr ⟨hsignature, htext⟩
        · intro response
          split
          · trivial
          · exact Program.Uses.ofExcept _

theorem received_eq [IntLimit] (loads : String → Option JsonValue) (config : MetaWhatsAppConfig)
    (rawBody : List UInt8) (signature : Option String) :
    received loads config rawBody signature = (do
      verifySignature config rawBody signature
      match (decodeBody rawBody).bind loads with
      | none => .error (Callback.rejected "malformed_provider_payload")
      | some payload => Callback.normalizeProviderCallback payload) := by
  unfold received receive
  rw [exec_bind, exec_ofExcept]
  cases verifySignature config rawBody signature with
  | error e => rfl
  | ok =>
      simp only [parse, bind, Except.bind]
      cases decodeBody rawBody with
      | none => rfl
      | some text =>
          cases hloads : loads text with
          | none => simp [hloads, Program.perform, Program.bind]
          | some payload => simp [hloads, Program.perform, Program.bind]

end MetaWhatsAppInboundAdapter

end XbosCustomerChannel
