import XbosCustomerChannel.Runtime.Config
import XbosCustomerChannel.Transports.Escapes

/-!
# The HTTP shell

The two endpoints of the webhook. Dispatching is disabled: a callback that is accepted is only
acknowledged. What a handler raises is an `HTTPException`, or something that the server itself turns
into an internal error.
-/

namespace XbosCustomerChannel

open Data Data.JsonValue Data.Traversal

/-! ## What a callback is refused with -/

/-- A declared rejection that is raised is one of the payload. -/
def RejectsPayload {α : Type} (r : Except Exc α) : Prop :=
  ∀ e, r = .error e → e.cls ∈ declared → e.cls = .providerPayloadRejected

section RejectsPayload

variable {α β : Type}

@[simp] theorem rejectsPayload_ok (a : α) : RejectsPayload (.ok a : Except Exc α) := by
  intro e h
  cases h

@[simp] theorem rejectsPayload_pure (a : α) : RejectsPayload (pure a : Except Exc α) :=
  rejectsPayload_ok a

@[simp] theorem rejectsPayload_rejected (reason : String) :
    RejectsPayload (.error (Callback.rejected reason) : Except Exc α) := by
  intro e h _
  obtain rfl := Except.error.inj h
  rfl

theorem rejectsPayload_bind {x : Except Exc α} {f : α → Except Exc β} :
    RejectsPayload (x >>= f) ↔ RejectsPayload x ∧ ∀ a, x = .ok a → RejectsPayload (f a) := by
  cases x with
  | ok a => simp [bind, Except.bind]
  | error e =>
      simp only [bind, Except.bind, reduceCtorEq, false_implies, implies_true, and_true]
      constructor
      · intro h e' he
        exact h e' (congrArg Except.error (Except.error.inj he))
      · intro h e' he
        exact h e' (congrArg Except.error (Except.error.inj he))

@[simp] theorem rejectsPayload_map {f : α → β} {x : Except Exc α} :
    RejectsPayload (f <$> x) ↔ RejectsPayload x := by
  rw [← bind_pure_comp, rejectsPayload_bind]
  simp

theorem rejectsPayload_mapM {f : α → Except Exc β} {xs : List α} (hf : ∀ x, RejectsPayload (f x)) :
    RejectsPayload (xs.mapM f) := by
  intro e h
  obtain ⟨_, x, _, -, -, hx⟩ := mapM_eq_error.mp h
  exact hf x e hx

end RejectsPayload

namespace Callback

section Parts

variable {v : JsonValue} {reason : String}

@[simp] theorem rejectsPayload_mapping : RejectsPayload (mapping v reason) := by
  unfold mapping
  split
  · apply rejectsPayload_ok
  · apply rejectsPayload_rejected

@[simp] theorem rejectsPayload_sequence : RejectsPayload (sequence v reason) := by
  unfold sequence
  split
  · split
    · apply rejectsPayload_rejected
    · apply rejectsPayload_ok
  · apply rejectsPayload_rejected

@[simp] theorem rejectsPayload_optionalSequence : RejectsPayload (optionalSequence v reason) := by
  unfold optionalSequence
  split
  · apply rejectsPayload_ok
  · apply rejectsPayload_sequence

@[simp] theorem rejectsPayload_text : RejectsPayload (text v reason) := by
  unfold text
  split
  · split
    · apply rejectsPayload_rejected
    · apply rejectsPayload_ok
  · apply rejectsPayload_rejected

@[simp] theorem rejectsPayload_userRef {value : String} : RejectsPayload (userRef value) := by
  unfold userRef
  split
  · apply rejectsPayload_ok
  · apply rejectsPayload_rejected

@[simp] theorem rejectsPayload_epoch [IntLimit] : RejectsPayload (epoch v reason) := by
  intro e h hdeclared
  unfold epoch at h
  split at h
  · cases h
  · split at h
    · split at h
      · split at h
        · cases h
        · -- the `ValueError` of `int` is none of the three
          obtain rfl := Except.error.inj h
          simp [tooManyDigits, declared] at hdeclared
      · obtain rfl := Except.error.inj h
        rfl
    · obtain rfl := Except.error.inj h
      rfl

@[simp] theorem rejectsPayload_contextRef {message : JsonObject} :
    RejectsPayload (contextRef message) := by
  unfold contextRef
  split
  · apply rejectsPayload_ok
  · simp [rejectsPayload_bind]

@[simp] theorem rejectsPayload_interactiveReply {message : JsonObject} :
    RejectsPayload (interactiveReply message) := by
  unfold interactiveReply
  simp only [rejectsPayload_bind, rejectsPayload_mapping, rejectsPayload_text, true_and]
  intro interactive _ value _
  split
  · apply rejectsPayload_rejected
  · simp [rejectsPayload_bind]

@[simp] theorem rejectsPayload_deliveryState {status : JsonObject} :
    RejectsPayload (deliveryState status) := by
  intro e h hdeclared
  unfold deliveryState at h
  dsimp only at h
  split at h
  · cases h
  · split at h
    · obtain rfl := Except.error.inj h
      rfl
    · next huncaught =>
      obtain rfl := Except.error.inj h
      exact absurd (caughtBy_of_declared hdeclared) huncaught

@[simp] theorem rejectsPayload_recipient {status : JsonObject} :
    RejectsPayload (recipient status) := by
  unfold recipient
  split
  · apply rejectsPayload_ok
  · simp [rejectsPayload_bind]

@[simp] theorem rejectsPayload_errorCode {status : JsonObject} :
    RejectsPayload (errorCode status) := by
  unfold errorCode
  split
  · apply rejectsPayload_ok
  · simp only [rejectsPayload_bind, rejectsPayload_sequence, true_and]
    intro items _
    split
    · intro e h hdeclared
      obtain rfl := Except.error.inj h
      simp [declared] at hdeclared
    · simp

end Parts

section Normalizer

variable [IntLimit]

theorem rejectsPayload_normalizeMessage {phoneNumberId : String} {message : JsonObject} :
    RejectsPayload (normalizeMessage phoneNumberId message) := by
  unfold normalizeMessage
  simp only [rejectsPayload_bind, rejectsPayload_text, rejectsPayload_userRef, rejectsPayload_epoch,
    rejectsPayload_contextRef, true_and]
  intro ref _ senderValue _ sender _ epoch _ messageType _ context _
  split
  · simp [rejectsPayload_bind]
  · split
    · apply rejectsPayload_rejected
    · simp

theorem rejectsPayload_normalizeStatus {status : JsonObject} :
    RejectsPayload (normalizeStatus status) := by
  unfold normalizeStatus
  simp [rejectsPayload_bind]

theorem rejectsPayload_normalizeChange (change : JsonValue) :
    RejectsPayload (normalizeChange change) := by
  unfold normalizeChange
  simp only [rejectsPayload_bind, rejectsPayload_mapping, true_and]
  intro change _
  split
  · have hmessages (phoneNumberId : String) (items : List JsonValue) :
        RejectsPayload (items.mapM fun message => do
          let message ← mapping message "provider_message_invalid"
          normalizeMessage phoneNumberId message) := by
      apply rejectsPayload_mapM
      intro item
      simp [rejectsPayload_bind, rejectsPayload_normalizeMessage]
    have hstatuses (items : List JsonValue) :
        RejectsPayload (items.mapM fun status => do
          let status ← mapping status "provider_status_invalid"
          normalizeStatus status) := by
      apply rejectsPayload_mapM
      intro item
      simp [rejectsPayload_bind, rejectsPayload_normalizeStatus]
    simp [rejectsPayload_bind, hmessages, hstatuses]
  · apply rejectsPayload_rejected

theorem rejectsPayload_normalizeEntry (entry : JsonValue) :
    RejectsPayload (normalizeEntry entry) := by
  unfold normalizeEntry
  simp [rejectsPayload_bind, rejectsPayload_mapM rejectsPayload_normalizeChange]

theorem rejectsPayload_normalizeProviderCallback (payload : JsonValue) :
    RejectsPayload (normalizeProviderCallback payload) := by
  unfold normalizeProviderCallback
  simp only [rejectsPayload_bind, rejectsPayload_mapping, true_and]
  intro root _
  split
  · simp only [rejectsPayload_bind, rejectsPayload_sequence,
      rejectsPayload_mapM rejectsPayload_normalizeEntry, true_and]
    intro entries _ found _
    split
    · apply rejectsPayload_rejected
    · apply rejectsPayload_pure
  · apply rejectsPayload_rejected

end Normalizer

end Callback

/-! ## What `receive` comes to -/

namespace MetaWhatsAppInboundAdapter

section Webhook

/-- What a body is read as. -/
def readBody (loads : String → Option JsonValue) (rawBody : List UInt8) : Option JsonValue :=
  (decodeBody rawBody).bind loads

/-- What becomes of a body that was verified. -/
def normalizeBody [IntLimit] (loads : String → Option JsonValue) (rawBody : List UInt8) :
    Except Exc NormalizedProviderCallback :=
  match readBody loads rawBody with
  | none => .error (Callback.rejected "malformed_provider_payload")
  | some payload => Callback.normalizeProviderCallback payload

theorem rejectsPayload_normalizeBody [IntLimit] (loads : String → Option JsonValue)
    (rawBody : List UInt8) : RejectsPayload (normalizeBody loads rawBody) := by
  unfold normalizeBody
  split
  · apply rejectsPayload_rejected
  · apply Callback.rejectsPayload_normalizeProviderCallback

variable [Hmac] {config : MetaWhatsAppConfig} {rawBody : List UInt8} {signature : Option String}

/-- A signature is refused, unless the comparison fails. -/
theorem verifySignature_error {e : Exc} (h : verifySignature config rawBody signature = .error e) :
    e.cls ∈ [.missingWebhookSignature, .invalidWebhookSignature] ∨ e.cls = .typeError := by
  cases signature with
  | none =>
      obtain rfl := Except.error.inj h
      simp
  | some signature =>
      cases hpfx : Text.afterPrefix "sha256=" signature with
      | none =>
          simp only [verifySignature, hpfx] at h
          obtain rfl := Except.error.inj h
          simp [invalidSignature]
      | some supplied =>
          obtain rfl := Text.afterPrefix_eq_some.mp hpfx
          rw [verifySignature_append] at h
          split at h
          · split at h
            · cases h
            · obtain rfl := Except.error.inj h
              simp [invalidSignature]
          · obtain rfl := Except.error.inj h
            simp

/-- The signature is missing or another one than the body's, and could be compared. -/
structure SignatureRefused (config : MetaWhatsAppConfig) (rawBody : List UInt8)
    (signature : Option String) : Prop where
  other : signature ≠ some (signatureOf config rawBody)
  comparable : ∀ supplied, signature = some ("sha256=" ++ supplied) → Text.isAscii supplied.toList

theorem verifySignature_refused :
    (∃ e, verifySignature config rawBody signature = .error e ∧
      e.cls ∈ [.missingWebhookSignature, .invalidWebhookSignature]) ↔
      SignatureRefused config rawBody signature := by
  have hescapes := @escapes_verifySignature _ config rawBody signature
  constructor
  · rintro ⟨e, h, hcls⟩
    constructor
    · intro hown
      rw [verifySignature_ok (u := ()).mpr hown] at h
      cases h
    · intro supplied hsupplied
      by_contra hascii
      obtain ⟨e', h', hother⟩ := hescapes.mpr ⟨supplied, hsupplied, hascii⟩
      obtain rfl := Except.error.inj (h.symm.trans h')
      apply hother
      simp only [declared, List.mem_cons, List.not_mem_nil, or_false] at hcls ⊢
      rcases hcls with hcls | hcls
      · exact Or.inl hcls
      · exact Or.inr (Or.inl hcls)
  · rintro ⟨hother, hcomparable⟩
    cases hresult : verifySignature config rawBody signature with
    | ok u => exact absurd (verifySignature_ok.mp hresult) hother
    | error e =>
        rcases verifySignature_error hresult with hcls | hcls
        · exact ⟨e, rfl, hcls⟩
        · exfalso
          obtain ⟨supplied, hsupplied, hascii⟩ := hescapes.mp ⟨e, hresult, by simp [hcls, declared]⟩
          exact hascii (hcomparable supplied hsupplied)

variable [IntLimit] {loads : String → Option JsonValue}

theorem received_eq_normalizeBody :
    received loads config rawBody signature = (do
      verifySignature config rawBody signature
      normalizeBody loads rawBody) := received_eq loads config rawBody signature

theorem received_accepts :
    (∃ callback, received loads config rawBody signature = .ok callback) ↔
      signature = some (signatureOf config rawBody) ∧ ∃ payload,
        readBody loads rawBody = some payload ∧ Callback.IsCallback Callback.Converts payload := by
  simp only [received_eq_normalizeBody, exists_bind_eq_ok, verifySignature_ok, exists_const]
  apply and_congr_right
  rintro -
  unfold normalizeBody
  cases readBody loads rawBody with
  | none => simp
  | some payload => simp [Callback.normalizeProviderCallback_accepted]

theorem received_refuses_signature :
    (∃ e, received loads config rawBody signature = .error e ∧
      e.cls ∈ [.missingWebhookSignature, .invalidWebhookSignature]) ↔
      SignatureRefused config rawBody signature := by
  rw [← verifySignature_refused, received_eq_normalizeBody]
  constructor
  · rintro ⟨e, h, hcls⟩
    rcases bind_eq_error.mp h with h | ⟨_, -, h⟩
    · exact ⟨e, h, hcls⟩
    · -- a body is refused as a payload
      exfalso
      simp only [List.mem_cons, List.not_mem_nil, or_false] at hcls
      have hpayload := rejectsPayload_normalizeBody loads rawBody e h
      rcases hcls with hcls | hcls
      · rw [hcls] at hpayload
        cases hpayload (by decide)
      · rw [hcls] at hpayload
        cases hpayload (by decide)
  · rintro ⟨e, h, hcls⟩
    exact ⟨e, bind_eq_error.mpr (Or.inl h), hcls⟩

theorem received_refuses_payload :
    (∃ e, received loads config rawBody signature = .error e ∧ e.cls = .providerPayloadRejected) ↔
      signature = some (signatureOf config rawBody) ∧ ∀ payload,
        readBody loads rawBody = some payload →
          ¬ Callback.IsCallback Callback.Converts payload ∧ ¬ Callback.OverlongFirst payload := by
  constructor
  · rintro ⟨e, h, hcls⟩
    rw [received_eq_normalizeBody] at h
    rcases bind_eq_error.mp h with h | ⟨_, hown, h⟩
    · rcases verifySignature_error h with hother | hother
      · rw [hcls] at hother
        simp at hother
      · rw [hcls] at hother
        cases hother
    · refine ⟨verifySignature_ok.mp hown, ?_⟩
      intro payload hread
      simp only [normalizeBody, hread] at h
      rw [← Callback.normalizeProviderCallback_accepted, ← Callback.escapes_normalizeProviderCallback, h]
      simp [hcls, declared]
  · rintro ⟨hown, hpayload⟩
    have hverified := verifySignature_ok (u := ()).mpr hown
    rw [received_eq_normalizeBody, hverified]
    show ∃ e, normalizeBody loads rawBody = .error e ∧ _
    cases hread : readBody loads rawBody with
    | none =>
        refine ⟨Callback.rejected "malformed_provider_payload", ?_, rfl⟩
        simp only [normalizeBody, hread]
    | some payload =>
        obtain ⟨hrejected, hshort⟩ := hpayload payload hread
        have hnormalize : normalizeBody loads rawBody = Callback.normalizeProviderCallback payload := by
          simp only [normalizeBody, hread]
        rw [← Callback.normalizeProviderCallback_accepted] at hrejected
        rw [← Callback.escapes_normalizeProviderCallback] at hshort
        cases hresult : Callback.normalizeProviderCallback payload with
        | ok r => exact absurd ⟨r, hresult⟩ hrejected
        | error e =>
            refine ⟨e, hnormalize.trans hresult, ?_⟩
            apply Callback.rejectsPayload_normalizeProviderCallback payload e hresult
            by_contra hother
            exact hshort ⟨e, hresult, hother⟩

theorem received_escapes :
    Escapes (received loads config rawBody signature) ↔
      (∃ supplied, signature = some ("sha256=" ++ supplied) ∧ ¬ Text.isAscii supplied.toList) ∨
        signature = some (signatureOf config rawBody) ∧ ∃ payload,
          readBody loads rawBody = some payload ∧ Callback.OverlongFirst payload := by
  rw [escapes_received]
  apply or_congr_right
  apply and_congr_right
  intro _
  simp only [readBody, Option.bind_eq_some_iff]
  constructor
  · rintro ⟨text, payload, htext, hpayload, hoverlong⟩
    exact ⟨payload, ⟨text, htext, hpayload⟩, hoverlong⟩
  · rintro ⟨payload, ⟨text, htext, hpayload⟩, hoverlong⟩
    exact ⟨text, payload, htext, hpayload, hoverlong⟩

end Webhook

end MetaWhatsAppInboundAdapter

/-! ## The handlers -/

/-- What a handler raises. -/
inductive Raised
  | httpException (statusCode : Nat) (detail : String)
  | exc (e : Exc)
  deriving DecidableEq, Repr

/-- What a handler returns. -/
inductive Response
  | json (content : List (String × String)) (statusCode : Nat)
  | plainText (content : String) (statusCode : Nat)
  deriving DecidableEq, Repr

namespace App

/-- `_config`. -/
def config (environ : Environment) : Except Raised RuntimeConfig :=
  match RuntimeConfig.fromEnvironment environ with
  | .ok config => .ok config
  | .error e =>
      if e.caughtBy [.valueError] then
        .error (.httpException 503 "runtime_configuration_unavailable")
      else .error (.exc e)

def health : List (String × String) :=
  [("status", "ok"), ("service", "xbos-customer-channel"), ("w1_dispatch", "disabled")]

def verifyMetaSubscription (environ : Environment) (mode verifyToken challenge : Option String) :
    Except Raised Response := do
  let config ← config environ
  match MetaWhatsAppInboundAdapter.verifySubscription config.metaConfig mode verifyToken challenge with
  | .error e => .error (.exc e)
  | .ok none => .error (.httpException 403 "webhook_verification_rejected")
  | .ok (some accepted) => .ok (.plainText accepted 200)

def accepted : Response := .json [("status", "accepted"), ("w1_dispatch", "disabled")] 200

/-- The `except` clauses of `receive_meta_callback`. -/
def refusal (e : Exc) : Raised :=
  if e.caughtBy [.missingWebhookSignature, .invalidWebhookSignature] then
    .httpException 401 "invalid_webhook_signature"
  else if e.caughtBy [.providerPayloadRejected] then
    .httpException 400 "invalid_webhook_payload"
  else .exc e

def receiveMetaCallback [Hmac] [IntLimit] (environ : Environment)
    (loads : String → Option JsonValue) (rawBody : List UInt8) (signature : Option String) :
    Except Raised Response := do
  let config ← config environ
  match MetaWhatsAppInboundAdapter.received loads config.metaConfig rawBody signature with
  | .ok _ => .ok accepted
  | .error e => .error (refusal e)

theorem config_ok {environ : Environment} {c : RuntimeConfig} :
    config environ = .ok c ↔ Configured environ c := by
  rw [← RuntimeConfig.fromEnvironment_ok]
  unfold config
  cases RuntimeConfig.fromEnvironment environ with
  | ok found => simp
  | error e =>
      simp only [reduceCtorEq, iff_false]
      split
      · simp
      · simp

/-- Where nothing is configured the answer is always the same. -/
theorem config_error {environ : Environment} {raised : Raised} :
    config environ = .error raised ↔
      raised = .httpException 503 "runtime_configuration_unavailable" ∧
        ∀ c, ¬ Configured environ c := by
  cases hconfig : RuntimeConfig.fromEnvironment environ with
  | ok found =>
      have hfound := RuntimeConfig.fromEnvironment_ok.mp hconfig
      simp only [config, hconfig, reduceCtorEq, false_iff, not_and, not_forall, not_not]
      intro _
      exact ⟨found, hfound⟩
  | error e =>
      have hnone (c : RuntimeConfig) : ¬ Configured environ c := by
        intro hc
        rw [RuntimeConfig.fromEnvironment_ok.mpr hc] at hconfig
        cases hconfig
      have hcls := RuntimeConfig.fromEnvironment_error hconfig
      simp only [config, hconfig, Exc.caughtBy, hcls, hnone, not_false_eq_true, implies_true, and_true]
      rw [if_pos (by decide), Except.error.injEq, eq_comm]

theorem Configured.unique {environ : Environment} {c d : RuntimeConfig}
    (hc : Configured environ c) (hd : Configured environ d) : c = d := by
  have h := config_ok.mpr hc
  rw [config_ok.mpr hd] at h
  exact (Except.ok.inj h).symm

/-! ## The callback endpoint -/

/-- No class derives from a rejection that is declared. -/
theorem caughtBy_iff (e : Exc) {classes : List ExcClass} (hclasses : ∀ d ∈ classes, d ∈ declared) :
    e.caughtBy classes = true ↔ e.cls ∈ classes := by
  have hbase : ∀ d ∈ declared, e.cls.base ≠ some d := by
    intro d hd hcls
    unfold ExcClass.base at hcls
    simp only [declared, List.mem_cons, List.not_mem_nil, or_false] at hd
    rcases hd with rfl | rfl | rfl
    · split at hcls <;> simp at hcls
    · split at hcls <;> simp at hcls
    · split at hcls <;> simp at hcls
  unfold Exc.caughtBy ExcClass.isA
  rw [List.any_eq_true]
  constructor
  · rintro ⟨d, hd, h⟩
    rw [Bool.or_eq_true, beq_iff_eq, beq_iff_eq] at h
    rcases h with h | h
    · rwa [h]
    · exact absurd h (hbase d (hclasses d hd))
  · intro h
    exact ⟨e.cls, h, by simp⟩

theorem refusal_signature {e : Exc} :
    refusal e = .httpException 401 "invalid_webhook_signature" ↔
      e.cls ∈ [.missingWebhookSignature, .invalidWebhookSignature] := by
  rw [← caughtBy_iff e (by simp [declared])]
  unfold refusal
  split
  · next h => simp [h]
  · next h =>
    split
    · simp [h]
    · simp [h]

theorem refusal_payload {e : Exc} :
    refusal e = .httpException 400 "invalid_webhook_payload" ↔ e.cls = .providerPayloadRejected := by
  have hpayload : e.caughtBy [.providerPayloadRejected] = true ↔ _ :=
    caughtBy_iff e (by simp [declared])
  rw [List.mem_singleton] at hpayload
  rw [← hpayload]
  unfold refusal
  split
  · next h =>
    rw [caughtBy_iff e (by simp [declared])] at h
    simp only [Raised.httpException.injEq, false_and, hpayload, false_iff, Nat.reduceEqDiff]
    intro hcls
    rw [hcls] at h
    simp at h
  · split
    · next h => simp [h]
    · next h => simp [h]

theorem refusal_exc {e e' : Exc} : refusal e = .exc e' ↔ e = e' ∧ e.cls ∉ declared := by
  have hsignature : e.caughtBy [.missingWebhookSignature, .invalidWebhookSignature] = true ↔ _ :=
    caughtBy_iff e (by simp [declared])
  have hpayload : e.caughtBy [.providerPayloadRejected] = true ↔ _ :=
    caughtBy_iff e (by simp [declared])
  have hsplit : e.cls ∈ declared ↔
      e.cls ∈ [.missingWebhookSignature, .invalidWebhookSignature] ∨
        e.cls ∈ [.providerPayloadRejected] := List.mem_append (s := [_, _])
  rw [hsplit, ← hsignature, ← hpayload]
  unfold refusal
  split
  · next h => simp [h]
  · next h =>
    split
    · next h' => simp [h']
    · next h' => simp [h, h']

/-! ## The subscription endpoint -/

theorem verifySubscription_accepts {c : MetaWhatsAppConfig}
    {mode verifyToken challenge : Option String} {given : String} :
    MetaWhatsAppInboundAdapter.verifySubscription c mode verifyToken challenge = .ok (some given) ↔
      mode = some "subscribe" ∧ verifyToken = some c.verificationToken ∧
        Text.isAscii c.verificationToken.toList ∧ challenge = some given := by
  constructor
  · intro h
    have hchallenge := MetaWhatsAppInboundAdapter.verifySubscription_ok h
    unfold MetaWhatsAppInboundAdapter.verifySubscription at h
    split at h
    · next token challenge =>
      split at h
      · cases h
      · next hmode =>
        obtain ⟨genuine, hcompare, h⟩ := bind_eq_ok.mp h
        split at h
        · cases h
        · next hgenuine =>
          unfold HmacEntryTokenCodec.compareDigest at hcompare
          split at hcompare
          · next hascii =>
            obtain rfl := Except.ok.inj hcompare
            rw [not_not, decide_eq_true_eq] at hgenuine
            rw [String.toList_injective hgenuine]
            refine ⟨not_not.mp hmode, rfl, hgenuine ▸ hascii.1, ?_⟩
            rcases hchallenge with hnone | hsome
            · cases hnone
            · exact hsome.symm
          · cases hcompare
    · cases h
  · rintro ⟨rfl, rfl, hascii, rfl⟩
    simp [MetaWhatsAppInboundAdapter.verifySubscription, HmacEntryTokenCodec.compareDigest, hascii, bind,
      Except.bind, pure, Except.pure]

/-- The challenge is answered where the mode and the configured token are given, and the token is
ASCII. -/
theorem verifyMetaSubscription_ok {environ : Environment}
    {mode verifyToken challenge : Option String} {response : Response} :
    verifyMetaSubscription environ mode verifyToken challenge = .ok response ↔
      ∃ c, Configured environ c ∧ mode = some "subscribe" ∧
        verifyToken = some c.metaConfig.verificationToken ∧
          Text.isAscii c.metaConfig.verificationToken.toList ∧
            ∃ given, challenge = some given ∧ response = .plainText given 200 := by
  unfold verifyMetaSubscription
  simp only [bind_eq_ok, config_ok]
  apply exists_congr
  intro c
  apply and_congr_right
  intro _
  constructor
  · intro h
    split at h
    · cases h
    · cases h
    · next given hgiven =>
      obtain ⟨hmode, htoken, hascii, hchallenge⟩ := verifySubscription_accepts.mp hgiven
      exact ⟨hmode, htoken, hascii, given, hchallenge, (Except.ok.inj h).symm⟩
  · rintro ⟨hmode, htoken, hascii, given, hchallenge, rfl⟩
    rw [verifySubscription_accepts.mpr ⟨hmode, htoken, hascii, hchallenge⟩]

section Callback

variable [Hmac] [IntLimit] {environ : Environment} {loads : String → Option JsonValue}
  {rawBody : List UInt8} {signature : Option String}

theorem receiveMetaCallback_ok {response : Response} :
    receiveMetaCallback environ loads rawBody signature = .ok response ↔
      response = accepted ∧ ∃ c, Configured environ c ∧ ∃ callback,
        MetaWhatsAppInboundAdapter.received loads c.metaConfig rawBody signature = .ok callback := by
  unfold receiveMetaCallback
  simp only [bind_eq_ok, config_ok]
  constructor
  · rintro ⟨c, hc, h⟩
    split at h
    · next callback hcallback => exact ⟨(Except.ok.inj h).symm, c, hc, callback, hcallback⟩
    · cases h
  · rintro ⟨rfl, c, hc, callback, hcallback⟩
    refine ⟨c, hc, ?_⟩
    rw [hcallback]

theorem receiveMetaCallback_error {raised : Raised} :
    receiveMetaCallback environ loads rawBody signature = .error raised ↔
      config environ = .error raised ∨ ∃ c, Configured environ c ∧ ∃ e,
        MetaWhatsAppInboundAdapter.received loads c.metaConfig rawBody signature = .error e ∧
          refusal e = raised := by
  unfold receiveMetaCallback
  simp only [bind_eq_error, config_ok]
  apply or_congr_right
  constructor
  · rintro ⟨c, hc, h⟩
    split at h
    · cases h
    · next e he => exact ⟨c, hc, e, he, Except.error.inj h⟩
  · rintro ⟨c, hc, e, he, rfl⟩
    refine ⟨c, hc, ?_⟩
    rw [he]

theorem refused_iff {statusCode : Nat} {detail : String} (hcode : statusCode ≠ 503) :
    receiveMetaCallback environ loads rawBody signature =
        .error (.httpException statusCode detail) ↔
      ∃ c, Configured environ c ∧ ∃ e,
        MetaWhatsAppInboundAdapter.received loads c.metaConfig rawBody signature = .error e ∧
          refusal e = .httpException statusCode detail := by
  rw [receiveMetaCallback_error, config_error, Raised.httpException.injEq]
  constructor
  · rintro (⟨⟨h, -⟩, -⟩ | h)
    · exact absurd h hcode
    · exact h
  · exact Or.inr

theorem unconfigured_iff :
    receiveMetaCallback environ loads rawBody signature =
        .error (.httpException 503 "runtime_configuration_unavailable") ↔
      ∀ c, ¬ Configured environ c := by
  rw [receiveMetaCallback_error, config_error]
  constructor
  · rintro (⟨-, h⟩ | ⟨c, -, e, -, h⟩)
    · exact h
    · -- no clause of the handler answers with 503
      exfalso
      unfold refusal at h
      split at h
      · cases h
      · split at h
        · cases h
        · cases h
  · intro h
    exact Or.inl ⟨rfl, h⟩

theorem unhandled_iff :
    (∃ e, receiveMetaCallback environ loads rawBody signature = .error (.exc e)) ↔
      ∃ c, Configured environ c ∧
        Escapes (MetaWhatsAppInboundAdapter.received loads c.metaConfig rawBody signature) := by
  simp only [receiveMetaCallback_error, config_error, reduceCtorEq, false_and, false_or, refusal_exc]
  constructor
  · rintro ⟨_, c, hc, e, he, rfl, hother⟩
    exact ⟨c, hc, e, he, hother⟩
  · rintro ⟨c, hc, e, he, hother⟩
    exact ⟨e, c, hc, e, he, rfl, hother⟩

end Callback

end App

end XbosCustomerChannel
