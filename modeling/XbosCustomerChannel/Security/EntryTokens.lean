import XbosCustomerChannel.Data.PyInt
import XbosCustomerChannel.Data.Text
import XbosCustomerChannel.Security.Hmac

/-!
# Entry tokens

A public token names a version, a reference, an expiry and a nonce, and carries a signature of
the four. `verify` reads a token back and signs what it read; the reference itself is opaque.
-/

namespace XbosCustomerChannel

open Data

structure VerifiedTokenEnvelope where
  version : Int
  tokenRef : String
  expiresAtEpoch : Int
  nonce : String
  deriving DecidableEq, Repr

/-- `HmacEntryTokenCodec`; the constructor refuses a shorter key. -/
structure HmacEntryTokenCodec where
  key : List UInt8
  longEnough : 32 ≤ key.length

namespace HmacEntryTokenCodec

/-- `str(n)`, which refuses an integer of more digits than the interpreter writes. -/
def formatInt (n : Int) : Except Exc String :=
  match PyInt.format n with
  | some text => .ok text
  | none => .error ⟨.valueError, "Exceeds the limit (4300 digits) for integer string conversion; " ++
      "use sys.set_int_max_str_digits() to increase the limit"⟩

/-- `_message`. -/
def message (version : Int) (tokenRef : String) (expiresAtEpoch : Int) (nonce : String) :
    Except Exc (List UInt8) := do
  let version ← formatInt version
  let expiry ← formatInt expiresAtEpoch
  pure (utf8 (version ++ "|" ++ tokenRef ++ "|" ++ expiry ++ "|" ++ nonce))

variable (codec : HmacEntryTokenCodec) [Hmac]

def issue (version : Int) (tokenRef : String) (expiresAtEpoch : Int) (nonce : String) :
    Except Exc String := do
  let message ← message version tokenRef expiresAtEpoch nonce
  let signature := Text.rstrip '=' (Text.urlsafeB64encode (Hmac.digest codec.key message))
  let version ← formatInt version
  let expiry ← formatInt expiresAtEpoch
  pure ("xc3v" ++ version ++ "." ++ tokenRef ++ "." ++ expiry ++ "." ++ nonce ++ "." ++
    String.ofList signature)

def invalidEntryToken : Exc := ⟨.invalidEntryToken, "invalid_entry_token"⟩

/-- The version, reference, expiry, nonce and signature of a token, as `verify` unpacks them. -/
def unpack (token : String) : Option (VerifiedTokenEnvelope × List Char) :=
  match Text.split '.' 4 token.toList with
  | [pfx, tokenRef, expiryText, nonce, signature] =>
      match pfx with
      | 'x' :: 'c' :: '3' :: 'v' :: versionText =>
          match PyInt.parse versionText, PyInt.parse expiryText with
          | some version, some expiresAtEpoch =>
              some (⟨version, String.ofList tokenRef, expiresAtEpoch, String.ofList nonce⟩, signature)
          | _, _ => none
      | _ => none
  | _ => none

/-- `hmac.compare_digest` of two texts. -/
def compareDigest (a b : List Char) : Except Exc Bool :=
  if Text.isAscii a ∧ Text.isAscii b then .ok (a = b)
  else .error ⟨.typeError, "comparing strings with non-ASCII characters is not supported"⟩

def verify (token : String) (nowEpoch : Int) : Except Exc VerifiedTokenEnvelope :=
  match unpack token with
  | none => .error invalidEntryToken
  | some (envelope, signature) => do
      let reissued ← codec.issue envelope.version envelope.tokenRef envelope.expiresAtEpoch
        envelope.nonce
      let genuine ← compareDigest signature (Text.afterLast '.' reissued.toList)
      if ¬ genuine then .error invalidEntryToken
      else if nowEpoch ≥ envelope.expiresAtEpoch then
        .error ⟨.invalidEntryToken, "expired_entry_token"⟩
      else .ok envelope

/-! ## What the codec accepts -/

omit [Hmac] in
theorem formatInt_of_format {n : Int} (h : (PyInt.format n).isSome) :
    ∃ text, formatInt n = .ok text := by
  obtain ⟨text, htext⟩ := Option.isSome_iff_exists.mp h
  exact ⟨text, by simp only [formatInt, htext]⟩

/-- A token is issued whenever its two numbers can be written. -/
theorem issue_ok {version expiresAtEpoch : Int} (hversion : (PyInt.format version).isSome)
    (hexpiry : (PyInt.format expiresAtEpoch).isSome) (tokenRef nonce : String) :
    ∃ token, codec.issue version tokenRef expiresAtEpoch nonce = .ok token := by
  obtain ⟨v, hv⟩ := formatInt_of_format hversion
  obtain ⟨x, hx⟩ := formatInt_of_format hexpiry
  simp only [issue, message, hv, hx, bind, Except.bind, pure, Except.pure]
  exact ⟨_, rfl⟩

omit [Hmac] in
theorem unpack_expiry {token : String} {envelope : VerifiedTokenEnvelope} {signature : List Char}
    (h : unpack token = some (envelope, signature)) :
    (PyInt.format envelope.expiresAtEpoch).isSome := by
  unfold unpack at h
  split at h
  · split at h
    · split at h
      · next hexpiry =>
          obtain ⟨rfl, -⟩ := Prod.mk.inj (Option.some.inj h)
          rw [PyInt.format_of_parse hexpiry]
          rfl
      · cases h
    · cases h
  · cases h

/-- A verified token has not expired, and its expiry can be written. -/
theorem verify_ok {token : String} {now : Int} {envelope : VerifiedTokenEnvelope}
    (h : codec.verify token now = .ok envelope) :
    now < envelope.expiresAtEpoch ∧ (PyInt.format envelope.expiresAtEpoch).isSome := by
  unfold verify at h
  split at h
  · cases h
  next envelope' signature hunpack =>
  simp only [bind, Except.bind] at h
  split at h
  · cases h
  split at h
  · cases h
  split at h
  · cases h
  split at h
  · cases h
  next hexpired =>
  obtain rfl := Except.ok.inj h
  exact ⟨not_le.mp hexpired, unpack_expiry hunpack⟩

end HmacEntryTokenCodec

end XbosCustomerChannel
