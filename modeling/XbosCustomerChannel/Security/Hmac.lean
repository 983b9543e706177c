import XbosCustomerChannel.Errors

/-!
# Keyed digests

HMAC-SHA-256 is a parameter: a function of the key and the message. What is done with its digest,
hexadecimal text, is written out.
-/

namespace XbosCustomerChannel

/-- `hmac.new(key, message, hashlib.sha256).digest()`. -/
class Hmac where
  digest : (key message : List UInt8) → List UInt8

/-- `text.encode("utf-8")`. -/
def utf8 (text : String) : List UInt8 := text.toUTF8.data.toList

theorem utf8_injective {a b : String} (h : utf8 a = utf8 b) : a = b := by
  apply String.toByteArray_inj.mp
  exact ByteArray.ext (Array.toList_inj.mp h)

def hexByte (b : UInt8) : List Char := [Nat.digitChar (b.toNat / 16), Nat.digitChar (b.toNat % 16)]

/-- `digest.hex()`. -/
def hexdigest (digest : List UInt8) : String := String.ofList (digest.flatMap hexByte)

/-- A lookup token for a channel address, from which the address cannot be read. -/
def hashChannelUserRef [Hmac] (channel channelUserRef secret : String) : Except Exc String :=
  if secret = "" then .error ⟨.valueError, "hash_secret_required"⟩
  else .ok (hexdigest (Hmac.digest (utf8 secret) (utf8 (channel ++ "\x1f" ++ channelUserRef))))

end XbosCustomerChannel
