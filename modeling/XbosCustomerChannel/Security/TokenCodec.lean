import XbosCustomerChannel.Data.PyIntSpelling
import XbosCustomerChannel.Security.EntryTokens

/-!
# What the entry token codec reads and writes

A token joins its five fields with dots and a message joins four with bars, so both are taken apart
by what is known of joins. `verify_iff` says what `verify` accepts. It re-signs the numbers it has
read, not their text, so a token can be accepted in another spelling than the one that was issued.
-/

namespace XbosCustomerChannel

open Data

namespace VerifiedTokenEnvelope

variable (e : VerifiedTokenEnvelope)

/-- Both numbers can be written. -/
def Writable : Prop :=
  (PyInt.format e.version).isSome ∧ (PyInt.format e.expiresAtEpoch).isSome

/-- The reference and the nonce are of the alphabet of `secrets.token_urlsafe`. -/
def UrlSafe : Prop :=
  (∀ c ∈ e.tokenRef.toList, Text.isUrlsafe c) ∧ ∀ c ∈ e.nonce.toList, Text.isUrlsafe c

/-- The fields of the message. -/
def messageFields : List (List Char) :=
  [e.version.repr.toList, e.tokenRef.toList, e.expiresAtEpoch.repr.toList, e.nonce.toList]

/-- The text that is signed. -/
def signedText : String := String.ofList (['|'].intercalate e.messageFields)

end VerifiedTokenEnvelope

namespace HmacEntryTokenCodec

variable (codec : HmacEntryTokenCodec) [Hmac]

/-- The signature of a text. -/
def signature (text : String) : List Char :=
  Text.rstrip '=' (Text.urlsafeB64encode (Hmac.digest codec.key (utf8 text)))

/-- `issue` of the fields of an envelope. -/
def reissue (e : VerifiedTokenEnvelope) : Except Exc String :=
  codec.issue e.version e.tokenRef e.expiresAtEpoch e.nonce

/-- The fields of a token, its two numbers as they are spelled. -/
def tokenFields (versionText tokenRef expiryText nonce signature : List Char) : List (List Char) :=
  [['x', 'c', '3', 'v'] ++ versionText, tokenRef, expiryText, nonce] ++ [signature]

/-! ## Signatures -/

/-- A signature is ASCII, and of one piece. -/
theorem mem_signature {text : String} {c : Char} (h : c ∈ codec.signature text) :
    c.toNat < 128 ∧ c ≠ '.' := by
  have hmem := (List.rdropWhile_prefix (· = '=') _).subset h
  by_cases hpad : c = '='
  · subst hpad
    decide
  · have hsafe := Text.isUrlsafe_of_mem hmem hpad
    exact ⟨Text.isUrlsafe_toNat_lt hsafe, by rintro rfl; cases hsafe⟩

theorem dot_notMem_signature (text : String) : '.' ∉ codec.signature text :=
  fun h => (codec.mem_signature h).2 rfl

theorem signature_isAscii (text : String) : Text.isAscii (codec.signature text) := by
  apply List.all_eq_true.mpr
  intro c hc
  exact decide_eq_true (codec.mem_signature hc).1

/-! ## Writing -/

omit [Hmac] in
theorem formatInt_of_isSome {n : Int} (h : (PyInt.format n).isSome) : formatInt n = .ok n.repr := by
  unfold PyInt.format at h
  split at h
  · next hshort => simp only [formatInt, PyInt.format, if_pos hshort]
  · cases h

omit [Hmac] in
theorem isSome_of_formatInt {n : Int} {text : String} (h : formatInt n = .ok text) :
    (PyInt.format n).isSome := by
  unfold formatInt at h
  split at h
  · next hformat => rw [hformat]; rfl
  · cases h

omit [Hmac] in
theorem message_of_writable {e : VerifiedTokenEnvelope} (h : e.Writable) :
    message e.version e.tokenRef e.expiresAtEpoch e.nonce = .ok (utf8 e.signedText) := by
  obtain ⟨hversion, hexpiry⟩ := h
  have htext : e.version.repr ++ "|" ++ e.tokenRef ++ "|" ++ e.expiresAtEpoch.repr ++ "|" ++ e.nonce =
      e.signedText := by
    apply String.toList_inj.mp
    simp [VerifiedTokenEnvelope.signedText, VerifiedTokenEnvelope.messageFields]
  unfold message
  rw [formatInt_of_isSome hversion, formatInt_of_isSome hexpiry]
  exact congrArg (fun text => Except.ok (utf8 text)) htext

/-- The token of an envelope whose numbers can be written. -/
theorem reissue_of_writable {e : VerifiedTokenEnvelope} (h : e.Writable) :
    codec.reissue e = .ok (String.ofList (['.'].intercalate (tokenFields e.version.repr.toList
      e.tokenRef.toList e.expiresAtEpoch.repr.toList e.nonce.toList
      (codec.signature e.signedText)))) := by
  unfold reissue issue
  rw [message_of_writable h, formatInt_of_isSome h.1, formatInt_of_isSome h.2]
  apply congrArg Except.ok
  apply String.toList_inj.mp
  simp [tokenFields, signature]

omit [Hmac] in
theorem writable_of_message {e : VerifiedTokenEnvelope} {bytes : List UInt8}
    (h : message e.version e.tokenRef e.expiresAtEpoch e.nonce = .ok bytes) : e.Writable := by
  unfold message at h
  cases hversion : formatInt e.version with
  | error exc =>
      rw [hversion] at h
      cases h
  | ok version =>
      cases hexpiry : formatInt e.expiresAtEpoch with
      | error exc =>
          rw [hversion, hexpiry] at h
          cases h
      | ok expiry => exact ⟨isSome_of_formatInt hversion, isSome_of_formatInt hexpiry⟩

theorem writable_of_reissue {e : VerifiedTokenEnvelope} {token : String}
    (h : codec.reissue e = .ok token) : e.Writable := by
  unfold reissue issue at h
  cases hmessage : message e.version e.tokenRef e.expiresAtEpoch e.nonce with
  | error exc =>
      rw [hmessage] at h
      cases h
  | ok bytes => exact writable_of_message hmessage

/-! ## Reading -/

omit [Hmac] in
/-- A token is read as an envelope and a signature when its five fields are theirs. -/
theorem unpack_iff {token : String} {e : VerifiedTokenEnvelope} {signature : List Char} :
    unpack token = some (e, signature) ↔ ∃ versionText expiryText,
      Text.split '.' 4 token.toList = tokenFields versionText e.tokenRef.toList expiryText
        e.nonce.toList signature ∧
      PyInt.parse versionText = some e.version ∧ PyInt.parse expiryText = some e.expiresAtEpoch := by
  constructor
  · intro h
    unfold unpack at h
    split at h
    · next pfx tokenRef expiryText nonce signature' hsplit =>
        split at h
        · next versionText =>
            split at h
            · next version expiry hversion hexpiry =>
                obtain ⟨rfl, rfl⟩ := Prod.mk.inj (Option.some.inj h)
                exact ⟨versionText, expiryText, by simp [hsplit, tokenFields], hversion, hexpiry⟩
            · cases h
        · cases h
    · cases h
  · rintro ⟨versionText, expiryText, hsplit, hversion, hexpiry⟩
    unfold unpack
    rw [hsplit]
    simp [tokenFields, hversion, hexpiry]

omit [Hmac] in
theorem writable_of_unpack {token : String} {e : VerifiedTokenEnvelope} {signature : List Char}
    (h : unpack token = some (e, signature)) : e.Writable := by
  obtain ⟨versionText, expiryText, -, hversion, hexpiry⟩ := unpack_iff.mp h
  constructor
  · rw [PyInt.format_of_parse hversion]
    rfl
  · rw [PyInt.format_of_parse hexpiry]
    rfl

/-- The signature that `verify` expects. -/
theorem afterLast_token (versionText tokenRef expiryText nonce : List Char) (text : String) :
    Text.afterLast '.' (['.'].intercalate
      (tokenFields versionText tokenRef expiryText nonce (codec.signature text))) =
      codec.signature text := by
  have hjoin : ['.'].intercalate
      (tokenFields versionText tokenRef expiryText nonce (codec.signature text)) =
      ['.'].intercalate [['x', 'c', '3', 'v'] ++ versionText, tokenRef, expiryText, nonce] ++
        '.' :: codec.signature text := by
    simp [tokenFields]
  rw [hjoin, Text.afterLast_append (codec.dot_notMem_signature text)]

/-- What `verify` makes of a token that it has unpacked: it refuses a signature with a character that
is not ASCII by a `TypeError`. -/
theorem verify_of_unpack {token : String} {e : VerifiedTokenEnvelope} {signature : List Char}
    (h : unpack token = some (e, signature)) (now : Int) :
    codec.verify token now =
      if Text.isAscii signature then
        if signature ≠ codec.signature e.signedText then .error invalidEntryToken
        else if now ≥ e.expiresAtEpoch then .error ⟨.invalidEntryToken, "expired_entry_token"⟩
        else .ok e
      else .error ⟨.typeError, "comparing strings with non-ASCII characters is not supported"⟩ := by
  have hreissue := codec.reissue_of_writable (writable_of_unpack h)
  unfold reissue at hreissue
  unfold verify
  rw [h]
  dsimp only
  rw [hreissue]
  by_cases hascii : Text.isAscii signature
  · simp [bind, Except.bind, afterLast_token, compareDigest, codec.signature_isAscii, hascii]
  · simp [bind, Except.bind, afterLast_token, compareDigest, codec.signature_isAscii, hascii]

/-- `verify` accepts what it can unpack if the signature is that of what it has unpacked. -/
theorem verify_iff {token : String} {now : Int} {e : VerifiedTokenEnvelope} :
    codec.verify token now = .ok e ↔
      unpack token = some (e, codec.signature e.signedText) ∧ now < e.expiresAtEpoch := by
  constructor
  · intro h
    cases hunpack : unpack token with
    | none =>
        simp only [verify, hunpack] at h
        cases h
    | some unpacked =>
        obtain ⟨e', signature⟩ := unpacked
        rw [codec.verify_of_unpack hunpack] at h
        split at h
        case isFalse => cases h
        split at h
        · cases h
        next hgenuine =>
        split at h
        · cases h
        next hexpired =>
        obtain rfl := Except.ok.inj h
        rw [not_not.mp hgenuine]
        exact ⟨rfl, not_le.mp hexpired⟩
  · rintro ⟨hunpack, hnow⟩
    rw [codec.verify_of_unpack hunpack, if_pos (codec.signature_isAscii _), if_neg (by simp),
      if_neg (not_le.mpr hnow)]

/-! ## Round trips -/

omit [Hmac] in
theorem digit_or_minus_ne {n : Int} {c : Char} (hdigit : c.isDigit = false) (hminus : c ≠ '-') :
    c ∉ n.repr.toList := by
  intro h
  rcases PyInt.isDigit_or_minus h with hc | hc
  · rw [hdigit] at hc
    cases hc
  · exact hminus hc

omit [Hmac] in
/-- A message says which envelope it is of, even among the envelopes that are not URL-safe. -/
theorem signedText_injective {e e' : VerifiedTokenEnvelope} (hsafe : e'.UrlSafe)
    (h : e.signedText = e'.signedText) : e = e' := by
  have hfree : ∀ field ∈ e'.messageFields, '|' ∉ field := by
    intro field hfield
    simp only [VerifiedTokenEnvelope.messageFields, List.mem_cons, List.not_mem_nil, or_false]
      at hfield
    rcases hfield with rfl | rfl | rfl | rfl
    · exact digit_or_minus_ne rfl (by decide)
    · exact fun hbar => absurd (hsafe.1 _ hbar) (by decide)
    · exact digit_or_minus_ne rfl (by decide)
    · exact fun hbar => absurd (hsafe.2 _ hbar) (by decide)
  have hfields : e.messageFields = e'.messageFields :=
    Text.intercalate_injective rfl hfree (String.ofList_injective h)
  simp only [VerifiedTokenEnvelope.messageFields, List.cons.injEq, and_true] at hfields
  obtain ⟨hversion, href, hexpiry, hnonce⟩ := hfields
  cases e
  cases e'
  simp only [VerifiedTokenEnvelope.mk.injEq]
  exact ⟨PyInt.repr_injective (String.toList_inj.mp hversion), String.toList_inj.mp href,
    PyInt.repr_injective (String.toList_inj.mp hexpiry), String.toList_inj.mp hnonce⟩

omit [Hmac] in
/-- The fields of a token are found again, if its reference and its nonce have no dot. -/
theorem split_token {tokenRef nonce : List Char} (href : '.' ∉ tokenRef) (hnonce : '.' ∉ nonce)
    (version expiry : Int) (signature : List Char) :
    let fields := tokenFields version.repr.toList tokenRef expiry.repr.toList nonce signature
    Text.split '.' 4 (['.'].intercalate fields) = fields := by
  have hfree : ∀ field ∈ [['x', 'c', '3', 'v'] ++ version.repr.toList, tokenRef, expiry.repr.toList,
      nonce], '.' ∉ field := by
    intro field hfield
    simp only [List.mem_cons, List.not_mem_nil, or_false] at hfield
    rcases hfield with rfl | rfl | rfl | rfl
    · simp only [List.mem_append, not_or]
      exact ⟨by decide, digit_or_minus_ne rfl (by decide)⟩
    · exact href
    · exact digit_or_minus_ne rfl (by decide)
    · exact hnonce
  exact Text.split_intercalate signature hfree

/-- An issued token is unpacked as what was issued. -/
theorem unpack_of_reissue {e : VerifiedTokenEnvelope} (hsafe : e.UrlSafe) {token : String}
    (h : codec.reissue e = .ok token) : unpack token = some (e, codec.signature e.signedText) := by
  have hwritable := codec.writable_of_reissue h
  rw [codec.reissue_of_writable hwritable] at h
  obtain rfl := Except.ok.inj h
  refine unpack_iff.mpr ⟨e.version.repr.toList, e.expiresAtEpoch.repr.toList, ?_,
    PyInt.parse_of_format hwritable.1, PyInt.parse_of_format hwritable.2⟩
  rw [String.toList_ofList]
  apply split_token
  · exact fun hdot => absurd (hsafe.1 _ hdot) (by decide)
  · exact fun hdot => absurd (hsafe.2 _ hdot) (by decide)

/-! ## The spelling of an accepted token -/

/-- The version and the expiry of the token are spelled as Python writes a number. -/
def PlainNumbers (token : String) : Prop :=
  ∃ versionText tokenRef expiryText nonce signature,
    Text.split '.' 4 token.toList = tokenFields versionText tokenRef expiryText nonce signature ∧
    PyInt.Plain versionText ∧ PyInt.Plain expiryText

/-- An accepted token is the one that would be issued for what it says if its numbers are plain, and
only then. -/
theorem verify_canonical_iff (token : String) (now : Int) (e : VerifiedTokenEnvelope)
    (h : codec.verify token now = .ok e) : codec.reissue e = .ok token ↔ PlainNumbers token := by
  obtain ⟨hunpack, -⟩ := codec.verify_iff.mp h
  have hreissue := codec.reissue_of_writable (writable_of_unpack hunpack)
  obtain ⟨versionText, expiryText, hsplit, hversion, hexpiry⟩ := unpack_iff.mp hunpack
  have hfree := Text.notMem_of_mem_split hsplit
  rw [hreissue]
  constructor
  · intro heq
    have hsame := congrArg (fun t => Text.split '.' 4 t.toList) (Except.ok.inj heq)
    simp only [String.toList_ofList] at hsame
    rw [split_token (hfree _ (by simp)) (hfree _ (by simp)), hsplit] at hsame
    simp only [tokenFields, List.cons_append, List.nil_append, List.cons.injEq, true_and, and_true]
      at hsame
    refine ⟨versionText, _, expiryText, _, _, hsplit, ?_, ?_⟩
    · exact (PyInt.repr_eq_iff_plain hversion).mp hsame.1
    · exact (PyInt.repr_eq_iff_plain hexpiry).mp hsame.2
  · rintro ⟨versionText', _, expiryText', _, _, hsplit', hplain, hplain'⟩
    rw [hsplit'] at hsplit
    simp only [tokenFields, List.cons_append, List.nil_append, List.cons.injEq, true_and, and_true]
      at hsplit
    obtain ⟨rfl, rfl, rfl, rfl, rfl⟩ := hsplit
    apply congrArg Except.ok
    apply String.toList_inj.mp
    rw [String.toList_ofList, (PyInt.repr_eq_iff_plain hversion).mpr hplain,
      (PyInt.repr_eq_iff_plain hexpiry).mpr hplain', ← Text.intercalate_split '.' 4 token.toList,
      hsplit']

end HmacEntryTokenCodec

/-! ## One envelope in two spellings -/

namespace HmacEntryTokenCodec

/-- The digest of the message `1|ent_dG9rZW4|2000|bm9uY2U` under the key of `fixtureCodec`. -/
def fixtureDigest : List UInt8 :=
  [87, 209, 239, 184, 33, 2, 76, 73, 200, 135, 221, 133, 217, 165, 137, 252, 182, 43,
    149, 195, 2, 224, 138, 179, 202, 54, 67, 13, 217, 20, 129, 140]

def fixtureCodec : HmacEntryTokenCodec := ⟨List.replicate 32 120, by simp⟩

def fixtureEnvelope : VerifiedTokenEnvelope := ⟨1, "ent_dG9rZW4", 2000, "bm9uY2U"⟩

/-- The token of `fixtureEnvelope`. -/
def fixtureToken : String :=
  "xc3v1.ent_dG9rZW4.2000.bm9uY2U.V9HvuCECTEnIh92F2aWJ_LYrlcMC4IqzyjZDDdkUgYw"

/-- The same with a zero in front of the version. -/
def respelledToken : String :=
  "xc3v01.ent_dG9rZW4.2000.bm9uY2U.V9HvuCECTEnIh92F2aWJ_LYrlcMC4IqzyjZDDdkUgYw"

local instance : Hmac := ⟨fun _ _ => fixtureDigest⟩

theorem respelled_accepted : ¬ ∀ token now e, fixtureCodec.verify token now = .ok e →
    fixtureCodec.reissue e = .ok token := by
  intro h
  have hverified : fixtureCodec.verify respelledToken 1000 = .ok fixtureEnvelope := by
    decide +kernel
  have hissued : fixtureCodec.reissue fixtureEnvelope = .ok fixtureToken := by
    decide +kernel
  have hsame := h _ _ _ hverified
  rw [hissued] at hsame
  exact absurd hsame (by decide +kernel)

/-- The issued token is plain, and is issued again from what it says. -/
theorem verify_canonical_iff_issued : fixtureCodec.verify fixtureToken 1000 = .ok fixtureEnvelope ∧
    (fixtureCodec.reissue fixtureEnvelope = .ok fixtureToken ↔ PlainNumbers fixtureToken) := by
  have hverified : fixtureCodec.verify fixtureToken 1000 = .ok fixtureEnvelope := by
    decide +kernel
  exact ⟨hverified, fixtureCodec.verify_canonical_iff fixtureToken 1000 fixtureEnvelope hverified⟩

end HmacEntryTokenCodec

end XbosCustomerChannel
