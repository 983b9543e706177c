import XbosCustomerChannel.Entry.Service
import XbosCustomerChannel.Security.TokenCodec

/-!
# Issued tokens and accepted tokens

A token that `issue_entry` returns is verified as what was issued. The other way, a token that is
verified carries a signature, and the message under it says which envelope was signed: `verify` may
read references with bars in them and numbers in other spellings, but no message of such an envelope
is that of an issued one.
-/

namespace XbosCustomerChannel

open Effects Data

/-- The texts that were drawn are of the alphabet of `secrets.token_urlsafe`. -/
def IssueEntryArgs.DrawsUrlSafe (args : IssueEntryArgs) : Prop :=
  (∀ c ∈ args.tokenDraw.toList, Text.isUrlsafe c) ∧ ∀ c ∈ args.nonceDraw.toList, Text.isUrlsafe c

namespace EntryContextService

/-- What the token of an issued record is for. -/
def issuedEnvelope (args : IssueEntryArgs) (record : EntryTokenRecord) : VerifiedTokenEnvelope where
  version := record.version
  tokenRef := record.tokenRef
  expiresAtEpoch := record.expiresAtEpoch
  nonce := args.nonceDraw

variable (codec : HmacEntryTokenCodec) [Hmac]

/-- The signature of the token is good for what the token says only if the codec has signed that
message, for a token that was issued. -/
def Unforged (issued : Set VerifiedTokenEnvelope) (token : String) : Prop :=
  ∀ e signature, HmacEntryTokenCodec.unpack token = some (e, signature) →
    signature = codec.signature e.signedText →
      ∃ e' ∈ issued, HmacEntryTokenCodec.message e'.version e'.tokenRef e'.expiresAtEpoch e'.nonce =
        .ok (utf8 e.signedText)

variable {χ : Type} [XBOSContextPort χ]

/-- `issue_entry` returns the codec's token for the record, of URL-safe texts. -/
theorem issueEntry_issues (args : IssueEntryArgs) (hdraws : args.DrawsUrlSafe) (d : EntryDesk χ)
    {record : EntryTokenRecord} {token : String}
    (h : (exec EntryDesk.handle (issueEntry codec args) d).1 = .ok (record, token)) :
    (issuedEnvelope args record).UrlSafe ∧
      codec.reissue (issuedEnvelope args record) = .ok token := by
  rcases issueEntry_cases codec args d with ⟨a, port, -, -, hexec⟩ | ⟨e, port, hexec⟩
  case inr =>
    rw [hexec] at h
    cases h
  rw [hexec] at h
  dsimp only at h
  cases hissued : codec.issue tokenVersion (entryRecord args a).tokenRef args.expiresAtEpoch
    args.nonceDraw with
  | error e =>
      rw [hissued] at h
      cases h
  | ok token' =>
      rw [hissued] at h
      obtain ⟨rfl, rfl⟩ := Prod.mk.inj (Except.ok.inj h)
      refine ⟨⟨?_, hdraws.2⟩, hissued⟩
      intro c hc
      have hprefix : "ent_".toList.all Text.isUrlsafe := by decide
      have href : c ∈ "ent_".toList ++ args.tokenDraw.toList := by
        rw [← String.toList_append]
        exact hc
      rcases List.mem_append.mp href with hc | hc
      · exact List.all_eq_true.mp hprefix c hc
      · exact hdraws.1 c hc

omit [Hmac] in
theorem mem_of_message {issued : Set VerifiedTokenEnvelope} (hsafe : ∀ e ∈ issued, e.UrlSafe)
    {e : VerifiedTokenEnvelope} (h : ∃ e' ∈ issued,
      HmacEntryTokenCodec.message e'.version e'.tokenRef e'.expiresAtEpoch e'.nonce =
        .ok (utf8 e.signedText)) : e ∈ issued := by
  obtain ⟨e', hissued, hmessage⟩ := h
  have hwritable := HmacEntryTokenCodec.writable_of_message hmessage
  rw [HmacEntryTokenCodec.message_of_writable hwritable] at hmessage
  have htext := utf8_injective (Except.ok.inj hmessage)
  rw [HmacEntryTokenCodec.signedText_injective (hsafe e' hissued) htext.symm]
  exact hissued

/-- An issued token is verified as the envelope it was issued for, until that expires; and any token
that is verified, however it came about, is verified as an envelope that a token was issued for. The
tokens of `issue_entry` are among those. -/
theorem verify_issued (issued : Set VerifiedTokenEnvelope) (hsafe : ∀ e ∈ issued, e.UrlSafe) :
    (∀ e ∈ issued, ∀ token, codec.reissue e = .ok token → ∀ now, now < e.expiresAtEpoch →
      codec.verify token now = .ok e) ∧
    (∀ token now e, Unforged codec issued token → codec.verify token now = .ok e → e ∈ issued) ∧
    ∀ (args : IssueEntryArgs) (d : EntryDesk χ) record token, args.DrawsUrlSafe →
      (exec EntryDesk.handle (issueEntry codec args) d).1 = .ok (record, token) →
        (issuedEnvelope args record).UrlSafe ∧
          codec.reissue (issuedEnvelope args record) = .ok token := by
  refine ⟨?_, ?_, ?_⟩
  · intro e hissued token htoken now hnow
    exact codec.verify_iff.mpr ⟨codec.unpack_of_reissue (hsafe e hissued) htoken, hnow⟩
  · intro token now e hunforged hverified
    obtain ⟨hunpack, -⟩ := codec.verify_iff.mp hverified
    exact mem_of_message hsafe (hunforged e _ hunpack rfl)
  · intro args d record token hdraws h
    exact issueEntry_issues codec args hdraws d h

end EntryContextService

namespace EntryContextService

open HmacEntryTokenCodec

local instance : Hmac := ⟨fun _ _ => fixtureDigest⟩

/-- XBOS, where it knows no place. -/
local instance : XBOSContextPort Unit where
  attestContext port _ _ _ _ _ := (.error ⟨.keyError, "xbos_context_not_found"⟩, port)
  Event := Empty
  occur event := nomatch event

/-- One token was issued: it is good until it expires, and the same in another spelling, which is not
forged, says nothing else. -/
theorem verify_issued_one : fixtureCodec.verify fixtureToken 1999 = .ok fixtureEnvelope ∧
    Unforged fixtureCodec {fixtureEnvelope} respelledToken ∧
    ∀ now e, fixtureCodec.verify respelledToken now = .ok e → e = fixtureEnvelope := by
  have hsafe : ∀ e ∈ ({fixtureEnvelope} : Set VerifiedTokenEnvelope), e.UrlSafe := by
    rintro e rfl
    constructor
    · apply List.all_eq_true.mp
      decide +kernel
    · apply List.all_eq_true.mp
      decide +kernel
  have hissued : fixtureCodec.reissue fixtureEnvelope = .ok fixtureToken := by
    decide +kernel
  have hunforged : Unforged fixtureCodec {fixtureEnvelope} respelledToken := by
    intro e signature hunpack _
    have hrespelled : (unpack respelledToken).map Prod.fst = some fixtureEnvelope := by
      decide +kernel
    rw [hunpack] at hrespelled
    obtain rfl := Option.some.inj hrespelled
    exact ⟨fixtureEnvelope, rfl, message_of_writable (fixtureCodec.writable_of_reissue hissued)⟩
  obtain ⟨hround, honly, -⟩ := verify_issued (χ := Unit) fixtureCodec {fixtureEnvelope} hsafe
  exact ⟨hround fixtureEnvelope rfl fixtureToken hissued 1999 (by decide), hunforged,
    fun now e => honly respelledToken now e hunforged⟩

end EntryContextService

end XbosCustomerChannel
