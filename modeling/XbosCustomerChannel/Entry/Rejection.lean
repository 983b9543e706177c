import XbosCustomerChannel.Entry.SingleUse
import XbosCustomerChannel.Security.TokenCodec

/-!
# How `resolve` refuses

A token is a text that anyone may send. Each operation on it is partial in its own way: what does
not split or is no number is an invalid token, and so is a wrong signature; a place that XBOS does
not know is an unavailable context. The comparison of the signatures is the exception: it refuses
texts that are not ASCII by a `TypeError`, which nothing on the way out catches.
-/

namespace XbosCustomerChannel

open Effects Data

namespace HmacEntryTokenCodec

/-- The token has five parts with two numbers in the right places, and its signature has a character
that is not ASCII. -/
def SignedOutsideAscii (token : String) : Prop :=
  ∃ e signature, unpack token = some (e, signature) ∧ Text.isAscii signature = false

variable (codec : HmacEntryTokenCodec) [Hmac]

theorem verify_outsideAscii {token : String} (h : SignedOutsideAscii token) (now : Int) :
    ∃ msg, codec.verify token now = .error ⟨.typeError, msg⟩ := by
  obtain ⟨e, signature, hunpack, hascii⟩ := h
  rw [codec.verify_of_unpack hunpack, hascii]
  exact ⟨_, rfl⟩

/-- Any other token that is not accepted is an invalid one. -/
theorem verify_error {token : String} (h : ¬ SignedOutsideAscii token) {now : Int} {exc : Exc}
    (hverify : codec.verify token now = .error exc) : exc.cls = .invalidEntryToken := by
  cases hunpack : unpack token with
  | none =>
      simp only [verify, hunpack] at hverify
      obtain rfl := Except.error.inj hverify
      rfl
  | some unpacked =>
      obtain ⟨e, signature⟩ := unpacked
      have hascii : Text.isAscii signature = true := by
        by_contra hnot
        exact h ⟨e, signature, hunpack, by simpa using hnot⟩
      rw [codec.verify_of_unpack hunpack, if_pos hascii] at hverify
      split at hverify
      · obtain rfl := Except.error.inj hverify
        rfl
      split at hverify
      · obtain rfl := Except.error.inj hverify
        rfl
      · cases hverify

end HmacEntryTokenCodec

/-- A record that is there is claimed, or was claimed before. -/
theorem InMemoryEntryTokenStore.consumeIfUnconsumed_of_stored {store : InMemoryEntryTokenStore}
    {tokenRef : String} (h : (store.get tokenRef).isSome) (now : Int) :
    ∃ claimed, (store.consumeIfUnconsumed tokenRef now).1 = .ok claimed := by
  obtain ⟨record, hrecord⟩ := Option.isSome_iff_exists.mp h
  unfold get at hrecord
  unfold consumeIfUnconsumed
  rw [hrecord]
  dsimp only
  split
  · exact ⟨none, rfl⟩
  · exact ⟨some _, rfl⟩

namespace EntryDesk

open EntryContextService

variable {χ : Type} [XBOSContextPort χ]

/-- XBOS attests the place, or raises what `resolve` expects of it. -/
def Answers (d : EntryDesk χ) : Prop :=
  ∀ merchant location table purpose area e,
    d.attestation merchant location table purpose area = .error e →
      e.caughtBy [.keyError, .permissionError, .valueError]

/-- Every exception of the call is an `EntryContextRejected`. -/
def Rejects {α : Type} (p : EntryCallOf α) (d : EntryDesk χ) : Prop :=
  p.RaisesOnly handle (·.cls = .entryContextRejected) d

theorem rejects_raise {α : Type} (msg : String) (d : EntryDesk χ) :
    Rejects (.raise (rejected msg) : EntryCallOf α) d := by
  apply Program.RaisesOnly.raise
  rfl

theorem rejects_done {α : Type} (a : α) (d : EntryDesk χ) : Rejects (.done a : EntryCallOf α) d :=
  Program.RaisesOnly.done a d

theorem Rejects.guard {α : Type} {p : Prop} [Decidable p] {msg : String} {next : EntryCallOf α}
    {d : EntryDesk χ} (h : ¬ p → Rejects next d) :
    Rejects (Program.raiseIf p (rejected msg) >>= fun _ => next) d := by
  intro e he
  rw [exec_raiseIf_bind] at he
  split at he
  · exact rejects_raise msg d e he
  · next hp => exact h hp e he

theorem rejects_attest {d : EntryDesk χ} (h : d.Answers) (merchant location : String)
    (table : Option String) (purpose : EntryPurpose) (area : Option String) :
    Rejects (attest merchant location table purpose area) d := by
  unfold attest
  intro e he
  rw [exec_askEntry_bind] at he
  have hanswer := h merchant location table purpose area
  unfold attestation at hanswer
  dsimp only [handle] at he
  cases hattested : (XBOSContextPort.attestContext d.port merchant location table purpose area).1 with
  | ok a =>
      rw [hattested] at he
      cases he
  | error exc =>
      rw [hattested] at he
      simp only [answered, hanswer exc hattested, if_true] at he
      exact rejects_raise _ _ e he

/-- A claim finds the record it was given, so it is answered. -/
theorem rejects_claim {d : EntryDesk χ} {record : EntryTokenRecord}
    (hstored : (d.store.get record.tokenRef).isSome) (a : EntryContextAttestation) (now : Int) :
    Rejects (claim record a now) d := by
  unfold claim
  split
  · exact rejects_done _ d
  obtain ⟨claimed, hclaimed⟩ :=
    InMemoryEntryTokenStore.consumeIfUnconsumed_of_stored hstored now
  intro e he
  rw [exec_askEntry_bind] at he
  dsimp only [handle] at he
  rw [hclaimed] at he
  unfold claimedContext at he
  rw [Program.ofExcept_ok, Program.done_bind] at he
  exact Rejects.guard (fun _ => rejects_done _ _) e he

theorem rejects_attestAgain {d : EntryDesk χ} (h : d.Answers) {record : EntryTokenRecord}
    (hstored : (d.store.get record.tokenRef).isSome) (now : Int) :
    Rejects (attestAgain record now) d := by
  unfold attestAgain
  apply Program.RaisesOnly.bind
  · exact rejects_attest h _ _ _ _ _
  intro a d' hattested
  -- to attest changes XBOS at most
  have hstore : d'.store = d.store := by
    obtain ⟨port, ⟨_, -, hexec⟩ | ⟨_, hexec⟩⟩ := exec_attest record.merchantRef record.locationRef
      record.tableRef record.purpose record.diningAreaRef d
    · rw [hexec] at hattested
      rw [← (Prod.mk.inj hattested).2]
    · rw [hexec] at hattested
      cases (Prod.mk.inj hattested).1
  unfold compareAgain
  apply Rejects.guard
  intro _
  exact rejects_claim (by rw [hstore]; exact hstored) a now

theorem rejects_resolveEnvelope {d : EntryDesk χ} (h : d.Answers) (hkept : WellKept d.store)
    (envelope : VerifiedTokenEnvelope) (expected : Option String) (now : Int) :
    Rejects (resolveEnvelope envelope expected now) d := by
  unfold resolveEnvelope
  intro e he
  rw [exec_askEntry_bind] at he
  dsimp only [handle] at he
  cases hrecord : d.store.get envelope.tokenRef with
  | none =>
      rw [hrecord] at he
      exact rejects_raise _ d e he
  | some record =>
      rw [hrecord] at he
      have hstored : (d.store.get record.tokenRef).isSome := by
        rw [hkept.keyed _ record hrecord, hrecord]
        rfl
      refine Rejects.guard (fun _ => ?_) e he
      apply Rejects.guard
      intro _
      apply Rejects.guard
      intro _
      exact rejects_attestAgain h hstored now

variable [Hmac] (codec : HmacEntryTokenCodec)

theorem rejects_resolveAt {d : EntryDesk χ} (h : d.Answers) (hkept : WellKept d.store)
    (args : ResolveArgs) (htoken : ¬ HmacEntryTokenCodec.SignedOutsideAscii args.publicToken)
    (now : Int) : Rejects (resolveAt codec args now) d := by
  unfold resolveAt
  split
  · exact rejects_resolveEnvelope h hkept _ _ _
  · next e hverified =>
      rw [if_pos (codec.verify_error htoken hverified)]
      exact rejects_raise _ d

/-- On the tokens of any run, `resolve` returns a context or raises `EntryContextRejected` if the
signature of the token is ASCII, as far as there is one; and only then. -/
theorem resolve_rejects_iff (port : χ) (clock : Int) (calls : List (EntryCall χ))
    (args : ResolveArgs) (h : (run codec { port, clock } calls).Answers) :
    Rejects (resolve codec args) (run codec { port, clock } calls) ↔
      ¬ HmacEntryTokenCodec.SignedOutsideAscii args.publicToken := by
  have hkept : WellKept (run codec { port, clock } calls).store := by
    apply run_wellKept
    exact ⟨fun ref stored h => (by cases h), fun ref stored h => (by cases h)⟩
  generalize run codec { port, clock } calls = d at h hkept
  have hresolve : ∀ e, (exec handle (resolve codec args) d).1 = .error e ↔
      (exec handle (resolveAt codec args (args.nowEpoch.getD d.clock)) d).1 = .error e := by
    intro e
    unfold resolve
    rw [exec_bind_ok _ (exec_current args.nowEpoch d)]
  constructor
  · intro hrejects houtside
    obtain ⟨msg, hverified⟩ := codec.verify_outsideAscii houtside (args.nowEpoch.getD d.clock)
    have hraised : (exec handle (resolve codec args) d).1 = .error ⟨.typeError, msg⟩ := by
      apply (hresolve _).mpr
      unfold resolveAt
      rw [hverified]
      rfl
    cases hrejects _ hraised
  · intro htoken e he
    exact rejects_resolveAt codec h hkept args htoken _ e ((hresolve e).mp he)

end EntryDesk

/-! ## A signature outside ASCII -/

namespace EntryDesk

open EntryContextService HmacEntryTokenCodec

local instance : Hmac := ⟨fun _ _ => fixtureDigest⟩

/-- XBOS, where it knows no place. -/
local instance : XBOSContextPort Unit where
  attestContext port _ _ _ _ _ := (.error ⟨.keyError, "xbos_context_not_found"⟩, port)
  Event := Empty
  occur event := nomatch event

def accentedToken : String := "xc3v1.ent_dG9rZW4.2000.bm9uY2U.é"

theorem accented_typeError : ¬ ∀ args : ResolveArgs,
    Rejects (resolve fixtureCodec args) (run fixtureCodec { port := (), clock := 1000 } []) := by
  intro h
  have hraised : (exec handle (resolve fixtureCodec ⟨accentedToken, none, none⟩)
      (run fixtureCodec { port := (), clock := 1000 } [])).1 =
        .error ⟨.typeError, "comparing strings with non-ASCII characters is not supported"⟩ := by
    decide +kernel
  cases h _ _ hraised

/-- A good token for a record that is not there. -/
theorem resolve_rejects_iff_unknown :
    Rejects (resolve fixtureCodec ⟨fixtureToken, none, none⟩)
      (run fixtureCodec { port := (), clock := 1000 } []) ↔ ¬ SignedOutsideAscii fixtureToken := by
  apply resolve_rejects_iff
  intro merchant location table purpose area e he
  obtain rfl := Except.error.inj he
  decide

end EntryDesk

end XbosCustomerChannel
