import XbosCustomerChannel.Entry.Reassigned
import XbosCustomerChannel.Entry.RoundTrip
import XbosCustomerChannel.Entry.SingleUse

/-!
# Tokens of reassigned tables

The entry service in front of the fixture of XBOS, whose tables are reassigned between the calls. A
token is good for as long as its table is the one it was issued for.
-/

namespace XbosCustomerChannel

open Effects Data

namespace EntryDesk

open EntryContextService

/-! ## When a stored record is resolved -/

section Resolving

variable {χ : Type} [XBOSContextPort χ]

theorem exec_claim_ok {record : EntryTokenRecord} {d : EntryDesk χ}
    (hget : d.store.get record.tokenRef = some record)
    (hfree : record.replayPolicy = .singleUse → record.consumedAtEpoch = none)
    (a : EntryContextAttestation) (now : Int) :
    (exec handle (claim record a now) d).1 = .ok (resolvedContext record a) := by
  unfold claim
  split
  · rfl
  next hsingle =>
  rw [exec_askEntry_bind]
  rcases d.store.consumeIfUnconsumed_cases record.tokenRef now with
    ⟨stored, -, -, hconsumed⟩ | ⟨answer, hanswer, hconsumed⟩
  · dsimp only [handle]
    rw [hconsumed]
    rfl
  · exfalso
    have hnone := hfree hsingle
    unfold InMemoryEntryTokenStore.get at hget
    unfold InMemoryEntryTokenStore.consumeIfUnconsumed at hconsumed
    simp only [hget, hnone, Option.isSome_none, Bool.false_eq_true, if_false, Prod.mk.injEq]
      at hconsumed
    rcases hanswer with rfl | ⟨e, rfl⟩
    · cases Except.ok.inj hconsumed.1
    · cases hconsumed.1

theorem exec_attest_of_ok {d : EntryDesk χ} {merchantRef locationRef : String}
    {tableRef : Option String} {purpose : EntryPurpose} {diningAreaRef : Option String}
    {a : EntryContextAttestation}
    (h : d.attestation merchantRef locationRef tableRef purpose diningAreaRef = .ok a) :
    ∃ port, exec handle (attest merchantRef locationRef tableRef purpose diningAreaRef) d =
      (.ok a, { d with port }) := by
  unfold attestation at h
  unfold attest
  rw [exec_askEntry_bind]
  dsimp only [handle]
  rw [h]
  exact ⟨_, rfl⟩

/-- A record that may be used is resolved if XBOS attests its place as it did before. -/
theorem attestAgain_ok_iff {record : EntryTokenRecord} {d : EntryDesk χ}
    (hget : d.store.get record.tokenRef = some record)
    (hfree : record.replayPolicy = .singleUse → record.consumedAtEpoch = none) (now : Int) :
    (∃ context, (exec handle (attestAgain record now) d).1 = .ok context) ↔
      ∃ a, d.attestation record.merchantRef record.locationRef record.tableRef record.purpose
        record.diningAreaRef = .ok a ∧ a.boundContext = record.boundContext := by
  unfold attestAgain
  obtain ⟨port, ⟨a, ha, hexec⟩ | ⟨e, hexec⟩⟩ := exec_attest record.merchantRef record.locationRef
    record.tableRef record.purpose record.diningAreaRef d
  · rw [exec_bind_ok _ hexec, ha]
    unfold compareAgain
    rw [exec_raiseIf_bind]
    by_cases hsame : a.boundContext = record.boundContext
    · rw [if_neg (by simp [recordMatchesAttestation, hsame]),
        exec_claim_ok (d := { d with port }) hget hfree]
      exact iff_of_true ⟨_, rfl⟩ ⟨a, rfl, hsame⟩
    · rw [if_pos (by simp [recordMatchesAttestation, Ne.symm hsame])]
      apply iff_of_false
      · rintro ⟨context, h⟩
        cases h
      · rintro ⟨a', ha', hsame'⟩
        obtain rfl := Except.ok.inj ha'
        exact hsame hsame'
  · rw [exec_bind_error _ hexec]
    apply iff_of_false
    · rintro ⟨context, h⟩
      cases h
    · rintro ⟨a, ha, -⟩
      obtain ⟨port', hok⟩ := exec_attest_of_ok ha
      rw [hok] at hexec
      cases congrArg Prod.fst hexec

variable [Hmac] (codec : HmacEntryTokenCodec)

/-- What `resolve` does with a token that is verified, if its record is stored. -/
theorem exec_resolve_of_stored {record : EntryTokenRecord} {d : EntryDesk χ} {token : String}
    {nonce : String} {now : Int}
    (hverified : codec.verify token now =
      .ok ⟨record.version, record.tokenRef, record.expiresAtEpoch, nonce⟩)
    (hget : d.store.get record.tokenRef = some record) :
    exec handle (resolve codec { publicToken := token, nowEpoch := some now }) d =
      if record.replayPolicy = .singleUse ∧ record.consumedAtEpoch.isSome then
        (.error (rejected "unsafe_replay_rejected"), d)
      else exec handle (attestAgain record now) d := by
  unfold resolve
  rw [exec_bind_ok _ (exec_current _ d)]
  unfold resolveAt
  dsimp only [Option.getD_some]
  rw [hverified]
  dsimp only
  unfold resolveEnvelope
  rw [exec_askEntry_bind]
  dsimp only [handle]
  rw [hget]
  unfold checkRecord
  rw [exec_raiseIf_bind, if_neg (by simp), exec_raiseIf_bind, if_neg (by simp), exec_raiseIf_bind]

end Resolving

/-! ## Records stay -/

section Stored

variable {χ : Type} [XBOSContextPort χ] [Hmac] (codec : HmacEntryTokenCodec)

theorem Stored.step {record : EntryTokenRecord} {d : EntryDesk χ} (h : Stored d.store record)
    (call : EntryCall χ) : Stored (step codec d call).store record := by
  obtain ⟨c, hget⟩ := h
  unfold EntryDesk.step
  cases call with
  | issueEntry args =>
      dsimp only
      rcases issueEntry_cases codec args d with ⟨a, port, -, hfree, hexec⟩ | ⟨e, port, hexec⟩
      · rw [hexec]
        refine ⟨c, ?_⟩
        rw [InMemoryEntryTokenStore.get_set, if_neg]
        · exact hget
        · intro heq
          rw [← heq, hget] at hfree
          cases hfree
      · rw [hexec]
        exact ⟨c, hget⟩
  | resolve args =>
      dsimp only
      rcases resolve_cases codec args d with
        ⟨envelope, resolved, a, port, -, -, -, -, -, hexec⟩ | ⟨e, port, hexec⟩
      · rw [hexec]
        unfold claimed
        split
        · exact ⟨c, hget⟩
        rcases d.store.consumeIfUnconsumed_cases resolved.tokenRef (args.nowEpoch.getD d.clock) with
          ⟨marked, hmarked, -, hconsumed⟩ | ⟨answer, -, hconsumed⟩
        · rw [hconsumed]
          unfold Stored
          dsimp only
          rw [InMemoryEntryTokenStore.get_set]
          split
          · next heq =>
            rw [← heq, hget] at hmarked
            obtain rfl := Option.some.inj hmarked
            exact ⟨_, rfl⟩
          · exact ⟨c, hget⟩
        · rw [hconsumed]
          exact ⟨c, hget⟩
      · rw [hexec]
        exact ⟨c, hget⟩
  | outside change =>
      dsimp only
      rw [change_store]
      exact ⟨c, hget⟩

theorem Stored.run {record : EntryTokenRecord} {d : EntryDesk χ} (h : Stored d.store record)
    (calls : List (EntryCall χ)) : Stored (run codec d calls).store record := by
  induction calls generalizing d with
  | nil => exact h
  | cons call calls ih => exact ih (h.step codec call)

end Stored

/-! ## XBOS between the calls -/

section Fixture

open FakeXBOSContextClient

/-- The reassignment that an entry of a run is. -/
def reassignment? : EntryCall FakeXBOSContextClient → Option Reassignment
  | .outside (.xbosChanges r) => some r
  | _ => none

/-- The reassignments in a run. -/
def reassignments (calls : List (EntryCall FakeXBOSContextClient)) : List Reassignment :=
  calls.filterMap reassignment?

/-- The calls of the service leave the tables as they are. -/
theorem exec_port {α : Type} (p : EntryCallOf α) (d : EntryDesk FakeXBOSContextClient) :
    (exec handle p d).2.port = d.port := by
  apply exec_invariant (I := fun d' => d'.port = d.port) handle _ (Program.Uses.all p) rfl
  intro op d' _ hport
  cases op <;> exact hport

variable [Hmac] (codec : HmacEntryTokenCodec)

theorem port_run (d : EntryDesk FakeXBOSContextClient)
    (calls : List (EntryCall FakeXBOSContextClient)) :
    (run codec d calls).port = d.port.run (reassignments calls) := by
  induction calls generalizing d with
  | nil => rfl
  | cons call calls ih =>
      show (run codec (step codec d call) calls).port = _
      rw [ih]
      cases call with
      | issueEntry args => exact congrArg (·.run (reassignments calls)) (exec_port _ d)
      | resolve args => exact congrArg (·.run (reassignments calls)) (exec_port _ d)
      | outside change =>
          cases change with
          | xbosChanges r => rfl
          | clockChanges now => rfl

/-- The place of a record. -/
def recordPlace (record : EntryTokenRecord) : Place :=
  (record.merchantRef, record.locationRef, record.tableRef)

end Fixture

section Moved

open HmacEntryTokenCodec FakeXBOSContextClient

local instance movedHmac : Hmac := ⟨fun _ _ => fixtureDigest⟩

/-- A token for the table that `moved` reassigns. -/
def tableEntry : IssueEntryArgs where
  merchantRef := "merchant:fixture:alpha"
  locationRef := "location:fixture:one"
  tableRef := some "table:fixture:a1"
  diningAreaRef := none
  purpose := .dineIn
  expiresAtEpoch := 2000
  replayPolicy := .reusable
  nowEpoch := some 1000
  tokenDraw := "dG9rZW4"
  nonceDraw := "bm9uY2U"

end Moved

end EntryDesk

end XbosCustomerChannel
