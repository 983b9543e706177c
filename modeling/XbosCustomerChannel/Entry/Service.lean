import XbosCustomerChannel.Effects.Execution
import XbosCustomerChannel.Data.Dict
import XbosCustomerChannel.Security.EntryTokens
import XbosCustomerChannel.Session.State

/-!
# The entry context service

`issue_entry` stores what XBOS attests about a place and signs a token for it. `resolve` reads a
token, has the place attested again, compares the two attestations, and claims the record if it is
for a single use. XBOS is a state that may answer anything; the token store is the in-memory one.
-/

namespace XbosCustomerChannel

open Effects Effects.Program Data

inductive ReplayPolicy
  | reusable
  | singleUse
  deriving DecidableEq, Repr

structure EntryTokenRecord where
  tokenRef : String
  tenantRef : Option String
  merchantRef : String
  locationRef : String
  tableRef : Option String
  diningAreaRef : Option String
  purpose : EntryPurpose
  contextBindingRef : String
  expiresAtEpoch : Int
  version : Int
  replayPolicy : ReplayPolicy
  consumedAtEpoch : Option Int := none
  deriving DecidableEq, Repr

def EntryTokenRecord.boundContext (r : EntryTokenRecord) : BoundContext :=
  ⟨r.tenantRef, some r.merchantRef, some r.locationRef, r.tableRef, r.diningAreaRef, some r.purpose,
    some r.contextBindingRef⟩

/-- `replace(record, consumed_at_epoch=consumed_at_epoch)`. -/
def EntryTokenRecord.marked (record : EntryTokenRecord) (consumedAtEpoch : Option Int) :
    EntryTokenRecord :=
  { record with consumedAtEpoch }

namespace EntryTokenRecord

variable (record : EntryTokenRecord) (c : Option Int)

@[simp] theorem marked_replayPolicy : (record.marked c).replayPolicy = record.replayPolicy := rfl

@[simp] theorem marked_consumedAtEpoch : (record.marked c).consumedAtEpoch = c := rfl

theorem marked_self : record.marked record.consumedAtEpoch = record := rfl

end EntryTokenRecord

/-! ## The port and the store -/

class XBOSContextPort (χ : Type) where
  attestContext : χ → (merchantRef locationRef : String) → (tableRef : Option String) →
    (purpose : EntryPurpose) → (diningAreaRef : Option String) →
      Except Exc EntryContextAttestation × χ
  Event : Type
  occur : Event → χ → χ

structure InMemoryEntryTokenStore where
  records : Dict String EntryTokenRecord := ∅

namespace InMemoryEntryTokenStore

variable (store : InMemoryEntryTokenStore)

/-- `self._records[token_ref] = record`. -/
def set (tokenRef : String) (record : EntryTokenRecord) : InMemoryEntryTokenStore :=
  { store with records := store.records.set tokenRef record }

def put (record : EntryTokenRecord) : Except Exc Unit × InMemoryEntryTokenStore :=
  if (store.records.get? record.tokenRef).isSome then
    (.error ⟨.valueError, "duplicate_entry_token_ref"⟩, store)
  else (.ok (), store.set record.tokenRef record)

def get (tokenRef : String) : Option EntryTokenRecord := store.records.get? tokenRef

def consumeIfUnconsumed (tokenRef : String) (consumedAtEpoch : Int) :
    Except Exc (Option EntryTokenRecord) × InMemoryEntryTokenStore :=
  match store.records.get? tokenRef with
  | none => (.error ⟨.keyError, "entry_token_not_found"⟩, store)
  | some record =>
      if record.consumedAtEpoch.isSome then (.ok none, store)
      else
        let updated := record.marked (some consumedAtEpoch)
        (.ok (some updated), store.set tokenRef updated)

theorem get_set (tokenRef tokenRef' : String) (record : EntryTokenRecord) :
    (store.set tokenRef record).get tokenRef' =
      if tokenRef' = tokenRef then some record else store.get tokenRef' :=
  Dict.get?_set _ _ _ _

/-- A claim marks a record that was not marked, or it changes nothing. -/
theorem consumeIfUnconsumed_cases (tokenRef : String) (now : Int) :
    (∃ record, store.get tokenRef = some record ∧ record.consumedAtEpoch = none ∧
      store.consumeIfUnconsumed tokenRef now =
        (.ok (some (record.marked (some now))), store.set tokenRef (record.marked (some now)))) ∨
    ∃ answer, (answer = .ok none ∨ ∃ e, answer = .error e) ∧
      store.consumeIfUnconsumed tokenRef now = (answer, store) := by
  unfold consumeIfUnconsumed get
  split
  · exact .inr ⟨_, .inr ⟨_, rfl⟩, rfl⟩
  next record hrecord =>
  split
  · exact .inr ⟨_, .inl rfl, rfl⟩
  next hunconsumed =>
  exact .inl ⟨record, hrecord, by simpa using hunconsumed, rfl⟩

end InMemoryEntryTokenStore

/-! ## Operations -/

inductive EntryOp
  /-- `int(time.time())` -/
  | time
  | attestContext (merchantRef locationRef : String) (tableRef : Option String)
      (purpose : EntryPurpose) (diningAreaRef : Option String)
  | put (record : EntryTokenRecord)
  | get (tokenRef : String)
  | consumeIfUnconsumed (tokenRef : String) (consumedAtEpoch : Int)

abbrev EntryOp.Resp : EntryOp → Type
  | time => Int
  | attestContext _ _ _ _ _ => Except Exc EntryContextAttestation
  | put _ => Except Exc Unit
  | get _ => Option EntryTokenRecord
  | consumeIfUnconsumed _ _ => Except Exc (Option EntryTokenRecord)

abbrev EntryBoundary : Signature where
  Op := EntryOp
  Resp := EntryOp.Resp

abbrev EntryCallOf (α : Type) := Program EntryBoundary Exc α

abbrev askEntry (op : EntryOp) : EntryCallOf op.Resp :=
  @Program.call EntryBoundary Exc _ op .done

/-- XBOS, the clock, and the tokens issued so far. -/
structure EntryDesk (χ : Type) where
  port : χ
  clock : Int
  store : InMemoryEntryTokenStore := {}

/-- One atomic operation. -/
def EntryDesk.handle {χ : Type} [XBOSContextPort χ] : Handler EntryBoundary (EntryDesk χ)
  | .time, d => (d.clock, d)
  | .attestContext merchant location table purpose area, d =>
      let answer := XBOSContextPort.attestContext d.port merchant location table purpose area
      (answer.1, { d with port := answer.2 })
  | .put record, d =>
      let done := d.store.put record
      (done.1, { d with store := done.2 })
  | .get tokenRef, d => (d.store.get tokenRef, d)
  | .consumeIfUnconsumed tokenRef consumedAtEpoch, d =>
      let done := d.store.consumeIfUnconsumed tokenRef consumedAtEpoch
      (done.1, { d with store := done.2 })

/-- XBOS's answer about a place. -/
def EntryDesk.attestation {χ : Type} [XBOSContextPort χ] (d : EntryDesk χ)
    (merchantRef locationRef : String) (tableRef : Option String) (purpose : EntryPurpose)
    (diningAreaRef : Option String) : Except Exc EntryContextAttestation :=
  (XBOSContextPort.attestContext d.port merchantRef locationRef tableRef purpose diningAreaRef).1

theorem askEntry_bind {α : Type} (op : EntryOp) (f : op.Resp → EntryCallOf α) :
    askEntry op >>= f = .call op f := rfl

theorem exec_askEntry_bind {χ α : Type} [XBOSContextPort χ] (op : EntryOp)
    (f : op.Resp → EntryCallOf α) (d : EntryDesk χ) :
    exec EntryDesk.handle (askEntry op >>= f) d =
      exec EntryDesk.handle (f (EntryDesk.handle op d).1) (EntryDesk.handle op d).2 := rfl

/-! ## The service -/

/-- The keyword arguments of `issue_entry`, and the two texts it draws. -/
structure IssueEntryArgs where
  merchantRef : String
  locationRef : String
  tableRef : Option String
  diningAreaRef : Option String
  purpose : EntryPurpose
  expiresAtEpoch : Int
  replayPolicy : ReplayPolicy
  nowEpoch : Option Int := none
  /-- `secrets.token_urlsafe(24)` -/
  tokenDraw : String
  /-- `secrets.token_urlsafe(18)` -/
  nonceDraw : String

structure ResolveArgs where
  publicToken : String
  nowEpoch : Option Int := none
  expectedMerchantRef : Option String := none

namespace EntryContextService

def tokenVersion : Int := 1

def rejected (msg : String) : Exc := ⟨.entryContextRejected, msg⟩

/-- `int(time.time()) if now_epoch is None else now_epoch`. -/
def current (nowEpoch : Option Int) : EntryCallOf Int :=
  match nowEpoch with
  | none => askEntry .time
  | some now => pure now

/-- What becomes of an answer of `attest_context`: a refusal says only that there is no context. -/
def answered : Except Exc EntryContextAttestation → EntryCallOf EntryContextAttestation
  | .ok attestation => pure attestation
  | .error e =>
      if e.caughtBy [.keyError, .permissionError, .valueError] then
        raise (rejected "entry_context_unavailable")
      else raise e

/-- `attest_context` and the `except` clause around it. -/
def attest (merchantRef locationRef : String) (tableRef : Option String) (purpose : EntryPurpose)
    (diningAreaRef : Option String) : EntryCallOf EntryContextAttestation := do
  let answer : Except Exc EntryContextAttestation ←
    askEntry (.attestContext merchantRef locationRef tableRef purpose diningAreaRef)
  answered answer

section Exec

variable {χ : Type} [XBOSContextPort χ]

theorem exec_current (nowEpoch : Option Int) (d : EntryDesk χ) :
    exec EntryDesk.handle (current nowEpoch) d = (.ok (nowEpoch.getD d.clock), d) := by
  cases nowEpoch <;> rfl

theorem answered_cases (answer : Except Exc EntryContextAttestation) :
    (∃ attestation, answer = .ok attestation ∧ answered answer = .done attestation) ∨
      ∃ e, answered answer = .raise e := by
  cases answer with
  | ok attestation => exact .inl ⟨attestation, rfl, rfl⟩
  | error e =>
      unfold answered
      dsimp only
      split <;> exact .inr ⟨_, rfl⟩

/-- Attesting goes by XBOS's answer and changes nothing else. -/
theorem exec_attest (merchantRef locationRef : String) (tableRef : Option String)
    (purpose : EntryPurpose) (diningAreaRef : Option String) (d : EntryDesk χ) :
    ∃ port, (∃ a, d.attestation merchantRef locationRef tableRef purpose diningAreaRef = .ok a ∧
        exec EntryDesk.handle (attest merchantRef locationRef tableRef purpose diningAreaRef) d =
          (.ok a, { d with port })) ∨
      ∃ e, exec EntryDesk.handle (attest merchantRef locationRef tableRef purpose diningAreaRef) d =
        (.error e, { d with port }) := by
  unfold attest EntryDesk.attestation
  rw [exec_askEntry_bind]
  dsimp only [EntryDesk.handle]
  obtain ⟨answer, port⟩ :=
    XBOSContextPort.attestContext d.port merchantRef locationRef tableRef purpose diningAreaRef
  refine ⟨port, ?_⟩
  rcases answered_cases answer with ⟨a, rfl, h⟩ | ⟨e, h⟩
  · exact .inl ⟨a, rfl, by rw [h]; rfl⟩
  · exact .inr ⟨e, by rw [h]; rfl⟩

end Exec

/-- `_assert_attestation_matches_request`. -/
def assertAttestationMatchesRequest (attestation : EntryContextAttestation) (args : IssueEntryArgs) :
    EntryCallOf Unit := do
  raiseIf (attestation.merchantRef ≠ args.merchantRef ∨ attestation.locationRef ≠ args.locationRef)
    (rejected "entry_context_chain_mismatch")
  raiseIf (attestation.tableRef ≠ args.tableRef ∨ attestation.purpose ≠ args.purpose)
    (rejected "entry_context_chain_mismatch")
  raiseIf (args.diningAreaRef.isSome ∧ attestation.diningAreaRef ≠ args.diningAreaRef)
    (rejected "entry_context_chain_mismatch")
  raiseIf (attestation.contextBindingRef = "") (rejected "entry_context_binding_missing")

/-- The record of a token for an attested place. -/
def entryRecord (args : IssueEntryArgs) (attestation : EntryContextAttestation) :
    EntryTokenRecord where
  tokenRef := "ent_" ++ args.tokenDraw
  tenantRef := attestation.tenantRef
  merchantRef := attestation.merchantRef
  locationRef := attestation.locationRef
  tableRef := attestation.tableRef
  diningAreaRef := attestation.diningAreaRef
  purpose := attestation.purpose
  contextBindingRef := attestation.contextBindingRef
  expiresAtEpoch := args.expiresAtEpoch
  version := tokenVersion
  replayPolicy := args.replayPolicy

/-- The context of a resolved token. -/
def resolvedContext (record : EntryTokenRecord) (attestation : EntryContextAttestation) :
    ResolvedEntryContext where
  tokenRef := record.tokenRef
  tenantRef := attestation.tenantRef
  merchantRef := attestation.merchantRef
  locationRef := attestation.locationRef
  tableRef := attestation.tableRef
  diningAreaRef := attestation.diningAreaRef
  purpose := attestation.purpose
  contextBindingRef := attestation.contextBindingRef
  projection := attestation.projection

/-- `_record_matches_attestation`. -/
def recordMatchesAttestation (record : EntryTokenRecord) (attestation : EntryContextAttestation) :
    Bool :=
  record.boundContext = attestation.boundContext

variable (codec : HmacEntryTokenCodec) [Hmac]

/-- `issue_entry`. -/
def issueEntry (args : IssueEntryArgs) : EntryCallOf (EntryTokenRecord × String) := do
  let now ← current args.nowEpoch
  raiseIf (args.expiresAtEpoch ≤ now) ⟨.valueError, "entry_expiry_must_be_future"⟩
  raiseIf (args.purpose = .dineIn ∧ args.tableRef = none)
    ⟨.valueError, "table_required_for_dine_in"⟩
  let attestation ← attest args.merchantRef args.locationRef args.tableRef args.purpose
    args.diningAreaRef
  assertAttestationMatchesRequest attestation args
  let record := entryRecord args attestation
  let stored : Except Exc Unit ← askEntry (.put record)
  ofExcept stored
  let token ← ofExcept
    (codec.issue record.version record.tokenRef record.expiresAtEpoch args.nonceDraw)
  pure (record, token)

/-- The end of `resolve`, once a record for a single use is claimed or was not to be had. -/
def claimedContext (record : EntryTokenRecord) (attestation : EntryContextAttestation)
    (answer : Except Exc (Option EntryTokenRecord)) : EntryCallOf ResolvedEntryContext := do
  let claimed ← ofExcept answer
  raiseIf (claimed = none) (rejected "unsafe_replay_rejected")
  pure (resolvedContext record attestation)

/-- The part of `resolve` after the comparison of the attestations. -/
def claim (record : EntryTokenRecord) (attestation : EntryContextAttestation) (now : Int) :
    EntryCallOf ResolvedEntryContext :=
  match record.replayPolicy with
  | .reusable => pure (resolvedContext record attestation)
  | .singleUse => do
      let answer : Except Exc (Option EntryTokenRecord) ←
        askEntry (.consumeIfUnconsumed record.tokenRef now)
      claimedContext record attestation answer

/-- The part of `resolve` after the place was attested again. -/
def compareAgain (record : EntryTokenRecord) (now : Int) (attestation : EntryContextAttestation) :
    EntryCallOf ResolvedEntryContext := do
  raiseIf (¬ recordMatchesAttestation record attestation) (rejected "stale_entry_context_rejected")
  claim record attestation now

/-- The part of `resolve` after the checks of the record. -/
def attestAgain (record : EntryTokenRecord) (now : Int) : EntryCallOf ResolvedEntryContext := do
  let attestation ← attest record.merchantRef record.locationRef record.tableRef record.purpose
    record.diningAreaRef
  compareAgain record now attestation

/-- The part of `resolve` after the record was read. -/
def checkRecord (envelope : VerifiedTokenEnvelope) (expectedMerchantRef : Option String) (now : Int) :
    Option EntryTokenRecord → EntryCallOf ResolvedEntryContext
  | none => raise (rejected "invalid_or_unknown_entry")
  | some record => do
      raiseIf (record.version ≠ envelope.version ∨ record.expiresAtEpoch ≠ envelope.expiresAtEpoch)
        (rejected "invalid_or_unknown_entry")
      raiseIf (expectedMerchantRef.isSome ∧ expectedMerchantRef ≠ some record.merchantRef)
        (rejected "cross_tenant_context_rejected")
      raiseIf (record.replayPolicy = .singleUse ∧ record.consumedAtEpoch.isSome)
        (rejected "unsafe_replay_rejected")
      attestAgain record now

/-- The part of `resolve` after the token is verified. -/
def resolveEnvelope (envelope : VerifiedTokenEnvelope) (expectedMerchantRef : Option String)
    (now : Int) : EntryCallOf ResolvedEntryContext := do
  let stored : Option EntryTokenRecord ← askEntry (.get envelope.tokenRef)
  checkRecord envelope expectedMerchantRef now stored

/-- The part of `resolve` at a known time; only an invalid token is rejected under the codec's
reason. -/
def resolveAt (args : ResolveArgs) (now : Int) : EntryCallOf ResolvedEntryContext :=
  match codec.verify args.publicToken now with
  | .ok envelope => resolveEnvelope envelope args.expectedMerchantRef now
  | .error e => if e.cls = .invalidEntryToken then raise (rejected e.str) else raise e

/-- `resolve`. -/
def resolve (args : ResolveArgs) : EntryCallOf ResolvedEntryContext := do
  let now ← current args.nowEpoch
  resolveAt codec args now

/-! ## What the calls do -/

variable {χ : Type} [XBOSContextPort χ]

omit [Hmac] in
/-- The request's checks let an attestation through or stop. -/
theorem assertAttestationMatchesRequest_cases (attestation : EntryContextAttestation)
    (args : IssueEntryArgs) :
    assertAttestationMatchesRequest attestation args = .done () ∨
      ∃ e, assertAttestationMatchesRequest attestation args = .raise e := by
  unfold assertAttestationMatchesRequest raiseIf
  split
  · exact .inr ⟨_, rfl⟩
  split
  · exact .inr ⟨_, rfl⟩
  split
  · exact .inr ⟨_, rfl⟩
  split
  · exact .inr ⟨_, rfl⟩
  exact .inl rfl

/-- Issuing stores the record of what XBOS attested under a free reference, and then depends on the
codec alone; or it stores nothing. -/
theorem issueEntry_cases (args : IssueEntryArgs) (d : EntryDesk χ) :
    (∃ a port, d.attestation args.merchantRef args.locationRef args.tableRef args.purpose
        args.diningAreaRef = .ok a ∧
      d.store.get (entryRecord args a).tokenRef = none ∧
      exec EntryDesk.handle (issueEntry codec args) d =
        ((codec.issue tokenVersion (entryRecord args a).tokenRef args.expiresAtEpoch
            args.nonceDraw).map fun token => (entryRecord args a, token),
          { d with
            port := port
            store := d.store.set (entryRecord args a).tokenRef (entryRecord args a) })) ∨
    ∃ e port, exec EntryDesk.handle (issueEntry codec args) d = (.error e, { d with port }) := by
  unfold issueEntry
  rw [exec_bind_ok _ (exec_current args.nowEpoch d), exec_raiseIf_bind]
  split
  · exact .inr ⟨_, d.port, rfl⟩
  rw [exec_raiseIf_bind]
  split
  · exact .inr ⟨_, d.port, rfl⟩
  obtain ⟨port, ⟨a, ha, hexec⟩ | ⟨e, hexec⟩⟩ := exec_attest args.merchantRef args.locationRef
    args.tableRef args.purpose args.diningAreaRef d
  case inr => exact .inr ⟨e, port, exec_bind_error _ hexec _⟩
  rw [exec_bind_ok _ hexec]
  rcases assertAttestationMatchesRequest_cases a args with hmatches | ⟨e, hmatches⟩
  case inr => exact .inr ⟨e, port, by rw [hmatches]; rfl⟩
  rw [hmatches, done_bind, exec_askEntry_bind]
  dsimp only [EntryDesk.handle, InMemoryEntryTokenStore.put]
  split
  · exact .inr ⟨_, port, rfl⟩
  next hfree =>
  -- the record is stored by now; the codec may still refuse its own fields
  refine .inl ⟨a, port, ha, Option.not_isSome_iff_eq_none.mp hfree, ?_⟩
  rw [ofExcept_ok, done_bind]
  cases hissued : codec.issue tokenVersion (entryRecord args a).tokenRef args.expiresAtEpoch
    args.nonceDraw with
  | ok token =>
      have hissued' : codec.issue (entryRecord args a).version (entryRecord args a).tokenRef
        (entryRecord args a).expiresAtEpoch args.nonceDraw = .ok token := hissued
      rw [hissued']
      rfl
  | error e =>
      have hissued' : codec.issue (entryRecord args a).version (entryRecord args a).tokenRef
        (entryRecord args a).expiresAtEpoch args.nonceDraw = .error e := hissued
      rw [hissued']
      rfl

omit [Hmac] in
/-- A read record is refused, or it is the token's and for the merchant that is expected. -/
theorem checkRecord_cases (envelope : VerifiedTokenEnvelope) (expected : Option String) (now : Int)
    (stored : Option EntryTokenRecord) :
    (∃ record, stored = some record ∧ record.expiresAtEpoch = envelope.expiresAtEpoch ∧
      (∀ merchant, expected = some merchant → merchant = record.merchantRef) ∧
      checkRecord envelope expected now stored = attestAgain record now) ∨
    ∃ e, checkRecord envelope expected now stored = .raise e := by
  cases stored with
  | none => exact .inr ⟨_, rfl⟩
  | some record =>
      simp only [checkRecord, raiseIf]
      split
      · exact .inr ⟨_, rfl⟩
      next hversion =>
      split
      · exact .inr ⟨_, rfl⟩
      next hmerchant =>
      split
      · exact .inr ⟨_, rfl⟩
      refine .inl ⟨record, rfl, ?_, fun merchant heq => ?_, rfl⟩
      · by_contra hne
        exact hversion (.inr hne)
      · by_contra hne
        exact hmerchant ⟨by rw [heq]; rfl, by rw [heq]; simpa using hne⟩

omit [Hmac] in
theorem compareAgain_cases (record : EntryTokenRecord) (now : Int) (a : EntryContextAttestation) :
    record.boundContext = a.boundContext ∧ compareAgain record now a = claim record a now ∨
      ∃ e, compareAgain record now a = .raise e := by
  unfold compareAgain raiseIf
  split
  · exact .inr ⟨_, rfl⟩
  next hmatches => exact .inl ⟨by simpa [recordMatchesAttestation] using hmatches, rfl⟩

/-- The store after a record was claimed. -/
def claimed (store : InMemoryEntryTokenStore) (record : EntryTokenRecord) (now : Int) :
    InMemoryEntryTokenStore :=
  match record.replayPolicy with
  | .reusable => store
  | .singleUse => (store.consumeIfUnconsumed record.tokenRef now).2

omit [Hmac] in
theorem claim_cases (record : EntryTokenRecord) (a : EntryContextAttestation) (now : Int)
    (d : EntryDesk χ) :
    exec EntryDesk.handle (claim record a now) d =
      (.ok (resolvedContext record a), { d with store := claimed d.store record now }) ∨
    ∃ e, exec EntryDesk.handle (claim record a now) d = (.error e, d) := by
  unfold claim claimed
  split
  · exact .inl rfl
  rw [exec_askEntry_bind]
  dsimp only [EntryDesk.handle]
  rcases d.store.consumeIfUnconsumed_cases record.tokenRef now with
    ⟨stored, -, -, hconsumed⟩ | ⟨answer, rfl | ⟨e, rfl⟩, hconsumed⟩
  · rw [hconsumed]
    exact .inl rfl
  · rw [hconsumed]
    exact .inr ⟨_, rfl⟩
  · rw [hconsumed]
    exact .inr ⟨_, rfl⟩

omit [Hmac] in
theorem attestAgain_cases (record : EntryTokenRecord) (now : Int) (d : EntryDesk χ) :
    (∃ a port, record.boundContext = a.boundContext ∧
      exec EntryDesk.handle (attestAgain record now) d =
        (.ok (resolvedContext record a),
          { d with port := port, store := claimed d.store record now })) ∨
    ∃ e port, exec EntryDesk.handle (attestAgain record now) d = (.error e, { d with port }) := by
  unfold attestAgain
  obtain ⟨port, ⟨a, -, hexec⟩ | ⟨e, hexec⟩⟩ := exec_attest record.merchantRef record.locationRef
    record.tableRef record.purpose record.diningAreaRef d
  case inr => exact .inr ⟨e, port, exec_bind_error _ hexec _⟩
  rw [exec_bind_ok _ hexec]
  rcases compareAgain_cases record now a with ⟨hcontext, hcompare⟩ | ⟨e, hcompare⟩
  case inr => exact .inr ⟨e, port, by rw [hcompare]; rfl⟩
  rw [hcompare]
  rcases claim_cases record a now { d with port } with hclaim | ⟨e, hclaim⟩
  · exact .inl ⟨a, port, hcontext, hclaim⟩
  · exact .inr ⟨e, port, hclaim⟩

/-- What a token that is resolved went through; one that is not leaves the store alone. -/
theorem resolve_cases (args : ResolveArgs) (d : EntryDesk χ) :
    (∃ envelope record a port,
      codec.verify args.publicToken (args.nowEpoch.getD d.clock) = .ok envelope ∧
      d.store.get envelope.tokenRef = some record ∧
      record.expiresAtEpoch = envelope.expiresAtEpoch ∧
      (∀ merchant, args.expectedMerchantRef = some merchant → merchant = record.merchantRef) ∧
      record.boundContext = a.boundContext ∧
      exec EntryDesk.handle (resolve codec args) d =
        (.ok (resolvedContext record a), { d with
          port := port
          store := claimed d.store record (args.nowEpoch.getD d.clock) })) ∨
    ∃ e port, exec EntryDesk.handle (resolve codec args) d = (.error e, { d with port }) := by
  unfold resolve
  rw [exec_bind_ok _ (exec_current args.nowEpoch d)]
  unfold resolveAt
  split
  case h_2 =>
    split <;> exact .inr ⟨_, d.port, rfl⟩
  next envelope hverified =>
  unfold resolveEnvelope
  rw [exec_askEntry_bind]
  dsimp only [EntryDesk.handle]
  rcases checkRecord_cases envelope args.expectedMerchantRef (args.nowEpoch.getD d.clock)
    (d.store.get envelope.tokenRef) with
    ⟨record, hrecord, hexpiry, hmerchant, hcheck⟩ | ⟨e, hcheck⟩
  case inr => exact .inr ⟨e, d.port, by rw [hcheck]; rfl⟩
  rw [hcheck]
  rcases attestAgain_cases record (args.nowEpoch.getD d.clock) d with
    ⟨a, port, hcontext, hexec⟩ | ⟨e, port, hexec⟩
  · exact .inl ⟨envelope, record, a, port, hverified, hrecord, hexpiry, hmerchant, hcontext, hexec⟩
  · exact .inr ⟨e, port, hexec⟩

end EntryContextService

end XbosCustomerChannel
