import XbosCustomerChannel.Entry.Service

/-!
# Entry contexts and what was attested at issue

Runs of `issue_entry` and `resolve` on one service, with XBOS and the clock changing in between.
Every stored record is one that was issued, up to the mark of its use, so a context that `resolve`
returns is the one attested when its token was issued.
-/

namespace XbosCustomerChannel

open Effects Data

/-- A claim only marks records. -/
theorem EntryContextService.get_claimed {store : InMemoryEntryTokenStore} {record : EntryTokenRecord}
    {now : Int} {ref : String} {stored : EntryTokenRecord}
    (h : (claimed store record now).get ref = some stored) :
    ∃ before c, store.get ref = some before ∧ stored = before.marked c := by
  unfold claimed at h
  split at h
  · exact ⟨stored, stored.consumedAtEpoch, h, rfl⟩
  rcases store.consumeIfUnconsumed_cases record.tokenRef now with
    ⟨unmarked, hunmarked, -, hconsumed⟩ | ⟨answer, -, hconsumed⟩
  · rw [hconsumed] at h
    dsimp only at h
    rw [InMemoryEntryTokenStore.get_set] at h
    split at h
    · next heq =>
        subst heq
        exact ⟨unmarked, some now, hunmarked, (Option.some.inj h).symm⟩
    · exact ⟨stored, stored.consumedAtEpoch, h, rfl⟩
  · rw [hconsumed] at h
    exact ⟨stored, stored.consumedAtEpoch, h, rfl⟩

/-! ## Runs -/

/-- A change from outside. -/
inductive EntryChange (χ : Type) [XBOSContextPort χ]
  | xbosChanges (event : XBOSContextPort.Event χ)
  | clockChanges (now : Int)

inductive EntryCall (χ : Type) [XBOSContextPort χ]
  | issueEntry (args : IssueEntryArgs)
  | resolve (args : ResolveArgs)
  | outside (change : EntryChange χ)

namespace EntryDesk

open EntryContextService

variable {χ : Type} [XBOSContextPort χ] [Hmac] (codec : HmacEntryTokenCodec)

def change (d : EntryDesk χ) : EntryChange χ → EntryDesk χ
  | .xbosChanges event => { d with port := XBOSContextPort.occur event d.port }
  | .clockChanges now => { d with clock := now }

omit [Hmac] in
@[simp] theorem change_store (d : EntryDesk χ) (c : EntryChange χ) : (d.change c).store = d.store := by
  cases c <;> rfl

/-- One entry of a run. -/
def step (d : EntryDesk χ) : EntryCall χ → EntryDesk χ
  | .issueEntry args => (exec handle (issueEntry codec args) d).2
  | .resolve args => (exec handle (resolve codec args) d).2
  | .outside c => d.change c

def run (d : EntryDesk χ) (calls : List (EntryCall χ)) : EntryDesk χ := calls.foldl (step codec) d

theorem run_concat (d : EntryDesk χ) (calls : List (EntryCall χ)) (call : EntryCall χ) :
    run codec d (calls ++ [call]) = step codec (run codec d calls) call := by
  simp [run]

/-- A call of the run stored the record, on XBOS's attestation; what it returned was then up to the
codec. -/
def IssuedBy (d₀ : EntryDesk χ) (calls : List (EntryCall χ)) (record : EntryTokenRecord) : Prop :=
  ∃ before args after attestation, calls = before ++ .issueEntry args :: after ∧
    (run codec d₀ before).attestation args.merchantRef args.locationRef args.tableRef args.purpose
      args.diningAreaRef = .ok attestation ∧
    record = entryRecord args attestation ∧
    (exec handle (issueEntry codec args) (run codec d₀ before)).1 =
      (codec.issue tokenVersion record.tokenRef args.expiresAtEpoch args.nonceDraw).map
        fun token => (record, token)

theorem IssuedBy.concat {d₀ : EntryDesk χ} {calls : List (EntryCall χ)} {record : EntryTokenRecord}
    (h : IssuedBy codec d₀ calls record) (call : EntryCall χ) :
    IssuedBy codec d₀ (calls ++ [call]) record := by
  obtain ⟨before, args, after, attestation, rfl, h⟩ := h
  exact ⟨before, args, after ++ [call], attestation, by simp, h⟩

/-- Every stored record is, up to its mark, one that a call of the run issued. -/
def Filed (d₀ : EntryDesk χ) (calls : List (EntryCall χ)) (store : InMemoryEntryTokenStore) : Prop :=
  ∀ ref stored, store.get ref = some stored →
    ∃ record c, IssuedBy codec d₀ calls record ∧ record.tokenRef = ref ∧ stored = record.marked c

variable {d₀ : EntryDesk χ} {calls : List (EntryCall χ)}

theorem Filed.concat {store : InMemoryEntryTokenStore} (h : Filed codec d₀ calls store)
    (call : EntryCall χ) : Filed codec d₀ (calls ++ [call]) store := by
  intro ref stored hstored
  obtain ⟨record, c, hissued, hrest⟩ := h ref stored hstored
  exact ⟨record, c, hissued.concat codec call, hrest⟩

theorem Filed.issueEntry (h : Filed codec d₀ calls (run codec d₀ calls).store)
    (args : IssueEntryArgs) : Filed codec d₀ (calls ++ [.issueEntry args])
      (step codec (run codec d₀ calls) (.issueEntry args)).store := by
  unfold step
  dsimp only
  rcases issueEntry_cases codec args (run codec d₀ calls) with
    ⟨a, port, ha, -, hexec⟩ | ⟨e, port, hexec⟩
  case inr =>
    rw [hexec]
    exact h.concat codec _
  have hissued : IssuedBy codec d₀ (calls ++ [.issueEntry args]) (entryRecord args a) :=
    ⟨calls, args, [], a, rfl, ha, rfl, by rw [hexec]⟩
  rw [hexec]
  intro ref stored hstored
  dsimp only at hstored
  rw [InMemoryEntryTokenStore.get_set] at hstored
  split at hstored
  · next heq =>
      exact ⟨_, none, hissued, heq.symm, (Option.some.inj hstored).symm⟩
  · exact h.concat codec _ ref stored hstored

theorem Filed.resolve (h : Filed codec d₀ calls (run codec d₀ calls).store) (args : ResolveArgs) :
    Filed codec d₀ (calls ++ [.resolve args])
      (step codec (run codec d₀ calls) (.resolve args)).store := by
  unfold step
  dsimp only
  rcases resolve_cases codec args (run codec d₀ calls) with
    ⟨envelope, record, a, port, -, -, -, -, -, hexec⟩ | ⟨e, port, hexec⟩
  case inr =>
    rw [hexec]
    exact h.concat codec _
  rw [hexec]
  intro ref stored hstored
  obtain ⟨before, c, hbefore, rfl⟩ := get_claimed hstored
  obtain ⟨issued, c', hissued, href, rfl⟩ := h.concat codec _ ref before hbefore
  exact ⟨issued, c, hissued, href, rfl⟩

theorem run_filed (port : χ) (clock : Int) (calls : List (EntryCall χ)) :
    Filed codec { port, clock } calls (run codec { port, clock } calls).store := by
  induction calls using List.reverseRecOn with
  | nil => exact fun ref stored h => by cases h
  | append_singleton calls call ih =>
      rw [run_concat]
      cases call with
      | issueEntry args => exact ih.issueEntry codec args
      | resolve args => exact ih.resolve codec args
      | outside c =>
          have hstore : (step codec (run codec { port, clock } calls) (.outside c)).store =
            (run codec { port, clock } calls).store := change_store _ c
          rw [hstore]
          exact ih.concat codec _

/-! ## Resolving -/

/-- The context is the one XBOS attested in a call of the run that issued its token, and `now` is
before the expiry given there. -/
def AttestedAtIssue (d₀ : EntryDesk χ) (calls : List (EntryCall χ)) (now : Int)
    (expectedMerchantRef : Option String) (context : ResolvedEntryContext) : Prop :=
  ∃ before args after attestation record token, calls = before ++ .issueEntry args :: after ∧
    (run codec d₀ before).attestation args.merchantRef args.locationRef args.tableRef args.purpose
      args.diningAreaRef = .ok attestation ∧
    (exec handle (issueEntry codec args) (run codec d₀ before)).1 = .ok (record, token) ∧
    context.tokenRef = record.tokenRef ∧ now < args.expiresAtEpoch ∧
    context.boundContext = attestation.boundContext ∧
    ∀ merchant, expectedMerchantRef = some merchant → merchant = attestation.merchantRef

/-- A token that was issued up to the codec was issued, if its expiry can be written. -/
theorem issue_of_format (record : EntryTokenRecord) {args : IssueEntryArgs}
    (hformat : (PyInt.format args.expiresAtEpoch).isSome) :
    ∃ token, (codec.issue tokenVersion record.tokenRef args.expiresAtEpoch args.nonceDraw).map
      (fun token => (record, token)) = .ok (record, token) := by
  have hversion : (PyInt.format tokenVersion).isSome := by decide +kernel
  obtain ⟨token, htoken⟩ := codec.issue_ok hversion hformat record.tokenRef args.nonceDraw
  exact ⟨token, by rw [htoken]; rfl⟩

/-- A context that `resolve` returns is the one attested when its token was issued; a `resolve` that
raises leaves the tokens as they were. -/
theorem resolve_attested (port : χ) (clock : Int) (calls : List (EntryCall χ)) (args : ResolveArgs) :
    let d := run codec { port, clock } calls
    (∀ context, (exec handle (resolve codec args) d).1 = .ok context →
      AttestedAtIssue codec { port, clock } calls (args.nowEpoch.getD d.clock)
        args.expectedMerchantRef context) ∧
    ∀ e, (exec handle (resolve codec args) d).1 = .error e →
      (exec handle (resolve codec args) d).2.store = d.store := by
  intro d
  have hfiled := run_filed codec port clock calls
  rcases resolve_cases codec args d with
    ⟨envelope, stored, a, port', hverified, hstored, hexpiry, hmerchant, hcontext, hexec⟩ |
      ⟨e, port', hexec⟩
  case inr =>
    rw [hexec]
    exact ⟨fun context h => (by cases h), fun _ _ => rfl⟩
  rw [hexec]
  refine ⟨fun context h => ?_, fun e h => (by cases h)⟩
  obtain rfl := Except.ok.inj h
  obtain ⟨record, c, ⟨before, issue, after, attestation, hcalls, hattested, rfl, hissued⟩, -, rfl⟩ :=
    hfiled _ stored hstored
  -- the expiry was read from the token, so `issue_entry` could write it
  obtain ⟨hnow, hformat⟩ := codec.verify_ok hverified
  rw [← hexpiry] at hnow hformat
  obtain ⟨token, htoken⟩ := issue_of_format codec (entryRecord issue attestation) hformat
  rw [htoken] at hissued
  have hbound : a.boundContext = attestation.boundContext := hcontext.symm
  exact ⟨before, issue, after, attestation, _, token, hcalls, hattested, hissued, rfl, hnow, hbound,
    hmerchant⟩

end EntryDesk

end XbosCustomerChannel
