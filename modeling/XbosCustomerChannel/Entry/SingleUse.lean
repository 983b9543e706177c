import XbosCustomerChannel.Effects.Interleaving
import XbosCustomerChannel.Entry.Attested

/-!
# Single use under concurrency

Any number of `resolve` calls, interleaved at the operations of the token store and of XBOS. Only
the claim of an unmarked record returns a context for a single use, and it is the one operation
that marks; what `resolve` looked at before the claim does not matter.
-/

namespace XbosCustomerChannel

open Effects Data

namespace EntryDesk

open EntryContextService

/-! ## The store before the calls -/

/-- Records are filed under their references, and those that may be used again are not marked. -/
structure WellKept (store : InMemoryEntryTokenStore) : Prop where
  keyed : ∀ ref stored, store.get ref = some stored → stored.tokenRef = ref
  unmarked : ∀ ref stored, store.get ref = some stored → stored.replayPolicy = .reusable →
    stored.consumedAtEpoch = none

theorem WellKept.set {store : InMemoryEntryTokenStore} (h : WellKept store)
    {record : EntryTokenRecord}
    (hmark : record.replayPolicy = .reusable → record.consumedAtEpoch = none) :
    WellKept (store.set record.tokenRef record) := by
  refine ⟨fun ref stored hstored => ?_, fun ref stored hstored hreusable => ?_⟩
  · rw [InMemoryEntryTokenStore.get_set] at hstored
    split at hstored
    · next heq =>
        obtain rfl := Option.some.inj hstored
        exact heq.symm
    · exact h.keyed ref stored hstored
  · rw [InMemoryEntryTokenStore.get_set] at hstored
    split at hstored
    · obtain rfl := Option.some.inj hstored
      exact hmark hreusable
    · exact h.unmarked ref stored hstored hreusable

/-- A mark on a record for a single use. -/
theorem marked_of_singleUse {record : EntryTokenRecord} (hsingle : record.replayPolicy = .singleUse)
    (c : Option Int) : (record.marked c).replayPolicy = .reusable →
      (record.marked c).consumedAtEpoch = none := by
  intro hreusable
  rw [EntryTokenRecord.marked_replayPolicy, hsingle] at hreusable
  cases hreusable

theorem WellKept.claimed {store : InMemoryEntryTokenStore} (h : WellKept store)
    {ref : String} {record : EntryTokenRecord} (hrecord : store.get ref = some record) (now : Int) :
    WellKept (claimed store record now) := by
  have hkey := h.keyed ref record hrecord
  unfold EntryContextService.claimed
  split
  · exact h
  next hsingle =>
  rcases store.consumeIfUnconsumed_cases record.tokenRef now with
    ⟨marked, hmarked, -, hconsumed⟩ | ⟨answer, -, hconsumed⟩
  case inr =>
    rw [hconsumed]
    exact h
  obtain rfl : record = marked := by
    rw [hkey, hrecord] at hmarked
    exact Option.some.inj hmarked
  rw [hconsumed]
  exact h.set (marked_of_singleUse hsingle (some now))

variable {χ : Type} [XBOSContextPort χ] [Hmac] (codec : HmacEntryTokenCodec)

theorem WellKept.step {d : EntryDesk χ} (h : WellKept d.store) (call : EntryCall χ) :
    WellKept (step codec d call).store := by
  unfold EntryDesk.step
  cases call with
  | issueEntry args =>
      dsimp only
      rcases issueEntry_cases codec args d with ⟨a, port, -, -, hexec⟩ | ⟨e, port, hexec⟩
      · rw [hexec]
        exact h.set fun _ => rfl
      · rw [hexec]
        exact h
  | resolve args =>
      dsimp only
      rcases resolve_cases codec args d with
        ⟨envelope, record, a, port, -, hrecord, -, -, -, hexec⟩ | ⟨e, port, hexec⟩
      · rw [hexec]
        exact h.claimed hrecord _
      · rw [hexec]
        exact h
  | outside c =>
      dsimp only
      rw [change_store]
      exact h

theorem run_wellKept {d : EntryDesk χ} (h : WellKept d.store) (calls : List (EntryCall χ)) :
    WellKept (run codec d calls).store := by
  induction calls generalizing d with
  | nil => exact h
  | cons call calls ih => exact ih (h.step codec call)

/-! ## Where a call stands -/

/-- The store has the record, marked or not. -/
def Stored (store : InMemoryEntryTokenStore) (record : EntryTokenRecord) : Prop :=
  ∃ c, store.get record.tokenRef = some (record.marked c)

/-- What is left of a `resolve` call. -/
inductive Stage (store : InMemoryEntryTokenStore) : EntryCallOf ResolvedEntryContext → Prop
  | starting (args : ResolveArgs) : Stage store (askEntry .time >>= resolveAt codec args)
  | reading (envelope : VerifiedTokenEnvelope) (expected : Option String) (now : Int) :
      Stage store (resolveEnvelope envelope expected now)
  | attesting {record : EntryTokenRecord} (h : Stored store record) (now : Int) :
      Stage store (attestAgain record now)
  | claiming {record : EntryTokenRecord} (h : Stored store record)
      (hsingle : record.replayPolicy = .singleUse) (a : EntryContextAttestation) (now : Int) :
      Stage store (claim record a now)
  | returned (context : ResolvedEntryContext) : Stage store (.done context)
  | raised (e : Exc) : Stage store (.raise e)

theorem stage_resolveAt (store : InMemoryEntryTokenStore) (args : ResolveArgs) (now : Int) :
    Stage codec store (resolveAt codec args now) := by
  unfold resolveAt
  split
  · exact .reading _ _ _
  · split <;> exact .raised _

theorem stage_resolve (store : InMemoryEntryTokenStore) (args : ResolveArgs) :
    Stage codec store (resolve codec args) := by
  unfold resolve current
  cases args.nowEpoch with
  | none => exact .starting args
  | some now => exact stage_resolveAt codec store args now

theorem resolveAt_ne_done (args : ResolveArgs) (now : Int) (context : ResolvedEntryContext) :
    resolveAt codec args now ≠ .done context := by
  unfold resolveAt
  split
  · rintro ⟨⟩
  · split <;> rintro ⟨⟩

theorem resolve_ne_done (args : ResolveArgs) (context : ResolvedEntryContext) :
    resolve codec args ≠ .done context := by
  unfold resolve current
  cases args.nowEpoch with
  | none => rintro ⟨⟩
  | some now => exact resolveAt_ne_done codec args now context

/-- Marking records loses none. -/
theorem Stage.mono {store store' : InMemoryEntryTokenStore}
    (hstored : ∀ record, Stored store record → Stored store' record)
    {p : EntryCallOf ResolvedEntryContext} (h : Stage codec store p) : Stage codec store' p := by
  cases h with
  | starting args => exact .starting args
  | reading envelope expected now => exact .reading envelope expected now
  | attesting h now => exact .attesting (hstored _ h) now
  | claiming h hsingle a now => exact .claiming (hstored _ h) hsingle a now
  | returned context => exact .returned context
  | raised e => exact .raised e

/-- A step that leaves the tokens alone; if it returns a context, its token may be used again. -/
structure Quiet (store : InMemoryEntryTokenStore) (d : EntryDesk χ)
    (p : EntryCallOf ResolvedEntryContext) : Prop where
  unchanged : d.store = store
  stage : Stage codec store p
  returned : ∀ context, p = .done context →
    ∃ stored, store.get context.tokenRef = some stored ∧ stored.replayPolicy = .reusable

/-- A step that marks a record for a single use and returns its context. -/
def Claims (store : InMemoryEntryTokenStore) (d : EntryDesk χ)
    (p : EntryCallOf ResolvedEntryContext) : Prop :=
  ∃ record a now, record.replayPolicy = .singleUse ∧ record.consumedAtEpoch = none ∧
    store.get record.tokenRef = some record ∧
    d.store = store.set record.tokenRef (record.marked (some now)) ∧
    p = .done (resolvedContext record a)

omit [XBOSContextPort χ] in
theorem quiet_raise {d : EntryDesk χ} {store : InMemoryEntryTokenStore} (h : d.store = store)
    (e : Exc) : Quiet codec store d (.raise e) :=
  ⟨h, .raised e, fun context h => by cases h⟩

section Steps

variable {store : InMemoryEntryTokenStore} {d : EntryDesk χ} {record : EntryTokenRecord}

omit [XBOSContextPort χ] in
/-- A call that has read its record. -/
theorem quiet_checkRecord
    (hkeyed : ∀ ref stored, d.store.get ref = some stored → stored.tokenRef = ref)
    (envelope : VerifiedTokenEnvelope) (expected : Option String) (now : Int) :
    Quiet codec d.store d (checkRecord envelope expected now (d.store.get envelope.tokenRef)) := by
  rcases checkRecord_cases envelope expected now (d.store.get envelope.tokenRef) with
    ⟨record, hrecord, -, -, hcheck⟩ | ⟨e, hcheck⟩
  · have hstored : Stored d.store record := by
      refine ⟨record.consumedAtEpoch, ?_⟩
      rw [hkeyed _ _ hrecord, hrecord, record.marked_self]
    rw [hcheck]
    exact ⟨rfl, .attesting hstored now, fun context hdone => by cases hdone⟩
  · rw [hcheck]
    exact quiet_raise codec rfl e

omit [XBOSContextPort χ] in
/-- A call whose record is for a place that was attested again. -/
theorem quiet_claim (hstore : d.store = store) (hstored : Stored store record)
    (a : EntryContextAttestation) (now : Int) : Quiet codec store d (claim record a now) := by
  cases hpolicy : record.replayPolicy with
  | singleUse =>
      refine ⟨hstore, .claiming hstored hpolicy a now, fun context hdone => ?_⟩
      rw [claim, hpolicy] at hdone
      cases hdone
  | reusable =>
      rw [claim, hpolicy]
      refine ⟨hstore, .returned _, fun context hdone => ?_⟩
      obtain ⟨c, hc⟩ := hstored
      obtain rfl := Program.done.inj hdone
      exact ⟨record.marked c, hc, hpolicy⟩

omit [XBOSContextPort χ] in
/-- A call that has been answered by XBOS. -/
theorem quiet_answered (hstore : d.store = store) (hstored : Stored store record) (now : Int)
    (answer : Except Exc EntryContextAttestation) :
    Quiet codec store d (answered answer >>= compareAgain record now) := by
  rcases answered_cases answer with ⟨a, -, ha⟩ | ⟨e, he⟩
  case inr =>
    rw [he, Program.raise_bind]
    exact quiet_raise codec hstore e
  rw [ha, Program.done_bind]
  rcases compareAgain_cases record now a with ⟨-, hcompare⟩ | ⟨e, hcompare⟩
  · rw [hcompare]
    exact quiet_claim codec hstore hstored a now
  · rw [hcompare]
    exact quiet_raise codec hstore e

/-- A call that has tried to mark its record. -/
theorem quiet_or_claims (hstored : Stored d.store record) (hsingle : record.replayPolicy = .singleUse)
    (a : EntryContextAttestation) (now : Int) :
    Quiet codec d.store (handle (.consumeIfUnconsumed record.tokenRef now) d).2
        (claimedContext record a (handle (.consumeIfUnconsumed record.tokenRef now) d).1) ∨
      Claims d.store (handle (.consumeIfUnconsumed record.tokenRef now) d).2
        (claimedContext record a (handle (.consumeIfUnconsumed record.tokenRef now) d).1) := by
  obtain ⟨c, hc⟩ := hstored
  dsimp only [handle]
  rcases d.store.consumeIfUnconsumed_cases record.tokenRef now with
    ⟨stored, hread, hunmarked, hconsumed⟩ | ⟨answer, hanswer, hconsumed⟩
  · rw [hconsumed]
    obtain rfl : record.marked c = stored := by
      rw [hc] at hread
      exact Option.some.inj hread
    exact .inr ⟨record.marked c, a, now, hsingle, hunmarked, hc, rfl, rfl⟩
  · rw [hconsumed]
    refine .inl ?_
    rcases hanswer with rfl | ⟨e, rfl⟩
    · exact quiet_raise codec rfl _
    · exact quiet_raise codec rfl e

/-- One step of a call. -/
theorem Stage.step (hkeyed : ∀ ref stored, d.store.get ref = some stored → stored.tokenRef = ref)
    {p : EntryCallOf ResolvedEntryContext} (h : Stage codec d.store p)
    {op : EntryOp} {k : op.Resp → EntryCallOf ResolvedEntryContext} (hp : p = .call op k) :
    Quiet codec d.store (handle op d).2 (k (handle op d).1) ∨
      Claims d.store (handle op d).2 (k (handle op d).1) := by
  cases h with
  | returned context => cases hp
  | raised e => cases hp
  | starting args =>
      rw [askEntry_bind] at hp
      cases hp
      refine .inl ⟨rfl, stage_resolveAt codec _ args _, fun context hdone => ?_⟩
      -- knowing the time, a call has still to read the record
      exact absurd hdone (resolveAt_ne_done codec args _ context)
  | reading envelope expected now =>
      rw [resolveEnvelope, askEntry_bind] at hp
      cases hp
      exact .inl (quiet_checkRecord codec hkeyed envelope expected now)
  | @attesting record hstored now =>
      rw [attestAgain, attest, Program.bind_assoc', askEntry_bind] at hp
      cases hp
      refine .inl (quiet_answered codec ?_ hstored now _)
      rfl
  | @claiming record hstored hsingle a now =>
      -- the one step that may change the store
      rw [claim, hsingle] at hp
      dsimp only at hp
      rw [askEntry_bind] at hp
      cases hp
      exact quiet_or_claims codec hstored hsingle a now

end Steps

/-! ## Interleaved calls -/

/-- One turn: the next operation of a call, or a change from outside. -/
inductive ResolverTurn (χ ι : Type) [XBOSContextPort χ]
  | resolver (i : ι)
  | outside (c : EntryChange χ)

omit [Hmac] in
def ResolverTurn.turn {ι : Type} : ResolverTurn χ ι → Turn ι (EntryDesk χ)
  | .resolver i => .thread i
  | .outside c => .outside (·.change c)

abbrev Resolvers (χ ι : Type) := Pool EntryBoundary (EntryDesk χ) Exc ResolvedEntryContext ι

/-- A `resolve` call for each client, none of which has started. -/
def resolvers {ι : Type} (d : EntryDesk χ) (args : ι → ResolveArgs) : Resolvers χ ι where
  state := d
  threads i := resolve codec (args i)

variable {ι : Type}

def interleave [DecidableEq ι] (P : Resolvers χ ι) (turns : List (ResolverTurn χ ι)) :
    Resolvers χ ι :=
  P.run handle (turns.map ResolverTurn.turn)

/-- The client's call has returned the context of a token. -/
def Resolved (P : Resolvers χ ι) (i : ι) (ref : String) : Prop :=
  ∃ context, P.threads i = .done context ∧ context.tokenRef = ref

/-- What became of a record's mark since the calls started: nothing, and if it is for a single use no
call returned it; or one call marked it, the only one that returned it. -/
inductive Fate (P : Resolvers χ ι) (ref : String) (record : EntryTokenRecord) : Option Int → Prop
  | unchanged (h : record.replayPolicy = .singleUse → ∀ i, ¬ Resolved P i ref) :
      Fate P ref record record.consumedAtEpoch
  | used (hsingle : record.replayPolicy = .singleUse) (hbefore : record.consumedAtEpoch = none)
      (now : Int) (i : ι) (hi : ∀ j, Resolved P j ref ↔ j = i) : Fate P ref record (some now)

omit [Hmac] [XBOSContextPort χ] in
theorem Fate.congr {P P' : Resolvers χ ι} {ref : String} {record : EntryTokenRecord} {c : Option Int}
    (h : Fate P ref record c)
    (hsame : record.replayPolicy = .singleUse → ∀ i, Resolved P' i ref ↔ Resolved P i ref) :
    Fate P' ref record c := by
  cases h with
  | unchanged h => exact .unchanged fun hsingle i hi => h hsingle i ((hsame hsingle i).mp hi)
  | used hsingle hbefore now i hi =>
      exact .used hsingle hbefore now i fun j => (hsame hsingle j).trans (hi j)

/-- Every call is at one of its stages, and every record has its fate. -/
structure Accounted (before : InMemoryEntryTokenStore) (P : Resolvers χ ι) : Prop where
  kept : WellKept P.state.store
  stage : ∀ i, Stage codec P.state.store (P.threads i)
  fate : ∀ ref record, before.get ref = some record →
    ∃ c, P.state.store.get ref = some (record.marked c) ∧ Fate P ref record c

variable {before : InMemoryEntryTokenStore} {P : Resolvers χ ι}

omit [XBOSContextPort χ] in
theorem Accounted.outside (h : Accounted codec before P) {d : EntryDesk χ}
    (hstore : d.store = P.state.store) : Accounted codec before { P with state := d } := by
  refine ⟨?_, ?_, ?_⟩
  · dsimp only
    rw [hstore]
    exact h.kept
  · dsimp only
    rw [hstore]
    exact h.stage
  · dsimp only
    rw [hstore]
    intro ref record hrecord
    obtain ⟨c, hc, hfate⟩ := h.fate ref record hrecord
    exact ⟨c, hc, hfate.congr fun _ _ => .rfl⟩

variable [DecidableEq ι]

omit [Hmac] [XBOSContextPort χ] in
theorem resolved_update_of_ne {d : EntryDesk χ} {p : EntryCallOf ResolvedEntryContext} {i j : ι}
    (hij : j ≠ i) (ref : String) :
    Resolved { state := d, threads := Function.update P.threads i p } j ref ↔ Resolved P j ref := by
  unfold Resolved
  dsimp only
  rw [Function.update_of_ne hij]

omit [Hmac] [XBOSContextPort χ] in
theorem resolved_update_self {d : EntryDesk χ} {p : EntryCallOf ResolvedEntryContext} {i : ι}
    (ref : String) :
    Resolved { state := d, threads := Function.update P.threads i p } i ref ↔
      ∃ context, p = .done context ∧ context.tokenRef = ref := by
  unfold Resolved
  dsimp only
  rw [Function.update_self]

omit [Hmac] [XBOSContextPort χ] [DecidableEq ι] in
theorem not_resolved_of_call {i : ι} {op : EntryOp}
    {k : op.Resp → EntryCallOf ResolvedEntryContext} (hi : P.threads i = .call op k) (ref : String) :
    ¬ Resolved P i ref := by
  rintro ⟨context, hdone, -⟩
  rw [hi] at hdone
  cases hdone

omit [XBOSContextPort χ] in
/-- The stages after a step of one call. -/
theorem stage_update {store store' : InMemoryEntryTokenStore}
    (h : ∀ j, Stage codec store (P.threads j))
    (hstored : ∀ record, Stored store record → Stored store' record)
    {p : EntryCallOf ResolvedEntryContext} (hp : Stage codec store' p) {i : ι} (j : ι) :
    Stage codec store' (Function.update P.threads i p j) := by
  by_cases hj : j = i
  · subst hj
    rw [Function.update_self]
    exact hp
  · rw [Function.update_of_ne hj]
    exact (h j).mono codec hstored

omit [XBOSContextPort χ] in
theorem Accounted.quiet (h : Accounted codec before P) {i : ι} {op : EntryOp}
    {k : op.Resp → EntryCallOf ResolvedEntryContext} (hi : P.threads i = .call op k)
    {d : EntryDesk χ} {p : EntryCallOf ResolvedEntryContext}
    (hquiet : Quiet codec P.state.store d p) :
    Accounted codec before { state := d, threads := Function.update P.threads i p } := by
  refine ⟨?_, fun j => ?_, fun ref record hrecord => ?_⟩
  · dsimp only
    rw [hquiet.unchanged]
    exact h.kept
  · dsimp only
    rw [hquiet.unchanged]
    exact stage_update codec h.stage (fun _ hstored => hstored) hquiet.stage j
  · obtain ⟨c, hc, hfate⟩ := h.fate ref record hrecord
    refine ⟨c, by dsimp only; rw [hquiet.unchanged, hc], hfate.congr fun hsingle j => ?_⟩
    by_cases hj : j = i
    · subst hj
      refine iff_of_false (fun hresolved => ?_) (not_resolved_of_call hi ref)
      obtain ⟨context, hdone, rfl⟩ := (resolved_update_self ref).mp hresolved
      obtain ⟨stored, hstored, hreusable⟩ := hquiet.returned context hdone
      rw [hc] at hstored
      obtain rfl := Option.some.inj hstored
      rw [EntryTokenRecord.marked_replayPolicy, hsingle] at hreusable
      cases hreusable
    · exact resolved_update_of_ne hj ref

omit [XBOSContextPort χ] in
theorem Accounted.claims (h : Accounted codec before P) {i : ι} {op : EntryOp}
    {k : op.Resp → EntryCallOf ResolvedEntryContext} (hi : P.threads i = .call op k)
    {d : EntryDesk χ} {p : EntryCallOf ResolvedEntryContext} (hclaims : Claims P.state.store d p) :
    Accounted codec before { state := d, threads := Function.update P.threads i p } := by
  obtain ⟨claimed, a, now, hsingle, hunmarked, hclaimed, hstore, rfl⟩ := hclaims
  have hget (ref : String) : d.store.get ref =
      if ref = claimed.tokenRef then some (claimed.marked (some now))
      else P.state.store.get ref := by
    rw [hstore]
    exact InMemoryEntryTokenStore.get_set _ _ _ _
  refine ⟨?_, fun j => ?_, fun ref record hrecord => ?_⟩
  · dsimp only
    rw [hstore]
    exact h.kept.set (marked_of_singleUse hsingle (some now))
  · refine stage_update codec h.stage (fun record hstored => ?_) (.returned _) j
    obtain ⟨c, hc⟩ := hstored
    unfold Stored
    rw [hget]
    split
    · next heq =>
        rw [heq, hclaimed] at hc
        rw [Option.some.inj hc]
        exact ⟨some now, rfl⟩
    · exact ⟨c, hc⟩
  · obtain ⟨c, hc, hfate⟩ := h.fate ref record hrecord
    dsimp only
    rw [hget]
    split
    · next heq =>
        -- the record was unmarked, so no call had returned it
        subst heq
        rw [hclaimed] at hc
        obtain rfl := Option.some.inj hc
        cases hfate with
        | used => cases hunmarked
        | unchanged hnone =>
            refine ⟨some now, rfl, .used hsingle hunmarked now i fun j => ?_⟩
            by_cases hj : j = i
            · subst hj
              exact iff_of_true ((resolved_update_self _).mpr ⟨_, rfl, rfl⟩) rfl
            · rw [resolved_update_of_ne hj]
              exact iff_of_false (hnone hsingle j) hj
    · next hne =>
        refine ⟨c, hc, hfate.congr fun _ j => ?_⟩
        by_cases hj : j = i
        · subst hj
          refine iff_of_false (fun hresolved => ?_) (not_resolved_of_call hi ref)
          obtain ⟨context, hdone, rfl⟩ := (resolved_update_self ref).mp hresolved
          obtain rfl := Program.done.inj hdone
          exact hne rfl
        · exact resolved_update_of_ne hj ref

/-- Every turn accounts for what it does. -/
theorem Accounted.step (h : Accounted codec before P) (turn : ResolverTurn χ ι) :
    Accounted codec before (P.step handle turn.turn) := by
  cases turn with
  | outside c => exact h.outside codec (change_store _ c)
  | resolver i =>
      show Accounted codec before (P.step handle (.thread i))
      by_cases hcall : ∃ op k, P.threads i = .call op k
      · obtain ⟨op, k, hi⟩ := hcall
        rw [Pool.step_thread_call handle hi]
        rcases (h.stage i).step codec h.kept.keyed hi with hquiet | hclaims
        · exact h.quiet codec hi hquiet
        · exact h.claims codec hi hclaims
      · rw [Pool.step_thread_of_not_call handle fun op k hk => hcall ⟨op, k, hk⟩]
        exact h

theorem Accounted.interleave (h : Accounted codec before P) (turns : List (ResolverTurn χ ι)) :
    Accounted codec before (interleave P turns) := by
  induction turns generalizing P with
  | nil => exact h
  | cons turn turns ih => exact ih (h.step codec turn)

omit [XBOSContextPort χ] [DecidableEq ι] in
theorem resolvers_accounted {d : EntryDesk χ} (h : WellKept d.store) (args : ι → ResolveArgs) :
    Accounted codec d.store (resolvers codec d args) where
  kept := h
  stage i := stage_resolve codec d.store (args i)
  fate ref record hrecord := by
    refine ⟨record.consumedAtEpoch, hrecord, .unchanged fun _ i => ?_⟩
    rintro ⟨context, hdone, -⟩
    exact resolve_ne_done codec (args i) context hdone

/-! ## Single use -/

/-- A turn of a call that changes the tokens ends it with a context. -/
theorem Accounted.returns_of_changed (h : Accounted codec before P) {i : ι}
    (hchanged : (P.step handle (.thread i)).state.store ≠ P.state.store) :
    ((P.step handle (.thread i)).threads i).NeverRaises := by
  by_cases hcall : ∃ op k, P.threads i = .call op k
  · obtain ⟨op, k, hi⟩ := hcall
    rw [Pool.step_thread_call handle hi] at hchanged ⊢
    rcases (h.stage i).step codec h.kept.keyed hi with hquiet | hclaims
    · exact absurd hquiet.unchanged hchanged
    · obtain ⟨claimed, a, now, -, -, -, -, hdone⟩ := hclaims
      dsimp only
      rw [Function.update_self, hdone]
      trivial
  · rw [Pool.step_thread_of_not_call handle fun op k hk => hcall ⟨op, k, hk⟩] at hchanged
    exact absurd rfl hchanged

/-- The records a store had `before` the calls are used as their policies allow. -/
structure UsedByPolicy (before : InMemoryEntryTokenStore) (P : Resolvers χ ι) : Prop where
  once : ∀ ref record, before.get ref = some record → record.replayPolicy = .singleUse →
    ∀ i j, Resolved P i ref → Resolved P j ref → i = j
  usedUp : ∀ ref record, before.get ref = some record → record.replayPolicy = .singleUse →
    record.consumedAtEpoch.isSome → ∀ i, ¬ Resolved P i ref
  marked_iff : ∀ ref record, before.get ref = some record → record.replayPolicy = .singleUse →
    ∃ stored, P.state.store.get ref = some stored ∧
      (stored.consumedAtEpoch.isSome ↔
        record.consumedAtEpoch.isSome ∨ ∃ i, Resolved P i ref)
  unmarked : ∀ ref stored, P.state.store.get ref = some stored → stored.replayPolicy = .reusable →
    stored.consumedAtEpoch = none

omit [XBOSContextPort χ] [DecidableEq ι] in
theorem Accounted.usedByPolicy (h : Accounted codec before P) : UsedByPolicy before P where
  once ref record hrecord hsingle i j hi hj := by
    obtain ⟨c, -, hfate⟩ := h.fate ref record hrecord
    cases hfate with
    | unchanged hnone => exact absurd hi (hnone hsingle i)
    | used _ _ now i₀ honly => exact ((honly i).mp hi).trans ((honly j).mp hj).symm
  usedUp ref record hrecord hsingle hused i hi := by
    obtain ⟨c, -, hfate⟩ := h.fate ref record hrecord
    cases hfate with
    | unchanged hnone => exact hnone hsingle i hi
    | used _ hbefore =>
        rw [hbefore] at hused
        cases hused
  marked_iff ref record hrecord hsingle := by
    obtain ⟨c, hc, hfate⟩ := h.fate ref record hrecord
    refine ⟨record.marked c, hc, ?_⟩
    rw [EntryTokenRecord.marked_consumedAtEpoch]
    cases hfate with
    | unchanged hnone =>
        exact ⟨fun hmarked => .inl hmarked, fun hor =>
          hor.resolve_right fun ⟨i, hi⟩ => hnone hsingle i hi⟩
    | used _ _ now i honly => exact iff_of_true rfl (.inr ⟨i, (honly i).mpr rfl⟩)
  unmarked := h.kept.unmarked

/-- `resolve` calls, however they are interleaved on the tokens a run left, use each token by its
policy, and the turns of a call that raises change no token. -/
theorem resolvers_singleUse (port : χ) (clock : Int) (calls : List (EntryCall χ))
    (args : ι → ResolveArgs) (turns : List (ResolverTurn χ ι)) :
    let d := run codec { port, clock } calls
    let P := interleave (resolvers codec d args) turns
    UsedByPolicy d.store P ∧
      ∀ front i back e, turns = front ++ .resolver i :: back → P.threads i = .raise e →
        (interleave (resolvers codec d args) (front ++ [.resolver i])).state.store =
          (interleave (resolvers codec d args) front).state.store := by
  intro d P
  have hkept : WellKept d.store := by
    refine run_wellKept codec ⟨fun ref stored h => ?_, fun ref stored h => ?_⟩ calls
    · cases h
    · cases h
  have hstart : Accounted codec d.store (resolvers codec d args) := resolvers_accounted codec hkept args
  refine ⟨(hstart.interleave codec turns).usedByPolicy codec, fun front i back e hturns hraised => ?_⟩
  by_contra hchanged
  -- the call that changed a token has returned by then, and stays returned
  have hfront := hstart.interleave codec front
  have hsplit : P = interleave (interleave (resolvers codec d args) (front ++ [.resolver i])) back := by
    show interleave (resolvers codec d args) turns = _
    rw [hturns]
    simp [interleave, Pool.run]
  have hone : interleave (resolvers codec d args) (front ++ [.resolver i]) =
      (interleave (resolvers codec d args) front).step handle (.thread i) := by
    simp [interleave, Pool.run, ResolverTurn.turn]
  rw [hone] at hchanged hsplit
  have hnever : (P.threads i).NeverRaises := by
    rw [hsplit]
    exact Pool.neverRaises_run (hfront.returns_of_changed codec hchanged) _
  rw [hraised] at hnever
  exact hnever

end EntryDesk

end XbosCustomerChannel
