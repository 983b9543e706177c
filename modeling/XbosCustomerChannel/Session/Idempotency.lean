import XbosCustomerChannel.Fixture
import XbosCustomerChannel.Session.Creation

/-!
# The idempotency table

Only `transition` reads and writes the table. Along a run it holds exactly what was recorded, each
key at most once, and only for sessions that are stored; `HoldsHistory` says so. What a retried
transition returns, and how often a session was moved, follow from it.
-/

namespace XbosCustomerChannel

open Effects Effects.Program Data

/-! ## Operations that leave the table alone -/

/-- Every operation but the recording of a result. -/
def ChannelOp.KeepsTable : ChannelOp → Prop
  | session (.recordIdempotentResult _ _ _) => False
  | _ => True

theorem ChannelOp.Reads.keepsTable {op : ChannelOp} (h : op.Reads) : op.KeepsTable := by
  cases op with
  | session op => cases op <;> trivial
  | _ => trivial

theorem ChannelOp.KeepsSessionStore.keepsTable {op : ChannelOp} (h : op.KeepsSessionStore) :
    op.KeepsTable := by
  cases op with
  | session op => exact ChannelOp.Reads.keepsTable h
  | _ => trivial

theorem CustomerSessionService.PutsOrReads.keepsTable {op : ChannelOp}
    (h : CustomerSessionService.PutsOrReads op) : op.KeepsTable := by
  cases op with
  | session op => cases op <;> trivial
  | _ => trivial

theorem CustomerSessionService.RotatesOrReads.keepsTable {op : ChannelOp}
    (h : CustomerSessionService.RotatesOrReads op) : op.KeepsTable := by
  cases op with
  | session op => cases op <;> trivial
  | _ => trivial

section KeepsTable

variable {π : Type} [XBOSOrderPort π] [Hashlib]

theorem handle_keepsTable {op : Channel.Op} (w : World π) (h : ChannelOp.KeepsTable op) :
    (handle op w).2.sessions.idempotentResults = w.sessions.idempotentResults := by
  cases op with
  | session op =>
      cases op with
      | recordIdempotentResult name key s => exact h.elim
      | putWithLegacyAlias s a =>
          obtain ⟨r, aliases, hput, -⟩ := w.sessions.putWithLegacyAlias_cases s a
          show (w.sessions.putWithLegacyAlias s a).2.idempotentResults = _
          rw [hput]
      | rotateIfActive ref owner now replacement =>
          show (w.sessions.rotateIfActive ref owner now replacement).2.idempotentResults = _
          rcases w.sessions.rotateIfActive_cases ref owner now replacement with
            ⟨r, hrot, -⟩ | ⟨current, -, -, -, -, -, hrot⟩
          · rw [hrot]
          · rw [hrot]
      | _ => rfl
  | _ => rfl

/-- A stored session stays stored. -/
theorem handle_staysStored (op : Channel.Op) (w : World π) {ref : String}
    (h : (w.sessions.sessions.get? ref).isSome) :
    ((handle op w).2.sessions.sessions.get? ref).isSome := by
  cases op with
  | session op =>
      cases op with
      | put base changes => exact (Dict.isSome_get?_set _ _ _ _).mpr (.inr h)
      | putWithLegacyAlias s a =>
          obtain ⟨r, aliases, hput, -⟩ := w.sessions.putWithLegacyAlias_cases s a
          show ((w.sessions.putWithLegacyAlias s a).2.sessions.get? ref).isSome
          rw [hput]
          exact (Dict.isSome_get?_set _ _ _ _).mpr (.inr h)
      | rotateIfActive name owner now replacement =>
          show ((w.sessions.rotateIfActive name owner now replacement).2.sessions.get? ref).isSome
          rcases w.sessions.rotateIfActive_cases name owner now replacement with
            ⟨r, hrot, -⟩ | ⟨current, -, -, -, -, -, hrot⟩
          · rw [hrot]
            exact h
          · rw [hrot]
            refine (Dict.isSome_get?_set _ _ _ _).mpr (.inr ?_)
            exact (Dict.isSome_get?_set _ _ _ _).mpr (.inr h)
      | _ => exact h
  | _ => exact h

end KeepsTable

/-! ## What a run has recorded -/

section History

variable {π : Type}

/-- The snapshot was recorded under the key for the session stored at `ref`. -/
def Recorded (ops : List (Channel.Op × World π)) (ref key : String)
    (s : CustomerSessionSnapshot) : Prop :=
  ∃ name w, (ChannelOp.session (.recordIdempotentResult name key s), w) ∈ ops ∧
    w.sessions.canonicalRef name = ref

/-- The key was recorded for the session by a transition into `target`. -/
def RecordedFor (ops : List (Channel.Op × World π)) (ref key : String)
    (target : ChannelState) : Prop :=
  ∃ s, Recorded ops ref key s ∧ s.state = target

theorem recorded_append {ops ops' : List (Channel.Op × World π)} {ref key : String}
    {s : CustomerSessionSnapshot} :
    Recorded (ops ++ ops') ref key s ↔ Recorded ops ref key s ∨ Recorded ops' ref key s := by
  constructor
  · rintro ⟨name, w, h, hname⟩
    rcases List.mem_append.mp h with h | h
    · exact .inl ⟨name, w, h, hname⟩
    · exact .inr ⟨name, w, h, hname⟩
  · rintro (⟨name, w, h, hname⟩ | ⟨name, w, h, hname⟩)
    · exact ⟨name, w, List.mem_append_left _ h, hname⟩
    · exact ⟨name, w, List.mem_append_right _ h, hname⟩

/-- Operations of which none records. -/
theorem not_recorded {ops : List (Channel.Op × World π)} (h : ∀ o ∈ ops, ChannelOp.KeepsTable o.1)
    {ref key : String} {s : CustomerSessionSnapshot} : ¬ Recorded ops ref key s := by
  rintro ⟨name, w, hmem, -⟩
  exact h _ hmem

/-- The table holds what has been recorded, each key once and for a stored session. -/
structure HoldsHistory (ops : List (Channel.Op × World π)) (w : World π) : Prop where
  keyed : w.Keyed
  recorded : ∀ ref key s,
    w.sessions.idempotentResults.get? (ref, key) = some s ↔ Recorded ops ref key s
  stored : ∀ ref key s, w.sessions.idempotentResults.get? (ref, key) = some s →
    (w.sessions.sessions.get? ref).isSome

variable [XBOSOrderPort π] [Hashlib]

/-- What a transition issues, and what of it is recorded: the session it stored, or nothing. -/
theorem CustomerSessionService.recorded_transition (svc : CustomerSessionService) (w : World π)
    (args : TransitionArgs) :
    (∃ current refs, svc.TransitionEnabled w args current refs ∧
      exec handle (svc.transition args) w = (.ok (current.transitioned args refs),
        w.transitioned args (current.transitioned args refs)) ∧
      ∀ ref key s, Recorded (issued handle (svc.transition args) w) ref key s ↔
        (ref, key) = (w.sessions.canonicalRef args.sessionRef, args.idempotencyKey) ∧
          s = current.transitioned args refs) ∨
    (exec handle (svc.transition args) w).2 = w ∧
      ∀ ref key s, ¬ Recorded (issued handle (svc.transition args) w) ref key s := by
  have hreads (o : Channel.Op × World π) (ho : o ∈ issued handle (svc.decideTransition args) w) :
      ChannelOp.KeepsTable o.1 :=
    ChannelOp.Reads.keepsTable ((svc.uses_decideTransition args).of_issued handle ho)
  rw [transition_eq, issued_bind]
  rcases svc.decideTransition_cases w args with
    ⟨current, refs, henabled, hexec⟩ | ⟨prior, -, hexec⟩ | ⟨-, e, hexec⟩
  · rw [hexec, exec_bind_ok handle hexec]
    refine .inl ⟨current, refs, henabled, rfl, fun ref key s => ?_⟩
    rw [recorded_append, or_iff_right (not_recorded hreads)]
    constructor
    · rintro ⟨name, w₁, hmem, rfl⟩
      -- a `put`, and then the one entry
      rcases List.mem_cons.mp hmem with h | h
      · cases h
      rcases List.mem_cons.mp h with h | h
      · cases h
        exact ⟨rfl, rfl⟩
      · cases h
    · rintro ⟨heq, rfl⟩
      obtain ⟨rfl, rfl⟩ := Prod.mk.inj heq
      exact ⟨args.sessionRef, _, List.mem_cons_of_mem _ List.mem_cons_self, rfl⟩
  · rw [hexec, exec_bind_ok handle hexec]
    refine .inr ⟨rfl, fun ref key s => ?_⟩
    show ¬ Recorded (_ ++ []) ref key s
    rw [List.append_nil]
    exact not_recorded hreads
  · rw [hexec, exec_bind_error handle hexec]
    refine .inr ⟨rfl, fun ref key s => ?_⟩
    show ¬ Recorded (_ ++ []) ref key s
    rw [List.append_nil]
    exact not_recorded hreads

namespace HoldsHistory

variable {T : List (Channel.Op × World π)} {w : World π}

theorem keeps (op : Channel.Op) (hop : ChannelOp.KeepsTable op) (h : HoldsHistory T w) :
    HoldsHistory (T ++ [(op, w)]) (handle op w).2 where
  keyed := handle_keyed op w h.keyed
  recorded ref key s := by
    have hnot : ¬ Recorded [(op, w)] ref key s := not_recorded (by simpa using hop)
    rw [handle_keepsTable w hop, recorded_append, or_iff_left hnot]
    exact h.recorded ref key s
  stored ref key s hs := by
    rw [handle_keepsTable w hop] at hs
    exact handle_staysStored op w (h.stored ref key s hs)

theorem transition (svc : CustomerSessionService) (args : TransitionArgs)
    (h : HoldsHistory T w) :
    HoldsHistory (T ++ issued handle (svc.transition args) w)
      (exec handle (svc.transition args) w).2 := by
  have hk : (exec handle (svc.transition args) w).2.Keyed :=
    exec_invariant handle (fun op w _ => handle_keyed op w) (Uses.all _) h.keyed
  rcases svc.recorded_transition w args with ⟨current, refs, henabled, hexec, hrecorded⟩ | ⟨hw, hnot⟩
  · have htable (key : String × String) :
        (exec handle (svc.transition args) w).2.sessions.idempotentResults.get? key =
          if key = (w.sessions.canonicalRef args.sessionRef, args.idempotencyKey) then
            some (current.transitioned args refs)
          else w.sessions.idempotentResults.get? key := by
      rw [hexec]
      exact Dict.get?_set _ _ _ _
    have hsessions (ref : String) (hs : (w.sessions.sessions.get? ref).isSome) :
        ((exec handle (svc.transition args) w).2.sessions.sessions.get? ref).isSome := by
      rw [hexec]
      exact (Dict.isSome_get?_set _ _ _ _).mpr (.inr hs)
    refine ⟨hk, fun ref key s => ?_, fun ref key s hs => ?_⟩
    · rw [htable, recorded_append, hrecorded, ← h.recorded]
      split
      · next hkey =>
        have hfresh : w.sessions.idempotentResults.get? (ref, key) = none := by
          rw [hkey]
          exact henabled.fresh
        rw [hfresh]
        simp [hkey, eq_comm]
      · next hkey => simp [hkey]
    · rw [htable] at hs
      split at hs
      · next hkey =>
        obtain ⟨rfl, -⟩ := Prod.mk.inj hkey
        exact hsessions _ (Option.isSome_of_eq_some henabled.found)
      · exact hsessions _ (h.stored ref key s hs)
  · rw [hw]
    refine ⟨h.keyed, fun ref key s => ?_, h.stored⟩
    rw [recorded_append, or_iff_left (hnot ref key s)]
    exact h.recorded ref key s

theorem keptByTransitions (svc : OrderDraftConfirmationService) :
    KeptByTransitions svc (HoldsHistory (π := π)) where
  keeps op _ _ hop h := h.keeps op hop.keepsTable
  transition args _ _ h := h.transition svc.sessions args

theorem call (svc : OrderDraftConfirmationService) (call : ChannelCall π) (h : HoldsHistory T w) :
    HoldsHistory (T ++ issued handle (call.program svc w) (call.change w)) (step svc w call) := by
  have hkeeps {α : Type} {p : Service α} (hp : p.Uses ChannelOp.KeepsTable) :
      p.void.Traced handle (HoldsHistory (π := π)) :=
    (Traced.of_uses (fun op T w hop h => h.keeps op hop) hp).void
  have hchange : HoldsHistory T (call.change w) := by
    cases call <;> exact ⟨h.keyed, h.recorded, h.stored⟩
  cases call with
  | createSession args =>
      exact hkeeps ((svc.sessions.uses_createSession args _).mono fun _ hop => hop.keepsTable) T w h
  | resumeSession args =>
      exact hkeeps ((svc.sessions.uses_resumeSession args _).mono fun _ hop => hop.keepsTable) T w h
  | attachInteractionRefs ref cart quote =>
      exact hkeeps ((CustomerSessionService.uses_attachInteractionRefs ref cart quote).mono
        fun _ hop => hop.keepsTable) T w h
  | reenter ref =>
      exact hkeeps ((CustomerSessionService.uses_reenter ref).mono
        fun _ hop => hop.keepsTable) T w h
  | _ => exact (keptByTransitions svc).of_call id hchange

/-- The table of a run is what the run has recorded. -/
theorem run (svc : OrderDraftConfirmationService) (orders : π) (upstream : Upstream)
    (refs : RefSource) (calls : List (ChannelCall π)) :
    HoldsHistory (trace svc (World.start orders upstream refs) calls)
      (run svc (World.start orders upstream refs) calls) := by
  have hstart : HoldsHistory [] (World.start orders upstream refs) := by
    refine ⟨start_keyed _ _ _, fun ref key s => ⟨fun h => (by cases h), ?_⟩, ?_⟩
    · rintro ⟨name, w, h, -⟩
      cases h
    · intro ref key s h
      cases h
  exact trace_invariant svc (fun _ _ c h => h.call svc c) hstart calls

end HoldsHistory

/-! ## A transition that returns has happened -/

/-- The call moves its session to the state it asks for, or raises; with a key that was recorded
for another state it raises. -/
structure CustomerSessionService.Happens (svc : CustomerSessionService)
    (ops : List (Channel.Op × World π)) (w : World π) (args : TransitionArgs) : Prop where
  target : ∀ s w', exec handle (svc.transition args) w = (.ok s, w') → s.state = args.target
  otherTarget : ∀ target, target ≠ args.target →
    RecordedFor ops (w.sessions.canonicalRef args.sessionRef) args.idempotencyKey target →
      ∀ s w', exec handle (svc.transition args) w ≠ (.ok s, w')

/-- A transition that a run recorded went to the state it was asked for. -/
theorem CustomerSessionService.recordedFor_transition (svc : CustomerSessionService)
    {args : TransitionArgs} {w : World π} {ref key : String} {target : ChannelState}
    (h : RecordedFor (issued handle (svc.transition args) w) ref key target) :
    target = args.target := by
  obtain ⟨s, hs, rfl⟩ := h
  rcases svc.recorded_transition w args with ⟨current, refs, -, -, hrecorded⟩ | ⟨-, hnot⟩
  · obtain ⟨-, rfl⟩ := (hrecorded ref key s).mp hs
    rfl
  · exact absurd hs (hnot ref key s)

/-- Along every run, a transition that returns has happened exactly if its key was recorded for no
other state. -/
theorem transition_happens_iff (svc : OrderDraftConfirmationService) (orders : π)
    (upstream : Upstream) (refs : RefSource) (calls : List (ChannelCall π)) (args : TransitionArgs) :
    let w := run svc (World.start orders upstream refs) calls
    let ops := trace svc (World.start orders upstream refs) calls
    svc.sessions.Happens ops w args ↔
      ∀ target, RecordedFor ops (w.sessions.canonicalRef args.sessionRef) args.idempotencyKey
        target → target = args.target := by
  intro w ops
  have hholds : HoldsHistory ops w := HoldsHistory.run svc orders upstream refs calls
  constructor
  · intro h target hfor
    obtain ⟨s, hs, rfl⟩ := hfor
    have hprior := (hholds.recorded _ _ s).mpr hs
    exact h.target s w (svc.sessions.exec_transition_of_recorded hprior)
  · intro h
    refine ⟨fun s w' hexec => ?_, fun target hne hfor => absurd (h target hfor) hne⟩
    rcases svc.sessions.transition_cases w args with
      ⟨current, refs, -, hcase⟩ | ⟨prior, hprior, hcase⟩ | ⟨-, e, hcase⟩
    · obtain rfl := Except.ok.inj (congrArg Prod.fst (hexec.symm.trans hcase))
      rfl
    · obtain rfl := Except.ok.inj (congrArg Prod.fst (hexec.symm.trans hcase))
      exact h _ ⟨_, (hholds.recorded _ _ _).mp hprior, rfl⟩
    · cases hexec.symm.trans hcase

end History

section Fixture

open Fixture

/-- The key of the first transition again, for the second state. -/
def retargeted : TransitionArgs :=
  { sessionRef, target := .browsing, idempotencyKey := "k1" }

theorem state_retargeted :
    (exec handle (CustomerSessionService.transition {} retargeted)
      (run {} world (intoReview.take 2))).1.toOption.map (·.state) = some .merchantContext := by
  decide +kernel

/-- A transition returns and the session is not where it was asked to go. -/
theorem transition_returns_elsewhere :
    ¬ ∀ (calls : List Call) (args : TransitionArgs) (s : CustomerSessionSnapshot)
      (w' : World FakeXBOSOrderClient),
        exec handle (CustomerSessionService.transition {} args) (run {} world calls) = (.ok s, w') →
          s.state = args.target := by
  intro h
  have hstate := state_retargeted
  cases hexec : exec handle (CustomerSessionService.transition {} retargeted)
      (run {} world (intoReview.take 2)) with
  | mk r w' =>
      rw [hexec] at hstate
      cases r with
      | error e => cases hstate
      | ok s =>
          have htarget : s.state = .browsing := h _ _ s w' hexec
          have hstays : s.state = .merchantContext := Option.some.inj hstate
          rw [htarget] at hstays
          cases hstays

end Fixture

end XbosCustomerChannel
