import XbosCustomerChannel.Session.Idempotency

/-!
# Transitions are counted

A transition that raises, or that repeats a key, changes nothing; one that moves its session adds
one to its count and one entry to the table. So a session's count tells how many of its entries
there are, from the count it was created with.
-/

namespace XbosCustomerChannel

open Effects Effects.Program Data

/-- The number of results recorded for the session stored at `ref`. -/
def InMemoryCustomerSessionStore.entriesFor (store : InMemoryCustomerSessionStore) (ref : String) :
    Nat := store.idempotentResults.keys.countP fun key => key.1 = ref

section Counting

variable {π : Type}

/-! ## One transition -/

/-- The session of the transition is moved, and nothing else is changed. -/
structure MovesOnly (w : World π) (args : TransitionArgs) (s : CustomerSessionSnapshot)
    (w' : World π) : Prop where
  target : s.state = args.target
  edge : ∃ current, w.sessions.get args.sessionRef = some current ∧
    s.state ∈ current.state.transitions
  stored : w'.sessions.sessions.get? (w.sessions.canonicalRef args.sessionRef) = some s
  others : ∀ ref, ref ≠ w.sessions.canonicalRef args.sessionRef →
    w'.sessions.sessions.get? ref = w.sessions.sessions.get? ref
  aliases : w'.sessions.aliases = w.sessions.aliases
  entry : w'.sessions.idempotentResults = w.sessions.idempotentResults.set
    (w.sessions.canonicalRef args.sessionRef, args.idempotencyKey) s
  oneEntry : w'.sessions.idempotentResults.size = w.sessions.idempotentResults.size + 1
  outside : w' = { w with sessions := w'.sessions }

variable [XBOSOrderPort π] [Hashlib]

/-- What a transition does in a world whose operations so far are `ops`. -/
structure CustomerSessionService.Atomic (svc : CustomerSessionService)
    (ops : List (Channel.Op × World π)) (w : World π) (args : TransitionArgs) : Prop where
  raised : ∀ e w', exec handle (svc.transition args) w = (.error e, w') → w' = w
  replayed : ∀ s, Recorded ops (w.sessions.canonicalRef args.sessionRef) args.idempotencyKey s →
    exec handle (svc.transition args) w = (.ok s, w)
  moved : (∀ s, ¬ Recorded ops (w.sessions.canonicalRef args.sessionRef) args.idempotencyKey s) →
    ∀ s w', exec handle (svc.transition args) w = (.ok s, w') → MovesOnly w args s w'

omit [XBOSOrderPort π] [Hashlib] in
/-- Storing the session that was found under a name writes one record. -/
theorem World.Keyed.get?_transitioned {w : World π} (hk : w.Keyed) {args : TransitionArgs}
    {current : CustomerSessionSnapshot} (hfound : w.sessions.get args.sessionRef = some current)
    (refs : SessionChanges) (ref : String) :
    (w.transitioned args (current.transitioned args refs)).sessions.sessions.get? ref =
      if ref = w.sessions.canonicalRef args.sessionRef then some (current.transitioned args refs)
      else w.sessions.sessions.get? ref := by
  have href : (current.transitioned args refs).sessionRef = w.sessions.canonicalRef args.sessionRef :=
    hk _ current hfound
  rw [← href]
  exact Dict.get?_set _ _ _ _

theorem HoldsHistory.atomic {ops : List (Channel.Op × World π)} {w : World π}
    (h : HoldsHistory ops w) (svc : CustomerSessionService) (args : TransitionArgs) :
    svc.Atomic ops w args where
  raised e w' hexec := by
    rcases svc.transition_cases w args with
      ⟨current, refs, -, hcase⟩ | ⟨prior, -, hcase⟩ | ⟨-, e, hcase⟩
    · cases hexec.symm.trans hcase
    · cases hexec.symm.trans hcase
    · exact congrArg Prod.snd (hexec.symm.trans hcase)
  replayed s hs := svc.exec_transition_of_recorded ((h.recorded _ _ s).mpr hs)
  moved hnot s w' hexec := by
    rcases svc.transition_cases w args with
      ⟨current, refs, henabled, hcase⟩ | ⟨prior, hprior, -⟩ | ⟨-, e, hcase⟩
    · rw [hcase] at hexec
      obtain ⟨hs, rfl⟩ := Prod.mk.inj hexec
      obtain rfl := Except.ok.inj hs
      have hget := h.keyed.get?_transitioned henabled.found refs
      refine ⟨rfl, ⟨current, henabled.found, henabled.allowed⟩, ?_, fun ref hne => ?_, rfl, rfl, ?_,
        rfl⟩
      · rw [hget, if_pos rfl]
      · rw [hget, if_neg hne]
      · exact Dict.size_set_of_none henabled.fresh _
    · exact absurd ((h.recorded _ _ prior).mp hprior) (hnot prior)
    · cases hexec.symm.trans hcase

/-! ## What a call adds to the counts -/

/-- The session is new, and starts from the count of its predecessor. -/
structure CreatedAs (w w' : World π) (ref : String) (s : CustomerSessionSnapshot) : Prop where
  drawn : ref = w.newSessionRef
  new : w.sessions.sessions.get? ref = none
  stored : w'.sessions.sessions.get? ref = some s
  firstborn : s.predecessorSessionRef = none → s.transitionCount = 0
  successor : ∀ p, s.predecessorSessionRef = some p → ∃ predecessor,
    w.sessions.sessions.get? p = some predecessor ∧
      s.transitionCount = predecessor.transitionCount

/-- The session was stored before, and counts the entries that have been added for it. -/
def CountsOn (w w' : World π) (ref : String) (s' : CustomerSessionSnapshot) : Prop :=
  ∃ s, w.sessions.sessions.get? ref = some s ∧
    s'.transitionCount + w.sessions.entriesFor ref = s.transitionCount + w'.sessions.entriesFor ref

/-- Every session that is stored now was stored before. -/
def CountKept (w w' : World π) : Prop :=
  ∀ ref s', w'.sessions.sessions.get? ref = some s' → CountsOn w w' ref s'

omit [XBOSOrderPort π] [Hashlib] in
theorem CountKept.of_eq {w w' : World π} (h : w'.sessions = w.sessions) : CountKept w w' := by
  intro ref s' hs
  rw [h] at hs
  exact ⟨s', hs, by rw [h]⟩

omit [XBOSOrderPort π] [Hashlib] in
theorem CountKept.trans {w w' w'' : World π} (h : CountKept w w') (h' : CountKept w' w'') :
    CountKept w w'' := by
  intro ref s'' hs''
  obtain ⟨s', hs', hcount'⟩ := h' ref s'' hs''
  obtain ⟨s, hs, hcount⟩ := h ref s' hs'
  exact ⟨s, hs, by omega⟩

omit [XBOSOrderPort π] [Hashlib] in
/-- A session whose count stays is stored again; the table is as it was. -/
theorem CountKept.of_replaced {w w' : World π} {s : CustomerSessionSnapshot}
    (hs : w.sessions.sessions.get? s.sessionRef = some s) {changes : SessionChanges}
    (huncounted : changes.countsTransition = false)
    (hsessions : w'.sessions = w.sessions.put (s.replace changes)) : CountKept w w' := by
  intro ref s' hs'
  rw [CountsOn, hsessions]
  rw [hsessions] at hs'
  have hs' : (w.sessions.sessions.set s.sessionRef (s.replace changes)).get? ref = some s' := hs'
  rw [Dict.get?_set] at hs'
  split at hs'
  · next href =>
    obtain rfl := Option.some.inj hs'
    refine ⟨s, by rw [href, hs], ?_⟩
    show s.transitionCount + changes.countsTransition.toNat + _ = s.transitionCount + _
    rw [huncounted]
    rfl
  · exact ⟨s', hs', rfl⟩

omit [XBOSOrderPort π] [Hashlib] in
/-- The entries of a session, with one more entry in the table. -/
theorem entriesFor_transitioned {w : World π} {args : TransitionArgs}
    (hfresh : w.sessions.idempotentResult args.sessionRef args.idempotencyKey = none)
    (updated : CustomerSessionSnapshot) (ref : String) :
    (w.transitioned args updated).sessions.entriesFor ref =
      w.sessions.entriesFor ref +
        if w.sessions.canonicalRef args.sessionRef = ref then 1 else 0 := by
  have hkeys : (w.transitioned args updated).sessions.idempotentResults.keys =
      (w.sessions.canonicalRef args.sessionRef, args.idempotencyKey) ::
        w.sessions.idempotentResults.keys := Dict.keys_set_of_none hfresh _
  unfold InMemoryCustomerSessionStore.entriesFor
  rw [hkeys, List.countP_cons]
  simp

theorem countKept_transition {T : List (Channel.Op × World π)} {w : World π} (h : HoldsHistory T w)
    (svc : CustomerSessionService) (args : TransitionArgs) :
    CountKept w (exec handle (svc.transition args) w).2 := by
  rcases svc.transition_cases w args with
    ⟨current, refs, henabled, hcase⟩ | ⟨prior, -, hcase⟩ | ⟨-, e, hcase⟩
  · rw [hcase]
    intro ref s' hs'
    rw [h.keyed.get?_transitioned henabled.found] at hs'
    rw [CountsOn, entriesFor_transitioned henabled.fresh]
    split at hs'
    · next href =>
      obtain rfl := Option.some.inj hs'
      refine ⟨current, by rw [href]; exact henabled.found, ?_⟩
      rw [if_pos href.symm]
      show current.transitionCount + 1 + _ = _
      omega
    · next href =>
      refine ⟨s', hs', ?_⟩
      rw [if_neg fun heq => href heq.symm]
      rfl
  · exact .of_eq (by rw [hcase])
  · exact .of_eq (by rw [hcase])

omit [XBOSOrderPort π] [Hashlib] in
theorem HoldsHistory.entriesFor_eq_zero {T : List (Channel.Op × World π)} {w : World π}
    (h : HoldsHistory T w) {ref : String} (hnew : w.sessions.sessions.get? ref = none) :
    w.sessions.entriesFor ref = 0 := by
  refine List.countP_eq_zero.mpr fun key hkey => ?_
  intro href
  obtain ⟨r, k⟩ := key
  obtain rfl : r = ref := by simpa using href
  cases hs : w.sessions.idempotentResults.get? (r, k) with
  | none => exact Dict.get?_eq_none_iff.mp hs hkey
  | some s =>
      have hstored := h.stored r k s hs
      rw [hnew] at hstored
      cases hstored

/-- A session of a world is one that was there and counts on, or a new one without entries. -/
def Counts (w w' : World π) : Prop :=
  ∀ ref s', w'.sessions.sessions.get? ref = some s' →
    CountsOn w w' ref s' ∨ CreatedAs w w' ref s' ∧ w'.sessions.entriesFor ref = 0

omit [XBOSOrderPort π] [Hashlib] in
theorem CountKept.counts {w w' : World π} (h : CountKept w w') : Counts w w' :=
  fun ref s' hs' => .inl (h ref s' hs')

omit [XBOSOrderPort π] [Hashlib] in
theorem CountsOn.of_same {w w' : World π} {ref : String} {s : CustomerSessionSnapshot}
    (hs : w.sessions.sessions.get? ref = some s)
    (htable : w'.sessions.idempotentResults = w.sessions.idempotentResults) :
    CountsOn w w' ref s :=
  ⟨s, hs, by simp only [InMemoryCustomerSessionStore.entriesFor, htable]⟩

theorem counts_createSession {T : List (Channel.Op × World π)} {w : World π}
    (h : HoldsHistory T w) (svc : CustomerSessionService) (args : CreateSessionArgs) :
    Counts w (exec handle (svc.createSession args w.newSessionRef) w).2 := by
  have hnew := w.get?_newSessionRef
  -- whichever session it is, it is the only one that is stored
  have hadded {w' : World π} {s : CustomerSessionSnapshot}
      (hsessions : w'.sessions.sessions = w.sessions.sessions.set w.newSessionRef s)
      (htable : w'.sessions.idempotentResults = w.sessions.idempotentResults)
      (hpred : s.predecessorSessionRef = none) (hcount : s.transitionCount = 0) : Counts w w' := by
    intro ref s' hs'
    have hget := hs'
    rw [hsessions, Dict.get?_set] at hget
    split at hget
    · next href =>
      subst href
      obtain rfl := Option.some.inj hget
      refine .inr ⟨⟨rfl, hnew, hs', fun _ => hcount, fun p hp => ?_⟩, ?_⟩
      · rw [hpred] at hp
        cases hp
      · rw [InMemoryCustomerSessionStore.entriesFor, htable]
        exact h.entriesFor_eq_zero hnew
    · exact .inl (.of_same hget htable)
  generalize hexec : exec handle (svc.createSession args w.newSessionRef) w = result
  have hcreation := svc.createSession_creation args w.newSessionRef w
  rw [hexec] at hcreation
  cases hcreation with
  | refused e secure => exact (CountKept.of_eq rfl).counts
  | secure bound => exact hadded rfl rfl rfl rfl
  | unnamed legacy name => exact hadded rfl rfl rfl rfl
  | named legacy name free => exact hadded rfl rfl rfl rfl
  | taken legacy name taken => exact hadded rfl rfl rfl rfl

theorem counts_resumeSession {T : List (Channel.Op × World π)} {w : World π}
    (h : HoldsHistory T w) (svc : CustomerSessionService) (args : ResumeSessionArgs) :
    Counts w (exec handle (svc.resumeSession args w.newSessionRef) w).2 := by
  have hnew := w.get?_newSessionRef
  rcases svc.resumeSession_cases args w.newSessionRef w with
    ⟨current, stored, henabled, hexec⟩ | ⟨e, hexec⟩
  · rw [hexec]
    obtain ⟨hcanonical, rfl⟩ := CustomerSessionService.ResumeEnabled.stored_eq svc henabled h.keyed
    have hstored := h.keyed.get?_of_get henabled.found
    intro ref s' hs'
    have hget : ((w.sessions.sessions.set (w.sessions.canonicalRef stored.sessionRef) _).set
      w.newSessionRef _).get? ref = some s' := hs'
    rw [hcanonical, Dict.get?_set, Dict.get?_set] at hget
    split at hget
    · next href =>
      subst href
      obtain rfl := Option.some.inj hget
      refine .inr ⟨⟨rfl, hnew, hs', fun hp => (by cases hp), fun p hp => ?_⟩,
        h.entriesFor_eq_zero hnew⟩
      obtain rfl := Option.some.inj hp
      exact ⟨stored, hstored, rfl⟩
    split at hget
    · next href =>
      subst href
      obtain rfl := Option.some.inj hget
      exact .inl ⟨stored, hstored, rfl⟩
    · exact .inl (.of_same hget rfl)
  · exact (CountKept.of_eq (by rw [hexec])).counts

/-- Calls that draw a reference for a new session. -/
def ChannelCall.Draws : ChannelCall π → Prop
  | .createSession _ => True
  | .resumeSession _ => True
  | _ => False

theorem step_countKept {T : List (Channel.Op × World π)} {w : World π} (h : HoldsHistory T w)
    (svc : OrderDraftConfirmationService) {call : ChannelCall π} (hcall : ¬ call.Draws) :
    CountKept w (step svc w call) := by
  have hkept : KeptByTransitions svc fun T (w' : World π) => HoldsHistory T w' ∧ CountKept w w' :=
    { keeps := fun op _ w' hop h' =>
        ⟨h'.1.keeps op hop.keepsTable, h'.2.trans (.of_eq (handle_keepsSessionStore w' hop))⟩
      transition := fun args _ _ h' =>
        ⟨h'.1.transition svc.sessions args, h'.2.trans (countKept_transition h'.1 _ args)⟩ }
  have hchange : HoldsHistory T (call.change w) ∧ CountKept w (call.change w) := by
    cases call <;> exact ⟨⟨h.keyed, h.recorded, h.stored⟩, .of_eq rfl⟩
  cases call with
  | createSession args => exact absurd trivial hcall
  | resumeSession args => exact absurd trivial hcall
  | attachInteractionRefs ref cart quote =>
      show CountKept w (exec handle (Program.void _) w).2
      rw [exec_void_state]
      rcases CustomerSessionService.attachInteractionRefs_cases ref cart quote w with
        ⟨current, hget, hexec⟩ | ⟨-, hexec⟩
      · exact .of_replaced (h.keyed.get?_of_get hget) rfl (by rw [hexec]; rfl)
      · exact .of_eq (by rw [hexec])
  | reenter ref =>
      show CountKept w (exec handle (Program.void _) w).2
      rw [exec_void_state]
      rcases CustomerSessionService.reenter_cases ref w with
        ⟨current, state, p, -, henabled, -, named, hexec⟩ | ⟨r, hexec⟩
      · exact .of_replaced (h.keyed.get?_of_get henabled.found) rfl (by rw [hexec]; rfl)
      · exact .of_eq (by rw [hexec])
  | _ => exact (hkept.of_call id hchange).2

theorem step_counts {T : List (Channel.Op × World π)} {w : World π} (h : HoldsHistory T w)
    (svc : OrderDraftConfirmationService) (call : ChannelCall π) : Counts w (step svc w call) := by
  cases call with
  | createSession args =>
      show Counts w (exec handle (Program.void _) w).2
      rw [exec_void_state]
      exact counts_createSession h svc.sessions args
  | resumeSession args =>
      show Counts w (exec handle (Program.void _) w).2
      rw [exec_void_state]
      exact counts_resumeSession h svc.sessions args
  | _ => exact (step_countKept h svc id).counts

/-! ## Runs -/

/-- Every stored session was created by one of the calls of the run, and counts on from there. -/
theorem run_counts (svc : OrderDraftConfirmationService) (orders : π) (upstream : Upstream)
    (refs : RefSource) (calls : List (ChannelCall π)) {ref : String} {s : CustomerSessionSnapshot}
    (hs : (run svc (World.start orders upstream refs) calls).sessions.sessions.get? ref = some s) :
    ∃ before call after s₀, calls = before ++ call :: after ∧
      CreatedAs (run svc (World.start orders upstream refs) before)
        (run svc (World.start orders upstream refs) (before ++ [call])) ref s₀ ∧
      s.transitionCount = s₀.transitionCount +
        (run svc (World.start orders upstream refs) calls).sessions.entriesFor ref := by
  induction calls using List.reverseRecOn generalizing s with
  | nil => cases hs
  | append_singleton calls call ih =>
      have hholds := HoldsHistory.run svc orders upstream refs calls
      have hstep : run svc (World.start orders upstream refs) (calls ++ [call]) =
          step svc (run svc (World.start orders upstream refs) calls) call := run_append _ _ _ _
      rcases step_counts hholds svc call ref s (hstep ▸ hs) with ⟨s₁, hs₁, hcount⟩ | ⟨hnew, hzero⟩
      · obtain ⟨before, c, after, s₀, rfl, hcreated, hsum⟩ := ih hs₁
        refine ⟨before, c, after ++ [call], s₀, by simp, hcreated, ?_⟩
        rw [hstep]
        omega
      · refine ⟨calls, call, [], s, rfl, by rw [hstep]; exact hnew, ?_⟩
        rw [hstep, hzero]
        rfl

/-- Transitions are atomic, and a stored session counts the entries recorded for it. -/
theorem transitions_atomic_and_counted (svc : OrderDraftConfirmationService) (orders : π)
    (upstream : Upstream) (refs : RefSource) (calls : List (ChannelCall π)) :
    let reached (calls : List (ChannelCall π)) := run svc (World.start orders upstream refs) calls
    (∀ args, svc.sessions.Atomic (trace svc (World.start orders upstream refs) calls) (reached calls)
      args) ∧
    ∀ ref s, (reached calls).sessions.sessions.get? ref = some s → s.sessionRef = ref ∧
      ∃ before call after s₀, calls = before ++ call :: after ∧
        CreatedAs (reached before) (reached (before ++ [call])) ref s₀ ∧
        s.transitionCount = s₀.transitionCount + (reached calls).sessions.entriesFor ref := by
  have hholds := HoldsHistory.run svc orders upstream refs calls
  refine ⟨fun args => hholds.atomic svc.sessions args, fun ref s hs => ?_⟩
  exact ⟨hholds.keyed ref s hs, run_counts svc orders upstream refs calls hs⟩

end Counting

end XbosCustomerChannel
