import XbosCustomerChannel.Session.Lineage

/-!
# Lineages are simple chains

The two directions of a rotation agree: a successor names its predecessor, and the predecessor names
the successor (`World.Chained`). Generations count along a lineage, so no lineage comes back to
where it was, and the bond a session was created with is the bond of the whole lineage.
-/

namespace XbosCustomerChannel

open Effects Effects.Program Data

variable {π : Type}

/-- `s` is what `p` was rotated into. -/
structure CustomerSessionSnapshot.Precedes (p s : CustomerSessionSnapshot) : Prop where
  rotated : p.rotatedToSessionRef = some s.sessionRef
  named : s.predecessorSessionRef = some p.sessionRef
  invalidated : p.invalidatedAtEpoch.isSome = true
  generation : s.generation = p.generation + 1
  bond : s.bond = p.bond

/-- Later records of the two sessions are linked as the earlier ones were. -/
theorem CustomerSessionSnapshot.Precedes.continues {p p' s s' : CustomerSessionSnapshot}
    (h : p.Precedes s) (hp : p.Continues p') (hs : s.Continues s') : p'.Precedes s' where
  rotated := by rw [hp.rotated (by rw [h.rotated]; rfl), h.rotated, hs.sessionRef]
  named := by rw [hs.predecessor, h.named, hp.sessionRef]
  invalidated := by rw [hp.invalidated h.invalidated, h.invalidated]
  generation := by rw [hs.generation, hp.generation, h.generation]
  bond := by rw [hs.bond, hp.bond, h.bond]

theorem CustomerSessionSnapshot.Precedes.replacementFor (current : CustomerSessionSnapshot)
    (now : Int) (newRef : String) :
    CustomerSessionSnapshot.Precedes
      { current with
        invalidatedAtEpoch := some now
        rotatedToSessionRef := some newRef }
      (CustomerSessionService.replacementFor current newRef) :=
  ⟨rfl, rfl, rfl, rfl, rfl⟩

/-- Every session is stored under its reference, and every link is there from both of its ends. -/
structure World.Chained (w : World π) : Prop where
  keyed : w.Keyed
  predecessor : ∀ key s a, w.sessions.sessions.get? key = some s →
    s.predecessorSessionRef = some a →
      ∃ p, w.sessions.sessions.get? a = some p ∧ p.Precedes s
  successor : ∀ key p b, w.sessions.sessions.get? key = some p →
    p.rotatedToSessionRef = some b →
      ∃ s, w.sessions.sessions.get? b = some s ∧ p.Precedes s

/-! ## Along a run -/

/-- Where the links of a session stored after an effect come from. -/
inductive Linked (w w' : World π) (s' : CustomerSessionSnapshot) : Prop
  /-- They were there before. -/
  | before {key : String} {s : CustomerSessionSnapshot}
      (stored : w.sessions.sessions.get? key = some s)
      (continues : s.Continues s')
      (rotated : s'.rotatedToSessionRef = s.rotatedToSessionRef)
  /-- It has just been rotated out. -/
  | predecessor {key successorRef : String} {s successor : CustomerSessionSnapshot}
      (stored : w.sessions.sessions.get? key = some s)
      (continues : s.Continues s')
      (rotated : s'.rotatedToSessionRef = some successorRef)
      (next : w'.sessions.sessions.get? successorRef = some successor)
      (precedes : s'.Precedes successor)
  /-- It is what has just been rotated in. -/
  | successor {predecessorRef : String} {predecessor : CustomerSessionSnapshot}
      (named : s'.predecessorSessionRef = some predecessorRef)
      (last : w'.sessions.sessions.get? predecessorRef = some predecessor)
      (precedes : predecessor.Precedes s')
      (unrotated : s'.rotatedToSessionRef = none)
  /-- It has just been created. -/
  | created (unnamed : s'.predecessorSessionRef = none) (unrotated : s'.rotatedToSessionRef = none)

theorem SessionEffect.linked {ops : List (Channel.Op × World π)} {w w' : World π}
    (heff : SessionEffect ops w w') {key : String} {s' : CustomerSessionSnapshot}
    (hs' : w'.sessions.sessions.get? key = some s') : Linked w w' s' := by
  cases heff.storedAfter hs' with
  | same hs => exact .before hs (.refl s') rfl
  | @changed current changes hstored _ => exact .before hstored (.replace current changes) rfl
  | @rotatedOut current now newRef hstored hactive hnext =>
      exact .predecessor hstored (.rotatedOut hactive now newRef) rfl hnext
        (.replacementFor current now newRef)
  | @successor current now _ _ _ _ hlast =>
      exact .successor rfl hlast (.replacementFor current now key) rfl
  | created hnewborn _ _ => exact .created hnewborn.predecessor hnewborn.rotatedTo

theorem World.Chained.effect {ops : List (Channel.Op × World π)} {w w' : World π}
    (h : w.Chained) (heff : SessionEffect ops w w') (hk : w'.Keyed) : w'.Chained := by
  -- a link that was there before is one between later records of the same two sessions
  have hback {key a : String} {s s' : CustomerSessionSnapshot}
      (hs : w.sessions.sessions.get? key = some s) (hcontinues : s.Continues s')
      (hnamed : s'.predecessorSessionRef = some a) :
      ∃ p, w'.sessions.sessions.get? a = some p ∧ p.Precedes s' := by
    rw [hcontinues.predecessor] at hnamed
    obtain ⟨p, hp, hprecedes⟩ := h.predecessor key s a hs hnamed
    obtain ⟨p', hp', hcontinues'⟩ := heff.continues hp
    exact ⟨p', hp', hprecedes.continues hcontinues' hcontinues⟩
  refine ⟨hk, fun key s' a hs' hnamed => ?_, fun key p' b hp' hrotated => ?_⟩
  · cases heff.linked hs' with
    | before hs hcontinues _ => exact hback hs hcontinues hnamed
    | predecessor hs hcontinues _ _ _ => exact hback hs hcontinues hnamed
    | successor hnamed' hlast hprecedes _ =>
        obtain rfl := Option.some.inj (hnamed'.symm.trans hnamed)
        exact ⟨_, hlast, hprecedes⟩
    | created hunnamed _ =>
        rw [hunnamed] at hnamed
        cases hnamed
  · cases heff.linked hp' with
    | before hp hcontinues hsame =>
        rw [hsame] at hrotated
        obtain ⟨s, hs, hprecedes⟩ := h.successor _ _ b hp hrotated
        obtain ⟨s', hs', hcontinues'⟩ := heff.continues hs
        exact ⟨s', hs', hprecedes.continues hcontinues hcontinues'⟩
    | predecessor _ _ hrotated' hnext hprecedes =>
        obtain rfl := Option.some.inj (hrotated'.symm.trans hrotated)
        exact ⟨_, hnext, hprecedes⟩
    | successor _ _ _ hunrotated =>
        rw [hunrotated] at hrotated
        cases hrotated
    | created _ hunrotated =>
        rw [hunrotated] at hrotated
        cases hrotated

theorem survives_chained : Survives fun _ (w : World π) => w.Chained where
  keyed _ _ h := h.keyed
  effect _ _ _ _ h heff hk := h.effect heff hk

/-! ## Chains do not branch or come back -/

namespace World.Chained

variable {w : World π}

theorem lineal (h : w.Chained) : w.Lineal := by
  refine ⟨h.keyed, fun key s a hs hnamed => ?_⟩
  obtain ⟨p, hp, hprecedes⟩ := h.predecessor key s a hs hnamed
  exact ⟨p, hp, by rw [hprecedes.rotated, h.keyed key s hs]⟩

/-- Generations grow, and the bond is handed on. -/
theorem transGen (h : w.Chained) {a b : String} (hab : Relation.TransGen w.Succeeds a b) :
    ∃ p s, w.sessions.sessions.get? a = some p ∧ w.sessions.sessions.get? b = some s ∧
      p.generation < s.generation ∧ s.bond = p.bond := by
  have hlink {a b : String} (hab : w.Succeeds a b) :
      ∃ p s, w.sessions.sessions.get? a = some p ∧ w.sessions.sessions.get? b = some s ∧
        p.generation < s.generation ∧ s.bond = p.bond := by
    obtain ⟨s, hs, hnamed⟩ := hab
    obtain ⟨p, hp, hprecedes⟩ := h.predecessor b s a hs hnamed
    refine ⟨p, s, hp, hs, ?_, hprecedes.bond⟩
    rw [hprecedes.generation]
    omega
  induction hab with
  | single hab => exact hlink hab
  | tail _ hbc ih =>
      obtain ⟨p, s, hp, hs, hlt, hbond⟩ := ih
      obtain ⟨s', t, hs', ht, hlt', hbond'⟩ := hlink hbc
      obtain rfl := Option.some.inj (hs.symm.trans hs')
      exact ⟨p, t, hp, ht, hlt.trans hlt', hbond'.trans hbond⟩

theorem acyclic (h : w.Chained) (a : String) : ¬ Relation.TransGen w.Succeeds a a := by
  intro hcycle
  obtain ⟨p, s, hp, hs, hlt, -⟩ := h.transGen hcycle
  obtain rfl := Option.some.inj (hp.symm.trans hs)
  omega

end World.Chained

section Run

variable [XBOSOrderPort π] [Hashlib] (svc : OrderDraftConfirmationService) (orders : π)
  (upstream : Upstream) (refs : RefSource)

omit [XBOSOrderPort π] [Hashlib] in
theorem start_chained : (World.start orders upstream refs).Chained :=
  ⟨start_keyed orders upstream refs, fun _ _ _ hs => (by cases hs), fun _ _ _ hs => (by cases hs)⟩

theorem step_chained {w : World π} (hc : w.Chained) (call : ChannelCall π) :
    (step svc w call).Chained :=
  survives_chained.of_call svc (T := []) hc call

/-- Whatever else is called, a stored session is continued. -/
theorem run_continues {w : World π} (hk : w.Keyed) {key : String} {s : CustomerSessionSnapshot}
    (hs : w.sessions.sessions.get? key = some s) (calls : List (ChannelCall π)) :
    ∃ s', (run svc w calls).sessions.sessions.get? key = some s' ∧ s.Continues s' := by
  have hsurvives : Survives fun _ (w : World π) => w.Keyed ∧
      ∃ s', w.sessions.sessions.get? key = some s' ∧ s.Continues s' :=
    { keyed := fun _ _ h => h.1
      effect := by
        rintro _ _ w w' ⟨-, s', hs', hcontinues⟩ heff hk'
        obtain ⟨s'', hs'', hcontinues'⟩ := heff.continues hs'
        exact ⟨hk', s'', hs'', hcontinues.trans hcontinues'⟩ }
  exact (hsurvives.of_trace svc (T := []) ⟨hk, s, hs, .refl s⟩ calls).2

/-- In every world a run reaches: a predecessor and its successor name each other, the predecessor
is invalidated, the successor is one generation on and has the same bond; nobody else is the
predecessor's successor; lineages do not come back; and no later call changes a session's bond. -/
theorem run_chained (calls : List (ChannelCall π)) :
    (∀ key s a, (run svc (World.start orders upstream refs) calls).sessions.sessions.get? key =
        some s → s.predecessorSessionRef = some a →
      (∃ p, (run svc (World.start orders upstream refs) calls).sessions.sessions.get? a = some p ∧
        p.rotatedToSessionRef = some key ∧ p.invalidatedAtEpoch.isSome = true ∧
        s.generation = p.generation + 1 ∧ s.bond = p.bond) ∧
      ∀ key' s', (run svc (World.start orders upstream refs) calls).sessions.sessions.get? key' =
        some s' → s'.predecessorSessionRef = some a → key' = key) ∧
    (∀ key p b, (run svc (World.start orders upstream refs) calls).sessions.sessions.get? key =
        some p → p.rotatedToSessionRef = some b →
      ∃ s, (run svc (World.start orders upstream refs) calls).sessions.sessions.get? b = some s ∧
        s.predecessorSessionRef = some key) ∧
    (∀ a, ¬ Relation.TransGen (run svc (World.start orders upstream refs) calls).Succeeds a a) ∧
    ∀ key s, (run svc (World.start orders upstream refs) calls).sessions.sessions.get? key =
        some s → ∀ later, ∃ s',
      (run svc (World.start orders upstream refs) (calls ++ later)).sessions.sessions.get? key =
        some s' ∧ s'.bond = s.bond := by
  have hk : (run svc (World.start orders upstream refs) calls).Keyed :=
    run_keyed svc (start_keyed orders upstream refs) calls
  have h : (run svc (World.start orders upstream refs) calls).Chained :=
    run_invariant svc (I := World.Chained) (fun _ call hc => step_chained svc hc call)
      (start_chained orders upstream refs) calls
  refine ⟨fun key s a hs hnamed => ⟨?_, fun key' s' hs' hnamed' => ?_⟩,
    fun key p b hp hrotated => ?_, h.acyclic, fun key s hs later => ?_⟩
  · obtain ⟨p, hp, hprecedes⟩ := h.predecessor key s a hs hnamed
    refine ⟨p, hp, ?_, hprecedes.invalidated, hprecedes.generation, hprecedes.bond⟩
    rw [hprecedes.rotated, hk key s hs]
  · exact h.lineal.succeeds_unique ⟨s', hs', hnamed'⟩ ⟨s, hs, hnamed⟩
  · obtain ⟨s, hs, hprecedes⟩ := h.successor key p b hp hrotated
    exact ⟨s, hs, by rw [hprecedes.named, hk key p hp]⟩
  · obtain ⟨s', hs', hcontinues⟩ := run_continues svc hk hs later
    rw [run_append]
    exact ⟨s', hs', hcontinues.bond⟩

end Run

end XbosCustomerChannel
