import XbosCustomerChannel.Effects.Interleaving
import XbosCustomerChannel.Fixture
import XbosCustomerChannel.Session.Lineage

/-!
# Session calls at once

Calls that update sessions, each store method one step. Only a rotation compares before it sets:
the other calls read a snapshot and later write the whole record back. What such a write can undo
is a rotation that happened in between, so the contract of a call is that what it writes back was
once stored, and the condition on a schedule is that nothing is written back over a rotation.
-/

namespace XbosCustomerChannel

open Effects Effects.Program Data

/-- The calls that update a session. -/
inductive SessionCall
  | resume (args : ResumeSessionArgs)
  | transition (args : TransitionArgs)
  | attach (sessionRef : String) (cartRef quoteRef : Option String)
  | reenter (sessionRef : String)

/-- The program of a call; a rotation has drawn its new reference. -/
def SessionCall.program (svc : CustomerSessionService) (newSessionRef : String) :
    SessionCall → Service CustomerSessionSnapshot
  | .resume args => svc.resumeSession args newSessionRef
  | .transition args => svc.transition args
  | .attach ref cart quote => CustomerSessionService.attachInteractionRefs ref cart quote
  | .reenter ref => CustomerSessionService.reenter ref

/-- What a stored session may have become: moved on, but in its place and, once rotated, for
good. -/
structure CustomerSessionSnapshot.Became (s s' : CustomerSessionSnapshot) : Prop where
  sessionRef : s'.sessionRef = s.sessionRef
  predecessor : s'.predecessorSessionRef = s.predecessorSessionRef
  rotated : s.staleOrRotated = true →
    s'.rotatedToSessionRef = s.rotatedToSessionRef ∧ s'.invalidatedAtEpoch = s.invalidatedAtEpoch

namespace CustomerSessionSnapshot.Became

variable {s s' s'' : CustomerSessionSnapshot}

theorem refl (s : CustomerSessionSnapshot) : s.Became s := ⟨rfl, rfl, fun _ => ⟨rfl, rfl⟩⟩

theorem stale (h : s.Became s') (hs : s.staleOrRotated = true) : s'.staleOrRotated = true := by
  obtain ⟨hrotated, hinvalidated⟩ := h.rotated hs
  unfold staleOrRotated at hs ⊢
  rw [hrotated, hinvalidated]
  exact hs

theorem trans (h₁ : s.Became s') (h₂ : s'.Became s'') : s.Became s'' where
  sessionRef := h₂.sessionRef.trans h₁.sessionRef
  predecessor := h₂.predecessor.trans h₁.predecessor
  rotated hs := by
    obtain ⟨hr₁, hi₁⟩ := h₁.rotated hs
    obtain ⟨hr₂, hi₂⟩ := h₂.rotated (h₁.stale hs)
    exact ⟨hr₂.trans hr₁, hi₂.trans hi₁⟩

/-- Writing back an earlier snapshot, unless it undoes a rotation. -/
theorem replace {base : CustomerSessionSnapshot} (h : base.Became s)
    (hstale : s.staleOrRotated = true → base.staleOrRotated = true) (changes : SessionChanges) :
    s.Became (base.replace changes) where
  sessionRef := h.sessionRef.symm
  predecessor := h.predecessor.symm
  rotated hs := by
    obtain ⟨hrotated, hinvalidated⟩ := h.rotated (hstale hs)
    exact ⟨hrotated.symm, hinvalidated.symm⟩

end CustomerSessionSnapshot.Became

section Worlds

variable {π : Type}

/-- Every stored session has become something. -/
def World.SessionsKept (w w' : World π) : Prop :=
  ∀ key s, w.sessions.sessions.get? key = some s →
    ∃ s', w'.sessions.sessions.get? key = some s' ∧ s.Became s'

theorem World.SessionsKept.refl (w : World π) : w.SessionsKept w := fun _ s hs => ⟨s, hs, .refl s⟩

theorem World.SessionsKept.trans {w w' w'' : World π} (h₁ : w.SessionsKept w')
    (h₂ : w'.SessionsKept w'') : w.SessionsKept w'' := by
  intro key s hs
  obtain ⟨s', hs', h⟩ := h₁ key s hs
  obtain ⟨s'', hs'', h'⟩ := h₂ key s' hs'
  exact ⟨s'', hs'', h.trans h'⟩

theorem World.SessionsKept.rotationsKept {w w' : World π} (h : w.SessionsKept w') :
    w.RotationsKept w' := by
  intro key s next hs hrotated
  obtain ⟨s', hs', hbecame⟩ := h key s hs
  have hstale : s.staleOrRotated = true := by
    simp [CustomerSessionSnapshot.staleOrRotated, hrotated]
  exact ⟨s', hs', (hbecame.rotated hstale).1.trans hrotated⟩

/-- The snapshot was stored under its reference. -/
def World.Holds (w : World π) (base : CustomerSessionSnapshot) : Prop :=
  ∃ s, w.sessions.sessions.get? base.sessionRef = some s ∧ base.Became s

theorem World.SessionsKept.holds {w w' : World π} (h : w.SessionsKept w')
    {base : CustomerSessionSnapshot} (hb : w.Holds base) : w'.Holds base := by
  obtain ⟨s, hs, hbecame⟩ := hb
  obtain ⟨s', hs', hbecame'⟩ := h _ s hs
  exact ⟨s', hs', hbecame.trans hbecame'⟩

/-! ## What a call may do -/

/-- The condition on a schedule: no snapshot from before a rotation is written back after it. -/
def LeavesRotated (op : Channel.Op) (w : World π) : Prop :=
  ∀ base changes s, op = .session (.put base changes) →
    w.sessions.sessions.get? base.sessionRef = some s → s.staleOrRotated = true →
      base.staleOrRotated = true

/-- What a call guarantees that has drawn `newRef`. -/
def WritesBack (newRef : String) : Channel.Op → World π → Prop
  | .session (.put base _), w => w.Holds base
  | .session (.putWithLegacyAlias _ _), _ => False
  | .session (.rotateIfActive ref _ _ replacement), w =>
      w.sessions.sessions.get? newRef = none ∧ w.sessions.canonicalRef ref = ref ∧
        ∃ current, current.sessionRef = ref ∧
          replacement = CustomerSessionService.replacementFor current newRef
  | _, _ => True

/-- What the calls rely on: lineages stay what they are. -/
structure World.Evolves (w w' : World π) : Prop where
  lineal : w'.Lineal
  kept : w.SessionsKept w'
  aliases : w'.sessions.aliases = w.sessions.aliases

theorem put_evolves {w : World π} (hl : w.Lineal) {base : CustomerSessionSnapshot}
    {changes : SessionChanges} (hheld : w.Holds base)
    (hleaves : LeavesRotated (.session (.put base changes)) w) :
    w.Evolves (w.stored (base.replace changes)) := by
  obtain ⟨s, hs, hbecame⟩ := hheld
  have hnew := hbecame.replace (hleaves base changes s rfl hs) changes
  have hkept : w.SessionsKept (w.stored (base.replace changes)) := by
    intro key t ht
    by_cases hkey : key = base.sessionRef
    · subst hkey
      obtain rfl := Option.some.inj (hs.symm.trans ht)
      exact ⟨base.replace changes, Dict.get?_set_self _ _ _, hnew⟩
    · exact ⟨t, (Dict.get?_set_of_ne _ hkey _).trans ht, .refl t⟩
  refine ⟨hl.of_rotationsKept (hl.keyed.stored _) hkept.rotationsKept ?_, hkept, rfl⟩
  intro key t a ht hpred
  change (w.sessions.sessions.set base.sessionRef (base.replace changes)).get? key = some t at ht
  rw [Dict.get?_set] at ht
  split at ht
  · next hkey =>
    subst hkey
    obtain rfl := Option.some.inj ht
    exact .inl ⟨s, hs, hnew.predecessor.symm.trans hpred⟩
  · exact .inl ⟨t, ht, hpred⟩

theorem rotated_evolves {w : World π} (hl : w.Lineal) {current stored : CustomerSessionSnapshot}
    {newRef : String} (now : Int) (hstored : w.sessions.sessions.get? current.sessionRef = some stored)
    (hactive : stored.staleOrRotated = false) (hfresh : w.sessions.sessions.get? newRef = none) :
    w.Evolves (w.rotated current.sessionRef stored now
      (CustomerSessionService.replacementFor current newRef)) := by
  have hne : current.sessionRef ≠ newRef := by
    rintro rfl
    rw [hstored] at hfresh
    cases hfresh
  have hpredecessor : (w.rotated current.sessionRef stored now
      (CustomerSessionService.replacementFor current newRef)).sessions.sessions.get?
        current.sessionRef = some
          { stored with
            invalidatedAtEpoch := some now
            rotatedToSessionRef := some newRef } :=
    (Dict.get?_set_of_ne _ hne _).trans (Dict.get?_set_self _ _ _)
  have hkept : w.SessionsKept (w.rotated current.sessionRef stored now
      (CustomerSessionService.replacementFor current newRef)) := by
    intro key t ht
    -- the predecessor is marked, the successor's name was free, the others stay
    by_cases hkey : key = current.sessionRef
    · subst hkey
      obtain rfl := Option.some.inj (hstored.symm.trans ht)
      refine ⟨_, hpredecessor, ⟨rfl, rfl, fun hstale => ?_⟩⟩
      rw [hactive] at hstale
      cases hstale
    · refine ⟨t, ?_, .refl t⟩
      have hnew : key ≠ newRef := by
        rintro rfl
        rw [ht] at hfresh
        cases hfresh
      exact ((Dict.get?_set_of_ne _ hnew _).trans (Dict.get?_set_of_ne _ hkey _)).trans ht
  have hk := hl.keyed.rotated hstored now (CustomerSessionService.replacementFor current newRef)
  refine ⟨hl.of_rotationsKept hk hkept.rotationsKept ?_, hkept, rfl⟩
  -- a successor in the table is the new one or was there before
  intro key t a ht hpred
  change ((w.sessions.sessions.set current.sessionRef _).set newRef _).get? key = some t at ht
  rw [Dict.get?_set, Dict.get?_set] at ht
  split at ht
  · next hkey =>
    subst hkey
    obtain rfl := Option.some.inj ht
    obtain rfl : current.sessionRef = a := Option.some.inj hpred
    exact .inr ⟨_, hpredecessor, rfl⟩
  split at ht
  · next hkey =>
    subst hkey
    obtain rfl := Option.some.inj ht
    exact .inl ⟨stored, hstored, hpred⟩
  · exact .inl ⟨t, ht, hpred⟩

variable [XBOSOrderPort π] [Hashlib]

/-- The stored sessions and their aliases are as they were. -/
structure World.SameSessions (w w' : World π) : Prop where
  sessions : w'.sessions.sessions = w.sessions.sessions
  aliases : w'.sessions.aliases = w.sessions.aliases

instance (w w' : World π) : Decidable (w.SameSessions w') :=
  decidable_of_iff
    (w'.sessions.sessions = w.sessions.sessions ∧ w'.sessions.aliases = w.sessions.aliases)
    ⟨fun h => ⟨h.1, h.2⟩, fun h => ⟨h.sessions, h.aliases⟩⟩

omit [XBOSOrderPort π] [Hashlib] in
theorem World.SameSessions.evolves {w w' : World π} (h : w.SameSessions w') (hl : w.Lineal) :
    w.Evolves w' := by
  refine ⟨⟨fun k s hs => ?_, fun k s a hs hpred => ?_⟩, fun k s hs => ?_, h.aliases⟩
  · rw [h.sessions] at hs
    exact hl.keyed k s hs
  · rw [h.sessions] at hs ⊢
    exact hl.predecessor k s a hs hpred
  · exact ⟨s, by rw [h.sessions]; exact hs, .refl s⟩

/-- A rotation by the contract happens or leaves the sessions alone. -/
theorem handle_rotateIfActive {w : World π} {current : CustomerSessionSnapshot}
    (hcanonical : w.sessions.canonicalRef current.sessionRef = current.sessionRef) (owner : String)
    (now : Int) (newRef : String) :
    w.SameSessions (handle (.session (.rotateIfActive current.sessionRef owner now
        (CustomerSessionService.replacementFor current newRef))) w).2 ∨
      ∃ stored, w.sessions.sessions.get? current.sessionRef = some stored ∧
        stored.staleOrRotated = false ∧
        (handle (.session (.rotateIfActive current.sessionRef owner now
          (CustomerSessionService.replacementFor current newRef))) w).2 =
            w.rotated current.sessionRef stored now
              (CustomerSessionService.replacementFor current newRef) := by
  have hworld : (handle (.session (.rotateIfActive current.sessionRef owner now
      (CustomerSessionService.replacementFor current newRef))) w).2 =
        { w with
          sessions := (w.sessions.rotateIfActive current.sessionRef owner now
            (CustomerSessionService.replacementFor current newRef)).2 } := rfl
  rw [hworld]
  rcases w.sessions.rotateIfActive_cases current.sessionRef owner now
      (CustomerSessionService.replacementFor current newRef) with
    ⟨r, hrot, -⟩ | ⟨stored, hget, hactive, -, -, -, hrot⟩
  · rw [hrot]
    exact .inl ⟨rfl, rfl⟩
  · rw [hrot]
    unfold InMemoryCustomerSessionStore.get at hget
    rw [hcanonical] at hget ⊢
    exact .inr ⟨stored, hget, hactive, rfl⟩

/-- One operation within the contract, and what it does to the references that are free. -/
theorem handle_evolves {op : Channel.Op} {w : World π} {newRef : String} (hl : w.Lineal)
    (hleaves : LeavesRotated op w) (hwrites : WritesBack newRef op w) :
    w.Evolves (handle op w).2 ∧
      ∀ ref, ref ≠ newRef → w.sessions.sessions.get? ref = none →
        (handle op w).2.sessions.sessions.get? ref = none := by
  have hsame (w' : World π) (h : w.SameSessions w') : w.Evolves w' ∧
      ∀ ref, ref ≠ newRef → w.sessions.sessions.get? ref = none →
        w'.sessions.sessions.get? ref = none :=
    ⟨h.evolves hl, fun ref _ hfree => by rw [h.sessions]; exact hfree⟩
  cases op with
  | provenance op => exact hsame _ ⟨rfl, rfl⟩
  | order op => exact hsame _ ⟨rfl, rfl⟩
  | upstream op => exact hsame _ ⟨rfl, rfl⟩
  | orderAuthority op => exact hsame _ ⟨rfl, rfl⟩
  | session op =>
      cases op with
      | canonicalRef ref => exact hsame _ ⟨rfl, rfl⟩
      | get ref => exact hsame _ ⟨rfl, rfl⟩
      | idempotentResult ref key => exact hsame _ ⟨rfl, rfl⟩
      | putWithLegacyAlias s a => exact hwrites.elim
      | recordIdempotentResult ref key s => exact hsame _ ⟨rfl, rfl⟩
      | put base changes =>
          refine ⟨put_evolves hl hwrites hleaves, fun ref _ hfree => ?_⟩
          obtain ⟨s, hs, -⟩ := hwrites
          refine (Dict.get?_set_of_ne _ ?_ _).trans hfree
          rintro rfl
          rw [show w.sessions.sessions.get? base.sessionRef = none from hfree] at hs
          cases hs
      | rotateIfActive ref owner now replacement =>
          obtain ⟨hfresh, hcanonical, current, rfl, rfl⟩ := hwrites
          rcases handle_rotateIfActive hcanonical owner now newRef with
            hw | ⟨stored, hstored, hactive, hworld⟩
          · exact hsame _ hw
          · rw [hworld]
            refine ⟨rotated_evolves hl now hstored hactive hfresh, fun ref href hfree => ?_⟩
            have hkey : ref ≠ current.sessionRef := by
              rintro rfl
              rw [hstored] at hfree
              cases hfree
            exact ((Dict.get?_set_of_ne _ href _).trans (Dict.get?_set_of_ne _ hkey _)).trans hfree

end Worlds

/-! ## The calls keep the contract -/

section Calls

variable {π : Type}

theorem World.Lineal.evolves_refl {w : World π} (hl : w.Lineal) : w.Evolves w :=
  ⟨hl, .refl w, rfl⟩

theorem World.Evolves.trans {w w' w'' : World π} (h₁ : w.Evolves w') (h₂ : w'.Evolves w'') :
    w.Evolves w'' :=
  ⟨h₂.lineal, h₁.kept.trans h₂.kept, h₂.aliases.trans h₁.aliases⟩

/-- What a call that has drawn `newRef` relies on. -/
def Relies (newRef : String) (w w' : World π) : Prop :=
  w.Lineal → w.Evolves w' ∧
    (w.sessions.sessions.get? newRef = none → w'.sessions.sessions.get? newRef = none)

theorem Relies.refl (newRef : String) (w : World π) : Relies newRef w w := fun hl =>
  ⟨hl.evolves_refl, id⟩

theorem Relies.trans {newRef : String} {w w' w'' : World π} (h₁ : Relies newRef w w')
    (h₂ : Relies newRef w' w'') : Relies newRef w w'' := by
  intro hl
  obtain ⟨he₁, hf₁⟩ := h₁ hl
  obtain ⟨he₂, hf₂⟩ := h₂ he₁.lineal
  exact ⟨he₁.trans he₂, hf₂ ∘ hf₁⟩

/-- The reference that has been drawn is still free, and the aliases are what they were. -/
structure Ready (newRef : String) (aliases : Dict String String) (w : World π) : Prop where
  lineal : w.Lineal
  fresh : w.sessions.sessions.get? newRef = none
  aliases : w.sessions.aliases = aliases

variable {newRef : String} {aliases : Dict String String}

theorem Relies.ready {w w' : World π} (h : Relies newRef w w') (hr : Ready newRef aliases w) :
    Ready newRef aliases w' :=
  ⟨(h hr.lineal).1.lineal, (h hr.lineal).2 hr.fresh, (h hr.lineal).1.aliases.trans hr.aliases⟩

theorem Ready.canonicalRef {w w' : World π} (h : Ready newRef aliases w)
    (h' : Ready newRef aliases w') (ref : String) :
    w'.sessions.canonicalRef ref = w.sessions.canonicalRef ref := by
  unfold InMemoryCustomerSessionStore.canonicalRef
  rw [h.aliases, h'.aliases]

/-- Ready to write the snapshot back. -/
structure ReadyFor (newRef : String) (aliases : Dict String String)
    (base : CustomerSessionSnapshot) (w : World π) : Prop extends Ready newRef aliases w where
  held : w.Holds base

theorem Relies.readyFor {base : CustomerSessionSnapshot} {w w' : World π} (h : Relies newRef w w')
    (hw : ReadyFor newRef aliases base w) : ReadyFor newRef aliases base w' :=
  ⟨h.ready hw.toReady, (h hw.lineal).1.kept.holds hw.held⟩

variable [XBOSOrderPort π] [Hashlib]

abbrev SessionSafe {α : Type} (newRef : String) (p : Service α) (w : World π) : Prop :=
  Safe handle (Relies newRef) LeavesRotated (WritesBack newRef) (fun _ _ => True) p w

omit [XBOSOrderPort π] [Hashlib] in
theorem ChannelOp.Reads.writesBack {op : ChannelOp} (h : op.Reads) (w : World π) :
    WritesBack newRef op w := by
  cases op with
  | session op => cases op <;> trivial
  | _ => trivial

/-- Sequencing after a part that only reads, with a fact that is relied on. -/
theorem SessionSafe.bind_of_reads {α β : Type} {I : World π → Prop}
    (hI : ∀ w w', Relies newRef w w' → I w → I w') {p : Service α}
    (hp : p.Uses ChannelOp.Reads) {f : α → Service β}
    (hf : ∀ a w, I w → SessionSafe newRef (f a) w) {w : World π} (hw : I w) :
    SessionSafe newRef (p >>= f) w := by
  exact Safe.bind_of_uses (Relies.refl newRef) hI
    (fun op w hop hw _ => ⟨hop.writesBack w, by rwa [handle_of_reads op w hop]⟩) hp (Yields.all p) (fun a w _ hw => hf a w hw) (fun _ _ _ => trivial) hw

/-- A program that only reads is safe anywhere. -/
theorem SessionSafe.of_reads {α : Type} {p : Service α} (hp : p.Uses ChannelOp.Reads)
    (w : World π) : SessionSafe newRef p w :=
  (Safe.of_uses (I := fun _ => True) (fun _ _ _ _ => trivial)
    (fun _ w hop _ _ => ⟨hop.writesBack w, trivial⟩) hp (Yields.all p) trivial).mono
      fun _ _ _ => trivial

/-- Reading the session: what is read is held from then on. -/
theorem SessionSafe.required_bind {β : Type} {ref : String}
    {f : CustomerSessionSnapshot → Service β}
    (hf : ∀ current (w : World π), ReadyFor newRef aliases current w →
      w.sessions.canonicalRef ref = current.sessionRef → SessionSafe newRef (f current) w)
    {w : World π} (hw : Ready newRef aliases w) : SessionSafe newRef (required ref >>= f) w := by
  intro w' hrelies _
  have hready := hrelies.ready hw
  refine ⟨trivial, ?_⟩
  generalize hget : (handle (.session (.get ref)) w').1 = found
  cases found with
  | none => exact fun _ _ => trivial
  | some current =>
      refine hf current w' ⟨hready, current, ?_, .refl current⟩
        (hready.lineal.keyed _ _ hget).symm
      exact hready.lineal.keyed.get?_of_get hget

/-- Writing back what is held. -/
theorem SessionSafe.put_bind {β : Type} {base : CustomerSessionSnapshot}
    {changes : SessionChanges} {f : CustomerSessionSnapshot → Service β}
    (hf : ∀ s (w : World π), SessionSafe newRef (f s) w) {w : World π}
    (hw : ReadyFor newRef aliases base w) :
    SessionSafe newRef (SessionStore.put base changes >>= f) w :=
  fun _ hrelies _ => ⟨(hrelies.readyFor hw).held, hf _ _⟩

variable (svc : CustomerSessionService)

theorem attach_safe (ref : String) (cart quote : Option String) {w : World π}
    (hw : Ready newRef aliases w) :
    SessionSafe newRef (CustomerSessionService.attachInteractionRefs ref cart quote) w := by
  refine SessionSafe.required_bind (fun current w hready _ => ?_) hw
  exact SessionSafe.put_bind (f := .done) (fun _ _ _ _ => trivial) hready

theorem transition_safe (args : TransitionArgs) {w : World π} (hw : Ready newRef aliases w) :
    SessionSafe newRef (svc.transition args) w := by
  refine SessionSafe.bind_of_reads (I := Ready newRef aliases) (fun _ _ h => h.ready)
    (by exact ⟨trivial, fun _ => trivial⟩) (fun prior w hready => ?_) hw
  cases prior with
  | some prior => exact fun _ _ => trivial
  | none =>
      refine SessionSafe.required_bind (fun current w hready _ => ?_) hready
      refine SessionSafe.bind_of_reads (fun _ _ h => h.readyFor) (Uses.raiseIf _ _)
        (fun _ w hready => ?_) hready
      refine SessionSafe.bind_of_reads (fun _ _ h => h.readyFor) (Uses.raiseIf _ _)
        (fun _ w hready => ?_) hready
      refine SessionSafe.bind_of_reads (fun _ _ h => h.readyFor) (Uses.raiseIf _ _)
        (fun _ w hready => ?_) hready
      refine SessionSafe.bind_of_reads (fun _ _ h => h.readyFor)
        (svc.uses_evidenceChanges current args) (fun refs w hready => ?_) hready
      refine SessionSafe.put_bind (fun updated w => ?_) hready
      exact fun w' _ _ => ⟨trivial, fun _ _ => trivial⟩

theorem reenter_safe (ref : String) {w : World π} (hw : Ready newRef aliases w) :
    SessionSafe newRef (CustomerSessionService.reenter ref) w := by
  refine SessionSafe.bind_of_reads (I := Ready newRef aliases) (fun _ _ h => h.ready)
    (by exact ⟨trivial, fun _ => trivial⟩) (fun canonical w hready => ?_) hw
  refine SessionSafe.required_bind (fun current w hready _ => ?_) hready
  split
  · exact fun _ _ => trivial
  refine SessionSafe.bind_of_reads (fun _ _ h => h.readyFor)
    (by exact ⟨trivial, fun _ => trivial⟩) (fun answer w hready => ?_) hready
  refine SessionSafe.bind_of_reads (fun _ _ h => h.readyFor) (Uses.ofExcept _)
    (fun found w hready => ?_) hready
  cases found with
  | none => exact fun _ _ => trivial
  | some p =>
      dsimp only
      refine SessionSafe.bind_of_reads (fun _ _ h => h.readyFor) (Uses.ofExcept _)
        (fun _ w hready => ?_) hready
      refine SessionSafe.bind_of_reads (fun _ _ h => h.readyFor) (Uses.ofExcept _)
        (fun state w hready => ?_) hready
      refine SessionSafe.put_bind (fun updated w => ?_) hready
      exact fun _ _ => trivial

theorem resume_safe (args : ResumeSessionArgs) {w : World π} (hw : Ready newRef aliases w) :
    SessionSafe newRef (svc.resumeSession args newRef) w := by
  refine SessionSafe.bind_of_reads (I := Ready newRef aliases) (fun _ _ h => h.ready)
    (Uses.raiseIf _ _) (fun _ w hready => ?_) hw
  cases args.identityBindingRef with
  | none => exact fun _ _ => trivial
  | some bindingRef =>
      refine SessionSafe.bind_of_reads (I := Ready newRef aliases) (fun _ _ h => h.ready)
        (Uses.raiseIf _ _) (fun _ w hready => ?_) hready
      intro w' hrelies _
      have hready := hrelies.ready hready
      refine ⟨trivial, ?_⟩
      show SessionSafe newRef (raiseIf (w'.sessions.canonicalRef args.sessionRef ≠ args.sessionRef)
        ⟨.sessionSecurityRequired, "fixture_alias_not_resumable"⟩ >>= _) w'
      by_cases hcanonical : w'.sessions.canonicalRef args.sessionRef = args.sessionRef
      case neg =>
        rw [raiseIf, if_pos hcanonical]
        exact fun _ _ => trivial
      rw [raiseIf, if_neg (not_not_intro hcanonical)]
      -- the reference was its own canonical one, and the aliases do not change
      refine SessionSafe.required_bind (fun current w hcurrent href => ?_) hready
      have hself : args.sessionRef = current.sessionRef := by
        rw [← href, hready.canonicalRef hcurrent.toReady, hcanonical]
      refine SessionSafe.bind_of_reads (fun _ _ h => h.readyFor) (Uses.raiseIf _ _)
        (fun _ w hcurrent => ?_) hcurrent
      refine SessionSafe.bind_of_reads (fun _ _ h => h.readyFor)
        (CustomerSessionService.uses_checkResumeBinding current bindingRef args.nowEpoch)
        (fun _ w hcurrent => ?_) hcurrent
      refine SessionSafe.bind_of_reads (fun _ _ h => h.readyFor) (Uses.raiseIf _ _)
        (fun _ w hcurrent => ?_) hcurrent
      refine SessionSafe.bind_of_reads (fun _ _ h => h.readyFor) (Uses.raiseIf _ _)
        (fun _ w hcurrent => ?_) hcurrent
      refine SessionSafe.bind_of_reads (fun _ _ h => h.readyFor) (svc.uses_reattest current)
        (fun _ w hcurrent => ?_) hcurrent
      intro w'' hrelies _
      have hcurrent := hrelies.readyFor hcurrent
      refine ⟨⟨hcurrent.fresh, ?_, current, rfl, rfl⟩, ?_⟩
      · rw [← hself, hready.canonicalRef hcurrent.toReady, hcanonical]
      · refine SessionSafe.of_reads (Uses.bind (Uses.ofExcept _) fun found => ?_) _
        cases found <;> trivial

/-- Every call keeps its contract, from any lineal world in which its reference is free. -/
theorem SessionCall.safe (call : SessionCall) {w : World π} (hw : w.Lineal)
    (hfresh : w.sessions.sessions.get? newRef = none) :
    SessionSafe newRef (call.program svc newRef) w := by
  have hready : Ready newRef w.sessions.aliases w := ⟨hw, hfresh, rfl⟩
  cases call with
  | resume args => exact resume_safe svc args hready
  | transition args => exact transition_safe svc args hready
  | attach ref cart quote => exact attach_safe ref cart quote hready
  | reenter ref => exact reenter_safe ref hready

end Calls

/-! ## Schedules -/

section Schedules

variable {π : Type} [XBOSOrderPort π] [Hashlib] {ι : Type} [DecidableEq ι]

/-- Clients and their remaining programs, around one world. -/
abbrev SessionPool (π ι : Type) := Pool Channel (World π) Exc CustomerSessionSnapshot ι

/-- Session calls at once; each rotation has drawn a reference of its own. -/
def sessionPool (svc : CustomerSessionService) (w : World π) (calls : ι → SessionCall)
    (newSessionRef : ι → String) : SessionPool π ι where
  state := w
  threads i := (calls i).program svc (newSessionRef i)

/-- The references drawn are new, and no two rotations draw the same. -/
structure FreshRefs (w : World π) (newSessionRef : ι → String) : Prop where
  injective : Function.Injective newSessionRef
  fresh : ∀ i, w.sessions.sessions.get? (newSessionRef i) = none

variable {newSessionRef : ι → String}

omit [DecidableEq ι] in
theorem sessions_compatible (hinjective : Function.Injective newSessionRef) :
    Pool.Compatible handle (LeavesRotated (π := π)) World.SameSessions
      (fun i => Relies (newSessionRef i)) (fun i => WritesBack (newSessionRef i)) where
  refl i := Relies.refl _
  trans i _ _ _ := Relies.trans
  thread i j op w hij hleaves hwrites hl := by
    obtain ⟨hevolves, hfree⟩ := handle_evolves hl hleaves hwrites
    exact ⟨hevolves, hfree _ (hinjective.ne hij)⟩
  outside i w w' h hl := ⟨h.evolves hl, fun hfree => by rw [h.sessions]; exact hfree⟩

omit [DecidableEq ι] in
theorem sessionPool_safe (svc : CustomerSessionService) {w : World π} (hw : w.Lineal)
    (calls : ι → SessionCall) (hfresh : FreshRefs w newSessionRef) :
    (sessionPool svc w calls newSessionRef).AllSafe handle LeavesRotated
      (fun i => Relies (newSessionRef i)) (fun i => WritesBack (newSessionRef i))
      (fun _ _ _ => True) :=
  fun i => (calls i).safe svc hw (hfresh.fresh i)

/-- Along a schedule that leaves rotations alone, lineages stay what they are. -/
theorem run_evolves {P : SessionPool π ι} (hinjective : Function.Injective newSessionRef)
    (hsafe : P.AllSafe handle LeavesRotated (fun i => Relies (newSessionRef i))
      (fun i => WritesBack (newSessionRef i)) (fun _ _ _ => True))
    (hl : P.state.Lineal) {turns : List (Turn ι (World π))}
    (hturns : P.Admits handle LeavesRotated World.SameSessions turns) :
    P.state.Evolves (P.run handle turns).state :=
  hsafe.run_rely (sessions_compatible hinjective) (K := fun w w' => w.Lineal → w.Evolves w')
    (fun _ hl => hl.evolves_refl) (fun _ _ _ h₁ h₂ hl => (h₁ hl).trans (h₂ (h₁ hl).lineal))
    (fun _ _ _ hleaves hwrites hl => (handle_evolves hl hleaves hwrites).1)
    (fun _ _ h hl => h.evolves hl) hturns hl

/-- The session stored under the reference is not active. -/
def World.Stale (w : World π) (ref : String) : Prop :=
  ∃ s, w.sessions.sessions.get? ref = some s ∧ s.staleOrRotated = true

instance (w : World π) (ref : String) : Decidable (w.Stale ref) :=
  decidable_of_iff ((w.sessions.sessions.get? ref).any (·.staleOrRotated) = true) (by
    unfold World.Stale
    cases w.sessions.sessions.get? ref <;> simp)

omit [XBOSOrderPort π] [Hashlib] in
theorem World.Evolves.stale {w w' : World π} (h : w.Evolves w') {ref : String}
    (hs : w.Stale ref) : w'.Stale ref := by
  obtain ⟨s, hs, hstale⟩ := hs
  obtain ⟨s', hs', hbecame⟩ := h.kept ref s hs
  exact ⟨s', hs', hbecame.stale hstale⟩

/-- No session that is not active at one point of the schedule is active at a later one. -/
def NeverReactivates (P : SessionPool π ι) (turns : List (Turn ι (World π))) : Prop :=
  ∀ before middle after ref, turns = before ++ middle ++ after →
    (P.run handle before).state.Stale ref → (P.run handle (before ++ middle)).state.Stale ref

/-- A lineage has one session at most that is valid. -/
def World.OneValid (svc : CustomerSessionService) (w : World π) : Prop :=
  ∀ ref ref' now now' s t ancestor,
    (exec handle (svc.validateActiveSession ref now) w).1 = .ok s →
      (exec handle (svc.validateActiveSession ref' now') w).1 = .ok t →
        w.Lineage ancestor s.sessionRef → w.Lineage ancestor t.sessionRef →
          s.sessionRef = t.sessionRef

theorem World.Lineal.oneValid {w : World π} (hl : w.Lineal) (svc : CustomerSessionService) :
    w.OneValid svc := by
  intro ref ref' now now' s t ancestor hs ht has hat
  have hstored {ref : String} {now : Int} {s : CustomerSessionSnapshot}
      (hs : (exec handle (svc.validateActiveSession ref now) w).1 = .ok s) :
      w.sessions.sessions.get? s.sessionRef = some s ∧ s.staleOrRotated = false := by
    rcases svc.validateActiveSession_cases ref now w with ⟨s', hget, hvalid, hexec⟩ | ⟨-, e, hexec⟩
    · rw [hexec] at hs
      obtain rfl := Except.ok.inj hs
      exact ⟨hl.keyed.get?_of_get hget, hvalid.active⟩
    · rw [hexec] at hs
      cases hs
  exact hl.active_unique has hat (hstored hs).1 (hstored ht).1 (hstored hs).2 (hstored ht).2

/-- A schedule that reactivates no session writes nothing back over a rotation. -/
theorem NeverReactivates.admits {P : SessionPool π ι} {turns : List (Turn ι (World π))}
    (h : NeverReactivates P turns)
    (hturns : P.Admits handle (fun _ _ => True) World.SameSessions turns) :
    P.Admits handle LeavesRotated World.SameSessions turns := by
  induction turns generalizing P with
  | nil => trivial
  | cons turn turns ih =>
      have hrest : NeverReactivates (P.step handle turn) turns := fun before middle after ref hsplit =>
        h (turn :: before) middle after ref (by rw [hsplit]; rfl)
      cases turn with
      | outside change => exact ⟨hturns.1, ih hrest hturns.2⟩
      | thread i =>
          refine ⟨fun op k hi base changes s hop hs hstale => ?_, ih hrest hturns.2⟩
          subst hop
          obtain ⟨s', hs', hstale'⟩ := h [] [.thread i] turns base.sessionRef rfl ⟨s, hs, hstale⟩
          change (P.step handle (.thread i)).state.sessions.sessions.get? base.sessionRef =
            some s' at hs'
          rw [Pool.step_thread_call handle hi] at hs'
          obtain rfl : base.replace changes = s' := by
            have hput : (w : World π) → (w.stored (base.replace changes)).sessions.sessions.get?
              base.sessionRef = some (base.replace changes) := fun w => Dict.get?_set_self _ _ _
            exact Option.some.inj ((hput P.state).symm.trans hs')
          exact hstale'

/-- After any history, and along any schedule of session calls with fresh references, a session
that has been rotated away never becomes active again exactly if no snapshot from before a rotation
is written back after it; and then no lineage ever has two valid sessions. -/
theorem rotated_staysRotated (svc : OrderDraftConfirmationService) (orders : π)
    (upstream : Upstream) (refs : RefSource) (history : List (ChannelCall π)) {w : World π}
    (hw : w = run svc (World.start orders upstream refs) history) (calls : ι → SessionCall)
    (hfresh : FreshRefs w newSessionRef) {P : SessionPool π ι}
    (hP : P = sessionPool svc.sessions w calls newSessionRef) {turns : List (Turn ι (World π))}
    (hturns : P.Admits handle (fun _ _ => True) World.SameSessions turns) :
    (NeverReactivates P turns ↔ P.Admits handle LeavesRotated World.SameSessions turns) ∧
      (P.Admits handle LeavesRotated World.SameSessions turns →
        ∀ before after, turns = before ++ after →
          (P.run handle before).state.OneValid svc.sessions) := by
  have hl : w.Lineal := by
    rw [hw]
    exact run_lineal svc orders upstream refs history
  have hstate : P.state.Lineal := by
    rw [hP]
    exact hl
  have hsafe : P.AllSafe handle LeavesRotated (fun i => Relies (newSessionRef i))
      (fun i => WritesBack (newSessionRef i)) (fun _ _ _ => True) := by
    rw [hP]
    exact sessionPool_safe svc.sessions hl calls hfresh
  refine ⟨⟨fun h => h.admits hturns, ?_⟩, ?_⟩
  · rintro hleaves before middle after ref rfl hstale
    obtain ⟨hbefore, -⟩ := (Pool.admits_append handle).mp hleaves
    obtain ⟨hbefore, hmiddle⟩ := (Pool.admits_append handle).mp hbefore
    have hevolves := run_evolves hfresh.injective hsafe hstate hbefore
    have hsafe' := Pool.safe_run (sessions_compatible hfresh.injective) hsafe hbefore
    rw [Pool.run_append]
    exact (run_evolves hfresh.injective hsafe' hevolves.lineal hmiddle).stale hstale
  · rintro hleaves before after rfl
    have hbefore := ((Pool.admits_append handle).mp hleaves).1
    exact (run_evolves hfresh.injective hsafe hstate hbefore).lineal.oneValid svc.sessions

end Schedules

section Fixture

open Fixture

/-- A handoff and a resumption of the session in review. -/
def handoffAndResume : Bool → SessionCall
  | true => .transition { sessionRef, target := .humanHandoff, idempotencyKey := "k6" }
  | false =>
      .resume { sessionRef, identityBindingRef := some "identity_binding_r", nowEpoch := 30 }

def drawnRef : Bool → String
  | true => "sess_a"
  | false => "sess_b"

def handoffPool : SessionPool FakeXBOSOrderClient Bool :=
  sessionPool {} (run {} world intoReview) handoffAndResume drawnRef

/-- The handoff reads, the session is rotated, the handoff writes. -/
def lateHandoff : List (Turn Bool (World FakeXBOSOrderClient)) :=
  List.replicate 2 (.thread true) ++ List.replicate 6 (.thread false) ++
    List.replicate 2 (.thread true)

theorem drawnRef_fresh : FreshRefs (run {} world intoReview) drawnRef where
  injective b c h := by
    cases b <;> cases c <;> first | rfl | exact absurd h (by decide)
  fresh b := by
    have hnone : ((run {} world intoReview).sessions.sessions.get? (drawnRef b)).isNone = true := by
      cases b <;> decide +kernel
    exact Option.isNone_iff_eq_none.mp hnone

theorem rotated_staysRotated_lateHandoff :
    (NeverReactivates handoffPool lateHandoff ↔
        handoffPool.Admits handle LeavesRotated World.SameSessions lateHandoff) ∧
      (handoffPool.Admits handle LeavesRotated World.SameSessions lateHandoff →
        ∀ before after, lateHandoff = before ++ after →
          (handoffPool.run handle before).state.OneValid {}) := by
  have hturns : handoffPool.Admits handle (fun _ _ => True) World.SameSessions lateHandoff := by
    refine Pool.admits_of_forall handle (fun change hchange => ?_) _
    simp [lateHandoff] at hchange
  exact rotated_staysRotated ({} : OrderDraftConfirmationService) ({} : FakeXBOSOrderClient)
    (upstream 1 3000) lengthRefs intoReview rfl handoffAndResume drawnRef_fresh rfl hturns

/-- The late write brings the rotated session back, beside its successor. -/
theorem lateHandoff_reactivates :
    ¬ NeverReactivates handoffPool lateHandoff ∧
      ¬ (handoffPool.run handle lateHandoff).state.OneValid {} := by
  refine ⟨fun h => ?_, fun h => ?_⟩
  · have hsplit : lateHandoff = lateHandoff.take 8 ++ lateHandoff.drop 8 ++ [] := by
      rw [List.append_nil, List.take_append_drop]
    have hafter := h _ _ _ sessionRef hsplit (by decide +kernel)
    exact absurd hafter (by decide +kernel)
  · have hvalid (ref : String) (href : ref ∈ [sessionRef, "sess_b"]) :
        ∃ s, (exec handle (CustomerSessionService.validateActiveSession {} ref 40)
          (handoffPool.run handle lateHandoff).state).1 = .ok s ∧ s.sessionRef = ref := by
      have hok : ∀ ref ∈ [sessionRef, "sess_b"],
          (exec handle (CustomerSessionService.validateActiveSession {} ref 40)
            (handoffPool.run handle lateHandoff).state).1.toOption.map (·.sessionRef) =
              some ref := by decide +kernel
      have hok := hok ref href
      cases hres : (exec handle (CustomerSessionService.validateActiveSession {} ref 40)
          (handoffPool.run handle lateHandoff).state).1 with
      | error e =>
          rw [hres] at hok
          cases hok
      | ok s =>
          rw [hres] at hok
          exact ⟨s, rfl, Option.some.inj hok⟩
    obtain ⟨s, hs, hsref⟩ := hvalid sessionRef List.mem_cons_self
    obtain ⟨t, ht, htref⟩ := hvalid "sess_b" (List.mem_cons_of_mem _ List.mem_cons_self)
    have hsucceeds : (handoffPool.run handle lateHandoff).state.Succeeds sessionRef "sess_b" := by
      decide +kernel
    have hs' : (handoffPool.run handle lateHandoff).state.Lineage sessionRef s.sessionRef := by
      rw [hsref]
      exact .refl
    have ht' : (handoffPool.run handle lateHandoff).state.Lineage sessionRef t.sessionRef := by
      rw [htref]
      exact .single hsucceeds
    have hsame := h _ _ _ _ s t sessionRef hs ht hs' ht'
    rw [hsref, htref] at hsame
    exact absurd hsame (by decide)

end Fixture

end XbosCustomerChannel
