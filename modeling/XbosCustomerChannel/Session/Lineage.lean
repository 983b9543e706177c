import Mathlib.Logic.Relation
import XbosCustomerChannel.Session.Effect

/-!
# Rotation lineages

A rotation stores the successor under a new reference and leaves its reference on the predecessor.
The two directions agree (`World.Lineal`), so a session has at most one successor, and of all the
sessions of a lineage at most one has not been rotated.
-/

namespace XbosCustomerChannel

open Effects Effects.Program Data

section Lineage

variable {π : Type}

/-- `b` is stored as the successor of `a`. -/
def World.Succeeds (w : World π) (a b : String) : Prop :=
  ∃ s, w.sessions.sessions.get? b = some s ∧ s.predecessorSessionRef = some a

instance (w : World π) (a b : String) : Decidable (w.Succeeds a b) :=
  decidable_of_iff
    ((w.sessions.sessions.get? b).any (fun s => s.predecessorSessionRef = some a) = true) (by
      unfold World.Succeeds
      cases w.sessions.sessions.get? b <;> simp)

/-- `a` is `b` or a session `b` was rotated from. -/
def World.Lineage (w : World π) : String → String → Prop := Relation.ReflTransGen w.Succeeds

/-! ## What an effect leaves of a session -/

/-- What a session is bound to when it is created. -/
structure SessionBond where
  conversationRef : String
  correlationRef : String
  entryTokenRef : Option String
  ownerIdentityRef : Option String
  context : BoundContext
  createdAtEpoch : Option Int
  expiresAtEpoch : Option Int
  securityBindingComplete : Bool
  deriving DecidableEq

namespace CustomerSessionSnapshot

def bond (s : CustomerSessionSnapshot) : SessionBond where
  conversationRef := s.conversationRef
  correlationRef := s.correlationRef
  entryTokenRef := s.entryTokenRef
  ownerIdentityRef := s.ownerIdentityRef
  context := s.boundContext
  createdAtEpoch := s.createdAtEpoch
  expiresAtEpoch := s.expiresAtEpoch
  securityBindingComplete := s.securityBindingComplete

/-- A later record of the same session: its bond and its place in the lineage are what they were,
and a rotation is not taken back. -/
structure Continues (s s' : CustomerSessionSnapshot) : Prop where
  sessionRef : s'.sessionRef = s.sessionRef
  bond : s'.bond = s.bond
  generation : s'.generation = s.generation
  predecessor : s'.predecessorSessionRef = s.predecessorSessionRef
  rotated : s.rotatedToSessionRef.isSome = true → s'.rotatedToSessionRef = s.rotatedToSessionRef
  invalidated : s.invalidatedAtEpoch.isSome = true → s'.invalidatedAtEpoch = s.invalidatedAtEpoch

namespace Continues

theorem refl (s : CustomerSessionSnapshot) : Continues s s :=
  ⟨rfl, rfl, rfl, rfl, fun _ => rfl, fun _ => rfl⟩

theorem trans {s s' s'' : CustomerSessionSnapshot} (h : Continues s s') (h' : Continues s' s'') :
    Continues s s'' where
  sessionRef := h'.sessionRef.trans h.sessionRef
  bond := h'.bond.trans h.bond
  generation := h'.generation.trans h.generation
  predecessor := h'.predecessor.trans h.predecessor
  rotated hs := (h'.rotated (by rwa [h.rotated hs])).trans (h.rotated hs)
  invalidated hs := (h'.invalidated (by rwa [h.invalidated hs])).trans (h.invalidated hs)

theorem replace (s : CustomerSessionSnapshot) (changes : SessionChanges) :
    Continues s (s.replace changes) :=
  ⟨rfl, rfl, rfl, rfl, fun _ => rfl, fun _ => rfl⟩

/-- Only a session that is not stale is rotated out. -/
theorem rotatedOut {s : CustomerSessionSnapshot} (h : s.staleOrRotated = false) (now : Int)
    (newRef : String) :
    Continues s
      { s with
        invalidatedAtEpoch := some now
        rotatedToSessionRef := some newRef } := by
  simp only [staleOrRotated, Bool.or_eq_false_iff] at h
  refine ⟨rfl, rfl, rfl, rfl, fun hs => ?_, fun hs => ?_⟩
  · rw [h.2] at hs
    cases hs
  · rw [h.1] at hs
    cases hs

/-- What a session is bound to is read off its bond, its reference and its generation. -/
theorem binding {s s' : CustomerSessionSnapshot} (h : Continues s s') :
    bindingFromSession s' = bindingFromSession s := by
  obtain ⟨href, hbond, hgeneration, -, -, -⟩ := h
  simp only [CustomerSessionSnapshot.bond, boundContext, SessionBond.mk.injEq,
    BoundContext.mk.injEq] at hbond
  simp only [bindingFromSession, href, hgeneration, hbond]

end Continues

end CustomerSessionSnapshot

/-- Every session is continued. -/
theorem SessionEffect.continues {ops : List (Channel.Op × World π)} {w w' : World π}
    (heff : SessionEffect ops w w') {key : String} {s : CustomerSessionSnapshot}
    (hs : w.sessions.sessions.get? key = some s) :
    ∃ s', w'.sessions.sessions.get? key = some s' ∧ s.Continues s' := by
  cases heff with
  | kept hsessions haliases => exact ⟨s, by rw [hsessions]; exact hs, .refl s⟩
  | @changed current changes hstored _ hsessions _ =>
      rw [hsessions]
      by_cases hkey : key = current.sessionRef
      · subst hkey
        obtain rfl := Option.some.inj (hs.symm.trans hstored)
        exact ⟨s.replace changes, Dict.get?_set_self _ _ _, .replace s changes⟩
      · exact ⟨s, by rw [Dict.get?_set_of_ne _ hkey]; exact hs, .refl s⟩
  | @rotated current now newRef hstored hactive hnew hsessions _ =>
      rw [hsessions, Dict.get?_set_of_ne _ (World.ne_of_fresh hs hnew)]
      by_cases hkey : key = current.sessionRef
      · subst hkey
        obtain rfl := Option.some.inj (hs.symm.trans hstored)
        exact ⟨_, Dict.get?_set_self _ _ _, .rotatedOut hactive now newRef⟩
      · exact ⟨s, by rw [Dict.get?_set_of_ne _ hkey]; exact hs, .refl s⟩
  | @created new _ hnew hsessions _ =>
      rw [hsessions, Dict.get?_set_of_ne _ (World.ne_of_fresh hs hnew)]
      exact ⟨s, hs, .refl s⟩

/-- Every session keeps its place in its lineage, and what it is bound to. -/
theorem SessionEffect.keeps {ops : List (Channel.Op × World π)} {w w' : World π}
    (heff : SessionEffect ops w w') {key : String} {s : CustomerSessionSnapshot}
    (hs : w.sessions.sessions.get? key = some s) :
    ∃ s', w'.sessions.sessions.get? key = some s' ∧
      s'.predecessorSessionRef = s.predecessorSessionRef ∧
      bindingFromSession s' = bindingFromSession s := by
  obtain ⟨s', hs', hcontinues⟩ := heff.continues hs
  exact ⟨s', hs', hcontinues.predecessor, hcontinues.binding⟩

/-- A name keeps standing for the session it stands for. -/
theorem SessionEffect.canonicalRef {ops : List (Channel.Op × World π)} {w w' : World π}
    (heff : SessionEffect ops w w') {ref : String} {s : CustomerSessionSnapshot}
    (hs : w.sessions.get ref = some s) :
    w'.sessions.canonicalRef ref = w.sessions.canonicalRef ref := by
  have hsame (haliases : w'.sessions.aliases = w.sessions.aliases) :
      w'.sessions.canonicalRef ref = w.sessions.canonicalRef ref := by
    unfold InMemoryCustomerSessionStore.canonicalRef
    rw [haliases]
  cases heff with
  | kept _ haliases => exact hsame haliases
  | changed _ _ _ haliases => exact hsame haliases
  | rotated _ _ _ _ haliases => exact hsame haliases
  | @created new hnewborn hfresh hsessions haliases hbound =>
      rcases haliases with haliases | ⟨a, hfree, hunused, haliases⟩
      · exact hsame haliases
      -- an alias that is added is neither in use nor the name of a session
      have hne : ref ≠ a := by
        rintro rfl
        unfold InMemoryCustomerSessionStore.get InMemoryCustomerSessionStore.canonicalRef at hs
        rw [hunused] at hs
        obtain ⟨s', hs', -⟩ := (SessionEffect.created hnewborn hfresh hsessions (.inr
          ⟨ref, hfree, hunused, haliases⟩) hbound : SessionEffect ops w w').keeps hs
        rw [show w'.sessions.sessions.get? ref = some s' from hs'] at hfree
        cases hfree
      unfold InMemoryCustomerSessionStore.canonicalRef
      rw [haliases, Dict.get?_set_of_ne _ hne]

/-- The session found under a name stays bound to what it is bound to. -/
theorem SessionEffect.get {ops : List (Channel.Op × World π)} {w w' : World π}
    (heff : SessionEffect ops w w') {ref : String} {s : CustomerSessionSnapshot}
    (hs : w.sessions.get ref = some s) :
    ∃ s', w'.sessions.get ref = some s' ∧ bindingFromSession s' = bindingFromSession s := by
  obtain ⟨s', hs', -, hbinding⟩ := heff.keeps hs
  refine ⟨s', ?_, hbinding⟩
  unfold InMemoryCustomerSessionStore.get
  rw [heff.canonicalRef hs]
  exact hs'

theorem SessionEffect.lineage {ops : List (Channel.Op × World π)} {w w' : World π}
    (heff : SessionEffect ops w w') {a b : String} (h : w.Lineage a b) : w'.Lineage a b := by
  refine Relation.ReflTransGen.mono (fun a b hab => ?_) _ _ h
  obtain ⟨s, hs, hpred⟩ := hab
  obtain ⟨s', hs', hpred', -⟩ := heff.keeps hs
  exact ⟨s', hs', hpred'.trans hpred⟩

/-! ## Lineal worlds -/

/-- Every session is stored under its reference, and every predecessor refers to its successor. -/
structure World.Lineal (w : World π) : Prop where
  keyed : w.Keyed
  predecessor : ∀ key s a, w.sessions.sessions.get? key = some s →
    s.predecessorSessionRef = some a →
      ∃ p, w.sessions.sessions.get? a = some p ∧ p.rotatedToSessionRef = some key

namespace World.Lineal

variable {w w' : World π}

theorem succeeds_unique (h : w.Lineal) {a b b' : String} (hb : w.Succeeds a b)
    (hb' : w.Succeeds a b') : b = b' := by
  obtain ⟨s, hs, hpred⟩ := hb
  obtain ⟨s', hs', hpred'⟩ := hb'
  obtain ⟨p, hp, hrotated⟩ := h.predecessor b s a hs hpred
  obtain ⟨p', hp', hrotated'⟩ := h.predecessor b' s' a hs' hpred'
  rw [hp] at hp'
  obtain rfl := Option.some.inj hp'
  rw [hrotated] at hrotated'
  exact Option.some.inj hrotated'

/-- A session that has not been rotated has nothing after it. -/
theorem eq_of_active (h : w.Lineal) {a b : String} (hab : w.Lineage a b)
    {s : CustomerSessionSnapshot} (hs : w.sessions.sessions.get? a = some s)
    (hactive : s.staleOrRotated = false) : b = a := by
  rcases Relation.ReflTransGen.cases_head hab with rfl | ⟨c, ⟨t, ht, hpred⟩, -⟩
  · rfl
  · obtain ⟨p, hp, hrotated⟩ := h.predecessor c t a ht hpred
    rw [hs] at hp
    obtain rfl := Option.some.inj hp
    simp [CustomerSessionSnapshot.staleOrRotated, hrotated] at hactive

/-- Two sessions of one lineage that have not been rotated are one. -/
theorem active_unique (h : w.Lineal) {a b c : String} (hb : w.Lineage a b) (hc : w.Lineage a c)
    {s t : CustomerSessionSnapshot} (hs : w.sessions.sessions.get? b = some s)
    (ht : w.sessions.sessions.get? c = some t) (hsactive : s.staleOrRotated = false)
    (htactive : t.staleOrRotated = false) : b = c := by
  have hunique : Relator.RightUnique w.Succeeds := fun _ _ _ h₁ h₂ => h.succeeds_unique h₁ h₂
  rcases Relation.ReflTransGen.total_of_right_unique hunique hb hc with hbc | hcb
  · exact (h.eq_of_active hbc hs hsactive).symm
  · exact h.eq_of_active hcb ht htactive

end World.Lineal

/-- Every session that has been rotated is still rotated into the same one. -/
def World.RotationsKept (w w' : World π) : Prop :=
  ∀ key s next, w.sessions.sessions.get? key = some s → s.rotatedToSessionRef = some next →
    ∃ s', w'.sessions.sessions.get? key = some s' ∧ s'.rotatedToSessionRef = some next

theorem SessionEffect.rotationsKept {ops : List (Channel.Op × World π)} {w w' : World π}
    (heff : SessionEffect ops w w') : w.RotationsKept w' := by
  intro key s next hs hrotated
  obtain ⟨s', hs', hcontinues⟩ := heff.continues hs
  refine ⟨s', hs', ?_⟩
  rw [hcontinues.rotated (by rw [hrotated]; rfl), hrotated]

/-- A world stays lineal if rotations are kept and every new link refers back. -/
theorem World.Lineal.of_rotationsKept {w w' : World π} (h : w.Lineal) (hk : w'.Keyed)
    (hrotations : w.RotationsKept w')
    (hlinks : ∀ key s a, w'.sessions.sessions.get? key = some s →
      s.predecessorSessionRef = some a →
        w.Succeeds a key ∨
          ∃ p, w'.sessions.sessions.get? a = some p ∧ p.rotatedToSessionRef = some key) :
    w'.Lineal := by
  refine ⟨hk, fun key s a hs hpred => ?_⟩
  rcases hlinks key s a hs hpred with ⟨s', hs', hpred'⟩ | hp
  · obtain ⟨p, hp, hrotated⟩ := h.predecessor key s' a hs' hpred'
    exact hrotations a p key hp hrotated
  · exact hp

theorem World.Lineal.effect {ops : List (Channel.Op × World π)} {w w' : World π} (h : w.Lineal)
    (heff : SessionEffect ops w w') (hk : w'.Keyed) : w'.Lineal := by
  refine h.of_rotationsKept hk heff.rotationsKept fun key s a hs hpred => ?_
  cases heff.storedAfter hs with
  | same hold => exact .inl ⟨s, hold, hpred⟩
  | changed hstored _ => exact .inl ⟨_, hstored, hpred⟩
  | rotatedOut hstored _ _ => exact .inl ⟨_, hstored, hpred⟩
  | @successor current now _ _ _ _ hlast =>
      obtain rfl : current.sessionRef = a := Option.some.inj hpred
      exact .inr ⟨_, hlast, rfl⟩
  | created hnewborn _ _ =>
      rw [hnewborn.predecessor] at hpred
      cases hpred

theorem survives_lineal : Survives fun _ (w : World π) => w.Lineal where
  keyed _ _ h := h.keyed
  effect _ _ _ _ h heff hk := h.effect heff hk

/-- Every world a run reaches is lineal. -/
theorem run_lineal [XBOSOrderPort π] [Hashlib] (svc : OrderDraftConfirmationService) (orders : π)
    (upstream : Upstream) (refs : RefSource) (calls : List (ChannelCall π)) :
    (run svc (World.start orders upstream refs) calls).Lineal :=
  survives_lineal.of_trace svc (T := [])
    ⟨start_keyed orders upstream refs, fun _ _ _ hs => by cases hs⟩ calls

end Lineage

end XbosCustomerChannel
