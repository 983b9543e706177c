import XbosCustomerChannel.Data.Dict

/-!
# Requests that are answered once

A server that remembers what it answered. Whoever asks chooses a key: the first request under a key that
is answered is entered into a table, and from then on the key stands for that request and that answer.
-/

namespace Data

namespace Dict

variable {κ V : Type} [DecidableEq κ]

/-- The number of bindings with a property. -/
def count (p : V → Bool) (d : Dict κ V) : Nat := d.entries.countP fun entry => p entry.2

theorem count_set_of_none {p : V → Bool} {d : Dict κ V} {k : κ} (h : d.get? k = none) (v : V) :
    (d.set k v).count p = d.count p + if p v then 1 else 0 := by
  have hk : k ∉ d := get?_eq_none_iff.mp h
  unfold count set
  rw [AList.entries_insert_of_notMem hk, List.countP_cons]

end Dict

namespace Replay

variable {κ ρ α ε σ ω : Type} [DecidableEq κ]

/-- A method that looks its table up first. A request that is refused leaves the state as it was. -/
structure Idempotent (key : ρ → κ) (table : σ → Dict κ (ρ × α)) (method : σ → ρ → Except ε α × σ) :
    Prop where
  replay {s q a} : (table s).get? (key q) = some (q, a) → method s q = (.ok a, s)
  conflict {s q q' a} : (table s).get? (key q) = some (q', a) → q' ≠ q →
    ∃ e, method s q = (.error e, s)
  refuse {s q e} : (table s).get? (key q) = none → (method s q).1 = .error e → (method s q).2 = s
  enter {s q a} : (table s).get? (key q) = none → (method s q).1 = .ok a →
    table (method s q).2 = (table s).set (key q) (q, a)

section Idempotent

variable {key : ρ → κ} {table : σ → Dict κ (ρ × α)} {method : σ → ρ → Except ε α × σ}

/-- A request under a key that is taken changes nothing. -/
theorem Idempotent.state_of_some (h : Idempotent key table method) {s : σ} {q q' : ρ} {a : α}
    (hget : (table s).get? (key q) = some (q', a)) : (method s q).2 = s := by
  by_cases hsame : q' = q
  · subst hsame
    rw [h.replay hget]
  · obtain ⟨e, he⟩ := h.conflict hget hsame
    rw [he]

/-- A request was answered under its key. -/
def Answered (key : ρ → κ) (table : σ → Dict κ (ρ × α)) (s : σ) (q : ρ) (a : α) : Prop :=
  (table s).get? (key q) = some (q, a)

/-- An answer is in the table from then on. -/
theorem Idempotent.answered (h : Idempotent key table method) {s : σ} {q : ρ} {a : α}
    (hok : (method s q).1 = .ok a) : Answered key table (method s q).2 q a := by
  unfold Answered
  cases hget : (table s).get? (key q) with
  | none =>
      rw [h.enter hget hok]
      exact Dict.get?_set_self _ _ _
  | some entry =>
      obtain ⟨q', a'⟩ := entry
      by_cases hsame : q' = q
      · subst hsame
        rw [h.replay hget] at hok ⊢
        obtain rfl := Except.ok.inj hok
        exact hget
      · obtain ⟨e, he⟩ := h.conflict hget hsame
        rw [he] at hok
        cases hok

theorem Idempotent.extends (h : Idempotent key table method) (s : σ) (q : ρ) :
    (table s).Extends (table (method s q).2) := by
  cases hget : (table s).get? (key q) with
  | none =>
      cases hresult : (method s q).1 with
      | ok a =>
          rw [h.enter hget hresult]
          exact Dict.Extends.set_of_none hget _
      | error e =>
          rw [h.refuse hget hresult]
          exact Dict.Extends.refl _
  | some entry =>
      rw [h.state_of_some hget]
      exact Dict.Extends.refl _

/-- A key that was answered is answered alike, and refused to any other request. The state does not
change. -/
theorem Idempotent.again (h : Idempotent key table method) {s : σ} {q q' : ρ} {a : α}
    (hanswered : Answered key table s q a) (hkey : key q' = key q) :
    (method s q').2 = s ∧ ((∃ a', (method s q').1 = .ok a') ↔ q' = q) ∧
      (q' = q → (method s q').1 = .ok a) := by
  have hget : (table s).get? (key q') = some (q, a) := hkey ▸ hanswered
  by_cases hsame : q = q'
  · subst hsame
    rw [h.replay hget]
    exact ⟨rfl, iff_of_true ⟨a, rfl⟩ rfl, fun _ => rfl⟩
  · obtain ⟨e, he⟩ := h.conflict hget hsame
    rw [he]
    refine ⟨rfl, iff_of_false ?_ (Ne.symm hsame), fun heq => absurd heq.symm hsame⟩
    rintro ⟨a', ha'⟩
    cases ha'

/-- A number that grows with every new entry of a kind is the number of such entries. -/
theorem Idempotent.count (h : Idempotent key table method) {effects : σ → Nat} {p : ρ × α → Bool}
    (henter : ∀ s q a, (table s).get? (key q) = none → (method s q).1 = .ok a →
      effects (method s q).2 = effects s + if p (q, a) then 1 else 0)
    {s : σ} (hs : effects s = (table s).count p) (q : ρ) :
    effects (method s q).2 = (table (method s q).2).count p := by
  cases hget : (table s).get? (key q) with
  | some entry => rw [h.state_of_some hget, hs]
  | none =>
      cases hresult : (method s q).1 with
      | error e => rw [h.refuse hget hresult, hs]
      | ok a => rw [henter s q a hget hresult, h.enter hget hresult, Dict.count_set_of_none hget, hs]

end Idempotent

/-! ## Among other steps -/

section Runs

variable {table : σ → Dict κ (ρ × α)} {step : σ → ω → σ}

theorem extends_foldl (hstep : ∀ s op, (table s).Extends (table (step s op))) (s : σ) (ops : List ω) :
    (table s).Extends (table (ops.foldl step s)) := by
  induction ops generalizing s with
  | nil => exact Dict.Extends.refl _
  | cons op ops ih => exact (hstep s op).trans (ih (step s op))

variable {key : ρ → κ} {method : σ → ρ → Except ε α × σ}

/-- What was answered stays answered, whatever is done in between. -/
theorem Idempotent.again_after (h : Idempotent key table method)
    (hstep : ∀ s op, (table s).Extends (table (step s op))) {s : σ} {q q' : ρ} {a : α}
    (hok : (method s q).1 = .ok a) (ops : List ω) (hkey : key q' = key q) :
    (method (ops.foldl step (method s q).2) q').2 = ops.foldl step (method s q).2 ∧
      ((∃ a', (method (ops.foldl step (method s q).2) q').1 = .ok a') ↔ q' = q) ∧
      (q' = q → (method (ops.foldl step (method s q).2) q').1 = .ok a) :=
  h.again (extends_foldl hstep _ ops _ _ (h.answered hok)) hkey

end Runs

end Replay

end Data
