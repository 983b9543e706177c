import Mathlib.Data.List.AList
import XbosCustomerChannel.Data.History

/-!
# Dictionaries

Finite maps with the reads and writes of an in-memory table: look a key up, bind a key. They are
Mathlib's association lists under the two names the models use, with one lemma that says what a
write does to every later read (`get?_set`).

`Extends` is the order on tables in which bindings are only ever added. It is what a table that is
never overwritten satisfies along a run, and what its readers may rely on.
-/

namespace Data

/-- A finite map from `κ` to `V`. -/
abbrev Dict (κ V : Type) := AList (fun _ : κ => V)

namespace Dict

variable {κ V : Type} [DecidableEq κ]

/-- The value bound to `k`, if any. -/
def get? (d : Dict κ V) (k : κ) : Option V := d.lookup k

/-- Bind `k` to `v`, replacing an earlier binding. -/
def set (d : Dict κ V) (k : κ) (v : V) : Dict κ V := d.insert k v

/-- Remove the binding of `k`, if any. -/
def remove (d : Dict κ V) (k : κ) : Dict κ V := d.erase k

/-- The number of bindings. -/
def size (d : Dict κ V) : Nat := d.entries.length

theorem get?_set (d : Dict κ V) (k k' : κ) (v : V) :
    (d.set k v).get? k' = if k' = k then some v else d.get? k' := by
  unfold get? set
  split
  · next h => subst h; exact AList.lookup_insert d
  · next h => exact AList.lookup_insert_ne h

@[simp] theorem get?_set_self (d : Dict κ V) (k : κ) (v : V) : (d.set k v).get? k = some v := by
  simp [get?_set]

theorem get?_set_of_ne (d : Dict κ V) {k k' : κ} (h : k' ≠ k) (v : V) :
    (d.set k v).get? k' = d.get? k' := by
  simp [get?_set, h]

theorem isSome_get?_set (d : Dict κ V) (k k' : κ) (v : V) :
    ((d.set k v).get? k').isSome ↔ k' = k ∨ (d.get? k').isSome := by
  rw [get?_set]
  split
  · next h => simp [h]
  · next h => simp [h]

theorem get?_eq_none_iff {d : Dict κ V} {k : κ} : d.get? k = none ↔ k ∉ d.keys := by
  rw [← AList.mem_keys]
  exact AList.lookup_eq_none

theorem mem_keys_of_get? {d : Dict κ V} {k : κ} {v : V} (h : d.get? k = some v) : k ∈ d.keys := by
  by_contra hk
  rw [get?_eq_none_iff.mpr hk] at h
  cases h

theorem mem_entries_of_get? {d : Dict κ V} {k : κ} {v : V} (h : d.get? k = some v) :
    ⟨k, v⟩ ∈ d.entries :=
  List.of_mem_dlookup h

/-- Of the items of a list that are bound one after another under their keys, the last one of a key
is found. -/
theorem get?_foldl_set (key : V → κ) (items : List V) (k : κ) :
    (items.foldl (fun d x => d.set (key x) x) (∅ : Dict κ V)).get? k =
      History.last? (fun x => key x = k) items := by
  induction items using List.reverseRecOn with
  | nil => rfl
  | append_singleton items x ih =>
      rw [List.foldl_append, List.foldl_cons, List.foldl_nil, get?_set, ih, History.last?_concat]
      by_cases hk : k = key x
      · simp [hk]
      · simp [hk, Ne.symm hk]

theorem size_set_of_none {d : Dict κ V} {k : κ} (h : d.get? k = none) (v : V) :
    (d.set k v).size = d.size + 1 := by
  have hk : k ∉ d := get?_eq_none_iff.mp h
  unfold size set
  rw [AList.entries_insert_of_notMem hk, List.length_cons]

theorem keys_set_of_none {d : Dict κ V} {k : κ} (h : d.get? k = none) (v : V) :
    (d.set k v).keys = k :: d.keys := by
  have hk : k ∉ d.keys := get?_eq_none_iff.mp h
  unfold set
  rw [AList.keys_insert, List.erase_of_not_mem hk]

/-! ## Tables that invert each other -/

section Inverse

variable {ρ : Type} [DecidableEq ρ]

/-- `names` has a key exactly under the reference of the entry that carries it. -/
def Inverse (names : Dict κ ρ) (entries : Dict ρ V) (key : V → κ) : Prop :=
  ∀ k r, names.get? k = some r ↔ ∃ v, entries.get? r = some v ∧ key v = k

variable {names : Dict κ ρ} {entries : Dict ρ V} {key : V → κ}

theorem inverse_empty : Inverse (∅ : Dict κ ρ) (∅ : Dict ρ V) key := by
  intro k r
  constructor
  · intro h
    cases h
  · rintro ⟨v, h, -⟩
    cases h

/-- An entry under a new reference, for a key that had none. -/
theorem Inverse.enter (h : Inverse names entries key) {r : ρ} {v : V}
    (hk : names.get? (key v) = none) (hr : entries.get? r = none) :
    Inverse (names.set (key v) r) (entries.set r v) key := by
  intro k r'
  rw [get?_set, get?_set]
  by_cases hkey : k = key v
  · subst hkey
    rw [if_pos rfl]
    constructor
    · intro heq
      obtain rfl := Option.some.inj heq
      exact ⟨v, if_pos rfl, rfl⟩
    · rintro ⟨v', hv', hsame⟩
      split at hv'
      · next heq => rw [heq]
      · rw [(h _ _).mpr ⟨v', hv', hsame⟩] at hk
        cases hk
  · rw [if_neg hkey, h]
    constructor
    · rintro ⟨v', hv', rfl⟩
      have hne : r' ≠ r := by
        rintro rfl
        rw [hr] at hv'
        cases hv'
      exact ⟨v', by rw [if_neg hne, hv'], rfl⟩
    · rintro ⟨v', hv', rfl⟩
      split at hv'
      · obtain rfl := Option.some.inj hv'
        exact absurd rfl hkey
      · exact ⟨v', hv', rfl⟩

/-- An entry may be replaced by another with its key. -/
theorem Inverse.replace (h : Inverse names entries key) {r : ρ} {v v' : V}
    (hr : entries.get? r = some v) (hv : key v' = key v) :
    Inverse names (entries.set r v') key := by
  intro k r'
  rw [h, get?_set]
  by_cases heq : r' = r
  · subst heq
    simp [hr, hv]
  · rw [if_neg heq]

/-- Binding a key again to its reference changes nothing. -/
theorem Inverse.rebind (h : Inverse names entries key) {k : κ} {r : ρ}
    (hk : names.get? k = some r) : Inverse (names.set k r) entries key := by
  intro k' r'
  rw [← h, get?_set]
  split
  · next heq => rw [heq, hk]
  · rfl

end Inverse

/-! ## The order of added bindings -/

/-- Every binding of `d` is a binding of `d'`. -/
def Extends (d d' : Dict κ V) : Prop := ∀ k v, d.get? k = some v → d'.get? k = some v

theorem Extends.refl (d : Dict κ V) : d.Extends d := fun _ _ h => h

theorem Extends.trans {d₁ d₂ d₃ : Dict κ V} (h₁ : d₁.Extends d₂) (h₂ : d₂.Extends d₃) :
    d₁.Extends d₃ := fun k v h => h₂ k v (h₁ k v h)

/-- Binding a key that was free adds a binding and changes none. -/
theorem Extends.set_of_none {d : Dict κ V} {k : κ} (h : d.get? k = none) (v : V) :
    d.Extends (d.set k v) := by
  intro k' v' hk'
  have hne : k' ≠ k := by rintro rfl; rw [h] at hk'; cases hk'
  rw [get?_set_of_ne d hne]; exact hk'

end Dict

end Data
