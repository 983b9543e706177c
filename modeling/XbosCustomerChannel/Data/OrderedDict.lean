import Mathlib.Data.Finset.Card
import Mathlib.Data.List.Nodup
import XbosCustomerChannel.Data.History

/-!
# Dictionaries that remember their order

A finite map whose keys keep the order they were first bound in: binding a key again replaces its
value where it stands. `ofItems` binds the items of a list one after another under their keys.
-/

namespace Data

/-- Bindings in the order of their keys' first occurrence. -/
structure OrderedDict (κ V : Type) where
  entries : List (κ × V)
  nodup : (entries.map Prod.fst).Nodup

namespace OrderedDict

variable {κ V : Type} [DecidableEq κ]

/-- Replace the value of `k` where it stands, or bind `k` at the end. -/
def bind (k : κ) (v : V) : List (κ × V) → List (κ × V)
  | [] => [(k, v)]
  | (k', v') :: rest => if k' = k then (k, v) :: rest else (k', v') :: bind k v rest

theorem keys_bind (k : κ) (v : V) (entries : List (κ × V)) :
    (bind k v entries).map Prod.fst =
      if k ∈ entries.map Prod.fst then entries.map Prod.fst else entries.map Prod.fst ++ [k] := by
  induction entries with
  | nil => rfl
  | cons entry rest ih =>
      obtain ⟨k', v'⟩ := entry
      unfold bind
      by_cases hk : k' = k
      · subst hk
        simp
      · rw [if_neg hk, List.map_cons, ih]
        simp only [List.map_cons, List.mem_cons, Ne.symm hk, false_or]
        split <;> rfl

theorem nodup_bind {k : κ} (v : V) {entries : List (κ × V)}
    (h : (entries.map Prod.fst).Nodup) : ((bind k v entries).map Prod.fst).Nodup := by
  rw [keys_bind]
  split
  · exact h
  · next hk =>
    rw [← List.concat_eq_append]
    exact List.Nodup.concat hk h

theorem lookup_cons_eq (k k' : κ) (v : V) (entries : List (κ × V)) :
    ((k, v) :: entries).lookup k' = if k' = k then some v else entries.lookup k' := by
  rw [List.lookup_cons]
  by_cases hk : k' = k
  · simp [hk]
  · simp only [beq_eq_false_iff_ne.mpr hk, if_neg hk]

theorem lookup_bind (k k' : κ) (v : V) (entries : List (κ × V)) :
    (bind k v entries).lookup k' = if k' = k then some v else entries.lookup k' := by
  induction entries with
  | nil => exact lookup_cons_eq k k' v []
  | cons entry rest ih =>
      obtain ⟨key, value⟩ := entry
      unfold bind
      by_cases hkey : key = k
      · subst hkey
        rw [if_pos rfl, lookup_cons_eq, lookup_cons_eq]
        by_cases hk : k' = key
        · rw [if_pos hk, if_pos hk]
        · rw [if_neg hk, if_neg hk, if_neg hk]
      · rw [if_neg hkey, lookup_cons_eq, lookup_cons_eq, ih]
        by_cases hk : k' = key
        · subst hk
          rw [if_pos rfl, if_neg hkey, if_pos rfl]
        · rw [if_neg hk, if_neg hk]

/-- No bindings. -/
def empty : OrderedDict κ V := ⟨[], List.nodup_nil⟩

/-- Bind `k` to `v`. -/
def set (d : OrderedDict κ V) (k : κ) (v : V) : OrderedDict κ V :=
  ⟨bind k v d.entries, nodup_bind v d.nodup⟩

/-- The value bound to `k`, if any. -/
def get? (d : OrderedDict κ V) (k : κ) : Option V := d.entries.lookup k

/-- The number of bindings. -/
def size (d : OrderedDict κ V) : Nat := d.entries.length

/-- The key that was bound first. -/
def firstKey? (d : OrderedDict κ V) : Option κ := d.entries.head?.map Prod.fst

/-- The items of a list, bound one after another under their keys. -/
def ofItems (key : V → κ) (items : List V) : OrderedDict κ V :=
  items.foldl (fun d x => d.set (key x) x) empty

variable (key : V → κ) (items : List V)

@[simp] theorem ofItems_nil : ofItems key [] = empty := rfl

@[simp] theorem ofItems_concat (x : V) :
    ofItems key (items ++ [x]) = (ofItems key items).set (key x) x := by
  unfold ofItems
  rw [List.foldl_append, List.foldl_cons, List.foldl_nil]

/-- Of the items with one key the last is found. -/
theorem get?_ofItems (k : κ) :
    (ofItems key items).get? k = History.last? (fun x => key x = k) items := by
  induction items using List.reverseRecOn with
  | nil => rfl
  | append_singleton items x ih =>
      rw [ofItems_concat, History.last?_concat, ← ih]
      unfold get? set
      rw [lookup_bind]
      by_cases hk : k = key x
      · simp [hk]
      · simp [hk, Ne.symm hk]

theorem mem_keys_ofItems (k : κ) :
    k ∈ (ofItems key items).entries.map Prod.fst ↔ ∃ x ∈ items, key x = k := by
  induction items using List.reverseRecOn with
  | nil => simp [empty]
  | append_singleton items x ih =>
      have hkeys : k ∈ ((ofItems key items).set (key x) x).entries.map Prod.fst ↔
          k ∈ (ofItems key items).entries.map Prod.fst ∨ k = key x := by
        unfold set
        rw [keys_bind]
        split
        · next hx =>
          refine ⟨.inl, fun h => h.elim id fun heq => ?_⟩
          rw [heq]
          exact hx
        · rw [List.mem_append, List.mem_singleton]
      rw [ofItems_concat, hkeys, ih]
      constructor
      · rintro (⟨y, hy, rfl⟩ | rfl)
        · exact ⟨y, List.mem_append_left _ hy, rfl⟩
        · exact ⟨x, List.mem_append_right _ (List.mem_singleton_self x), rfl⟩
      · rintro ⟨y, hy, rfl⟩
        rcases List.mem_append.mp hy with hy | hy
        · exact .inl ⟨y, hy, rfl⟩
        · exact .inr (by rw [List.mem_singleton.mp hy])

theorem firstKey?_set (d : OrderedDict κ V) (k : κ) (v : V) :
    (d.set k v).firstKey? = some (d.firstKey?.getD k) := by
  obtain ⟨entries, hnodup⟩ := d
  cases entries with
  | nil => rfl
  | cons entry rest =>
      obtain ⟨key, value⟩ := entry
      unfold firstKey? set
      dsimp only [bind]
      split
      · next hkey => simp [hkey]
      · rfl

theorem get?_eq_none_iff {d : OrderedDict κ V} {k : κ} :
    d.get? k = none ↔ k ∉ d.entries.map Prod.fst := by
  unfold get?
  simp only [List.lookup_eq_none_iff, List.mem_map, bne_iff_ne]
  constructor
  · rintro h ⟨entry, hentry, rfl⟩
    exact h entry hentry rfl
  · intro h entry hentry heq
    exact h ⟨entry, hentry, heq.symm⟩

/-- The first key is that of the first item. -/
theorem firstKey?_ofItems : (ofItems key items).firstKey? = items.head?.map key := by
  induction items using List.reverseRecOn with
  | nil => rfl
  | append_singleton items x ih =>
      rw [ofItems_concat, firstKey?_set, ih]
      cases items with
      | nil => rfl
      | cons first rest => rfl

/-- There is more than one binding exactly if two items have different keys. -/
theorem one_lt_size_ofItems_iff :
    1 < (ofItems key items).size ↔ ∃ x ∈ items, ∃ y ∈ items, key x ≠ key y := by
  have hcard : (ofItems key items).size =
      ((ofItems key items).entries.map Prod.fst).toFinset.card := by
    rw [List.toFinset_card_of_nodup (ofItems key items).nodup, List.length_map]
    rfl
  rw [hcard, Finset.one_lt_card]
  simp only [List.mem_toFinset, mem_keys_ofItems]
  constructor
  · rintro ⟨_, ⟨x, hx, rfl⟩, _, ⟨y, hy, rfl⟩, hne⟩
    exact ⟨x, hx, y, hy, hne⟩
  · rintro ⟨x, hx, y, hy, hne⟩
    exact ⟨key x, ⟨x, hx, rfl⟩, key y, ⟨y, hy, rfl⟩, hne⟩

end OrderedDict

end Data
