import Mathlib.Data.List.Forall2

/-!
# Traversals that may fail

Steps of `Except`, one after another and over a list: what a result is made of, and which step an
error came from. The steps before that one have all succeeded.
-/

namespace Data

namespace Traversal

variable {ε α β : Type}

theorem bind_eq_ok {x : Except ε α} {f : α → Except ε β} {b : β} :
    x >>= f = .ok b ↔ ∃ a, x = .ok a ∧ f a = .ok b := by
  cases x with
  | ok a => simp [bind, Except.bind]
  | error e => simp [bind, Except.bind]

theorem bind_eq_error {x : Except ε α} {f : α → Except ε β} {e : ε} :
    x >>= f = .error e ↔ x = .error e ∨ ∃ a, x = .ok a ∧ f a = .error e := by
  cases x with
  | ok a => simp [bind, Except.bind]
  | error e => simp [bind, Except.bind]

theorem exists_bind_eq_ok {x : Except ε α} {f : α → Except ε β} :
    (∃ b, x >>= f = .ok b) ↔ ∃ a, x = .ok a ∧ ∃ b, f a = .ok b := by
  simp only [bind_eq_ok]
  constructor
  · rintro ⟨b, a, ha, hb⟩
    exact ⟨a, ha, b, hb⟩
  · rintro ⟨a, ha, b, hb⟩
    exact ⟨b, a, ha, hb⟩

/-- A step is followed by the rest, if the rest does not depend on what the step returns. -/
theorem exists_bind_iff {x : Except ε α} {f : α → Except ε β} {p : Prop}
    (hf : ∀ a, (∃ b, f a = .ok b) ↔ p) : (∃ b, x >>= f = .ok b) ↔ (∃ a, x = .ok a) ∧ p := by
  rw [exists_bind_eq_ok]
  constructor
  · rintro ⟨a, ha, hb⟩
    exact ⟨⟨a, ha⟩, (hf a).mp hb⟩
  · rintro ⟨⟨a, ha⟩, hp⟩
    exact ⟨a, ha, (hf a).mpr hp⟩

/-- A traversal returns one result for each item, in their order. -/
theorem mapM_eq_ok {f : α → Except ε β} {xs : List α} {ys : List β} :
    xs.mapM f = .ok ys ↔ List.Forall₂ (fun x y => f x = .ok y) xs ys := by
  induction xs generalizing ys with
  | nil =>
      rw [List.mapM_nil, List.forall₂_nil_left_iff]
      exact ⟨fun h => (Except.ok.inj h).symm, fun h => h ▸ rfl⟩
  | cons x xs ih =>
      rw [List.mapM_cons, bind_eq_ok]
      constructor
      · rintro ⟨y, hy, h⟩
        obtain ⟨ys', hys, h⟩ := bind_eq_ok.mp h
        obtain rfl := Except.ok.inj h
        exact .cons hy (ih.mp hys)
      · intro h
        cases h with
        | cons hy hys => exact ⟨_, hy, bind_eq_ok.mpr ⟨_, ih.mpr hys, rfl⟩⟩

theorem mapM_cons_eq_ok {f : α → Except ε β} {x : α} {xs : List α} {ys : List β} :
    (x :: xs).mapM f = .ok ys ↔ ∃ y ys', f x = .ok y ∧ xs.mapM f = .ok ys' ∧ ys = y :: ys' := by
  simp only [mapM_eq_ok, List.forall₂_cons_left_iff]

theorem forall₂_eq_nil {R : α → β → Prop} {xs : List α} {ys : List β} (h : List.Forall₂ R xs ys) :
    xs = [] ↔ ys = [] := by
  cases h with
  | nil => simp
  | cons => simp

/-- Every result is the result of an item. -/
theorem exists_of_mem_mapM {f : α → Except ε β} {xs : List α} {ys : List β}
    (h : xs.mapM f = .ok ys) {y : β} (hy : y ∈ ys) : ∃ x ∈ xs, f x = .ok y := by
  have hall := mapM_eq_ok.mp h
  induction hall with
  | nil => cases hy
  | cons hfirst hrest ih =>
      rcases List.mem_cons.mp hy with rfl | hy
      · exact ⟨_, List.mem_cons_self, hfirst⟩
      · obtain ⟨x, hx, hvalue⟩ := ih (mapM_eq_ok.mpr hrest) hy
        exact ⟨x, List.mem_cons_of_mem _ hx, hvalue⟩

theorem exists_mapM_eq_ok {f : α → Except ε β} {xs : List α} :
    (∃ ys, xs.mapM f = .ok ys) ↔ ∀ x ∈ xs, ∃ y, f x = .ok y := by
  simp only [mapM_eq_ok]
  induction xs with
  | nil => simp
  | cons x xs ih =>
      rw [List.forall_mem_cons, ← ih]
      constructor
      · rintro ⟨_, hy | ⟨hy, hys⟩⟩
        exact ⟨⟨_, hy⟩, _, hys⟩
      · rintro ⟨⟨y, hy⟩, ys, hys⟩
        exact ⟨y :: ys, .cons hy hys⟩

/-- The first of the items that `good` does not hold of is `bad`. -/
def FirstOf (good bad : α → Prop) (xs : List α) : Prop :=
  ∃ earlier x later, xs = earlier ++ x :: later ∧ (∀ y ∈ earlier, good y) ∧ bad x

theorem FirstOf.imp {good good' bad bad' : α → Prop} (hgood : ∀ x, good x → good' x)
    (hbad : ∀ x, bad x → bad' x) {xs : List α} (h : FirstOf good bad xs) : FirstOf good' bad' xs := by
  obtain ⟨earlier, x, later, hxs, hearlier, hx⟩ := h
  exact ⟨earlier, x, later, hxs, fun y hy => hgood y (hearlier y hy), hbad x hx⟩

theorem firstOf_congr {good good' bad bad' : α → Prop} (hgood : ∀ x, good x ↔ good' x)
    (hbad : ∀ x, bad x ↔ bad' x) {xs : List α} : FirstOf good bad xs ↔ FirstOf good' bad' xs :=
  ⟨.imp (fun x => (hgood x).mp) fun x => (hbad x).mp,
    .imp (fun x => (hgood x).mpr) fun x => (hbad x).mpr⟩

/-- A traversal raises what the first item that fails raises. -/
theorem mapM_eq_error {f : α → Except ε β} {xs : List α} {e : ε} :
    xs.mapM f = .error e ↔ FirstOf (fun x => ∃ y, f x = .ok y) (fun x => f x = .error e) xs := by
  induction xs with
  | nil =>
      rw [List.mapM_nil]
      constructor
      · intro h
        cases h
      · rintro ⟨earlier, x, later, h, -⟩
        simp at h
  | cons x xs ih =>
      rw [List.mapM_cons, bind_eq_error]
      constructor
      · rintro (h | ⟨y, hy, h⟩)
        · exact ⟨[], x, xs, rfl, by simp, h⟩
        · rcases bind_eq_error.mp h with h | ⟨_, -, h⟩
          · obtain ⟨earlier, z, later, rfl, hearlier, hz⟩ := ih.mp h
            exact ⟨x :: earlier, z, later, rfl, List.forall_mem_cons.mpr ⟨⟨y, hy⟩, hearlier⟩, hz⟩
          · cases h
      · rintro ⟨earlier, z, later, h, hearlier, hz⟩
        cases earlier with
        | nil =>
            obtain ⟨rfl, rfl⟩ := List.cons.inj h
            exact Or.inl hz
        | cons first earlier =>
            obtain ⟨rfl, rfl⟩ := List.cons.inj h
            obtain ⟨⟨y, hy⟩, hearlier⟩ := List.forall_mem_cons.mp hearlier
            exact Or.inr ⟨y, hy, bind_eq_error.mpr (Or.inl (ih.mpr ⟨earlier, z, later, rfl, hearlier, hz⟩))⟩

end Traversal

end Data
