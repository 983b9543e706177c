import Mathlib.Data.List.DropRight
import Mathlib.Data.List.Induction

/-!
# Histories

A history is a list that grows at its end. `Each P h` says that every entry of `h` stood in the
relation `P` to the entries before it when it was added; it is what can be checked entry by entry
(`each_concat`). `Occurs P h` says it of some entry. `last? p h` is the latest entry with `p`, and
`since p h` what came after it.
-/

namespace Data

namespace History

variable {α : Type} (P : List α → α → Prop)

/-- Every entry meets `P` with the entries before it. -/
def Each (h : List α) : Prop := ∀ before e after, h = before ++ e :: after → P before e

variable {P}

theorem each_nil : Each P [] := by
  intro before e after h
  simp at h

theorem each_concat {h : List α} {e : α} : Each P (h ++ [e]) ↔ Each P h ∧ P h e := by
  constructor
  · intro hall
    refine ⟨fun before e' after heq => hall before e' (after ++ [e]) (by simp [heq]), ?_⟩
    exact hall h e [] rfl
  · rintro ⟨hall, he⟩ before e' after heq
    -- the entry in question is the new one exactly if nothing comes after it
    rcases List.eq_nil_or_concat after with rfl | ⟨after', last, rfl⟩
    · obtain ⟨rfl, hlast⟩ := List.append_inj' heq rfl
      obtain rfl := List.singleton_inj.mp hlast
      exact he
    · rw [List.concat_eq_append, ← List.cons_append, ← List.append_assoc] at heq
      exact hall before e' after' (List.append_inj_left' heq rfl)

theorem each_of_append {h h' : List α} (hall : Each P (h ++ h')) : Each P h :=
  fun before e after heq => hall before e (after ++ h') (by simp [heq])

/-- One history after another, for a relation that looks only at the latest entries. -/
theorem each_append (hP : ∀ earlier before e, P before e → P (earlier ++ before) e) {h h' : List α}
    (hh : Each P h) (hh' : Each P h') : Each P (h ++ h') := by
  induction h' using List.reverseRecOn with
  | nil => rwa [List.append_nil]
  | append_singleton h' e ih =>
      obtain ⟨hbefore, he⟩ := each_concat.mp hh'
      rw [← List.append_assoc]
      exact each_concat.mpr ⟨ih hbefore, hP h h' e he⟩

/-- An entry that is given by its position. -/
theorem Each.get {h : List α} (hall : Each P h) {i : Nat} {e : α} (he : h[i]? = some e) :
    P (h.take i) e := by
  obtain ⟨hi, rfl⟩ := List.getElem?_eq_some_iff.mp he
  refine hall _ _ (h.drop (i + 1)) ?_
  rw [← List.drop_eq_getElem_cons hi, List.take_append_drop]

instance decidableEach [∀ before e, Decidable (P before e)] (h : List α) : Decidable (Each P h) :=
  decidable_of_iff (∀ i : Fin h.length, P (h.take i) (h.get i)) <| by
    constructor
    · rintro hall before e after rfl
      have he := hall ⟨before.length, by simp⟩
      simpa using he
    · intro hall i
      exact hall.get (List.getElem?_eq_getElem i.isLt)

/-! ## Entries that were added at some point -/

section Occurs

variable {h : List α}

/-- Some entry stood in the relation to the entries before it when it was added. -/
def Occurs (P : List α → α → Prop) (h : List α) : Prop :=
  ∃ before e after, h = before ++ e :: after ∧ P before e

theorem Occurs.append (ho : Occurs P h) (h' : List α) : Occurs P (h ++ h') := by
  obtain ⟨before, e, after, rfl, he⟩ := ho
  exact ⟨before, e, after ++ h', by simp, he⟩

theorem occurs_concat {e : α} (he : P h e) : Occurs P (h ++ [e]) := ⟨h, e, [], rfl, he⟩

end Occurs

/-! ## The latest entry of a kind -/

variable (p : α → Bool)

def last? (h : List α) : Option α := h.reverse.find? p

/-- The entries after the latest one with `p`. -/
def since (h : List α) : List α := h.rtakeWhile (fun e => !p e)

variable {p} {e : α}

theorem last?_concat (h : List α) :
    last? p (h ++ [e]) = if p e then some e else last? p h := by
  unfold last?
  rw [List.reverse_append]
  simp only [List.reverse_singleton, List.singleton_append, List.find?_cons]
  cases p e <;> rfl

theorem last?_eq_some {h : List α} (he : last? p h = some e) : e ∈ h ∧ p e :=
  ⟨List.mem_reverse.mp (List.mem_of_find?_eq_some he), by simpa using List.find?_some he⟩

theorem since_concat (h : List α) :
    since p (h ++ [e]) = if p e then [] else since p h ++ [e] := by
  unfold since
  rw [List.rtakeWhile_concat]
  cases p e <;> rfl

/-! ## What was written last -/

section Latest

variable {β σ : Type} {f : α → Option β}

/-- What the latest entry with a value has. -/
def lastSome? (f : α → Option β) (h : List α) : Option β := h.reverse.findSome? f

theorem lastSome?_concat (h : List α) (e : α) :
    lastSome? f (h ++ [e]) = (f e).or (lastSome? f h) := by
  unfold lastSome?
  rw [List.reverse_append, List.reverse_singleton, List.singleton_append, List.findSome?_cons]
  cases f e <;> rfl

/-- What every step writes or leaves is, after some steps, what was written last. -/
theorem lastSome?_foldl {step : σ → α → σ} {read : σ → Option β}
    (hstep : ∀ s e, read (step s e) = (f e).or (read s)) {s : σ} (hs : read s = none)
    (h : List α) : read (h.foldl step s) = lastSome? f h := by
  induction h using List.reverseRecOn with
  | nil => exact hs
  | append_singleton h e ih =>
      rw [List.foldl_append, List.foldl_cons, List.foldl_nil, hstep, ih, lastSome?_concat]

end Latest

/-! ## What was set and not cleared -/

section Latch

variable {σ ω : Type} {step : σ → ω → σ} {holds : σ → Prop} {sets : σ → ω → Prop} {clears : ω → Prop}

/-- What some steps bring about and others undo holds after the steps of which one brought it about,
and none has undone it since. -/
theorem latch_iff (hstep : ∀ s op, holds (step s op) ↔ sets s op ∨ holds s ∧ ¬ clears op) {s : σ}
    (hs : ¬ holds s) (ops : List ω) :
    holds (ops.foldl step s) ↔ ∃ before op after, ops = before ++ op :: after ∧
      sets (before.foldl step s) op ∧ ∀ op' ∈ after, ¬ clears op' := by
  induction ops using List.reverseRecOn with
  | nil => simp [hs]
  | append_singleton ops op ih =>
      rw [List.foldl_append, List.foldl_cons, List.foldl_nil, hstep, ih]
      constructor
      · rintro (hset | ⟨⟨before, op', after, rfl, hset, hafter⟩, hclears⟩)
        · exact ⟨ops, op, [], rfl, hset, by simp⟩
        · refine ⟨before, op', after ++ [op], by simp, hset, ?_⟩
          intro op'' hop
          rcases List.mem_append.mp hop with hop | hop
          · exact hafter op'' hop
          · rwa [List.mem_singleton.mp hop]
      · rintro ⟨before, op', after, heq, hset, hafter⟩
        rcases List.eq_nil_or_concat after with rfl | ⟨after', last, rfl⟩
        · obtain ⟨rfl, hlast⟩ := List.append_inj' heq rfl
          obtain rfl := List.singleton_inj.mp hlast
          exact Or.inl hset
        · rw [List.concat_eq_append, ← List.cons_append, ← List.append_assoc] at heq
          obtain ⟨rfl, hlast⟩ := List.append_inj' heq rfl
          obtain rfl := List.singleton_inj.mp hlast
          refine Or.inr ⟨⟨before, op', after', rfl, hset, fun op'' hop => ?_⟩, ?_⟩
          · exact hafter op'' (by simp [hop])
          · exact hafter op (by simp)

end Latch

end History

end Data
