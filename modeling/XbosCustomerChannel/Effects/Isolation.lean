import XbosCustomerChannel.Effects.Interleaving

/-!
# Owners of interleaved programs

Programs run at once, and some of their operations are an owner's; to the owner, a state looks like
another if `R` relates them. If the owner's operations are answered alike in states that look alike, and
the others' change nothing that the owner sees, then everybody's run looks to the owner like one in
which only what is his was done (`Pool.run_shadowed`).

Whose an operation is may depend on what the program was answered before: `Ok` is what is known of an
answer in every state that meets the invariant `I`.
-/

namespace Effects

open Program

variable {S : Signature} {σ ε α β γ δ ι : Type}

/-! ## Programs with answers that are known of -/

section Confined

variable (A : S.Op → Prop) (Ok : (op : S.Op) → S.Resp op → Prop)

/-- Every operation of the program meets `A`, as long as the answers meet `Ok`. -/
def Program.Confined : Program S ε α → Prop
  | .done _ => True
  | .raise _ => True
  | .call op k => A op ∧ ∀ r, Ok op r → Confined (k r)

variable {A Ok}

namespace Program.Confined

theorem bind {p : Program S ε α} {f : α → Program S ε β} (hp : p.Confined A Ok)
    (hf : ∀ a, (f a).Confined A Ok) : (p >>= f).Confined A Ok := by
  induction p with
  | done a => exact hf a
  | raise e => trivial
  | call op k ih => exact ⟨hp.1, fun r hr => ih r (hp.2 r hr)⟩

theorem ofExcept_bind {r : Except ε α} {f : α → Program S ε β}
    (hf : ∀ a, r = .ok a → (f a).Confined A Ok) : (ofExcept r >>= f).Confined A Ok := by
  cases r with
  | ok a => exact hf a rfl
  | error e => trivial

theorem tryCatch {p : Program S ε α} {h : ε → Program S ε α} (hp : p.Confined A Ok)
    (hh : ∀ e, (h e).Confined A Ok) : (p.tryCatch h).Confined A Ok := by
  induction p with
  | done a => trivial
  | raise e => exact hh e
  | call op k ih => exact ⟨hp.1, fun r hr => ih r (hp.2 r hr)⟩

theorem of_uses {p : Program S ε α} (hp : p.Uses A) : p.Confined A Ok := by
  induction p with
  | done a => trivial
  | raise e => trivial
  | call op k ih => exact ⟨hp.1, fun r _ => ih r (hp.2 r)⟩

theorem mono {B : S.Op → Prop} {p : Program S ε α} (hp : p.Confined A Ok)
    (hAB : ∀ op, A op → B op) : p.Confined B Ok := by
  induction p with
  | done a => trivial
  | raise e => trivial
  | call op k ih => exact ⟨hAB op hp.1, fun r hr => ih r (hp.2 r hr)⟩

end Program.Confined

end Confined

/-! ## What a program does for its owner -/

section Shadows

variable (mine others : S.Op → Prop) (Ok : (op : S.Op) → S.Resp op → Prop)

/-- The second program does what the first does for the owner, and where both return, the results meet
`Q`. A program that raises may do less than that. -/
inductive Program.Shadows (Q : α → β → Prop) : Program S ε α → Program S ε β → Prop
  | done {a : α} {b : β} (h : Q a b) : Shadows Q (.done a) (.done b)
  | raise (e : ε) (q : Program S ε β) : Shadows Q (.raise e) q
  | mine {op : S.Op} {k : S.Resp op → Program S ε α} {k' : S.Resp op → Program S ε β}
      (hop : mine op) (hk : ∀ r, Ok op r → Shadows Q (k r) (k' r)) :
      Shadows Q (.call op k) (.call op k')
  | others {op : S.Op} {k : S.Resp op → Program S ε α} {q : Program S ε β} (hop : others op)
      (hk : ∀ r, Ok op r → Shadows Q (k r) q) : Shadows Q (.call op k) q

variable {mine others Ok}

namespace Program.Shadows

variable {Q : α → β → Prop} {p : Program S ε α} {q : Program S ε β}

/-- What is all the owner's is done as it is. -/
theorem of_mine (hp : p.Confined mine Ok) : Shadows mine others Ok Eq p p := by
  induction p with
  | done a => exact .done rfl
  | raise e => exact .raise e _
  | call op k ih => exact .mine hp.1 fun r hr => ih r (hp.2 r hr)

/-- What is all the others' is left out. -/
theorem bind_of_others {f : α → Program S ε γ} {q : Program S ε δ} {Q : γ → δ → Prop}
    (hp : p.Confined others Ok) (hf : ∀ a, Shadows mine others Ok Q (f a) q) :
    Shadows mine others Ok Q (p >>= f) q := by
  induction p with
  | done a => exact hf a
  | raise e => exact .raise e q
  | call op k ih => exact .others hp.1 fun r hr => ih r (hp.2 r hr)

theorem bind {f : α → Program S ε γ} {g : β → Program S ε δ} {Q' : γ → δ → Prop}
    (h : Shadows mine others Ok Q p q) (hfg : ∀ a b, Q a b → Shadows mine others Ok Q' (f a) (g b)) :
    Shadows mine others Ok Q' (p >>= f) (q >>= g) := by
  induction h with
  | done hQ => exact hfg _ _ hQ
  | raise e q => exact .raise e _
  | mine hop _ ih => exact .mine hop fun r hr => ih r hr
  | others hop _ ih => exact .others hop fun r hr => ih r hr

theorem map_left {f : α → γ} {Q' : γ → β → Prop} (h : Shadows mine others Ok Q p q)
    (hf : ∀ a b, Q a b → Q' (f a) b) :
    Shadows mine others Ok Q' (p >>= fun a => .done (f a)) q := by
  rw [← bind_done q]
  apply bind h
  intro a b hQ
  exact .done (hf a b hQ)

/-- Where the first program has returned, so has the second. -/
theorem of_done {a : α} (h : Shadows mine others Ok Q (Program.done a : Program S ε α) q) :
    ∃ b, q = .done b ∧ Q a b := by
  cases h with
  | done hQ => exact ⟨_, rfl, hQ⟩

end Program.Shadows

end Shadows

/-! ## Everybody's run -/

/-- What the others do is hidden from the owner. -/
structure Isolates (H : Handler S σ) (mine others : S.Op → Prop)
    (Ok : (op : S.Op) → S.Resp op → Prop) (I : σ → Prop) (R : σ → σ → Prop) : Prop where
  answers : ∀ op s, I s → Ok op (H op s).1
  keeps : ∀ op s, mine op ∨ others op → I s → I (H op s).2
  same : ∀ op s t, mine op → R s t → (H op s).1 = (H op t).1 ∧ R (H op s).2 (H op t).2
  hidden : ∀ op s t, others op → R s t → R (H op s).2 t

/-- A change of the state that treats what looks alike alike. -/
structure Uniform (I : σ → Prop) (R : σ → σ → Prop) (change : σ → σ) : Prop where
  keeps : ∀ s, I s → I (change s)
  same : ∀ s t, R s t → R (change s) (change t)

namespace Pool

variable [DecidableEq ι] {H : Handler S σ} {mine others : S.Op → Prop}
  {Ok : (op : S.Op) → S.Resp op → Prop} {I : σ → Prop} {R : σ → σ → Prop} {Q : ι → α → β → Prop}

variable (mine others Ok I R Q) in
/-- To the owner, the first pool looks like the second. -/
structure Shadowed (P : Pool S σ ε α ι) (P' : Pool S σ ε β ι) : Prop where
  invariant : I P.state
  state : R P.state P'.state
  threads : ∀ i, Shadows mine others Ok (Q i) (P.threads i) (P'.threads i)

variable {P : Pool S σ ε α ι} {P' : Pool S σ ε β ι}

/-- A turn is taken in both or in the first alone. -/
theorem Shadowed.step (h : Shadowed mine others Ok I R Q P P') (hH : Isolates H mine others Ok I R)
    (turn : Turn ι σ) (houtside : ∀ change, turn = .outside change → Uniform I R change) :
    ∃ turns : List (Turn ι σ), turns.Sublist [turn] ∧
      Shadowed mine others Ok I R Q (P.step H turn) (P'.run H turns) := by
  cases turn with
  | outside change =>
      have hchange := houtside change rfl
      exact ⟨[.outside change], .refl _, hchange.keeps _ h.invariant,
        hchange.same _ _ h.state, h.threads⟩
  | thread i =>
      have hthread := h.threads i
      generalize hp : P.threads i = p at hthread
      generalize hq : P'.threads i = q at hthread
      cases hthread with
      | done hQ =>
          refine ⟨[], List.nil_sublist _, ?_⟩
          rw [step_thread_of_not_call H (by simp [hp])]
          exact h
      | raise e q =>
          refine ⟨[], List.nil_sublist _, ?_⟩
          rw [step_thread_of_not_call H (by simp [hp])]
          exact h
      | mine hop hk =>
          rename_i op k k'
          obtain ⟨hsame, hstate⟩ := hH.same op P.state P'.state hop h.state
          refine ⟨[.thread i], .refl _, ?_⟩
          rw [run_cons, run_nil, step_thread_call H hp, step_thread_call H hq]
          refine ⟨hH.keeps op _ (.inl hop) h.invariant, hstate, fun j => ?_⟩
          by_cases hj : j = i
          · subst hj
            simp only [Function.update_self]
            rw [← hsame]
            exact hk _ (hH.answers op _ h.invariant)
          · simpa only [Function.update_of_ne hj] using h.threads j
      | others hop hk =>
          rename_i op k
          refine ⟨[], List.nil_sublist _, ?_⟩
          rw [run_nil, step_thread_call H hp]
          refine ⟨hH.keeps op _ (.inr hop) h.invariant, hH.hidden op _ _ hop h.state, fun j => ?_⟩
          by_cases hj : j = i
          · subst hj
            simp only [Function.update_self]
            rw [hq]
            exact hk _ (hH.answers op _ h.invariant)
          · simpa only [Function.update_of_ne hj] using h.threads j

/-- Every schedule of the first pool looks to the owner like one of the second, some turns of the first
left out. -/
theorem run_shadowed (hH : Isolates H mine others Ok I R) (h : Shadowed mine others Ok I R Q P P')
    (turns : List (Turn ι σ)) (houtside : ∀ change, .outside change ∈ turns → Uniform I R change) :
    ∃ turns' : List (Turn ι σ), turns'.Sublist turns ∧
      Shadowed mine others Ok I R Q (P.run H turns) (P'.run H turns') := by
  induction turns generalizing P P' with
  | nil => exact ⟨[], .refl _, h⟩
  | cons turn turns ih =>
      obtain ⟨first, hfirst, hstep⟩ := h.step hH turn fun change heq =>
        houtside change (heq ▸ List.mem_cons_self)
      obtain ⟨rest, hrest, hrun⟩ := ih hstep fun change hmem =>
        houtside change (List.mem_cons_of_mem turn hmem)
      refine ⟨first ++ rest, hfirst.append hrest, ?_⟩
      rw [run_append, run_cons]
      exact hrun

end Pool

end Effects
