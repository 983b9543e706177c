import XbosCustomerChannel.Effects.Execution

/-!
# Two programs side by side

`Coupled H E Q p p' s s'`: run from `s` and from `s'`, the two programs either both return, and then
`Q` holds of their results and of the states they leave, or both raise, and then `E` does. It is the
relational form of a postcondition; a statement about two runs of one system is proved with it one
program statement at a time.
-/

namespace Effects

open Program

variable {S : Signature} {σ ε α β γ δ : Type} (H : Handler S σ)

def Coupled (E : ε → ε → σ → σ → Prop) (Q : α → β → σ → σ → Prop) (p : Program S ε α)
    (p' : Program S ε β) (s s' : σ) : Prop :=
  match exec H p s, exec H p' s' with
  | (.ok a, t), (.ok b, t') => Q a b t t'
  | (.error e, t), (.error e', t') => E e e' t t'
  | _, _ => False

namespace Coupled

variable {H} {E E' : ε → ε → σ → σ → Prop} {Q Q' : α → β → σ → σ → Prop} {p : Program S ε α}
  {p' : Program S ε β} {s s' : σ}

theorem of_ok {a : α} {b : β} {t t' : σ} (hp : exec H p s = (.ok a, t))
    (hp' : exec H p' s' = (.ok b, t')) (h : Q a b t t') : Coupled H E Q p p' s s' := by
  unfold Coupled
  rw [hp, hp']
  exact h

theorem of_error {e e' : ε} {t t' : σ} (hp : exec H p s = (.error e, t))
    (hp' : exec H p' s' = (.error e', t')) (h : E e e' t t') : Coupled H E Q p p' s s' := by
  unfold Coupled
  rw [hp, hp']
  exact h

/-- What two coupled programs did. -/
theorem cases (h : Coupled H E Q p p' s s') :
    (∃ a b t t', exec H p s = (.ok a, t) ∧ exec H p' s' = (.ok b, t') ∧ Q a b t t') ∨
    (∃ e e' t t', exec H p s = (.error e, t) ∧ exec H p' s' = (.error e', t') ∧
      E e e' t t') := by
  unfold Coupled at h
  split at h
  · next a t b t' hp hp' => exact .inl ⟨a, b, t, t', hp, hp', h⟩
  · next e t e' t' hp hp' => exact .inr ⟨e, e', t, t', hp, hp', h⟩
  · exact h.elim

theorem mono (h : Coupled H E Q p p' s s') (hE : ∀ e e' t t', E e e' t t' → E' e e' t t')
    (hQ : ∀ a b t t', Q a b t t' → Q' a b t t') : Coupled H E' Q' p p' s s' := by
  rcases h.cases with ⟨a, b, t, t', hp, hp', h⟩ | ⟨e, e', t, t', hp, hp', h⟩
  · exact of_ok hp hp' (hQ a b t t' h)
  · exact of_error hp hp' (hE e e' t t' h)

theorem bind {f : α → Program S ε γ} {f' : β → Program S ε δ} {R : γ → δ → σ → σ → Prop}
    (h : Coupled H E Q p p' s s')
    (hf : ∀ a b t t', Q a b t t' → Coupled H E R (f a) (f' b) t t') :
    Coupled H E R (p >>= f) (p' >>= f') s s' := by
  rcases h.cases with ⟨a, b, t, t', hp, hp', h⟩ | ⟨e, e', t, t', hp, hp', h⟩
  · unfold Coupled
    rw [exec_bind_ok H hp, exec_bind_ok H hp']
    exact hf a b t t' h
  · exact of_error (exec_bind_error H hp f) (exec_bind_error H hp' f') h

/-- Two programs go on as their rests do after what both got through. -/
theorem bind_of_ok {f : α → Program S ε γ} {f' : β → Program S ε δ} {R : γ → δ → σ → σ → Prop}
    {a : α} {b : β} {t t' : σ} (hp : exec H p s = (.ok a, t)) (hp' : exec H p' s' = (.ok b, t'))
    (hf : Coupled H E R (f a) (f' b) t t') : Coupled H E R (p >>= f) (p' >>= f') s s' := by
  unfold Coupled
  rw [exec_bind_ok H hp, exec_bind_ok H hp']
  exact hf

theorem done {a : α} {b : β} (h : Q a b s s') :
    Coupled H E Q (.done a : Program S ε α) (.done b : Program S ε β) s s' := h

theorem raise {e e' : ε} (h : E e e' s s') :
    Coupled H E Q (.raise e : Program S ε α) (.raise e' : Program S ε β) s s' := h

theorem call {op op' : S.Op} {k : S.Resp op → Program S ε α} {k' : S.Resp op' → Program S ε β}
    (h : Coupled H E Q (k (H op s).1) (k' (H op' s').1) (H op s).2 (H op' s').2) :
    Coupled H E Q (.call op k) (.call op' k') s s' := h

/-- Two checks that stop both or neither. -/
theorem raiseIf_bind {P P' : Prop} [Decidable P] [Decidable P'] {e e' : ε}
    {f : Unit → Program S ε α} {f' : Unit → Program S ε β} (hP : P ↔ P')
    (hE : P → E e e' s s') (hf : ¬ P → Coupled H E Q (f ()) (f' ()) s s') :
    Coupled H E Q (raiseIf P e >>= f) (raiseIf P' e' >>= f') s s' := by
  unfold raiseIf
  by_cases h : P
  · rw [if_pos h, if_pos (hP.mp h)]
    exact raise (hE h)
  · rw [if_neg h, if_neg (mt hP.mpr h)]
    exact hf h

theorem ofExcept_bind {r : Except ε γ} {f : γ → Program S ε α} {f' : γ → Program S ε β}
    (hE : ∀ e, r = .error e → E e e s s')
    (hf : ∀ c, r = .ok c → Coupled H E Q (f c) (f' c) s s') :
    Coupled H E Q (ofExcept r >>= f) (ofExcept r >>= f') s s' := by
  cases r with
  | ok c => exact hf c rfl
  | error e => exact raise (hE e rfl)

theorem tryCatch {D : ε → ε → σ → σ → Prop} {h : ε → Program S ε α} {h' : ε → Program S ε β}
    (hp : Coupled H D Q p p' s s')
    (hh : ∀ e e' t t', D e e' t t' → Coupled H E Q (h e) (h' e') t t') :
    Coupled H E Q (p.tryCatch h) (p'.tryCatch h') s s' := by
  rcases hp.cases with ⟨a, b, t, t', hexec, hexec', hq⟩ | ⟨e, e', t, t', hexec, hexec', he⟩
  · have hcaught : exec H (p.tryCatch h) s = (.ok a, t) := by rw [exec_tryCatch, hexec]
    have hcaught' : exec H (p'.tryCatch h') s' = (.ok b, t') := by rw [exec_tryCatch, hexec']
    exact of_ok hcaught hcaught' hq
  · have hnext := hh e e' t t' he
    unfold Coupled at hnext ⊢
    rw [exec_tryCatch, exec_tryCatch, hexec, hexec']
    exact hnext

/-- One program from two states in which its operations are answered alike. -/
theorem of_uses {A : S.Op → Prop} {R : σ → σ → Prop}
    (hA : ∀ op s s', A op → R s s' → (H op s).1 = (H op s').1 ∧ R (H op s).2 (H op s').2)
    (hp : p.Uses A) (hs : R s s') :
    Coupled H (fun e e' t t' => e = e' ∧ R t t') (fun a b t t' => a = b ∧ R t t') p p s s' := by
  induction p generalizing s s' with
  | done a => exact ⟨rfl, hs⟩
  | raise e => exact ⟨rfl, hs⟩
  | call op k ih =>
      obtain ⟨hresp, hnext⟩ := hA op s s' hp.1 hs
      have h := ih (H op s).1 (hp.2 _) hnext
      unfold Coupled at h ⊢
      rw [exec_call, exec_call, ← hresp]
      exact h

end Coupled

end Effects
