import XbosCustomerChannel.Effects.Program

/-!
# Running a program alone

`exec H p s` answers the calls of `p` one after another with the handler `H` over the state `s`,
with nothing in between: the meaning of a call that is not interleaved with others. `issued H p s`
lists the operations it issues, each with the state it is issued in, so that statements about what
reaches a port are statements about members of that list.

The frame rule is `exec_preserves`: a reflexive and transitive relation that every operation a
program uses respects relates the states before and after the whole program.
-/

namespace Effects

open Program

/-- How a state of `σ` answers the operations of `S`. -/
abbrev Handler (S : Signature) (σ : Type) := (op : S.Op) → σ → S.Resp op × σ

variable {S : Signature} {σ ε α β : Type} (H : Handler S σ)

/-- The result of `p` and the state it leaves. -/
def exec : Program S ε α → σ → Except ε α × σ
  | .done a, s => (.ok a, s)
  | .raise e, s => (.error e, s)
  | .call op k, s => exec (k (H op s).1) (H op s).2

/-- The operations `p` issues from `s`, in order, each with the state it is issued in. -/
def issued : Program S ε α → σ → List (S.Op × σ)
  | .done _, _ => []
  | .raise _, _ => []
  | .call op k, s => (op, s) :: issued (k (H op s).1) (H op s).2

@[simp] theorem exec_done (a : α) (s : σ) :
    exec H (.done a : Program S ε α) s = (.ok a, s) := rfl

@[simp] theorem exec_raise (e : ε) (s : σ) :
    exec H (.raise e : Program S ε α) s = (.error e, s) := rfl

@[simp] theorem exec_call (op : S.Op) (k : S.Resp op → Program S ε α) (s : σ) :
    exec H (.call op k) s = exec H (k (H op s).1) (H op s).2 := rfl

@[simp] theorem exec_ofExcept (r : Except ε α) (s : σ) :
    exec H (ofExcept r : Program S ε α) s = (r, s) := by
  cases r <;> rfl

theorem exec_raiseIf (p : Prop) [Decidable p] (e : ε) (s : σ) :
    exec H (raiseIf p e : Program S ε Unit) s = (if p then .error e else .ok (), s) := by
  unfold raiseIf
  split <;> rfl

theorem exec_bind (p : Program S ε α) (f : α → Program S ε β) (s : σ) :
    exec H (p >>= f) s =
      match exec H p s with
      | (.ok a, s') => exec H (f a) s'
      | (.error e, s') => (.error e, s') := by
  induction p generalizing s with
  | done a => rfl
  | raise e => rfl
  | call op k ih => exact ih _ _

theorem exec_bind_ok {p : Program S ε α} {s s' : σ} {a : α} (h : exec H p s = (.ok a, s'))
    (f : α → Program S ε β) : exec H (p >>= f) s = exec H (f a) s' := by
  rw [exec_bind, h]

theorem exec_bind_error {p : Program S ε α} {s s' : σ} {e : ε}
    (h : exec H p s = (.error e, s')) (f : α → Program S ε β) :
    exec H (p >>= f) s = (.error e, s') := by
  rw [exec_bind, h]

/-- A program that starts with a check either stops there or goes on as if there were none. -/
theorem exec_raiseIf_bind (p : Prop) [Decidable p] (e : ε) (f : Unit → Program S ε β) (s : σ) :
    exec H (raiseIf p e >>= f) s = if p then (.error e, s) else exec H (f ()) s := by
  rw [exec_bind, exec_raiseIf]
  split
  · next h => split at h <;> simp_all
  · next h => split at h <;> simp_all

/-- What a successful run of `p >>= f` went through. -/
theorem bind_ok_inv {p : Program S ε α} {f : α → Program S ε β} {s s' : σ} {b : β}
    (h : exec H (p >>= f) s = (.ok b, s')) :
    ∃ a s₁, exec H p s = (.ok a, s₁) ∧ exec H (f a) s₁ = (.ok b, s') := by
  rw [exec_bind] at h
  split at h
  · next a s₁ hp => exact ⟨a, s₁, hp, h⟩
  · cases h

/-- A successful run passes the values and the checks at its head. -/
theorem ofExcept_bind_ok_inv {r : Except ε α} {f : α → Program S ε β} {s s' : σ} {b : β}
    (h : exec H (ofExcept r >>= f) s = (.ok b, s')) :
    ∃ a, r = .ok a ∧ exec H (f a) s = (.ok b, s') := by
  cases r with
  | ok a => exact ⟨a, rfl, h⟩
  | error e => cases h

theorem raiseIf_bind_ok_inv {p : Prop} [Decidable p] {e : ε} {f : Unit → Program S ε β} {s s' : σ}
    {b : β} (h : exec H (raiseIf p e >>= f) s = (.ok b, s')) :
    ¬ p ∧ exec H (f ()) s = (.ok b, s') := by
  rw [exec_raiseIf_bind] at h
  split at h
  · cases h
  · next hp => exact ⟨hp, h⟩

/-- What holds of the state after `p` and is kept by what follows it holds after both. -/
theorem exec_bind_state {I : σ → Prop} {p : Program S ε α} {f : α → Program S ε β} {s : σ}
    (hp : I (exec H p s).2)
    (hf : ∀ a s', exec H p s = (.ok a, s') → I s' → I (exec H (f a) s').2) :
    I (exec H (p >>= f) s).2 := by
  rw [exec_bind]
  cases hres : exec H p s with
  | mk r s' =>
      rw [hres] at hp
      cases r with
      | ok a => exact hf a s' hres hp
      | error e => exact hp

/-- Whatever `p` raises from `s` is one of the exceptions of `P`. -/
def Program.RaisesOnly (H : Handler S σ) (P : ε → Prop) (p : Program S ε α) (s : σ) : Prop :=
  ∀ e, (exec H p s).1 = .error e → P e

namespace Program.RaisesOnly

variable {H} {P : ε → Prop}

theorem done (a : α) (s : σ) : (Program.done a : Program S ε α).RaisesOnly H P s := by
  intro e h
  cases h

theorem raise {e : ε} (h : P e) (s : σ) : (Program.raise e : Program S ε α).RaisesOnly H P s := by
  intro e' he'
  obtain rfl := Except.error.inj he'
  exact h

theorem raiseIf (p : Prop) [Decidable p] {e : ε} (h : P e) (s : σ) :
    (Program.raiseIf p e : Program S ε Unit).RaisesOnly H P s := by
  unfold Program.raiseIf
  split
  · exact raise h s
  · exact done () s

theorem bind {p : Program S ε α} {f : α → Program S ε β} {s : σ} (hp : p.RaisesOnly H P s)
    (hf : ∀ a s', exec H p s = (.ok a, s') → (f a).RaisesOnly H P s') :
    (p >>= f).RaisesOnly H P s := by
  intro e h
  rw [exec_bind] at h
  cases hres : exec H p s with
  | mk r s' =>
      rw [hres] at h
      cases r with
      | ok a => exact hf a s' hres e h
      | error e' =>
          obtain rfl := Except.error.inj h
          exact hp e' (by rw [hres])

end Program.RaisesOnly

theorem exec_tryCatch (p : Program S ε α) (h : ε → Program S ε α) (s : σ) :
    exec H (p.tryCatch h) s =
      match exec H p s with
      | (.ok a, s') => (.ok a, s')
      | (.error e, s') => exec H (h e) s' := by
  induction p generalizing s with
  | done a => rfl
  | raise e => rfl
  | call op k ih => exact ih _ _

/-- `p` for its effects only. -/
def Program.void (p : Program S ε α) : Program S ε Unit := p >>= fun _ => .done ()

@[simp] theorem exec_void_state (p : Program S ε α) (s : σ) :
    (exec H p.void s).2 = (exec H p s).2 := by
  unfold Program.void
  rw [exec_bind]
  obtain ⟨r, s'⟩ := exec H p s
  cases r <;> rfl

/-! ## The operations issued -/

@[simp] theorem issued_done (a : α) (s : σ) : issued H (.done a : Program S ε α) s = [] := rfl

@[simp] theorem issued_raise (e : ε) (s : σ) : issued H (.raise e : Program S ε α) s = [] := rfl

@[simp] theorem issued_call (op : S.Op) (k : S.Resp op → Program S ε α) (s : σ) :
    issued H (.call op k) s = (op, s) :: issued H (k (H op s).1) (H op s).2 := rfl

@[simp] theorem issued_ofExcept (r : Except ε α) (s : σ) :
    issued H (ofExcept r : Program S ε α) s = [] := by
  cases r <;> rfl

theorem issued_bind (p : Program S ε α) (f : α → Program S ε β) (s : σ) :
    issued H (p >>= f) s =
      issued H p s ++
        match exec H p s with
        | (.ok a, s') => issued H (f a) s'
        | (.error _, _) => [] := by
  induction p generalizing s with
  | done a => rfl
  | raise e => rfl
  | call op k ih => simp only [call_bind, issued_call, exec_call, List.cons_append, ih]

theorem issued_tryCatch (p : Program S ε α) (h : ε → Program S ε α) (s : σ) :
    issued H (p.tryCatch h) s =
      issued H p s ++
        match exec H p s with
        | (.ok _, _) => []
        | (.error e, s') => issued H (h e) s' := by
  induction p generalizing s with
  | done a => rfl
  | raise e => rfl
  | call op k ih => simp only [Program.tryCatch, issued_call, exec_call, List.cons_append, ih]

@[simp] theorem issued_void (p : Program S ε α) (s : σ) :
    issued H p.void s = issued H p s := by
  unfold Program.void
  rw [issued_bind]
  split <;> simp

/-- A program issues only operations it uses. -/
theorem Program.Uses.of_issued {A : S.Op → Prop} {p : Program S ε α} (hp : p.Uses A) {s : σ}
    {o : S.Op × σ} (ho : o ∈ issued H p s) : A o.1 := by
  induction p generalizing s with
  | done a => cases ho
  | raise e => cases ho
  | call op k ih =>
      rcases List.mem_cons.mp ho with rfl | ho
      · exact hp.1
      · exact ih _ (hp.2 _) ho

theorem mem_issued_bind_left {p : Program S ε α} {s : σ} {o : S.Op × σ} (ho : o ∈ issued H p s)
    (f : α → Program S ε β) : o ∈ issued H (p >>= f) s := by
  rw [issued_bind]
  exact List.mem_append_left _ ho

theorem mem_issued_bind_of_ok {p : Program S ε α} {f : α → Program S ε β} {s s' : σ} {a : α}
    (hp : exec H p s = (.ok a, s')) {o : S.Op × σ} (ho : o ∈ issued H (f a) s') :
    o ∈ issued H (p >>= f) s := by
  rw [issued_bind, hp]
  exact List.mem_append_right _ ho

/-- A program returns only values it can return. -/
theorem Program.Yields.of_exec {P : α → Prop} {p : Program S ε α} (hp : p.Yields P) {s s' : σ} {a : α}
    (h : exec H p s = (.ok a, s')) : P a := by
  induction p generalizing s with
  | done b =>
      cases h
      exact hp
  | raise e => cases h
  | call op k ih => exact ih _ (hp _) h

/-! ## Frame rules -/

/-- Every state a program issues an operation in, and the state it ends in, are related to the
state it starts in by any preorder that its operations respect. -/
theorem exec_preserves {R : σ → σ → Prop} (hrefl : ∀ s, R s s)
    (htrans : ∀ a b c, R a b → R b c → R a c) {A : S.Op → Prop}
    (hA : ∀ op s, A op → R s (H op s).2) {p : Program S ε α} (hp : p.Uses A) (s : σ) :
    R s (exec H p s).2 := by
  induction p generalizing s with
  | done a => exact hrefl s
  | raise e => exact hrefl s
  | call op k ih => exact htrans _ _ _ (hA op s hp.1) (ih _ (hp.2 _) _)

/-- What no operation of a program changes is as it was. -/
theorem exec_keeps {f : σ → β} {A : S.Op → Prop} (hA : ∀ op s, A op → f (H op s).2 = f s)
    {p : Program S ε α} (hp : p.Uses A) (s : σ) : f (exec H p s).2 = f s := by
  induction p generalizing s with
  | done a => rfl
  | raise e => rfl
  | call op k ih => exact (ih _ (hp.2 _) _).trans (hA op s hp.1)

theorem issued_preserves {R : σ → σ → Prop} (hrefl : ∀ s, R s s)
    (htrans : ∀ a b c, R a b → R b c → R a c) {A : S.Op → Prop}
    (hA : ∀ op s, A op → R s (H op s).2) {p : Program S ε α} (hp : p.Uses A) {s : σ}
    {o : S.Op × σ} (ho : o ∈ issued H p s) : R s o.2 := by
  induction p generalizing s with
  | done a => cases ho
  | raise e => cases ho
  | call op k ih =>
      rcases List.mem_cons.mp ho with rfl | ho
      · exact hrefl _
      · exact htrans _ _ _ (hA op s hp.1) (ih _ (hp.2 _) ho)

/-- A program whose operations only read leaves the state as it was. -/
theorem exec_state_of_reads {A : S.Op → Prop} (hA : ∀ op s, A op → (H op s).2 = s)
    {p : Program S ε α} (hp : p.Uses A) (s : σ) : (exec H p s).2 = s :=
  (exec_preserves H (R := fun s s' => s' = s) (fun _ => rfl) (fun _ _ _ h₁ h₂ => h₂.trans h₁)
    hA hp s)

/-- A property of states that every operation keeps is kept by the whole program. -/
theorem exec_invariant {I : σ → Prop} {A : S.Op → Prop}
    (hA : ∀ op s, A op → I s → I (H op s).2) {p : Program S ε α} (hp : p.Uses A) {s : σ}
    (hs : I s) : I (exec H p s).2 :=
  exec_preserves H (R := fun s s' => I s → I s') (fun _ h => h) (fun _ _ _ h₁ h₂ h => h₂ (h₁ h))
    hA hp s hs

/-! ## Properties of the operations issued so far -/

/-- `p` keeps a property of the operations issued so far and of the state they led to. -/
def Program.Traced (I : List (S.Op × σ) → σ → Prop) (p : Program S ε α) : Prop :=
  ∀ T s, I T s → I (T ++ issued H p s) (exec H p s).2

namespace Program

variable {H} {I : List (S.Op × σ) → σ → Prop}

theorem Traced.bind {p : Program S ε α} {f : α → Program S ε β} (hp : p.Traced H I)
    (hf : ∀ a, (f a).Traced H I) : (p >>= f).Traced H I := by
  intro T s hs
  have h := hp T s hs
  rw [issued_bind, exec_bind]
  cases hres : exec H p s with
  | mk r s' =>
      rw [hres] at h
      cases r with
      | ok a => simpa only [List.append_assoc] using hf a _ _ h
      | error e => simpa only [List.append_nil] using h

theorem Traced.done (a : α) : (Program.done a : Program S ε α).Traced H I := by
  intro T s hs
  simpa using hs

theorem Traced.void {p : Program S ε α} (hp : p.Traced H I) : p.void.Traced H I :=
  hp.bind fun _ => Traced.done ()

/-- A program keeps what each operation it uses keeps. -/
theorem Traced.of_uses {A : S.Op → Prop}
    (hA : ∀ op T s, A op → I T s → I (T ++ [(op, s)]) (H op s).2) {p : Program S ε α}
    (hp : p.Uses A) : p.Traced H I := by
  induction p with
  | done a => exact Traced.done a
  | raise e =>
      intro T s hs
      simpa using hs
  | call op k ih =>
      intro T s hs
      have h := ih (H op s).1 (hp.2 _) _ _ (hA op T s hp.1 hs)
      simpa only [issued_call, exec_call, List.append_assoc, List.singleton_append] using h

end Program

end Effects
