import Mathlib.Data.Fintype.Basic
import Mathlib.Logic.Function.Basic
import XbosCustomerChannel.Effects.Execution

/-!
# Interleaved programs

A pool is one shared state and one program per client. A turn runs one operation of one client, or
changes the state from outside; a schedule is a list of turns, chosen by nobody in particular.

Reasoning is rely/guarantee. `Safe R C G Q p s` says: from `s`, as long as the others only move
the state along `R` and every operation `p` issues meets the schedule's condition `C`, those
operations meet `G`, and when `p` finishes its outcome meets `Q`. If what each client guarantees
is something every other client may rely on, all clients stay safe along every admitted schedule
(`Pool.safe_run`), and a finished client's postcondition holds in the current state
(`Pool.post_of_done`).
-/

namespace Effects

open Program

variable {S : Signature} {σ ε α β ι : Type}

/-- A shared state and the clients' remaining programs. -/
structure Pool (S : Signature) (σ ε α ι : Type) where
  state : σ
  threads : ι → Program S ε α

/-- One turn: a client issues its next operation, or the state is changed from outside. -/
inductive Turn (ι σ : Type)
  | thread (i : ι)
  | outside (change : σ → σ)

namespace Pool

variable [DecidableEq ι] (H : Handler S σ)

/-- A finished client's turn changes nothing. -/
def step (P : Pool S σ ε α ι) : Turn ι σ → Pool S σ ε α ι
  | .thread i =>
      match P.threads i with
      | .call op k =>
          { state := (H op P.state).2
            threads := Function.update P.threads i (k (H op P.state).1) }
      | _ => P
  | .outside change => { P with state := change P.state }

def run (P : Pool S σ ε α ι) (turns : List (Turn ι σ)) : Pool S σ ε α ι :=
  turns.foldl (step H) P

@[simp] theorem run_nil (P : Pool S σ ε α ι) : P.run H [] = P := rfl

@[simp] theorem run_cons (P : Pool S σ ε α ι) (t : Turn ι σ) (ts : List (Turn ι σ)) :
    P.run H (t :: ts) = (P.step H t).run H ts := rfl

theorem run_append (P : Pool S σ ε α ι) (ts us : List (Turn ι σ)) :
    P.run H (ts ++ us) = (P.run H ts).run H us := List.foldl_append

theorem step_thread_call {P : Pool S σ ε α ι} {i : ι} {op : S.Op}
    {k : S.Resp op → Program S ε α} (h : P.threads i = .call op k) :
    P.step H (.thread i) =
      { state := (H op P.state).2
        threads := Function.update P.threads i (k (H op P.state).1) } := by
  simp only [step, h]

/-- A turn of a client that has finished. -/
theorem step_thread_of_not_call {P : Pool S σ ε α ι} {i : ι}
    (h : ∀ op k, P.threads i ≠ .call op k) : P.step H (.thread i) = P := by
  unfold step
  dsimp only
  split
  · next op k hop => exact absurd hop (h op k)
  · rfl

/-- The schedule issues only operations that meet `C`, and outside changes stay within `E`. -/
def Admits (C : S.Op → σ → Prop) (E : σ → σ → Prop) :
    Pool S σ ε α ι → List (Turn ι σ) → Prop
  | _, [] => True
  | P, .thread i :: ts =>
      (∀ op k, P.threads i = .call op k → C op P.state) ∧
        Admits C E (P.step H (.thread i)) ts
  | P, .outside change :: ts =>
      E P.state (change P.state) ∧ Admits C E (P.step H (.outside change)) ts

/-- What a client would issue next meets a condition. -/
def decidableNext {C : S.Op → σ → Prop} [∀ op s, Decidable (C op s)] (P : Pool S σ ε α ι) (i : ι) :
    Decidable (∀ op k, P.threads i = .call op k → C op P.state) :=
  match h : P.threads i with
  | .call op _ =>
      decidable_of_iff (C op P.state)
        ⟨fun hc op' k' he => by cases he; exact hc, fun hall => hall op _ rfl⟩
  | .done _ => isTrue fun _ _ he => by cases he
  | .raise _ => isTrue fun _ _ he => by cases he

instance decidableAdmits {C : S.Op → σ → Prop} {E : σ → σ → Prop}
    [∀ op s, Decidable (C op s)] [∀ s s', Decidable (E s s')] :
    (P : Pool S σ ε α ι) → (ts : List (Turn ι σ)) → Decidable (P.Admits H C E ts)
  | _, [] => isTrue trivial
  | P, .thread i :: ts =>
      @instDecidableAnd _ _ (decidableNext P i) (decidableAdmits (P.step H (.thread i)) ts)
  | P, .outside change :: ts =>
      @instDecidableAnd _ _ inferInstance (decidableAdmits (P.step H (.outside change)) ts)

theorem admits_append {C : S.Op → σ → Prop} {E : σ → σ → Prop} {P : Pool S σ ε α ι}
    {ts us : List (Turn ι σ)} :
    P.Admits H C E (ts ++ us) ↔ P.Admits H C E ts ∧ (P.run H ts).Admits H C E us := by
  induction ts generalizing P with
  | nil => exact (and_iff_right trivial).symm
  | cons t ts ih => cases t <;> simp only [List.cons_append, Admits, run_cons, ih, and_assoc]

theorem Admits.mono {C C' : S.Op → σ → Prop} {E E' : σ → σ → Prop}
    (hC : ∀ op s, C op s → C' op s) (hE : ∀ s s', E s s' → E' s s') {P : Pool S σ ε α ι}
    {ts : List (Turn ι σ)} (h : P.Admits H C E ts) : P.Admits H C' E' ts := by
  induction ts generalizing P with
  | nil => trivial
  | cons t ts ih =>
      cases t with
      | thread i => exact ⟨fun op k hop => hC op _ (h.1 op k hop), ih h.2⟩
      | outside change => exact ⟨hE _ _ h.1, ih h.2⟩

/-- A schedule whose outside changes stay within `E` in every state. -/
theorem admits_of_forall {E : σ → σ → Prop} {ts : List (Turn ι σ)}
    (h : ∀ change, .outside change ∈ ts → ∀ s, E s (change s)) (P : Pool S σ ε α ι) :
    P.Admits H (fun _ _ => True) E ts := by
  induction ts generalizing P with
  | nil => trivial
  | cons t ts ih =>
      have hrest (P : Pool S σ ε α ι) : P.Admits H (fun _ _ => True) E ts :=
        ih (fun change hc => h change (List.mem_cons_of_mem _ hc)) P
      cases t with
      | thread i => exact ⟨fun _ _ _ => trivial, hrest _⟩
      | outside change => exact ⟨h change List.mem_cons_self _, hrest _⟩

/-- Every client has returned or raised. -/
def Finished (P : Pool S σ ε α ι) : Prop :=
  ∀ i, ∃ r : Except ε α, P.threads i = ofExcept r

instance decidableFinished [Fintype ι] (P : Pool S σ ε α ι) : Decidable P.Finished :=
  inferInstanceAs (Decidable (∀ i, ∃ r : Except ε α, P.threads i = ofExcept r))

end Pool

/-! ## Rely/guarantee -/

section Safe

variable (H : Handler S σ) (R : σ → σ → Prop) (C G : S.Op → σ → Prop)

/-- See the module's introduction. -/
def Safe (Q : Except ε α → σ → Prop) : Program S ε α → σ → Prop
  | .done a, s => ∀ s', R s s' → Q (.ok a) s'
  | .raise e, s => ∀ s', R s s' → Q (.error e) s'
  | .call op k, s =>
      ∀ s', R s s' → C op s' → G op s' ∧ Safe Q (k (H op s').1) (H op s').2

variable {H R C G} {Q Q' : Except ε α → σ → Prop}

/-- The others' moves keep a client safe. -/
theorem Safe.rely (htrans : ∀ a b c, R a b → R b c → R a c) {p : Program S ε α} {s s' : σ}
    (h : Safe H R C G Q p s) (hs : R s s') : Safe H R C G Q p s' := by
  cases p with
  | done a => exact fun s'' hs'' => h s'' (htrans _ _ _ hs hs'')
  | raise e => exact fun s'' hs'' => h s'' (htrans _ _ _ hs hs'')
  | call op k => exact fun s'' hs'' => h s'' (htrans _ _ _ hs hs'')

theorem Safe.mono {p : Program S ε α} {s : σ} (h : Safe H R C G Q p s)
    (hQ : ∀ r s, Q r s → Q' r s) : Safe H R C G Q' p s := by
  induction p generalizing s with
  | done a => exact fun s' hs' => hQ _ _ (h s' hs')
  | raise e => exact fun s' hs' => hQ _ _ (h s' hs')
  | call op k ih => exact fun s' hs' hc => ⟨(h s' hs' hc).1, ih _ (h s' hs' hc).2⟩

/-- Sequencing: what the first program establishes must make the rest safe. -/
theorem Safe.bind {p : Program S ε α} {f : α → Program S ε β} {s : σ}
    {Q : Except ε β → σ → Prop}
    (h : Safe H R C G (fun r s' =>
      match r with
      | .ok a => Safe H R C G Q (f a) s'
      | .error e => Q (.error e) s') p s)
    (hrefl : ∀ s, R s s) : Safe H R C G Q (p >>= f) s := by
  induction p generalizing s with
  | done a => exact h s (hrefl s)
  | raise e => exact h
  | call op k ih => exact fun s' hs' hc => ⟨(h s' hs' hc).1, ih _ (h s' hs' hc).2⟩

theorem Safe.raiseIf_bind {q : Prop} [Decidable q] {e : ε} {f : Unit → Program S ε β} {s : σ}
    {Q : Except ε β → σ → Prop} (herror : ∀ s', R s s' → Q (.error e) s')
    (hf : ¬ q → Safe H R C G Q (f ()) s) : Safe H R C G Q (raiseIf q e >>= f) s := by
  unfold raiseIf
  split
  · exact herror
  · next hq => exact hf hq

theorem Safe.ofExcept_bind {r : Except ε α} {f : α → Program S ε β} {s : σ}
    {Q : Except ε β → σ → Prop} (herror : ∀ e s', R s s' → Q (.error e) s')
    (hf : ∀ a, r = .ok a → Safe H R C G Q (f a) s) : Safe H R C G Q (ofExcept r >>= f) s := by
  cases r with
  | ok a => exact hf a rfl
  | error e => exact herror e

theorem Safe.tryCatch {p : Program S ε α} {h : ε → Program S ε α} {s : σ}
    (hp : Safe H R C G (fun r s' =>
      match r with
      | .ok a => Q (.ok a) s'
      | .error e => Safe H R C G Q (h e) s') p s)
    (hrefl : ∀ s, R s s) : Safe H R C G Q (p.tryCatch h) s := by
  induction p generalizing s with
  | done a => exact hp
  | raise e => exact hp s (hrefl s)
  | call op k ih => exact fun s' hs' hc => ⟨(hp s' hs' hc).1, ih _ (hp s' hs' hc).2⟩

/-- A program that only issues operations satisfying `A`, each of which meets the guarantee and
keeps `I`, is safe in every state where the stable fact `I` holds, and ends in one. -/
theorem Safe.of_uses {A : S.Op → Prop} {I : σ → Prop} {P : α → Prop}
    (hI : ∀ s s', R s s' → I s → I s')
    (hA : ∀ op s, A op → I s → C op s → G op s ∧ I (H op s).2)
    {p : Program S ε α} (hp : p.Uses A) (hP : p.Yields P) {s : σ} (hs : I s) :
    Safe H R C G (fun r s' => I s' ∧ ∀ a, r = .ok a → P a) p s := by
  induction p generalizing s with
  | done a =>
      intro s' hs'
      refine ⟨hI _ _ hs' hs, fun b hb => ?_⟩
      obtain rfl := Except.ok.inj hb
      exact hP
  | raise e => exact fun s' hs' => ⟨hI _ _ hs' hs, fun b hb => by cases hb⟩
  | call op k ih =>
      intro s' hs' hc
      have hop := hA op s' hp.1 (hI _ _ hs' hs) hc
      exact ⟨hop.1, ih _ (hp.2 _) (hP _) hop.2⟩

/-- Sequencing after a program that only issues operations satisfying `A`. -/
theorem Safe.bind_of_uses {A : S.Op → Prop} {I : σ → Prop} {P : α → Prop}
    {Q : Except ε β → σ → Prop} (hrefl : ∀ s, R s s) (hI : ∀ s s', R s s' → I s → I s')
    (hA : ∀ op s, A op → I s → C op s → G op s ∧ I (H op s).2)
    {p : Program S ε α} (hp : p.Uses A) (hP : p.Yields P) {f : α → Program S ε β}
    (hf : ∀ a s, P a → I s → Safe H R C G Q (f a) s) (he : ∀ e s, I s → Q (.error e) s)
    {s : σ} (hs : I s) : Safe H R C G Q (p >>= f) s := by
  refine Safe.bind ((Safe.of_uses hI hA hp hP hs).mono fun r s' h => ?_) hrefl
  cases r with
  | ok a => exact hf a s' (h.2 a rfl) h.1
  | error e => exact he e s' h.1

/-- A client whose own steps are moves that it relies on keeps what is stable under them. -/
theorem Safe.keep {I : σ → Prop} (hself : ∀ op s, C op s → G op s → R s (H op s).2)
    (hI : ∀ s s', R s s' → I s → I s') {p : Program S ε α} {s : σ} (h : Safe H R C G Q p s)
    (hs : I s) : Safe H R C G (fun r s' => I s' ∧ Q r s') p s := by
  induction p generalizing s with
  | done a => exact fun s' hs' => ⟨hI _ _ hs' hs, h s' hs'⟩
  | raise e => exact fun s' hs' => ⟨hI _ _ hs' hs, h s' hs'⟩
  | call op k ih =>
      intro s' hs' hc
      obtain ⟨hguarantee, hrest⟩ := h s' hs' hc
      exact ⟨hguarantee, ih _ hrest (hI _ _ (hself op s' hc hguarantee) (hI _ _ hs' hs))⟩

/-- A client that is safe by one contract is so by another that relies on more, if what it issues
meets the guarantee of the other; on the way it keeps `I`. -/
theorem Safe.transport {R' : σ → σ → Prop} {C' G' : S.Op → σ → Prop} {A : S.Op → Prop}
    {I : σ → Prop} (hR : ∀ s s', R' s s' → R s s') (hC : ∀ op s, C' op s → C op s)
    (hI : ∀ s s', R' s s' → I s → I s')
    (hA : ∀ op s, A op → I s → C' op s → G' op s ∧ I (H op s).2)
    {p : Program S ε α} (hp : p.Uses A) {s : σ} (h : Safe H R C G Q p s) (hs : I s) :
    Safe H R' C' G' (fun r s' => I s' ∧ Q r s') p s := by
  induction p generalizing s with
  | done a => exact fun s' hs' => ⟨hI _ _ hs' hs, h s' (hR _ _ hs')⟩
  | raise e => exact fun s' hs' => ⟨hI _ _ hs' hs, h s' (hR _ _ hs')⟩
  | call op k ih =>
      intro s' hs' hc
      have hop := hA op s' hp.1 (hI _ _ hs' hs) hc
      exact ⟨hop.1, ih _ (hp.2 _) (h s' (hR _ _ hs') (hC _ _ hc)).2 hop.2⟩

end Safe

/-! ## Pools of safe clients -/

namespace Pool

variable [DecidableEq ι] {H : Handler S σ} {C : S.Op → σ → Prop} {E : σ → σ → Prop}
variable {R : ι → σ → σ → Prop} {G : ι → S.Op → σ → Prop} {Q : ι → Except ε α → σ → Prop}

/-- What makes the clients' contracts fit together. -/
structure Compatible (H : Handler S σ) (C : S.Op → σ → Prop) (E : σ → σ → Prop)
    (R : ι → σ → σ → Prop) (G : ι → S.Op → σ → Prop) : Prop where
  refl : ∀ i s, R i s s
  trans : ∀ i a b c, R i a b → R i b c → R i a c
  thread : ∀ i j op s, i ≠ j → C op s → G j op s → R i s (H op s).2
  outside : ∀ i s s', E s s' → R i s s'

/-- Every client is safe in the current state. -/
def AllSafe (H : Handler S σ) (C : S.Op → σ → Prop) (R : ι → σ → σ → Prop)
    (G : ι → S.Op → σ → Prop) (Q : ι → Except ε α → σ → Prop) (P : Pool S σ ε α ι) : Prop :=
  ∀ i, Safe H (R i) C (G i) (Q i) (P.threads i) P.state

omit [DecidableEq ι] in
theorem AllSafe.guarantee (hc : Compatible H C E R G) {P : Pool S σ ε α ι}
    (h : P.AllSafe H C R G Q) {i : ι} {op : S.Op} {k : S.Resp op → Program S ε α}
    (hi : P.threads i = .call op k) (hC : C op P.state) : G i op P.state := by
  have hs := h i
  rw [hi] at hs
  exact (hs _ (hc.refl i _) hC).1

theorem AllSafe.step_thread (hc : Compatible H C E R G) {P : Pool S σ ε α ι}
    (h : P.AllSafe H C R G Q) (i : ι) (hC : ∀ op k, P.threads i = .call op k → C op P.state) :
    (P.step H (.thread i)).AllSafe H C R G Q := by
  by_cases hcall : ∃ op k, P.threads i = .call op k
  · obtain ⟨op, k, hi⟩ := hcall
    have hop := hC op k hi
    have hG := h.guarantee hc hi hop
    intro j
    rw [step_thread_call H hi]
    by_cases hj : j = i
    · subst hj
      have hs := h j
      rw [hi] at hs
      simpa only [Function.update_self] using (hs _ (hc.refl j _) hop).2
    · simpa only [Function.update_of_ne hj] using
        (h j).rely (hc.trans j) (hc.thread j i op _ hj hop hG)
  · rw [step_thread_of_not_call H (fun op k hk => hcall ⟨op, k, hk⟩)]
    exact h

theorem AllSafe.step_outside (hc : Compatible H C E R G) {P : Pool S σ ε α ι}
    (h : P.AllSafe H C R G Q) {change : σ → σ} (hE : E P.state (change P.state)) :
    (P.step H (.outside change)).AllSafe H C R G Q :=
  fun i => (h i).rely (hc.trans i) (hc.outside i _ _ hE)

/-- Clients whose contracts fit together stay safe along every admitted schedule. -/
theorem safe_run (hc : Compatible H C E R G) {turns : List (Turn ι σ)} {P : Pool S σ ε α ι}
    (h : P.AllSafe H C R G Q) (hrun : P.Admits H C E turns) :
    (P.run H turns).AllSafe H C R G Q := by
  induction turns generalizing P with
  | nil => exact h
  | cons t ts ih =>
      cases t with
      | thread i => exact ih (h.step_thread hc i hrun.1) hrun.2
      | outside change => exact ih (h.step_outside hc hrun.1) hrun.2

/-- What every admitted turn respects relates the first state to the last. -/
theorem AllSafe.run_rely (hc : Compatible H C E R G) {K : σ → σ → Prop} (hrefl : ∀ s, K s s)
    (htrans : ∀ a b c, K a b → K b c → K a c)
    (hthread : ∀ i op s, C op s → G i op s → K s (H op s).2)
    (houtside : ∀ s s', E s s' → K s s') {turns : List (Turn ι σ)} {P : Pool S σ ε α ι}
    (h : P.AllSafe H C R G Q) (hrun : P.Admits H C E turns) : K P.state (P.run H turns).state := by
  induction turns generalizing P with
  | nil => exact hrefl _
  | cons t ts ih =>
      cases t with
      | outside change =>
          exact htrans _ _ _ (houtside _ _ hrun.1) (ih (h.step_outside hc hrun.1) hrun.2)
      | thread i =>
          refine htrans _ _ _ ?_ (ih (h.step_thread hc i hrun.1) hrun.2)
          by_cases hcall : ∃ op k, P.threads i = .call op k
          · obtain ⟨op, k, hi⟩ := hcall
            rw [step_thread_call H hi]
            exact hthread i op _ (hrun.1 op k hi) (h.guarantee hc hi (hrun.1 op k hi))
          · rw [step_thread_of_not_call H fun op k hk => hcall ⟨op, k, hk⟩]
            exact hrefl _

omit [DecidableEq ι] in
/-- The postcondition of a finished client holds in the current state. -/
theorem AllSafe.post_of_done (hc : Compatible H C E R G) {P : Pool S σ ε α ι}
    (h : P.AllSafe H C R G Q) {i : ι} {r : Except ε α} (hi : P.threads i = ofExcept r) :
    Q i r P.state := by
  have hs := h i
  rw [hi] at hs
  cases r with
  | ok a => exact hs _ (hc.refl i _)
  | error e => exact hs _ (hc.refl i _)

/-! ## Clients that cannot fail after an effect -/

section CommitsBy

variable {A : S.Op → Prop} {P : Pool S σ ε α ι}

theorem commitsBy_step (h : ∀ i, (P.threads i).CommitsBy A) (t : Turn ι σ) (i : ι) :
    ((P.step H t).threads i).CommitsBy A := by
  cases t with
  | outside change => exact h i
  | thread j =>
      by_cases hcall : ∃ op k, P.threads j = .call op k
      · obtain ⟨op, k, hj⟩ := hcall
        have hcommits := h j
        rw [hj] at hcommits
        rw [step_thread_call H hj]
        by_cases hij : i = j
        · subst hij
          simpa only [Function.update_self] using hcommits.2 _
        · simpa only [Function.update_of_ne hij] using h i
      · rw [step_thread_of_not_call H fun op k hk => hcall ⟨op, k, hk⟩]
        exact h i

theorem neverRaises_step {i : ι} (h : (P.threads i).NeverRaises) (t : Turn ι σ) :
    ((P.step H t).threads i).NeverRaises := by
  cases t with
  | outside change => exact h
  | thread j =>
      by_cases hcall : ∃ op k, P.threads j = .call op k
      · obtain ⟨op, k, hj⟩ := hcall
        rw [step_thread_call H hj]
        by_cases hij : i = j
        · subst hij
          rw [hj] at h
          simpa only [Function.update_self] using h _
        · simpa only [Function.update_of_ne hij] using h
      · rw [step_thread_of_not_call H fun op k hk => hcall ⟨op, k, hk⟩]
        exact h

theorem neverRaises_run {i : ι} (h : (P.threads i).NeverRaises) (ts : List (Turn ι σ)) :
    ((P.run H ts).threads i).NeverRaises := by
  induction ts generalizing P with
  | nil => exact h
  | cons t ts ih => exact ih (neverRaises_step h t)

/-- The client that issues such an operation cannot raise afterwards. -/
theorem neverRaises_of_commits (h : ∀ i, (P.threads i).CommitsBy A) {i : ι} {op : S.Op}
    {k : S.Resp op → Program S ε α} (hi : P.threads i = .call op k) (hop : A op) :
    ((P.step H (.thread i)).threads i).NeverRaises := by
  have hcommits := h i
  rw [hi] at hcommits
  rw [step_thread_call H hi]
  simpa only [Function.update_self] using hcommits.1 hop _

omit [DecidableEq ι] in
theorem returned_of_neverRaises {i : ι} (h : (P.threads i).NeverRaises) (hfinished : P.Finished) :
    ∃ a, P.threads i = .done a := by
  obtain ⟨r, hr⟩ := hfinished i
  cases r with
  | ok a => exact ⟨a, hr⟩
  | error e =>
      rw [hr] at h
      exact h.elim

end CommitsBy

/-! ## Clients that issue nothing -/

section Busy

variable {H : Handler S σ} {busy : ι → Prop} {P : Pool S σ ε α ι}

/-- The turn is one of a busy client, or from outside. -/
def TurnOf (busy : ι → Prop) : Turn ι σ → Prop
  | .thread i => busy i
  | .outside _ => True

omit [DecidableEq ι] in
@[simp] theorem turnOf_thread {i : ι} : TurnOf (σ := σ) busy (.thread i) ↔ busy i := Iff.rfl

omit [DecidableEq ι] in
@[simp] theorem turnOf_outside {change : σ → σ} : TurnOf busy (.outside change) := trivial

/-- The turns of clients that have nothing to do may be left out. -/
theorem run_filter_busy [DecidablePred (TurnOf (σ := σ) busy)]
    (hidle : ∀ i, ¬ busy i → ∀ op k, P.threads i ≠ .call op k) (ts : List (Turn ι σ)) :
    P.run H ts = P.run H (ts.filter fun t => TurnOf busy t) := by
  induction ts generalizing P with
  | nil => rfl
  | cons t ts ih =>
      cases t with
      | outside change =>
          rw [List.filter_cons_of_pos (by simp), run_cons, run_cons]
          exact ih hidle
      | thread i =>
          by_cases hbusy : busy i
          · rw [List.filter_cons_of_pos (by simpa using hbusy), run_cons, run_cons]
            apply ih
            intro j hj
            by_cases hcall : ∃ op k, P.threads i = .call op k
            · obtain ⟨op, k, hi⟩ := hcall
              have hne : j ≠ i := fun heq => hj (heq ▸ hbusy)
              rw [step_thread_call H hi]
              simpa only [Function.update_of_ne hne] using hidle j hj
            · rw [step_thread_of_not_call H fun op k hi => hcall ⟨op, k, hi⟩]
              exact hidle j hj
          · rw [List.filter_cons_of_neg (by simpa using hbusy), run_cons,
              step_thread_of_not_call H (hidle i hbusy)]
            exact ih hidle

/-- Such a client stays as it is. -/
theorem threads_of_not_call {i : ι} (hi : ∀ op k, P.threads i ≠ .call op k) (ts : List (Turn ι σ)) :
    (P.run H ts).threads i = P.threads i := by
  induction ts generalizing P with
  | nil => rfl
  | cons t ts ih =>
      have hstep : (P.step H t).threads i = P.threads i := by
        cases t with
        | outside change => rfl
        | thread j =>
            by_cases hcall : ∃ op k, P.threads j = .call op k
            · obtain ⟨op, k, hj⟩ := hcall
              have hne : i ≠ j := by
                rintro rfl
                exact hi op k hj
              rw [step_thread_call H hj]
              exact Function.update_of_ne hne _ _
            · rw [step_thread_of_not_call H fun op k hj => hcall ⟨op, k, hj⟩]
      rw [run_cons, ih (by rwa [hstep]), hstep]

end Busy

end Pool

end Effects
