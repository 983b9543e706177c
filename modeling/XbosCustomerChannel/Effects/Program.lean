import Mathlib.Init

/-!
# Programs over an effect signature

A program is a tree of calls: it either returns, raises, or issues one operation of its signature
and continues with the response. Service methods are written in this monad once; the sequential
meaning (`Effects.exec`) and the interleaved one (`Effects.Pool`) are two ways of answering the
same calls.

`Uses A p` says that every operation `p` can ever issue, whatever the responses, satisfies `A`. It
is the cheap frame condition: a program that uses no writing operation changes nothing.
-/

namespace Effects

/-- Operations, each with the type of its responses. -/
structure Signature where
  Op : Type
  Resp : Op → Type

/-- A program over `S` that raises errors of `ε` and returns values of `α`. -/
inductive Program (S : Signature) (ε α : Type) : Type
  | done (a : α)
  | raise (e : ε)
  | call (op : S.Op) (k : S.Resp op → Program S ε α)

namespace Program

variable {S : Signature} {ε α β γ : Type}

/-- Run `p`, then `f` on its result. -/
protected def bind : Program S ε α → (α → Program S ε β) → Program S ε β
  | .done a, f => f a
  | .raise e, _ => .raise e
  | .call op k, f => .call op (fun r => (k r).bind f)

instance : Monad (Program S ε) where
  pure := .done
  bind := Program.bind

@[simp] theorem pure_eq (a : α) : (pure a : Program S ε α) = .done a := rfl

@[simp] theorem done_bind (a : α) (f : α → Program S ε β) : Program.done a >>= f = f a := rfl

@[simp] theorem raise_bind (e : ε) (f : α → Program S ε β) :
    Program.raise e >>= f = .raise e := rfl

@[simp] theorem call_bind (op : S.Op) (k : S.Resp op → Program S ε α) (f : α → Program S ε β) :
    Program.call op k >>= f = .call op (fun r => k r >>= f) := rfl

theorem bind_done (p : Program S ε α) : p >>= Program.done = p := by
  induction p with
  | done a => rfl
  | raise e => rfl
  | call op k ih => rw [call_bind]; congr 1; funext r; exact ih r

theorem bind_assoc' (p : Program S ε α) (f : α → Program S ε β) (g : β → Program S ε γ) :
    p >>= f >>= g = p >>= fun a => f a >>= g := by
  induction p with
  | done a => rfl
  | raise e => rfl
  | call op k ih => simp only [call_bind]; congr 1; funext r; exact ih r

instance : LawfulMonad (Program S ε) :=
  LawfulMonad.mk' _ bind_done (fun _ _ => rfl) bind_assoc'

/-- Issue one operation. -/
def perform (op : S.Op) : Program S ε (S.Resp op) := .call op .done

/-- `if p: raise e`. -/
def raiseIf (p : Prop) [Decidable p] (e : ε) : Program S ε Unit :=
  if p then .raise e else .done ()

/-- A response that may itself be an error: re-raise it, or return its value. -/
def ofExcept : Except ε α → Program S ε α
  | .ok a => .done a
  | .error e => .raise e

@[simp] theorem ofExcept_ok (a : α) : (ofExcept (.ok a) : Program S ε α) = .done a := rfl

@[simp] theorem ofExcept_error (e : ε) : (ofExcept (.error e) : Program S ε α) = .raise e := rfl

/-- The program has returned or raised. -/
instance decidableFinished : (p : Program S ε α) → Decidable (∃ r : Except ε α, p = ofExcept r)
  | .done a => isTrue ⟨.ok a, rfl⟩
  | .raise e => isTrue ⟨.error e, rfl⟩
  | .call _ _ => isFalse fun ⟨r, h⟩ => by cases r <;> cases h

instance decidableReturned : (p : Program S ε α) → Decidable (∃ a, p = .done a)
  | .done a => isTrue ⟨a, rfl⟩
  | .raise _ => isFalse fun ⟨_, h⟩ => by cases h
  | .call _ _ => isFalse fun ⟨_, h⟩ => by cases h

instance decidableEqDone [DecidableEq α] :
    (p : Program S ε α) → (a : α) → Decidable (p = .done a)
  | .done b, a => decidable_of_iff (b = a) ⟨fun h => h ▸ rfl, fun h => by cases h; rfl⟩
  | .raise _, _ => isFalse fun h => by cases h
  | .call _ _, _ => isFalse fun h => by cases h

/-- `try p except e: h e`. -/
def tryCatch : Program S ε α → (ε → Program S ε α) → Program S ε α
  | .done a, _ => .done a
  | .raise e, h => h e
  | .call op k, h => .call op (fun r => (k r).tryCatch h)

/-! ## The operations a program can issue -/

/-- Every operation `p` can issue satisfies `A`, whatever the responses are. -/
def Uses (A : S.Op → Prop) : Program S ε α → Prop
  | .done _ => True
  | .raise _ => True
  | .call op k => A op ∧ ∀ r, Uses A (k r)

namespace Uses

variable {A B : S.Op → Prop}

@[simp] theorem done (a : α) : Uses A (Program.done a : Program S ε α) := trivial

@[simp] theorem raise (e : ε) : Uses A (Program.raise e : Program S ε α) := trivial

@[simp] theorem perform_iff {op : S.Op} : Uses A (perform op : Program S ε _) ↔ A op := by
  simp [perform, Uses]

@[simp] theorem raiseIf (p : Prop) [Decidable p] (e : ε) :
    Uses A (Program.raiseIf p e : Program S ε Unit) := by
  unfold Program.raiseIf
  split <;> trivial

@[simp] theorem ofExcept (r : Except ε α) : Uses A (Program.ofExcept r : Program S ε α) := by
  cases r <;> trivial

theorem bind {p : Program S ε α} {f : α → Program S ε β} (hp : Uses A p)
    (hf : ∀ a, Uses A (f a)) : Uses A (p >>= f) := by
  induction p with
  | done a => exact hf a
  | raise e => trivial
  | call op k ih => exact ⟨hp.1, fun r => ih r (hp.2 r)⟩

theorem tryCatch {p : Program S ε α} {h : ε → Program S ε α} (hp : Uses A p)
    (hh : ∀ e, Uses A (h e)) : Uses A (p.tryCatch h) := by
  induction p with
  | done a => trivial
  | raise e => exact hh e
  | call op k ih => exact ⟨hp.1, fun r => ih r (hp.2 r)⟩

theorem all (p : Program S ε α) : Uses (fun _ => True) p := by
  induction p with
  | done a => trivial
  | raise e => trivial
  | call op k ih => exact ⟨trivial, ih⟩

theorem mono {p : Program S ε α} (hp : Uses A p) (hAB : ∀ op, A op → B op) : Uses B p := by
  induction p with
  | done a => trivial
  | raise e => trivial
  | call op k ih => exact ⟨hAB op hp.1, fun r => ih r (hp.2 r)⟩

end Uses

/-! ## The values a program can return -/

/-- Every value `p` can return satisfies `P`, whatever the responses are. -/
def Yields (P : α → Prop) : Program S ε α → Prop
  | .done a => P a
  | .raise _ => True
  | .call _ k => ∀ r, Yields P (k r)

theorem Yields.all (p : Program S ε α) : Yields (fun _ => True) p := by
  induction p with
  | done a => trivial
  | raise e => trivial
  | call op k ih => exact ih

theorem Yields.bind {P : β → Prop} {p : Program S ε α} {f : α → Program S ε β}
    (hf : ∀ a, Yields P (f a)) : Yields P (p >>= f) := by
  induction p with
  | done a => exact hf a
  | raise e => trivial
  | call op k ih => exact fun r => ih r

/-- What follows a program is only given values that the program can return. -/
theorem Yields.bind_of {Q : α → Prop} {P : β → Prop} {p : Program S ε α} {f : α → Program S ε β}
    (hp : Yields Q p) (hf : ∀ a, Q a → Yields P (f a)) : Yields P (p >>= f) := by
  induction p with
  | done a => exact hf a hp
  | raise e => trivial
  | call op k ih => exact fun r => ih r (hp r)

theorem Yields.ofExcept (r : Except ε α) :
    Yields (fun a => r = .ok a) (Program.ofExcept r : Program S ε α) := by
  cases r with
  | ok a => rfl
  | error e => trivial

/-! ## Programs that cannot fail after an effect -/

/-- `p` does not raise, whatever the responses are. -/
def NeverRaises : Program S ε α → Prop
  | .done _ => True
  | .raise _ => False
  | .call _ k => ∀ r, NeverRaises (k r)

/-- Once `p` has issued an operation satisfying `A` it does not raise any more. -/
def CommitsBy (A : S.Op → Prop) : Program S ε α → Prop
  | .done _ => True
  | .raise _ => True
  | .call op k => (A op → ∀ r, NeverRaises (k r)) ∧ ∀ r, CommitsBy A (k r)

/-- A prefix without such operations may raise as it likes. -/
theorem CommitsBy.bind {A B : S.Op → Prop} {p : Program S ε α} {f : α → Program S ε β}
    (hp : p.Uses B) (hB : ∀ op, B op → ¬ A op) (hf : ∀ a, (f a).CommitsBy A) :
    (p >>= f).CommitsBy A := by
  induction p with
  | done a => exact hf a
  | raise e => trivial
  | call op k ih => exact ⟨fun hop => absurd hop (hB op hp.1), fun r => ih r (hp.2 r)⟩

theorem CommitsBy.of_uses {A B : S.Op → Prop} {p : Program S ε α} (hp : p.Uses B)
    (hB : ∀ op, B op → ¬ A op) : p.CommitsBy A := by
  induction p with
  | done a => trivial
  | raise e => trivial
  | call op k ih => exact ⟨fun hop => absurd hop (hB op hp.1), fun r => ih r (hp.2 r)⟩

end Program

end Effects
