import XbosCustomerChannel.Data.History
import XbosCustomerChannel.Effects.Interleaving

/-!
# What one client does among others

`Path H p T q` says that `p` can issue the operations of `T`, each answered in the state beside it,
and be left with `q`. The states need not follow from one another, as others may move in between. In
a pool each client goes along a path of its own program (`Pool.path_run`), so that what holds of all
paths of a program holds of what a client with this program has issued, whatever the schedule.
-/

namespace Effects

open Program Data

variable {S : Signature} {σ ε α β ι : Type} {H : Handler S σ}

/-- See the module's introduction. -/
inductive Path (H : Handler S σ) : Program S ε α → List (S.Op × σ) → Program S ε α → Prop
  | nil (p : Program S ε α) : Path H p [] p
  | step {op : S.Op} {k : S.Resp op → Program S ε α} {s : σ} {T : List (S.Op × σ)}
      {q : Program S ε α} : Path H (k (H op s).1) T q → Path H (.call op k) ((op, s) :: T) q

namespace Path

variable {p q : Program S ε α} {T : List (S.Op × σ)}

/-- One operation more. -/
theorem concat {op : S.Op} {k : S.Resp op → Program S ε α} (h : Path H p T (.call op k)) (s : σ) :
    Path H p (T ++ [(op, s)]) (k (H op s).1) := by
  generalize hq : Program.call op k = q at h
  induction h with
  | nil p =>
      subst hq
      exact .step (.nil _)
  | step _ ih => exact .step (ih hq)

theorem of_done {a : α} (h : Path H (.done a : Program S ε α) T q) : T = [] ∧ q = .done a := by
  cases h
  exact ⟨rfl, rfl⟩

theorem of_raise {e : ε} (h : Path H (.raise e : Program S ε α) T q) : T = [] ∧ q = .raise e := by
  cases h
  exact ⟨rfl, rfl⟩

/-- A path of `p >>= f` stays within `p`, or goes through it and on within `f`. -/
theorem of_bind {f : α → Program S ε β} {q : Program S ε β} (h : Path H (p >>= f) T q) :
    (∃ q', Path H p T q') ∨
      ∃ a T₁ T₂, T = T₁ ++ T₂ ∧ Path H p T₁ (.done a) ∧ Path H (f a) T₂ q := by
  induction p generalizing T with
  | done a => exact .inr ⟨a, [], T, rfl, .nil _, h⟩
  | raise e =>
      left
      obtain ⟨rfl, -⟩ := h.of_raise
      exact ⟨_, .nil _⟩
  | call op k ih =>
      cases h with
      | nil => exact .inl ⟨_, .nil _⟩
      | @step _ _ s T _ h =>
          rcases ih (H op s).1 h with ⟨q', hp⟩ | ⟨a, T₁, T₂, rfl, hp, hf⟩
          · exact .inl ⟨q', .step hp⟩
          · exact .inr ⟨a, (op, s) :: T₁, T₂, rfl, .step hp, hf⟩

theorem of_ofExcept_bind {r : Except ε α} {f : α → Program S ε β} {q : Program S ε β}
    (h : Path H (Program.ofExcept r >>= f) T q) : T = [] ∨ ∃ a, r = .ok a ∧ Path H (f a) T q := by
  cases r with
  | ok a => exact .inr ⟨a, rfl, h⟩
  | error e => exact .inl h.of_raise.1

/-- A path of a guarded program stays within the program, or goes on within what handles its
exception. -/
theorem of_tryCatch {h : ε → Program S ε α} (hpath : Path H (p.tryCatch h) T q) :
    (∃ q', Path H p T q') ∨
      ∃ e T₁ T₂, T = T₁ ++ T₂ ∧ Path H p T₁ (.raise e) ∧ Path H (h e) T₂ q := by
  induction p generalizing T with
  | done a =>
      left
      obtain ⟨rfl, -⟩ := hpath.of_done
      exact ⟨_, .nil _⟩
  | raise e => exact .inr ⟨e, [], T, rfl, .nil _, hpath⟩
  | call op k ih =>
      cases hpath with
      | nil => exact .inl ⟨_, .nil _⟩
      | @step _ _ s T _ hpath =>
          rcases ih (H op s).1 hpath with ⟨q', hp⟩ | ⟨e, T₁, T₂, rfl, hp, hh⟩
          · exact .inl ⟨q', .step hp⟩
          · exact .inr ⟨e, (op, s) :: T₁, T₂, rfl, .step hp, hh⟩

/-- Only operations that a program uses are on its paths. -/
theorem uses {A : S.Op → Prop} (h : Path H p T q) (hp : p.Uses A) : ∀ e ∈ T, A e.1 := by
  induction h with
  | nil p => exact fun e he => absurd he List.not_mem_nil
  | step _ ih =>
      intro e he
      rcases List.mem_cons.mp he with rfl | he
      · exact hp.1
      · exact ih (hp.2 _) e he

end Path

/-! ## Clients of a pool -/

namespace Pool

/-- What a client issues in its turn, in the state it is issued in. -/
def issues (P : Pool S σ ε α ι) (i : ι) : List (ι × S.Op × σ) :=
  match P.threads i with
  | .call op _ => [(i, op, P.state)]
  | _ => []

theorem issues_of_call {P : Pool S σ ε α ι} {i : ι} {op : S.Op} {k : S.Resp op → Program S ε α}
    (h : P.threads i = .call op k) : P.issues i = [(i, op, P.state)] := by
  unfold issues
  rw [h]

theorem issues_of_not_call {P : Pool S σ ε α ι} {i : ι} (h : ∀ op k, P.threads i ≠ .call op k) :
    P.issues i = [] := by
  unfold issues
  split
  · next op k hop => exact absurd hop (h op k)
  · rfl

variable [DecidableEq ι] (H)

/-- What the clients issue along a schedule, in order. -/
def trace (P : Pool S σ ε α ι) : List (Turn ι σ) → List (ι × S.Op × σ)
  | [] => []
  | .thread i :: ts => P.issues i ++ trace (P.step H (.thread i)) ts
  | .outside change :: ts => trace (P.step H (.outside change)) ts

/-- The operations of one client. -/
def own (i : ι) (T : List (ι × S.Op × σ)) : List (S.Op × σ) :=
  T.filterMap fun e => if e.1 = i then some e.2 else none

@[simp] theorem own_nil (i : ι) : own i ([] : List (ι × S.Op × σ)) = [] := rfl

theorem own_append (i : ι) (T U : List (ι × S.Op × σ)) : own i (T ++ U) = own i T ++ own i U :=
  List.filterMap_append

theorem trace_append (P : Pool S σ ε α ι) (ts us : List (Turn ι σ)) :
    P.trace H (ts ++ us) = P.trace H ts ++ (P.run H ts).trace H us := by
  induction ts generalizing P with
  | nil => rfl
  | cons t ts ih =>
      cases t with
      | outside change => exact ih _
      | thread i =>
          show P.issues i ++ trace H (P.step H (.thread i)) (ts ++ us) = _
          rw [ih, ← List.append_assoc]
          rfl

/-- What one turn more adds to the trace. -/
theorem trace_concat (P : Pool S σ ε α ι) (ts : List (Turn ι σ)) (i : ι) :
    P.trace H (ts ++ [.thread i]) = P.trace H ts ++ (P.run H ts).issues i := by
  rw [trace_append]
  exact congrArg _ (List.append_nil _)

/-- Each client goes along a path of its program. -/
theorem path_run (P : Pool S σ ε α ι) (ts : List (Turn ι σ)) (i : ι) :
    Path H (P.threads i) (own i (P.trace H ts)) ((P.run H ts).threads i) := by
  induction ts using List.reverseRecOn with
  | nil => exact .nil _
  | append_singleton ts t ih =>
      rw [run_append, run_cons, run_nil]
      cases t with
      | outside change =>
          rw [trace_append]
          show Path H (P.threads i) (own i (P.trace H ts ++ [])) ((P.run H ts).threads i)
          rwa [List.append_nil]
      | thread j =>
          rw [trace_concat, own_append]
          by_cases hcall : ∃ op k, (P.run H ts).threads j = .call op k
          · obtain ⟨op, k, hj⟩ := hcall
            rw [issues_of_call hj, step_thread_call H hj]
            by_cases h : j = i
            · subst h
              rw [hj] at ih
              simpa [own] using ih.concat (P.run H ts).state
            · simpa [own, h, Function.update_of_ne (Ne.symm h)] using ih
          · have hnot : ∀ op k, (P.run H ts).threads j ≠ .call op k := fun op k hj => hcall ⟨op, k, hj⟩
            rw [issues_of_not_call hnot, step_thread_of_not_call H hnot, own_nil, List.append_nil]
            exact ih

end Pool

end Effects
