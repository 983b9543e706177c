import XbosCustomerChannel.Effects.Execution

/-!
# Programs of one signature within another

A component that is written over its own operations runs inside a larger one that has operations of
its own besides. `Program.embed` renames the calls, and `exec_embed` says that the state of the larger
component moves only in the part that answers them (`Part`), as it does alone.
-/

namespace Effects

/-- The operations of `S` among those of `T`. -/
structure Embedding (S T : Signature) where
  op : S.Op → T.Op
  resp : (o : S.Op) → T.Resp (op o) → S.Resp o

variable {S T : Signature} {σ τ ε α β : Type}

/-- `p`, with its operations as those of the larger signature. -/
def Program.embed (i : Embedding S T) : Program S ε α → Program T ε α
  | .done a => .done a
  | .raise e => .raise e
  | .call op k => .call (i.op op) fun r => (k (i.resp op r)).embed i

theorem Program.embed_bind (p : Program S ε α) (i : Embedding S T) (f : α → Program S ε β) :
    (p >>= f).embed i = p.embed i >>= fun a => (f a).embed i := by
  induction p with
  | done a => rfl
  | raise e => rfl
  | call op k ih =>
      show Program.call (i.op op) _ = Program.call (i.op op) _
      congr 1
      funext r
      exact ih (i.resp op r)

theorem Program.embed_raiseIf (i : Embedding S T) (p : Prop) [Decidable p] (e : ε) :
    (raiseIf p e : Program S ε Unit).embed i = raiseIf p e := by
  unfold raiseIf
  split
  · rfl
  · rfl

theorem Program.embed_ofExcept (i : Embedding S T) (r : Except ε α) :
    (ofExcept r : Program S ε α).embed i = ofExcept r := by
  cases r with
  | ok a => rfl
  | error e => rfl

theorem Program.embed_void (p : Program S ε α) (i : Embedding S T) :
    p.void.embed i = (p.embed i).void :=
  p.embed_bind i fun _ => .done ()

theorem Program.Uses.embed {A : S.Op → Prop} {B : T.Op → Prop} {p : Program S ε α} (hp : p.Uses A)
    {i : Embedding S T} (hAB : ∀ op, A op → B (i.op op)) : (p.embed i).Uses B := by
  induction p with
  | done a => trivial
  | raise e => trivial
  | call op k ih => exact ⟨hAB op hp.1, fun r => ih (i.resp op r) (hp.2 _)⟩

/-- A part of a state that can be read and replaced. -/
structure Part (σ τ : Type) where
  get : τ → σ
  put : σ → τ → τ
  get_put : ∀ s t, get (put s t) = s
  put_get : ∀ t, put (get t) t = t
  put_put : ∀ s s' t, put s (put s' t) = put s t

/-- `K` answers the operations of `S` as `H` does, with the part and nothing else. -/
def Part.Answers (part : Part σ τ) (i : Embedding S T) (H : Handler S σ) (K : Handler T τ) : Prop :=
  ∀ op t, i.resp op (K (i.op op) t).1 = (H op (part.get t)).1 ∧
    (K (i.op op) t).2 = part.put (H op (part.get t)).2 t

/-- Running an embedded program is running it on its part of the state. -/
theorem exec_embed {part : Part σ τ} {i : Embedding S T} {H : Handler S σ} {K : Handler T τ}
    (hK : part.Answers i H K) (p : Program S ε α) (t : τ) :
    exec K (p.embed i) t =
      ((exec H p (part.get t)).1, part.put (exec H p (part.get t)).2 t) := by
  induction p generalizing t with
  | done a =>
      show (Except.ok a, t) = (Except.ok a, part.put (part.get t) t)
      rw [part.put_get]
  | raise e =>
      show (Except.error e, t) = (Except.error e, part.put (part.get t) t)
      rw [part.put_get]
  | call op k ih =>
      obtain ⟨hresp, hstate⟩ := hK op t
      have hnext := ih (i.resp op (K (i.op op) t).1) (K (i.op op) t).2
      rw [hstate, part.get_put, part.put_put, hresp] at hnext
      show exec K ((k (i.resp op (K (i.op op) t).1)).embed i) (K (i.op op) t).2 = _
      rw [hresp, hstate]
      exact hnext

end Effects
