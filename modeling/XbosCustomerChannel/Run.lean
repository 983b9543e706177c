import XbosCustomerChannel.Lifecycle.Service
import XbosCustomerChannel.Order.Service

/-!
# Runs

A run is a sequence of calls, each completed before the next, on a world that starts with empty
stores. Between calls the XBOS systems may come to answer differently and the order port may
change by itself; both are entries of the same list. `trace` keeps every operation the calls of a
run issued, with the world it was issued in.
-/

namespace XbosCustomerChannel

open Effects Data

variable {π : Type} [XBOSOrderPort π] [Hashlib]

/-- Fresh stores in front of an order port. -/
def World.start (orders : π) (upstream : Upstream) (refs : RefSource) : World π :=
  { orders, upstream, refs }

/-- `_new_session_ref`: a reference that names nothing yet. -/
def World.newSessionRef (w : World π) : String :=
  w.refs.newRef "sess_" (w.sessions.sessions.keys ++ w.sessions.aliases.keys)

/-- A call of a service, or a change from outside between two calls. -/
inductive ChannelCall (π : Type) [XBOSOrderPort π]
  | createSession (args : CreateSessionArgs)
  | resumeSession (args : ResumeSessionArgs)
  | validateActiveSession (sessionRef : String) (nowEpoch : Int)
  | attachInteractionRefs (sessionRef : String) (cartRef quoteRef : Option String)
  | transition (args : TransitionArgs)
  | reenter (sessionRef : String)
  /-- A server component issues an evidence handle. -/
  | issueEvidence (session : CustomerSessionSnapshot) (projection : UpstreamStateProjection)
  | prepareConfirmation (args : PrepareConfirmationArgs)
  | submit (args : SubmitArgs)
  | orderCall (sessionRef : String) (call : OrderCall)
  | upstreamChanges (upstream : Upstream)
  | orderPortChanges (event : XBOSOrderPort.Event π)

/-- The program of a call; a change from outside has none. -/
def ChannelCall.program (svc : OrderDraftConfirmationService) (w : World π) :
    ChannelCall π → Service Unit
  | .createSession args => (svc.sessions.createSession args w.newSessionRef).void
  | .resumeSession args => (svc.sessions.resumeSession args w.newSessionRef).void
  | .validateActiveSession ref now => (svc.sessions.validateActiveSession ref now).void
  | .attachInteractionRefs ref cart quote =>
      (CustomerSessionService.attachInteractionRefs ref cart quote).void
  | .transition args => (svc.sessions.transition args).void
  | .reenter ref => (CustomerSessionService.reenter ref).void
  | .issueEvidence session projection =>
      (ask (.provenance (.issueEvidence session projection))).void
  | .prepareConfirmation args => (svc.prepareConfirmation args).void
  | .submit args => (svc.submit args).void
  | .orderCall sessionRef call => call.program sessionRef
  | .upstreamChanges _ => .done ()
  | .orderPortChanges _ => .done ()

/-- The world as it is changed from outside. -/
def ChannelCall.change (w : World π) : ChannelCall π → World π
  | .upstreamChanges upstream => { w with upstream }
  | .orderPortChanges event => { w with orders := XBOSOrderPort.occur event w.orders }
  | _ => w

/-- One move of whatever else is there: a change from outside, or one operation of any call. -/
def World.Moves (w w' : World π) : Prop :=
  (∃ call : ChannelCall π, w' = call.change w) ∨ ∃ op, w' = (handle op w).2

variable (svc : OrderDraftConfirmationService)

/-- One entry of a run. -/
def step (w : World π) (call : ChannelCall π) : World π :=
  (exec handle (call.program svc w) (call.change w)).2

def run (w : World π) (calls : List (ChannelCall π)) : World π := calls.foldl (step svc) w

/-- The operations of a run. -/
def trace (w : World π) : List (ChannelCall π) → List (Channel.Op × World π)
  | [] => []
  | call :: calls =>
      issued handle (call.program svc w) (call.change w) ++ trace (step svc w call) calls

@[simp] theorem run_nil (w : World π) : run svc w [] = w := rfl

@[simp] theorem run_cons (w : World π) (call : ChannelCall π) (calls : List (ChannelCall π)) :
    run svc w (call :: calls) = run svc (step svc w call) calls := rfl

theorem run_append (w : World π) (calls calls' : List (ChannelCall π)) :
    run svc w (calls ++ calls') = run svc (run svc w calls) calls' := List.foldl_append

/-- Every property that each entry of a run keeps is kept by the run. -/
theorem run_invariant {I : World π → Prop} (hstep : ∀ w call, I w → I (step svc w call))
    {w : World π} (hw : I w) (calls : List (ChannelCall π)) : I (run svc w calls) := by
  induction calls generalizing w with
  | nil => exact hw
  | cons call calls ih => exact ih (hstep w call hw)

/-- Every property of the operations issued so far and of the world they led to that each entry of
a run keeps is kept by the run. -/
theorem trace_invariant {I : List (Channel.Op × World π) → World π → Prop}
    (hcall : ∀ T w call, I T w →
      I (T ++ issued handle (call.program svc w) (call.change w)) (step svc w call))
    {T : List (Channel.Op × World π)} {w : World π} (hw : I T w) (calls : List (ChannelCall π)) :
    I (T ++ trace svc w calls) (run svc w calls) := by
  induction calls generalizing T w with
  | nil => simpa [trace] using hw
  | cons call calls ih =>
      have hrest := ih (hcall T w call hw)
      rwa [List.append_assoc] at hrest

/-- Where a property is lost exactly in the entries that do `Q`, a run has it throughout exactly if
none of its entries does `Q`. -/
theorem run_throughout_iff {I P : World π → Prop} {Q : World π → ChannelCall π → Prop}
    (hI : ∀ w call, I w → I (step svc w call))
    (hstep : ∀ w call, I w → P w → (P (step svc w call) ↔ ¬ Q w call)) {w : World π} (hw : I w)
    (hP : P w) (calls : List (ChannelCall π)) :
    (∀ before after, calls = before ++ after → P (run svc w before)) ↔
      ∀ before call after, calls = before ++ call :: after → ¬ Q (run svc w before) call := by
  induction calls generalizing w with
  | nil =>
      refine iff_of_true (fun before after h => ?_) (fun before call after h => ?_)
      · obtain ⟨rfl, -⟩ := List.append_eq_nil_iff.mp h.symm
        exact hP
      · simp at h
  | cons c cs ih =>
      refine ⟨fun h => ?_, fun h => ?_⟩
      · have hnext : P (step svc w c) := h [c] cs rfl
        intro before call after heq
        cases before with
        | nil =>
            obtain ⟨rfl, rfl⟩ := List.cons.inj heq
            exact (hstep w c hw hP).mp hnext
        | cons b bs =>
            obtain ⟨rfl, hrest⟩ := List.cons.inj heq
            refine (ih (hI w c hw) hnext).mp (fun before after heq => ?_) bs call after hrest
            exact h (c :: before) after (by rw [heq]; rfl)
      · have hnext : P (step svc w c) := (hstep w c hw hP).mpr (h [] c cs rfl)
        intro before after heq
        cases before with
        | nil => exact hP
        | cons b bs =>
            obtain ⟨rfl, hrest⟩ := List.cons.inj heq
            refine (ih (hI w c hw) hnext).mpr (fun before call after heq => ?_) bs after hrest
            exact h (c :: before) call after (by rw [heq]; rfl)

/-- An entry that is neither a call nor a change leaves nothing to do: the generic step rule. A
property is kept by every entry if it is kept by the operations the calls use and by the changes
from outside. -/
theorem step_invariant {I : World π → Prop} {w : World π} {call : ChannelCall π}
    (hchange : I w → I (call.change w)) {A : Channel.Op → Prop}
    (hA : ∀ op w, A op → I w → I (handle op w).2) (huses : (call.program svc w).Uses A)
    (hw : I w) : I (step svc w call) :=
  exec_invariant handle hA huses (hchange hw)

end XbosCustomerChannel
