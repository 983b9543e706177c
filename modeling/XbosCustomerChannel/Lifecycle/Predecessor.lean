import XbosCustomerChannel.Fixture
import XbosCustomerChannel.Session.Lineage

/-!
# Order calls under a rotated session

A rotated session stays rotated, but the lifecycle and payment services look its record up without
asking whether it is. What decides whether they act is the order reference the record carries.
-/

namespace XbosCustomerChannel

open Effects Effects.Program Data

/-- The operation is not one on an order. -/
def ChannelOp.LeavesOrder (op : ChannelOp) : Prop := ∀ a, op ≠ .orderAuthority a

section Refused

variable {π : Type} [XBOSOrderPort π] [Hashlib]

/-- The program raises and reaches neither the lifecycle nor the payment-request port. -/
def Refused {α : Type} (p : Service α) (w : World π) : Prop :=
  (∃ e, (exec handle p w).1 = .error e) ∧
    ∀ o ∈ issued handle p w, ChannelOp.LeavesOrder o.1

theorem refused_void {α : Type} {p : Service α} {w : World π} :
    Refused p.void w ↔ Refused p w := by
  have hexec : (∃ e, (exec handle p.void w).1 = .error e) ↔ ∃ e, (exec handle p w).1 = .error e := by
    unfold Program.void
    rw [exec_bind]
    obtain ⟨r, w'⟩ := exec handle p w
    cases r <;> simp
  unfold Refused
  rw [hexec, issued_void]

/-- Sequencing after a program that stays away from the two ports. -/
theorem refused_bind {α β : Type} {p : Service α} {f : α → Service β} {w : World π}
    (hp : p.Uses ChannelOp.LeavesOrder) :
    Refused (p >>= f) w ↔
      match exec handle p w with
      | (.ok a, w') => Refused (f a) w'
      | (.error _, _) => True := by
  have haway (o) (ho : o ∈ issued handle p w) : ChannelOp.LeavesOrder o.1 := hp.of_issued handle ho
  unfold Refused
  rw [exec_bind, issued_bind]
  obtain ⟨r, w'⟩ := exec handle p w
  cases r with
  | ok a =>
      refine and_congr Iff.rfl ⟨fun h o ho => h o (List.mem_append_right _ ho), fun h o ho => ?_⟩
      rcases List.mem_append.mp ho with ho | ho
      · exact haway o ho
      · exact h o ho
  | error e => exact iff_of_true ⟨⟨e, rfl⟩, fun o ho => haway o (by simpa using ho)⟩ trivial

theorem refused_raiseIf_bind {α : Type} (q : Prop) [Decidable q] (e : Exc) {f : Unit → Service α}
    {w : World π} : Refused (raiseIf q e >>= f) w ↔ q ∨ Refused (f ()) w := by
  rw [refused_bind (Uses.raiseIf _ _), exec_raiseIf]
  by_cases hq : q <;> simp [hq]

theorem not_refused_orderAuthority {α : Type} (op : OrderAuthorityOp)
    {f : op.Resp → Service α} {w : World π} : ¬ Refused (ask (.orderAuthority op) >>= f) w :=
  fun h => h.2 _ List.mem_cons_self op rfl

/-- The services look the session up, and stop if it has no order. -/
theorem refused_requiredOrderSession_bind {α : Type} (refusal : ExcClass) {ref : String}
    {f : CustomerSessionSnapshot → Service α} {w : World π} {session : CustomerSessionSnapshot}
    (hget : w.sessions.get ref = some session) :
    Refused (requiredOrderSession refusal ref >>= f) w ↔
      falsy session.orderRef = true ∨ Refused (f session) w := by
  have haway : (ask (.session (.get ref))).Uses ChannelOp.LeavesOrder :=
    uses_ask_iff.mpr fun a h => by cases h
  have hfound : exec handle (ask (.session (.get ref))) w = (.ok (some session), w) := by
    rw [← hget]
    rfl
  unfold requiredOrderSession
  rw [bind_assoc, refused_bind haway, hfound]
  dsimp only
  rw [bind_assoc, refused_raiseIf_bind]
  rfl

namespace OrderCall

/-- A call under a session acts unless the session has no order or the call is not confirmed. -/
theorem refused_iff (call : OrderCall) {ref : String} {w : World π}
    {session : CustomerSessionSnapshot} (hget : w.sessions.get ref = some session) :
    Refused (call.program ref) w ↔ falsy session.orderRef = true ∨ call.confirmed = false := by
  cases call with
  | requestChange changeRef clientRef confirmed =>
      refine refused_void.trans ((refused_requiredOrderSession_bind _ hget).trans ?_)
      rw [refused_raiseIf_bind, or_iff_left (not_refused_orderAuthority _)]
      simp [OrderCall.confirmed]
  | requestCancellation reasonRef clientRef confirmed =>
      refine refused_void.trans ((refused_requiredOrderSession_bind _ hget).trans ?_)
      rw [refused_raiseIf_bind, or_iff_left (not_refused_orderAuthority _)]
      simp [OrderCall.confirmed]
  | paymentRequest =>
      refine refused_void.trans ((refused_requiredOrderSession_bind _ hget).trans ?_)
      rw [or_iff_left (not_refused_orderAuthority _)]
      simp [OrderCall.confirmed]

end OrderCall

end Refused

/-! ## Rotation is for good -/

/-- The session stored under its own name has been rotated into `successor`. -/
def World.RotatedInto {π : Type} (w : World π) (ref successor : String) : Prop :=
  w.sessions.canonicalRef ref = ref ∧
    ∃ s, w.sessions.sessions.get? ref = some s ∧ s.rotatedToSessionRef = some successor

section Rotated

variable {π : Type} {w w' : World π} {ref successor : String}

theorem World.RotatedInto.get (h : w.RotatedInto ref successor) :
    ∃ s, w.sessions.get ref = some s ∧ s.rotatedToSessionRef = some successor := by
  obtain ⟨hcanonical, s, hs, hrotated⟩ := h
  refine ⟨s, ?_, hrotated⟩
  unfold InMemoryCustomerSessionStore.get
  rw [hcanonical]
  exact hs

/-- No effect takes a rotation back. -/
theorem World.RotatedInto.effect {ops : List (Channel.Op × World π)}
    (h : w.RotatedInto ref successor) (heff : SessionEffect ops w w') :
    w'.RotatedInto ref successor := by
  obtain ⟨s, hget, -⟩ := h.get
  obtain ⟨hcanonical, s, hs, hrotated⟩ := h
  obtain ⟨s', hs', hcontinues⟩ := heff.continues hs
  refine ⟨(heff.canonicalRef hget).trans hcanonical, s', hs', ?_⟩
  rw [hcontinues.rotated (by rw [hrotated]; rfl), hrotated]

variable [XBOSOrderPort π] [Hashlib] (svc : OrderDraftConfirmationService)

omit [XBOSOrderPort π] [Hashlib] in
theorem survives_rotatedInto (ref successor : String) :
    Survives fun _ (w : World π) => w.Keyed ∧ w.RotatedInto ref successor where
  keyed _ _ h := h.1
  effect _ _ _ _ h heff hk := ⟨hk, h.2.effect heff⟩

/-- A resumed session is rotated into the session that is returned. -/
theorem rotatedInto_of_resumed {w : World π} (hk : w.Keyed) {args : ResumeSessionArgs}
    {rotated : CustomerSessionSnapshot}
    (h : (exec handle (svc.sessions.resumeSession args w.newSessionRef) w).1 = .ok rotated) :
    (step svc w (.resumeSession args)).RotatedInto args.sessionRef rotated.sessionRef := by
  show (exec handle (svc.sessions.resumeSession args w.newSessionRef).void w).2.RotatedInto _ _
  rw [exec_void_state]
  rcases svc.sessions.resumeSession_cases args w.newSessionRef w with
    ⟨current, stored, henabled, hexec⟩ | ⟨e, hexec⟩
  · obtain ⟨hcanonical, rfl⟩ := CustomerSessionService.ResumeEnabled.stored_eq _ henabled hk
    have href : stored.sessionRef = args.sessionRef :=
      (hk _ _ henabled.found).trans henabled.canonical
    rw [hexec] at h ⊢
    obtain rfl := Except.ok.inj h
    refine ⟨henabled.canonical,
      { stored with
        invalidatedAtEpoch := some args.nowEpoch
        rotatedToSessionRef := some w.newSessionRef }, ?_, rfl⟩
    have hne : args.sessionRef ≠ w.newSessionRef := by
      intro hnew
      have hstored := hk.get?_of_get henabled.found
      rw [href, hnew] at hstored
      exact w.newSessionRef_notMem (List.mem_append_left _ (Dict.mem_keys_of_get? hstored))
    rw [hcanonical, ← href]
    rw [← href] at hne
    exact (Dict.get?_set_of_ne _ hne _).trans (Dict.get?_set_self _ _ _)
  · rw [hexec] at h
    cases h

/-- In every run that rotated a session, a later call under the old reference is refused exactly if
the rotated record carries no order or the call is not confirmed. -/
theorem orderCall_refused_iff (orders : π) (upstream : Upstream) (refs : RefSource)
    (before after : List (ChannelCall π)) (args : ResumeSessionArgs)
    (rotated : CustomerSessionSnapshot)
    (hrotated : (exec handle (svc.sessions.resumeSession args
      (run svc (World.start orders upstream refs) before).newSessionRef)
        (run svc (World.start orders upstream refs) before)).1 = .ok rotated)
    (call : OrderCall) :
    ∃ predecessor,
      (run svc (World.start orders upstream refs)
        (before ++ .resumeSession args :: after)).sessions.get args.sessionRef = some predecessor ∧
      predecessor.rotatedToSessionRef = some rotated.sessionRef ∧
      (Refused (call.program args.sessionRef)
          (run svc (World.start orders upstream refs) (before ++ .resumeSession args :: after)) ↔
        falsy predecessor.orderRef = true ∨ call.confirmed = false) := by
  have hk : (run svc (World.start orders upstream refs) before).Keyed :=
    run_keyed svc (start_keyed orders upstream refs) before
  have hstep := rotatedInto_of_resumed svc hk hrotated
  have hrun := (survives_rotatedInto args.sessionRef rotated.sessionRef).of_trace svc (T := [])
    ⟨step_keyed svc hk _, hstep⟩ after
  rw [run_append, run_cons]
  obtain ⟨predecessor, hget, hinto⟩ := hrun.2.get
  exact ⟨predecessor, hget, hinto, call.refused_iff hget⟩

end Rotated

section Fixture

open Fixture

/-- The session has an order. -/
def ordered : List Call :=
  intoReview ++ [prepare 1 3000 10, .submit (submission "submit:fixture:one" 20)]

def resumption : ResumeSessionArgs where
  sessionRef := sessionRef
  identityBindingRef := some "identity_binding_r"
  nowEpoch := 30

/-- What resuming the session with its order comes to. -/
def resumed : Except Exc CustomerSessionSnapshot :=
  (exec handle (OrderDraftConfirmationService.sessions {} |>.resumeSession resumption
    (run {} world ordered).newSessionRef) (run {} world ordered)).1

theorem resumed_ok : ∃ rotated, resumed = .ok rotated := exists_ok_of_isOk (by decide +kernel)

theorem orderCall_refused_iff_resumption :
    ∃ rotated predecessor : CustomerSessionSnapshot,
      (run {} world (ordered ++ [.resumeSession resumption])).sessions.get
          resumption.sessionRef = some predecessor ∧
        predecessor.rotatedToSessionRef = some rotated.sessionRef ∧
        (Refused (OrderCall.paymentRequest.program resumption.sessionRef)
            (run {} world (ordered ++ [.resumeSession resumption])) ↔
          falsy predecessor.orderRef = true ∨ OrderCall.paymentRequest.confirmed = false) := by
  obtain ⟨rotated, hrotated⟩ := resumed_ok
  unfold resumed world at hrotated
  have h := orderCall_refused_iff ({} : OrderDraftConfirmationService) ({} : FakeXBOSOrderClient)
    (upstream 1 3000) lengthRefs ordered [] resumption rotated hrotated .paymentRequest
  exact ⟨rotated, h⟩

/-- Payment is asked for under the reference of a session that has been rotated away. -/
theorem predecessor_reaches_payment :
    (∃ rotated, resumed = .ok rotated) ∧
      ¬ Refused (OrderCall.paymentRequest.program resumption.sessionRef)
        (run {} world (ordered ++ [.resumeSession resumption])) := by
  refine ⟨resumed_ok, fun h => ?_⟩
  obtain ⟨e, he⟩ := h.1
  have hok : (exec handle (OrderCall.paymentRequest.program resumption.sessionRef)
      (run {} world (ordered ++ [.resumeSession resumption]))).1.isOk = true := by
    decide +kernel
  rw [he] at hok
  cases hok

end Fixture

end XbosCustomerChannel
