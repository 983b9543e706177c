import XbosCustomerChannel.Calls
import XbosCustomerChannel.Fixture
import Mathlib.Data.List.Induction

/-!
# Orders of one correlation

Every order at the port carries the correlation of the session it was submitted for. Nothing but a
`submit` call adds one, and a `submit` call adds at most one; but `submit` looks at the port for its
own client reference only, so a second confirmation of the same session is a second order.
-/

namespace XbosCustomerChannel

open Effects Effects.Program Data OrderDraftConfirmationService

/-- The number of orders that carry the correlation. -/
def World.ordersOf (w : World FakeXBOSOrderClient) (correlationRef : String) : Nat :=
  w.orders.ordersByClientRef.entries.countP fun e => e.2.2.correlationRef = correlationRef

section SingleOrder

variable [Hashlib] (svc : OrderDraftConfirmationService)

/-- The operation is not a request to the order port. -/
def ChannelOp.LeavesOrders (op : ChannelOp) : Prop := ∀ request, op ≠ .order (.submitOrder request)

omit [Hashlib] in
theorem ChannelOp.Interacts.leavesOrders {op : ChannelOp} (h : op.Interacts) :
    op.LeavesOrders := by
  rintro request rfl
  exact h

omit [Hashlib] in
theorem ChannelOp.Prepares.leavesOrders {op : ChannelOp} (h : op.Prepares) : op.LeavesOrders := by
  rintro request rfl
  exact h

theorem handle_leavesOrders (op : Channel.Op) (w : World FakeXBOSOrderClient)
    (h : ChannelOp.LeavesOrders op) :
    (handle op w).2.orders.ordersByClientRef = w.orders.ordersByClientRef := by
  cases op with
  | session op => rfl
  | provenance op => rfl
  | upstream op => rfl
  | orderAuthority op => rfl
  | order op =>
      cases op with
      | submitOrder request => exact absurd rfl (h request)
      | prepareOrderConfirmation quote context now =>
          exact (w.orders.prepareOrderConfirmation_orders quote context now).1
      | _ => rfl

/-- The call would add an order of the session's correlation to the port. -/
def PlacesFor (correlationRef : String) (args : SubmitArgs) (w : World FakeXBOSOrderClient) :
    Prop :=
  ∃ session record, svc.Authorized w args session record ∧
    w.orders.Places (requestFor args session record) ∧ session.correlationRef = correlationRef

omit [Hashlib] in
theorem change_orders (w : World FakeXBOSOrderClient) (call : ChannelCall FakeXBOSOrderClient) :
    (call.change w).orders.ordersByClientRef = w.orders.ordersByClientRef := by
  cases call with
  | orderPortChanges event => exact (FakeXBOSOrderClient.occur_orders event w.orders).1
  | _ => rfl

omit [Hashlib] in
/-- An order placed is one more order of its request's correlation. -/
theorem FakeXBOSOrderClient.countP_placed {client : FakeXBOSOrderClient}
    {request : OrderSubmitRequest} (hplaces : client.Places request) (correlationRef : String) :
    (client.placed request).ordersByClientRef.entries.countP
        (fun e => e.2.2.correlationRef = correlationRef) =
      client.ordersByClientRef.entries.countP (fun e => e.2.2.correlationRef = correlationRef) +
        if request.correlationRef = correlationRef then 1 else 0 := by
  have hfree : request.clientSubmitRef ∉ client.ordersByClientRef :=
    Dict.get?_eq_none_iff.mp hplaces.free
  show (client.ordersByClientRef.insert request.clientSubmitRef
    (request.confirmationRef, client.nextOrder request)).entries.countP _ = _
  rw [AList.entries_insert_of_notMem hfree, List.countP_cons]
  simp [FakeXBOSOrderClient.nextOrder]

/-- Calls that stay away from the order port leave every order where it is. -/
theorem step_ordersOf_of_uses {w : World FakeXBOSOrderClient}
    {call : ChannelCall FakeXBOSOrderClient}
    (huses : (call.program svc w).Uses ChannelOp.LeavesOrders) (correlationRef : String) :
    (step svc w call).ordersOf correlationRef = w.ordersOf correlationRef := by
  have horders : (step svc w call).orders.ordersByClientRef = w.orders.ordersByClientRef :=
    (exec_preserves handle (R := fun w w' : World FakeXBOSOrderClient =>
      w'.orders.ordersByClientRef = w.orders.ordersByClientRef) (fun _ => rfl)
      (fun _ _ _ h₁ h₂ => h₂.trans h₁) handle_leavesOrders huses _).trans (change_orders w call)
  unfold World.ordersOf
  rw [horders]

theorem step_ordersOf_submit {w : World FakeXBOSOrderClient} (hk : w.Keyed)
    (correlationRef : String) (args : SubmitArgs) :
    (PlacesFor svc correlationRef args w ∧
      (step svc w (.submit args)).ordersOf correlationRef = w.ordersOf correlationRef + 1) ∨
    (¬ PlacesFor svc correlationRef args w ∧
      (step svc w (.submit args)).ordersOf correlationRef = w.ordersOf correlationRef) := by
  have hstep : (step svc w (.submit args)).orders =
      (exec handle (svc.submit args) w).2.orders := by
    show (exec handle (svc.submit args).void w).2.orders = _
    rw [exec_void_state]
  unfold World.ordersOf
  rw [hstep]
  rcases svc.submit_orders hk args with
    ⟨session, record, hauthorized, hplaces, horders⟩ | ⟨hno, hsame⟩
  · rw [horders, FakeXBOSOrderClient.countP_placed hplaces]
    by_cases hcorrelation : session.correlationRef = correlationRef
    · refine .inl ⟨⟨session, record, hauthorized, hplaces, hcorrelation⟩, ?_⟩
      rw [if_pos (show (requestFor args session record).correlationRef = correlationRef from
        hcorrelation)]
    · refine .inr ⟨?_, ?_⟩
      · rintro ⟨session', record', hauthorized', -, hcorrelation'⟩
        obtain rfl := Option.some.inj (hauthorized.found.symm.trans hauthorized'.found)
        exact hcorrelation hcorrelation'
      · rw [if_neg (show (requestFor args session record).correlationRef ≠ correlationRef from
          hcorrelation)]
        rfl
  · refine .inr ⟨?_, by rw [hsame.orders]⟩
    rintro ⟨session, record, hauthorized, hplaces, -⟩
    exact hno session record hauthorized hplaces

/-- One entry of a run adds an order exactly if it is a `submit` call that places one. -/
theorem step_ordersOf {w : World FakeXBOSOrderClient} (hk : w.Keyed) (correlationRef : String)
    (call : ChannelCall FakeXBOSOrderClient) :
    ((∃ args, call = .submit args ∧ PlacesFor svc correlationRef args w) ∧
      (step svc w call).ordersOf correlationRef = w.ordersOf correlationRef + 1) ∨
    ((∀ args, call = .submit args → ¬ PlacesFor svc correlationRef args w) ∧
      (step svc w call).ordersOf correlationRef = w.ordersOf correlationRef) := by
  by_cases hsubmit : ∃ args, call = .submit args
  · obtain ⟨args, rfl⟩ := hsubmit
    rcases step_ordersOf_submit svc hk correlationRef args with ⟨hplaces, hone⟩ | ⟨hno, hsame⟩
    · exact .inl ⟨⟨args, rfl, hplaces⟩, hone⟩
    · refine .inr ⟨?_, hsame⟩
      rintro args' ⟨⟩
      exact hno
  · refine .inr ⟨fun args h => absurd ⟨args, h⟩ hsubmit, ?_⟩
    rcases call.uses_cases svc w with huses | ⟨prepare, rfl, huses⟩ | hsubmit'
    · exact step_ordersOf_of_uses svc (huses.mono fun _ h => h.leavesOrders) correlationRef
    · exact step_ordersOf_of_uses svc (huses.mono fun _ h => h.leavesOrders) correlationRef
    · exact absurd hsubmit' hsubmit

/-! ## Whole runs -/

/-- At every point of the run a `submit` call that would place an order of the correlation finds
none there. -/
def PlacesOnlyFirst (correlationRef : String) (w : World FakeXBOSOrderClient)
    (calls : List (ChannelCall FakeXBOSOrderClient)) : Prop :=
  ∀ before args after, calls = before ++ .submit args :: after →
    PlacesFor svc correlationRef args (run svc w before) →
      (run svc w before).ordersOf correlationRef = 0

/-- In every run from empty stores the port holds at most one order of a correlation throughout,
exactly if every `submit` call that places one finds none there. -/
theorem ordersOf_le_one_iff (upstream : Upstream) (refs : RefSource) (correlationRef : String)
    (calls : List (ChannelCall FakeXBOSOrderClient)) :
    (∀ before after, calls = before ++ after →
      (run svc (World.start {} upstream refs) before).ordersOf correlationRef ≤ 1) ↔
      PlacesOnlyFirst svc correlationRef (World.start {} upstream refs) calls := by
  have hkeyed (before : List (ChannelCall FakeXBOSOrderClient)) :
      (run svc (World.start {} upstream refs) before).Keyed :=
    run_keyed svc (start_keyed _ _ _) before
  have hone (before : List (ChannelCall FakeXBOSOrderClient))
      (call : ChannelCall FakeXBOSOrderClient) :
      run svc (World.start {} upstream refs) (before ++ [call]) =
        step svc (run svc (World.start {} upstream refs) before) call := run_append ..
  constructor
  · rintro hle before args after rfl hplaces
    have hafter := hle (before ++ [.submit args]) after (by simp)
    rw [hone] at hafter
    rcases step_ordersOf svc (hkeyed before) correlationRef (.submit args) with
      ⟨-, hadds⟩ | ⟨hno, -⟩
    · omega
    · exact absurd hplaces (hno args rfl)
  · intro hfirst before
    -- from the start of the run, one entry after the other
    induction before using List.reverseRecOn with
    | nil => exact fun _ _ => Nat.zero_le _
    | append_singleton before call ih =>
        rintro after rfl
        have hle := ih (call :: after) (by simp)
        rw [hone]
        rcases step_ordersOf svc (hkeyed before) correlationRef call with
          ⟨⟨args, rfl, hplaces⟩, hadds⟩ | ⟨-, hsame⟩
        · have hnone := hfirst before args after (by simp) hplaces
          omega
        · rw [hsame]
          exact hle

end SingleOrder

section Fixture

open Fixture

/-- An order is placed; then the catalog changes, and the same session confirms and submits again
under another client reference. -/
def orderedTwice : List Call :=
  [.submit (submission "submit:fixture:one" 20), .upstreamChanges (upstream 2 3500),
    prepare 2 3500 30,
    .submit
      { submission "submit:fixture:two" 40 with
        confirmationHandleRef :=
          lengthRefs.newRef "confirmation_handle_" ["confirmation_handle_r"] }]

theorem orderedTwice_ordersOf :
    ∃ session, (run {} reviewed orderedTwice).sessions.get sessionRef = some session ∧
      (run {} reviewed orderedTwice).ordersOf session.correlationRef = 2 := by
  decide +kernel

end Fixture

end XbosCustomerChannel
