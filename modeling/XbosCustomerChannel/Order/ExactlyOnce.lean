import XbosCustomerChannel.Fixture
import XbosCustomerChannel.Effects.Interleaving
import XbosCustomerChannel.Invariants

/-!
# One effect for a handle

Any number of `submit` calls run at once, each store and port method being one step, and between
their steps the port may fail, confirmations may change and sessions may do anything. Two tables
decide what happens: the handle's claim, which is set once, and the order of a client reference,
which is added once. A call submits only after its handle is claimed for its client reference, so
all calls on a handle meet at one entry of the order table.
-/

namespace XbosCustomerChannel

open Effects Effects.Program Data

/-- The client reference has an order. -/
def World.Ordered (w : World FakeXBOSOrderClient) (clientRef : String)
    (order : CanonicalOrderProjection) : Prop :=
  ∃ conf, w.orders.ordersByClientRef.get? clientRef = some (conf, order)

namespace World

variable {w w' : World FakeXBOSOrderClient}

theorem Kept.ordered (h : w.Kept w') {c : String} {o : CanonicalOrderProjection}
    (ho : w.Ordered c o) : w'.Ordered c o := by
  obtain ⟨conf, ho⟩ := ho
  exact ⟨conf, h.2 _ _ ho⟩

theorem Ordered.unique {c : String} {o o' : CanonicalOrderProjection} (h : w.Ordered c o)
    (h' : w.Ordered c o') : o = o' := by
  obtain ⟨conf, h⟩ := h
  obtain ⟨conf', h'⟩ := h'
  rw [h] at h'
  exact (Prod.ext_iff.mp (Option.some.inj h')).2

/-- A claim that is answered with a record has been set. -/
theorem claimed_of_ok {π : Type} {w : World π} {args : SubmitArgs}
    {r : ConfirmationProvenanceRecord}
    (h : (w.provenance.claimConfirmation args.confirmationHandleRef args.clientSubmitRef).1 =
      .ok r) :
    (w.claimed args).Claimed args.confirmationHandleRef args.clientSubmitRef := by
  cases hfound : w.provenance.confirmations.get? args.confirmationHandleRef with
  | none =>
      unfold InMemoryChannelProvenanceStore.claimConfirmation at h
      rw [hfound] at h
      cases h
  | some record =>
      rcases w.provenance.claimConfirmation_cases hfound args.clientSubmitRef with
        ⟨hclaim, -⟩ | ⟨-, e, herror⟩
      · exact claimed_claimed hfound hclaim
      · rw [herror] at h
        cases h

end World

namespace OrderDraftConfirmationService

section Clients

variable [Hashlib]

/-- What a client may do at the port: submit under its own reference, once its handle is claimed
for it. -/
def SubmitsClaimed (args : SubmitArgs) (op : Channel.Op) (w : World FakeXBOSOrderClient) : Prop :=
  ∀ request, op = .order (.submitOrder request) →
    request.clientSubmitRef = args.clientSubmitRef ∧
      w.Claimed args.confirmationHandleRef args.clientSubmitRef

/-- What holds of a client that has returned. -/
def ReturnsClaimed (args : SubmitArgs) (r : Except Exc CanonicalOrderProjection)
    (w : World FakeXBOSOrderClient) : Prop :=
  ∀ order, r = .ok order →
    w.Claimed args.confirmationHandleRef args.clientSubmitRef ∧
      w.Ordered args.clientSubmitRef order

/-- A client's safety. -/
abbrev SubmitSafe {α : Type} (args : SubmitArgs) (Q : Except Exc α → World FakeXBOSOrderClient → Prop)
    (p : Service α) (w : World FakeXBOSOrderClient) : Prop :=
  Safe handle World.Kept (fun _ _ => True) (SubmitsClaimed args) Q p w

variable {args : SubmitArgs}

omit [Hashlib] in
theorem internal_submitsClaimed {op : ChannelOp} (h : op.Internal)
    (w : World FakeXBOSOrderClient) : SubmitsClaimed args op w := fun request hop =>
  absurd hop (h.ne_submitOrder request)

/-- Sequencing after a part of `submit` that stays away from the port, with a fact that is kept. -/
theorem SubmitSafe.bind_internal {α β : Type} {I : World FakeXBOSOrderClient → Prop} {P : α → Prop}
    {Q : Except Exc β → World FakeXBOSOrderClient → Prop}
    (hI : ∀ w w', World.Kept w w' → I w → I w') {p : Service α}
    (hp : p.Uses ChannelOp.Internal) (hP : p.Yields P) {f : α → Service β}
    (hf : ∀ a w, P a → I w → SubmitSafe args Q (f a) w) (he : ∀ e w, I w → Q (.error e) w)
    {w : World FakeXBOSOrderClient} (hw : I w) : SubmitSafe args Q (p >>= f) w :=
  Safe.bind_of_uses World.Kept.refl hI
    (fun op w hop hw _ => ⟨internal_submitsClaimed hop w, hI _ _ (handle_kept op w) hw⟩)
    hp hP hf he hw

/-- Claiming the handle. -/
theorem claimHandle_safe (w : World FakeXBOSOrderClient) :
    SubmitSafe args (fun r w => r = .ok () →
      w.Claimed args.confirmationHandleRef args.clientSubmitRef) (claimHandle args) w := by
  refine Safe.tryCatch ?_ World.Kept.refl
  intro w' _ _
  refine ⟨@internal_submitsClaimed _ (.provenance (.claimConfirmation _ _)) trivial w', ?_⟩
  have hclaim := @World.claimed_of_ok _ w' args
  show SubmitSafe args _ (ofExcept (w'.provenance.claimConfirmation args.confirmationHandleRef
    args.clientSubmitRef).1 >>= fun _ => pure ()) (w'.claimed args)
  cases hres : (w'.provenance.claimConfirmation args.confirmationHandleRef
    args.clientSubmitRef).1 with
  | ok r =>
      intro w'' hkept _
      exact hkept.1.claimed (hclaim hres)
  | error e =>
      intro w'' _
      dsimp only
      split
      · exact fun _ _ h => by cases h
      · exact fun _ _ h => by cases h

/-- What `placeOrder` makes of the order that it looks up. -/
def lookedUp : Option CanonicalOrderProjection → Service CanonicalOrderProjection
  | none => .raise ⟨.orderSubmissionUnknown, "canonical_order_outcome_unknown_reconcile_required"⟩
  | some order => pure order

/-- Placing the order, once the handle is claimed. -/
theorem placeOrder_safe {request : OrderSubmitRequest}
    (hrequest : request.clientSubmitRef = args.clientSubmitRef) {w : World FakeXBOSOrderClient}
    (hw : w.Claimed args.confirmationHandleRef args.clientSubmitRef) :
    SubmitSafe args (ReturnsClaimed args) (placeOrder request) w := by
  refine Safe.tryCatch ?_ World.Kept.refl
  intro w' hkept _
  have hclaimed := hkept.1.claimed hw
  refine ⟨fun request' hop => ?_, ?_⟩
  · obtain rfl : request = request' := by
      injection hop with hop
      injection hop
    exact ⟨hrequest, hclaimed⟩
  -- the answer of the port, and what it leaves in its table
  have hplaced (hp : w'.orders.Places request) :
      (w'.withOrders (w'.orders.placed request)).Ordered args.clientSubmitRef
        (w'.orders.nextOrder request) := by
    rw [← hrequest]
    exact ⟨request.confirmationRef, Dict.get?_set_self _ _ _⟩
  have hlookup (e : Exc) (w₁ : World FakeXBOSOrderClient)
      (h₁ : w₁.Claimed args.confirmationHandleRef args.clientSubmitRef) :
      SubmitSafe args (ReturnsClaimed args)
        (if e.cls.isA .orderTransportUnknown then
          ask (.order (.getOrderByClientRef request.clientSubmitRef)) >>= lookedUp
        else .raise e) w₁ := by
    split
    · intro w₂ hkept₂ _
      refine ⟨@internal_submitsClaimed _ (.order (.getOrderByClientRef _)) trivial w₂, ?_⟩
      show SubmitSafe args (ReturnsClaimed args)
        (lookedUp (w₂.orders.getOrderByClientRef request.clientSubmitRef)) w₂
      cases hfound : w₂.orders.getOrderByClientRef request.clientSubmitRef with
      | none => exact fun _ _ order h => by cases h
      | some found =>
          intro w₃ hkept₃ order h
          obtain rfl := Except.ok.inj h
          refine ⟨hkept₃.1.claimed (hkept₂.1.claimed h₁), hkept₃.ordered ?_⟩
          obtain ⟨⟨conf, o⟩, ho, rfl⟩ := Option.map_eq_some_iff.mp hfound
          rw [hrequest] at ho
          exact ⟨conf, ho⟩
    · exact fun _ _ order h => by cases h
  have hafter : World.Kept w' (handle (.order (.submitOrder request)) w').2 := handle_kept _ w'
  rcases w'.orders.submitOrder_cases request with
    ⟨order, hholds, h⟩ | ⟨hp, h | h⟩ | ⟨-, -, e, client, hsame, h, -⟩
  · rw [handle_submitOrder h]
    intro w'' hkept' order' horder
    obtain rfl := Except.ok.inj horder
    refine ⟨hkept'.1.claimed hclaimed, hkept'.ordered ⟨request.confirmationRef, ?_⟩⟩
    rw [← hrequest]
    exact hholds.2
  · rw [handle_submitOrder h] at hafter ⊢
    intro w'' hkept' order' horder
    obtain rfl := Except.ok.inj horder
    exact ⟨hkept'.1.claimed (hafter.1.claimed hclaimed), hkept'.ordered (hplaced hp)⟩
  · rw [handle_submitOrder h] at hafter ⊢
    exact fun w'' hkept' => hlookup _ _ (hkept'.1.claimed (hafter.1.claimed hclaimed))
  · rw [handle_submitOrder h] at hafter ⊢
    exact fun w'' hkept' => hlookup _ _ (hkept'.1.claimed (hafter.1.claimed hclaimed))

/-- A whole `submit` call. -/
theorem submit_safe (svc : OrderDraftConfirmationService) (args : SubmitArgs)
    (w : World FakeXBOSOrderClient) : SubmitSafe args (ReturnsClaimed args) (svc.submit args) w := by
  have hraise (e : Exc) (w : World FakeXBOSOrderClient) : ReturnsClaimed args (.error e) w :=
    fun order h => by cases h
  -- nothing is known of the world before the claim, and only the claim of it after
  have hkept (w w' : World FakeXBOSOrderClient) (h : w.Kept w') :
      w.Claimed args.confirmationHandleRef args.clientSubmitRef →
        w'.Claimed args.confirmationHandleRef args.clientSubmitRef := h.1.claimed
  refine SubmitSafe.bind_internal (I := fun _ => True) (fun _ _ _ _ => trivial)
    ((svc.uses_requireActiveSecureSession _ _).mono fun _ h => h.internal) (Yields.all _)
    (fun session w _ _ => ?_) (fun e w _ => hraise e w) trivial
  refine SubmitSafe.bind_internal (I := fun _ => True) (fun _ _ _ _ => trivial)
    ((uses_boundRecord _ _).mono fun _ h => h.internal) (Yields.all _)
    (fun record w _ _ => ?_) (fun e w _ => hraise e w) trivial
  refine SubmitSafe.bind_internal (I := fun _ => True) (fun _ _ _ _ => trivial)
    ((uses_requireFreshConfirmation _ _).mono fun _ h => h.internal) (Yields.all _)
    (fun _ w _ _ => ?_) (fun e w _ => hraise e w) trivial
  refine Safe.bind ((claimHandle_safe w).mono fun r w hclaimed => ?_) World.Kept.refl
  cases r with
  | error e => exact hraise e w
  | ok _ =>
      refine SubmitSafe.bind_internal hkept (svc.uses_enterSubmitting args session) (Yields.all _)
        (fun session w _ hclaimed => ?_) (fun e w _ => hraise e w) (hclaimed rfl)
      refine Safe.bind ((placeOrder_safe rfl hclaimed).mono fun r w hplaced => ?_) World.Kept.refl
      cases r with
      | error e => exact hraise e w
      | ok order =>
          have hkept' (w w' : World FakeXBOSOrderClient) (h : w.Kept w') :
              w.Claimed args.confirmationHandleRef args.clientSubmitRef ∧
                  w.Ordered args.clientSubmitRef order →
                w'.Claimed args.confirmationHandleRef args.clientSubmitRef ∧
                  w'.Ordered args.clientSubmitRef order :=
            fun hw => ⟨h.1.claimed hw.1, h.ordered hw.2⟩
          refine SubmitSafe.bind_internal hkept' (Uses.ofExcept _) (Yields.all _)
            (fun _ w _ hw => ?_) (fun e w _ => hraise e w) (hplaced order rfl)
          refine (Safe.of_uses hkept' (fun op w hop hw _ =>
            ⟨internal_submitsClaimed hop w, hkept' _ _ (handle_kept op w) hw⟩)
            (svc.uses_complete args order) (svc.yields_complete args order) hw).mono ?_
          rintro r w ⟨hw, hyields⟩ order' rfl
          obtain rfl := hyields order' rfl
          exact hw

end Clients

end OrderDraftConfirmationService

/-! ## What a handle gains along a schedule -/

section Pool

variable [Hashlib] {ι : Type} [DecidableEq ι]

/-- The orders the port has gained. -/
def World.ordersGained (w w' : World FakeXBOSOrderClient) : Nat :=
  w'.orders.ordersByClientRef.size - w.orders.ordersByClientRef.size

/-- Clients that each run one `submit`, at once. -/
def submitPool (svc : OrderDraftConfirmationService) (w : World FakeXBOSOrderClient)
    (args : ι → SubmitArgs) :
    Pool Channel (World FakeXBOSOrderClient) Exc CanonicalOrderProjection ι where
  state := w
  threads i := svc.submit (args i)

/-- The orders gained in the turns of the clients that submit the handle. -/
def gainedThrough (args : ι → SubmitArgs) (confirmationHandleRef : String) :
    Pool Channel (World FakeXBOSOrderClient) Exc CanonicalOrderProjection ι →
      List (Turn ι (World FakeXBOSOrderClient)) → Nat
  | _, [] => 0
  | P, .thread i :: turns =>
      (if (args i).confirmationHandleRef = confirmationHandleRef then
          P.state.ordersGained (P.step handle (.thread i)).state
        else 0) +
        gainedThrough args confirmationHandleRef (P.step handle (.thread i)) turns
  | P, .outside change :: turns =>
      gainedThrough args confirmationHandleRef (P.step handle (.outside change)) turns

/-- The handle has had its effect. -/
def World.Spent (w : World FakeXBOSOrderClient) (confirmationHandleRef : String) : Prop :=
  ∃ c o, w.Claimed confirmationHandleRef c ∧ w.Ordered c o

omit [Hashlib] in
theorem World.Kept.spent {w w' : World FakeXBOSOrderClient} (h : w.Kept w') {ref : String}
    (hs : w.Spent ref) : w'.Spent ref := by
  obtain ⟨c, o, hc, ho⟩ := hs
  exact ⟨c, o, h.1.claimed hc, h.ordered ho⟩

/-- Only a submission changes the number of orders, by one and for a reference that was free. -/
theorem handle_ordersGained (op : Channel.Op) (w : World FakeXBOSOrderClient) :
    w.ordersGained (handle op w).2 = 0 ∨
      ∃ request, op = .order (.submitOrder request) ∧
        w.ordersGained (handle op w).2 = 1 ∧
        w.orders.ordersByClientRef.get? request.clientSubmitRef = none ∧
        ∃ o, (handle op w).2.Ordered request.clientSubmitRef o := by
  by_cases hsubmit : ∃ request, op = .order (.submitOrder request)
  · obtain ⟨request, rfl⟩ := hsubmit
    have hplaced (hp : w.orders.Places request) :
        w.ordersGained (w.withOrders (w.orders.placed request)) = 1 ∧
        w.orders.ordersByClientRef.get? request.clientSubmitRef = none ∧
        ∃ o, (w.withOrders (w.orders.placed request)).Ordered request.clientSubmitRef o := by
      refine ⟨?_, hp.free, w.orders.nextOrder request, request.confirmationRef,
        Dict.get?_set_self _ _ _⟩
      have hsize : (w.orders.placed request).ordersByClientRef.size =
          w.orders.ordersByClientRef.size + 1 := Dict.size_set_of_none hp.free _
      show (w.orders.placed request).ordersByClientRef.size - _ = 1
      omega
    rcases w.orders.submitOrder_cases request with
      ⟨order, -, h⟩ | ⟨hp, h | h⟩ | ⟨-, -, e, client, hsame, h, -⟩
    · rw [handle_submitOrder h]
      exact .inl (Nat.sub_self _)
    · rw [handle_submitOrder h]
      exact .inr ⟨request, rfl, hplaced hp⟩
    · rw [handle_submitOrder h]
      exact .inr ⟨request, rfl, hplaced hp⟩
    · rw [handle_submitOrder h]
      refine .inl ?_
      show client.ordersByClientRef.size - _ = 0
      rw [hsame.orders]
      exact Nat.sub_self _
  -- no other operation writes the order table
  · refine .inl ?_
    have hsame : (handle op w).2.orders.ordersByClientRef = w.orders.ordersByClientRef := by
      cases op with
      | session op => rfl
      | provenance op => rfl
      | upstream op => rfl
      | orderAuthority op => rfl
      | order op =>
          cases op with
          | submitOrder request => exact absurd ⟨request, rfl⟩ hsubmit
          | prepareOrderConfirmation quote context now =>
              exact (w.orders.prepareOrderConfirmation_orders quote context now).1
          | _ => rfl
    unfold World.ordersGained
    rw [hsame]
    exact Nat.sub_self _

open OrderDraftConfirmationService in
/-- Every client of the pool is safe. -/
def SubmitsSafely (args : ι → SubmitArgs)
    (P : Pool Channel (World FakeXBOSOrderClient) Exc CanonicalOrderProjection ι) : Prop :=
  P.AllSafe handle (fun _ _ => True) (fun _ => World.Kept) (fun i => SubmitsClaimed (args i))
    (fun i => ReturnsClaimed (args i))

open OrderDraftConfirmationService in
omit [DecidableEq ι] in
theorem submits_compatible (args : ι → SubmitArgs) :
    Pool.Compatible handle (fun _ _ => True) World.Moves (fun _ => World.Kept)
      (fun i => SubmitsClaimed (args i)) where
  refl _ := World.Kept.refl
  trans _ _ _ _ := World.Kept.trans
  thread _ _ op w _ _ _ := handle_kept op w
  outside _ _ _ h := h.kept

omit [DecidableEq ι] in
theorem submitPool_safe (svc : OrderDraftConfirmationService) (w : World FakeXBOSOrderClient)
    (args : ι → SubmitArgs) : SubmitsSafely args (submitPool svc w args) :=
  fun i => OrderDraftConfirmationService.submit_safe svc (args i) w

variable {args : ι → SubmitArgs}
variable {P : Pool Channel (World FakeXBOSOrderClient) Exc CanonicalOrderProjection ι}

/-- A turn of any client keeps the tables. -/
theorem step_thread_kept (P : Pool Channel (World FakeXBOSOrderClient) Exc CanonicalOrderProjection ι)
    (i : ι) : P.state.Kept (P.step handle (.thread i)).state := by
  by_cases hcall : ∃ op k, P.threads i = .call op k
  · obtain ⟨op, k, hi⟩ := hcall
    rw [Pool.step_thread_call handle hi]
    exact handle_kept op P.state
  · rw [Pool.step_thread_of_not_call handle fun op k hk => hcall ⟨op, k, hk⟩]
    exact World.Kept.refl _

/-- A turn of a client gains nothing, or it gains the one order of a handle that had none. -/
theorem SubmitsSafely.gained_thread (h : SubmitsSafely args P) (i : ι) :
    P.state.ordersGained (P.step handle (.thread i)).state = 0 ∨
      (P.state.ordersGained (P.step handle (.thread i)).state = 1 ∧
        ¬ P.state.Spent (args i).confirmationHandleRef ∧
        (P.step handle (.thread i)).state.Spent (args i).confirmationHandleRef) := by
  by_cases hcall : ∃ op k, P.threads i = .call op k
  · obtain ⟨op, k, hi⟩ := hcall
    have hguarantee := h.guarantee (submits_compatible args) hi trivial
    rw [Pool.step_thread_call handle hi]
    rcases handle_ordersGained op P.state with hzero | ⟨request, rfl, hone, hfree, o, ho⟩
    · exact .inl hzero
    · obtain ⟨href, hclaimed⟩ := hguarantee request rfl
      refine .inr ⟨hone, ?_, _, o, (handle_kept _ P.state).1.claimed hclaimed, href ▸ ho⟩
      rintro ⟨c, o', hc, conf, ho'⟩
      obtain rfl := hc.unique hclaimed
      rw [href, ho'] at hfree
      cases hfree
  · rw [Pool.step_thread_of_not_call handle fun op k hk => hcall ⟨op, k, hk⟩]
    exact .inl (Nat.sub_self _)

/-- A handle that has had its effect gains nothing more. -/
theorem SubmitsSafely.gainedThrough_of_spent {turns : List (Turn ι (World FakeXBOSOrderClient))}
    {ref : String} (h : SubmitsSafely args P)
    (hturns : P.Admits handle (fun _ _ => True) World.Moves turns) (hspent : P.state.Spent ref) :
    gainedThrough args ref P turns = 0 := by
  induction turns generalizing P with
  | nil => rfl
  | cons turn turns ih =>
      cases turn with
      | outside change =>
          exact ih (h.step_outside (submits_compatible args) hturns.1) hturns.2
            (hturns.1.kept.spent hspent)
      | thread i =>
          have hrest := ih (h.step_thread (submits_compatible args) i hturns.1) hturns.2
            ((step_thread_kept P i).spent hspent)
          unfold gainedThrough
          rw [hrest]
          split
          · next href =>
            rcases h.gained_thread i with hzero | ⟨-, hnot, -⟩
            · omega
            · rw [href] at hnot
              exact absurd hspent hnot
          · rfl

theorem SubmitsSafely.gainedThrough_le_one {turns : List (Turn ι (World FakeXBOSOrderClient))}
    (h : SubmitsSafely args P) (ref : String)
    (hturns : P.Admits handle (fun _ _ => True) World.Moves turns) :
    gainedThrough args ref P turns ≤ 1 := by
  induction turns generalizing P with
  | nil => exact Nat.zero_le 1
  | cons turn turns ih =>
      cases turn with
      | outside change => exact ih (h.step_outside (submits_compatible args) hturns.1) hturns.2
      | thread i =>
          have hsafe : SubmitsSafely args (P.step handle (.thread i)) :=
            h.step_thread (submits_compatible args) i hturns.1
          have hrest := ih hsafe hturns.2
          unfold gainedThrough
          split
          · next href =>
            rcases h.gained_thread i with hzero | ⟨hone, -, hspent⟩
            · omega
            · rw [href] at hspent
              rw [hsafe.gainedThrough_of_spent hturns.2 hspent]
              omega
          · omega

/-- The tables are kept along a schedule. -/
theorem run_pool_kept {turns : List (Turn ι (World FakeXBOSOrderClient))}
    (hturns : P.Admits handle (fun _ _ => True) World.Moves turns) :
    P.state.Kept (P.run handle turns).state := by
  induction turns generalizing P with
  | nil => exact World.Kept.refl _
  | cons turn turns ih =>
      cases turn with
      | outside change => exact World.Kept.trans hturns.1.kept (ih hturns.2)
      | thread i => exact World.Kept.trans (step_thread_kept P i) (ih hturns.2)

/-- Along every schedule of `submit` calls, with anything else moving in between: a handle gains at
most one order through them, its claim stays, and all calls on it that return return one order. -/
theorem submit_exactlyOnce (svc : OrderDraftConfirmationService) (w : World FakeXBOSOrderClient)
    (args : ι → SubmitArgs) (turns : List (Turn ι (World FakeXBOSOrderClient)))
    (hturns : (submitPool svc w args).Admits handle (fun _ _ => True) World.Moves turns)
    (ref : String) :
    gainedThrough args ref (submitPool svc w args) turns ≤ 1 ∧
      (∀ before after clientRef, turns = before ++ after →
        ((submitPool svc w args).run handle before).state.Claimed ref clientRef →
          ((submitPool svc w args).run handle turns).state.Claimed ref clientRef) ∧
      (∀ i j order order', (args i).confirmationHandleRef = ref →
        (args j).confirmationHandleRef = ref →
          ((submitPool svc w args).run handle turns).threads i = .done order →
            ((submitPool svc w args).run handle turns).threads j = .done order' →
              order = order') := by
  have hsafe := submitPool_safe svc w args
  refine ⟨hsafe.gainedThrough_le_one ref hturns, ?_, ?_⟩
  · rintro before after clientRef rfl hclaimed
    rw [Pool.run_append]
    exact (run_pool_kept ((Pool.admits_append handle).mp hturns).2).1.claimed hclaimed
  · intro i j order order' hi hj hdone hdone'
    have hend := Pool.safe_run (submits_compatible args) hsafe hturns
    -- both have ended in one claim and one entry of the order table
    obtain ⟨hclaimed, hordered⟩ :=
      hend.post_of_done (submits_compatible args) (r := .ok order) hdone order rfl
    obtain ⟨hclaimed', hordered'⟩ :=
      hend.post_of_done (submits_compatible args) (r := .ok order') hdone' order' rfl
    rw [hi] at hclaimed
    rw [hj] at hclaimed'
    have hrefs := hclaimed.unique hclaimed'
    rw [hrefs] at hordered
    exact hordered.unique hordered'

end Pool

section Fixture

open Fixture

/-- Two clients take turns on one confirmation while the first response is lost. -/
def lostResponse : List (Turn Bool (World FakeXBOSOrderClient)) :=
  .outside (ChannelCall.change ·
      (.orderPortChanges (FakeXBOSOrderClient.Event.failNext false true))) ::
    (List.replicate 20 [Turn.thread true, .thread false]).flatten

def twoSubmits : Pool Channel (World FakeXBOSOrderClient) Exc CanonicalOrderProjection Bool :=
  submitPool {} reviewed fun _ => submission "submit:fixture:one" 20

theorem submit_exactlyOnce_lostResponse :
    gainedThrough (fun _ => submission "submit:fixture:one" 20) confirmationHandle twoSubmits
        lostResponse ≤ 1 ∧
      (orderOf (twoSubmits.run handle lostResponse).state "submit:fixture:one").isSome = true := by
  refine ⟨(submit_exactlyOnce {} reviewed _ lostResponse ?_ confirmationHandle).1,
    by decide +kernel⟩
  refine Pool.admits_of_forall handle (fun change hchange w => ?_) _
  obtain rfl : change = _ := by simpa [lostResponse] using hchange
  exact .inl ⟨_, rfl⟩

end Fixture

end XbosCustomerChannel
