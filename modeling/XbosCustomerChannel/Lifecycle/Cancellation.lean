import XbosCustomerChannel.Lifecycle.FakeClient

/-!
# How often an order is canceled

A cancellation is decided once under its client reference, but the policy looks at the payment and the
fulfillment of the order, not at its state: an order that is canceled already can be canceled again
under a new reference. Changes are refused for such an order. Runs in which that does not happen cancel
every order at most once.
-/

namespace XbosCustomerChannel

open Data FakeXBOSOrderChangeFulfillmentClient

/-! ## Runs -/

inductive LifecycleOp
  | registerOrder (orderRef correlationRef : String) (paymentState : UpstreamPaymentCommercialState)
      (fulfillmentStage : Option FulfillmentStage) (merchantInitiatedCancel : Bool)
  | setFulfillmentStage (orderRef : String) (stage : Option FulfillmentStage)
  | requestOrderChange (request : OrderChangeRequest)
  | requestCancellation (request : CancellationRequest)
  deriving DecidableEq

/-- The order that is registered. -/
def LifecycleOp.registers : LifecycleOp → Option String
  | .registerOrder orderRef _ _ _ _ => some orderRef
  | _ => none

/-- The cancellation that is requested. -/
def LifecycleOp.cancellation? : LifecycleOp → Option CancellationRequest
  | .requestCancellation request => some request
  | _ => none

/-- Every order is registered at most once. -/
def RegistersOnce (ops : List LifecycleOp) : Prop := (ops.filterMap LifecycleOp.registers).Nodup

instance (ops : List LifecycleOp) : Decidable (RegistersOnce ops) :=
  inferInstanceAs (Decidable (ops.filterMap LifecycleOp.registers).Nodup)

namespace FakeXBOSOrderChangeFulfillmentClient

def step (client : FakeXBOSOrderChangeFulfillmentClient) :
    LifecycleOp → FakeXBOSOrderChangeFulfillmentClient
  | .registerOrder orderRef correlationRef paymentState fulfillmentStage merchantInitiatedCancel =>
      client.registerOrder orderRef correlationRef paymentState fulfillmentStage
        merchantInitiatedCancel
  | .setFulfillmentStage orderRef stage => (client.setFulfillmentStage orderRef stage).2
  | .requestOrderChange request => (client.requestOrderChange request).2
  | .requestCancellation request => (client.requestCancellation request).2

def run (client : FakeXBOSOrderChangeFulfillmentClient) (ops : List LifecycleOp) :
    FakeXBOSOrderChangeFulfillmentClient := ops.foldl step client

end FakeXBOSOrderChangeFulfillmentClient

/-- A call, and the client it was made to. -/
structure LifecycleEvent where
  client : FakeXBOSOrderChangeFulfillmentClient
  op : LifecycleOp

namespace LifecycleEvent

variable (e : LifecycleEvent) (orderRef : String)

def after : FakeXBOSOrderChangeFulfillmentClient := e.client.step e.op

/-- The call is a cancellation of the order. -/
def cancels : Bool :=
  match e.op with
  | .requestCancellation request => request.orderRef = orderRef
  | _ => false

/-- How much `canonical_cancel_effect_count` grows. -/
def growth : Nat := e.after.canonicalCancelEffectCount - e.client.canonicalCancelEffectCount

/-- The call is a cancellation of the order, decided anew and accepted for a case that is not the
merchant's, and it demands a financial correction. -/
def demandsCorrection : Bool :=
  match e.op with
  | .requestCancellation request =>
      request.orderRef = orderRef && (e.client.cancelByRef.get? request.clientCancelRef).isNone &&
        match (e.client.requestCancellation request).1 with
        | .ok decision =>
            decision.accepted && decision.case ≠ .merchantInitiatedCancellation &&
              decision.financialCorrectionRequired
        | .error _ => false
  | _ => false

/-- A cancellation of an order that is canceled already leaves the orders and the count. -/
def NoFurtherEffect : Prop :=
  ∀ request record, e.op = .requestCancellation request →
    e.client.records.get? request.orderRef = some record → record.orderState = .canceled →
      e.after.records = e.client.records ∧
        e.after.canonicalCancelEffectCount = e.client.canonicalCancelEffectCount

/-- The call is a new cancellation of an order that is canceled already, but not by the merchant, and
that has no fulfillment stage. -/
def Recancels : Prop :=
  ∃ request record, e.op = .requestCancellation request ∧ Decides e.client request record ∧
    Cancellable record ∧ record.orderState = .canceled

variable {e} in
theorem recancels_iff : e.Recancels ↔ ∃ request ∈ e.op.cancellation?,
    ∃ record ∈ e.client.records.get? request.orderRef,
      e.client.cancelByRef.get? request.clientCancelRef = none ∧
        record.correlationRef = request.correlationRef ∧ Cancellable record ∧
          record.orderState = .canceled := by
  obtain ⟨client, op⟩ := e
  constructor
  · rintro ⟨request, record, hop, ⟨hunused, hget, hcorrelation⟩, hcancellable, hcanceled⟩
    obtain rfl : op = _ := hop
    exact ⟨request, rfl, record, hget, hunused, hcorrelation, hcancellable, hcanceled⟩
  · rintro ⟨request, hop, record, hget, hunused, hcorrelation, hcancellable, hcanceled⟩
    cases op with
    | requestCancellation request' =>
        obtain rfl := Option.some.inj hop
        exact ⟨request', record, rfl, ⟨hunused, hget, hcorrelation⟩, hcancellable, hcanceled⟩
    | registerOrder => cases hop
    | setFulfillmentStage => cases hop
    | requestOrderChange => cases hop

instance : Decidable e.Recancels := decidable_of_iff _ recancels_iff.symm

end LifecycleEvent

namespace FakeXBOSOrderChangeFulfillmentClient

/-- The calls of a run. -/
def trace (client : FakeXBOSOrderChangeFulfillmentClient) : List LifecycleOp → List LifecycleEvent
  | [] => []
  | op :: ops => ⟨client, op⟩ :: trace (client.step op) ops

theorem run_concat (client : FakeXBOSOrderChangeFulfillmentClient) (ops : List LifecycleOp)
    (op : LifecycleOp) : client.run (ops ++ [op]) = (client.run ops).step op := by
  simp [run]

theorem trace_concat (client : FakeXBOSOrderChangeFulfillmentClient) (ops : List LifecycleOp)
    (op : LifecycleOp) : client.trace (ops ++ [op]) = client.trace ops ++ [⟨client.run ops, op⟩] := by
  induction ops generalizing client with
  | nil => rfl
  | cons first ops ih => exact congrArg (_ :: ·) (ih (client.step first))

end FakeXBOSOrderChangeFulfillmentClient

/-! ## What one call adds -/

/-- How often an order is canceled, by the count of the client. -/
def effectsOf (orderRef : String) (T : List LifecycleEvent) : Nat :=
  ((T.filter (·.cancels orderRef)).map LifecycleEvent.growth).sum

/-- How many decisions demand a correction for an order. -/
def correctionsOf (orderRef : String) (T : List LifecycleEvent) : Nat :=
  T.countP (·.demandsCorrection orderRef)

/-- Every order is canceled once at most, and corrected once at most; a canceled one is left as it
is. -/
structure CancelledOnce (T : List LifecycleEvent) : Prop where
  effects : ∀ orderRef, effectsOf orderRef T ≤ 1
  corrections : ∀ orderRef, correctionsOf orderRef T ≤ 1
  further : ∀ e ∈ T, e.NoFurtherEffect

variable {T : List LifecycleEvent} {e : LifecycleEvent} {orderRef : String}

theorem effectsOf_concat : effectsOf orderRef (T ++ [e]) =
    effectsOf orderRef T + if e.cancels orderRef then e.growth else 0 := by
  unfold effectsOf
  rw [List.filter_append, List.map_append, List.sum_append]
  by_cases hcancels : e.cancels orderRef
  · simp [hcancels]
  · simp [hcancels]

theorem correctionsOf_concat : correctionsOf orderRef (T ++ [e]) =
    correctionsOf orderRef T + if e.demandsCorrection orderRef then 1 else 0 := by
  unfold correctionsOf
  rw [List.countP_append, List.countP_singleton]

/-- A call has an effect on one order at most. -/
inductive LifecycleEvent.Adds (e : LifecycleEvent) : Prop
  | nothing (hgrowth : ∀ orderRef, e.cancels orderRef → e.growth = 0)
      (hcorrection : ∀ orderRef, e.demandsCorrection orderRef = false)
  | cancels (request : CancellationRequest) (record : LifecycleRecord)
      (hop : e.op = .requestCancellation request) (hdecides : Decides e.client request record)
      (hcancellable : Cancellable record) (hgrowth : e.growth = 1)
      (hrecords : e.after.records =
        e.client.records.set request.orderRef { record with orderState := .canceled })

theorem LifecycleEvent.adds (e : LifecycleEvent) : e.Adds := by
  obtain ⟨client, op⟩ := e
  cases op with
  | registerOrder => exact .nothing (by simp [LifecycleEvent.cancels]) fun _ => rfl
  | setFulfillmentStage => exact .nothing (by simp [LifecycleEvent.cancels]) fun _ => rfl
  | requestOrderChange => exact .nothing (by simp [LifecycleEvent.cancels]) fun _ => rfl
  | requestCancellation request =>
      cases requestCancellation_cancels client request with
      | idle hnone hrecords hcount =>
          refine .nothing (fun _ _ => ?_) (fun orderRef => ?_)
          · show (client.requestCancellation request).2.canonicalCancelEffectCount - _ = 0
            rw [hcount]
            exact Nat.sub_self _
          · by_contra hdemands
            rw [Bool.not_eq_false] at hdemands
            simp only [LifecycleEvent.demandsCorrection, Bool.and_eq_true, Option.isNone_iff_eq_none,
              decide_eq_true_eq] at hdemands
            obtain ⟨⟨-, hunused⟩, hdecision⟩ := hdemands
            split at hdecision
            · next decision hok =>
              simp only [Bool.and_eq_true, decide_eq_true_eq] at hdecision
              obtain ⟨record, hdecides, hcancellable⟩ :=
                cancellable_of_accepted hunused hok hdecision.1.1 hdecision.1.2
              exact hnone record hdecides hcancellable
            · cases hdecision
      | canceled record hdecides hcancellable hrecords hcount =>
          refine .cancels request record rfl hdecides hcancellable ?_ hrecords
          show (client.requestCancellation request).2.canonicalCancelEffectCount - _ = 1
          rw [hcount]
          exact Nat.add_sub_cancel_left ..

/-- A call that is no new cancellation of a canceled order has no further effect on one. -/
theorem LifecycleEvent.noFurtherEffect_iff {e : LifecycleEvent} :
    e.NoFurtherEffect ↔ ¬ e.Recancels := by
  obtain ⟨client, op⟩ := e
  constructor
  · rintro hno ⟨request, record, hop, hdecides, hcancellable, hcanceled⟩
    obtain rfl : op = _ := hop
    obtain ⟨-, hcount⟩ := hno request record rfl hdecides.record_eq hcanceled
    cases requestCancellation_cancels client request with
    | idle hnone => exact hnone record hdecides hcancellable
    | canceled record' hdecides' hcancellable' hrecords' hcount' =>
        exact Nat.succ_ne_self _ (hcount'.symm.trans hcount)
  · intro hnot request record hop hget hcanceled
    obtain rfl : op = _ := hop
    cases requestCancellation_cancels client request with
    | idle hnone hrecords hcount => exact ⟨hrecords, hcount⟩
    | canceled record' hdecides hcancellable =>
        have hsame := hdecides.record_eq
        rw [hget] at hsame
        obtain rfl := Option.some.inj hsame
        exact absurd ⟨request, record, rfl, hdecides, hcancellable, hcanceled⟩ hnot

/-! ## What a run adds -/

/-- What holds after a run: orders are registered in it, an order that was canceled stays so, and no
order was canceled or corrected more than once. -/
structure Settled (client : FakeXBOSOrderChangeFulfillmentClient) (ops : List LifecycleOp)
    (T : List LifecycleEvent) : Prop where
  registered : ∀ orderRef record, client.records.get? orderRef = some record →
    orderRef ∈ ops.filterMap LifecycleOp.registers
  canceled : ∀ orderRef, 0 < effectsOf orderRef T →
    ∃ record, client.records.get? orderRef = some record ∧ record.orderState = .canceled
  effects : ∀ orderRef, effectsOf orderRef T ≤ 1
  corrections : ∀ orderRef, correctionsOf orderRef T ≤ effectsOf orderRef T

theorem settled_nil : Settled {} [] [] := by
  refine ⟨?_, ?_, ?_, ?_⟩
  · intro orderRef record h
    cases h
  · intro orderRef h
    cases h
  · intro orderRef
    exact Nat.zero_le 1
  · intro orderRef
    exact le_refl 0

/-- A call that does not register an order leaves it there, and canceled if it is. -/
theorem get?_step (client : FakeXBOSOrderChangeFulfillmentClient) {op : LifecycleOp}
    {orderRef : String} (hop : op.registers ≠ some orderRef) :
    ∃ f : LifecycleRecord → LifecycleRecord,
      (client.step op).records.get? orderRef = (client.records.get? orderRef).map f ∧
        ∀ record, record.orderState = .canceled → (f record).orderState = .canceled := by
  cases op with
  | registerOrder orderRef' correlationRef paymentState fulfillmentStage merchantInitiatedCancel =>
      refine ⟨id, ?_, fun _ h => h⟩
      have hne : orderRef ≠ orderRef' := fun heq => hop (by rw [heq]; rfl)
      rw [Option.map_id_fun, id]
      exact Dict.get?_set_of_ne _ hne _
  | setFulfillmentStage orderRef' stage =>
      refine ⟨_, get?_setFulfillmentStage orderRef' stage orderRef, fun record h => ?_⟩
      split
      · exact h
      · exact h
  | requestOrderChange request =>
      refine ⟨id, ?_, fun _ h => h⟩
      rw [Option.map_id_fun, id]
      exact congrArg (fun records => Dict.get? records orderRef) (requestOrderChange_records request).1
  | requestCancellation request =>
      cases requestCancellation_cancels client request with
      | idle hnone hrecords hcount =>
          refine ⟨id, ?_, fun _ h => h⟩
          rw [Option.map_id_fun, id]
          exact congrArg (fun records => Dict.get? records orderRef) hrecords
      | canceled record hdecides hcancellable hrecords hcount =>
          refine ⟨fun record => if orderRef = request.orderRef then
            { record with orderState := .canceled } else record, ?_, fun record h => ?_⟩
          · show (client.requestCancellation request).2.records.get? orderRef = _
            rw [hrecords, Dict.get?_set]
            by_cases heq : orderRef = request.orderRef
            · subst heq
              simp [hdecides.record_eq]
            · simp [heq]
          · split
            · rfl
            · exact h

variable {client : FakeXBOSOrderChangeFulfillmentClient} {ops : List LifecycleOp} {op : LifecycleOp}

theorem Settled.registered_step (h : Settled client ops T) (orderRef : String)
    (record : LifecycleRecord) (hget : (client.step op).records.get? orderRef = some record) :
    orderRef ∈ (ops ++ [op]).filterMap LifecycleOp.registers := by
  rw [List.filterMap_append, List.mem_append]
  by_cases hop : op.registers = some orderRef
  · exact Or.inr (List.mem_filterMap.mpr ⟨op, List.mem_singleton_self op, hop⟩)
  · obtain ⟨f, hf, -⟩ := get?_step client hop
    rw [hf] at hget
    obtain ⟨record', hget', -⟩ := Option.map_eq_some_iff.mp hget
    exact Or.inl (h.registered orderRef record' hget')

/-- An order that was canceled has not been registered again. -/
theorem Settled.canceled_step (h : Settled client ops T) (honce : RegistersOnce (ops ++ [op]))
    {orderRef : String} (heffects : 0 < effectsOf orderRef T) :
    ∃ record, (client.step op).records.get? orderRef = some record ∧
      record.orderState = .canceled := by
  obtain ⟨record, hget, hcanceled⟩ := h.canceled orderRef heffects
  have hop : op.registers ≠ some orderRef := by
    intro hop
    unfold RegistersOnce at honce
    rw [List.filterMap_append, List.nodup_append] at honce
    have hagain := honce.2.2 orderRef (h.registered orderRef record hget) orderRef
      (List.mem_filterMap.mpr ⟨op, List.mem_singleton_self op, hop⟩)
    exact hagain rfl
  obtain ⟨f, hf, hkept⟩ := get?_step client hop
  exact ⟨f record, by rw [hf, hget]; rfl, hkept record hcanceled⟩

/-- A call that is no new cancellation of a canceled order keeps all this. -/
theorem Settled.step (h : Settled client ops T) (honce : RegistersOnce (ops ++ [op]))
    (hnot : ¬ (⟨client, op⟩ : LifecycleEvent).Recancels) :
    Settled (client.step op) (ops ++ [op]) (T ++ [⟨client, op⟩]) := by
  cases LifecycleEvent.adds ⟨client, op⟩ with
  | nothing hgrowth hcorrection =>
      have hsame (orderRef : String) :
          effectsOf orderRef (T ++ [⟨client, op⟩]) = effectsOf orderRef T := by
        rw [effectsOf_concat]
        split
        · next hcancels => rw [hgrowth orderRef hcancels, Nat.add_zero]
        · rfl
      refine ⟨h.registered_step, ?_, ?_, ?_⟩
      · intro orderRef heffects
        rw [hsame] at heffects
        exact h.canceled_step honce heffects
      · intro orderRef
        rw [hsame]
        exact h.effects orderRef
      · intro orderRef
        rw [hsame, correctionsOf_concat, hcorrection orderRef]
        exact h.corrections orderRef
  | cancels request record hop hdecides hcancellable hgrowth hrecords =>
      obtain rfl : op = _ := hop
      have hcancels (orderRef : String) :
          (⟨client, .requestCancellation request⟩ : LifecycleEvent).cancels orderRef = true ↔
            request.orderRef = orderRef := by
        simp [LifecycleEvent.cancels]
      -- the order is canceled for the first time
      have hfirst : effectsOf request.orderRef T = 0 := by
        by_contra hne
        obtain ⟨record', hget, hcanceled⟩ := h.canceled _ (Nat.pos_of_ne_zero hne)
        have hsame := hdecides.record_eq
        rw [hget] at hsame
        obtain rfl := Option.some.inj hsame
        exact hnot ⟨request, record', rfl, hdecides, hcancellable, hcanceled⟩
      refine ⟨h.registered_step, ?_, ?_, ?_⟩
      · intro orderRef heffects
        by_cases heq : request.orderRef = orderRef
        · subst heq
          refine ⟨{ record with orderState := .canceled }, ?_, rfl⟩
          show (LifecycleEvent.after ⟨client, .requestCancellation request⟩).records.get? _ = _
          rw [hrecords, Dict.get?_set_self]
        · rw [effectsOf_concat, if_neg (by rwa [hcancels])] at heffects
          exact h.canceled_step honce heffects
      · intro orderRef
        rw [effectsOf_concat]
        split
        · next hthis =>
          obtain rfl := (hcancels orderRef).mp hthis
          rw [hfirst, hgrowth]
        · exact h.effects orderRef
      · intro orderRef
        rw [effectsOf_concat, correctionsOf_concat]
        have hearlier := h.corrections orderRef
        by_cases hdemands :
            (⟨client, .requestCancellation request⟩ : LifecycleEvent).demandsCorrection orderRef
        · have hthis := hdemands
          simp only [LifecycleEvent.demandsCorrection, Bool.and_eq_true, decide_eq_true_eq] at hthis
          rw [if_pos hdemands, if_pos ((hcancels orderRef).mpr hthis.1.1), hgrowth]
          omega
        · rw [if_neg hdemands]
          omega

theorem settled_run {ops : List LifecycleOp} (honce : RegistersOnce ops)
    (hnot : ∀ e ∈ trace {} ops, ¬ e.Recancels) : Settled (run {} ops) ops (trace {} ops) := by
  induction ops using List.reverseRecOn with
  | nil => exact settled_nil
  | append_singleton ops op ih =>
      rw [trace_concat, run_concat] at *
      have hearlier : RegistersOnce ops := by
        unfold RegistersOnce at honce ⊢
        rw [List.filterMap_append] at honce
        exact honce.of_append_left
      refine (ih hearlier fun e he => hnot e (List.mem_append_left _ he)).step honce ?_
      exact hnot _ (List.mem_append_right _ (List.mem_singleton_self _))

/-- Over every run in which orders are registered once, every order is canceled and corrected once at
most and a canceled one is left as it is, if and only if no order that is canceled already, without a
fulfillment stage and not by the merchant, is canceled under a new reference. -/
theorem cancelledOnce_iff {ops : List LifecycleOp} (honce : RegistersOnce ops) :
    CancelledOnce (trace {} ops) ↔ ∀ e ∈ trace {} ops, ¬ e.Recancels := by
  constructor
  · intro h e he
    exact LifecycleEvent.noFurtherEffect_iff.mp (h.further e he)
  · intro hnot
    have hsettled := settled_run honce hnot
    refine ⟨hsettled.effects, ?_, ?_⟩
    · intro orderRef
      exact (hsettled.corrections orderRef).trans (hsettled.effects orderRef)
    · intro e he
      exact LifecycleEvent.noFurtherEffect_iff.mpr (hnot e he)

/-! ## Twice -/

def paidOrder (orderRef : String) : LifecycleOp :=
  .registerOrder orderRef "corr:fixture:one" .paid none false

def cancellation (orderRef clientCancelRef : String) : LifecycleOp :=
  .requestCancellation ⟨clientCancelRef, "corr:fixture:one", orderRef, "reason:fixture:changed-mind"⟩

/-- Replays, another order and a stage that is set later cancel nothing again. -/
theorem cancelledOnce_replayed :
    CancelledOnce (trace {} [paidOrder "order:1", paidOrder "order:2", cancellation "order:1" "cancel:1",
      cancellation "order:1" "cancel:1", cancellation "order:2" "cancel:2",
      .setFulfillmentStage "order:1" (some .preparation), cancellation "order:1" "cancel:3"]) :=
  (cancelledOnce_iff (by decide)).mpr (by decide +kernel)

/-- A paid order is canceled again, and corrected again, under a second reference. -/
theorem canceledTwice :
    RegistersOnce [paidOrder "order:1", cancellation "order:1" "cancel:1",
      cancellation "order:1" "cancel:2"] ∧
    ¬ CancelledOnce (trace {} [paidOrder "order:1", cancellation "order:1" "cancel:1",
      cancellation "order:1" "cancel:2"]) := by
  refine ⟨by decide, fun h => ?_⟩
  have hcorrections := h.corrections "order:1"
  revert hcorrections
  decide +kernel

end XbosCustomerChannel
