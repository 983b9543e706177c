import XbosCustomerChannel.Order.Completion
import XbosCustomerChannel.Run

/-!
# What every operation keeps

Facts that hold along every run and every interleaving, because each single operation keeps them,
whatever program issues it: sessions are stored under their own references, provenance records are
never rewritten except for their claim, a claim is never changed, an order is never replaced.
-/

namespace XbosCustomerChannel

open Effects Effects.Program Data

/-! ## Sessions are keyed by their references -/

section Keyed

variable {π : Type} [XBOSOrderPort π] [Hashlib]

omit [XBOSOrderPort π] [Hashlib] in
theorem World.Keyed.rotated {w : World π} (hk : w.Keyed) {key : String}
    {current : CustomerSessionSnapshot} (h : w.sessions.sessions.get? key = some current)
    (now : Int) (replacement : CustomerSessionSnapshot) :
    (w.rotated key current now replacement).Keyed := by
  intro k s hs
  have hs : ((w.sessions.sessions.set key _).set replacement.sessionRef replacement).get? k =
    some s := hs
  rw [Dict.get?_set, Dict.get?_set] at hs
  split at hs
  · next hkey =>
    obtain rfl := Option.some.inj hs
    exact hkey.symm
  split at hs
  · next hkey =>
    obtain rfl := Option.some.inj hs
    rw [hkey]
    exact hk key current h
  · exact hk k s hs

theorem handle_keyed (op : Channel.Op) (w : World π) (hk : w.Keyed) : (handle op w).2.Keyed := by
  cases op with
  | session op =>
      cases op with
      | put base changes => exact hk.stored _
      | putWithLegacyAlias s a =>
          obtain ⟨r, aliases, hput, -⟩ := w.sessions.putWithLegacyAlias_cases s a
          show World.Keyed { w with sessions := (w.sessions.putWithLegacyAlias s a).2 }
          rw [hput]
          exact hk.stored s
      | rotateIfActive ref owner now replacement =>
          show World.Keyed { w with
            sessions := (w.sessions.rotateIfActive ref owner now replacement).2 }
          rcases w.sessions.rotateIfActive_cases ref owner now replacement with
            ⟨r, hrot, -⟩ | ⟨current, hget, -, -, -, -, hrot⟩
          · rw [hrot]
            exact hk
          · rw [hrot]
            exact hk.rotated hget now replacement
      | canonicalRef ref => exact hk
      | get ref => exact hk
      | idempotentResult ref key => exact hk
      | recordIdempotentResult ref key s => exact hk
  | provenance op => exact hk
  | order op => exact hk
  | upstream op => exact hk
  | orderAuthority op => exact hk

variable (svc : OrderDraftConfirmationService)

theorem step_keyed {w : World π} (hk : w.Keyed) (call : ChannelCall π) :
    (step svc w call).Keyed := by
  refine step_invariant svc (fun h => ?_) (fun op w _ => handle_keyed op w) (Uses.all _) hk
  cases call <;> exact h

theorem run_keyed {w : World π} (hk : w.Keyed) (calls : List (ChannelCall π)) :
    (run svc w calls).Keyed :=
  run_invariant svc (I := World.Keyed) (fun _ call h => step_keyed svc h call) hk calls

omit [XBOSOrderPort π] [Hashlib] in
theorem start_keyed (orders : π) (upstream : Upstream) (refs : RefSource) :
    (World.start orders upstream refs).Keyed := by
  intro k s h
  cases h

end Keyed

/-! ## Records and claims -/

/-- A record as it may look later: only its claim may be new, and a claim stays. -/
structure RecordKept (r r' : ConfirmationProvenanceRecord) : Prop where
  same : ∃ claim, r' = { r with clientSubmitRefClaim := claim }
  claim : ∀ c, r.clientSubmitRefClaim = some c → r'.clientSubmitRefClaim = some c

namespace RecordKept

variable {r r' r'' : ConfirmationProvenanceRecord}

theorem refl (r : ConfirmationProvenanceRecord) : RecordKept r r :=
  ⟨⟨r.clientSubmitRefClaim, rfl⟩, fun _ h => h⟩

theorem trans (h₁ : RecordKept r r') (h₂ : RecordKept r' r'') : RecordKept r r'' := by
  refine ⟨?_, fun c h => h₂.claim c (h₁.claim c h)⟩
  obtain ⟨c₁, rfl⟩ := h₁.same
  obtain ⟨c₂, rfl⟩ := h₂.same
  exact ⟨c₂, rfl⟩

theorem binding (h : RecordKept r r') : r'.binding = r.binding := by
  obtain ⟨c, rfl⟩ := h.same
  rfl

theorem confirmationRef (h : RecordKept r r') :
    r'.authoritativeXbosConfirmationRef = r.authoritativeXbosConfirmationRef := by
  obtain ⟨c, rfl⟩ := h.same
  rfl

theorem snapshot (h : RecordKept r r') : r'.authoritativeSnapshot = r.authoritativeSnapshot := by
  obtain ⟨c, rfl⟩ := h.same
  rfl

theorem fingerprint (h : RecordKept r r') : r'.commercialFingerprint = r.commercialFingerprint := by
  obtain ⟨c, rfl⟩ := h.same
  rfl

end RecordKept

/-- Every record of `w` is still there in `w'`. -/
def World.RecordsKept {π : Type} (w w' : World π) : Prop :=
  ∀ handle r, w.provenance.resolveConfirmation handle = some r →
    ∃ r', w'.provenance.resolveConfirmation handle = some r' ∧ RecordKept r r'

/-- The handle is claimed for the client reference. -/
def World.Claimed {π : Type} (w : World π) (handle clientRef : String) : Prop :=
  ∃ r, w.provenance.resolveConfirmation handle = some r ∧
    r.clientSubmitRefClaim = some clientRef

namespace World

variable {π : Type}

theorem RecordsKept.refl (w : World π) : w.RecordsKept w := fun _ r h => ⟨r, h, .refl r⟩

theorem RecordsKept.trans {w w' w'' : World π} (h₁ : w.RecordsKept w') (h₂ : w'.RecordsKept w'') :
    w.RecordsKept w'' := by
  intro handle r h
  obtain ⟨r', h', hr'⟩ := h₁ handle r h
  obtain ⟨r'', h'', hr''⟩ := h₂ handle r' h'
  exact ⟨r'', h'', hr'.trans hr''⟩

theorem RecordsKept.of_eq {w w' : World π} (h : w'.provenance = w.provenance) :
    w.RecordsKept w' := by
  intro handle r hr
  exact ⟨r, by rw [h]; exact hr, .refl r⟩

/-- A claim is never changed once it is set. -/
theorem RecordsKept.claimed {w w' : World π} (h : w.RecordsKept w') {handle clientRef : String}
    (hc : w.Claimed handle clientRef) : w'.Claimed handle clientRef := by
  obtain ⟨r, hr, hclaim⟩ := hc
  obtain ⟨r', hr', hkept⟩ := h handle r hr
  exact ⟨r', hr', hkept.claim _ hclaim⟩

theorem Claimed.unique {w : World π} {handle c c' : String} (h : w.Claimed handle c)
    (h' : w.Claimed handle c') : c = c' := by
  obtain ⟨r, hr, hc⟩ := h
  obtain ⟨r', hr', hc'⟩ := h'
  rw [hr] at hr'
  obtain rfl := Option.some.inj hr'
  rw [hc] at hc'
  exact Option.some.inj hc'

theorem recordsKept_claimed (w : World π) (args : SubmitArgs) : w.RecordsKept (w.claimed args) := by
  intro handle r hr
  unfold claimed InMemoryChannelProvenanceStore.claimConfirmation
  cases hfound : w.provenance.confirmations.get? args.confirmationHandleRef with
  | none => exact ⟨r, hr, .refl r⟩
  | some current =>
      dsimp only
      split
      · next hclaim =>
        by_cases hh : handle = args.confirmationHandleRef
        · subst hh
          obtain rfl : current = r := Option.some.inj (hfound.symm.trans hr)
          refine ⟨_, Dict.get?_set_self _ _ _, ⟨_, rfl⟩, fun c h => ?_⟩
          rw [hclaim] at h
          cases h
        · exact ⟨r, (Dict.get?_set_of_ne _ hh _).trans hr, .refl r⟩
      · split
        · exact ⟨r, hr, .refl r⟩
        · exact ⟨r, hr, .refl r⟩

/-- A successful claim is set. -/
theorem claimed_claimed {w : World π} {args : SubmitArgs} {record : ConfirmationProvenanceRecord}
    (hfound : w.provenance.resolveConfirmation args.confirmationHandleRef = some record)
    (hclaim : record.clientSubmitRefClaim = none ∨
      record.clientSubmitRefClaim = some args.clientSubmitRef) :
    (w.claimed args).Claimed args.confirmationHandleRef args.clientSubmitRef := by
  unfold claimed InMemoryChannelProvenanceStore.claimConfirmation Claimed
  unfold InMemoryChannelProvenanceStore.resolveConfirmation at hfound ⊢
  rw [hfound]
  dsimp only
  rcases hclaim with hclaim | hclaim
  · rw [hclaim]
    exact ⟨_, Dict.get?_set_self _ _ _, rfl⟩
  · rw [hclaim]
    dsimp only
    rw [if_neg (by simp)]
    exact ⟨record, hfound, hclaim⟩

end World

theorem handle_recordsKept {π : Type} [XBOSOrderPort π] [Hashlib] (op : Channel.Op) (w : World π) :
    w.RecordsKept (handle op w).2 := by
  cases op with
  | session op => exact .of_eq rfl
  | order op => exact .of_eq rfl
  | upstream op => exact .of_eq rfl
  | orderAuthority op => exact .of_eq rfl
  | provenance op =>
      cases op with
      | resolveEvidence handle => exact .of_eq rfl
      | resolveConfirmation handle => exact .of_eq rfl
      | issueEvidence session p =>
          intro handle r hr
          refine ⟨r, ?_, .refl r⟩
          show (w.provenance.issueEvidence w.refs session p).2.resolveConfirmation handle = some r
          unfold InMemoryChannelProvenanceStore.issueEvidence
          split <;> exact hr
      | issueConfirmation session c =>
          intro handle r hr
          refine ⟨r, ?_, .refl r⟩
          show (w.provenance.issueConfirmation w.refs session c).2.resolveConfirmation handle =
            some r
          unfold InMemoryChannelProvenanceStore.issueConfirmation
          split
          · exact hr
          · refine (Dict.get?_set_of_ne _ ?_ _).trans hr
            -- a fresh handle is not one in use
            rintro rfl
            have hnew := w.provenance.get?_newConfirmationHandle w.refs
            rw [show w.provenance.confirmations.get? _ = some r from hr] at hnew
            cases hnew
      | claimConfirmation handle clientRef =>
          exact World.recordsKept_claimed w ⟨"", handle, clientRef, 0⟩

/-! ## Orders -/

/-- How the fixture's tables fit together. -/
structure FakeXBOSOrderClient.Consistent (client : FakeXBOSOrderClient) : Prop where
  order : ∀ c conf o, client.ordersByClientRef.get? c = some (conf, o) →
    o.clientSubmitRef = c ∧ o.confirmationRef = conf ∧ o.orderRef ≠ "" ∧
      client.clientRefByConfirmation.get? conf = some c
  claimed : ∀ conf c, client.clientRefByConfirmation.get? conf = some c →
    ∃ o, client.ordersByClientRef.get? c = some (conf, o)

namespace FakeXBOSOrderClient

theorem nextOrder_orderRef_ne (client : FakeXBOSOrderClient) (request : OrderSubmitRequest) :
    (client.nextOrder request).orderRef ≠ "" := by
  intro h
  have h := congrArg String.toList h
  unfold nextOrder at h
  rw [String.toList_append] at h
  exact absurd (List.append_eq_nil_iff.mp h).1 (by decide)

theorem Consistent.of_same {client client' : FakeXBOSOrderClient} (h : client.Consistent)
    (hsame : client.SameTables client') : client'.Consistent := by
  refine ⟨?_, ?_⟩
  · rw [hsame.orders, hsame.clientRefs]
    exact h.order
  · rw [hsame.orders, hsame.clientRefs]
    exact h.claimed

theorem Consistent.placed {client : FakeXBOSOrderClient} (h : client.Consistent)
    {request : OrderSubmitRequest} (hp : client.Places request) :
    (client.placed request).Consistent := by
  -- a claim for this client reference would come with an order, and there is none
  have hunclaimed : client.clientRefByConfirmation.get? request.confirmationRef = none := by
    rcases hp.unclaimed with hnone | hsome
    · exact hnone
    · obtain ⟨o, ho⟩ := h.claimed _ _ hsome
      rw [hp.free] at ho
      cases ho
  refine ⟨fun c conf o ho => ?_, fun conf c hc => ?_⟩
  · change (client.ordersByClientRef.set request.clientSubmitRef
      (request.confirmationRef, client.nextOrder request)).get? c = some (conf, o) at ho
    show _ ∧ _ ∧ _ ∧ (client.clientRefByConfirmation.set request.confirmationRef
      request.clientSubmitRef).get? conf = some c
    rw [Dict.get?_set] at ho
    split at ho
    · next hc =>
      subst hc
      obtain ⟨rfl, rfl⟩ := Prod.ext_iff.mp (Option.some.inj ho)
      exact ⟨rfl, rfl, client.nextOrder_orderRef_ne request, Dict.get?_set_self _ _ _⟩
    · obtain ⟨h₁, h₂, h₃, h₄⟩ := h.order c conf o ho
      refine ⟨h₁, h₂, h₃, ?_⟩
      rw [Dict.get?_set_of_ne]
      · exact h₄
      · rintro rfl
        rw [hunclaimed] at h₄
        cases h₄
  · change (client.clientRefByConfirmation.set request.confirmationRef
      request.clientSubmitRef).get? conf = some c at hc
    show ∃ o, (client.ordersByClientRef.set request.clientSubmitRef
      (request.confirmationRef, client.nextOrder request)).get? c = some (conf, o)
    rw [Dict.get?_set] at hc
    split at hc
    · next hconf =>
      subst hconf
      obtain rfl := Option.some.inj hc
      exact ⟨_, Dict.get?_set_self _ _ _⟩
    · obtain ⟨o, ho⟩ := h.claimed conf c hc
      refine ⟨o, ?_⟩
      rw [Dict.get?_set_of_ne]
      · exact ho
      · rintro rfl
        rw [hp.free] at ho
        cases ho

theorem Consistent.submitOrder {client : FakeXBOSOrderClient} (h : client.Consistent)
    (request : OrderSubmitRequest) : (client.submitOrder request).2.Consistent := by
  rcases client.submitOrder_cases request with
    ⟨o, -, heq⟩ | ⟨hp, heq | heq⟩ | ⟨-, -, e, client', hsame, heq, -⟩
  · rw [heq]; exact h
  · rw [heq]; exact h.placed hp
  · rw [heq]; exact h.placed hp
  · rw [heq]; exact h.of_same hsame

theorem consistent_empty : Consistent {} :=
  ⟨fun c conf o h => (by cases h), fun conf c h => (by cases h)⟩

/-- Preparing and every event leave the orders alone. -/
theorem prepareOrderConfirmation_orders (client : FakeXBOSOrderClient)
    (quote : CommercialQuoteSnapshot) (context : ServiceModeProjection) (now : Int) :
    (client.prepareOrderConfirmation quote context now).2.ordersByClientRef =
        client.ordersByClientRef ∧
      (client.prepareOrderConfirmation quote context now).2.clientRefByConfirmation =
        client.clientRefByConfirmation := by
  unfold prepareOrderConfirmation
  split
  · exact ⟨rfl, rfl⟩
  split
  · exact ⟨rfl, rfl⟩
  split
  · exact ⟨rfl, rfl⟩
  · exact ⟨rfl, rfl⟩

theorem occur_orders (event : Event) (client : FakeXBOSOrderClient) :
    (occur event client).ordersByClientRef = client.ordersByClientRef ∧
      (occur event client).clientRefByConfirmation = client.clientRefByConfirmation := by
  cases event with
  | failNext before after => exact ⟨rfl, rfl⟩
  | invalidateConfirmation ref => exact ⟨rfl, rfl⟩
  | replaceIssuedConfirmation ref confirmation =>
      unfold occur replaceIssuedConfirmation
      dsimp only
      split
      · exact ⟨rfl, rfl⟩
      split
      · exact ⟨rfl, rfl⟩
      · exact ⟨rfl, rfl⟩

theorem Consistent.of_orders {client client' : FakeXBOSOrderClient} (h : client.Consistent)
    (horders : client'.ordersByClientRef = client.ordersByClientRef ∧
      client'.clientRefByConfirmation = client.clientRefByConfirmation) : client'.Consistent := by
  refine ⟨?_, ?_⟩
  · rw [horders.1, horders.2]
    exact h.order
  · rw [horders.1, horders.2]
    exact h.claimed

/-- Orders are only ever added. -/
theorem extends_placed {client : FakeXBOSOrderClient} {request : OrderSubmitRequest}
    (hp : client.Places request) :
    Dict.Extends client.ordersByClientRef (client.placed request).ordersByClientRef :=
  Dict.Extends.set_of_none hp.free _

theorem extends_submitOrder (client : FakeXBOSOrderClient) (request : OrderSubmitRequest) :
    Dict.Extends client.ordersByClientRef (client.submitOrder request).2.ordersByClientRef := by
  rcases client.submitOrder_cases request with
    ⟨o, -, heq⟩ | ⟨hp, heq | heq⟩ | ⟨-, -, e, client', hsame, heq, -⟩
  · rw [heq]; exact Dict.Extends.refl _
  · rw [heq]; exact extends_placed hp
  · rw [heq]; exact extends_placed hp
  · rw [heq, hsame.orders]; exact Dict.Extends.refl _

end FakeXBOSOrderClient

/-- Every order of `w` is still there in `w'`. -/
def World.OrdersKept (w w' : World FakeXBOSOrderClient) : Prop :=
  Dict.Extends w.orders.ordersByClientRef w'.orders.ordersByClientRef

section Orders

variable [Hashlib]

theorem handle_ordersKept (op : Channel.Op) (w : World FakeXBOSOrderClient) :
    w.OrdersKept (handle op w).2 := by
  cases op with
  | session op => exact Dict.Extends.refl _
  | provenance op => exact Dict.Extends.refl _
  | upstream op => exact Dict.Extends.refl _
  | orderAuthority op => exact Dict.Extends.refl _
  | order op =>
      cases op with
      | submitOrder request => exact w.orders.extends_submitOrder request
      | prepareOrderConfirmation quote context now =>
          unfold World.OrdersKept
          rw [show (handle (.order (.prepareOrderConfirmation quote context now)) w).2.orders =
            (w.orders.prepareOrderConfirmation quote context now).2 from rfl,
            (w.orders.prepareOrderConfirmation_orders quote context now).1]
          exact Dict.Extends.refl _
      | resolveServiceContext => exact Dict.Extends.refl _
      | resolveOrderConfirmation => exact Dict.Extends.refl _
      | getOrderByClientRef => exact Dict.Extends.refl _

theorem handle_consistent (op : Channel.Op) (w : World FakeXBOSOrderClient)
    (h : w.orders.Consistent) : (handle op w).2.orders.Consistent := by
  cases op with
  | session op => exact h
  | provenance op => exact h
  | upstream op => exact h
  | orderAuthority op => exact h
  | order op =>
      cases op with
      | submitOrder request => exact h.submitOrder request
      | prepareOrderConfirmation quote context now =>
          exact h.of_orders (w.orders.prepareOrderConfirmation_orders quote context now)
      | resolveServiceContext => exact h
      | resolveOrderConfirmation => exact h
      | getOrderByClientRef => exact h

variable (svc : OrderDraftConfirmationService)

theorem step_consistent {w : World FakeXBOSOrderClient} (h : w.orders.Consistent)
    (call : ChannelCall FakeXBOSOrderClient) : (step svc w call).orders.Consistent := by
  refine step_invariant svc (I := fun w => w.orders.Consistent) (fun h => ?_)
    (fun op w _ => handle_consistent op w) (Uses.all _) h
  cases call with
  | orderPortChanges event => exact h.of_orders (FakeXBOSOrderClient.occur_orders event w.orders)
  | _ => exact h

theorem run_consistent {w : World FakeXBOSOrderClient} (h : w.orders.Consistent)
    (calls : List (ChannelCall FakeXBOSOrderClient)) : (run svc w calls).orders.Consistent :=
  run_invariant svc (I := fun w => w.orders.Consistent) (fun _ call h => step_consistent svc h call)
    h calls

/-- What every entry of a run keeps: the records with their claims, and the orders. -/
def World.Kept (w w' : World FakeXBOSOrderClient) : Prop := w.RecordsKept w' ∧ w.OrdersKept w'

omit [Hashlib] in
theorem World.Kept.refl (w : World FakeXBOSOrderClient) : w.Kept w :=
  ⟨.refl w, Dict.Extends.refl _⟩

omit [Hashlib] in
theorem World.Kept.trans {w w' w'' : World FakeXBOSOrderClient} (h₁ : w.Kept w')
    (h₂ : w'.Kept w'') : w.Kept w'' := ⟨h₁.1.trans h₂.1, Dict.Extends.trans h₁.2 h₂.2⟩

theorem handle_kept (op : Channel.Op) (w : World FakeXBOSOrderClient) :
    w.Kept (handle op w).2 := ⟨handle_recordsKept op w, handle_ordersKept op w⟩

theorem exec_kept {α : Type} (p : Service α) (w : World FakeXBOSOrderClient) :
    w.Kept (exec handle p w).2 :=
  exec_preserves handle World.Kept.refl (fun _ _ _ h₁ h₂ => h₁.trans h₂)
    (fun op w _ => handle_kept op w) (Uses.all p) w

omit [Hashlib] in
theorem change_kept (w : World FakeXBOSOrderClient) (call : ChannelCall FakeXBOSOrderClient) :
    w.Kept (call.change w) := by
  cases call with
  | orderPortChanges event =>
      refine ⟨.of_eq rfl, ?_⟩
      unfold World.OrdersKept
      rw [show (ChannelCall.change w (.orderPortChanges event)).orders =
        FakeXBOSOrderClient.occur event w.orders from rfl,
        (FakeXBOSOrderClient.occur_orders event w.orders).1]
      exact Dict.Extends.refl _
  | upstreamChanges u => exact ⟨.of_eq rfl, Dict.Extends.refl _⟩
  | _ => exact .refl w

theorem World.Moves.kept {w w' : World FakeXBOSOrderClient} (h : w.Moves w') : w.Kept w' := by
  rcases h with ⟨call, rfl⟩ | ⟨op, rfl⟩
  · exact change_kept w call
  · exact handle_kept op w

theorem step_kept (w : World FakeXBOSOrderClient) (call : ChannelCall FakeXBOSOrderClient) :
    w.Kept (step svc w call) := World.Kept.trans (change_kept w call) (exec_kept _ _)

theorem run_kept (w : World FakeXBOSOrderClient) (calls : List (ChannelCall FakeXBOSOrderClient)) :
    w.Kept (run svc w calls) := by
  induction calls generalizing w with
  | nil => exact .refl w
  | cons call calls ih => exact (step_kept svc w call).trans (ih _)

end Orders

end XbosCustomerChannel
