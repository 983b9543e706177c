import XbosCustomerChannel.Fixture
import XbosCustomerChannel.Invariants

/-!
# Submissions that are refused before the port

`submit` claims the handle before it looks at the state of the session. A submission that is
refused for the state alone therefore leaves the handle claimed, and only such a submission does.
-/

namespace XbosCustomerChannel

open Effects Effects.Program Data

section Refused

variable {π : Type} [XBOSOrderPort π] [Hashlib] (svc : OrderDraftConfirmationService)

/-- The stores are as they were, and no later submission is answered otherwise. -/
structure LeftAlone (w w' : World π) : Prop where
  sessions : w'.sessions = w.sessions
  provenance : w'.provenance = w.provenance
  later : ∀ (calls : List (ChannelCall π)) (args : SubmitArgs),
    (exec handle (svc.submit args) (run svc w' calls)).1 =
      (exec handle (svc.submit args) (run svc w calls)).1

theorem LeftAlone.refl (w : World π) : LeftAlone svc w w := ⟨rfl, rfl, fun _ _ => rfl⟩

/-- A submission that raises before it has put a request to the port leaves everything alone. -/
def RefusedCleanly (w : World π) (args : SubmitArgs) : Prop :=
  ∀ e w', exec handle (svc.submit args) w = (.error e, w') →
    (∀ o ∈ issued handle (svc.submit args) w, ∀ request, o.1 ≠ .order (.submitOrder request)) →
      LeftAlone svc w w'

namespace OrderDraftConfirmationService

/-- Past its checks, `submit` goes to the port first. -/
theorem submitOrder_issued (args : SubmitArgs) (request : OrderSubmitRequest) (w : World π) :
    (ChannelOp.order (.submitOrder request), w) ∈
      issued handle (svc.placeAndComplete args request) w := by
  refine mem_issued_bind_left handle ?_ _
  exact List.mem_cons_self

/-- No request is put to the port where the checks refuse. -/
theorem submitOrder_not_issued {w w' : World π} {args : SubmitArgs} {e : Exc}
    (h : exec handle (svc.submitRequest args) w = (.error e, w')) :
    ∀ o ∈ issued handle (svc.submit args) w, ∀ request, o.1 ≠ .order (.submitOrder request) := by
  intro o ho request
  rw [submit_eq, issued_bind, h, List.append_nil] at ho
  exact ChannelOp.Internal.ne_submitOrder ((svc.uses_submitRequest args).of_issued handle ho) request

end OrderDraftConfirmationService

omit [XBOSOrderPort π] [Hashlib] in
theorem World.claimed_eq {w : World π} {args : SubmitArgs} {record : ConfirmationProvenanceRecord}
    (hfound : w.provenance.resolveConfirmation args.confirmationHandleRef = some record)
    (hclaim : record.clientSubmitRefClaim = some args.clientSubmitRef) : w.claimed args = w := by
  have hfound : w.provenance.confirmations.get? args.confirmationHandleRef = some record := hfound
  unfold World.claimed InMemoryChannelProvenanceStore.claimConfirmation
  rw [hfound]
  dsimp only
  rw [hclaim]
  dsimp only
  rw [if_neg (by simp)]

omit [XBOSOrderPort π] [Hashlib] in
/-- A first claim changes the record of the handle. -/
theorem World.claimed_provenance_ne {w : World π} {args : SubmitArgs}
    {record : ConfirmationProvenanceRecord}
    (hfound : w.provenance.resolveConfirmation args.confirmationHandleRef = some record)
    (hclaim : record.clientSubmitRefClaim = none) : (w.claimed args).provenance ≠ w.provenance := by
  intro heq
  obtain ⟨r, hr, hr'⟩ := World.claimed_claimed hfound (.inl hclaim)
  rw [heq, hfound] at hr
  obtain rfl := Option.some.inj hr
  rw [hclaim] at hr'
  cases hr'

/-- Along every run, a submission is refused cleanly unless nothing but the state of the session
stands against it and its handle is unclaimed. -/
theorem submit_refusedCleanly_iff (orders : π) (upstream : Upstream) (refs : RefSource)
    (calls : List (ChannelCall π)) (args : SubmitArgs) :
    let w := run svc (World.start orders upstream refs) calls
    RefusedCleanly svc w args ↔
      ¬ ∃ session record, svc.Claims w args session record ∧
        record.clientSubmitRefClaim = none ∧
        ¬ (session.state = .review ∨ session.state = .orderSubmitting ∨
          session.state = .orderCreated) := by
  intro w
  have hk : w.Keyed := run_keyed svc (start_keyed orders upstream refs) calls
  unfold RefusedCleanly
  rcases svc.submitRequest_ends hk args with
    ⟨session, record, h, hexec⟩ | ⟨hno, e, hexec⟩ | ⟨session, record, hclaims, hstate, e, hexec⟩
  · obtain ⟨hclaims, hstate⟩ := svc.authorized_iff.mp h
    have hissued : (ChannelOp.order (.submitOrder (OrderDraftConfirmationService.requestFor args
        session record)), w.entered args session) ∈ issued handle (svc.submit args) w := by
      rw [svc.submit_eq]
      exact mem_issued_bind_of_ok handle hexec (svc.submitOrder_issued args _ _)
    refine iff_of_true (fun e w' herror hnone => absurd rfl (hnone _ hissued _)) ?_
    · rintro ⟨s, r, hclaims', -, hstate'⟩
      obtain ⟨rfl, -⟩ := hclaims.unique svc hclaims'
      exact hstate' hstate
  · refine iff_of_true (fun e' w' herror _ => ?_) ?_
    · rw [svc.submit_eq, exec_bind_error handle hexec] at herror
      obtain rfl := congrArg Prod.snd herror
      exact .refl svc w
    · rintro ⟨s, r, hclaims, -, -⟩
      exact hno s r hclaims
  · have hsubmit : exec handle (svc.submit args) w = (.error e, w.claimed args) := by
      rw [svc.submit_eq, exec_bind_error handle hexec]
    rcases hclaims.claimable with hclaim | hclaim
    · refine iff_of_false (fun h => ?_) fun h => h ⟨session, record, hclaims, hclaim, hstate⟩
      have halone := h e (w.claimed args) hsubmit (svc.submitOrder_not_issued hexec)
      exact World.claimed_provenance_ne hclaims.recorded hclaim halone.provenance
    · rw [hsubmit, World.claimed_eq hclaims.recorded hclaim]
      refine iff_of_true (fun e' w' herror _ => ?_) ?_
      · obtain rfl := congrArg Prod.snd herror
        exact .refl svc w
      · rintro ⟨s, r, hclaims', hnone, -⟩
        obtain ⟨-, rfl⟩ := hclaims.unique svc hclaims'
        rw [hclaim] at hnone
        cases hnone

end Refused

section Fixture

open Fixture

/-- The customer went back to the cart with the confirmation prepared. -/
def backInCart : List Call :=
  intoReview ++
    [prepare 1 3000 10, .transition { sessionRef, target := .cart, idempotencyKey := "k6" }]

/-- From the cart to review again. -/
def reviewAgain : List Call :=
  [.transition { sessionRef, target := .serviceMode, idempotencyKey := "k7" },
    .transition { sessionRef, target := .review, idempotencyKey := "k8" }]

/-- A submission from the cart is refused, and has claimed the handle. -/
theorem submit_from_cart_claims :
    ¬ ∀ (calls : List Call) (args : SubmitArgs), RefusedCleanly {} (run {} world calls) args := by
  intro h
  have hrefused : (exec handle (OrderDraftConfirmationService.submitRequest {}
      (submission "submit:fixture:one" 20)) (run {} world backInCart)).1.toOption.isNone = true := by
    decide +kernel
  have hclaim : ((exec handle (OrderDraftConfirmationService.submitRequest {}
        (submission "submit:fixture:one" 20))
        (run {} world backInCart)).2.provenance.resolveConfirmation confirmationHandle).bind
          (·.clientSubmitRefClaim) ≠
      ((run {} world backInCart).provenance.resolveConfirmation confirmationHandle).bind
        (·.clientSubmitRefClaim) := by
    decide +kernel
  generalize hexec : exec handle (OrderDraftConfirmationService.submitRequest {}
    (submission "submit:fixture:one" 20)) (run {} world backInCart) = result at hrefused hclaim
  obtain ⟨r, w'⟩ := result
  cases r with
  | ok request => cases hrefused
  | error e =>
      have hsubmit : exec handle (OrderDraftConfirmationService.submit {}
          (submission "submit:fixture:one" 20)) (run {} world backInCart) = (.error e, w') := by
        rw [OrderDraftConfirmationService.submit_eq, exec_bind_error handle hexec]
      have halone := h backInCart _ e w' hsubmit
        (OrderDraftConfirmationService.submitOrder_not_issued {} hexec)
      exact hclaim (by rw [halone.provenance])

-- in review again, another reference finds the handle claimed
example : (exec handle (OrderDraftConfirmationService.submit {} (submission "submit:fixture:two" 30))
    (run {} world (backInCart ++ [.submit (submission "submit:fixture:one" 20)] ++
      reviewAgain))).1.toOption.isNone = true := by
  decide +kernel

end Fixture

end XbosCustomerChannel
