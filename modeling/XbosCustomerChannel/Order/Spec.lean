import XbosCustomerChannel.Order.Service
import XbosCustomerChannel.Session.Spec

/-!
# What `submit` does

`submit` is two programs in a row: `submitRequest` makes every check, claims the handle, brings the
session into the submitting state and ends with the request; `placeAndComplete` takes it to the
port. The first is decided by the world it starts in (`Authorized`).
-/

namespace XbosCustomerChannel

open Effects Effects.Program Data

/-- Every session is stored under its own reference. -/
def World.Keyed {π : Type} (w : World π) : Prop :=
  ∀ k s, w.sessions.sessions.get? k = some s → s.sessionRef = k

/-- The submission again, at another time. -/
def SubmitArgs.at (args : SubmitArgs) (nowEpoch : Int) : SubmitArgs := { args with nowEpoch }

namespace OrderDraftConfirmationService

variable (svc : OrderDraftConfirmationService)

/-- `submit` up to the request. -/
def submitRequest [Hashlib] (args : SubmitArgs) : Service OrderSubmitRequest := do
  let session ← svc.requireActiveSecureSession args.sessionRef args.nowEpoch
  let record ← boundRecord args session
  requireFreshConfirmation args record
  claimHandle args
  let session ← svc.enterSubmitting args session
  pure (requestFor args session record)

theorem submit_eq [Hashlib] (args : SubmitArgs) :
    svc.submit args = svc.submitRequest args >>= svc.placeAndComplete args := by
  unfold submit submitRequest
  simp only [bind_assoc, pure_bind]

/-! ## The operations of `submit` -/

theorem uses_requireActiveSecureSession (ref : String) (now : Int) :
    Uses ChannelOp.Reads (svc.requireActiveSecureSession ref now) := by
  refine Uses.tryCatch (svc.sessions.uses_validateActiveSession ref now) fun exc => ?_
  split <;> trivial

theorem uses_boundRecord (args : SubmitArgs) (session : CustomerSessionSnapshot) :
    Uses ChannelOp.Reads (boundRecord args session) := by
  refine uses_ask_bind trivial fun found => ?_
  cases found with
  | none => trivial
  | some record => exact Uses.bind (Uses.raiseIf _ _) fun _ => Uses.done _

theorem uses_requireFreshConfirmation [Hashlib] (args : SubmitArgs)
    (record : ConfirmationProvenanceRecord) :
    Uses ChannelOp.Reads (requireFreshConfirmation args record) :=
  uses_ask_bind trivial fun _ => Uses.ofExcept _

section Authorized

variable {π : Type} [XBOSOrderPort π] [Hashlib]

/-- What the checks of `submit` ask for. -/
structure Authorized (w : World π) (args : SubmitArgs) (session : CustomerSessionSnapshot)
    (record : ConfirmationProvenanceRecord) : Prop where
  found : w.sessions.get args.sessionRef = some session
  valid : svc.sessions.ValidActive w.upstream session args.nowEpoch
  recorded : w.provenance.resolveConfirmation args.confirmationHandleRef = some record
  bound : record.binding = bindingFromSession session
  fresh : checkAuthoritativeConfirmation record
    (XBOSOrderPort.resolveOrderConfirmation w.orders record.authoritativeXbosConfirmationRef)
    args.nowEpoch = .ok ()
  claimable : record.clientSubmitRefClaim = none ∨
    record.clientSubmitRefClaim = some args.clientSubmitRef
  state : session.state = .review ∨ session.state = .orderSubmitting ∨
    session.state = .orderCreated

/-- What the checks up to the claim ask for; the state of the session is looked at after it. -/
structure Claims (w : World π) (args : SubmitArgs) (session : CustomerSessionSnapshot)
    (record : ConfirmationProvenanceRecord) : Prop where
  found : w.sessions.get args.sessionRef = some session
  valid : svc.sessions.ValidActive w.upstream session args.nowEpoch
  recorded : w.provenance.resolveConfirmation args.confirmationHandleRef = some record
  bound : record.binding = bindingFromSession session
  fresh : checkAuthoritativeConfirmation record
    (XBOSOrderPort.resolveOrderConfirmation w.orders record.authoritativeXbosConfirmationRef)
    args.nowEpoch = .ok ()
  claimable : record.clientSubmitRefClaim = none ∨
    record.clientSubmitRefClaim = some args.clientSubmitRef

theorem authorized_iff {w : World π} {args : SubmitArgs}
    {session : CustomerSessionSnapshot} {record : ConfirmationProvenanceRecord} :
    svc.Authorized w args session record ↔ svc.Claims w args session record ∧
      (session.state = .review ∨ session.state = .orderSubmitting ∨
        session.state = .orderCreated) := by
  constructor
  · intro h
    exact ⟨⟨h.found, h.valid, h.recorded, h.bound, h.fresh, h.claimable⟩, h.state⟩
  · rintro ⟨h, hstate⟩
    exact ⟨h.found, h.valid, h.recorded, h.bound, h.fresh, h.claimable, hstate⟩

/-- Session and record of a claim are determined. -/
theorem Claims.unique {w : World π} {args : SubmitArgs} {s s' : CustomerSessionSnapshot}
    {r r' : ConfirmationProvenanceRecord} (h : svc.Claims w args s r)
    (h' : svc.Claims w args s' r') : s' = s ∧ r' = r :=
  ⟨Option.some.inj (h'.found.symm.trans h.found),
    Option.some.inj (h'.recorded.symm.trans h.recorded)⟩

end Authorized

theorem startKey_ne_resultKey (args args' : SubmitArgs) : args.startKey ≠ args'.resultKey := by
  intro h
  have h := congrArg (fun s => s.toList[11]?) h
  unfold SubmitArgs.startKey SubmitArgs.resultKey at h
  -- the two keys differ in their twelfth character
  rw [String.toList_append, String.toList_append, List.getElem?_append_left (by decide),
    List.getElem?_append_left (by decide)] at h
  exact absurd h (by decide)

end OrderDraftConfirmationService

section Worlds

variable {π : Type}

/-- The world with the handle claimed. -/
def World.claimed (w : World π) (args : SubmitArgs) : World π :=
  { w with
    provenance :=
      (w.provenance.claimConfirmation args.confirmationHandleRef args.clientSubmitRef).2 }

/-- Whether the start transition of `submit` moves the session. -/
def World.Starts (w : World π) (args : SubmitArgs) (session : CustomerSessionSnapshot) : Prop :=
  session.state = .review ∧ w.sessions.idempotentResult args.sessionRef args.startKey = none

instance (w : World π) (args : SubmitArgs) (session : CustomerSessionSnapshot) :
    Decidable (w.Starts args session) := by unfold World.Starts; infer_instance

/-- The session `submit` goes on with. -/
def World.submittingSession (w : World π) (args : SubmitArgs) (session : CustomerSessionSnapshot) :
    CustomerSessionSnapshot :=
  if w.Starts args session then
    session.transitioned (OrderDraftConfirmationService.startArgs args) {}
  else session

/-- The world `submit` goes on in. -/
def World.entered (w : World π) (args : SubmitArgs) (session : CustomerSessionSnapshot) : World π :=
  if w.Starts args session then
    (w.claimed args).transitioned (OrderDraftConfirmationService.startArgs args)
      (session.transitioned (OrderDraftConfirmationService.startArgs args) {})
  else w.claimed args

@[simp] theorem World.entered_orders (w : World π) (args : SubmitArgs)
    (session : CustomerSessionSnapshot) : (w.entered args session).orders = w.orders := by
  unfold entered
  split <;> rfl

@[simp] theorem World.entered_provenance (w : World π) (args : SubmitArgs)
    (session : CustomerSessionSnapshot) :
    (w.entered args session).provenance = (w.claimed args).provenance := by
  unfold entered
  split <;> rfl

@[simp] theorem World.submittingSession_correlationRef (w : World π) (args : SubmitArgs)
    (session : CustomerSessionSnapshot) :
    (w.submittingSession args session).correlationRef = session.correlationRef := by
  unfold submittingSession
  split <;> rfl

@[simp] theorem World.submittingSession_orderRef (w : World π) (args : SubmitArgs)
    (session : CustomerSessionSnapshot) :
    (w.submittingSession args session).orderRef = session.orderRef := by
  unfold submittingSession
  split <;> rfl

/-- A session read back after it has been stored under the reference it was found by. -/
theorem World.get_stored {w : World π} (hk : w.Keyed) {ref : String}
    {s s' : CustomerSessionSnapshot} (h : w.sessions.get ref = some s)
    (hs' : s'.sessionRef = s.sessionRef) : (w.stored s').sessions.get ref = some s' := by
  have hkey : s.sessionRef = w.sessions.canonicalRef ref := hk _ _ h
  show (w.sessions.sessions.set s'.sessionRef s').get? (w.sessions.canonicalRef ref) = some s'
  rw [hs', hkey, Dict.get?_set_self]

theorem World.Keyed.stored {w : World π} (hk : w.Keyed) (s : CustomerSessionSnapshot) :
    (w.stored s).Keyed := by
  intro k s' h
  have h : (w.sessions.sessions.set s.sessionRef s).get? k = some s' := h
  rw [Dict.get?_set] at h
  split at h
  · next hkey =>
    obtain rfl := Option.some.inj h
    exact hkey.symm
  · exact hk k s' h

theorem World.get_entered {w : World π} (hk : w.Keyed) {args : SubmitArgs}
    {session : CustomerSessionSnapshot} (h : w.sessions.get args.sessionRef = some session) :
    (w.entered args session).sessions.get args.sessionRef =
      some (w.submittingSession args session) := by
  unfold entered submittingSession
  split
  · exact World.get_stored hk h rfl
  · exact h

theorem World.Keyed.entered {w : World π} (hk : w.Keyed) (args : SubmitArgs)
    (session : CustomerSessionSnapshot) : (w.entered args session).Keyed := by
  unfold World.entered
  split
  · exact World.Keyed.stored (w := w) hk _
  · exact hk

/-- Entering the submitting state does not record a result. -/
theorem World.idempotentResult_entered {w : World π} (args : SubmitArgs)
    (session : CustomerSessionSnapshot) :
    (w.entered args session).sessions.idempotentResult args.sessionRef args.resultKey =
      w.sessions.idempotentResult args.sessionRef args.resultKey := by
  unfold entered
  split
  · refine Dict.get?_set_of_ne _ ?_ _
    intro heq
    exact OrderDraftConfirmationService.startKey_ne_resultKey args args (Prod.ext_iff.mp heq).2.symm
  · rfl

end Worlds

/-! ## The checks -/

namespace OrderDraftConfirmationService

variable (svc : OrderDraftConfirmationService) {π : Type} [XBOSOrderPort π] [Hashlib]

theorem requireActiveSecureSession_cases (ref : String) (now : Int) (w : World π) :
    (∃ s, w.sessions.get ref = some s ∧ svc.sessions.ValidActive w.upstream s now ∧
      exec handle (svc.requireActiveSecureSession ref now) w = (.ok s, w)) ∨
    ((∀ s, w.sessions.get ref = some s → ¬ svc.sessions.ValidActive w.upstream s now) ∧
      ∃ e, exec handle (svc.requireActiveSecureSession ref now) w = (.error e, w)) := by
  unfold requireActiveSecureSession
  rw [exec_tryCatch]
  rcases svc.sessions.validateActiveSession_cases ref now w with
    ⟨s, hs, hv, hexec⟩ | ⟨hno, e, hexec⟩
  · exact .inl ⟨s, hs, hv, by rw [hexec]⟩
  · refine .inr ⟨hno, ?_⟩
    rw [hexec]
    dsimp only
    split
    · exact ⟨_, rfl⟩
    · exact ⟨e, rfl⟩

theorem boundRecord_cases (args : SubmitArgs) (session : CustomerSessionSnapshot) (w : World π) :
    (∃ record, w.provenance.resolveConfirmation args.confirmationHandleRef = some record ∧
      record.binding = bindingFromSession session ∧
      exec handle (boundRecord args session) w = (.ok record, w)) ∨
    ((∀ record, w.provenance.resolveConfirmation args.confirmationHandleRef = some record →
        record.binding ≠ bindingFromSession session) ∧
      ∃ e, exec handle (boundRecord args session) w = (.error e, w)) := by
  unfold boundRecord
  rw [exec_ask_bind]
  dsimp only [handle, InMemoryChannelProvenanceStore.answer]
  cases hfound : w.provenance.resolveConfirmation args.confirmationHandleRef with
  | none => exact .inr ⟨fun record h => (by cases h), _, rfl⟩
  | some record =>
      dsimp only
      rw [exec_raiseIf_bind]
      split
      · next hne =>
        refine .inr ⟨?_, _, rfl⟩
        rintro _ ⟨⟩
        simpa [bindingMatchesSession] using hne
      · next heq =>
        exact .inl ⟨record, rfl, by simpa [bindingMatchesSession] using heq, rfl⟩

theorem exec_requireFreshConfirmation (args : SubmitArgs) (record : ConfirmationProvenanceRecord)
    (w : World π) :
    exec handle (requireFreshConfirmation args record) w =
      (checkAuthoritativeConfirmation record
        (XBOSOrderPort.resolveOrderConfirmation w.orders record.authoritativeXbosConfirmationRef)
        args.nowEpoch, w) := by
  unfold requireFreshConfirmation
  rw [exec_ask_bind, exec_ofExcept]
  rfl

/-- A claim succeeds on an unclaimed handle and on one claimed for the same reference. -/
theorem claimHandle_cases (args : SubmitArgs) {record : ConfirmationProvenanceRecord}
    {w : World π}
    (hfound : w.provenance.resolveConfirmation args.confirmationHandleRef = some record) :
    ((record.clientSubmitRefClaim = none ∨
        record.clientSubmitRefClaim = some args.clientSubmitRef) ∧
      exec handle (claimHandle args) w = (.ok (), w.claimed args)) ∨
    (¬ (record.clientSubmitRefClaim = none ∨
        record.clientSubmitRefClaim = some args.clientSubmitRef) ∧
      ∃ e, exec handle (claimHandle args) w = (.error e, w)) := by
  unfold claimHandle
  rw [exec_tryCatch, exec_ask_bind, exec_bind, exec_ofExcept]
  dsimp only [handle, InMemoryChannelProvenanceStore.answer]
  rcases w.provenance.claimConfirmation_cases hfound args.clientSubmitRef with
    ⟨hclaim, hok⟩ | ⟨hclaim, e, herror⟩
  · refine .inl ⟨hclaim, ?_⟩
    rw [hok]
    rfl
  · refine .inr ⟨hclaim, ?_⟩
    rw [herror]
    dsimp only
    split
    · exact ⟨_, rfl⟩
    · exact ⟨e, rfl⟩

theorem exec_enterSubmitting_of {w : World π} (hk : w.Keyed) {args : SubmitArgs}
    {session : CustomerSessionSnapshot} (hfound : w.sessions.get args.sessionRef = some session)
    (hactive : session.staleOrRotated = false)
    (hstate : session.state = .review ∨ session.state = .orderSubmitting ∨
      session.state = .orderCreated) :
    exec handle (svc.enterSubmitting args session) (w.claimed args) =
      (.ok (w.submittingSession args session), w.entered args session) := by
  have hget := World.get_entered hk hfound
  unfold enterSubmitting
  by_cases hreview : session.state = .review
  · rw [if_pos hreview]
    cases hkey : w.sessions.idempotentResult args.sessionRef args.startKey with
    | some prior =>
        have hstarts : ¬ w.Starts args session := by simp [World.Starts, hkey]
        have hrec : exec handle (svc.sessions.transition (startArgs args)) (w.claimed args) =
            (.ok prior, w.claimed args) := svc.sessions.exec_transition_of_recorded hkey
        rw [World.entered, if_neg hstarts] at hget ⊢
        rw [exec_bind_ok handle hrec, exec_bind_ok handle (exec_get _ _), hget]
        rfl
    | none =>
        have hstarts : w.Starts args session := ⟨hreview, hkey⟩
        have henabled : svc.sessions.TransitionEnabled (w.claimed args) (startArgs args) session {} :=
          { fresh := hkey
            found := hfound
            active := hactive
            allowed := by rw [hreview]; exact List.mem_cons_self
            unaided := rfl
            evidence := (svc.sessions.takesRefs_of_not_gated rfl).mpr rfl }
        rw [World.entered, if_pos hstarts] at hget ⊢
        rw [exec_bind_ok handle (svc.sessions.exec_transition_of henabled), exec_bind_ok handle (exec_get _ _), hget]
        rfl
  · have hstarts : ¬ w.Starts args session := fun h => hreview h.1
    rw [if_neg hreview, if_neg, World.submittingSession, World.entered, if_neg hstarts,
      if_neg hstarts]
    · rfl
    · simp only [List.mem_cons, List.not_mem_nil, or_false, not_not]
      exact hstate.resolve_left hreview

/-- A session in none of the states `submit` accepts. -/
theorem exec_enterSubmitting_refused (w : World π) (args : SubmitArgs)
    {session : CustomerSessionSnapshot}
    (hstate : ¬ (session.state = .review ∨ session.state = .orderSubmitting ∨
      session.state = .orderCreated)) :
    ∃ e, exec handle (svc.enterSubmitting args session) w = (.error e, w) := by
  unfold enterSubmitting
  rw [if_neg (fun h => hstate (.inl h)), if_pos]
  · exact ⟨_, rfl⟩
  · intro hmem
    simp only [List.mem_cons, List.not_mem_nil, or_false] at hmem
    exact hstate (.inr hmem)

/-- The ways `submit` goes up to the port: it gets there, it is refused with nothing written, or it
is refused for the state of the session once the handle is claimed. -/
theorem submitRequest_ends {w : World π} (hk : w.Keyed) (args : SubmitArgs) :
    (∃ session record, svc.Authorized w args session record ∧
      exec handle (svc.submitRequest args) w =
        (.ok (requestFor args session record), w.entered args session)) ∨
    ((∀ session record, ¬ svc.Claims w args session record) ∧
      ∃ e, exec handle (svc.submitRequest args) w = (.error e, w)) ∨
    ∃ session record, svc.Claims w args session record ∧
      ¬ (session.state = .review ∨ session.state = .orderSubmitting ∨
        session.state = .orderCreated) ∧
      ∃ e, exec handle (svc.submitRequest args) w = (.error e, w.claimed args) := by
  unfold submitRequest
  rcases svc.requireActiveSecureSession_cases args.sessionRef args.nowEpoch w with
    ⟨session, hfound, hvalid, hexec⟩ | ⟨hno, e, hexec⟩
  case inr =>
    refine .inr (.inl ⟨fun s r h => hno s h.found h.valid, e, ?_⟩)
    exact exec_bind_error handle hexec _
  rw [exec_bind_ok handle hexec]
  -- session and record are determined, so a check that fails refutes every choice of them
  have hsession : ∀ s r, svc.Claims w args s r → s = session := fun s r h =>
    Option.some.inj (h.found.symm.trans hfound)
  rcases boundRecord_cases args session w with ⟨record, hrecord, hbound, hexec⟩ | ⟨hno, e, hexec⟩
  case inr =>
    refine .inr (.inl ⟨fun s r h => ?_, e, exec_bind_error handle hexec _⟩)
    exact hno r h.recorded (by rw [h.bound, hsession s r h])
  rw [exec_bind_ok handle hexec]
  have hsame : ∀ s r, svc.Claims w args s r → r = record := fun s r h =>
    Option.some.inj (h.recorded.symm.trans hrecord)
  have hfresh := exec_requireFreshConfirmation args record w
  cases hcheck : checkAuthoritativeConfirmation record
    (XBOSOrderPort.resolveOrderConfirmation w.orders record.authoritativeXbosConfirmationRef)
    args.nowEpoch with
  | error e =>
      rw [hcheck] at hfresh
      refine .inr (.inl ⟨fun s r h => ?_, e, exec_bind_error handle hfresh _⟩)
      have := h.fresh
      rw [hsame s r h, hcheck] at this
      cases this
  | ok _ =>
      rw [hcheck] at hfresh
      rw [exec_bind_ok handle hfresh]
      rcases claimHandle_cases args hrecord with ⟨hclaim, hexec⟩ | ⟨hclaim, e, hexec⟩
      case inr =>
        refine .inr (.inl ⟨fun s r h => ?_, e, exec_bind_error handle hexec _⟩)
        exact hclaim (by have := h.claimable; rwa [hsame s r h] at this)
      rw [exec_bind_ok handle hexec]
      have hclaims : svc.Claims w args session record :=
        ⟨hfound, hvalid, hrecord, hbound, hcheck, hclaim⟩
      -- from the claim on, an exception leaves it written
      by_cases hstate : session.state = .review ∨ session.state = .orderSubmitting ∨
          session.state = .orderCreated
      · refine .inl ⟨session, record, svc.authorized_iff.mpr ⟨hclaims, hstate⟩, ?_⟩
        rw [exec_bind_ok handle
          (svc.exec_enterSubmitting_of hk hfound hvalid.active hstate)]
        simp [requestFor]
      · obtain ⟨e, hexec⟩ := svc.exec_enterSubmitting_refused (w.claimed args) args hstate
        exact .inr (.inr ⟨session, record, hclaims, hstate, e, exec_bind_error handle hexec _⟩)

/-- `submit` reaches the order port exactly when its checks pass; otherwise at most a claim has been
written. -/
theorem submitRequest_cases {w : World π} (hk : w.Keyed) (args : SubmitArgs) :
    (∃ session record, svc.Authorized w args session record ∧
      exec handle (svc.submitRequest args) w =
        (.ok (requestFor args session record), w.entered args session)) ∨
    ((∀ session record, ¬ svc.Authorized w args session record) ∧
      ∃ e, exec handle (svc.submitRequest args) w = (.error e, w) ∨
        exec handle (svc.submitRequest args) w = (.error e, w.claimed args)) := by
  rcases svc.submitRequest_ends hk args with
    h | ⟨hno, e, hexec⟩ | ⟨session, record, hclaims, hstate, e, hexec⟩
  · exact .inl h
  · exact .inr ⟨fun s r h => hno s r (svc.authorized_iff.mp h).1, e, .inl hexec⟩
  · refine .inr ⟨fun s r h => ?_, e, .inr hexec⟩
    obtain ⟨h, hs⟩ := svc.authorized_iff.mp h
    obtain ⟨rfl, -⟩ := hclaims.unique svc h
    exact hstate hs

end OrderDraftConfirmationService

end XbosCustomerChannel
