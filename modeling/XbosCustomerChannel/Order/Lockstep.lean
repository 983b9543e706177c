import XbosCustomerChannel.Effects.Coupling
import XbosCustomerChannel.Order.Others

/-!
# The customer's calls in both worlds

What the customer does in the world of everybody it does in its own too: the same writes leave the
two worlds alike, and a call takes the same way through both. First the writes, then
`prepare_confirmation`; `submit` has a module of its own.
-/

namespace XbosCustomerChannel

open Effects Effects.Program Data OrderDraftConfirmationService FakeXBOSOrderClient

/-! ## The same write in both worlds -/

namespace FakeXBOSOrderClient

variable {own : List String} {client client' : FakeXBOSOrderClient}

/-- Both ports place the customer's order, each under its own name. -/
theorem Alike.place (h : client.Alike own client') {request : OrderSubmitRequest}
    (hmine : request.clientSubmitRef ∈ own) :
    (client.place request).Alike own (client'.place request) where
  regular := h.regular.place request
  regular' := h.regular'.place request
  orders := by
    intro c hc
    show ((client'.ordersByClientRef.set _ _).get? c).map unnamedEntry =
      ((client.ordersByClientRef.set _ _).get? c).map unnamedEntry
    rw [Dict.get?_set, Dict.get?_set]
    split
    · rfl
    · exact h.orders c hc
  claims := by
    intro c hc ref
    show (client'.clientRefByConfirmation.set _ _).get? ref = some c ↔
      (client.clientRefByConfirmation.set _ _).get? ref = some c
    rw [Dict.get?_set, Dict.get?_set]
    split
    · rfl
    · exact h.claims c hc ref
  alone := by
    intro ref c hclaim
    have hclaim : (client'.clientRefByConfirmation.set request.confirmationRef
      request.clientSubmitRef).get? ref = some c := hclaim
    rw [Dict.get?_set] at hclaim
    split at hclaim
    · obtain rfl := Option.some.inj hclaim
      exact hmine
    · exact h.alone ref c hclaim

/-- Where no one else has claimed the confirmation, both ports know the same claim. -/
theorem Alike.claim_eq (h : client.Alike own client') {ref : String}
    (hunclaimed : ∀ c ∈ client.clientRefByConfirmation.get? ref, c ∈ own) :
    client'.clientRefByConfirmation.get? ref = client.clientRefByConfirmation.get? ref := by
  cases hclaim : client.clientRefByConfirmation.get? ref with
  | some c => exact (h.claims c (hunclaimed c hclaim) ref).mpr hclaim
  | none =>
      cases hclaim' : client'.clientRefByConfirmation.get? ref with
      | none => rfl
      | some c =>
          have hboth := (h.claims c (h.alone ref c hclaim') ref).mp hclaim'
          rw [hclaim] at hboth
          cases hboth

/-- The entry of a client reference of the customer's, up to names. -/
theorem Alike.entry_cases (h : client.Alike own client') {c : String} (hmine : c ∈ own) :
    (client.ordersByClientRef.get? c = none ∧ client'.ordersByClientRef.get? c = none) ∨
    ∃ e e', client.ordersByClientRef.get? c = some e ∧
      client'.ordersByClientRef.get? c = some e' ∧ unnamedEntry e' = unnamedEntry e := by
  have horders := h.orders c hmine
  cases he : client.ordersByClientRef.get? c with
  | none =>
      rw [he] at horders
      exact .inl ⟨rfl, by simpa using horders⟩
  | some e =>
      cases he' : client'.ordersByClientRef.get? c with
      | none =>
          rw [he, he'] at horders
          cases horders
      | some e' =>
          rw [he, he'] at horders
          exact .inr ⟨e, e', rfl, rfl, by simpa using horders⟩

end FakeXBOSOrderClient

namespace CustomerSessionSnapshot

variable {own : List String} {client client' : FakeXBOSOrderClient}
  {s s' : CustomerSessionSnapshot}

/-- What does not read the names is the same for both. -/
theorem eq_of_unnamed {α : Type} {f : CustomerSessionSnapshot → α} (hf : ∀ s, f s.unnamed = f s)
    (h : s'.unnamed = s.unnamed) : f s' = f s := by
  rw [← hf s', h, hf s]

/-- A session refers to no order that is only now placed. -/
theorem Alike.place (h : s.Alike own client client' s') {request : OrderSubmitRequest}
    (hnew : s.orderRef ≠ some (client.nextOrder request).orderRef)
    (hnew' : s'.orderRef ≠ some (client'.nextOrder request).orderRef) :
    s.Alike own (client.place request) (client'.place request) s' where
  unnamed := h.unnamed
  named := h.named
  orders := by
    intro c hc e e' he he'
    change (client.ordersByClientRef.set _ _).get? c = some e at he
    change (client'.ordersByClientRef.set _ _).get? c = some e' at he'
    rw [Dict.get?_set] at he he'
    split at he
    · next hsame =>
      rw [if_pos hsame] at he'
      obtain rfl := Option.some.inj he
      obtain rfl := Option.some.inj he'
      exact iff_of_false hnew' hnew
    · next hsame =>
      rw [if_neg hsame] at he'
      exact h.orders c hc e e' he he'
  past := fun n hn => h.past n (Nat.lt_of_succ_lt hn)
  past' := fun n hn => h.past' n (Nat.lt_of_succ_lt hn)

/-- A transition that takes no references over. -/
theorem Alike.transitioned (h : s.Alike own client client' s') {args args' : TransitionArgs}
    (htarget : args'.target = args.target) (hhandoff : args'.humanHandoffRef = args.humanHandoffRef) :
    (s.transitioned args {}).Alike own client client' (s'.transitioned args' {}) := by
  have hchanges : CustomerSessionService.transitionChanges args' {} =
      CustomerSessionService.transitionChanges args {} := by
    unfold CustomerSessionService.transitionChanges
    rw [htarget, hhandoff]
  have hunnamed (b : CustomerSessionSnapshot) : (b.transitioned args {}).unnamed =
      (b.unnamed.transitioned args {}).unnamed := rfl
  unfold CustomerSessionSnapshot.transitioned at hunnamed ⊢
  rw [hchanges]
  exact
    { unnamed := by rw [hunnamed, h.unnamed, ← hunnamed]
      named := h.named
      orders := h.orders
      past := h.past
      past' := h.past' }

/-- A transition that takes over the order both ports hold for a client reference. -/
theorem Alike.created (h : s.Alike own client client' s') (hports : client.Alike own client')
    {args : SubmitArgs} {e e' : String × CanonicalOrderProjection}
    (he : client.ordersByClientRef.get? args.clientSubmitRef = some e)
    (he' : client'.ordersByClientRef.get? args.clientSubmitRef = some e')
    (handleRef handleRef' : String) :
    (createdSession args s handleRef e.2).Alike own client client'
      (createdSession args s' handleRef' e'.2) := by
  obtain ⟨n, hn, hname⟩ := hports.regular.numbered _ e he
  obtain ⟨n', hn', hname'⟩ := hports.regular'.numbered _ e' he'
  have href : (createdSession args s handleRef e.2).orderRef = some e.2.orderRef :=
    createdSession_orderRef args s handleRef (by rw [hname]; exact orderRefOf_ne_empty n)
  have href' : (createdSession args s' handleRef' e'.2).orderRef = some e'.2.orderRef :=
    createdSession_orderRef args s' handleRef' (by rw [hname']; exact orderRefOf_ne_empty n')
  have hunnamed (b : CustomerSessionSnapshot) (h h' : String) (o o' : CanonicalOrderProjection) :
      (createdSession args b h o).unnamed = (createdSession args b.unnamed h' o').unnamed := rfl
  exact
    { unnamed := by
        rw [hunnamed s' _ handleRef _ e.2, h.unnamed, ← hunnamed s handleRef]
      named := by rw [href, href']; rfl
      orders := by
        intro c hc e₁ e₁' he₁ he₁'
        rw [href, href']
        -- an order's name is that of one client reference, at either port
        constructor
        · intro hsame
          have hc := hports.regular'.distinct _ _ _ _ he' he₁' (Option.some.inj hsame)
          subst hc
          rw [he] at he₁
          obtain rfl := Option.some.inj he₁
          rfl
        · intro hsame
          have hc := hports.regular.distinct _ _ _ _ he he₁ (Option.some.inj hsame)
          subst hc
          rw [he'] at he₁'
          obtain rfl := Option.some.inj he₁'
          rfl
      past := by
        intro m hm hsame
        rw [href, hname] at hsame
        have := orderRefOf_injective (Option.some.inj hsame)
        omega
      past' := by
        intro m hm hsame
        rw [href', hname'] at hsame
        have := orderRefOf_injective (Option.some.inj hsame)
        omega }

end CustomerSessionSnapshot

namespace World

variable {key : String} {own : List String} {w w' : World FakeXBOSOrderClient}

theorem Alike.drawing (h : w.Alike key own w') (token : String) :
    (w.drawing token).Alike key own (w'.drawing token) :=
  { h with }

theorem Alike.evidenced (h : w.Alike key own w') (s s' : CustomerSessionSnapshot)
    (p p' : UpstreamStateProjection) : (w.evidenced s p).Alike key own (w'.evidenced s' p') := by
  refine { h.evidenced_left s p with
    records := ?_
    confirmations := ?_
    session := h.session, results := h.results, keyed' := h.keyed', upstream := h.upstream, aliases := h.aliases, ports := h.ports }
  · intro handleRef
    rw [resolveConfirmation_evidenced]
    exact (h.evidenced_left s p).records handleRef
  · intro handleRef record hrecord
    rw [resolveConfirmation_evidenced] at hrecord
    exact h.confirmations handleRef record hrecord

/-- The customer's session, by any name that leads to it. -/
theorem Alike.get (h : w.Alike key own w') {ref : String}
    (hmine : w.sessions.canonicalRef ref = key) :
    ∃ s s', w.sessions.get ref = some s ∧ w'.sessions.get ref = some s' ∧
      s.Alike own w.orders w'.orders s' := by
  obtain ⟨s, s', hs, hs', halike⟩ := h.session
  refine ⟨s, s', ?_, ?_, halike⟩
  · unfold InMemoryCustomerSessionStore.get
    rw [hmine]
    exact hs
  · unfold InMemoryCustomerSessionStore.get
    rw [h.canonicalRef, hmine]
    exact hs'

/-- The same transition of the customer's session. -/
theorem Alike.transitioned (h : w.Alike key own w') {args args' : TransitionArgs}
    {s s' : CustomerSessionSnapshot} (hs : s.sessionRef = key) (hs' : s'.sessionRef = key)
    (halike : s.Alike own w.orders w'.orders s') (hsession : args'.sessionRef = args.sessionRef)
    (hkey : args'.idempotencyKey = args.idempotencyKey) :
    (w.transitioned args s).Alike key own (w'.transitioned args' s') := by
  refine { h with keyed := ?_, keyed' := ?_, session := ?_, results := ?_ }
  · exact World.Keyed.stored h.keyed s
  · exact World.Keyed.stored h.keyed' s'
  · refine ⟨s, s', ?_, ?_, halike⟩
    · show (w.sessions.sessions.set s.sessionRef s).get? key = some s
      rw [hs, Dict.get?_set_self]
    · show (w'.sessions.sessions.set s'.sessionRef s').get? key = some s'
      rw [hs', Dict.get?_set_self]
  · intro k
    show ((w'.sessions.idempotentResults.set (w'.sessions.canonicalRef args'.sessionRef,
        args'.idempotencyKey) s').get? (key, k)).isSome =
      ((w.sessions.idempotentResults.set (w.sessions.canonicalRef args.sessionRef,
        args.idempotencyKey) s).get? (key, k)).isSome
    rw [hsession, hkey, h.canonicalRef, Dict.get?_set, Dict.get?_set]
    split
    · rfl
    · exact h.results k

/-- The same claim of a handle of the customer's. -/
theorem Alike.claimed (h : w.Alike key own w') {args : SubmitArgs}
    {record : ConfirmationProvenanceRecord}
    (hfound : w.provenance.resolveConfirmation args.confirmationHandleRef = some record)
    (hmine : record.binding.sessionRef = key) :
    (w.claimed args).Alike key own (w'.claimed args) := by
  have hfound' : w'.provenance.resolveConfirmation args.confirmationHandleRef = some record := by
    rw [h.records, hfound]
    simp [Option.filter, hmine]
  refine { h with records := ?_, confirmations := ?_ }
  · intro handleRef
    rw [resolveConfirmation_claimed hfound, resolveConfirmation_claimed hfound']
    split
    · simp [Option.filter, ConfirmationProvenanceRecord.claimedFor, hmine]
    · exact h.records handleRef
  · intro handleRef r hr
    rw [resolveConfirmation_claimed hfound'] at hr
    split at hr
    · obtain rfl := Option.some.inj hr
      exact h.confirmations _ record hfound'
    · exact h.confirmations handleRef r hr

/-- The same confirmation issued by both ports. -/
theorem Alike.issue (h : w.Alike key own w')
    (confirmation : AuthoritativeOrderConfirmationSnapshot) :
    (w.withOrders (w.orders.issue confirmation)).Alike key own
      (w'.withOrders (w'.orders.issue confirmation)) := by
  refine { h with session := ?_, confirmations := ?_, ports := ?_ }
  · obtain ⟨s, s', hs, hs', halike⟩ := h.session
    exact ⟨s, s', hs, hs', { halike with }⟩
  · intro handleRef record hrecord
    show (w'.orders.issuedConfirmations.set _ _).get? _ =
      (w.orders.issuedConfirmations.set _ _).get? _
    rw [Dict.get?_set, Dict.get?_set]
    split
    · rfl
    · exact h.confirmations handleRef record hrecord
  · exact { h.ports with regular := { h.ports.regular with }, regular' := { h.ports.regular' with } }

/-- The order for a client reference of the customer's, placed by both ports. -/
theorem Alike.placed (h : w.Alike key own w') {request : OrderSubmitRequest}
    (hmine : request.clientSubmitRef ∈ own) :
    (w.withOrders (w.orders.place request)).Alike key own
      (w'.withOrders (w'.orders.place request)) := by
  refine { h with session := ?_, ports := h.ports.place hmine }
  obtain ⟨s, s', hs, hs', halike⟩ := h.session
  refine ⟨s, s', hs, hs', halike.place ?_ ?_⟩
  · exact halike.past _ (Nat.lt_succ_self _)
  · exact halike.past' _ (Nat.lt_succ_self _)

theorem nextRecord_eq [Hashlib] {s s' : CustomerSessionSnapshot} (hunnamed : s'.unnamed = s.unnamed)
    (hhandle : w'.provenance.newConfirmationHandle w'.refs =
      w.provenance.newConfirmationHandle w.refs)
    (confirmation : AuthoritativeOrderConfirmationSnapshot) :
    w'.nextRecord s' confirmation = w.nextRecord s confirmation := by
  have hbinding : bindingFromSession s' = bindingFromSession s :=
    CustomerSessionSnapshot.eq_of_unnamed (fun _ => rfl) hunnamed
  unfold nextRecord InMemoryChannelProvenanceStore.confirmationRecord
  rw [hhandle, hbinding]

/-- The same confirmation issued to the customer under the same handle. -/
theorem Alike.confirmed [Hashlib] (h : w.Alike key own w') {s s' : CustomerSessionSnapshot}
    (hunnamed : s'.unnamed = s.unnamed) (hmine : s.sessionRef = key)
    {confirmation : AuthoritativeOrderConfirmationSnapshot}
    (hhandle : w'.provenance.newConfirmationHandle w'.refs =
      w.provenance.newConfirmationHandle w.refs)
    (hissued : w'.orders.resolveOrderConfirmation confirmation.confirmationRef =
      w.orders.resolveOrderConfirmation confirmation.confirmationRef) :
    (w.confirmed s confirmation).Alike key own (w'.confirmed s' confirmation) := by
  have hsecure : s'.securityBindingComplete = s.securityBindingComplete :=
    CustomerSessionSnapshot.eq_of_unnamed (fun _ => rfl) hunnamed
  have hrecord := nextRecord_eq hunnamed hhandle confirmation
  have hmine : (w.nextRecord s confirmation).binding.sessionRef = key := hmine
  refine { h with records := ?_, confirmations := ?_ }
  · intro handleRef
    rw [resolveConfirmation_confirmed, resolveConfirmation_confirmed, hsecure, hhandle, hrecord]
    split
    · simp [Option.filter, hmine]
    · exact h.records handleRef
  · intro handleRef r hr
    rw [resolveConfirmation_confirmed, hrecord] at hr
    split at hr
    · obtain rfl := Option.some.inj hr
      exact hissued
    · exact h.confirmations handleRef r hr

end World

/-! ## `prepare_confirmation` in both worlds -/

/-- Both worlds refuse, for the same reason. -/
def World.RefusedAlike (key : String) (own : List String) (e e' : Exc)
    (w w' : World FakeXBOSOrderClient) : Prop :=
  e.refusal = e'.refusal ∧ w.Alike key own w'

namespace CustomerSessionService

variable (svc : CustomerSessionService)

/-- `validate_active_session` from the session it finds on. -/
def activeChecks (current : CustomerSessionSnapshot) (nowEpoch : Int) : Service Unit := do
  raiseIf (!current.securityBindingComplete)
    ⟨.sessionSecurityRequired, "secure_session_binding_required"⟩
  raiseIf current.staleOrRotated ⟨.permissionError, "session_stale_or_rotated"⟩
  raiseIf (current.expiredAt nowEpoch) ⟨.permissionError, "session_expired"⟩
  svc.reattest current

theorem validateActiveSession_eq (sessionRef : String) (nowEpoch : Int) :
    svc.validateActiveSession sessionRef nowEpoch =
      required sessionRef >>= fun current =>
        svc.activeChecks current nowEpoch >>= fun _ => .done current := by
  unfold validateActiveSession activeChecks
  simp only [bind_assoc]
  rfl

theorem uses_activeChecks (current : CustomerSessionSnapshot) (nowEpoch : Int) :
    (svc.activeChecks current nowEpoch).Uses ChannelOp.AsksXbos := by
  refine Uses.bind (Uses.raiseIf _ _) fun _ => Uses.bind (Uses.raiseIf _ _) fun _ => ?_
  refine Uses.bind (Uses.raiseIf _ _) fun _ => Uses.bind (Uses.raiseIf _ _) fun _ => ?_
  split
  · refine Uses.bind (Uses.tryCatch (uses_ask_bind trivial fun _ => Uses.ofExcept _) ?_) ?_
    · intro exc
      split <;> trivial
    · intro _
      exact Uses.raiseIf _ _
  · trivial

end CustomerSessionService

section Own

variable [Hashlib] (svc : OrderDraftConfirmationService) {key : String} {own : List String}
  {w w' : World FakeXBOSOrderClient}

open World

/-- What XBOS is asked is answered the same in both worlds. -/
theorem World.Alike.coupled_of_asks (h : w.Alike key own w') {α : Type} {p : Service α}
    (hp : p.Uses ChannelOp.AsksXbos) :
    Coupled handle (fun e e' t t' => e = e' ∧ t = w ∧ t' = w')
      (fun a a' t t' => a = a' ∧ t = w ∧ t' = w') p p w w' := by
  apply Coupled.of_uses (A := ChannelOp.AsksXbos) (R := fun t t' => t = w ∧ t' = w') _ hp ⟨rfl, rfl⟩
  rintro op t t' hop ⟨rfl, rfl⟩
  refine ⟨?_, handle_of_reads op _ hop.reads, handle_of_reads op _ hop.reads⟩
  cases op with
  | upstream op =>
      show t.upstream.answer op = t'.upstream.answer op
      rw [h.upstream]
  | order op =>
      cases op with
      | resolveServiceContext m l mode table contact address => rfl
      | _ => exact hop.elim
  | _ => exact hop.elim

omit [Hashlib] in
theorem World.Alike.sessionRef_eq (h : w.Alike key own w') {ref : String}
    (hmine : w.sessions.canonicalRef ref = key) {s : CustomerSessionSnapshot}
    (hs : w.sessions.get ref = some s) : s.sessionRef = key := by
  rw [h.keyed _ s hs, hmine]

theorem World.Alike.own_requireActiveSecureSession (h : w.Alike key own w') {ref : String}
    (hmine : w.sessions.canonicalRef ref = key) (now : Int) :
    Coupled handle (RefusedAlike key own)
      (fun s s' t t' => t = w ∧ t' = w' ∧ w.sessions.get ref = some s ∧
        s.Alike own w.orders w'.orders s')
      (svc.requireActiveSecureSession ref now) (svc.requireActiveSecureSession ref now) w w' := by
  obtain ⟨s, s', hs, hs', halike⟩ := h.get hmine
  unfold requireActiveSecureSession
  rw [CustomerSessionService.validateActiveSession_eq]
  apply Coupled.tryCatch (D := fun e e' t t' => e = e' ∧ t = w ∧ t' = w')
  · apply Coupled.bind_of_ok (exec_required_of hs) (exec_required_of hs')
    -- the checks do not look at the names
    have hchecks : svc.sessions.activeChecks s' now = svc.sessions.activeChecks s now :=
      CustomerSessionSnapshot.eq_of_unnamed (f := fun b => svc.sessions.activeChecks b now)
        (fun _ => rfl) halike.unnamed
    rw [hchecks]
    apply (h.coupled_of_asks (svc.sessions.uses_activeChecks s now)).bind
    rintro _ _ t t' ⟨-, rfl, rfl⟩
    exact Coupled.done ⟨rfl, rfl, hs, halike⟩
  · rintro e _ t t' ⟨rfl, rfl, rfl⟩
    split
    · exact Coupled.raise ⟨rfl, h⟩
    · exact Coupled.raise ⟨rfl, h⟩

/-- Both ports prepare the same confirmation. -/
theorem World.Alike.own_draftConfirmation (h : w.Alike key own w') (args : PrepareConfirmationArgs)
    {s s' : CustomerSessionSnapshot} (hunnamed : s'.unnamed = s.unnamed) :
    Coupled handle (RefusedAlike key own)
      (fun c c' t t' => c' = c ∧ (∃ orders, t = w.withOrders orders) ∧
        (∃ orders, t' = w'.withOrders orders) ∧ t.Alike key own t' ∧
        t'.orders.resolveOrderConfirmation c.confirmationRef =
          t.orders.resolveOrderConfirmation c.confirmationRef)
      (draftConfirmation args s) (draftConfirmation args s') w w' := by
  have hdraft : draftConfirmation args s' = draftConfirmation args s :=
    CustomerSessionSnapshot.eq_of_unnamed (fun _ => rfl) hunnamed
  rw [hdraft, draftConfirmation_eq]
  apply ((h.coupled_of_asks (uses_draftInputs args s)).mono _ fun _ _ _ _ hq => hq).bind
  · rintro inputs _ t t' ⟨rfl, rfl, rfl⟩
    rcases draftAtPort_cases args inputs with ⟨e, hport⟩ | ⟨c, r, hr, hport⟩
    · exact Coupled.of_error (hport t) (hport t') ⟨rfl, h⟩
    · cases r with
      | error e => exact Coupled.of_error (hport t).2 (hport t').2 ⟨rfl, h.issue c⟩
      | ok c' =>
          obtain rfl := hr c' rfl
          refine Coupled.of_ok (hport t).2 (hport t').2 ⟨rfl, ⟨_, rfl⟩, ⟨_, rfl⟩, h.issue c', ?_⟩
          show (t'.orders.issuedConfirmations.set _ _).get? _ =
            (t.orders.issuedConfirmations.set _ _).get? _
          rw [Dict.get?_set_self, Dict.get?_set_self]
  · rintro e _ t t' ⟨rfl, rfl, rfl⟩
    exact ⟨rfl, h⟩

theorem World.Alike.own_issueConfirmation (h : w.Alike key own w') {s s' : CustomerSessionSnapshot}
    (hunnamed : s'.unnamed = s.unnamed) (hmine : s.sessionRef = key)
    {confirmation : AuthoritativeOrderConfirmationSnapshot}
    (hhandle : w'.provenance.newConfirmationHandle w'.refs =
      w.provenance.newConfirmationHandle w.refs)
    (hissued : w'.orders.resolveOrderConfirmation confirmation.confirmationRef =
      w.orders.resolveOrderConfirmation confirmation.confirmationRef) :
    Coupled handle (RefusedAlike key own) (fun p p' t t' => p' = p ∧ t.Alike key own t')
      (issueConfirmation s confirmation) (issueConfirmation s' confirmation) w w' := by
  have hexec (w : World FakeXBOSOrderClient) (s : CustomerSessionSnapshot) :
      exec handle (issueConfirmation s confirmation) w =
        (if s.securityBindingComplete then
            .ok (presentationFromRecord (w.nextRecord s confirmation))
          else
            .error ⟨.permissionError, "secure_session_binding_required_for_confirmation"⟩,
          w.confirmed s confirmation) := by
    unfold issueConfirmation World.confirmed
    rw [exec_ask_bind, exec_ofExcept]
    dsimp only [handle, InMemoryChannelProvenanceStore.answer]
    unfold InMemoryChannelProvenanceStore.issueConfirmation
    cases s.securityBindingComplete <;> rfl
  have hsecure : s'.securityBindingComplete = s.securityBindingComplete :=
    CustomerSessionSnapshot.eq_of_unnamed (fun _ => rfl) hunnamed
  have hafter := h.confirmed hunnamed hmine hhandle hissued
  have hleft := hexec w s
  have hright := hexec w' s'
  rw [hsecure, nextRecord_eq hunnamed hhandle] at hright
  by_cases hbound : s.securityBindingComplete = true
  · rw [if_pos hbound] at hleft hright
    exact Coupled.of_ok hleft hright ⟨rfl, hafter⟩
  · rw [if_neg hbound] at hleft hright
    exact Coupled.of_error hleft hright ⟨rfl, hafter⟩

/-- A call of `prepare_confirmation` of the customer's, with the same new handle in both worlds. -/
theorem World.Alike.own_prepareConfirmation (h : w.Alike key own w')
    {args : PrepareConfirmationArgs} (hmine : w.sessions.canonicalRef args.sessionRef = key)
    (hhandle : w'.provenance.newConfirmationHandle w'.refs =
      w.provenance.newConfirmationHandle w.refs) :
    Coupled handle (RefusedAlike key own) (fun p p' t t' => p' = p ∧ t.Alike key own t')
      (svc.prepareConfirmation args) (svc.prepareConfirmation args) w w' := by
  unfold prepareConfirmation
  apply (h.own_requireActiveSecureSession svc hmine args.nowEpoch).bind
  rintro s s' _ _ ⟨rfl, rfl, hs, halike⟩
  have hkey := h.sessionRef_eq hmine hs
  apply (h.own_draftConfirmation args halike.unnamed).bind
  rintro c _ _ _ ⟨rfl, ⟨orders, rfl⟩, ⟨orders', rfl⟩, hdraft, hissued⟩
  exact hdraft.own_issueConfirmation halike.unnamed hkey hhandle hissued

end Own

end XbosCustomerChannel
