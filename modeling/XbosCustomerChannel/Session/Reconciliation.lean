import XbosCustomerChannel.Data.History
import XbosCustomerChannel.Session.Chain
import XbosCustomerChannel.Session.References
import XbosCustomerChannel.Session.Resumption

/-!
# The reconciliation fixture

The fixture keeps what XBOS says of a session under everything the session is bound to. What a
session is bound to is frozen, and no two sessions have a reference in common, so over a run the
fixture is a map from session references: it answers with what was last registered for the session,
and with nothing for a session that was rotated in since.
-/

namespace XbosCustomerChannel

open Effects Data

/-- `FakeXBOSStateReconciliationClient`; its key is the binding of the session. -/
structure FakeXBOSStateReconciliationClient where
  byBinding : Dict SessionSecurityBinding UpstreamStateProjection := ∅

namespace FakeXBOSStateReconciliationClient

/-- `register`. -/
def register (client : FakeXBOSStateReconciliationClient) (session : CustomerSessionSnapshot)
    (projection : UpstreamStateProjection) : Except Exc FakeXBOSStateReconciliationClient :=
  if projection.correlationRef ≠ session.correlationRef then
    .error ⟨.valueError, "upstream_correlation_mismatch"⟩
  else .ok { client with
    byBinding := client.byBinding.set (bindingFromSession session) projection }

/-- `reconcile_session`. -/
def reconcileSession (client : FakeXBOSStateReconciliationClient)
    (session : CustomerSessionSnapshot) : Option UpstreamStateProjection :=
  match client.byBinding.get? (bindingFromSession session) with
  | none => none
  | some projection =>
      if projection.correlationRef ≠ session.correlationRef then none else some projection

end FakeXBOSStateReconciliationClient

variable {π : Type}

/-- The channel with the fixture behind its reconciliation port. -/
structure ReconciledChannel (π : Type) where
  world : World π
  client : FakeXBOSStateReconciliationClient := {}

/-- XBOS answers what the fixture answers. -/
def World.reconciledBy (w : World π) (client : FakeXBOSStateReconciliationClient) : World π :=
  { w with
    upstream := { w.upstream with reconcileSession := fun s => .ok (client.reconcileSession s) } }

/-- A call of the channel, or a projection that is registered for the session found under a name. -/
inductive ReconciledCall (π : Type) [XBOSOrderPort π]
  | channel (call : ChannelCall π)
  | register (sessionRef : String) (projection : UpstreamStateProjection)

namespace ReconciledChannel

def start (orders : π) (upstream : Upstream) (refs : RefSource) : ReconciledChannel π :=
  { world := (World.start orders upstream refs).reconciledBy {} }

variable [XBOSOrderPort π] [Hashlib] (svc : OrderDraftConfirmationService)

def step (c : ReconciledChannel π) : ReconciledCall π → ReconciledChannel π
  | .channel call =>
      { c with world := (XbosCustomerChannel.step svc c.world call).reconciledBy c.client }
  | .register ref projection =>
      match c.world.sessions.get ref with
      | none => c
      | some session =>
          match c.client.register session projection with
          | .error _ => c
          | .ok client => { world := c.world.reconciledBy client, client }

def run (c : ReconciledChannel π) (calls : List (ReconciledCall π)) : ReconciledChannel π :=
  calls.foldl (step svc) c

/-- What a call registers, and for which session. -/
def accepts (c : ReconciledChannel π) :
    ReconciledCall π → Option (String × UpstreamStateProjection)
  | .channel _ => none
  | .register ref projection =>
      (c.world.sessions.get ref).bind fun session =>
        if projection.correlationRef = session.correlationRef then
          some (session.sessionRef, projection)
        else none

/-- What the calls of a run register, in order. -/
def accepted (c : ReconciledChannel π) :
    List (ReconciledCall π) → List (String × UpstreamStateProjection)
  | [] => []
  | call :: calls => (c.accepts call).toList ++ (c.step svc call).accepted calls

/-- What was registered last for a session. -/
def latest (h : List (String × UpstreamStateProjection)) (ref : String) :
    Option UpstreamStateProjection :=
  (History.last? (fun entry => entry.1 = ref) h).map Prod.snd

end ReconciledChannel

/-! ## The fixture is a map from session references -/

theorem latest_concat (h : List (String × UpstreamStateProjection)) (ref ref' : String)
    (p : UpstreamStateProjection) :
    ReconciledChannel.latest (h ++ [(ref, p)]) ref' =
      if ref = ref' then some p else ReconciledChannel.latest h ref' := by
  unfold ReconciledChannel.latest
  rw [History.last?_concat]
  by_cases href : ref = ref'
  · simp [href]
  · simp [href]

/-- The fixture knows sessions of this world, and of each what was registered last. -/
structure ReconciledChannel.Refines (c : ReconciledChannel π)
    (h : List (String × UpstreamStateProjection)) : Prop where
  keyed : c.world.Keyed
  port : ∀ s, c.world.upstream.reconcileSession s = .ok (c.client.reconcileSession s)
  bound : ∀ b p, c.client.byBinding.get? b = some p → p.correlationRef = b.correlationRef ∧
    ∃ s, c.world.sessions.sessions.get? b.sessionRef = some s ∧ bindingFromSession s = b
  named : ∀ ref p, latest h ref = some p → ∃ s, c.world.sessions.sessions.get? ref = some s
  agrees : ∀ ref s, c.world.sessions.sessions.get? ref = some s →
    c.client.byBinding.get? (bindingFromSession s) = latest h ref

namespace ReconciledChannel

variable {c : ReconciledChannel π} {h : List (String × UpstreamStateProjection)}

theorem Refines.reconcileSession (hr : c.Refines h) {ref : String} {s : CustomerSessionSnapshot}
    (hs : c.world.sessions.get ref = some s) :
    c.client.reconcileSession s = latest h s.sessionRef := by
  have hstored := hr.keyed.get?_of_get hs
  have hagrees := hr.agrees s.sessionRef s hstored
  unfold FakeXBOSStateReconciliationClient.reconcileSession
  cases hp : c.client.byBinding.get? (bindingFromSession s) with
  | none => exact hp.symm.trans hagrees
  | some p =>
      -- the second check of the correlation never fails
      have hcorrelated : p.correlationRef = s.correlationRef := (hr.bound _ p hp).1
      rw [hp] at hagrees
      simp only [hcorrelated, ne_eq, not_true_eq_false, if_false]
      exact hagrees

theorem start_refines (orders : π) (upstream : Upstream) (refs : RefSource) :
    (start orders upstream refs).Refines [] where
  keyed := start_keyed orders upstream refs
  port _ := rfl
  bound _ _ hp := by cases hp
  named _ _ hp := by cases hp
  agrees _ _ hs := by cases hs

/-- Sessions that are continued and new ones leave the fixture with what it knows. -/
theorem Refines.world (hr : c.Refines h) {w' : World π} (hk' : w'.Keyed)
    (hport : ∀ s, w'.upstream.reconcileSession s = .ok (c.client.reconcileSession s))
    (hcontinues : ∀ key s, c.world.sessions.sessions.get? key = some s →
      ∃ s', w'.sessions.sessions.get? key = some s' ∧ s.Continues s') :
    ({ c with world := w' } : ReconciledChannel π).Refines h where
  keyed := hk'
  port := hport
  bound b p hp := by
    obtain ⟨hcorrelated, s, hs, rfl⟩ := hr.bound b p hp
    obtain ⟨s', hs', hcontinued⟩ := hcontinues _ s hs
    exact ⟨hcorrelated, s', hs', hcontinued.binding⟩
  named ref p hp := by
    obtain ⟨s, hs⟩ := hr.named ref p hp
    obtain ⟨s', hs', -⟩ := hcontinues ref s hs
    exact ⟨s', hs'⟩
  agrees ref s' hs' := by
    cases hs : c.world.sessions.sessions.get? ref with
    | some s =>
        obtain ⟨t, ht, hcontinued⟩ := hcontinues ref s hs
        obtain rfl := Option.some.inj (hs'.symm.trans ht)
        rw [hcontinued.binding]
        exact hr.agrees ref s hs
    | none =>
        -- a session that was not there is unknown to both
        have hlatest : latest h ref = none := by
          cases hp : latest h ref with
          | none => rfl
          | some p =>
              obtain ⟨s, hs'⟩ := hr.named ref p hp
              rw [hs] at hs'
              cases hs'
        show c.client.byBinding.get? (bindingFromSession s') = latest h ref
        rw [hlatest]
        cases hp : c.client.byBinding.get? (bindingFromSession s') with
        | none => rfl
        | some p =>
            obtain ⟨-, t, ht, -⟩ := hr.bound _ p hp
            have href : (bindingFromSession s').sessionRef = ref := hk' ref s' hs'
            rw [href, hs] at ht
            cases ht

/-- A projection that is registered is the latest of its session. -/
theorem Refines.register (hr : c.Refines h) {ref : String} {session : CustomerSessionSnapshot}
    (hget : c.world.sessions.get ref = some session) {p : UpstreamStateProjection}
    (hcorrelated : p.correlationRef = session.correlationRef) :
    let client : FakeXBOSStateReconciliationClient :=
      { c.client with byBinding := c.client.byBinding.set (bindingFromSession session) p }
    ({ world := c.world.reconciledBy client, client } : ReconciledChannel π).Refines
      (h ++ [(session.sessionRef, p)]) := by
  intro client
  have hstored := hr.keyed.get?_of_get hget
  refine ⟨hr.keyed, fun _ => rfl, fun b q hq => ?_, fun ref' q hq => ?_, fun ref' s hs => ?_⟩
  · have hq : (c.client.byBinding.set (bindingFromSession session) p).get? b = some q := hq
    rw [Dict.get?_set] at hq
    split at hq
    · next hb =>
        obtain rfl := Option.some.inj hq
        subst hb
        exact ⟨hcorrelated, session, hstored, rfl⟩
    · exact hr.bound b q hq
  · rw [latest_concat] at hq
    split at hq
    · next href =>
        subst href
        exact ⟨session, hstored⟩
    · exact hr.named ref' q hq
  · show (c.client.byBinding.set (bindingFromSession session) p).get? (bindingFromSession s) = _
    have hs : c.world.sessions.sessions.get? ref' = some s := hs
    rw [latest_concat, Dict.get?_set, hr.agrees ref' s hs]
    by_cases href : session.sessionRef = ref'
    · rw [href, hs] at hstored
      obtain rfl := Option.some.inj hstored
      simp [href]
    · have hne : bindingFromSession s ≠ bindingFromSession session := by
        intro hsame
        have hsame : s.sessionRef = session.sessionRef :=
          congrArg SessionSecurityBinding.sessionRef hsame
        exact href (hsame.symm.trans (hr.keyed ref' s hs))
      rw [if_neg hne, if_neg href]

section Run

variable [XBOSOrderPort π] [Hashlib] (svc : OrderDraftConfirmationService)

theorem Refines.step (hr : c.Refines h) (call : ReconciledCall π) :
    (c.step svc call).Refines (h ++ (c.accepts call).toList) := by
  cases call with
  | channel call =>
      rw [show (c.accepts (.channel call)).toList = [] from rfl, List.append_nil]
      refine hr.world (step_keyed svc hr.keyed call) (fun _ => rfl) fun key s hs => ?_
      exact run_continues svc hr.keyed hs [call]
  | register ref p =>
      cases hget : c.world.sessions.get ref with
      | none => simpa [ReconciledChannel.step, accepts, hget] using hr
      | some session =>
          by_cases hcorrelated : p.correlationRef = session.correlationRef
          · simpa [ReconciledChannel.step, accepts, hget, hcorrelated,
              FakeXBOSStateReconciliationClient.register] using hr.register hget hcorrelated
          · simpa [ReconciledChannel.step, accepts, hget, hcorrelated,
              FakeXBOSStateReconciliationClient.register] using hr

theorem Refines.run (hr : c.Refines h) (calls : List (ReconciledCall π)) :
    (c.run svc calls).Refines (h ++ c.accepted svc calls) := by
  induction calls generalizing c h with
  | nil => simpa [accepted, ReconciledChannel.run] using hr
  | cons call calls ih =>
      have hrest := ih (hr.step svc call)
      rwa [List.append_assoc] at hrest

end Run

end ReconciledChannel

/-! ## Re-entry -/

/-- The references the projection names are those the session has. -/
def CustomerSessionSnapshot.RefsAgree (s : CustomerSessionSnapshot) (p : UpstreamStateProjection) :
    Prop :=
  (∀ a b, s.orderRef = some a → p.orderRef = some b → a = b) ∧
    ∀ a b, s.paymentRef = some a → p.paymentRef = some b → a = b

theorem assertEvidenceMatchesSession_iff {s : CustomerSessionSnapshot}
    {p : UpstreamStateProjection} :
    assertEvidenceMatchesSession s p = .ok () ↔
      p.correlationRef = s.correlationRef ∧ s.RefsAgree p := by
  have hagree (a b : Option String) :
      (∀ x y, a = some x → b = some y → x = y) ↔ ¬ (a.isSome ∧ b.isSome ∧ a ≠ b) := by
    cases a <;> cases b <;> simp
  unfold assertEvidenceMatchesSession CustomerSessionSnapshot.RefsAgree
  rw [hagree, hagree]
  grind

section Reentry

variable [XBOSOrderPort π] [Hashlib] {w : World π} {ref : String} {s : CustomerSessionSnapshot}

open CustomerSessionService

theorem exec_reenter_unreconciled (hget : w.sessions.get ref = some s)
    (hasks : AsksReconciliation s) (hnone : w.upstream.reconcileSession s = .ok none) :
    exec handle (reenter ref) w =
      (.error ⟨.sessionReconciliationRequired,
        "authoritative_upstream_state_required_for_reentry"⟩, w) := by
  have hnot : ¬ (!s.state.evidenceGated && falsy s.orderRef && falsy s.paymentRef) = true := by
    rcases hasks with hasks | hasks | hasks <;> simp [hasks]
  unfold reenter
  rw [exec_bind_ok handle (exec_canonicalRef ref w), exec_bind_ok handle (exec_required_of hget)]
  rw [if_neg hnot, exec_ask_bind]
  dsimp only [handle, Upstream.answer]
  rw [hnone, exec_bind_ok handle (by rw [exec_ofExcept])]
  rfl

theorem reenter_succeeds_iff {p : UpstreamStateProjection} (hget : w.sessions.get ref = some s)
    (hasks : AsksReconciliation s) (hp : w.upstream.reconcileSession s = .ok (some p)) :
    Succeeds (reenter ref) w ↔
      assertEvidenceMatchesSession s p = .ok () ∧ ∃ state, stateFromProjection p = .ok state := by
  unfold Succeeds
  rw [exec_reenter_reconciled hget hasks hp]
  cases hmatched : assertEvidenceMatchesSession s p with
  | error e =>
      rw [exec_bind_error handle (by rw [exec_ofExcept])]
      simp
  | ok _ =>
      rw [exec_bind_ok handle (by rw [exec_ofExcept])]
      cases hstate : stateFromProjection p with
      | error e =>
          rw [exec_bind_error handle (by rw [exec_ofExcept])]
          simp
      | ok state =>
          simp only [true_and, Except.ok.injEq, exists_eq', iff_true]
          exact ⟨_, _, rfl⟩

end Reentry

namespace ReconciledChannel

variable [XBOSOrderPort π] [Hashlib] (svc : OrderDraftConfirmationService)

open CustomerSessionService

/-- In every run of the channel with the fixture behind its reconciliation port, projections being
registered between the calls: of a session the fixture answers with what was last registered for
that session, by whatever name, and for no other. Re-entry of a session with something to reconcile
is refused, and changes nothing, as long as nothing was registered for it, its predecessor
notwithstanding; afterwards it succeeds exactly if the latest projection names no other order and no
other payment and tells a state. -/
theorem run_reconciles_latest (orders : π) (upstream : Upstream) (refs : RefSource)
    (calls : List (ReconciledCall π)) :
    let c := (start orders upstream refs).run svc calls
    let registered := (start orders upstream refs).accepted svc calls
    ∀ ref s, c.world.sessions.get ref = some s →
      c.client.reconcileSession s = latest registered s.sessionRef ∧
      (AsksReconciliation s →
        (latest registered s.sessionRef = none →
          exec handle (reenter ref) c.world =
            (.error ⟨.sessionReconciliationRequired,
              "authoritative_upstream_state_required_for_reentry"⟩, c.world)) ∧
        ∀ p, latest registered s.sessionRef = some p →
          (Succeeds (reenter ref) c.world ↔
            s.RefsAgree p ∧ ∃ state, stateFromProjection p = .ok state)) := by
  intro c registered ref s hget
  have hr : c.Refines registered := by
    have h := (start_refines orders upstream refs).run svc calls
    rwa [List.nil_append] at h
  have hanswer := hr.reconcileSession hget
  have hport := hr.port s
  rw [hanswer] at hport
  refine ⟨hanswer, fun hasks => ⟨fun hnone => ?_, fun p hp => ?_⟩⟩
  · rw [hnone] at hport
    exact exec_reenter_unreconciled hget hasks hport
  · rw [hp] at hport
    rw [reenter_succeeds_iff hget hasks hport, assertEvidenceMatchesSession_iff]
    have hstored := hr.keyed.get?_of_get hget
    have hknown := (hr.agrees s.sessionRef s hstored).trans hp
    have hcorrelated : p.correlationRef = s.correlationRef := (hr.bound _ p hknown).1
    simp [hcorrelated]

end ReconciledChannel

section Fixture

open Fixture CustomerSessionService

/-- An order is registered for the session, which takes it over; then the session is resumed. -/
def reconciledThenResumed : List (ReconciledCall FakeXBOSOrderClient) :=
  intoReview.map .channel ++
    [.channel (.transition { sessionRef, target := .orderSubmitting, idempotencyKey := "k6" }),
      .register sessionRef (orderCreated (some "order:fixture:one")),
      .channel (.transition { sessionRef, target := .orderCreated, idempotencyKey := "k7" }),
      .channel (.resumeSession resumption)]

/-- The channel afterwards. -/
def resumedChannel : ReconciledChannel FakeXBOSOrderClient :=
  (ReconciledChannel.start {} (upstream 1 3000) lengthRefs).run {} reconciledThenResumed

/-- Nothing was registered for the successor yet. -/
theorem run_reconciles_latest_resumed : ∃ next : String,
    exec handle (reenter next) resumedChannel.world =
      (.error ⟨.sessionReconciliationRequired,
        "authoritative_upstream_state_required_for_reentry"⟩, resumedChannel.world) := by
  have hsuccessor : ∃ s, resumedChannel.world.sessions.sessions.get? sessionRef = some s ∧
      ∃ next, s.rotatedToSessionRef = some next ∧
        ∃ t, resumedChannel.world.sessions.get next = some t ∧ t.state.evidenceGated = true ∧
          ReconciledChannel.latest ((ReconciledChannel.start {} (upstream 1 3000) lengthRefs).accepted
            {} reconciledThenResumed) t.sessionRef = none := by
    decide +kernel
  obtain ⟨-, -, next, -, t, ht, hgated, hnone⟩ := hsuccessor
  have h := ReconciledChannel.run_reconciles_latest {} ({} : FakeXBOSOrderClient) (upstream 1 3000)
    lengthRefs reconciledThenResumed next t ht
  exact ⟨next, (h.2 (Or.inl hgated)).1 hnone⟩

end Fixture

end XbosCustomerChannel
