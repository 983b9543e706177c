import XbosCustomerChannel.Entry.Reassigned
import XbosCustomerChannel.Fixture
import XbosCustomerChannel.Session.Chain
import XbosCustomerChannel.Session.Resumption

/-!
# Sessions at reassigned tables

A session is bound to the context it was opened in, and every use of it has that context attested
again. Where XBOS is the fixture, it is of use for as long as its table is not reassigned.
-/

namespace XbosCustomerChannel

open Effects Data FakeXBOSContextClient

/-- XBOS attests contexts as the client does. -/
def Upstream.AttestsAs (u : Upstream) (client : FakeXBOSContextClient) : Prop :=
  ∀ merchantRef locationRef tableRef purpose diningAreaRef,
    u.attestContext merchantRef locationRef tableRef purpose diningAreaRef =
      client.attestContext merchantRef locationRef tableRef purpose diningAreaRef

/-- The place a session is bound to. -/
def CustomerSessionSnapshot.place (s : CustomerSessionSnapshot) : Place :=
  (s.merchantRef.getD "", s.locationRef.getD "", s.tableRef)

namespace CustomerSessionService

variable {svc : CustomerSessionService} {u u' : Upstream} {client : FakeXBOSContextClient}
  {s s' : CustomerSessionSnapshot}

/-- A session that is attested is bound to an attestation of the client. -/
theorem Reattested.attests (h : svc.Reattested u s) (hu : u.AttestsAs client) :
    ∃ a, client.Attests a ∧ s.boundContext = a.boundContext ∧ placeOf a = s.place := by
  obtain ⟨-, m, l, p, a, hm, hl, -, hattested, hbound⟩ := h
  rw [hu] at hattested
  obtain ⟨⟨hmerchant, hlocation, htable⟩, -⟩ := attestContext_ok hattested
  refine ⟨a, attests_of_ok hattested, hbound, ?_⟩
  rw [placeOf, hmerchant, hlocation, htable, CustomerSessionSnapshot.place, hm, hl]
  rfl

/-- Every session with the same context is attested, after some reassignments, exactly if its table is
not among them. -/
theorem Reattested.again_iff (h : svc.Reattested u s) (hwell : client.WellBound)
    (hu : u.AttestsAs client) {rs : List Reassignment} (hu' : u'.AttestsAs (client.run rs))
    (hsame : s'.boundContext = s.boundContext) :
    svc.Reattested u' s' ↔ ¬ client.Reassigned rs s.place := by
  obtain ⟨a, hattests, hbound, hplace⟩ := h.attests hu
  rw [← hplace, ← hwell.attested_again_iff hattests rs]
  rw [hbound] at hsame
  constructor
  · rintro ⟨-, m, l, p, a', hm, hl, hp, hattested, hbound'⟩
    rw [hsame] at hbound'
    -- the session names the place and the purpose of the attestation
    have hmerchant : m = a.merchantRef := by
      have hfield := congrArg BoundContext.merchantRef hsame
      exact Option.some.inj (hm.symm.trans hfield)
    have hlocation : l = a.locationRef := by
      have hfield := congrArg BoundContext.locationRef hsame
      exact Option.some.inj (hl.symm.trans hfield)
    have hpurpose : p = a.purpose := by
      have hfield := congrArg BoundContext.purpose hsame
      exact Option.some.inj (hp.symm.trans hfield)
    have htable : s'.tableRef = a.tableRef := congrArg BoundContext.tableRef hsame
    have harea : s'.diningAreaRef = a.diningAreaRef := congrArg BoundContext.diningAreaRef hsame
    rw [hu', hmerchant, hlocation, hpurpose, htable, harea] at hattested
    exact ⟨a', hattested, hbound'.symm⟩
  · rintro ⟨a', hattested, hbound'⟩
    have htable : s'.tableRef = a.tableRef := congrArg BoundContext.tableRef hsame
    have harea : s'.diningAreaRef = a.diningAreaRef := congrArg BoundContext.diningAreaRef hsame
    refine ⟨h.1, a.merchantRef, a.locationRef, a.purpose, a', ?_, ?_, ?_, ?_, ?_⟩
    · exact congrArg BoundContext.merchantRef hsame
    · exact congrArg BoundContext.locationRef hsame
    · exact congrArg BoundContext.purpose hsame
    · rw [hu', htable, harea]
      exact hattested
    · rw [hsame, hbound']

end CustomerSessionService

section Run

variable {π : Type} [XBOSOrderPort π] [Hashlib] (svc : OrderDraftConfirmationService)

/-- Whatever else is called, the session found under a name is continued. -/
theorem run_get_continues {w : World π} (hk : w.Keyed) {ref : String} {s : CustomerSessionSnapshot}
    (hget : w.sessions.get ref = some s) (calls : List (ChannelCall π)) :
    ∃ s', (run svc w calls).sessions.get ref = some s' ∧ s.Continues s' := by
  have hsurvives : Survives fun _ (w : World π) => w.Keyed ∧
      ∃ s', w.sessions.get ref = some s' ∧ s.Continues s' :=
    { keyed := fun _ _ h => h.1
      effect := by
        rintro _ _ w w' ⟨-, s', hs', hcontinues⟩ heff hk'
        obtain ⟨s'', hs'', hcontinues'⟩ := heff.continues hs'
        refine ⟨hk', s'', ?_, hcontinues.trans hcontinues'⟩
        unfold InMemoryCustomerSessionStore.get
        rw [heff.canonicalRef hs']
        exact hs'' }
  exact (hsurvives.of_trace svc (T := []) ⟨hk, s, hget, .refl s⟩ calls).2

end Run

section Fixture

open Fixture

/-- XBOS with the contexts of the client, and an identity bound at the table that `moved` reassigns. -/
def seatedUpstream (client : FakeXBOSContextClient) : Upstream :=
  { Fixture.upstream 1 3000 with
    attestContext := client.attestContext
    resolveBinding := fun _ => some
      { Fixture.binding with
        tableRef := some moved.tableRef
        diningAreaRef := some "area:fixture:main"
        contextBindingRef := "ctxbind:alpha:one:a1:v1" } }

/-- A session is opened at the table. -/
def seated : List Call :=
  [.createSession
    { conversationRef := "conversation:fixture:one"
      correlationRef := "correlation:fixture:one"
      identityBindingRef := some "identity_binding_r"
      entryContext := some
        { Fixture.entry with
          tableRef := some moved.tableRef
          diningAreaRef := some "area:fixture:main"
          contextBindingRef := "ctxbind:alpha:one:a1:v1" }
      nowEpoch := some 0
      expiresAtEpoch := some 10000 }]

def seatedWorld : World FakeXBOSOrderClient :=
  World.start {} (seatedUpstream (fixture.run [])) lengthRefs

def reseated : List Call := [.upstreamChanges (seatedUpstream (fixture.run [moved]))]

end Fixture

end XbosCustomerChannel
