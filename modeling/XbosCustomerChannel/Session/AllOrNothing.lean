import XbosCustomerChannel.Session.Counting

/-!
# Creation is all or nothing

A refused `create_session` should leave the store as it was, and one that returns should add one
session and disturb no name. One refusal comes too late for that: the alias is looked at after the
session has been stored.
-/

namespace XbosCustomerChannel

open Effects Effects.Program Data

section Names

variable {π : Type} [XBOSOrderPort π]

/-- The reference the caller of a creation chose. -/
def ChannelCall.chosenRef : ChannelCall π → Option String
  | .createSession args => args.sessionRef
  | _ => none

/-- The references callers chose in a run. -/
def chosen (calls : List (ChannelCall π)) : List String := calls.filterMap ChannelCall.chosenRef

theorem mem_chosen_createSession (calls : List (ChannelCall π)) {args : CreateSessionArgs}
    {a : String} (h : args.sessionRef = some a) : a ∈ chosen (calls ++ [.createSession args]) := by
  refine List.mem_filterMap.mpr ⟨.createSession args, ?_, h⟩
  exact List.mem_append_right _ (List.mem_singleton_self _)

variable [Hashlib]

/-- A call of the run drew the reference for a session it was to store. -/
def Drawn (svc : OrderDraftConfirmationService) (w : World π) (calls : List (ChannelCall π))
    (ref : String) : Prop :=
  ∃ before call after, calls = before ++ call :: after ∧ call.Draws ∧
    ref = (run svc w before).newSessionRef

/-- Sessions are stored under references that were drawn. -/
theorem drawn_of_stored (svc : OrderDraftConfirmationService) (orders : π) (upstream : Upstream)
    (refs : RefSource) (calls : List (ChannelCall π)) {ref : String} {s : CustomerSessionSnapshot}
    (hs : (run svc (World.start orders upstream refs) calls).sessions.sessions.get? ref = some s) :
    Drawn svc (World.start orders upstream refs) calls ref := by
  obtain ⟨before, call, after, s₀, rfl, hcreated, -⟩ :=
    run_counts svc orders upstream refs calls hs
  refine ⟨before, call, after, rfl, ?_, hcreated.drawn⟩
  by_contra hcall
  have hkept := step_countKept (HoldsHistory.run svc orders upstream refs before) svc hcall
  have hstored := hcreated.stored
  rw [run_append] at hstored
  obtain ⟨s₁, hs₁, -⟩ := hkept ref s₀ hstored
  rw [hcreated.new] at hs₁
  cases hs₁

/-! ## What a creation may do -/

/-- One session is added, and every name keeps its session; no name of the callers' is a key. -/
structure Adds (w w' : World π) (chosen : List String) : Prop where
  added : ∃ s, s.sessionRef = w.newSessionRef ∧
    w'.sessions.sessions = w.sessions.sessions.set w.newSessionRef s
  new : w.sessions.sessions.get? w.newSessionRef = none
  kept : ∀ name s, w.sessions.get name = some s → w'.sessions.get name = some s
  unchosen : ∀ a ∈ chosen, w'.sessions.sessions.get? a = none

/-- The call of `create_session` leaves the store alone, or adds one session to it. -/
structure CustomerSessionService.AllOrNothing (svc : CustomerSessionService) (w : World π)
    (args : CreateSessionArgs) (chosen : List String) : Prop where
  raised : ∀ e w', exec handle (svc.createSession args w.newSessionRef) w = (.error e, w') → w' = w
  returned : ∀ s w', exec handle (svc.createSession args w.newSessionRef) w = (.ok s, w') →
    Adds w w' chosen

omit [XBOSOrderPort π] [Hashlib] in
/-- A name that finds a session still finds it when another one is stored. -/
theorem World.get_stored_new (w : World π) {s : CustomerSessionSnapshot}
    (href : s.sessionRef = w.newSessionRef) {name : String} {t : CustomerSessionSnapshot}
    (ht : w.sessions.get name = some t) : (w.stored s).sessions.get name = some t := by
  show (w.sessions.sessions.set s.sessionRef s).get? (w.sessions.canonicalRef name) = some t
  rw [Dict.get?_set_of_ne]
  · exact ht
  · rintro heq
    have hnew := w.get?_newSessionRef
    rw [← href, ← heq] at hnew
    rw [InMemoryCustomerSessionStore.get, hnew] at ht
    cases ht

omit [XBOSOrderPort π] [Hashlib] in
/-- A free name can be made an alias. -/
theorem World.get_aliased {w : World π} {a ref : String} (hfree : ¬ w.Taken a) {name : String}
    {t : CustomerSessionSnapshot} (ht : w.sessions.get name = some t) :
    (w.aliased a ref).sessions.get name = some t := by
  simp only [World.Taken, not_or, Option.not_isSome_iff_eq_none] at hfree
  have hne : name ≠ a := by
    rintro rfl
    rw [InMemoryCustomerSessionStore.get, InMemoryCustomerSessionStore.canonicalRef, hfree.2,
      Option.getD_none, hfree.1] at ht
    cases ht
  show w.sessions.sessions.get? (((w.sessions.aliases.set a ref).get? name).getD name) = some t
  rw [Dict.get?_set_of_ne _ hne]
  exact ht

omit [XBOSOrderPort π] [Hashlib] in
/-- The refusal of a taken alias has stored the session. -/
theorem World.stored_new_ne (w : World π) {s : CustomerSessionSnapshot}
    (href : s.sessionRef = w.newSessionRef) : w.stored s ≠ w := by
  intro heq
  have hstored : (w.stored s).sessions.sessions.get? w.newSessionRef = some s := by
    rw [← href]
    exact Dict.get?_set_self _ _ _
  rw [heq, w.get?_newSessionRef] at hstored
  cases hstored

theorem Drawn.append {svc : OrderDraftConfirmationService} {w : World π}
    {calls : List (ChannelCall π)} {ref : String} (h : Drawn svc w calls ref)
    (more : List (ChannelCall π)) : Drawn svc w (calls ++ more) ref := by
  obtain ⟨before, call, after, rfl, hdraws, href⟩ := h
  exact ⟨before, call, after ++ more, by simp, hdraws, href⟩

omit [XBOSOrderPort π] [Hashlib] in
/-- What is added under a drawn reference, where no caller chose a key. -/
theorem adds_of_stored {w w' : World π} {s : CustomerSessionSnapshot} {chosen : List String}
    (href : s.sessionRef = w.newSessionRef)
    (hchosen : ∀ a ∈ chosen, a ≠ w.newSessionRef ∧ w.sessions.sessions.get? a = none)
    (hsessions : w'.sessions.sessions = w.sessions.sessions.set w.newSessionRef s)
    (hkept : ∀ name t, w.sessions.get name = some t → w'.sessions.get name = some t) :
    Adds w w' chosen where
  added := ⟨s, href, hsessions⟩
  new := w.get?_newSessionRef
  kept := hkept
  unchosen a ha := by
    rw [hsessions, Dict.get?_set_of_ne _ (hchosen a ha).1]
    exact (hchosen a ha).2

/-- A session without a security binding is refused and stored if the name it asks for is taken. -/
theorem CustomerSessionService.createSession_of_taken (svc : CustomerSessionService) {w : World π}
    {args : CreateSessionArgs} {ref a : String} (hlegacy : ¬ args.Secure)
    (ha : args.sessionRef = some a) (htaken : (w.stored (fixtureSession args ref)).Taken a) :
    ∃ e, exec handle (svc.createSession args ref) w =
      (.error e, w.stored (fixtureSession args ref)) := by
  have hcreation := svc.createSession_creation args ref w
  generalize exec handle (svc.createSession args ref) w = result at hcreation
  cases hcreation with
  | refused e secure => exact absurd secure hlegacy
  | secure bound => exact absurd (.inr (.inr (.inl (by rw [bound.entryContext]; rfl)))) hlegacy
  | unnamed legacy name =>
      rw [name] at ha
      cases ha
  | named legacy name free =>
      obtain rfl := Option.some.inj (name.symm.trans ha)
      exact absurd htaken free
  | taken legacy name taken => exact ⟨_, rfl⟩

namespace CustomerSessionService.Creation

variable {svc : CustomerSessionService} {w w' : World π} {args : CreateSessionArgs}

omit [XBOSOrderPort π] [Hashlib] in
/-- Every other refusal comes before the session is stored. -/
theorem unchanged {ref : String} {e : Exc} (h : svc.Creation w args ref (.error e, w'))
    (hfree : ¬ args.Secure → ∀ a, args.sessionRef = some a →
      ¬ (w.stored (fixtureSession args ref)).Taken a) : w' = w := by
  cases h with
  | refused e secure => rfl
  | taken legacy name taken => exact absurd taken (hfree legacy _ name)

omit [XBOSOrderPort π] [Hashlib] in
/-- One that returns has added the session. -/
theorem adds {s : CustomerSessionSnapshot} {chosen : List String}
    (h : svc.Creation w args w.newSessionRef (.ok s, w'))
    (hchosen : ∀ a ∈ chosen, a ≠ w.newSessionRef ∧ w.sessions.sessions.get? a = none) :
    Adds w w' chosen := by
  cases h with
  | secure bound => exact adds_of_stored rfl hchosen rfl fun name t ht => w.get_stored_new rfl ht
  | unnamed legacy name =>
      exact adds_of_stored rfl hchosen rfl fun name t ht => w.get_stored_new rfl ht
  | named legacy name free =>
      refine adds_of_stored (s := fixtureSession args w.newSessionRef) rfl hchosen rfl ?_
      intro name t ht
      exact World.get_aliased free (w.get_stored_new rfl ht)

end CustomerSessionService.Creation

/-- Along every run whose drawn references are none of the callers', a creation is all or nothing
exactly if it does not ask for an alias that is already one. -/
theorem createSession_allOrNothing_iff (svc : OrderDraftConfirmationService) (orders : π)
    (upstream : Upstream) (refs : RefSource) (calls : List (ChannelCall π))
    (args : CreateSessionArgs)
    (hdrawn : ∀ ref, Drawn svc (World.start orders upstream refs)
      (calls ++ [.createSession args]) ref → ref ∉ chosen (calls ++ [.createSession args])) :
    let w := run svc (World.start orders upstream refs) calls
    svc.sessions.AllOrNothing w args (chosen (calls ++ [.createSession args])) ↔
      ¬ (¬ args.Secure ∧ ∃ a, args.sessionRef = some a ∧ (w.sessions.aliases.get? a).isSome) := by
  intro w
  have hchosen (a : String) (ha : a ∈ chosen (calls ++ [.createSession args])) :
      a ≠ w.newSessionRef ∧ w.sessions.sessions.get? a = none := by
    refine ⟨?_, ?_⟩
    · rintro rfl
      exact hdrawn _ ⟨calls, _, [], rfl, trivial, rfl⟩ ha
    · cases hs : w.sessions.sessions.get? a with
      | none => rfl
      | some s =>
          exact absurd ha (hdrawn a ((drawn_of_stored svc orders upstream refs calls hs).append _))
  -- a name the caller chose can only be taken as an alias
  have htaken {a : String} (ha : args.sessionRef = some a) :
      (w.stored (CustomerSessionService.fixtureSession args w.newSessionRef)).Taken a ↔
        (w.sessions.aliases.get? a).isSome := by
    obtain ⟨hne, hnone⟩ := hchosen a (mem_chosen_createSession calls ha)
    refine or_iff_right fun hs => ?_
    rcases (Dict.isSome_get?_set _ _ _ _).mp hs with heq | hs
    · exact hne heq
    · rw [hnone] at hs
      cases hs
  have hcreation := svc.sessions.createSession_creation args w.newSessionRef w
  constructor
  · rintro h ⟨hlegacy, a, ha, halias⟩
    obtain ⟨e, hexec⟩ :=
      svc.sessions.createSession_of_taken hlegacy ha ((htaken ha).mpr halias)
    exact w.stored_new_ne rfl (h.raised e _ hexec)
  · intro hfree
    constructor
    · intro e w' hexec
      rw [hexec] at hcreation
      apply hcreation.unchanged
      intro hlegacy a ha htaken'
      exact hfree ⟨hlegacy, a, ha, (htaken ha).mp htaken'⟩
    · intro s w' hexec
      rw [hexec] at hcreation
      exact hcreation.adds hchosen

end Names

section Fixture

open Fixture

/-- A session without a security binding, under a name of the caller's. -/
def aliasedArgs (conversationRef : String) : CreateSessionArgs :=
  { conversationRef, correlationRef := "correlation:fixture:one", sessionRef := some "legacy" }

def createdOnce : List Call := [.createSession (aliasedArgs "conversation:fixture:one")]

/-- A drawn reference is no caller's: it starts with its stem. -/
theorem newSessionRef_ne_legacy {π : Type} (w : World π) : w.newSessionRef ≠ "legacy" := by
  intro h
  have hhead := congrArg (fun s => s.toList.head?) h
  simp [World.newSessionRef, RefSource.newRef] at hhead

theorem drawn_createdOnce_notMem (conversationRef ref : String)
    (h : Drawn {} world (createdOnce ++ [.createSession (aliasedArgs conversationRef)]) ref) :
    ref ∉ chosen (createdOnce ++ [.createSession (aliasedArgs conversationRef)]) := by
  obtain ⟨before, call, after, -, -, rfl⟩ := h
  intro hmem
  refine newSessionRef_ne_legacy (run {} world before) ?_
  have hlegacy : chosen (createdOnce ++ [.createSession (aliasedArgs conversationRef)]) =
      ["legacy", "legacy"] := rfl
  simpa [hlegacy] using hmem

theorem createSession_allOrNothing_second :
    CustomerSessionService.AllOrNothing {} (run {} world createdOnce)
      (aliasedArgs "conversation:fixture:two")
      (chosen (createdOnce ++ [.createSession (aliasedArgs "conversation:fixture:two")])) ↔
    ¬ (¬ (aliasedArgs "conversation:fixture:two").Secure ∧
      ∃ a, (aliasedArgs "conversation:fixture:two").sessionRef = some a ∧
        ((run {} world createdOnce).sessions.aliases.get? a).isSome) :=
  createSession_allOrNothing_iff {} ({} : FakeXBOSOrderClient) (upstream 1 3000) lengthRefs createdOnce
    (aliasedArgs "conversation:fixture:two") fun ref h =>
      drawn_createdOnce_notMem "conversation:fixture:two" ref h

/-- The second session with the same alias is refused and stored. -/
theorem createSession_taken_stored :
    ¬ ∀ (calls : List Call) (args : CreateSessionArgs),
      (∀ ref, Drawn {} world (calls ++ [.createSession args]) ref →
        ref ∉ chosen (calls ++ [.createSession args])) →
      CustomerSessionService.AllOrNothing {} (run {} world calls) args
        (chosen (calls ++ [.createSession args])) := by
  intro h
  have hnothing := h createdOnce (aliasedArgs "conversation:fixture:two") fun ref hdrawn =>
    drawn_createdOnce_notMem "conversation:fixture:two" ref hdrawn
  have hrefused : (exec handle (CustomerSessionService.createSession {}
      (aliasedArgs "conversation:fixture:two") (run {} world createdOnce).newSessionRef)
      (run {} world createdOnce)).1.toOption = none := by
    decide +kernel
  have hstored : (exec handle (CustomerSessionService.createSession {}
      (aliasedArgs "conversation:fixture:two") (run {} world createdOnce).newSessionRef)
      (run {} world createdOnce)).2.sessions.sessions.size ≠
        (run {} world createdOnce).sessions.sessions.size := by
    decide +kernel
  generalize hexec : exec handle (CustomerSessionService.createSession {}
    (aliasedArgs "conversation:fixture:two") (run {} world createdOnce).newSessionRef)
    (run {} world createdOnce) = result at hrefused hstored
  obtain ⟨r, w'⟩ := result
  cases r with
  | ok s => cases hrefused
  | error e =>
      obtain rfl := hnothing.raised e w' hexec
      exact hstored rfl

end Fixture

end XbosCustomerChannel
