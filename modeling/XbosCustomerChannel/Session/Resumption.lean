import XbosCustomerChannel.Session.Counting

/-!
# Resuming and using agree

`resume_session` and `validate_active_session` check a session separately. They agree on which
sessions are active, and a session that has just been created or resumed is one.
-/

namespace XbosCustomerChannel

open Effects Effects.Program Data

section Resumption

variable {π : Type}

/-- Names other than a session's own are names of sessions without a security binding. -/
def World.AliasesInsecure (w : World π) : Prop :=
  ∀ a ref, w.sessions.aliases.get? a = some ref →
    ∃ s, w.sessions.sessions.get? ref = some s ∧ s.securityBindingComplete = false

/-- Every session that was stored still is, as secure as it was; the aliases are the same. -/
def SecurityKept (w w' : World π) : Prop :=
  w'.sessions.aliases = w.sessions.aliases ∧
    ∀ ref s, w.sessions.sessions.get? ref = some s →
      ∃ s', w'.sessions.sessions.get? ref = some s' ∧
        s'.securityBindingComplete = s.securityBindingComplete

theorem SecurityKept.of_eq {w w' : World π} (h : w'.sessions = w.sessions) : SecurityKept w w' :=
  ⟨by rw [h], fun _ s hs => ⟨s, by rw [h, hs], rfl⟩⟩

theorem SecurityKept.trans {w w' w'' : World π} (h : SecurityKept w w') (h' : SecurityKept w' w'') :
    SecurityKept w w'' := by
  refine ⟨h'.1.trans h.1, fun ref s hs => ?_⟩
  obtain ⟨s', hs', hsame⟩ := h.2 ref s hs
  obtain ⟨s'', hs'', hsame'⟩ := h'.2 ref s' hs'
  exact ⟨s'', hs'', hsame'.trans hsame⟩

/-- One record is written over, or added. -/
theorem SecurityKept.of_set {w w' : World π} {ref : String} {s : CustomerSessionSnapshot}
    (haliases : w'.sessions.aliases = w.sessions.aliases)
    (hsessions : w'.sessions.sessions = w.sessions.sessions.set ref s)
    (hsame : ∀ t, w.sessions.sessions.get? ref = some t →
      s.securityBindingComplete = t.securityBindingComplete) : SecurityKept w w' := by
  refine ⟨haliases, fun key t ht => ?_⟩
  rw [hsessions, Dict.get?_set]
  split
  · next hkey => exact ⟨s, rfl, hsame t (hkey ▸ ht)⟩
  · exact ⟨t, ht, rfl⟩

theorem World.AliasesInsecure.kept {w w' : World π} (h : w.AliasesInsecure)
    (hkept : SecurityKept w w') : w'.AliasesInsecure := by
  intro a ref ha
  rw [hkept.1] at ha
  obtain ⟨s, hs, hinsecure⟩ := h a ref ha
  obtain ⟨s', hs', hsame⟩ := hkept.2 ref s hs
  exact ⟨s', hs', hsame.trans hinsecure⟩

/-- A secure session has no alias. -/
theorem World.AliasesInsecure.canonicalRef {w : World π} (h : w.AliasesInsecure) {name : String}
    {s : CustomerSessionSnapshot} (hs : w.sessions.get name = some s)
    (hsecure : s.securityBindingComplete = true) : w.sessions.canonicalRef name = name := by
  cases ha : w.sessions.aliases.get? name with
  | none => rw [InMemoryCustomerSessionStore.canonicalRef, ha, Option.getD_none]
  | some ref =>
      obtain ⟨t, ht, hinsecure⟩ := h name ref ha
      rw [InMemoryCustomerSessionStore.get, InMemoryCustomerSessionStore.canonicalRef, ha,
        Option.getD_some, ht] at hs
      obtain rfl := Option.some.inj hs
      rw [hinsecure] at hsecure
      cases hsecure

variable [XBOSOrderPort π] [Hashlib]

theorem securityKept_transition {w : World π} (hk : w.Keyed) (svc : CustomerSessionService)
    (args : TransitionArgs) : SecurityKept w (exec handle (svc.transition args) w).2 := by
  rcases svc.transition_cases w args with
    ⟨current, refs, henabled, hcase⟩ | ⟨prior, -, hcase⟩ | ⟨-, e, hcase⟩
  · rw [hcase]
    refine .of_set rfl rfl fun t ht => ?_
    obtain rfl := Option.some.inj ((hk.get?_of_get henabled.found).symm.trans ht)
    rfl
  · exact .of_eq (by rw [hcase])
  · exact .of_eq (by rw [hcase])

theorem aliasesInsecure_createSession (svc : CustomerSessionService) (args : CreateSessionArgs)
    {w : World π} (h : w.AliasesInsecure) :
    (exec handle (svc.createSession args w.newSessionRef) w).2.AliasesInsecure := by
  have hnew := w.get?_newSessionRef
  have hadded {w' : World π} {s : CustomerSessionSnapshot}
      (hsessions : w'.sessions.sessions = w.sessions.sessions.set w.newSessionRef s)
      (haliases : w'.sessions.aliases = w.sessions.aliases) : w'.AliasesInsecure := by
    refine h.kept (.of_set haliases hsessions fun t ht => ?_)
    rw [hnew] at ht
    cases ht
  have hcreation := svc.createSession_creation args w.newSessionRef w
  generalize exec handle (svc.createSession args w.newSessionRef) w = result at hcreation
  cases hcreation with
  | refused e secure => exact h
  | secure bound => exact hadded rfl rfl
  | unnamed legacy name => exact hadded rfl rfl
  | taken legacy name taken => exact hadded rfl rfl
  | @named a legacy name free =>
      have hstored : (w.stored (CustomerSessionService.fixtureSession args
          w.newSessionRef)).AliasesInsecure := hadded rfl rfl
      intro b ref hb
      have hb : (w.sessions.aliases.set a w.newSessionRef).get? b = some ref := hb
      rw [Dict.get?_set] at hb
      split at hb
      · obtain rfl := Option.some.inj hb
        exact ⟨_, Dict.get?_set_self _ _ _, rfl⟩
      · exact hstored b ref hb

theorem aliasesInsecure_resumeSession (svc : CustomerSessionService) (args : ResumeSessionArgs)
    {w : World π} (hk : w.Keyed) (h : w.AliasesInsecure) :
    (exec handle (svc.resumeSession args w.newSessionRef) w).2.AliasesInsecure := by
  rcases svc.resumeSession_cases args w.newSessionRef w with
    ⟨current, stored, henabled, hexec⟩ | ⟨e, hexec⟩
  · rw [hexec]
    obtain ⟨hcanonical, rfl⟩ := CustomerSessionService.ResumeEnabled.stored_eq svc henabled hk
    have hstored := hk.get?_of_get henabled.found
    refine h.kept ⟨rfl, fun ref s hs => ?_⟩
    show ∃ s', ((w.sessions.sessions.set (w.sessions.canonicalRef stored.sessionRef) _).set
      w.newSessionRef _).get? ref = some s' ∧ _
    rw [hcanonical, Dict.get?_set_of_ne _ (World.ne_of_fresh hs w.newSessionRef_notMem),
      Dict.get?_set]
    split
    · next href =>
      subst href
      obtain rfl := Option.some.inj (hstored.symm.trans hs)
      exact ⟨_, rfl, rfl⟩
    · exact ⟨s, hs, rfl⟩
  · rw [hexec]
    exact h

theorem step_aliasesInsecure (svc : OrderDraftConfirmationService) {w : World π} (hk : w.Keyed)
    (h : w.AliasesInsecure) (call : ChannelCall π) : (step svc w call).AliasesInsecure := by
  have hkept : KeptByTransitions svc fun _ (w' : World π) => w'.Keyed ∧ w'.AliasesInsecure :=
    { keeps := fun op _ w' hop h' =>
        ⟨handle_keyed op w' h'.1, h'.2.kept (.of_eq (handle_keepsSessionStore w' hop))⟩
      transition := fun args _ w' h' =>
        ⟨exec_invariant handle (fun op w _ => handle_keyed op w) (Uses.all _) h'.1,
          h'.2.kept (securityKept_transition h'.1 svc.sessions args)⟩ }
  have hchange : (call.change w).Keyed ∧ (call.change w).AliasesInsecure := by
    cases call <;> exact ⟨hk, h⟩
  -- a session that is stored again is as secure as it was read
  have hreplaced {current : CustomerSessionSnapshot} {changes : SessionChanges}
      {w' : World π} (hget : w.sessions.sessions.get? current.sessionRef = some current)
      (hw' : w' = w.stored (current.replace changes)) : SecurityKept w w' := by
    refine .of_set (by rw [hw']; rfl) (by rw [hw']; rfl) fun t ht => ?_
    obtain rfl := Option.some.inj (hget.symm.trans ht)
    rfl
  cases call with
  | createSession args =>
      show (exec handle (Program.void _) w).2.AliasesInsecure
      rw [exec_void_state]
      exact aliasesInsecure_createSession svc.sessions args h
  | resumeSession args =>
      show (exec handle (Program.void _) w).2.AliasesInsecure
      rw [exec_void_state]
      exact aliasesInsecure_resumeSession svc.sessions args hk h
  | attachInteractionRefs ref cart quote =>
      show (exec handle (Program.void _) w).2.AliasesInsecure
      rw [exec_void_state]
      rcases CustomerSessionService.attachInteractionRefs_cases ref cart quote w with
        ⟨current, hget, hexec⟩ | ⟨-, hexec⟩
      · exact h.kept (hreplaced (hk.get?_of_get hget) (by rw [hexec]))
      · exact h.kept (.of_eq (by rw [hexec]))
  | reenter ref =>
      show (exec handle (Program.void _) w).2.AliasesInsecure
      rw [exec_void_state]
      rcases CustomerSessionService.reenter_cases ref w with
        ⟨current, state, p, -, henabled, -, named, hexec⟩ | ⟨r, hexec⟩
      · exact h.kept (hreplaced (hk.get?_of_get henabled.found) (by rw [hexec]))
      · exact h.kept (.of_eq (by rw [hexec]))
  | _ => exact (hkept.of_call (T := []) id hchange).2

theorem run_aliasesInsecure (svc : OrderDraftConfirmationService) (orders : π)
    (upstream : Upstream) (refs : RefSource) (calls : List (ChannelCall π)) :
    (run svc (World.start orders upstream refs) calls).AliasesInsecure := by
  refine (run_invariant svc (I := fun w => w.Keyed ∧ w.AliasesInsecure)
    (fun w call h => ⟨step_keyed svc h.1 call, step_aliasesInsecure svc h.1 h.2 call⟩)
    ⟨start_keyed _ _ _, ?_⟩ calls).2
  intro a ref ha
  cases ha

/-! ## Resuming -/

/-- The program returns. -/
def Succeeds {α : Type} (p : Service α) (w : World π) : Prop := ∃ a w', exec handle p w = (.ok a, w')

/-- The program raises. -/
def Raises {α : Type} (p : Service α) (w : World π) : Prop := ∃ e w', exec handle p w = (.error e, w')

namespace CustomerSessionService

variable (svc : CustomerSessionService)

theorem validateActiveSession_succeeds_iff (ref : String) (now : Int) (w : World π) :
    Succeeds (svc.validateActiveSession ref now) w ↔
      ∃ s, w.sessions.get ref = some s ∧ svc.ValidActive w.upstream s now := by
  rcases svc.validateActiveSession_cases ref now w with ⟨s, hget, hvalid, hexec⟩ | ⟨hnot, e, hexec⟩
  · exact iff_of_true ⟨s, w, hexec⟩ ⟨s, hget, hvalid⟩
  · refine iff_of_false ?_ ?_
    · rintro ⟨a, w', h⟩
      cases hexec.symm.trans h
    · rintro ⟨s, hget, hvalid⟩
      exact hnot s hget hvalid

theorem validateActiveSession_raises {ref : String} {now : Int} {w : World π}
    (h : ∀ s, w.sessions.get ref = some s → ¬ svc.ValidActive w.upstream s now) :
    Raises (svc.validateActiveSession ref now) w := by
  rcases svc.validateActiveSession_cases ref now w with ⟨s, hget, hvalid, -⟩ | ⟨-, e, hexec⟩
  · exact absurd hvalid (h s hget)
  · exact ⟨e, w, hexec⟩

/-- All that `resume_session` asks for, in its order. -/
theorem exec_resumeSession_of {w : World π} (hk : w.Keyed) {args : ResumeSessionArgs}
    {bindingRef newRef : String} {s : CustomerSessionSnapshot}
    (hunaided : args.ownerIdentityRef = none) (hbinding : args.identityBindingRef = some bindingRef)
    (hstore : svc.identityBindingStore = true)
    (hcanonical : w.sessions.canonicalRef args.sessionRef = args.sessionRef)
    (hget : w.sessions.get args.sessionRef = some s)
    (hvalid : svc.ValidActive w.upstream s args.nowEpoch)
    (haccepted : BindingAccepted w.upstream s bindingRef args.nowEpoch) :
    exec handle (svc.resumeSession args newRef) w =
      (.ok (replacementFor s newRef),
        w.rotated args.sessionRef s args.nowEpoch (replacementFor s newRef)) := by
  have href : s.sessionRef = args.sessionRef := (hk _ _ hget).trans hcanonical
  have hcheck : exec handle (checkResumeBinding s bindingRef args.nowEpoch) w = (.ok (), w) := by
    rcases checkResumeBinding_cases s bindingRef args.nowEpoch w with ⟨-, h⟩ | ⟨hnot, -⟩
    · exact h
    · exact absurd haccepted hnot
  have hrotate : w.sessions.rotateIfActive s.sessionRef (s.ownerIdentityRef.getD "") args.nowEpoch
      (replacementFor s newRef) = (.ok (some (replacementFor s newRef)),
        (w.rotated args.sessionRef s args.nowEpoch (replacementFor s newRef)).sessions) := by
    obtain ⟨binding, -, -, howner, -⟩ := haccepted
    have hfound : w.sessions.sessions.get? args.sessionRef = some s := by
      rw [← hcanonical]
      exact hget
    unfold InMemoryCustomerSessionStore.rotateIfActive
    dsimp only
    rw [href, hcanonical, hfound]
    dsimp only
    rw [if_neg (by simp [← howner]), if_neg (by simp [hvalid.active]),
      if_neg (by simp [hvalid.unexpired]), if_neg (by simp [replacementFor])]
    rfl
  unfold resumeSession
  rw [exec_raiseIf_bind, if_neg (by simp [hunaided]), hbinding]
  dsimp only
  rw [exec_raiseIf_bind, if_neg (by simp [hstore])]
  rw [exec_bind_ok handle (exec_canonicalRef _ w), exec_raiseIf_bind, if_neg (by simp [hcanonical])]
  rw [exec_bind_ok handle (exec_required_of hget), exec_raiseIf_bind,
    if_neg (by simp [hvalid.secure]), exec_bind_ok handle hcheck]
  rw [exec_raiseIf_bind, if_neg (by simp [hvalid.unexpired])]
  rw [exec_raiseIf_bind, if_neg (by simp [hvalid.active])]
  rw [exec_bind_ok handle (svc.exec_reattest_of hvalid.attested), exec_ask_bind]
  dsimp only [handle, InMemoryCustomerSessionStore.answer]
  rw [hrotate]
  rfl

theorem resumeSession_succeeds_iff {w : World π} (hk : w.Keyed) (hinsecure : w.AliasesInsecure)
    {args : ResumeSessionArgs} {bindingRef : String} (newRef : String)
    (hunaided : args.ownerIdentityRef = none)
    (hbinding : args.identityBindingRef = some bindingRef) :
    Succeeds (svc.resumeSession args newRef) w ↔
      Succeeds (svc.validateActiveSession args.sessionRef args.nowEpoch) w ∧
        svc.identityBindingStore = true ∧ ∃ s, w.sessions.get args.sessionRef = some s ∧
          BindingAccepted w.upstream s bindingRef args.nowEpoch := by
  rw [validateActiveSession_succeeds_iff]
  constructor
  · rintro ⟨r, w', hexec⟩
    rcases svc.resumeSession_ends args newRef w with
      ⟨current, stored, b, h, hstore, hb, haccepted, -⟩ | ⟨e, herror⟩
    · obtain rfl := Option.some.inj (hbinding.symm.trans hb)
      exact ⟨⟨current, h.found, h.secure, h.active, h.unexpired, h.attested⟩, hstore, current,
        h.found, haccepted⟩
    · cases hexec.symm.trans herror
  · rintro ⟨⟨s, hget, hvalid⟩, hstore, s', hget', haccepted⟩
    obtain rfl := Option.some.inj (hget.symm.trans hget')
    -- an alias names no secure session, so the name is the session's own
    have hcanonical := hinsecure.canonicalRef hget hvalid.secure
    exact ⟨_, _, svc.exec_resumeSession_of hk hunaided hbinding hstore hcanonical hget hvalid
      haccepted⟩

/-- The successor is active, and the session it was resumed from no longer. -/
theorem active_after_resumeSession {w w' : World π} (hk : w.Keyed) {args : ResumeSessionArgs}
    {s : CustomerSessionSnapshot}
    (h : exec handle (svc.resumeSession args w.newSessionRef) w = (.ok s, w')) :
    Succeeds (svc.validateActiveSession s.sessionRef args.nowEpoch) w' ∧
      Raises (svc.validateActiveSession args.sessionRef args.nowEpoch) w' := by
  rcases svc.resumeSession_cases args w.newSessionRef w with
    ⟨current, stored, henabled, hexec⟩ | ⟨e, herror⟩
  case inr => cases h.symm.trans herror
  obtain ⟨hcanonical, rfl⟩ := ResumeEnabled.stored_eq svc henabled hk
  rw [hexec] at h
  obtain ⟨hs, rfl⟩ := Prod.mk.inj h
  obtain rfl := Except.ok.inj hs
  have hstored := hk.get?_of_get henabled.found
  have hne : stored.sessionRef ≠ w.newSessionRef :=
    World.ne_of_fresh hstored w.newSessionRef_notMem
  have href : stored.sessionRef = args.sessionRef :=
    (hk _ _ henabled.found).trans henabled.canonical
  constructor
  · refine (svc.validateActiveSession_succeeds_iff _ _ _).mpr
      ⟨replacementFor stored w.newSessionRef, ?_, henabled.secure, rfl, henabled.unexpired,
        henabled.attested⟩
    show ((w.sessions.sessions.set _ _).set w.newSessionRef _).get?
      (w.sessions.canonicalRef w.newSessionRef) = _
    rw [w.canonicalRef_newSessionRef]
    exact Dict.get?_set_self _ _ _
  · refine svc.validateActiveSession_raises fun t ht hvalid => ?_
    have ht : ((w.sessions.sessions.set (w.sessions.canonicalRef stored.sessionRef) _).set
      w.newSessionRef _).get? (w.sessions.canonicalRef args.sessionRef) = some t := ht
    rw [henabled.canonical, hcanonical, ← href, Dict.get?_set_of_ne _ hne,
      Dict.get?_set_self] at ht
    obtain rfl := Option.some.inj ht
    cases hvalid.active

/-- A secure session is active when it is created. -/
theorem active_after_createSession {w w' : World π} {args : CreateSessionArgs} {now : Int}
    {s : CustomerSessionSnapshot} (hsecure : args.Secure) (hnow : args.nowEpoch = some now)
    (h : exec handle (svc.createSession args w.newSessionRef) w = (.ok s, w')) :
    Succeeds (svc.validateActiveSession s.sessionRef now) w' := by
  have hcreation := svc.createSession_creation args w.newSessionRef w
  rw [h] at hcreation
  cases hcreation with
  | unnamed legacy name => exact absurd hsecure legacy
  | named legacy name free => exact absurd hsecure legacy
  | @secure entry binding now' expires bound =>
      obtain rfl := Option.some.inj (hnow.symm.trans bound.nowEpoch)
      obtain ⟨a, hattested, hbound⟩ := bound.attested
      refine (svc.validateActiveSession_succeeds_iff _ _ _).mpr
        ⟨secureSession args w.newSessionRef entry binding now expires, ?_, rfl, rfl, ?_,
          bound.attestedHere, entry.merchantRef, entry.locationRef, entry.purpose, a, rfl, rfl, rfl,
          hattested, hbound⟩
      · show (w.sessions.sessions.set w.newSessionRef _).get?
          (w.sessions.canonicalRef w.newSessionRef) = _
        rw [w.canonicalRef_newSessionRef]
        exact Dict.get?_set_self _ _ _
      · have hfuture := bound.future
        simp [CustomerSessionSnapshot.expiredAt, secureSession]
        omega

end CustomerSessionService

/-- Resuming and using agree on what an active session is, along every run. -/
theorem resume_agrees_with_use (svc : OrderDraftConfirmationService) (orders : π)
    (upstream : Upstream) (refs : RefSource) (calls : List (ChannelCall π)) :
    let w := run svc (World.start orders upstream refs) calls
    let validate ref now := svc.sessions.validateActiveSession ref now
    (∀ sessionRef bindingRef nowEpoch,
      Succeeds (svc.sessions.resumeSession
        { sessionRef, identityBindingRef := some bindingRef, nowEpoch } w.newSessionRef) w ↔
        Succeeds (validate sessionRef nowEpoch) w ∧ svc.sessions.identityBindingStore = true ∧
          ∃ s, w.sessions.get sessionRef = some s ∧
            CustomerSessionService.BindingAccepted w.upstream s bindingRef nowEpoch) ∧
    (∀ (args : ResumeSessionArgs) s w',
      exec handle (svc.sessions.resumeSession args w.newSessionRef) w = (.ok s, w') →
        Succeeds (validate s.sessionRef args.nowEpoch) w' ∧
          Raises (validate args.sessionRef args.nowEpoch) w') ∧
    ∀ (args : CreateSessionArgs) now s w', args.Secure → args.nowEpoch = some now →
      exec handle (svc.sessions.createSession args w.newSessionRef) w = (.ok s, w') →
        Succeeds (validate s.sessionRef now) w' := by
  intro w validate
  have hk : w.Keyed := run_keyed svc (start_keyed orders upstream refs) calls
  have hinsecure : w.AliasesInsecure := run_aliasesInsecure svc orders upstream refs calls
  refine ⟨fun sessionRef bindingRef nowEpoch => ?_, fun args s w' h => ?_, ?_⟩
  · exact svc.sessions.resumeSession_succeeds_iff hk hinsecure _ rfl rfl
  · exact svc.sessions.active_after_resumeSession hk h
  · intro args now s w' hsecure hnow h
    exact svc.sessions.active_after_createSession hsecure hnow h

end Resumption

end XbosCustomerChannel
