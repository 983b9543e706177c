import XbosCustomerChannel.Session.Effect

/-!
# Creation

What `create_session` stores, exactly: a secure session of a context that was just attested, or a
session without a security binding, which the caller may give a name of its own.
-/

namespace XbosCustomerChannel

open Effects Effects.Program Data

/-- The call binds the session to an identity, completely or not. -/
def CreateSessionArgs.Secure (args : CreateSessionArgs) : Prop :=
  args.identityBindingRef.isSome ∨ args.ownerIdentityRef.isSome ∨ args.entryContext.isSome ∨
    args.expiresAtEpoch.isSome

instance (args : CreateSessionArgs) : Decidable args.Secure :=
  inferInstanceAs (Decidable (_ ∨ _ ∨ _ ∨ _))

/-- The reference names a session or is an alias of one. -/
def World.Taken {π : Type} (w : World π) (ref : String) : Prop :=
  (w.sessions.sessions.get? ref).isSome ∨ (w.sessions.aliases.get? ref).isSome

/-- The world with an alias for a session. -/
def World.aliased {π : Type} (w : World π) (a ref : String) : World π :=
  { w with sessions := { w.sessions with aliases := w.sessions.aliases.set a ref } }

namespace CustomerSessionService

variable (svc : CustomerSessionService) {π : Type} [XBOSOrderPort π] [Hashlib]

theorem exec_assertEntryContextCurrent_ok {entry : ResolvedEntryContext} {w w' : World π}
    (h : exec handle (svc.assertEntryContextCurrent entry) w = (.ok (), w')) :
    svc.xbosContext = true ∧ ∃ a, w.upstream.attestContext entry.merchantRef entry.locationRef
      entry.tableRef entry.purpose entry.diningAreaRef = .ok a ∧
        entry.boundContext = a.boundContext := by
  unfold assertEntryContextCurrent at h
  obtain ⟨hctx, h⟩ := raiseIf_bind_ok_inv handle h
  obtain ⟨a, w₁, ha, h⟩ := bind_ok_inv handle h
  rw [exec_attestContext] at ha
  rw [exec_raiseIf] at h
  have hbound : entry.boundContext = a.boundContext := by
    by_contra hne
    rw [if_pos hne] at h
    cases h
  refine ⟨by simpa using hctx, a, ?_, hbound⟩
  have ha : w.upstream.attested entry.merchantRef entry.locationRef entry.tableRef entry.purpose
      entry.diningAreaRef = .ok a := congrArg Prod.fst ha
  unfold Upstream.attested at ha
  split at ha
  · next a' ha' => rw [ha', ha]
  · split at ha <;> cases ha

/-- What a secure creation that returned was given and found. -/
structure SecurelyBound (u : Upstream) (args : CreateSessionArgs) (entry : ResolvedEntryContext)
    (binding : IdentityBindingRecord) (now expires : Int) : Prop where
  entryContext : args.entryContext = some entry
  nowEpoch : args.nowEpoch = some now
  future : now < expires
  attestedHere : svc.xbosContext = true
  attested : ∃ a, u.attestContext entry.merchantRef entry.locationRef entry.tableRef
    entry.purpose entry.diningAreaRef = .ok a ∧ entry.boundContext = a.boundContext

theorem createSecureSession_ok {args : CreateSessionArgs} {actualRef : String} {w w' : World π}
    {s : CustomerSessionSnapshot}
    (h : exec handle (svc.createSecureSession args actualRef) w = (.ok s, w')) :
    ∃ entry binding now expires, svc.SecurelyBound w.upstream args entry binding now expires ∧
      s = secureSession args actualRef entry binding now expires ∧ w' = w.stored s := by
  unfold createSecureSession at h
  obtain ⟨-, h⟩ := raiseIf_bind_ok_inv handle h
  split at h
  case h_2 => cases h
  next bindingRef entry now expires _ hentry hnow _ =>
  obtain ⟨hfuture, h⟩ := raiseIf_bind_ok_inv handle h
  obtain ⟨-, h⟩ := raiseIf_bind_ok_inv handle h
  rcases exec_of_reads (svc.uses_assertEntryContextCurrent entry) w with ⟨_, hcurrent⟩ | ⟨e, herror⟩
  case inr =>
    rw [exec_bind_error handle herror] at h
    cases h
  rw [exec_bind_ok handle hcurrent] at h
  rcases exec_of_reads (svc.uses_bindingForEntryContext bindingRef args.conversationRef entry now) w
    with ⟨binding, hbinding⟩ | ⟨e, herror⟩
  case inr =>
    rw [exec_bind_error handle herror] at h
    cases h
  rw [exec_bind_ok handle hbinding] at h
  obtain ⟨-, h⟩ := raiseIf_bind_ok_inv handle h
  rw [exec_put, CustomerSessionSnapshot.replace_empty] at h
  obtain ⟨hctx, hattested⟩ := svc.exec_assertEntryContextCurrent_ok hcurrent
  obtain rfl := Except.ok.inj (congrArg Prod.fst h)
  exact ⟨entry, binding, now, expires, ⟨hentry, hnow, not_le.mp hfuture, hctx, hattested⟩, rfl,
    (congrArg Prod.snd h).symm⟩

/-- The ways `create_session` can end. Of all refusals only the one of a taken alias has already
stored the session. -/
inductive Creation (w : World π) (args : CreateSessionArgs) (ref : String) :
    Except Exc CustomerSessionSnapshot × World π → Prop
  | refused (e : Exc) (secure : args.Secure) : Creation w args ref (.error e, w)
  | secure {entry : ResolvedEntryContext} {binding : IdentityBindingRecord} {now expires : Int}
      (bound : svc.SecurelyBound w.upstream args entry binding now expires) :
      Creation w args ref (.ok (secureSession args ref entry binding now expires),
        w.stored (secureSession args ref entry binding now expires))
  | unnamed (legacy : ¬ args.Secure) (name : args.sessionRef = none) :
      Creation w args ref (.ok (fixtureSession args ref), w.stored (fixtureSession args ref))
  | named {a : String} (legacy : ¬ args.Secure) (name : args.sessionRef = some a)
      (free : ¬ (w.stored (fixtureSession args ref)).Taken a) :
      Creation w args ref (.ok { fixtureSession args ref with sessionRef := a },
        (w.stored (fixtureSession args ref)).aliased a ref)
  | taken {a : String} (legacy : ¬ args.Secure) (name : args.sessionRef = some a)
      (taken : (w.stored (fixtureSession args ref)).Taken a) :
      Creation w args ref (.error ⟨.valueError, "session_alias_already_exists"⟩,
        w.stored (fixtureSession args ref))

theorem createSession_creation (args : CreateSessionArgs) (ref : String) (w : World π) :
    svc.Creation w args ref (exec handle (svc.createSession args ref) w) := by
  unfold createSession
  split
  · next hsecure =>
    cases hexec : exec handle (svc.createSecureSession args ref) w with
    | mk r w' =>
        cases r with
        | error e =>
            rcases svc.createSecureSession_cases args ref w with ⟨s, -, h⟩ | ⟨e', h⟩
            · rw [h] at hexec
              cases hexec
            · rw [h] at hexec
              cases hexec
              exact .refused e hsecure
        | ok s =>
            obtain ⟨entry, binding, now, expires, hbound, rfl, rfl⟩ :=
              svc.createSecureSession_ok hexec
            exact .secure hbound
  · next hsecure =>
    rw [exec_ask_bind]
    dsimp only [handle, InMemoryCustomerSessionStore.answer]
    cases hname : args.sessionRef with
    | none => exact .unnamed hsecure hname
    | some a =>
        by_cases htaken : (w.stored (fixtureSession args ref)).Taken a
        · have hput : w.sessions.putWithLegacyAlias (fixtureSession args ref) (some a) =
              (.error ⟨.valueError, "session_alias_already_exists"⟩,
                w.sessions.put (fixtureSession args ref)) :=
            if_pos ((Bool.or_eq_true _ _).mpr htaken)
          rw [hput]
          exact .taken hsecure hname htaken
        · have hput : w.sessions.putWithLegacyAlias (fixtureSession args ref) (some a) =
              (.ok (fixtureSession args ref),
                ((w.stored (fixtureSession args ref)).aliased a ref).sessions) :=
            if_neg fun h => htaken ((Bool.or_eq_true _ _).mp h)
          rw [hput]
          exact .named hsecure hname htaken

end CustomerSessionService

end XbosCustomerChannel
