import XbosCustomerChannel.Data.Dict
import XbosCustomerChannel.Effects.Program
import XbosCustomerChannel.Session.State

/-!
# The in-memory session store

Each method holds the store's lock, so each is one operation. `put` is kept as the pair it is
called with at the sites that update a session, the snapshot the caller read and the fields it
sets: the store only ever sees `base.replace changes`.
-/

namespace XbosCustomerChannel

open Data (Dict)

structure InMemoryCustomerSessionStore where
  sessions : Dict String CustomerSessionSnapshot := ∅
  aliases : Dict String String := ∅
  idempotentResults : Dict (String × String) CustomerSessionSnapshot := ∅

/-- `expires_at_epoch is None or now_epoch >= expires_at_epoch`. -/
def CustomerSessionSnapshot.expiredAt (s : CustomerSessionSnapshot) (nowEpoch : Int) : Bool :=
  match s.expiresAtEpoch with
  | none => true
  | some expires => expires ≤ nowEpoch

namespace InMemoryCustomerSessionStore

variable (store : InMemoryCustomerSessionStore)

def put (session : CustomerSessionSnapshot) : InMemoryCustomerSessionStore :=
  { store with sessions := store.sessions.set session.sessionRef session }

/-- The session is stored before the alias is checked. -/
def putWithLegacyAlias (session : CustomerSessionSnapshot) (legacyAlias : Option String) :
    Except Exc CustomerSessionSnapshot × InMemoryCustomerSessionStore :=
  let stored := store.put session
  match legacyAlias with
  | none => (.ok session, stored)
  | some a =>
      if (stored.sessions.get? a).isSome || (stored.aliases.get? a).isSome then
        (.error ⟨.valueError, "session_alias_already_exists"⟩, stored)
      else (.ok session, { stored with aliases := stored.aliases.set a session.sessionRef })

def canonicalRef (sessionRef : String) : String :=
  (store.aliases.get? sessionRef).getD sessionRef

def get (sessionRef : String) : Option CustomerSessionSnapshot :=
  store.sessions.get? (store.canonicalRef sessionRef)

def idempotentResult (sessionRef idempotencyKey : String) : Option CustomerSessionSnapshot :=
  store.idempotentResults.get? (store.canonicalRef sessionRef, idempotencyKey)

def recordIdempotentResult (sessionRef idempotencyKey : String)
    (snapshot : CustomerSessionSnapshot) : InMemoryCustomerSessionStore :=
  { store with
    idempotentResults :=
      store.idempotentResults.set (store.canonicalRef sessionRef, idempotencyKey) snapshot }

/-- Compare-and-set: exactly one caller may rotate an active predecessor. -/
def rotateIfActive (sessionRef expectedOwnerIdentityRef : String) (nowEpoch : Int)
    (replacement : CustomerSessionSnapshot) :
    Except Exc (Option CustomerSessionSnapshot) × InMemoryCustomerSessionStore :=
  let canonical := store.canonicalRef sessionRef
  match store.sessions.get? canonical with
  | none => (.ok none, store)
  | some current =>
      if current.ownerIdentityRef ≠ some expectedOwnerIdentityRef then
        (.error ⟨.permissionError, "session_owner_mismatch"⟩, store)
      else if current.staleOrRotated then (.ok none, store)
      else if current.expiredAt nowEpoch then
        (.error ⟨.permissionError, "session_expired"⟩, store)
      else if replacement.predecessorSessionRef ≠ some current.sessionRef then
        (.error ⟨.valueError, "session_rotation_predecessor_mismatch"⟩, store)
      else
        let invalidated :=
          { current with
            invalidatedAtEpoch := some nowEpoch
            rotatedToSessionRef := some replacement.sessionRef }
        (.ok (some replacement),
          { store with
            sessions :=
              (store.sessions.set canonical invalidated).set replacement.sessionRef replacement })

end InMemoryCustomerSessionStore

/-- The store's methods as operations. -/
inductive SessionStoreOp
  | put (base : CustomerSessionSnapshot) (changes : SessionChanges)
  | putWithLegacyAlias (session : CustomerSessionSnapshot) (legacyAlias : Option String)
  | canonicalRef (sessionRef : String)
  | get (sessionRef : String)
  | idempotentResult (sessionRef idempotencyKey : String)
  | recordIdempotentResult (sessionRef idempotencyKey : String)
      (snapshot : CustomerSessionSnapshot)
  | rotateIfActive (sessionRef expectedOwnerIdentityRef : String) (nowEpoch : Int)
      (replacement : CustomerSessionSnapshot)

abbrev SessionStoreOp.Resp : SessionStoreOp → Type
  | put _ _ => CustomerSessionSnapshot
  | putWithLegacyAlias _ _ => Except Exc CustomerSessionSnapshot
  | canonicalRef _ => String
  | get _ => Option CustomerSessionSnapshot
  | idempotentResult _ _ => Option CustomerSessionSnapshot
  | recordIdempotentResult _ _ _ => CustomerSessionSnapshot
  | rotateIfActive _ _ _ _ => Except Exc (Option CustomerSessionSnapshot)

/-- One locked method call. -/
def InMemoryCustomerSessionStore.answer (store : InMemoryCustomerSessionStore) :
    (op : SessionStoreOp) → op.Resp × InMemoryCustomerSessionStore
  | .put base changes => (base.replace changes, store.put (base.replace changes))
  | .putWithLegacyAlias session legacyAlias => store.putWithLegacyAlias session legacyAlias
  | .canonicalRef ref => (store.canonicalRef ref, store)
  | .get ref => (store.get ref, store)
  | .idempotentResult ref key => (store.idempotentResult ref key, store)
  | .recordIdempotentResult ref key snapshot =>
      (snapshot, store.recordIdempotentResult ref key snapshot)
  | .rotateIfActive ref owner now replacement => store.rotateIfActive ref owner now replacement

/-- The operations that can change a stored session. -/
def SessionStoreOp.WritesSession : SessionStoreOp → Prop
  | put _ _ => True
  | putWithLegacyAlias _ _ => True
  | rotateIfActive _ _ _ _ => True
  | _ => False

theorem InMemoryCustomerSessionStore.answer_sessions (store : InMemoryCustomerSessionStore)
    {op : SessionStoreOp} (h : ¬ op.WritesSession) :
    (store.answer op).2.sessions = store.sessions := by
  cases op <;> first | rfl | exact absurd trivial h

/-- The session is stored whether or not the alias is accepted, and an accepted alias names no
session. -/
theorem InMemoryCustomerSessionStore.putWithLegacyAlias_cases
    (store : InMemoryCustomerSessionStore) (session : CustomerSessionSnapshot)
    (legacyAlias : Option String) :
    ∃ r aliases, store.putWithLegacyAlias session legacyAlias =
        (r, { store with sessions := store.sessions.set session.sessionRef session, aliases }) ∧
      (aliases = store.aliases ∨
        ∃ a, (store.sessions.set session.sessionRef session).get? a = none ∧
          store.aliases.get? a = none ∧ aliases = store.aliases.set a session.sessionRef) := by
  unfold putWithLegacyAlias put
  cases legacyAlias with
  | none => exact ⟨_, _, rfl, .inl rfl⟩
  | some a =>
      dsimp only
      split
      · exact ⟨_, _, rfl, .inl rfl⟩
      · next h =>
        simp only [Bool.or_eq_true, not_or, Option.not_isSome_iff_eq_none] at h
        exact ⟨_, _, rfl, .inr ⟨a, h.1, h.2, rfl⟩⟩

/-- What a rotation does when it happens. -/
theorem InMemoryCustomerSessionStore.rotateIfActive_cases (store : InMemoryCustomerSessionStore)
    (ref owner : String) (now : Int) (replacement : CustomerSessionSnapshot) :
    (∃ r, store.rotateIfActive ref owner now replacement = (r, store) ∧ ∀ s, r ≠ .ok (some s)) ∨
    ∃ current, store.get ref = some current ∧ current.staleOrRotated = false ∧
      current.ownerIdentityRef = some owner ∧ current.expiredAt now = false ∧
      replacement.predecessorSessionRef = some current.sessionRef ∧
      store.rotateIfActive ref owner now replacement =
        (.ok (some replacement),
          { store with
            sessions :=
              (store.sessions.set (store.canonicalRef ref)
                { current with
                  invalidatedAtEpoch := some now
                  rotatedToSessionRef := some replacement.sessionRef }).set
                replacement.sessionRef replacement }) := by
  unfold rotateIfActive get
  dsimp only
  cases hget : store.sessions.get? (store.canonicalRef ref) with
  | none => exact .inl ⟨_, rfl, by simp⟩
  | some current =>
      dsimp only
      split
      · exact .inl ⟨_, rfl, by simp⟩
      next howner =>
      split
      · exact .inl ⟨_, rfl, by simp⟩
      next hactive =>
      split
      · exact .inl ⟨_, rfl, by simp⟩
      next hexpired =>
      split
      · exact .inl ⟨_, rfl, by simp⟩
      next hpred =>
      refine .inr ⟨current, rfl, ?_, ?_, ?_, ?_, rfl⟩
      · simpa using hactive
      · simpa using howner
      · simpa using hexpired
      · simpa using hpred

end XbosCustomerChannel
