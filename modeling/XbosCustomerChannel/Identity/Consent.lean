import XbosCustomerChannel.Data.History
import XbosCustomerChannel.Data.Json
import XbosCustomerChannel.Identity.Run

/-!
# Consent decisions

What the customers have decided in a run is read off its `set_consent` calls alone: a call decides if
it succeeds and no earlier decision has its idempotency key. The fixture keeps two tables of it, the
current consents and the decisions by key (`Recorded`); the answers of the service come from these,
and from a policy that may move to any version at any time.
-/

namespace XbosCustomerChannel

open Effects Effects.Program Data

/-- A `set_consent` call, with the version of the policy it was made under and its answer. -/
structure ConsentEvent where
  args : ConsentArgs
  consentVersion : String
  answer : Except Exc ConsentRecord

structure ConsentDecision where
  args : ConsentArgs
  consentVersion : String
  record : ConsentRecord
  deriving DecidableEq

namespace ConsentDecision

def key (e : ConsentDecision) : String := e.args.idempotencyKey

def fingerprint (e : ConsentDecision) : ConsentFingerprint := e.args.fingerprint e.consentVersion

/-- The decision is about this purpose of this identity. -/
def About (identityRef : String) (purpose : ConsentPurpose) (e : ConsentDecision) : Bool :=
  e.args.identityRef = identityRef ∧ e.args.purpose = purpose

/-- The decisions after another call. -/
def decided (decisions : List ConsentDecision) (event : ConsentEvent) : List ConsentDecision :=
  match event.answer with
  | .error _ => decisions
  | .ok record =>
      if ∃ e ∈ decisions, e.key = event.args.idempotencyKey then decisions
      else decisions ++ [⟨event.args, event.consentVersion, record⟩]

def decisions (events : List ConsentEvent) : List ConsentDecision := events.foldl decided []

theorem decisions_concat (events : List ConsentEvent) (event : ConsentEvent) :
    decisions (events ++ [event]) = decided (decisions events) event := by
  simp [decisions]

end ConsentDecision

namespace FakeCustomerIdentityService

open ConsentDecision

variable {s s' : FakeCustomerIdentityService} {ds : List ConsentDecision}

/-- The reference of the `n`-th decision, from zero. -/
def consentRefOf (n : Nat) : String := "consent:fixture:" ++ toString (n + 1)

theorem consentRefOf_injective : Function.Injective consentRefOf := by
  intro m n h
  have hdigits : toString (m + 1) = toString (n + 1) := by
    simpa [consentRefOf] using h
  have := Json.toString_inj hdigits
  omega

/-- The two tables of consents are those of the decisions. -/
structure Recorded (s : FakeCustomerIdentityService) (ds : List ConsentDecision) : Prop where
  remembered : ∀ e ∈ ds, s.idempotency.get? e.key = some (e.fingerprint, e.record)
  keyed : ∀ key, s.idempotency.get? key ≠ none → ∃ e ∈ ds, e.key = key
  counted : s.idempotency.size = ds.length
  current : ∀ identityRef purpose, s.consents.get? (identityRef, purpose) =
    (History.last? (About identityRef purpose) ds).map (·.record)
  faithful : ∀ e ∈ ds, e.record.granted = e.args.granted ∧
    e.record.consentVersion = e.consentVersion
  allowed : ∀ e ∈ ds, (s.identities.get? e.args.identityRef).isSome ∧ e.consentVersion ≠ ""
  numbered : ds.map (·.record.consentRef) = (List.range ds.length).map consentRefOf

theorem recorded_empty : Recorded {} [] where
  remembered := by simp
  keyed := by
    intro key h
    exact absurd rfl h
  counted := rfl
  current _ _ := rfl
  faithful := by simp
  allowed := by simp
  numbered := rfl

/-! ## One decision -/

/-- An exact replay is answered from the table. -/
theorem Recorded.replayed (h : s.Recorded ds) {e : ConsentDecision} (he : e ∈ ds) :
    s.recordConsent e.fingerprint e.key = (.ok e.record, s) := by
  obtain ⟨hknown, hversion⟩ := h.allowed e he
  obtain ⟨identity, hidentity⟩ := Option.isSome_iff_exists.mp hknown
  have hrequire : s.require e.fingerprint.identityRef = .ok identity := require_ok.mpr hidentity
  have hgiven : e.fingerprint.consentVersion ≠ "" := hversion
  unfold recordConsent
  rw [hrequire]
  simp [hgiven, h.remembered e he]

/-- A replay of anything else is refused. -/
theorem Recorded.refused (h : s.Recorded ds) {e : ConsentDecision} (he : e ∈ ds)
    {fingerprint : ConsentFingerprint} (hne : fingerprint ≠ e.fingerprint) :
    ∃ exc, s.recordConsent fingerprint e.key = (.error exc, s) := by
  unfold recordConsent
  cases s.require fingerprint.identityRef with
  | error exc => exact ⟨exc, rfl⟩
  | ok identity =>
      dsimp only
      split
      · exact ⟨_, rfl⟩
      · rw [h.remembered e he]
        simp [Ne.symm hne]

/-- Under a new key a decision is refused, or it is recorded. -/
theorem recordConsent_new (fingerprint : ConsentFingerprint) {key : String}
    (hnew : s.idempotency.get? key = none) :
    (∃ exc, s.recordConsent fingerprint key = (.error exc, s)) ∨
    (s.identities.get? fingerprint.identityRef).isSome ∧ fingerprint.consentVersion ≠ "" ∧
      s.recordConsent fingerprint key = (.ok (s.nextConsent fingerprint), { s with
        consents := s.consents.set (fingerprint.identityRef, fingerprint.purpose)
          (s.nextConsent fingerprint)
        idempotency := s.idempotency.set key (fingerprint, s.nextConsent fingerprint) }) := by
  unfold recordConsent
  cases hrequire : s.require fingerprint.identityRef with
  | error exc => exact .inl ⟨exc, rfl⟩
  | ok identity =>
      dsimp only
      split
      · exact .inl ⟨_, rfl⟩
      · next hversion =>
        rw [hnew, require_ok.mp hrequire]
        exact .inr ⟨rfl, hversion, rfl⟩

/-- A recorded decision is the last one. -/
theorem Recorded.append (h : s.Recorded ds) {args : ConsentArgs} {consentVersion : String}
    (hknown : (s.identities.get? args.identityRef).isSome) (hversion : consentVersion ≠ "")
    (hnew : s.idempotency.get? args.idempotencyKey = none) {record : ConsentRecord}
    (hrecord : record = s.nextConsent (args.fingerprint consentVersion)) :
    Recorded { s with
      consents := s.consents.set (args.identityRef, args.purpose) record
      idempotency :=
        s.idempotency.set args.idempotencyKey (args.fingerprint consentVersion, record) }
      (ds ++ [⟨args, consentVersion, record⟩]) where
  remembered := by
    intro e he
    dsimp only
    rcases List.mem_append.mp he with he | he
    -- the key is new, so earlier decisions keep their results
    · have hne : e.key ≠ args.idempotencyKey := by
        intro heq
        have := h.remembered e he
        rw [heq, hnew] at this
        cases this
      rw [Dict.get?_set_of_ne _ hne, h.remembered e he]
    · rw [List.mem_singleton.mp he]
      exact Dict.get?_set_self _ _ _
  keyed := by
    intro key hkey
    dsimp only at hkey
    rw [Dict.get?_set] at hkey
    split at hkey
    · next heq => exact ⟨_, List.mem_append_right _ (List.mem_singleton.mpr rfl), heq.symm⟩
    · obtain ⟨e, he, heq⟩ := h.keyed key hkey
      exact ⟨e, List.mem_append_left _ he, heq⟩
  counted := by
    simp [Dict.size_set_of_none hnew, h.counted]
  current := by
    intro identityRef purpose
    dsimp only
    rw [Dict.get?_set, History.last?_concat, h.current]
    -- a decision about another pair leaves this one's last decision where it was
    by_cases habout : args.identityRef = identityRef ∧ args.purpose = purpose
    · obtain ⟨rfl, rfl⟩ := habout
      simp [About]
    · have hne : (identityRef, purpose) ≠ (args.identityRef, args.purpose) := by
        intro heq
        obtain ⟨rfl, rfl⟩ := Prod.mk.inj heq
        exact habout ⟨rfl, rfl⟩
      rw [if_neg hne]
      simp [About, habout]
  faithful := by
    intro e he
    rcases List.mem_append.mp he with he | he
    · exact h.faithful e he
    · rw [List.mem_singleton.mp he, hrecord]
      exact ⟨rfl, rfl⟩
  allowed := by
    intro e he
    rcases List.mem_append.mp he with he | he
    · exact h.allowed e he
    · rw [List.mem_singleton.mp he]
      exact ⟨hknown, hversion⟩
  numbered := by
    have hnext : record.consentRef = consentRefOf ds.length := by
      rw [hrecord, ← h.counted]
      rfl
    simp [h.numbered, List.range_succ, hnext]

/-- A `set_consent` call keeps the tables those of the decisions. -/
theorem Recorded.decided (h : s.Recorded ds) (args : ConsentArgs) (consentVersion : String) :
    (s.recordConsent (args.fingerprint consentVersion) args.idempotencyKey).2.Recorded
      (decided ds ⟨args, consentVersion,
        (s.recordConsent (args.fingerprint consentVersion) args.idempotencyKey).1⟩) := by
  by_cases hused : ∃ e ∈ ds, e.key = args.idempotencyKey
  · obtain ⟨e, he, hkey⟩ := hused
    rw [← hkey]
    by_cases hsame : args.fingerprint consentVersion = e.fingerprint
    · rw [hsame, h.replayed he]
      have hagain : ∃ e ∈ ds, e.key = args.idempotencyKey := ⟨e, he, hkey⟩
      simpa [ConsentDecision.decided, hagain] using h
    · obtain ⟨exc, hrefused⟩ := h.refused he hsame
      rw [hrefused]
      exact h
  · have hnew : s.idempotency.get? args.idempotencyKey = none := by
      by_contra hsome
      exact hused (h.keyed _ hsome)
    rcases recordConsent_new (args.fingerprint consentVersion) hnew with
      ⟨exc, hrefused⟩ | ⟨hknown, hversion, hrecorded⟩
    · rw [hrefused]
      exact h
    · rw [hrecorded]
      simp only [ConsentDecision.decided, if_neg hused]
      exact h.append hknown hversion hnew rfl

/-! ## Other requests -/

/-- The consents are the same, and every identity is still there. -/
structure KeepsConsents (s s' : FakeCustomerIdentityService) : Prop where
  consents : s'.consents = s.consents
  idempotency : s'.idempotency = s.idempotency
  identities : ∀ ref, (s.identities.get? ref).isSome → (s'.identities.get? ref).isSome

theorem KeepsConsents.refl (s : FakeCustomerIdentityService) : s.KeepsConsents s :=
  ⟨rfl, rfl, fun _ => id⟩

theorem KeepsConsents.trans {s₁ s₂ s₃ : FakeCustomerIdentityService} (h : s₁.KeepsConsents s₂)
    (h' : s₂.KeepsConsents s₃) : s₁.KeepsConsents s₃ :=
  ⟨h'.consents.trans h.consents, h'.idempotency.trans h.idempotency,
    fun ref hknown => h'.identities ref (h.identities ref hknown)⟩

theorem Recorded.frame (h : s.Recorded ds) (hkeeps : s.KeepsConsents s') : s'.Recorded ds where
  remembered := by
    rw [hkeeps.idempotency]
    exact h.remembered
  keyed := by
    rw [hkeeps.idempotency]
    exact h.keyed
  counted := by
    rw [hkeeps.idempotency]
    exact h.counted
  current := by
    rw [hkeeps.consents]
    exact h.current
  faithful := h.faithful
  allowed e he := ⟨hkeeps.identities _ (h.allowed e he).1, (h.allowed e he).2⟩
  numbered := h.numbered

/-- No identity is ever removed. -/
theorem after_identities (s : FakeCustomerIdentityService) (request : IdentityRequest) (ref : String)
    (hknown : (s.identities.get? ref).isSome) : ((s.after request).identities.get? ref).isSome := by
  have hset (ref' : String) (identity : ChannelIdentity) :
      ((s.identities.set ref' identity).get? ref).isSome := by
    rw [Dict.get?_set]
    split
    · rfl
    · exact hknown
  cases s.after_effect request with
  | same _ hidentities _ => rwa [hidentities]
  | opened ref' _ _ _ identity _ _ _ _ _ hidentities _ =>
      rw [hidentities]
      apply hset
  | changed ref' _ updated _ _ _ hidentities _ =>
      rw [hidentities]
      apply hset

/-- Only a decision touches the consents. -/
theorem after_keepsConsents (s : FakeCustomerIdentityService) (request : IdentityRequest)
    (hother : ∀ fingerprint key, request ≠ .recordConsent fingerprint key) :
    s.KeepsConsents (s.after request) := by
  suffices h : (s.after request).consents = s.consents ∧
      (s.after request).idempotency = s.idempotency from
    ⟨h.1, h.2, s.after_identities request⟩
  have honly {s' : FakeCustomerIdentityService} (h : s.OnlyIdentities s') :
      s'.consents = s.consents ∧ s'.idempotency = s.idempotency := by
    rw [h]
    exact ⟨rfl, rfl⟩
  cases request with
  | resolveIdentity => exact honly (s.resolveIdentity_only _ _ _ _ _ _)
  | verifyIdentity => exact honly (s.verifyIdentity_only _ _ _)
  | linkVerifiedParty => exact honly (s.linkVerifiedParty_only _ _ _ _ _ _)
  | recordConsent fingerprint key => exact absurd rfl (hother fingerprint key)
  | control control =>
      cases control with
      | registerSubjectEvidence =>
          simp only [after, controlled, registerSubjectEvidence]
          split <;> exact ⟨rfl, rfl⟩
      | registerVerificationEvidence =>
          simp only [after, controlled, registerVerificationEvidence]
          split <;> exact ⟨rfl, rfl⟩
      | restrictIdentity => exact honly (s.restrictIdentity_only _ _)
      | setPolicyVersion =>
          simp only [after, controlled, setPolicyVersion]
          split <;> exact ⟨rfl, rfl⟩

end FakeCustomerIdentityService

/-! ## Runs -/

namespace IdentityDesk

open ConsentDecision FakeCustomerIdentityService

/-- What a call adds to the history of consents. -/
def consentEvent (d : IdentityFixture) : IdentityServiceCall → List ConsentEvent
  | .setConsent args => [⟨args, d.port.currentVersion args.purpose, (d.setConsent args).1⟩]
  | _ => []

variable [Hmac] (ids : ChannelIdentityService)

def consentEvents : IdentityFixture → List IdentityServiceCall → List ConsentEvent
  | _, [] => []
  | d, first :: calls => d.consentEvent first ++ consentEvents (d.serve ids first) calls

theorem consentEvents_concat (d : IdentityFixture) (calls : List IdentityServiceCall) (call : IdentityServiceCall) :
    consentEvents ids d (calls ++ [call]) =
      consentEvents ids d calls ++ (d.run ids calls).consentEvent call := by
  induction calls generalizing d with
  | nil => simp [consentEvents, run]
  | cons first calls ih =>
      rw [List.cons_append, consentEvents, ih, consentEvents, List.append_assoc]
      rfl

/-- The decisions of a run from an empty fixture. -/
def decisionsOf (refs : RefSource) (calls : List IdentityServiceCall) : List ConsentDecision :=
  decisions (consentEvents ids (start refs) calls)

theorem run_recorded (refs : RefSource) (calls : List IdentityServiceCall) :
    ((start refs).run ids calls).port.Recorded (decisionsOf ids refs calls) := by
  induction calls using List.reverseRecOn with
  | nil => exact recorded_empty
  | append_singleton calls call ih =>
      rw [run_concat, decisionsOf, consentEvents_concat]
      cases call with
      | setConsent args =>
          rw [consentEvent, decisions_concat]
          exact ih.decided args _
      | _ =>
          simp only [consentEvent, List.append_nil]
          apply ih.frame
          apply serve_keeps ids KeepsConsents.refl (fun _ _ _ => KeepsConsents.trans)
          intro s request hmakes
          apply s.after_keepsConsents
          rintro fingerprint key rfl
          simp [Makes] at hmakes

/-- The consent answers of a run are those of its decisions: a purpose is allowed exactly by a last
decision that grants it under the current version, a replay is answered by the decision of its key and
changes nothing if it repeats it, is refused and changes nothing if it differs, and no two decisions
share a reference. -/
theorem consent_followsDecisions (refs : RefSource) (calls : List IdentityServiceCall) :
    (∀ identityRef purpose,
      ((start refs).run ids calls).purposeAllowed identityRef purpose = true ↔
      ∃ e, History.last? (About identityRef purpose) (decisionsOf ids refs calls) = some e ∧
        e.args.granted = true ∧
        e.consentVersion = ((start refs).run ids calls).port.currentVersion purpose) ∧
    (∀ e ∈ decisionsOf ids refs calls, ∀ args : ConsentArgs, args.idempotencyKey = e.key →
      (args = e.args ∧ ((start refs).run ids calls).port.currentVersion args.purpose = e.consentVersion →
        ((start refs).run ids calls).setConsent args = (.ok e.record, (start refs).run ids calls)) ∧
      (¬ (args = e.args ∧
          ((start refs).run ids calls).port.currentVersion args.purpose = e.consentVersion) →
        ∃ exc, ((start refs).run ids calls).setConsent args =
          (.error exc, (start refs).run ids calls))) ∧
    ((decisionsOf ids refs calls).map (·.record.consentRef)).Nodup := by
  have h := run_recorded ids refs calls
  refine ⟨fun identityRef purpose => ?_, fun e he args hkey => ?_, ?_⟩
  · rw [purposeAllowed, consentFor, h.current]
    cases hlast : History.last? (About identityRef purpose) (decisionsOf ids refs calls) with
    | none => simp
    | some e =>
        obtain ⟨hgranted, hversion⟩ := h.faithful e (History.last?_eq_some hlast).1
        simp [hgranted, hversion]
  · have hsame : args.fingerprint (((start refs).run ids calls).port.currentVersion args.purpose) =
          e.fingerprint ↔ args = e.args ∧
        ((start refs).run ids calls).port.currentVersion args.purpose = e.consentVersion := by
      obtain ⟨⟨_, _, _, _, _⟩, _, _⟩ := e
      obtain ⟨_, _, _, _, _⟩ := args
      simp only [key] at hkey
      simp [fingerprint, ConsentArgs.fingerprint, hkey]
      tauto
    rw [← hsame]
    refine ⟨fun hexact => ?_, fun hchanged => ?_⟩
    · rw [setConsent, hkey, hexact, h.replayed he]
    · obtain ⟨exc, hrefused⟩ := h.refused he hchanged
      refine ⟨exc, ?_⟩
      rw [setConsent, hkey, hrefused]
  · rw [h.numbered]
    exact List.nodup_range.map consentRefOf_injective

end IdentityDesk

end XbosCustomerChannel
