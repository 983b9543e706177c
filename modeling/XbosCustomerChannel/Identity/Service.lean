import XbosCustomerChannel.Effects.Execution
import XbosCustomerChannel.Identity.Model
import XbosCustomerChannel.Provenance.Store
import XbosCustomerChannel.Security.Hmac

/-!
# The channel identity service

`issue_session_identity_binding` asks the identity port who the subject is, derives the identity
from the answer, and issues a binding that does not outlive it. The port is a state that may answer
anything; the binding store is the in-memory one.
-/

namespace XbosCustomerChannel

open Effects Effects.Program Data

/-! ## The port and the store -/

class CustomerIdentityPort (ι : Type) where
  resolveChannelSubject : ι → (channel channelUserRef subjectEvidenceRef : String) →
    (nowEpoch : Int) → Except Exc ChannelSubjectResolution × ι
  resolveIdentity : ι → (channel identityRef canonicalChannelSubjectRef subjectAttestationRef
    conversationRef : String) → (candidatePartyRefs : List String) →
      Except Exc ChannelIdentity × ι
  Event : Type
  occur : Event → ι → ι

structure InMemoryIdentityBindingStore where
  records : Dict String IdentityBindingRecord := ∅

namespace InMemoryIdentityBindingStore

variable (store : InMemoryIdentityBindingStore)

def newBindingRef (refs : RefSource) : String := refs.newRef "identity_binding_" store.records.keys

def issueBinding (refs : RefSource) (terms : IdentityBindingTerms) :
    Except Exc IdentityBindingRecord × InMemoryIdentityBindingStore :=
  if terms.identityRef = "" ∨ terms.canonicalChannelSubjectRef = "" ∨
      terms.subjectAttestationRef = "" then
    (.error ⟨.valueError, "identity_binding_subject_required"⟩, store)
  else if terms.conversationRef = "" then
    (.error ⟨.valueError, "identity_binding_conversation_required"⟩, store)
  else if terms.merchantRef = "" ∨ terms.locationRef = "" ∨ terms.contextBindingRef = "" then
    (.error ⟨.valueError, "identity_binding_context_required"⟩, store)
  else if terms.expiresAtEpoch ≤ terms.issuedAtEpoch then
    (.error ⟨.valueError, "identity_binding_expiry_must_be_future"⟩, store)
  else
    let record : IdentityBindingRecord :=
      { terms with identityBindingRef := store.newBindingRef refs }
    (.ok record, { store with records := store.records.set (store.newBindingRef refs) record })

def resolveBinding (identityBindingRef : String) : Option IdentityBindingRecord :=
  store.records.get? identityBindingRef

/-- A binding is issued under a new reference with the terms given, or nothing is. -/
theorem issueBinding_cases (refs : RefSource) (terms : IdentityBindingTerms) :
    (∃ record : IdentityBindingRecord, record.toIdentityBindingTerms = terms ∧
      store.resolveBinding (store.newBindingRef refs) = none ∧
      store.issueBinding refs terms =
        (.ok record, { store with records := store.records.set (store.newBindingRef refs) record })) ∨
    ∃ e, store.issueBinding refs terms = (.error e, store) := by
  unfold issueBinding
  split
  · exact .inr ⟨_, rfl⟩
  split
  · exact .inr ⟨_, rfl⟩
  split
  · exact .inr ⟨_, rfl⟩
  split
  · exact .inr ⟨_, rfl⟩
  exact .inl ⟨_, rfl, Dict.get?_eq_none_iff.mpr (refs.fresh _ _), rfl⟩

end InMemoryIdentityBindingStore

/-! ## Operations -/

inductive IdentityOp
  | resolveChannelSubject (channel channelUserRef subjectEvidenceRef : String) (nowEpoch : Int)
  | resolveIdentity (channel identityRef canonicalChannelSubjectRef subjectAttestationRef
      conversationRef : String) (candidatePartyRefs : List String)
  | issueBinding (terms : IdentityBindingTerms)

abbrev IdentityOp.Resp : IdentityOp → Type
  | resolveChannelSubject _ _ _ _ => Except Exc ChannelSubjectResolution
  | resolveIdentity _ _ _ _ _ _ => Except Exc ChannelIdentity
  | issueBinding _ => Except Exc IdentityBindingRecord

abbrev IdentityBoundary : Signature where
  Op := IdentityOp
  Resp := IdentityOp.Resp

abbrev IdentityCallOf (α : Type) := Program IdentityBoundary Exc α

abbrev askIdentity (op : IdentityOp) : IdentityCallOf op.Resp :=
  @Program.call IdentityBoundary Exc _ op .done

/-- The identity port, and the bindings issued so far. -/
structure IdentityDesk (ι : Type) where
  port : ι
  bindings : InMemoryIdentityBindingStore := {}
  refs : RefSource

/-- One atomic operation. -/
def IdentityDesk.handle {ι : Type} [CustomerIdentityPort ι] : Handler IdentityBoundary (IdentityDesk ι)
  | .resolveChannelSubject channel user evidence now, d =>
      let answer := CustomerIdentityPort.resolveChannelSubject d.port channel user evidence now
      (answer.1, { d with port := answer.2 })
  | .resolveIdentity channel identity subject attestation conversation candidates, d =>
      let answer := CustomerIdentityPort.resolveIdentity d.port channel identity subject attestation
        conversation candidates
      (answer.1, { d with port := answer.2 })
  | .issueBinding terms, d =>
      let issued := d.bindings.issueBinding d.refs terms
      (issued.1, { d with bindings := issued.2 })

/-! ## The service -/

/-- `ChannelIdentityService`; the constructor refuses an empty secret. -/
structure ChannelIdentityService where
  identitySecret : String
  secretGiven : identitySecret ≠ ""

/-- The keyword arguments of `issue_session_identity_binding`. -/
structure IssueBindingArgs where
  channel : String
  channelUserRef : String
  subjectEvidenceRef : String
  conversationRef : String
  entryContext : ResolvedEntryContext
  nowEpoch : Int
  expiresAtEpoch : Int

/-- The port's answer about the subject of a call. -/
def IssueBindingArgs.resolution {ι : Type} [CustomerIdentityPort ι] (args : IssueBindingArgs)
    (d : IdentityDesk ι) : Except Exc ChannelSubjectResolution :=
  (CustomerIdentityPort.resolveChannelSubject d.port args.channel args.channelUserRef
    args.subjectEvidenceRef args.nowEpoch).1

theorem exec_askIdentity_bind {ι α : Type} [CustomerIdentityPort ι] (op : IdentityOp)
    (f : op.Resp → IdentityCallOf α) (d : IdentityDesk ι) :
    exec IdentityDesk.handle (askIdentity op >>= f) d =
      exec IdentityDesk.handle (f (IdentityDesk.handle op d).1) (IdentityDesk.handle op d).2 := rfl

namespace ChannelIdentityService

variable (svc : ChannelIdentityService) [Hmac]

/-- `_resolve_subject_and_identity`. -/
def resolveSubjectAndIdentity (channel channelUserRef subjectEvidenceRef conversationRef : String)
    (nowEpoch : Int) : IdentityCallOf (ChannelSubjectResolution × ChannelIdentity) := do
  let answer : Except Exc ChannelSubjectResolution ←
    askIdentity (.resolveChannelSubject channel channelUserRef subjectEvidenceRef nowEpoch)
  let resolution ← ofExcept answer
  raiseIf (resolution.channel ≠ channel)
    ⟨.permissionError, "subject_resolution_channel_mismatch"⟩
  raiseIf (resolution.canonicalChannelSubjectRef = "" ∨ resolution.subjectAttestationRef = "")
    ⟨.permissionError, "subject_resolution_incomplete"⟩
  let stable ← ofExcept
    (hashChannelUserRef channel resolution.canonicalChannelSubjectRef svc.identitySecret)
  let identityRef := "identity:channel:" ++ stable
  let answer : Except Exc ChannelIdentity ←
    askIdentity (.resolveIdentity channel identityRef resolution.canonicalChannelSubjectRef
      resolution.subjectAttestationRef conversationRef resolution.candidatePartyRefs)
  let identity ← ofExcept answer
  raiseIf (identity.identityRef ≠ identityRef) ⟨.permissionError, "identity_ref_not_server_derived"⟩
  raiseIf (identity.canonicalChannelSubjectRef ≠ resolution.canonicalChannelSubjectRef)
    ⟨.permissionError, "identity_subject_mismatch"⟩
  pure (resolution, identity)

/-- The terms of a binding for an identity in an entry context. -/
def bindingTerms (args : IssueBindingArgs) (resolution : ChannelSubjectResolution)
    (identity : ChannelIdentity) : IdentityBindingTerms where
  identityRef := identity.identityRef
  canonicalChannelSubjectRef := resolution.canonicalChannelSubjectRef
  subjectAttestationRef := resolution.subjectAttestationRef
  conversationRef := args.conversationRef
  tenantRef := args.entryContext.tenantRef
  merchantRef := args.entryContext.merchantRef
  locationRef := args.entryContext.locationRef
  tableRef := args.entryContext.tableRef
  diningAreaRef := args.entryContext.diningAreaRef
  contextBindingRef := args.entryContext.contextBindingRef
  issuedAtEpoch := args.nowEpoch
  expiresAtEpoch := args.expiresAtEpoch

/-- `issue_session_identity_binding`. -/
def issueSessionIdentityBinding (args : IssueBindingArgs) :
    IdentityCallOf IdentityBindingRecord := do
  let (resolution, identity) ← svc.resolveSubjectAndIdentity args.channel args.channelUserRef
    args.subjectEvidenceRef args.conversationRef args.nowEpoch
  raiseIf (args.expiresAtEpoch ≤ args.nowEpoch)
    ⟨.valueError, "identity_binding_expiry_must_be_future"⟩
  raiseIf (resolution.expiresAtEpoch < args.expiresAtEpoch)
    ⟨.permissionError, "identity_binding_outlives_subject_attestation"⟩
  let issued : Except Exc IdentityBindingRecord ←
    askIdentity (.issueBinding (bindingTerms args resolution identity))
  ofExcept issued

/-! ## What issuing does -/

variable {ι : Type} [CustomerIdentityPort ι]

/-- Resolving goes by what the port says of the subject, and issues nothing. -/
theorem resolveSubjectAndIdentity_cases (args : IssueBindingArgs) (d : IdentityDesk ι) :
    (∃ resolution identity port, args.resolution d = .ok resolution ∧
      exec IdentityDesk.handle (svc.resolveSubjectAndIdentity args.channel args.channelUserRef
        args.subjectEvidenceRef args.conversationRef args.nowEpoch) d =
          (.ok (resolution, identity), { d with port })) ∨
    ∃ e port, exec IdentityDesk.handle (svc.resolveSubjectAndIdentity args.channel
      args.channelUserRef args.subjectEvidenceRef args.conversationRef args.nowEpoch) d =
        (.error e, { d with port }) := by
  unfold resolveSubjectAndIdentity IssueBindingArgs.resolution
  rw [exec_askIdentity_bind]
  dsimp only [IdentityDesk.handle]
  obtain ⟨answer, port⟩ := CustomerIdentityPort.resolveChannelSubject d.port args.channel
    args.channelUserRef args.subjectEvidenceRef args.nowEpoch
  cases answer with
  | error e => exact .inr ⟨e, port, rfl⟩
  | ok resolution =>
      rw [exec_bind_ok _ (by rw [exec_ofExcept]), exec_raiseIf_bind]
      split
      · exact .inr ⟨_, port, rfl⟩
      rw [exec_raiseIf_bind]
      split
      · exact .inr ⟨_, port, rfl⟩
      -- from here on the port has answered once, whatever is raised
      cases hashChannelUserRef args.channel resolution.canonicalChannelSubjectRef
        svc.identitySecret with
      | error e => exact .inr ⟨e, port, rfl⟩
      | ok stable =>
          rw [exec_bind_ok _ (by rw [exec_ofExcept]), exec_askIdentity_bind]
          dsimp only [IdentityDesk.handle]
          obtain ⟨answer, port'⟩ := CustomerIdentityPort.resolveIdentity port args.channel
            ("identity:channel:" ++ stable) resolution.canonicalChannelSubjectRef
            resolution.subjectAttestationRef args.conversationRef resolution.candidatePartyRefs
          cases answer with
          | error e => exact .inr ⟨e, port', rfl⟩
          | ok identity =>
              rw [exec_bind_ok _ (by rw [exec_ofExcept]), exec_raiseIf_bind]
              split
              · exact .inr ⟨_, port', rfl⟩
              rw [exec_raiseIf_bind]
              split
              · exact .inr ⟨_, port', rfl⟩
              exact .inl ⟨resolution, identity, port', rfl, rfl⟩

/-- A binding that is issued ends no later than the resolution it was issued on. -/
theorem issueSessionIdentityBinding_cases (args : IssueBindingArgs) (d : IdentityDesk ι) :
    (∃ resolution identity record port, args.resolution d = .ok resolution ∧
      args.expiresAtEpoch ≤ resolution.expiresAtEpoch ∧
      record.toIdentityBindingTerms = bindingTerms args resolution identity ∧
      d.bindings.resolveBinding (d.bindings.newBindingRef d.refs) = none ∧
      exec IdentityDesk.handle (svc.issueSessionIdentityBinding args) d =
        (.ok record, { d with
          port := port
          bindings := { d.bindings with
            records := d.bindings.records.set (d.bindings.newBindingRef d.refs) record } })) ∨
    ∃ e port, exec IdentityDesk.handle (svc.issueSessionIdentityBinding args) d =
      (.error e, { d with port }) := by
  unfold issueSessionIdentityBinding
  rcases svc.resolveSubjectAndIdentity_cases args d with
    ⟨resolution, identity, port, hresolution, hexec⟩ | ⟨e, port, hexec⟩
  case inr => exact .inr ⟨e, port, exec_bind_error _ hexec _⟩
  rw [exec_bind_ok _ hexec]
  dsimp only
  rw [exec_raiseIf_bind]
  split
  · exact .inr ⟨_, port, rfl⟩
  rw [exec_raiseIf_bind]
  split
  · exact .inr ⟨_, port, rfl⟩
  next houtlives =>
  rw [exec_askIdentity_bind]
  dsimp only [IdentityDesk.handle]
  rcases d.bindings.issueBinding_cases d.refs (bindingTerms args resolution identity) with
    ⟨record, hterms, hfresh, hissued⟩ | ⟨e, hissued⟩
  · rw [hissued]
    exact .inl ⟨resolution, identity, record, port, hresolution, not_lt.mp houtlives, hterms, hfresh,
      rfl⟩
  · rw [hissued]
    exact .inr ⟨e, port, rfl⟩

end ChannelIdentityService

end XbosCustomerChannel
