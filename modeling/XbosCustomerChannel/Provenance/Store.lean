import XbosCustomerChannel.Data.Dict
import XbosCustomerChannel.Provenance.Model

/-!
# The in-memory provenance store

Handles are random and redrawn until the table does not know them. `RefSource` is that generator
seen from outside: given the references already taken it yields one that is not, and carries the
proof, so that no store built here can hand out a handle twice.
-/

namespace XbosCustomerChannel

open Data (Dict)

/-- `stem + secrets.token_urlsafe(32)`, redrawn until it is new. -/
structure RefSource where
  token : String → List String → String
  fresh : ∀ stem taken, stem ++ token stem taken ∉ taken

def RefSource.newRef (refs : RefSource) (stem : String) (taken : List String) : String :=
  stem ++ refs.token stem taken

structure InMemoryChannelProvenanceStore where
  evidence : Dict String EvidenceProvenanceRecord := ∅
  confirmations : Dict String ConfirmationProvenanceRecord := ∅

namespace InMemoryChannelProvenanceStore

variable (refs : RefSource) (store : InMemoryChannelProvenanceStore)

def newEvidenceHandle : String := refs.newRef "evidence_handle_" store.evidence.keys

def newConfirmationHandle : String :=
  refs.newRef "confirmation_handle_" store.confirmations.keys

theorem get?_newEvidenceHandle : store.evidence.get? (store.newEvidenceHandle refs) = none :=
  Dict.get?_eq_none_iff.mpr (refs.fresh _ _)

theorem get?_newConfirmationHandle :
    store.confirmations.get? (store.newConfirmationHandle refs) = none :=
  Dict.get?_eq_none_iff.mpr (refs.fresh _ _)

def issueEvidence (session : CustomerSessionSnapshot) (projection : UpstreamStateProjection) :
    Except Exc String × InMemoryChannelProvenanceStore :=
  if projection.correlationRef ≠ session.correlationRef then
    (.error ⟨.valueError, "upstream_correlation_mismatch"⟩, store)
  else
    let handle := store.newEvidenceHandle refs
    let record : EvidenceProvenanceRecord :=
      { evidenceHandleRef := handle
        binding := bindingFromSession session
        projection := projection }
    (.ok handle, { store with evidence := store.evidence.set handle record })

def resolveEvidence (evidenceHandleRef : String) : Option EvidenceProvenanceRecord :=
  store.evidence.get? evidenceHandleRef

/-- The record a confirmation is registered under. -/
def confirmationRecord [Hashlib] (handle : String) (session : CustomerSessionSnapshot)
    (confirmation : AuthoritativeOrderConfirmationSnapshot) : ConfirmationProvenanceRecord where
  confirmationHandleRef := handle
  authoritativeXbosConfirmationRef := confirmation.confirmationRef
  binding := bindingFromSession session
  quoteRef := confirmation.quoteRef
  quoteVersion := confirmation.quoteVersion
  serviceContextRef := confirmation.serviceContextRef
  serviceMode := confirmation.serviceMode
  commercialFingerprint := confirmationCommercialFingerprint confirmation
  authoritativeSnapshot := confirmation

def issueConfirmation [Hashlib] (session : CustomerSessionSnapshot)
    (confirmation : AuthoritativeOrderConfirmationSnapshot) :
    Except Exc ServerIssuedConfirmation × InMemoryChannelProvenanceStore :=
  if !session.securityBindingComplete then
    (.error ⟨.permissionError, "secure_session_binding_required_for_confirmation"⟩, store)
  else
    let handle := store.newConfirmationHandle refs
    let record := confirmationRecord handle session confirmation
    (.ok (presentationFromRecord record),
      { store with confirmations := store.confirmations.set handle record })

def resolveConfirmation (confirmationHandleRef : String) : Option ConfirmationProvenanceRecord :=
  store.confirmations.get? confirmationHandleRef

/-- Single-process atomic same-handle claim. -/
def claimConfirmation (confirmationHandleRef clientSubmitRef : String) :
    Except Exc ConfirmationProvenanceRecord × InMemoryChannelProvenanceStore :=
  match store.confirmations.get? confirmationHandleRef with
  | none => (.error ⟨.keyError, confirmationHandleRef⟩, store)
  | some current =>
      match current.clientSubmitRefClaim with
      | none =>
          let claimed := { current with clientSubmitRefClaim := some clientSubmitRef }
          (.ok claimed,
            { store with
              confirmations := store.confirmations.set confirmationHandleRef claimed })
      | some claim =>
          if claim ≠ clientSubmitRef then
            (.error ⟨.provenanceConflict, "confirmation_handle_client_submit_conflict"⟩, store)
          else (.ok current, store)

/-- A claim succeeds on an unclaimed handle and on one claimed for the same reference; a refused
claim changes nothing. -/
theorem claimConfirmation_cases {handle : String} {record : ConfirmationProvenanceRecord}
    (hfound : store.confirmations.get? handle = some record) (clientRef : String) :
    ((record.clientSubmitRefClaim = none ∨ record.clientSubmitRefClaim = some clientRef) ∧
      (store.claimConfirmation handle clientRef).1 =
        .ok { record with clientSubmitRefClaim := some clientRef }) ∨
    (¬ (record.clientSubmitRefClaim = none ∨ record.clientSubmitRefClaim = some clientRef) ∧
      ∃ e, store.claimConfirmation handle clientRef = (.error e, store)) := by
  unfold claimConfirmation
  rw [hfound]
  dsimp only
  split
  · next hclaim => exact .inl ⟨.inl hclaim, rfl⟩
  · next claim hclaim =>
    rw [hclaim]
    split
    · next hne => exact .inr ⟨by simpa using hne, _, rfl⟩
    · next heq =>
      obtain rfl : claim = clientRef := by simpa using heq
      refine .inl ⟨.inr rfl, ?_⟩
      rw [← hclaim]

end InMemoryChannelProvenanceStore

/-- The store's methods as operations. -/
inductive ProvenanceStoreOp
  | issueEvidence (session : CustomerSessionSnapshot) (projection : UpstreamStateProjection)
  | resolveEvidence (evidenceHandleRef : String)
  | issueConfirmation (session : CustomerSessionSnapshot)
      (confirmation : AuthoritativeOrderConfirmationSnapshot)
  | resolveConfirmation (confirmationHandleRef : String)
  | claimConfirmation (confirmationHandleRef clientSubmitRef : String)

abbrev ProvenanceStoreOp.Resp : ProvenanceStoreOp → Type
  | issueEvidence _ _ => Except Exc String
  | resolveEvidence _ => Option EvidenceProvenanceRecord
  | issueConfirmation _ _ => Except Exc ServerIssuedConfirmation
  | resolveConfirmation _ => Option ConfirmationProvenanceRecord
  | claimConfirmation _ _ => Except Exc ConfirmationProvenanceRecord

/-- One locked method call. -/
def InMemoryChannelProvenanceStore.answer [Hashlib] (refs : RefSource)
    (store : InMemoryChannelProvenanceStore) :
    (op : ProvenanceStoreOp) → op.Resp × InMemoryChannelProvenanceStore
  | .issueEvidence session projection => store.issueEvidence refs session projection
  | .resolveEvidence handle => (store.resolveEvidence handle, store)
  | .issueConfirmation session confirmation => store.issueConfirmation refs session confirmation
  | .resolveConfirmation handle => (store.resolveConfirmation handle, store)
  | .claimConfirmation handle clientRef => store.claimConfirmation handle clientRef

end XbosCustomerChannel
