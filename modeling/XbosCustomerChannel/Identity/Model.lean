import XbosCustomerChannel.Data.Dict
import XbosCustomerChannel.Errors
import XbosCustomerChannel.Session.State

/-!
# Channel identities

Subjects as the identity port resolves them, the identities the channel keeps, and the bindings of
an identity to a conversation and a context that sessions are created from.
-/

namespace XbosCustomerChannel

inductive ChannelIdentityState
  | anonymous
  | recognized
  | verified
  | linked
  | blockedOrRestricted
  deriving DecidableEq, Repr

/-- Opaque XBOS reference returned by a resolver; never proof of identity. -/
structure PartyCandidate where
  partyRef : String
  matchRef : String
  deriving DecidableEq, Repr

/-- Server-resolved channel subject. -/
structure ChannelSubjectResolution where
  channel : String
  canonicalChannelSubjectRef : String
  subjectAttestationRef : String
  expiresAtEpoch : Int
  candidatePartyRefs : List String := []
  deriving DecidableEq, Repr

structure ChannelIdentity where
  identityRef : String
  channel : String
  canonicalChannelSubjectRef : String
  subjectAttestationRef : String
  conversationRef : String
  state : ChannelIdentityState
  candidates : List PartyCandidate := []
  verificationRef : Option String := none
  linkedPartyRef : Option String := none
  linkedTenantRef : Option String := none
  linkedMerchantRef : Option String := none
  linkedContextBindingRef : Option String := none
  restrictionRef : Option String := none
  deriving DecidableEq, Repr

/-- The keyword arguments of `issue_binding`. -/
structure IdentityBindingTerms where
  identityRef : String
  canonicalChannelSubjectRef : String
  subjectAttestationRef : String
  conversationRef : String
  tenantRef : Option String
  merchantRef : String
  locationRef : String
  tableRef : Option String
  diningAreaRef : Option String
  contextBindingRef : String
  issuedAtEpoch : Int
  expiresAtEpoch : Int
  deriving DecidableEq, Repr

/-- Server-issued Channel session identity binding; never Party/customer truth. -/
structure IdentityBindingRecord extends IdentityBindingTerms where
  identityBindingRef : String
  deriving DecidableEq, Repr

end XbosCustomerChannel
