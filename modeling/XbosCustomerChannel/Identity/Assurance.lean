import XbosCustomerChannel.Data.History
import XbosCustomerChannel.Identity.Effect

/-!
# The assurance of an identity

`ANONYMOUS -> RECOGNIZED -> VERIFIED -> LINKED`, and a restriction ends it. A verification does not
look at the state it starts from, apart from a restriction; of an identity that is linked it takes the
link's state back, and then another party can be linked. Every other request moves forward.
-/

namespace XbosCustomerChannel

open Data

/-- The order of the identity states; a restriction comes last. -/
def ChannelIdentityState.order : ChannelIdentityState → Nat
  | anonymous => 0
  | recognized => 1
  | verified => 2
  | linked => 3
  | blockedOrRestricted => 4

namespace ChannelIdentity

/-- The state is no earlier, a restriction stays, and so does a linked party. -/
structure Advances (a b : ChannelIdentity) : Prop where
  state : a.state.order ≤ b.state.order
  restricted : a.state = .blockedOrRestricted → b.state = .blockedOrRestricted
  party : ∀ party, a.linkedPartyRef = some party → b.linkedPartyRef = some party

/-- An identity that is linked has been verified, and has the context it was linked in. -/
def WellLinked (a : ChannelIdentity) : Prop :=
  a.state = .linked → a.verificationRef.isSome ∧ a.linkedPartyRef.isSome ∧
    (∃ merchant ≠ "", a.linkedMerchantRef = some merchant) ∧
    ∃ contextBinding ≠ "", a.linkedContextBindingRef = some contextBinding

/-- What the states of an identity go with: a verified identity has a reference for it, and a party is
linked only to one that is linked or restricted. -/
structure Sound (a : ChannelIdentity) : Prop where
  verified : a.state = .verified → a.verificationRef.isSome
  wellLinked : a.WellLinked
  party : a.linkedPartyRef.isSome → a.state = .linked ∨ a.state = .blockedOrRestricted

theorem Advances.refl (a : ChannelIdentity) : a.Advances a := ⟨le_rfl, id, fun _ => id⟩

theorem Advances.trans {a b c : ChannelIdentity} (hab : a.Advances b) (hbc : b.Advances c) :
    a.Advances c where
  state := hab.state.trans hbc.state
  restricted h := hbc.restricted (hab.restricted h)
  party party h := hbc.party party (hab.party party h)

/-- An identity that has not been linked has no party. -/
theorem Sound.party_eq_none {a : ChannelIdentity} (h : a.Sound) (hlinked : a.state ≠ .linked)
    (hrestricted : a.state ≠ .blockedOrRestricted) : a.linkedPartyRef = none := by
  rw [← Option.not_isSome_iff_eq_none]
  intro hsome
  rcases h.party hsome with hstate | hstate
  · exact hlinked hstate
  · exact hrestricted hstate

end ChannelIdentity

namespace FakeCustomerIdentityService

variable {s s' : FakeCustomerIdentityService} {request : IdentityRequest}

/-- Every identity is there after, and has advanced. -/
def Advance (s s' : FakeCustomerIdentityService) : Prop :=
  ∀ ref a, s.identities.get? ref = some a → ∃ b, s'.identities.get? ref = some b ∧ a.Advances b

theorem Advance.refl (s : FakeCustomerIdentityService) : s.Advance s := fun _ a h => ⟨a, h, .refl a⟩

theorem Advance.trans {s₁ s₂ s₃ : FakeCustomerIdentityService} (h : s₁.Advance s₂)
    (h' : s₂.Advance s₃) : s₁.Advance s₃ := by
  intro ref a ha
  obtain ⟨b, hb, hab⟩ := h ref a ha
  obtain ⟨c, hc, hbc⟩ := h' ref b hb
  exact ⟨c, hc, hab.trans hbc⟩

/-- Every identity is linked well. -/
def AllWellLinked (s : FakeCustomerIdentityService) : Prop :=
  ∀ ref a, s.identities.get? ref = some a → a.WellLinked

def AllSound (s : FakeCustomerIdentityService) : Prop :=
  ∀ ref a, s.identities.get? ref = some a → a.Sound

/-- The request verifies an identity that is linked, on evidence that stands. -/
def Reverifies (s : FakeCustomerIdentityService) : IdentityRequest → Prop
  | .verifyIdentity ref evidence now => ∃ current, s.identities.get? ref = some current ∧
      current.state = .linked ∧ s.VerificationStands ref evidence now current
  | _ => False

/-! ## One request -/

/-- A change that does not verify a linked identity advances it. -/
theorem IdentityChange.advances {ref : String} {current updated : ChannelIdentity}
    (h : s.IdentityChange request ref current updated) (hcurrent : s.identities.get? ref = some current)
    (hsound : current.Sound) (hnot : ¬ s.Reverifies request) :
    current.Advances updated ∧ updated.Sound := by
  cases h with
  | refreshed _ attestation conversation candidates _ =>
      exact ⟨⟨le_rfl, id, fun _ => id⟩, ⟨hsound.verified, hsound.wellLinked, hsound.party⟩⟩
  | verified _ evidence now _ hstate hstands =>
      have hlinked : current.state ≠ .linked := fun hlinked =>
        hnot ⟨current, hcurrent, hlinked, hstands⟩
      have hparty := hsound.party_eq_none hlinked hstate
      refine ⟨⟨?_, fun h => absurd h hstate, fun party h => ?_⟩, ⟨fun _ => rfl, ?_, ?_⟩⟩
      · show current.state.order ≤ 2
        revert hlinked hstate
        cases current.state <;> decide
      · rw [hparty] at h
        cases h
      · intro h
        cases h
      · intro h
        rw [FakeCustomerIdentityService.verified, hparty] at h
        cases h
  | linked _ party verification tenant merchant contextBinding _ hstate hverification hmerchant
      hcontext =>
      have hparty := hsound.party_eq_none (by simp [hstate]) (by simp [hstate])
      refine ⟨⟨?_, fun h => ?_, fun party h => ?_⟩, ⟨fun h => (by cases h), fun _ => ?_, fun _ => .inl rfl⟩⟩
      · rw [hstate]
        show 2 ≤ 3
        decide
      · rw [hstate] at h
        cases h
      · rw [hparty] at h
        cases h
      · refine ⟨?_, rfl, ⟨merchant, hmerchant, rfl⟩, ⟨contextBinding, hcontext, rfl⟩⟩
        rw [FakeCustomerIdentityService.linked, hverification]
        rfl
  | restricted _ restriction _ =>
      refine ⟨⟨?_, fun _ => rfl, fun _ => id⟩, ⟨fun h => ?_, fun h => ?_, fun _ => .inr rfl⟩⟩
      · show current.state.order ≤ 4
        cases current.state <;> decide
      · cases h
      · cases h

/-- An identity that is opened has neither been verified nor linked. -/
theorem recognized_sound (channel ref subject attestation conversation : String)
    (candidates : List String) :
    (recognized channel ref subject attestation conversation candidates).Sound := by
  have hstate : (recognized channel ref subject attestation conversation candidates).state =
      .anonymous ∨
    (recognized channel ref subject attestation conversation candidates).state = .recognized := by
    unfold recognized
    dsimp only
    split
    · exact .inl rfl
    · exact .inr rfl
  refine ⟨fun h => ?_, fun h => ?_, fun h => by cases h⟩
  · rw [h] at hstate
    simp at hstate
  · rw [h] at hstate
    simp at hstate

/-- A request that does not verify a linked identity takes nothing back. -/
theorem AllSound.after (hsound : s.AllSound) (hnot : ¬ s.Reverifies request) :
    s.Advance (s.after request) ∧ (s.after request).AllSound := by
  unfold Advance AllSound
  cases s.after_effect request with
  | same _ hidentities hbindings =>
      rw [hidentities]
      exact ⟨Advance.refl s, hsound⟩
  | opened ref attestation conversation candidates identity _ _ hidentity _ hfree hidentities _ =>
      rw [hidentities]
      refine ⟨fun ref' a ha => ?_, fun ref' a ha => ?_⟩
      · exact ⟨a, Dict.Extends.set_of_none hfree _ _ _ ha, .refl a⟩
      · rw [Dict.get?_set] at ha
        split at ha
        · obtain rfl := Option.some.inj ha
          rw [hidentity]
          exact recognized_sound _ _ _ _ _ _
        · exact hsound ref' a ha
  | changed ref current updated _ hcurrent hchange hidentities _ =>
      obtain ⟨hadvances, hupdated⟩ :=
        hchange.advances hcurrent (hsound ref current hcurrent) hnot
      rw [hidentities]
      refine ⟨fun ref' a ha => ?_, fun ref' a ha => ?_⟩
      · rw [Dict.get?_set]
        split
        · next heq =>
          obtain rfl : current = a := Option.some.inj (hcurrent.symm.trans (heq ▸ ha))
          exact ⟨updated, rfl, hadvances⟩
        · exact ⟨a, ha, .refl a⟩
      · rw [Dict.get?_set] at ha
        split at ha
        · obtain rfl := Option.some.inj ha
          exact hupdated
        · exact hsound ref' a ha

/-- A request that verifies a linked identity moves it back. -/
theorem Reverifies.not_advance (h : s.Reverifies request) : ¬ s.Advance (s.after request) := by
  cases request with
  | verifyIdentity ref evidence now =>
      obtain ⟨current, hcurrent, hstate, expires, hevidence, hunexpired⟩ := h
      intro hadvance
      obtain ⟨b, hb, hadvances⟩ := hadvance ref current hcurrent
      have hverified : (s.verifyIdentity ref evidence now).2 =
          s.store ref (verified current evidence) := by
        unfold verifyIdentity
        rw [require_ok.mpr hcurrent]
        simp [hstate, hevidence, not_le.mpr hunexpired]
      change (s.verifyIdentity ref evidence now).2.identities.get? ref = some b at hb
      rw [hverified, store, Dict.get?_set_self] at hb
      obtain rfl := Option.some.inj hb
      have hstate' := hadvances.state
      rw [hstate] at hstate'
      have hback : 3 ≤ 2 := hstate'
      omega
  | _ => exact absurd h id

/-! ## Runs -/

/-- A fixture after requests, from an empty one. -/
def served (requests : List IdentityRequest) : FakeCustomerIdentityService := requests.foldl after {}

theorem served_concat (requests : List IdentityRequest) (request : IdentityRequest) :
    served (requests ++ [request]) = (served requests).after request := by
  simp [served]

/-- From any point of the run to any later one every identity advances, and at each point all that are
linked are linked well. -/
def MovesForward (requests : List IdentityRequest) : Prop :=
  (∀ before middle after, requests = before ++ middle ++ after →
    (served before).Advance (served (before ++ middle))) ∧
  ∀ before after, requests = before ++ after → (served before).AllWellLinked

theorem served_sound {requests : List IdentityRequest}
    (h : History.Each (fun before request => ¬ (served before).Reverifies request) requests) :
    (served requests).AllSound := by
  induction requests using List.reverseRecOn with
  | nil =>
      intro ref a ha
      cases ha
  | append_singleton requests request ih =>
      obtain ⟨hrequests, hrequest⟩ := History.each_concat.mp h
      rw [served_concat]
      exact ((ih hrequests).after hrequest).2

theorem served_advance {before middle : List IdentityRequest}
    (h : History.Each (fun before request => ¬ (served before).Reverifies request)
      (before ++ middle)) : (served before).Advance (served (before ++ middle)) := by
  induction middle using List.reverseRecOn with
  | nil =>
      rw [List.append_nil]
      exact .refl _
  | append_singleton middle request ih =>
      rw [← List.append_assoc] at h ⊢
      obtain ⟨hmiddle, hrequest⟩ := History.each_concat.mp h
      rw [served_concat]
      exact (ih hmiddle).trans ((served_sound hmiddle).after hrequest).1

/-- Assurance only moves forward along a run exactly if no request of it verifies an identity that is
linked. -/
theorem movesForward_iff (requests : List IdentityRequest) : MovesForward requests ↔
    History.Each (fun before request => ¬ (served before).Reverifies request) requests := by
  constructor
  · rintro ⟨hadvance, -⟩ before request after hrequests hreverifies
    refine hreverifies.not_advance ?_
    rw [← served_concat]
    exact hadvance before [request] after (by simp [hrequests])
  · intro h
    refine ⟨fun before middle after hrequests => ?_, fun before after hrequests => ?_⟩
    · rw [hrequests] at h
      exact served_advance (History.each_of_append h)
    · rw [hrequests] at h
      intro ref a ha
      exact (served_sound (History.each_of_append h) ref a ha).wellLinked

/-! ## An identity that is linked twice -/

/-- Linked to the first of its candidates. -/
def linking : List IdentityRequest :=
  [.resolveIdentity "whatsapp" "identity:a" "subject:a" "attestation:a" "conversation:a"
      ["party:1", "party:2"],
    .control (.registerVerificationEvidence "identity:a" "evidence:a" 100),
    .verifyIdentity "identity:a" "evidence:a" 10,
    .linkVerifiedParty "identity:a" "party:1" "verification:fixture:evidence:a" none "merchant:a"
      "context:a"]

/-- Verified again on the same evidence, and linked to the second. -/
def relinking : List IdentityRequest :=
  [.verifyIdentity "identity:a" "evidence:a" 20,
    .linkVerifiedParty "identity:a" "party:2" "verification:fixture:evidence:a" none "merchant:a"
      "context:a"]

/-- The party of an identity. -/
def partyOf (s : FakeCustomerIdentityService) (ref : String) : Option String :=
  (s.identities.get? ref).bind (·.linkedPartyRef)

theorem relinking_changesParty : ¬ MovesForward (linking ++ relinking) := by
  rintro ⟨hadvance, -⟩
  have hbefore : (served linking).partyOf "identity:a" = some "party:1" := by decide +kernel
  have hafter : (served (linking ++ relinking)).partyOf "identity:a" = some "party:2" := by
    decide +kernel
  obtain ⟨a, ha, hparty⟩ := Option.bind_eq_some_iff.mp hbefore
  obtain ⟨b, hb, hadvances⟩ := hadvance linking relinking [] (by simp) "identity:a" a ha
  have hkept := hadvances.party "party:1" hparty
  have hnow : b.linkedPartyRef = some "party:2" := by
    rw [partyOf, hb] at hafter
    exact hafter
  rw [hnow] at hkept
  exact absurd hkept (by decide)

end FakeCustomerIdentityService

end XbosCustomerChannel
