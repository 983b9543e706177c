import XbosCustomerChannel.Data.Replay
import XbosCustomerChannel.Data.VersionedRef
import XbosCustomerChannel.Lifecycle.Projections

/-!
# Evidence of the lifecycle

A counter numbers the references of decisions and projections. A reference is made out once: what comes
under it again is the same decision, repeated to who asked for it under the same client reference.
-/

namespace XbosCustomerChannel

open Data FakeXBOSOrderChangeFulfillmentClient

/-! ## Numbers -/

/-- The reference carries this number. -/
def Numbered (ref : String) (n : Nat) : Prop := ∃ pfx, ref = pfx ++ ":fixture:" ++ toString n

/-- The number is what is after the last colon. -/
theorem Numbered.rsplit {ref : String} {n : Nat} (h : Numbered ref n) :
    ∃ stem, Text.rsplit [':'] ref.toList = some (stem, (toString n).toList) := by
  obtain ⟨pfx, rfl⟩ := h
  refine ⟨pfx.toList ++ ":fixture".toList, ?_⟩
  have hcolon : ':' ∉ [] ++ (toString n).toList := by
    exact VersionedRef.colon_notMem n
  have h := Text.rsplit_append hcolon (pfx.toList ++ ":fixture".toList)
  simpa using h

theorem Numbered.unique {ref : String} {n m : Nat} (hn : Numbered ref n) (hm : Numbered ref m) :
    n = m := by
  obtain ⟨stem, hstem⟩ := hn.rsplit
  obtain ⟨stem', hstem'⟩ := hm.rsplit
  rw [hstem, Option.some.injEq, Prod.mk.injEq] at hstem'
  have htext : toString (n : Int) = toString (m : Int) := String.toList_injective hstem'.2
  have h := PyInt.repr_injective htext
  omega

namespace LifecycleAnswer

/-- The references of an answer. -/
def refs : LifecycleAnswer → List String
  | .change decision => [decision.decisionRef, decision.evidenceRef]
  | .cancellation (some decision) => [decision.decisionRef, decision.evidenceRef]
  | .fulfillment (some projection) => [projection.evidenceRef]
  | .lifecycle projection => [projection.evidenceRef]
  | _ => []

/-- When a projection was observed. -/
def observedAt? : LifecycleAnswer → Option Int
  | .fulfillment (some projection) => some projection.observedAtEpoch
  | .lifecycle projection => some projection.observedAtEpoch
  | _ => none

end LifecycleAnswer

namespace FakeXBOSOrderChangeFulfillmentClient

/-- The answer is a decision that the client remembers. -/
inductive Recorded (client : FakeXBOSOrderChangeFulfillmentClient) : LifecycleAnswer → Prop
  | change {ref request decision} (h : client.changeByRef.get? ref = some (request, decision)) :
      Recorded client (.change decision)
  | cancellation {ref request decision} (h : client.cancelByRef.get? ref = some (request, decision)) :
      Recorded client (.cancellation (some decision))

/-- The references of an answer are numbered from the counter on. -/
structure Mints (client client' : FakeXBOSOrderChangeFulfillmentClient) (a : LifecycleAnswer) :
    Prop where
  counter : client.eventCounter ≤ client'.eventCounter
  refs : ∀ ref ∈ a.refs, ∃ n, Numbered ref n ∧ client.eventCounter < n ∧ n ≤ client'.eventCounter
  observed : ∀ t ∈ a.observedAt?, client.eventCounter < t ∧ t = client'.eventCounter
  recorded : ∀ b, Recorded client' b → Recorded client b ∨ b = a

/-- What a call comes to. -/
inductive Performs (client : FakeXBOSOrderChangeFulfillmentClient) (call : LifecycleCall) : Prop
  | raised (e : Exc) (h : client.perform call = (.error e, client))
  | replayed (a : LifecycleAnswer) (hrecorded : Recorded client a)
      (h : client.perform call = (.ok a, client))
  | minted (a : LifecycleAnswer) (client' : FakeXBOSOrderChangeFulfillmentClient)
      (hmints : Mints client client' a) (h : client.perform call = (.ok a, client'))

variable (client : FakeXBOSOrderChangeFulfillmentClient)

theorem numbered_evidence (pfx : String) (n : Nat) :
    Numbered (client.evidence pfx n) (client.eventCounter + n) := ⟨pfx, rfl⟩

/-- The two references of a decision. -/
theorem numbered_decision {pfx pfx' ref : String}
    (h : ref ∈ [client.evidence pfx 1, client.evidence pfx' 2]) :
    ∃ n, Numbered ref n ∧ client.eventCounter < n ∧ n ≤ client.eventCounter + 2 := by
  rcases List.mem_pair.mp h with rfl | rfl
  · exact ⟨_, client.numbered_evidence pfx 1, by omega, by omega⟩
  · exact ⟨_, client.numbered_evidence pfx' 2, by omega, by omega⟩

/-- An answer without a reference leaves the tables. -/
theorem Mints.bare {client client' : FakeXBOSOrderChangeFulfillmentClient} {a : LifecycleAnswer}
    (hrefs : a.refs = []) (hobserved : a.observedAt? = none)
    (hcounter : client'.eventCounter = client.eventCounter)
    (hchange : client'.changeByRef = client.changeByRef)
    (hcancel : client'.cancelByRef = client.cancelByRef) : Mints client client' a where
  counter := hcounter.ge
  refs := by simp [hrefs]
  observed := by simp [hobserved]
  recorded := by
    intro b hb
    cases hb with
    | change h => exact Or.inl (.change (hchange ▸ h))
    | cancellation h => exact Or.inl (.cancellation (hcancel ▸ h))

/-- A projection is numbered by the next number, and observed at it. -/
theorem Mints.projection {a : LifecycleAnswer} {pfx : String}
    (hrefs : a.refs = [client.evidence pfx 1])
    (hobserved : a.observedAt? = some ((client.eventCounter + 1 : Nat) : Int)) :
    Mints client { client with eventCounter := client.eventCounter + 1 } a where
  counter := Nat.le_succ _
  refs := by
    rw [hrefs]
    intro ref href
    obtain rfl := List.mem_singleton.mp href
    exact ⟨_, client.numbered_evidence pfx 1, by omega, le_rfl⟩
  observed := by
    rw [hobserved]
    intro t ht
    obtain rfl := Option.some.inj ht
    exact ⟨by omega, rfl⟩
  recorded := by
    intro b hb
    cases hb with
    | change h => exact Or.inl (.change h)
    | cancellation h => exact Or.inl (.cancellation h)

theorem performs_requestOrderChange (request : OrderChangeRequest) :
    Performs client (.act (.requestOrderChange request)) := by
  cases hprior : client.changeByRef.get? request.clientChangeRef with
  | some prior =>
      obtain ⟨previous, decision⟩ := prior
      by_cases hsame : previous = request
      · apply Performs.replayed (.change decision) (.change hprior)
        simp [perform, requestOrderChange, hprior, hsame, Except.map]
      · apply Performs.raised ⟨.lifecycleRequestConflict, "change_idempotency_payload_conflict"⟩
        simp [perform, requestOrderChange, hprior, hsame, Except.map]
  | none =>
      cases hmatches : client.requiredMatches request.orderRef request.correlationRef with
      | error e =>
          apply Performs.raised e
          simp [perform, requestOrderChange, hprior, hmatches, Except.map]
      | ok record =>
          refine .minted _ _ ?_
            (by simp only [perform, requestOrderChange, hprior, hmatches, Except.map]; rfl)
          refine ⟨Nat.le_add_right _ _, fun ref href => client.numbered_decision href, ?_, ?_⟩
          · intro t ht
            cases ht
          · intro b hb
            cases hb with
            | cancellation h => exact Or.inl (.cancellation h)
            | change h =>
                rw [Dict.get?_set] at h
                split at h
                · obtain ⟨-, rfl⟩ := Prod.mk.inj (Option.some.inj h)
                  exact Or.inr rfl
                · exact Or.inl (.change h)

theorem performs_requestCancellation (request : CancellationRequest) :
    Performs client (.act (.requestCancellation request)) := by
  cases hprior : client.cancelByRef.get? request.clientCancelRef with
  | some prior =>
      obtain ⟨previous, decision⟩ := prior
      by_cases hsame : previous = request
      · apply Performs.replayed (.cancellation (some decision)) (.cancellation hprior)
        simp [perform, requestCancellation, hprior, hsame, Except.map]
      · apply Performs.raised ⟨.lifecycleRequestConflict, "cancel_idempotency_payload_conflict"⟩
        simp [perform, requestCancellation, hprior, hsame, Except.map]
  | none =>
      cases hmatches : client.requiredMatches request.orderRef request.correlationRef with
      | error e =>
          apply Performs.raised e
          simp [perform, requestCancellation, hprior, hmatches, Except.map]
      | ok record =>
          refine .minted _ _ ?_
            (by simp only [perform, requestCancellation, hprior, hmatches, Except.map]; rfl)
          refine ⟨Nat.le_add_right _ _, fun ref href => client.numbered_decision href, ?_, ?_⟩
          · intro t ht
            cases ht
          · intro b hb
            cases hb with
            | change h => exact Or.inl (.change h)
            | cancellation h =>
                rw [Dict.get?_set] at h
                split at h
                · obtain ⟨-, rfl⟩ := Prod.mk.inj (Option.some.inj h)
                  exact Or.inr rfl
                · exact Or.inl (.cancellation h)

theorem performs_getCancellationProjection (orderRef correlationRef : String) :
    Performs client (.getCancellationProjection orderRef correlationRef) := by
  cases hmatches : client.requiredMatches orderRef correlationRef with
  | error e =>
      apply Performs.raised e
      simp [perform, getCancellationProjection, hmatches, Except.map]
  | ok record =>
      by_cases hmerchant : record.merchantInitiatedCancel
      · refine .minted _ _ ?_
          (by simp only [perform, getCancellationProjection, hmatches, hmerchant, Except.map]; rfl)
        refine ⟨Nat.le_add_right _ _, fun ref href => client.numbered_decision href, ?_, ?_⟩
        · intro t ht
          cases ht
        · intro b hb
          cases hb with
          | change h => exact Or.inl (.change h)
          | cancellation h => exact Or.inl (.cancellation h)
      · apply Performs.minted (.cancellation none) client (.bare rfl rfl rfl rfl rfl)
        simp [perform, getCancellationProjection, hmatches, hmerchant, Except.map]

/-- Every call raises and changes nothing, repeats a decision, or numbers what it returns. -/
theorem performs_cases (call : LifecycleCall) : Performs client call := by
  cases call with
  | act op =>
      cases op with
      | registerOrder orderRef correlationRef paymentState fulfillmentStage merchantInitiatedCancel =>
          refine .minted .done (client.registerOrder orderRef correlationRef paymentState
            fulfillmentStage merchantInitiatedCancel) ?_ rfl
          exact .bare rfl rfl rfl rfl rfl
      | setFulfillmentStage orderRef stage =>
          cases hrequired : client.required orderRef with
          | error e =>
              apply Performs.raised e
              simp [perform, setFulfillmentStage, hrequired, Except.map]
          | ok record =>
              refine .minted .done _ ?_
                (by simp only [perform, setFulfillmentStage, hrequired, Except.map]; rfl)
              exact .bare rfl rfl rfl rfl rfl
      | requestOrderChange request => exact client.performs_requestOrderChange request
      | requestCancellation request => exact client.performs_requestCancellation request
  | getCancellationProjection orderRef correlationRef =>
      exact client.performs_getCancellationProjection orderRef correlationRef
  | getFulfillmentProjection orderRef correlationRef =>
      cases hmatches : client.requiredMatches orderRef correlationRef with
      | error e =>
          apply Performs.raised e
          simp [perform, getFulfillmentProjection, hmatches, Except.map]
      | ok record =>
          cases hstage : record.fulfillmentStage with
          | none =>
              apply Performs.minted (.fulfillment none) client (.bare rfl rfl rfl rfl rfl)
              simp [perform, getFulfillmentProjection, hmatches, hstage, Except.map]
          | some stage =>
              refine .minted _ _ ?_
                (by simp only [perform, getFulfillmentProjection, hmatches, hstage, Except.map]; rfl)
              exact .projection client rfl rfl
  | reconcileOrderLifecycle orderRef correlationRef =>
      cases hmatches : client.requiredMatches orderRef correlationRef with
      | error e =>
          apply Performs.raised e
          simp [perform, reconcileOrderLifecycle, hmatches, Except.map]
      | ok record =>
          refine .minted _ _ ?_
            (by simp only [perform, reconcileOrderLifecycle, hmatches, Except.map]; rfl)
          exact .projection client rfl rfl

/-! ## Runs -/

/-- The answers so far, beside the client. -/
structure Ledger (client : FakeXBOSOrderChangeFulfillmentClient) (answered : List LifecycleAnswer) :
    Prop where
  recorded : ∀ a, Recorded client a → a ∈ answered
  numbered : ∀ a ∈ answered, ∀ ref ∈ a.refs, ∃ n, Numbered ref n ∧ n ≤ client.eventCounter
  identified : ∀ a ∈ answered, ∀ b ∈ answered, ∀ ref ∈ a.refs, ref ∈ b.refs → a = b
  observed : ∀ t ∈ answered.filterMap LifecycleAnswer.observedAt?, t ≤ (client.eventCounter : Int)
  increasing : (answered.filterMap LifecycleAnswer.observedAt?).Pairwise (· < ·)

theorem ledger_nil : Ledger {} [] where
  recorded a h := by
    cases h with
    | change h => cases h
    | cancellation h => cases h
  numbered := by simp
  identified := by simp
  observed := by simp
  increasing := .nil

variable {client} {answered : List LifecycleAnswer}

/-- A decision is no projection. -/
theorem Recorded.observedAt? {a : LifecycleAnswer} (h : Recorded client a) : a.observedAt? = none := by
  cases h with
  | change => rfl
  | cancellation => rfl

theorem Ledger.replayed (h : Ledger client answered) {a : LifecycleAnswer}
    (ha : Recorded client a) : Ledger client (answered ++ [a]) := by
  have hin := h.recorded a ha
  have hmem {b : LifecycleAnswer} : b ∈ answered ++ [a] ↔ b ∈ answered := by
    rw [List.mem_append, List.mem_singleton, or_iff_left_of_imp]
    rintro rfl
    exact hin
  have hobserved : (answered ++ [a]).filterMap LifecycleAnswer.observedAt? =
      answered.filterMap LifecycleAnswer.observedAt? := by
    simp [ha.observedAt?]
  refine ⟨fun b hb => hmem.mpr (h.recorded b hb), fun b hb => h.numbered b (hmem.mp hb), ?_, ?_, ?_⟩
  · intro b hb c hc
    exact h.identified b (hmem.mp hb) c (hmem.mp hc)
  · rw [hobserved]
    exact h.observed
  · rw [hobserved]
    exact h.increasing

theorem Ledger.minted (h : Ledger client answered) {a : LifecycleAnswer}
    {client' : FakeXBOSOrderChangeFulfillmentClient} (ha : Mints client client' a) :
    Ledger client' (answered ++ [a]) := by
  -- what is new is numbered higher than anything before
  have hfresh : ∀ b ∈ answered, ∀ ref ∈ b.refs, ref ∉ a.refs := by
    intro b hb ref href hnew
    obtain ⟨n, hn, hle⟩ := h.numbered b hb ref href
    obtain ⟨m, hm, hlt, -⟩ := ha.refs ref hnew
    have heq := hn.unique hm
    omega
  have hcounter := ha.counter
  constructor
  · intro b hb
    rcases ha.recorded b hb with hb | rfl
    · exact List.mem_append_left _ (h.recorded b hb)
    · simp
  · intro b hb ref href
    rcases List.mem_append.mp hb with hb | hb
    · obtain ⟨n, hn, hle⟩ := h.numbered b hb ref href
      exact ⟨n, hn, by omega⟩
    · obtain rfl := List.mem_singleton.mp hb
      obtain ⟨n, hn, -, hle⟩ := ha.refs ref href
      exact ⟨n, hn, hle⟩
  · intro b hb c hc ref hrefb hrefc
    rcases List.mem_append.mp hb with hb | hb
    · rcases List.mem_append.mp hc with hc | hc
      · exact h.identified b hb c hc ref hrefb hrefc
      · rw [List.mem_singleton.mp hc] at hrefc
        exact absurd hrefc (hfresh b hb ref hrefb)
    · rw [List.mem_singleton.mp hb] at hrefb ⊢
      rcases List.mem_append.mp hc with hc | hc
      · exact absurd hrefb (hfresh c hc ref hrefc)
      · exact (List.mem_singleton.mp hc).symm
  · intro t ht
    rw [List.filterMap_append, List.mem_append] at ht
    rcases ht with ht | ht
    · have hle := h.observed t ht
      omega
    · obtain ⟨b, hb, hbt⟩ := List.mem_filterMap.mp ht
      obtain rfl := List.mem_singleton.mp hb
      exact (ha.observed t hbt).2.le
  · rw [List.filterMap_append, List.pairwise_append]
    refine ⟨h.increasing, ?_, ?_⟩
    · cases hobserved : a.observedAt? with
      | none => simp [hobserved]
      | some t => simp [hobserved]
    · intro t ht t' ht'
      obtain ⟨b, hb, hbt⟩ := List.mem_filterMap.mp ht'
      obtain rfl := List.mem_singleton.mp hb
      exact lt_of_le_of_lt (h.observed t ht) (ha.observed t' hbt).1

theorem ledger_run (calls : List LifecycleCall) :
    Ledger (performs {} calls) (answers {} calls) := by
  induction calls using List.reverseRecOn with
  | nil => exact ledger_nil
  | append_singleton calls call ih =>
      rw [performs_concat, answers_concat]
      rcases performs_cases (performs {} calls) call with
        ⟨e, hcall⟩ | ⟨a, hrecorded, hcall⟩ | ⟨a, client', hmints, hcall⟩
      · rw [hcall]
        show Ledger (performs {} calls) (answers {} calls ++ [])
        rwa [List.append_nil]
      · rw [hcall]
        exact ih.replayed hrecorded
      · rw [hcall]
        exact ih.minted hmints

end FakeXBOSOrderChangeFulfillmentClient

/-- Over every run, a reference identifies the answer that carries it, and projections are observed one
after another. -/
theorem evidence_identifies (calls : List LifecycleCall) :
    (∀ a ∈ answers {} calls, ∀ b ∈ answers {} calls, ∀ ref ∈ a.refs, ref ∈ b.refs → a = b) ∧
      ((answers {} calls).filterMap LifecycleAnswer.observedAt?).Pairwise (· < ·) :=
  ⟨(ledger_run calls).identified, (ledger_run calls).increasing⟩

end XbosCustomerChannel
