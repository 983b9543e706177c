import XbosCustomerChannel.W1.Fixture
import XbosCustomerChannel.W1.Reviewed

/-!
# Submitting a review again

`confirm_order` asks only whether the checkout state holds a confirmation. A message that confirms
submits it, whether or not it has been submitted before; so a review is submitted once exactly if no
such message comes after its order.
-/

namespace XbosCustomerChannel

open Effects Data

namespace W1World

variable {β : Type} [W1CheckoutDomainBoundary β] {T : List (W1BoundaryCall β)}
  {e e' : W1BoundaryCall β} {w w' : W1World β}

/-- A call submits a confirmation only if nothing was ordered since the latest review. -/
def SubmitsOnce (before : List (W1BoundaryCall β)) (e : W1BoundaryCall β) : Prop :=
  e.submits.isSome → ∀ e' ∈ History.since isReview before, e'.ordered = none

theorem since_of_not_review (h : e.reviewed = none) :
    History.since isReview (T ++ [e]) = History.since isReview T ++ [e] := by
  rw [History.since_concat, isReview, h]
  rfl

theorem since_of_review {c : AuthoritativeOrderConfirmationSnapshot} (h : e.reviewed = some c) :
    History.since isReview (T ++ [e]) = [] := by
  rw [History.since_concat, isReview, h]
  rfl

theorem brokeOff_of_submit {session : CustomerSessionSnapshot}
    {c : AuthoritativeOrderConfirmationSnapshot} (h : e.op = .submitOrder session c) :
    e.brokeOff = false := by
  simp only [W1BoundaryCall.brokeOff, h]

/-- What the checkout state and the calls `S` since the latest review say of each other. -/
structure Accounts (S : List (W1BoundaryCall β)) (s : W1RuntimeConversationState) : Prop where
  spent : ∀ st, s.checkout = some st → st.order.isSome → ∃ e ∈ S, e.ordered.isSome
  broke : (∃ e ∈ S, e.brokeOff = true) → ∃ e ∈ S, e.ordered.isSome
  unspent : ∀ st, s.checkout = some st → st.confirmation.isSome → st.order = none →
    (∀ e ∈ S, e.brokeOff = false) → ∀ e ∈ S, e.ordered = none

variable {S : List (W1BoundaryCall β)} {s s' : W1RuntimeConversationState}

theorem Accounts.keeps (h : Accounts S s) (hkeeps : Keeps s s') : Accounts S s' := by
  refine ⟨fun st' hst' horder => ?_, h.broke, fun st' hst' hconfirmation horder => ?_⟩
  · rcases hkeeps.checkout st' hst' with hbare | ⟨st, hst, -, hsame, -⟩
    · rw [hbare] at horder
      cases horder
    · exact h.spent st hst (by rw [← hsame, horder])
  · rcases hkeeps.checkout st' hst' with hbare | ⟨st, hst, hsame, hsame', -⟩
    · rw [hbare] at hconfirmation
      cases hconfirmation
    · exact h.unspent st hst (by rw [← hsame, hconfirmation]) (by rw [← hsame', horder])

/-- A call that neither orders nor breaks off. -/
theorem Accounts.idle (h : Accounts S s) (hordered : e.ordered = none) (hbroke : e.brokeOff = false) :
    Accounts (S ++ [e]) s := by
  refine ⟨fun st hst horder => ?_, fun hbroken => ?_, fun st hst hconfirmation horder hnone => ?_⟩
  · obtain ⟨e₀, he₀, h₀⟩ := h.spent st hst horder
    exact ⟨e₀, List.mem_append_left _ he₀, h₀⟩
  · obtain ⟨e₁, he₁, h₁⟩ := hbroken
    rcases List.mem_append.mp he₁ with he₁ | he₁
    · obtain ⟨e₀, he₀, h₀⟩ := h.broke ⟨e₁, he₁, h₁⟩
      exact ⟨e₀, List.mem_append_left _ he₀, h₀⟩
    · rw [List.mem_singleton.mp he₁, hbroke] at h₁
      cases h₁
  · intro e₁ he₁
    rcases List.mem_append.mp he₁ with he₁ | he₁
    · exact h.unspent st hst hconfirmation horder
        (fun e₀ he₀ => hnone e₀ (List.mem_append_left _ he₀)) e₁ he₁
    · rw [List.mem_singleton.mp he₁, hordered]

/-- A submission that ordered, and the request for payment options that follows it: what is then
held has an order, or the request broke off, or nothing is held. -/
theorem Accounts.spend {order : CanonicalOrderProjection} (hordered : e.ordered = some order)
    (h : ∀ st, s'.checkout = some st → st.confirmation.isSome → st.order = none →
      e'.brokeOff = true) : Accounts (S ++ [e, e']) s' := by
  have hspent : ∃ e₀ ∈ S ++ [e, e'], e₀.ordered.isSome := ⟨e, by simp, by rw [hordered]; rfl⟩
  refine ⟨fun _ _ _ => hspent, fun _ => hspent, fun st hst hconfirmation horder hnone => ?_⟩
  have hbroke := hnone e' (by simp)
  rw [h st hst hconfirmation horder] at hbroke
  cases hbroke

variable [CaseFolding] {router : W1ConversationRouter} {inbound : NormalizedInboundMessage}

omit [CaseFolding] in
theorem since_of_submission {session : CustomerSessionSnapshot}
    {c : AuthoritativeOrderConfirmationSnapshot} {order : CanonicalOrderProjection}
    (he : e.op = .submitOrder session c) (he' : e'.op = .paymentOptions session order) :
    History.since isReview (T ++ [e, e']) = History.since isReview T ++ [e, e'] := by
  rw [List.append_cons, since_of_not_review (reviewed_of_payment he'),
    since_of_not_review (reviewed_of_submit he), ← List.append_cons]

theorem Accounts.effect {C : List (W1BoundaryCall β)}
    (h : Accounts (History.since isReview T) w.conversation)
    (heffect : Effect router w inbound C w') :
    Accounts (History.since isReview (T ++ C)) w'.conversation := by
  cases heffect with
  | quiet _ hkeeps =>
      rw [List.append_nil]
      exact h.keeps hkeeps
  | reviewed mode c e _ he hc hw' =>
      rw [since_of_review hc, hw']
      refine ⟨fun st hst horder => ?_, fun ⟨e, he, _⟩ => (by cases he), fun _ _ _ _ _ e he => ?_⟩
      · obtain rfl := Option.some.inj hst
        cases horder
      · cases he
  | unreviewed mode e _ he hc hkeeps =>
      rw [since_of_not_review hc]
      subst he
      exact (h.idle rfl rfl).keeps hkeeps
  | refused st c hconfirms e _ he ho hkeeps =>
      rw [since_of_not_review (reviewed_of_submit (congrArg _ he))]
      exact (h.idle ho (brokeOff_of_submit (congrArg _ he))).keeps hkeeps
  | lost st c hconfirms order e e' _ he ho he' hbroke hbare hsession =>
      -- nothing is held, so nothing can be submitted before the next review
      rw [since_of_submission (congrArg _ he) he']
      refine .spend ho fun st' hst' hconfirmation => ?_
      rw [hbare st' hst'] at hconfirmation
      cases hconfirmation
  | brokeOff st c hconfirms order e e' _ he ho he' hbroke hw' =>
      rw [since_of_submission (congrArg _ he) he']
      exact .spend ho fun _ _ _ _ => hbroke
  | presented st c hconfirms order options e e' _ he ho he' hbroke hw' =>
      rw [since_of_submission (congrArg _ he) he']
      refine .spend ho fun st' hst' _ horder => ?_
      rw [hw'] at hst'
      obtain rfl := Option.some.inj hst'
      cases horder

/-! ## Messages that submit again -/

variable (router)

/-- The message confirms in a checkout state that has an order, or for whose review asking for
payment options has broken off. -/
def Resubmits (T : List (W1BoundaryCall β)) (w : W1World β) (inbound : NormalizedInboundMessage) :
    Prop :=
  ∃ st c, Confirms router w.conversation inbound st c ∧
    (st.order.isSome ∨ ∃ e ∈ History.since isReview T, e.brokeOff = true)

variable {router}

/-- The review held was not ordered on exactly if the message does not submit again. -/
theorem Accounts.unordered_iff (h : Accounts (History.since isReview T) w.conversation)
    {st : W1CheckoutState} {c : AuthoritativeOrderConfirmationSnapshot}
    (hconfirms : Confirms router w.conversation inbound st c) :
    (∀ e ∈ History.since isReview T, e.ordered = none) ↔ ¬ Resubmits router T w inbound := by
  constructor
  · rintro hnone ⟨st', c', hconfirms', hagain⟩
    obtain ⟨e, he, hordered⟩ : ∃ e ∈ History.since isReview T, e.ordered.isSome := by
      rcases hagain with horder | hbroke
      · exact h.spent st' hconfirms'.state horder
      · exact h.broke hbroke
    rw [hnone e he] at hordered
    cases hordered
  · intro hnot
    have horder : st.order = none := by
      by_contra hsome
      exact hnot ⟨st, c, hconfirms, .inl (Option.isSome_iff_ne_none.mpr hsome)⟩
    refine h.unspent st hconfirms.state (by rw [hconfirms.confirmation]; rfl) horder fun e he => ?_
    by_contra hbroke
    exact hnot ⟨st, c, hconfirms, .inr ⟨e, he, by simpa using hbroke⟩⟩

theorem Confirms.calls {st : W1CheckoutState} {c : AuthoritativeOrderConfirmationSnapshot}
    (h : Confirms router w.conversation inbound st c) :
    ∃ e rest, calls router w inbound = e :: rest ∧ e.submits = some c := by
  obtain ⟨k, hk⟩ := h.submits
  unfold W1World.calls
  rw [hk, callsOf_call]
  exact ⟨_, _, rfl, rfl⟩

/-- A message submits once what it submits exactly if it does not submit again. -/
theorem Accounts.step_iff (h : Accounts (History.since isReview T) w.conversation)
    (hT : History.Each SubmitsOnce T) :
    History.Each SubmitsOnce (T ++ calls router w inbound) ↔ ¬ Resubmits router T w inbound := by
  have hstart : ∀ st c, Confirms router w.conversation inbound st c →
      ∃ e rest, calls router w inbound = e :: rest ∧ e.submits = some c := fun _ _ => Confirms.calls
  have heffect := W1World.effect router w inbound
  generalize calls router w inbound = C at hstart heffect
  -- a call that submits nothing is no obstacle, and the call after a submission submits nothing
  have hidle {T : List (W1BoundaryCall β)} {e : W1BoundaryCall β} (he : e.submits = none) :
      SubmitsOnce T e := by
    intro hsubmits
    rw [he] at hsubmits
    cases hsubmits
  have hno (hnot : ∀ e rest, C = e :: rest → e.submits = none) : ¬ Resubmits router T w inbound := by
    rintro ⟨st, c, hconfirms, -⟩
    obtain ⟨e, rest, rfl, hsubmits⟩ := hstart st c hconfirms
    rw [hnot e rest rfl] at hsubmits
    cases hsubmits
  have hsubmission {st : W1CheckoutState} {c : AuthoritativeOrderConfirmationSnapshot}
      (hconfirms : Confirms router w.conversation inbound st c) {e : W1BoundaryCall β}
      (he : e = ⟨w.conversation, .submitOrder w.conversation.session c, w.boundary⟩) :
      History.Each SubmitsOnce (T ++ [e]) ↔ ¬ Resubmits router T w inbound := by
    rw [History.each_concat, and_iff_right hT, ← h.unordered_iff hconfirms]
    subst he
    exact ⟨fun hall => hall rfl, fun hall _ => hall⟩
  have hpayment {e e' : W1BoundaryCall β} {order : CanonicalOrderProjection}
      (he' : e'.op = .paymentOptions w.conversation.session order) :
      History.Each SubmitsOnce (T ++ [e, e']) ↔ History.Each SubmitsOnce (T ++ [e]) := by
    rw [List.append_cons, History.each_concat]
    exact and_iff_left (hidle (submits_of_payment he'))
  -- where the message confirms, its first call is the submission
  cases heffect with
  | quiet _ hkeeps =>
      rw [List.append_nil]
      exact iff_of_true hT (hno fun e rest heq => by cases heq)
  | reviewed mode c e _ he hc hw' =>
      subst he
      refine iff_of_true (History.each_concat.mpr ⟨hT, hidle rfl⟩) (hno fun e rest heq => ?_)
      obtain ⟨rfl, -⟩ := List.cons.inj heq
      rfl
  | unreviewed mode e _ he hc hkeeps =>
      subst he
      refine iff_of_true (History.each_concat.mpr ⟨hT, hidle rfl⟩) (hno fun e rest heq => ?_)
      obtain ⟨rfl, -⟩ := List.cons.inj heq
      rfl
  | refused st c hconfirms e _ he ho hkeeps => exact hsubmission hconfirms he
  | lost st c hconfirms order e e' _ he ho he' => exact (hpayment he').trans (hsubmission hconfirms he)
  | brokeOff st c hconfirms order e e' _ he ho he' =>
      exact (hpayment he').trans (hsubmission hconfirms he)
  | presented st c hconfirms order options e e' _ he ho he' =>
      exact (hpayment he').trans (hsubmission hconfirms he)

variable (router)

theorem run_accounts (session : CustomerSessionSnapshot) (catalogSession : CatalogSession)
    (navigation : W1NavigationCursor) (boundary : β) (messages : List NormalizedInboundMessage) :
    Accounts (History.since isReview
        (trace router (start session catalogSession navigation boundary) messages))
      (run router (start session catalogSession navigation boundary) messages).conversation := by
  induction messages using List.reverseRecOn with
  | nil =>
      refine ⟨fun st hst => ?_, fun ⟨e, he, _⟩ => ?_, fun st hst => ?_⟩
      · cases hst
      · cases he
      · cases hst
  | append_singleton messages inbound ih =>
      rw [run_concat, trace_concat]
      exact ih.effect (effect router _ inbound)

/-- No review of a run is submitted after it was ordered on, exactly if no message of the run submits
again. -/
theorem submitsOnce_iff (session : CustomerSessionSnapshot) (catalogSession : CatalogSession)
    (navigation : W1NavigationCursor) (boundary : β) (messages : List NormalizedInboundMessage) :
    History.Each SubmitsOnce
        (trace router (start session catalogSession navigation boundary) messages) ↔
      History.Each (fun before inbound => ¬ Resubmits router
          (trace router (start session catalogSession navigation boundary) before)
          (run router (start session catalogSession navigation boundary) before) inbound)
        messages := by
  induction messages using List.reverseRecOn with
  | nil => exact iff_of_true History.each_nil History.each_nil
  | append_singleton messages inbound ih =>
      have haccounts := run_accounts router session catalogSession navigation boundary messages
      rw [trace_concat, History.each_concat, ← ih]
      constructor
      · intro hall
        have hbefore : History.Each SubmitsOnce
            (trace router (start session catalogSession navigation boundary) messages) :=
          History.each_of_append hall
        exact ⟨hbefore, (haccounts.step_iff hbefore).mp hall⟩
      · rintro ⟨hbefore, hnot⟩
        exact (haccounts.step_iff hbefore).mpr hnot

end W1World

/-! ## A button that is tapped twice -/

section Twice

open Fixture W1World

/-- Takeaway is chosen, and the button that confirms is tapped twice. -/
def tappedTwice : List (W1BoundaryCall RecordingBoundary) :=
  W1World.trace ⟨true⟩ (start secureSession catalogWithCart {} {})
    [tap "service:takeaway", tap "order:confirm", tap "order:confirm"]

/-- The second tap submits what the first one has ordered on. -/
theorem tappedTwice_submitsAgain : ¬ History.Each SubmitsOnce tappedTwice := by
  intro hall
  obtain ⟨e', he', hsubmits⟩ : ∃ e, tappedTwice[3]? = some e ∧ e.submits.isSome :=
    (Option.any_eq_true _ _).mp (by decide +kernel)
  obtain ⟨e, he, hordered⟩ : ∃ e ∈ History.since isReview (tappedTwice.take 3), e.ordered.isSome :=
    List.any_eq_true.mp (by decide +kernel)
  rw [hall.get he' hsubmits e he] at hordered
  cases hordered

end Twice

end XbosCustomerChannel
