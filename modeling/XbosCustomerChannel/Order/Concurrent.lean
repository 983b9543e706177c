import XbosCustomerChannel.Order.ExactlyOnce

/-!
# The same submission at once

Any number of `submit` calls with one session, one handle and one client reference. Both of their
transitions read the session, write it back and record the result in three steps. Once a call has
completed the session, a slow call may still write back the session in review that it has read: the
condition on a schedule is that this does not happen. Then a session that shows its order keeps
showing it, and every call that returns has seen it do so.
-/

namespace XbosCustomerChannel

open Effects Effects.Program Data

namespace World

variable (args : SubmitArgs) (w : World FakeXBOSOrderClient)

/-- The session shows the order of the client reference. -/
def Completed : Prop :=
  ∃ s o, w.sessions.get args.sessionRef = some s ∧ s.state = .orderCreated ∧
    w.Ordered args.clientSubmitRef o ∧ s.orderRef = some o.orderRef

/-- The session is on its way there. -/
def Underway : Prop :=
  ∃ s, w.sessions.get args.sessionRef = some s ∧
    (s.state = .review ∨ s.state = .orderSubmitting)

/-- What every step of the calls keeps. -/
structure Converging : Prop where
  keyed : w.Keyed
  consistent : w.orders.Consistent
  progress : w.Underway args ∨ w.Completed args
  recorded : ∀ s, w.sessions.idempotentResult args.sessionRef args.resultKey = some s →
    w.Completed args

/-- No evidence record is lost. -/
def EvidenceKept {π : Type} (w w' : World π) : Prop :=
  Dict.Extends w.provenance.evidence w'.provenance.evidence

/-- A change from outside. -/
def ChangesOutside {π : Type} [XBOSOrderPort π] (w w' : World π) : Prop :=
  ∃ call : ChannelCall π, w' = call.change w

/-- What the calls rely on. -/
structure Progresses (w w' : World FakeXBOSOrderClient) : Prop where
  kept : w.Kept w'
  evidence : w.EvidenceKept w'
  aliases : w'.sessions.aliases = w.sessions.aliases
  converging : w.Converging args → w'.Converging args ∧ (w.Completed args → w'.Completed args)

end World

/-- The condition on a schedule: a session that shows an order is not put back into review. -/
def LeavesCompleted (op : Channel.Op) (w : World FakeXBOSOrderClient) : Prop :=
  ∀ base changes s, op = .session (.put base changes) →
    w.sessions.sessions.get? base.sessionRef = some s → s.state = .orderCreated →
      base.state ≠ .review

instance decidableLeavesCompleted (w : World FakeXBOSOrderClient) :
    (op : Channel.Op) → Decidable (LeavesCompleted op w)
  | .session (.put base _) =>
      decidable_of_iff
        (∀ s ∈ w.sessions.sessions.get? base.sessionRef, s.state = .orderCreated →
          base.state ≠ .review)
        ⟨fun h _ _ s hop hs => (by cases hop; exact h s hs), fun h s hs => h base _ s rfl hs⟩
  | .session (.putWithLegacyAlias _ _) | .session (.canonicalRef _) | .session (.get _)
  | .session (.idempotentResult _ _) | .session (.recordIdempotentResult _ _ _)
  | .session (.rotateIfActive _ _ _ _) | .provenance _ | .order _ | .upstream _
  | .orderAuthority _ => isTrue fun _ _ _ hop => (by cases hop)

/-- What a call guarantees. -/
def WritesSubmission (args : SubmitArgs) : Channel.Op → World FakeXBOSOrderClient → Prop
  | .session (.put base changes), w =>
      base.sessionRef = w.sessions.canonicalRef args.sessionRef ∧
        ((base.state = .review ∧ changes.state = some .orderSubmitting) ∨
          (changes.state = some .orderCreated ∧
            ∃ o, w.Ordered args.clientSubmitRef o ∧ changes.orderRef = some o.orderRef))
  | .session (.putWithLegacyAlias _ _), _ => False
  | .session (.rotateIfActive _ _ _ _), _ => False
  | .session (.recordIdempotentResult _ key _), w => key = args.resultKey → w.Completed args
  | _, _ => True

section Steps

variable {args : SubmitArgs}

theorem World.Progresses.refl (w : World FakeXBOSOrderClient) : w.Progresses args w :=
  ⟨.refl w, Dict.Extends.refl _, rfl, fun h => ⟨h, id⟩⟩

theorem World.Progresses.trans {w w' w'' : World FakeXBOSOrderClient} (h₁ : w.Progresses args w')
    (h₂ : w'.Progresses args w'') : w.Progresses args w'' where
  kept := h₁.kept.trans h₂.kept
  evidence := Dict.Extends.trans h₁.evidence h₂.evidence
  aliases := h₂.aliases.trans h₁.aliases
  converging h := by
    obtain ⟨hw', hc₁⟩ := h₁.converging h
    obtain ⟨hw'', hc₂⟩ := h₂.converging hw'
    exact ⟨hw'', hc₂ ∘ hc₁⟩

theorem World.Progresses.canonicalRef {w w' : World FakeXBOSOrderClient}
    (h : w.Progresses args w') (ref : String) :
    w'.sessions.canonicalRef ref = w.sessions.canonicalRef ref := by
  unfold InMemoryCustomerSessionStore.canonicalRef
  rw [h.aliases]

/-- The session shows its order, for good. -/
structure World.Settled (args : SubmitArgs) (w : World FakeXBOSOrderClient) : Prop
    extends w.Converging args where
  completed : w.Completed args

theorem World.Settled.progresses {w w' : World FakeXBOSOrderClient} (h : w.Settled args)
    (hw : w.Progresses args w') : w'.Settled args :=
  ⟨(hw.converging h.toConverging).1, (hw.converging h.toConverging).2 h.completed⟩

/-- The sessions are looked up as before, and the orders kept. -/
theorem World.Completed.of_get {w w' : World FakeXBOSOrderClient} (h : w.Completed args)
    (hget : w'.sessions.get args.sessionRef = w.sessions.get args.sessionRef)
    (hkept : w.Kept w') : w'.Completed args := by
  obtain ⟨s, o, hs, hstate, ho, href⟩ := h
  exact ⟨s, o, hget.trans hs, hstate, hkept.ordered ho, href⟩

theorem World.Converging.of_get {w w' : World FakeXBOSOrderClient} (h : w.Converging args)
    (hkeyed : w'.Keyed) (hconsistent : w'.orders.Consistent)
    (hget : w'.sessions.get args.sessionRef = w.sessions.get args.sessionRef)
    (hkept : w.Kept w')
    (hrecorded : ∀ s, w'.sessions.idempotentResult args.sessionRef args.resultKey = some s →
      w.Completed args) :
    w'.Converging args ∧ (w.Completed args → w'.Completed args) := by
  have hcompleted (hc : w.Completed args) : w'.Completed args := hc.of_get hget hkept
  refine ⟨⟨hkeyed, hconsistent, ?_, fun s hs => hcompleted (hrecorded s hs)⟩, hcompleted⟩
  rcases h.progress with ⟨s, hs, hstate⟩ | hc
  · exact .inl ⟨s, hget.trans hs, hstate⟩
  · exact .inr (hcompleted hc)

variable [Hashlib]

omit [Hashlib] in
theorem change_progresses (w : World FakeXBOSOrderClient)
    (call : ChannelCall FakeXBOSOrderClient) : w.Progresses args (call.change w) := by
  have hsessions : (call.change w).sessions = w.sessions := by cases call <;> rfl
  refine ⟨change_kept w call, ?_, by rw [hsessions], fun h => ?_⟩
  · have hprovenance : (call.change w).provenance = w.provenance := by cases call <;> rfl
    unfold World.EvidenceKept
    rw [hprovenance]
    exact Dict.Extends.refl _
  · refine h.of_get ?_ ?_ (by rw [hsessions]) (change_kept w call) (by rw [hsessions]; exact h.recorded)
    · intro k s hs
      rw [hsessions] at hs
      exact h.keyed k s hs
    · cases call with
      | orderPortChanges event =>
          exact h.consistent.of_orders (FakeXBOSOrderClient.occur_orders event w.orders)
      | _ => exact h.consistent

theorem handle_evidenceKept {π : Type} [XBOSOrderPort π] (op : Channel.Op) (w : World π) :
    w.EvidenceKept (handle op w).2 := by
  cases op with
  | session op => exact Dict.Extends.refl _
  | order op => exact Dict.Extends.refl _
  | upstream op => exact Dict.Extends.refl _
  | orderAuthority op => exact Dict.Extends.refl _
  | provenance op =>
      cases op with
      | resolveEvidence ref => exact Dict.Extends.refl _
      | resolveConfirmation ref => exact Dict.Extends.refl _
      | issueEvidence session p =>
          show Dict.Extends _ (w.provenance.issueEvidence w.refs session p).2.evidence
          unfold InMemoryChannelProvenanceStore.issueEvidence
          split
          · exact Dict.Extends.refl _
          · exact Dict.Extends.set_of_none (w.provenance.get?_newEvidenceHandle w.refs) _
      | issueConfirmation session c =>
          show Dict.Extends _ (w.provenance.issueConfirmation w.refs session c).2.evidence
          unfold InMemoryChannelProvenanceStore.issueConfirmation
          split <;> exact Dict.Extends.refl _
      | claimConfirmation ref clientRef =>
          show Dict.Extends _ (w.provenance.claimConfirmation ref clientRef).2.evidence
          unfold InMemoryChannelProvenanceStore.claimConfirmation
          split
          · exact Dict.Extends.refl _
          · split
            · exact Dict.Extends.refl _
            · split <;> exact Dict.Extends.refl _

omit [Hashlib] in
/-- What a write by the contract leaves under the session's reference. -/
theorem get_stored_of_key {w : World FakeXBOSOrderClient} {base : CustomerSessionSnapshot}
    (hkey : base.sessionRef = w.sessions.canonicalRef args.sessionRef) (changes : SessionChanges) :
    (w.stored (base.replace changes)).sessions.get args.sessionRef =
      some (base.replace changes) := by
  show (w.sessions.sessions.set base.sessionRef (base.replace changes)).get?
    (w.sessions.canonicalRef args.sessionRef) = _
  rw [hkey, Dict.get?_set_self]

omit [Hashlib] in
/-- The write of the result transition shows the order. -/
theorem completed_stored {w : World FakeXBOSOrderClient} (h : w.Converging args)
    {base : CustomerSessionSnapshot} {changes : SessionChanges} {o : CanonicalOrderProjection}
    (hkey : base.sessionRef = w.sessions.canonicalRef args.sessionRef)
    (hstate : changes.state = some .orderCreated) (ho : w.Ordered args.clientSubmitRef o)
    (href : changes.orderRef = some o.orderRef) :
    (w.stored (base.replace changes)).Completed args := by
  have hnonempty : o.orderRef ≠ "" := by
    obtain ⟨conf, ho⟩ := ho
    exact (h.consistent.order _ _ _ ho).2.2.1
  refine ⟨_, o, get_stored_of_key hkey changes, ?_, ho, ?_⟩
  · simp [CustomerSessionSnapshot.replace, hstate]
  · show pyOr changes.orderRef base.orderRef = _
    rw [href]
    exact pyOr_of_not_falsy (by simpa [falsy] using hnonempty) _

omit [Hashlib] in
/-- A write by the contract, when no session that shows an order is put back into review. -/
theorem put_converges {w : World FakeXBOSOrderClient} (h : w.Converging args)
    {base : CustomerSessionSnapshot} {changes : SessionChanges}
    (hleaves : LeavesCompleted (.session (.put base changes)) w)
    (hwrites : WritesSubmission args (.session (.put base changes)) w) :
    (w.stored (base.replace changes)).Converging args ∧
      (w.Completed args → (w.stored (base.replace changes)).Completed args) := by
  obtain ⟨hkey, hwrites⟩ := hwrites
  have hkeyed : (w.stored (base.replace changes)).Keyed := h.keyed.stored _
  rcases hwrites with ⟨hreview, hstate⟩ | ⟨hstate, o, ho, href⟩
  · -- the stored session does not show its order yet
    have hnot : ¬ w.Completed args := by
      rintro ⟨s, o, hs, hcreated, -, -⟩
      refine hleaves base changes s rfl ?_ hcreated hreview
      rw [hkey]
      exact hs
    refine ⟨⟨hkeyed, h.consistent, .inl ⟨_, get_stored_of_key hkey changes, .inr ?_⟩, fun s hs => ?_⟩,
      fun hc => ?_⟩
    · simp [CustomerSessionSnapshot.replace, hstate]
    · exact absurd (h.recorded s hs) hnot
    · exact absurd hc hnot
  · have hcompleted := completed_stored h hkey hstate ho href
    exact ⟨⟨hkeyed, h.consistent, .inr hcompleted, fun _ _ => hcompleted⟩, fun _ => hcompleted⟩

/-- One operation within the contract. -/
theorem handle_progresses {op : Channel.Op} {w : World FakeXBOSOrderClient}
    (hleaves : LeavesCompleted op w) (hwrites : WritesSubmission args op w) :
    w.Progresses args (handle op w).2 := by
  have hkept := handle_kept op w
  have hkeyed (h : w.Converging args) := handle_keyed op w h.keyed
  have hconsistent (h : w.Converging args) := handle_consistent op w h.consistent
  refine ⟨hkept, handle_evidenceKept op w, ?_, fun h => ?_⟩
  · cases op with
    | session op =>
        cases op with
        | putWithLegacyAlias s a => exact hwrites.elim
        | rotateIfActive ref owner now replacement => exact hwrites.elim
        | _ => rfl
    | _ => rfl
  · cases op with
    | provenance op => exact h.of_get (hkeyed h) (hconsistent h) rfl hkept h.recorded
    | order op => exact h.of_get (hkeyed h) (hconsistent h) rfl hkept h.recorded
    | upstream op => exact h.of_get (hkeyed h) (hconsistent h) rfl hkept h.recorded
    | orderAuthority op => exact h.of_get (hkeyed h) (hconsistent h) rfl hkept h.recorded
    | session op =>
        cases op with
        | canonicalRef ref => exact h.of_get (hkeyed h) (hconsistent h) rfl hkept h.recorded
        | get ref => exact h.of_get (hkeyed h) (hconsistent h) rfl hkept h.recorded
        | idempotentResult ref key =>
            exact h.of_get (hkeyed h) (hconsistent h) rfl hkept h.recorded
        | putWithLegacyAlias s a => exact hwrites.elim
        | rotateIfActive ref owner now replacement => exact hwrites.elim
        | put base changes => exact put_converges h hleaves hwrites
        | recordIdempotentResult ref key snapshot =>
            refine h.of_get (hkeyed h) (hconsistent h) rfl hkept fun s hs => ?_
            change (w.sessions.idempotentResults.set (w.sessions.canonicalRef ref, key) snapshot).get?
              (w.sessions.canonicalRef args.sessionRef, args.resultKey) = some s at hs
            rw [Dict.get?_set] at hs
            split at hs
            · next heq => exact hwrites (Prod.ext_iff.mp heq).2.symm
            · exact h.recorded s hs

end Steps

/-! ## The calls keep the contract -/

section Transitions

/-- A transition is safe if replaying it is, and its writes are from where it found the session. -/
theorem safe_transition {π : Type} [XBOSOrderPort π] [Hashlib] {R : World π → World π → Prop}
    {C G : Channel.Op → World π → Prop} {J : World π → Prop}
    {Q : Except Exc CustomerSessionSnapshot → World π → Prop} (svc : CustomerSessionService)
    (a : TransitionArgs) (hJ : ∀ w w', R w w' → J w → J w')
    (hreads : ∀ op w, ChannelOp.Reads op → G op w) (herror : ∀ e w, Q (.error e) w)
    (hprior : ∀ prior w, J w →
      w.sessions.idempotentResult a.sessionRef a.idempotencyKey = some prior →
        Safe handle R C G Q (.done prior) w)
    (hfound : ∀ current w, J w → w.sessions.get a.sessionRef = some current →
      a.target ∈ current.state.transitions →
        Safe handle R C G Q (do
          let refs ← svc.evidenceChanges current a
          let updated ← SessionStore.put current (CustomerSessionService.transitionChanges a refs)
          SessionStore.recordIdempotentResult a.sessionRef a.idempotencyKey updated) w)
    {w : World π} (hw : J w) : Safe handle R C G Q (svc.transition a) w := by
  intro w₁ h₁ _
  have hw₁ := hJ _ _ h₁ hw
  refine ⟨hreads _ _ trivial, ?_⟩
  generalize hrecorded : (handle (.session (.idempotentResult a.sessionRef a.idempotencyKey)) w₁).1 =
    recorded
  cases recorded with
  | some prior => exact hprior prior w₁ hw₁ hrecorded
  | none =>
      intro w₂ h₂ _
      have hw₂ := hJ _ _ h₂ hw₁
      refine ⟨hreads _ _ trivial, ?_⟩
      generalize hget : (handle (.session (.get a.sessionRef)) w₂).1 = found
      cases found with
      | none => exact fun w _ => herror _ w
      | some current =>
          -- the three checks issue nothing
          refine Safe.raiseIf_bind (fun w _ => herror _ w) fun _ => ?_
          refine Safe.raiseIf_bind (fun w _ => herror _ w) fun hallowed => ?_
          refine Safe.raiseIf_bind (fun w _ => herror _ w) fun _ => ?_
          exact hfound current w₂ hw₂ hget (by simpa using hallowed)

end Transitions

namespace OrderDraftConfirmationService

section Clients

variable [Hashlib] {args : SubmitArgs}

/-- A client's safety. -/
abbrev ConvergesSafe {α : Type} (args : SubmitArgs)
    (Q : Except Exc α → World FakeXBOSOrderClient → Prop) (p : Service α)
    (w : World FakeXBOSOrderClient) : Prop :=
  Safe handle (World.Progresses args) LeavesCompleted (WritesSubmission args) Q p w

/-- Operations that are within every contract. -/
def Harmless (args : SubmitArgs) (op : Channel.Op) : Prop := ∀ w, WritesSubmission args op w

omit [Hashlib] in
theorem harmless_of_reads {op : Channel.Op} (h : ChannelOp.Reads op) : Harmless args op := by
  intro w
  cases op with
  | session op => cases op <;> trivial
  | _ => trivial

/-- What is known while an order is being recorded. -/
structure Recording (args : SubmitArgs) (order : CanonicalOrderProjection) (w : World FakeXBOSOrderClient) :
    Prop where
  converging : w.Converging args
  ordered : w.Ordered args.clientSubmitRef order

omit [Hashlib] in
theorem Recording.progresses {order : CanonicalOrderProjection} {w w' : World FakeXBOSOrderClient}
    (hw : w.Progresses args w') (h : Recording args order w) : Recording args order w' :=
  ⟨(hw.converging h.converging).1, hw.kept.ordered h.ordered⟩

/-- Sequencing after harmless operations, with a fact that is relied on. -/
theorem ConvergesSafe.bind_harmless {α β : Type} {I : World FakeXBOSOrderClient → Prop}
    {Q : Except Exc β → World FakeXBOSOrderClient → Prop}
    (hI : ∀ w w', World.Progresses args w w' → I w → I w') {p : Service α}
    (hp : p.Uses (Harmless args)) {f : α → Service β}
    (hf : ∀ a w, I w → ConvergesSafe args Q (f a) w) (herror : ∀ e w, Q (.error e) w)
    {w : World FakeXBOSOrderClient} (hw : I w) : ConvergesSafe args Q (p >>= f) w :=
  Safe.bind_of_uses World.Progresses.refl hI
    (fun _ w hop hw hleaves => ⟨hop w, hI _ _ (handle_progresses hleaves (hop w)) hw⟩) hp
    (Yields.all p) (fun a w _ hw => hf a w hw) (fun e w _ => herror e w) hw

omit [Hashlib] in
theorem eq_review_of_mem_transitions {s : ChannelState}
    (h : ChannelState.orderSubmitting ∈ s.transitions) : s = .review := by
  revert s
  intro s
  cases s <;> decide

/-- The transition into the submitting state. -/
theorem startTransition_safe (svc : CustomerSessionService) {w : World FakeXBOSOrderClient}
    (hw : w.Converging args) :
    ConvergesSafe args (fun _ _ => True) (svc.transition (startArgs args)) w := by
  have hconverging (w w' : World FakeXBOSOrderClient) (h : w.Progresses args w')
      (hw : w.Converging args) : w'.Converging args := (h.converging hw).1
  refine safe_transition svc (startArgs args) hconverging
    (fun _ w h => harmless_of_reads h w) (fun _ _ => trivial) (fun _ _ _ _ _ _ => trivial)
    (fun current w hw hget hallowed => ?_) hw
  -- only from review is there a transition to the submitting state
  have hreview : current.state = .review := eq_review_of_mem_transitions hallowed
  have hkey : current.sessionRef = w.sessions.canonicalRef args.sessionRef := hw.keyed _ _ hget
  intro w' hprogresses _
  refine ⟨⟨hkey.trans (hprogresses.canonicalRef _).symm, .inl ⟨hreview, rfl⟩⟩, ?_⟩
  · intro w'' _ _
    refine ⟨fun hkeys => ?_, fun _ _ => trivial⟩
    exact absurd hkeys (startKey_ne_resultKey args args)

/-- The evidence handle stands for the order. -/
def StandsFor (evidenceHandle : String) (order : CanonicalOrderProjection)
    (w : World FakeXBOSOrderClient) : Prop :=
  ∃ record, w.provenance.resolveEvidence evidenceHandle = some record ∧
    record.projection.orderRef = some order.orderRef

omit [Hashlib] in
theorem StandsFor.progresses {order : CanonicalOrderProjection} {evidenceHandle : String}
    {w w' : World FakeXBOSOrderClient} (hw : w.Progresses args w')
    (h : StandsFor evidenceHandle order w) : StandsFor evidenceHandle order w' := by
  obtain ⟨record, hrecord, href⟩ := h
  exact ⟨record, hw.evidence _ _ hrecord, href⟩

/-- What is known when the result transition is due. -/
structure Evidenced (args : SubmitArgs) (order : CanonicalOrderProjection) (evidenceHandle : String)
    (w : World FakeXBOSOrderClient) : Prop extends Recording args order w where
  standsFor : ∃ record, w.provenance.resolveEvidence evidenceHandle = some record ∧
    record.projection.orderRef = some order.orderRef

omit [Hashlib] in
theorem Evidenced.progresses {order : CanonicalOrderProjection} {evidenceHandle : String}
    {w w' : World FakeXBOSOrderClient} (hw : w.Progresses args w')
    (h : Evidenced args order evidenceHandle w) : Evidenced args order evidenceHandle w' := by
  exact ⟨h.toRecording.progresses hw, StandsFor.progresses hw h.standsFor⟩

/-- The references the result transition takes are those of the order. -/
theorem evidenceChanges_safe (svc : CustomerSessionService) {evidenceHandle : String}
    {order : CanonicalOrderProjection} {current : CustomerSessionSnapshot}
    {w : World FakeXBOSOrderClient} (hw : Evidenced args order evidenceHandle w)
    (hkey : current.sessionRef = w.sessions.canonicalRef args.sessionRef) :
    ConvergesSafe args
      (fun r w => ∀ refs, r = .ok refs → refs.orderRef = some order.orderRef ∧
        Evidenced args order evidenceHandle w ∧
        current.sessionRef = w.sessions.canonicalRef args.sessionRef)
      (svc.evidenceChanges current (resultArgs args evidenceHandle)) w := by
  have hgated : (resultArgs args evidenceHandle).target.evidenceGated = true := rfl
  unfold CustomerSessionService.evidenceChanges CustomerSessionService.resolveAuthoritativeProjection
  rw [if_pos hgated]
  simp only [resultArgs, bind_assoc]
  refine Safe.raiseIf_bind (fun _ _ _ h => by cases h) fun _ => ?_
  intro w₁ h₁ _
  refine ⟨trivial, ?_⟩
  have hw₁ := hw.progresses h₁
  obtain ⟨record, hrecord, href⟩ := hw₁.standsFor
  have hanswer : (handle (.provenance (.resolveEvidence evidenceHandle)) w₁).1 = some record :=
    hrecord
  rw [hanswer]
  show Safe handle _ _ _ _ ((raiseIf _ _ >>= fun _ => .done record.projection) >>= _) w₁
  rw [bind_assoc]
  refine Safe.raiseIf_bind (fun _ _ _ h => by cases h) fun _ => ?_
  refine Safe.ofExcept_bind (fun _ _ _ _ h => by cases h) fun _ _ => ?_
  refine Safe.ofExcept_bind (fun _ _ _ _ h => by cases h) fun _ _ => ?_
  rintro w₂ h₂ refs ⟨⟩
  exact ⟨href, hw₁.progresses h₂,
    hkey.trans ((h₂.canonicalRef _).trans (h₁.canonicalRef _)).symm⟩

/-- The transition into the created state. -/
theorem resultTransition_safe (svc : CustomerSessionService) {evidenceHandle : String}
    {order : CanonicalOrderProjection} {w : World FakeXBOSOrderClient}
    (hw : Evidenced args order evidenceHandle w) :
    ConvergesSafe args (fun r w => ∀ s, r = .ok s → w.Settled args)
      (svc.transition (resultArgs args evidenceHandle)) w := by
  refine safe_transition (R := World.Progresses args)
    (Q := fun r w => ∀ s, r = .ok s → w.Settled args) svc (resultArgs args evidenceHandle)
    (fun _ _ => Evidenced.progresses)
    (fun _ w h => harmless_of_reads h w) (fun e w s h => (by cases h)) (fun prior w hw hprior => ?_)
    (fun current w hw hget _ => ?_) hw
  · have hcompleted : w.Completed args := hw.converging.recorded prior hprior
    have hsettled : w.Settled args := ⟨hw.converging, hcompleted⟩
    exact fun w' h _ _ => hsettled.progresses h
  refine Safe.bind ((evidenceChanges_safe svc hw (hw.converging.keyed _ _ hget)).mono
    fun r w hrefs => ?_) World.Progresses.refl
  cases r with
  | error e => exact fun s h => by cases h
  | ok refs =>
      obtain ⟨href, hw, hkey⟩ := hrefs refs rfl
      intro w₁ h₁ hleaves
      have hw₁ := hw.progresses h₁
      have hwrites : WritesSubmission args (.session (.put current
          (CustomerSessionService.transitionChanges (resultArgs args evidenceHandle) refs))) w₁ :=
        ⟨hkey.trans (h₁.canonicalRef _).symm, .inr ⟨rfl, order, hw₁.ordered, href⟩⟩
      refine ⟨hwrites, ?_⟩
      -- the write shows the order, and what comes after keeps it
      have hconverging := (put_converges hw₁.converging hleaves hwrites).1
      have hstate : (CustomerSessionService.transitionChanges (resultArgs args evidenceHandle)
        refs).state = some .orderCreated := rfl
      have hcompleted := completed_stored hw₁.converging hwrites.1 hstate hw₁.ordered href
      have hsettled : World.Settled args _ := ⟨hconverging, hcompleted⟩
      intro w₂ h₂ hleaves₂
      have hsettled₂ := hsettled.progresses h₂
      refine ⟨fun _ => hsettled₂.completed, fun w₃ h₃ _ _ => ?_⟩
      have hrecorded := handle_progresses hleaves₂ fun _ => hsettled₂.completed
      exact (hsettled₂.progresses hrecorded).progresses h₃

omit [Hashlib] in
/-- The record behind a handle that has been issued. -/
theorem resolveEvidence_of_issued {w : World FakeXBOSOrderClient}
    {session : CustomerSessionSnapshot} {p : UpstreamStateProjection} {evidenceHandle : String}
    (h : (w.provenance.issueEvidence w.refs session p).1 = .ok evidenceHandle) :
    (w.evidenced session p).provenance.resolveEvidence evidenceHandle =
      some
        { evidenceHandleRef := evidenceHandle
          binding := bindingFromSession session
          projection := p } := by
  by_cases hcorrelation : p.correlationRef = session.correlationRef
  · have hnext : w.nextEvidenceHandle = evidenceHandle := by
      unfold InMemoryChannelProvenanceStore.issueEvidence at h
      rw [if_neg (not_not_intro hcorrelation)] at h
      exact Except.ok.inj h
    rw [← hnext]
    exact World.resolveEvidence_evidenced hcorrelation
  · unfold InMemoryChannelProvenanceStore.issueEvidence at h
    rw [if_pos hcorrelation] at h
    cases h

/-- Recording the order the port has. -/
theorem recordOrder_safe (svc : OrderDraftConfirmationService) {order : CanonicalOrderProjection}
    (latest : CustomerSessionSnapshot) (now : Int) {w : World FakeXBOSOrderClient}
    (hw : Recording args order w) :
    ConvergesSafe args (fun r w => ∀ o, r = .ok o → w.Settled args)
      (svc.recordOrder (args.at now) latest order) w := by
  intro w₁ h₁ hleaves
  have hw₁ := hw.progresses h₁
  refine ⟨trivial, ?_⟩
  have hafter : w₁.Progresses args (w₁.evidenced latest (orderEvidence order now)) := by
    refine @handle_progresses _ _ (.provenance (.issueEvidence latest _)) w₁ hleaves ?_
    trivial
  refine Safe.ofExcept_bind (fun _ _ _ _ h => by cases h) fun evidenceHandle hissued => ?_
  have hevidenced : Evidenced args order evidenceHandle
      (w₁.evidenced latest (orderEvidence order now)) := by
    refine ⟨hw₁.progresses hafter, _, resolveEvidence_of_issued hissued, rfl⟩
  refine Safe.bind ((resultTransition_safe svc.sessions hevidenced).mono fun r w hsettled => ?_)
    World.Progresses.refl
  cases r with
  | error e => exact fun o h => by cases h
  | ok s => exact fun w' h _ _ => (hsettled s rfl).progresses h

/-- Completing the session with the order the port has. -/
theorem complete_safe (svc : OrderDraftConfirmationService) {order : CanonicalOrderProjection}
    (now : Int) {w : World FakeXBOSOrderClient} (hw : Recording args order w) :
    ConvergesSafe args (fun r w => ∀ o, r = .ok o → w.Settled args)
      (svc.complete (args.at now) order) w := by
  intro w₁ h₁ _
  have hw₁ := hw.progresses h₁
  refine ⟨trivial, ?_⟩
  generalize hget : (handle (.session (.get (args.at now).sessionRef)) w₁).1 = found
  cases found with
  | none => exact fun _ _ _ h => by cases h
  | some latest =>
      have hget : w₁.sessions.get args.sessionRef = some latest := hget
      dsimp only [Program.bind]
      split
      · next hcreated =>
        split
        · exact fun _ _ _ h => by cases h
        · -- a created session shows its order
          have hcompleted : w₁.Completed args := by
            rcases hw₁.converging.progress with ⟨s, hs, hstate⟩ | hcompleted
            · rw [hget] at hs
              obtain rfl := Option.some.inj hs
              rw [hcreated] at hstate
              simp at hstate
            · exact hcompleted
          have hsettled : w₁.Settled args := ⟨hw₁.converging, hcompleted⟩
          exact fun w₂ h₂ _ _ => hsettled.progresses h₂
      split
      · exact fun _ _ _ h => by cases h
      · exact recordOrder_safe svc latest now hw₁

/-- What is known once the handle is claimed. -/
structure ClaimedConverging (args : SubmitArgs) (w : World FakeXBOSOrderClient) : Prop where
  converging : w.Converging args
  claimed : w.Claimed args.confirmationHandleRef args.clientSubmitRef

omit [Hashlib] in
theorem ClaimedConverging.progresses (w w' : World FakeXBOSOrderClient) (hw : w.Progresses args w')
    (h : ClaimedConverging args w) : ClaimedConverging args w' :=
  ⟨(hw.converging h.converging).1, hw.kept.1.claimed h.claimed⟩

/-- A part of `submit` that is safe at the port, and harmless here. -/
theorem ConvergesSafe.of_submitSafe {α : Type} {I : World FakeXBOSOrderClient → Prop}
    {Q : Except Exc α → World FakeXBOSOrderClient → Prop}
    (hI : ∀ w w', World.Progresses args w w' → I w → I w') {p : Service α}
    (hp : p.Uses (Harmless args)) {w : World FakeXBOSOrderClient} (h : SubmitSafe args Q p w)
    (hw : I w) : ConvergesSafe args (fun r w => I w ∧ Q r w) p w :=
  Safe.transport (fun _ _ h => h.kept) (fun _ _ _ => trivial) hI
    (fun _ w hop hw hleaves => ⟨hop w, hI _ _ (handle_progresses hleaves (hop w)) hw⟩) hp h hw

omit [Hashlib] in
theorem harmless_claimHandle : (claimHandle args).Uses (Harmless args) := by
  refine Uses.tryCatch (uses_ask_bind (fun _ => trivial) fun claimed => ?_) fun exc => ?_
  · exact Uses.bind (Uses.ofExcept _) fun _ => Uses.done _
  · split <;> trivial

omit [Hashlib] in
theorem harmless_placeOrder (request : OrderSubmitRequest) :
    (placeOrder request).Uses (Harmless args) := by
  refine Uses.tryCatch (uses_ask_bind (fun _ => trivial) fun _ => Uses.ofExcept _) fun exc => ?_
  split
  · refine uses_ask_bind (fun _ => trivial) fun found => ?_
    cases found <;> trivial
  · trivial

theorem enterSubmitting_safe (svc : OrderDraftConfirmationService)
    (session : CustomerSessionSnapshot) {w : World FakeXBOSOrderClient}
    (hw : ClaimedConverging args w) :
    ConvergesSafe args (fun _ w => ClaimedConverging args w) (svc.enterSubmitting args session)
      w := by
  have hsafe : ConvergesSafe args (fun _ _ => True) (svc.enterSubmitting args session) w := by
    unfold enterSubmitting
    split
    · refine Safe.bind ((startTransition_safe svc.sessions hw.converging).mono fun r w _ => ?_)
        World.Progresses.refl
      cases r with
      | error e => trivial
      | ok s =>
          intro w' _ _
          refine ⟨trivial, ?_⟩
          cases (handle (.session (.get args.sessionRef)) w').1 with
          | none => exact fun _ _ => trivial
          | some s => exact fun _ _ => trivial
    · split
      · exact fun _ _ => trivial
      · exact fun _ _ => trivial
  exact (Safe.keep (R := World.Progresses args) (fun _ _ => handle_progresses)
    ClaimedConverging.progresses hsafe hw).mono fun _ _ h => h.1

/-- `submit`, from a session in review or further. -/
theorem submit_converges (svc : OrderDraftConfirmationService) (now : Int)
    {w : World FakeXBOSOrderClient} (hw : w.Converging args) :
    ConvergesSafe args (fun r w => ∀ o, r = .ok o → w.Settled args) (svc.submit (args.at now))
      w := by
  have hconverging (w w' : World FakeXBOSOrderClient) (h : w.Progresses args w')
      (hw : w.Converging args) : w'.Converging args := (h.converging hw).1
  have hraise (e : Exc) (w : World FakeXBOSOrderClient) (o : CanonicalOrderProjection)
      (h : Except.error e = .ok o) : w.Settled args := by cases h
  have hreads {α : Type} {p : Service α} (hp : p.Uses ChannelOp.Reads) : p.Uses (Harmless args) :=
    hp.mono fun _ => harmless_of_reads
  refine ConvergesSafe.bind_harmless hconverging
    (hreads (svc.uses_requireActiveSecureSession _ _)) (fun session w hw => ?_) hraise hw
  refine ConvergesSafe.bind_harmless hconverging (hreads (uses_boundRecord _ _))
    (fun record w hw => ?_) hraise hw
  refine ConvergesSafe.bind_harmless hconverging (hreads (uses_requireFreshConfirmation _ _))
    (fun _ w hw => ?_) hraise hw
  refine Safe.bind ((ConvergesSafe.of_submitSafe hconverging harmless_claimHandle
    (claimHandle_safe w) hw).mono fun r w hclaimed => ?_) World.Progresses.refl
  cases r with
  | error e => exact hraise e w
  | ok _ =>
      have hw : ClaimedConverging args w := ⟨hclaimed.1, hclaimed.2 rfl⟩
      refine Safe.bind ((enterSubmitting_safe svc session hw).mono fun r w hw => ?_)
        World.Progresses.refl
      cases r with
      | error e => exact hraise e w
      | ok session =>
          refine Safe.bind ((ConvergesSafe.of_submitSafe ClaimedConverging.progresses
            (harmless_placeOrder _) (placeOrder_safe rfl hw.claimed) hw).mono fun r w hplaced => ?_)
            World.Progresses.refl
          cases r with
          | error e => exact hraise e w
          | ok order =>
              have hw : Recording args order w :=
                ⟨hplaced.1.converging, (hplaced.2 order rfl).2⟩
              exact Safe.ofExcept_bind (fun e w _ => hraise e w) fun _ _ =>
                complete_safe svc now hw

end Clients

end OrderDraftConfirmationService

/-! ## Schedules -/

section Schedules

variable [Hashlib] {ι : Type} [DecidableEq ι]

omit [DecidableEq ι] in
theorem converging_compatible (args : SubmitArgs) :
    Pool.Compatible handle LeavesCompleted World.ChangesOutside
      (fun _ : ι => World.Progresses args) (fun _ => WritesSubmission args) where
  refl _ := World.Progresses.refl
  trans _ _ _ _ := World.Progresses.trans
  thread _ _ _ _ _ := handle_progresses
  outside _ w w' h := by
    obtain ⟨call, rfl⟩ := h
    exact change_progresses w call

/-- Along every schedule of calls that submit one handle under one reference for a session in
review, whatever happens to the port and the other XBOS systems, in which no session that shows an
order is put back into review: as soon as a call has returned an order, the session is in
`ORDER_CREATED` and refers to that order. -/
theorem submits_converge (svc : OrderDraftConfirmationService) (upstream : Upstream)
    (refs : RefSource) (history : List (ChannelCall FakeXBOSOrderClient))
    {w : World FakeXBOSOrderClient} (hw : w = run svc (World.start {} upstream refs) history)
    (args : SubmitArgs) (now : ι → Int) {session : CustomerSessionSnapshot}
    (hfound : w.sessions.get args.sessionRef = some session) (hreview : session.state = .review)
    (hkey : w.sessions.idempotentResult args.sessionRef args.resultKey = none)
    {turns : List (Turn ι (World FakeXBOSOrderClient))}
    (hturns : (submitPool svc w fun i => args.at (now i)).Admits handle LeavesCompleted
      World.ChangesOutside turns)
    {i : ι} {order : CanonicalOrderProjection}
    (hreturned : ((submitPool svc w fun i => args.at (now i)).run handle turns).threads i =
      .done order) :
    ∃ s, ((submitPool svc w fun i => args.at (now i)).run handle turns).state.sessions.get
        args.sessionRef = some s ∧
      s.state = .orderCreated ∧ s.orderRef = some order.orderRef := by
  have hconverging : w.Converging args := by
    refine ⟨?_, ?_, .inl ⟨session, hfound, .inl hreview⟩, fun s hs => ?_⟩
    · rw [hw]
      exact run_keyed svc (start_keyed _ _ _) history
    · rw [hw]
      exact run_consistent svc FakeXBOSOrderClient.consistent_empty history
    · rw [hkey] at hs
      cases hs
  have hsafe : (submitPool svc w fun i => args.at (now i)).AllSafe handle LeavesCompleted
      (fun _ => World.Progresses args) (fun _ => WritesSubmission args)
      (fun _ r w => ∀ o, r = .ok o → w.Settled args) :=
    fun i => OrderDraftConfirmationService.submit_converges svc (now i) hconverging
  have hsettled := (Pool.safe_run (converging_compatible args) hsafe hturns).post_of_done
    (converging_compatible args) (r := .ok order) hreturned order rfl
  -- the order returned is the one of the client reference, and there is only one
  have hturns' : (submitPool svc w fun i => args.at (now i)).Admits handle (fun _ _ => True)
      World.Moves turns := 
    Pool.Admits.mono handle (fun _ _ _ => trivial) (fun _ _ h => .inl h) hturns
  have hordered := ((Pool.safe_run (submits_compatible fun i => args.at (now i))
    (submitPool_safe svc w fun i => args.at (now i)) hturns').post_of_done
      (submits_compatible fun i => args.at (now i)) (r := .ok order) hreturned order rfl).2
  obtain ⟨s, o, hs, hstate, ho, href⟩ := hsettled.completed
  obtain rfl := ho.unique hordered
  exact ⟨s, hs, hstate, href⟩

end Schedules

section Fixture

open Fixture

def resubmitted : SubmitArgs := submission "submit:fixture:one" 20

/-- When they are submitted. -/
def submitTimes : Bool → Int := fun _ => 20

def resubmissions :
    Pool Channel (World FakeXBOSOrderClient) Exc CanonicalOrderProjection Bool :=
  submitPool {} reviewed fun i => resubmitted.at (submitTimes i)

/-- One call after the other. -/
def oneByOne : List (Turn Bool (World FakeXBOSOrderClient)) :=
  List.replicate 20 (.thread true) ++ List.replicate 20 (.thread false)

/-- One call has read the session in review; the other completes it; the first goes on. -/
def lateStart : List (Turn Bool (World FakeXBOSOrderClient)) :=
  List.replicate 7 (.thread true) ++ List.replicate 20 (.thread false) ++
    List.replicate 20 (.thread true)

/-- The state of the session. -/
def stateOf (w : World FakeXBOSOrderClient) : Option ChannelState :=
  (w.sessions.get sessionRef).map (·.state)

theorem submits_converge_oneByOne :
    ∃ s, (resubmissions.run handle oneByOne).state.sessions.get resubmitted.sessionRef = some s ∧
      s.state = .orderCreated ∧ s.orderRef = some firstOrder.orderRef := by
  have hreviewed : (∃ session, reviewed.sessions.get resubmitted.sessionRef = some session ∧
        session.state = .review) ∧
      reviewed.sessions.idempotentResult resubmitted.sessionRef resubmitted.resultKey = none := by
    decide +kernel
  obtain ⟨⟨session, hfound, hreview⟩, hkey⟩ := hreviewed
  have hrun : resubmissions.Admits handle LeavesCompleted (fun _ _ => False) oneByOne ∧
      (resubmissions.run handle oneByOne).threads true = .done firstOrder := by
    decide +kernel
  obtain ⟨hinternal, hreturned⟩ := hrun
  have hturns : resubmissions.Admits handle LeavesCompleted World.ChangesOutside oneByOne :=
    Pool.Admits.mono handle (fun _ _ h => h) (fun _ _ h => h.elim) hinternal
  have hreached : reviewed = run ({} : OrderDraftConfirmationService)
    (World.start {} (upstream 1 3000) lengthRefs) (intoReview ++ [prepare 1 3000 10]) := rfl
  unfold resubmissions at hturns hreturned ⊢
  exact submits_converge ({} : OrderDraftConfirmationService) (upstream 1 3000) lengthRefs
    (intoReview ++ [prepare 1 3000 10]) hreached resubmitted submitTimes hfound hreview hkey
    hturns hreturned

theorem lateStart_regresses :
    stateOf reviewed = some .review ∧ (resubmissions.run handle lateStart).Finished ∧
      (∃ order, (resubmissions.run handle lateStart).threads true = .done order) ∧
      (∃ order, (resubmissions.run handle lateStart).threads false = .done order) ∧
      stateOf (resubmissions.run handle lateStart).state = some .orderSubmitting := by
  decide +kernel

end Fixture

end XbosCustomerChannel
