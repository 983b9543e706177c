import XbosCustomerChannel.Invariants

/-!
# What each call may issue

Of all the calls of a run only `prepare_confirmation` issues confirmation handles and only `submit`
goes to the order port with a request. The others `Interact`: with the session store, with evidence,
and by asking.
-/

namespace XbosCustomerChannel

open Effects Effects.Program

/-- Operations that neither issue nor claim a confirmation, nor act on the order port. -/
def ChannelOp.Interacts : ChannelOp → Prop
  | session _ => True
  | provenance (.issueEvidence _ _) => True
  | op => op.Reads

/-- Operations that have a confirmation prepared at the order port, and ask. -/
def ChannelOp.Drafts : ChannelOp → Prop
  | order (.prepareOrderConfirmation _ _ _) => True
  | op => op.Reads

/-- The operations of `prepare_confirmation`. -/
def ChannelOp.Prepares : ChannelOp → Prop
  | provenance (.issueConfirmation _ _) => True
  | op => op.Drafts

theorem ChannelOp.Reads.interacts {op : ChannelOp} (h : op.Reads) : op.Interacts := by
  cases op with
  | provenance op => cases op <;> trivial
  | session op => trivial
  | _ => exact h

theorem ChannelOp.Reads.drafts {op : ChannelOp} (h : op.Reads) : op.Drafts := by
  cases op with
  | order op => cases op <;> trivial
  | _ => exact h

theorem ChannelOp.Drafts.prepares {op : ChannelOp} (h : op.Drafts) : op.Prepares := by
  cases op with
  | provenance op => cases op <;> trivial
  | _ => exact h

theorem ChannelOp.Reads.prepares {op : ChannelOp} (h : op.Reads) : op.Prepares :=
  h.drafts.prepares

namespace CustomerSessionService

variable (svc : CustomerSessionService)

/-- The operations of the calls that store a session and rotate none: they read, and put. -/
def PutsOrReads : ChannelOp → Prop
  | .session (.put _ _) => True
  | .session (.putWithLegacyAlias _ _) => True
  | op => op.Reads

theorem putsOrReads_of_reads (op : Channel.Op) (h : ChannelOp.Reads op) : PutsOrReads op := by
  cases op with
  | session op => cases op <;> trivial
  | _ => exact h

theorem PutsOrReads.interacts {op : ChannelOp} (h : PutsOrReads op) : op.Interacts := by
  cases op with
  | session op => trivial
  | provenance op => exact ChannelOp.Reads.interacts h
  | _ => exact h

theorem uses_createSession (args : CreateSessionArgs) (actualRef : String) :
    (svc.createSession args actualRef).Uses PutsOrReads := by
  unfold createSession
  split
  · unfold createSecureSession
    refine Uses.bind (Uses.raiseIf _ _) fun _ => ?_
    split
    · refine Uses.bind (Uses.raiseIf _ _) fun _ => Uses.bind (Uses.raiseIf _ _) fun _ => ?_
      refine Uses.bind ((svc.uses_assertEntryContextCurrent _).mono putsOrReads_of_reads) ?_
      intro _
      refine Uses.bind ((svc.uses_bindingForEntryContext _ _ _ _).mono putsOrReads_of_reads) ?_
      intro binding
      exact Uses.bind (Uses.raiseIf _ _) fun _ => ⟨trivial, fun _ => trivial⟩
    · trivial
  · refine uses_ask_bind trivial fun created => Uses.bind (Uses.ofExcept _) fun stored => ?_
    split <;> trivial

theorem uses_attachInteractionRefs (ref : String) (cart quote : Option String) :
    (attachInteractionRefs ref cart quote).Uses PutsOrReads :=
  Uses.bind ((uses_required ref).mono putsOrReads_of_reads) fun _ => ⟨trivial, fun _ => trivial⟩

theorem uses_reenter (ref : String) : (reenter ref).Uses PutsOrReads := by
  refine uses_ask_bind trivial fun canonical => ?_
  refine Uses.bind ((uses_required ref).mono putsOrReads_of_reads) fun current => ?_
  split
  · trivial
  refine uses_ask_bind trivial fun answer => Uses.bind (Uses.ofExcept _) fun found => ?_
  cases found with
  | none => trivial
  | some p =>
      refine Uses.bind (Uses.ofExcept _) fun _ => Uses.bind (Uses.ofExcept _) fun state => ?_
      exact uses_ask_bind trivial fun _ => Uses.done _

theorem interacts_createSession (args : CreateSessionArgs) (actualRef : String) :
    (svc.createSession args actualRef).Uses ChannelOp.Interacts :=
  (svc.uses_createSession args actualRef).mono fun _ h => h.interacts

theorem interacts_resumeSession (args : ResumeSessionArgs) (newRef : String) :
    (svc.resumeSession args newRef).Uses ChannelOp.Interacts :=
  (svc.uses_resumeSession args newRef).mono fun op h => by
    cases op with
    | session op => trivial
    | provenance op => exact ChannelOp.Reads.interacts h
    | _ => exact h

theorem interacts_attachInteractionRefs (ref : String) (cart quote : Option String) :
    (attachInteractionRefs ref cart quote).Uses ChannelOp.Interacts :=
  (uses_attachInteractionRefs ref cart quote).mono fun _ h => h.interacts

theorem interacts_transition (args : TransitionArgs) :
    (svc.transition args).Uses ChannelOp.Interacts := by
  apply svc.uses_transition_of args
  · intro op h
    exact h.interacts
  · intro current changes
    trivial
  · intro ref key s
    trivial

theorem interacts_reenter (ref : String) : (reenter ref).Uses ChannelOp.Interacts :=
  (uses_reenter ref).mono fun _ h => h.interacts

end CustomerSessionService

/-- The calls on an order only ask. -/
theorem OrderCall.uses_program (call : OrderCall) (ref : String) :
    (call.program ref).Uses ChannelOp.Reads := by
  have hsession (refusal : ExcClass) :
      (requiredOrderSession refusal ref).Uses ChannelOp.Reads := by
    refine uses_ask_bind trivial fun found => ?_
    cases found with
    | none => trivial
    | some session => exact Uses.bind (Uses.raiseIf _ _) fun _ => Uses.done _
  cases call with
  | requestChange changeRef clientRef confirmed =>
      refine Uses.bind (Uses.bind (hsession _) fun session => ?_) fun _ => Uses.done _
      exact Uses.bind (Uses.raiseIf _ _) fun _ => uses_ask_bind trivial fun _ => Uses.ofExcept _
  | requestCancellation reasonRef clientRef confirmed =>
      refine Uses.bind (Uses.bind (hsession _) fun session => ?_) fun _ => Uses.done _
      exact Uses.bind (Uses.raiseIf _ _) fun _ => uses_ask_bind trivial fun _ => Uses.ofExcept _
  | paymentRequest =>
      refine Uses.bind (Uses.bind (hsession _) fun session => ?_) fun _ => Uses.done _
      refine uses_ask_bind trivial fun _ => Uses.bind (Uses.ofExcept _) fun _ => ?_
      exact Uses.bind (Uses.ofExcept _) fun _ => Uses.done _

namespace OrderDraftConfirmationService

variable (svc : OrderDraftConfirmationService)

theorem uses_draftConfirmation (args : PrepareConfirmationArgs)
    (session : CustomerSessionSnapshot) :
    (draftConfirmation args session).Uses ChannelOp.Drafts := by
  unfold draftConfirmation
  refine Uses.bind (Uses.ofExcept _) fun _ => Uses.bind (Uses.raiseIf _ _) fun _ => ?_
  refine Uses.bind (Uses.ofExcept _) fun tableRef => ?_
  refine Uses.bind (uses_ask_bind trivial fun _ => Uses.bind (Uses.ofExcept _) fun _ => ?_) ?_
  · exact Uses.bind (Uses.raiseIf _ _) fun _ => Uses.ofExcept _
  intro review
  refine Uses.bind (Uses.ofExcept _) fun quote => uses_ask_bind trivial fun _ => ?_
  refine Uses.bind (Uses.ofExcept _) fun context => uses_ask_bind trivial fun _ => ?_
  refine Uses.bind (Uses.ofExcept _) fun confirmation => Uses.bind (Uses.ofExcept _) fun _ => ?_
  exact Uses.done _

/-- `prepare_confirmation` reads the session and leaves it alone. -/
theorem uses_prepareConfirmation (args : PrepareConfirmationArgs) :
    (svc.prepareConfirmation args).Uses ChannelOp.Prepares := by
  refine Uses.bind ((svc.uses_requireActiveSecureSession _ _).mono fun _ h => h.prepares) ?_
  intro session
  refine Uses.bind ((uses_draftConfirmation args session).mono fun _ h => h.prepares) ?_
  intro confirmation
  exact uses_ask_bind trivial fun _ => Uses.ofExcept _

end OrderDraftConfirmationService

section Calls

variable {π : Type} [XBOSOrderPort π] [Hashlib] (svc : OrderDraftConfirmationService) (w : World π)

/-- What a call may issue, by its kind. -/
theorem ChannelCall.uses_cases (call : ChannelCall π) :
    (call.program svc w).Uses ChannelOp.Interacts ∨
    (∃ args, call = .prepareConfirmation args ∧ (call.program svc w).Uses ChannelOp.Prepares) ∨
    ∃ args, call = .submit args := by
  cases call with
  | submit args => exact .inr (.inr ⟨args, rfl⟩)
  | prepareConfirmation args =>
      exact .inr (.inl ⟨args, rfl, (svc.uses_prepareConfirmation args).bind fun _ => Uses.done _⟩)
  | createSession args =>
      exact .inl ((svc.sessions.interacts_createSession args _).bind fun _ => Uses.done _)
  | resumeSession args =>
      exact .inl ((svc.sessions.interacts_resumeSession args _).bind fun _ => Uses.done _)
  | validateActiveSession ref now =>
      exact .inl (((svc.sessions.uses_validateActiveSession ref now).mono
        fun _ h => h.interacts).bind fun _ => Uses.done _)
  | attachInteractionRefs ref cart quote =>
      exact .inl ((CustomerSessionService.interacts_attachInteractionRefs ref cart quote).bind
        fun _ => Uses.done _)
  | transition args =>
      exact .inl ((svc.sessions.interacts_transition args).bind fun _ => Uses.done _)
  | reenter ref =>
      exact .inl ((CustomerSessionService.interacts_reenter ref).bind fun _ => Uses.done _)
  | issueEvidence session p => exact .inl (uses_ask_bind trivial fun _ => Uses.done _)
  | orderCall ref call => exact .inl ((call.uses_program ref).mono fun _ h => h.interacts)
  | upstreamChanges upstream => exact .inl trivial
  | orderPortChanges event => exact .inl trivial

end Calls

end XbosCustomerChannel
