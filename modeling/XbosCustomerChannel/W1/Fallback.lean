import XbosCustomerChannel.W1.Fixture

/-!
# What is held after the fallback

The `try` block of `handle_webhook` saves before it sends. A failure before the save leaves what the
state port holds; a failure after it, of the outbound validation or of the provider, is answered with
the same text, and by then the next state is held.
-/

namespace XbosCustomerChannel

open Effects Data

namespace W1RuntimeWorld

open W1RuntimeStatePort (held)
open W1WhatsAppRuntime

variable {σ β ω : Type} [W1RuntimeStatePort σ] [W1CheckoutDomainBoundary β] [MetaHttpClient ω]
  [CaseFolding] (router : W1ConversationRouter)

/-! ## One message -/

/-- The message is answered by the fallback. -/
def FallsBack (w : W1RuntimeWorld σ β ω) (inbound : NormalizedInboundMessage) : Prop :=
  ∃ e, (exec answer (attempt router inbound) w).1 = .error e

/-- If the message is answered by the fallback, what is held for it is as before. -/
def FallbackKeeps (w : W1RuntimeWorld σ β ω) (inbound : NormalizedInboundMessage) : Prop :=
  FallsBack router w inbound →
    held (exec answer (handleMessage router inbound) w).2.port inbound = held w.port inbound

/-- A next state other than the one held is saved for the message, and then the reply is rejected:
by the outbound validation, by the client, or by what the provider answers. -/
def SavesUndelivered (w : W1RuntimeWorld σ β ω) (inbound : NormalizedInboundMessage) : Prop :=
  ∃ state result w', Saves w router inbound state result w' ∧
    held w.port inbound ≠ some (state.next result) ∧
    ∃ e, delivered w.client inbound.sender (payload result.rendered) = .error e

variable {router} {w : W1RuntimeWorld σ β ω} {inbound : NormalizedInboundMessage}

/-- The fallback itself leaves the state port alone. -/
theorem port_handleMessage {e : Exc} {w' : W1RuntimeWorld σ β ω}
    (h : exec answer (attempt router inbound) w = (.error e, w')) :
    (exec answer (handleMessage router inbound) w).2.port = w'.port := by
  unfold handleMessage
  rw [exec_tryCatch, h]
  obtain ⟨client, hdeliver⟩ := exec_deliver w' inbound.sender
    (MetaWhatsAppOutboundAdapter.textPayload
      ("We could not continue this request safely. " ++ "Please reply Menu or Help."))
  show (exec answer (fallback inbound) w').2.port = w'.port
  unfold fallback
  rw [hdeliver]

section Saved

variable {state : W1RuntimeConversationState} {result : W1ConversationResult}
  {w' : W1RuntimeWorld σ β ω}

/-- What becomes of a message that has been saved is what becomes of its reply. -/
theorem Saves.exec_attempt_delivered (h : Saves w router inbound state result w') :
    ∃ client, exec answer (attempt router inbound) w =
      (delivered w.client inbound.sender (payload result.rendered), { w' with client := client }) := by
  obtain ⟨client, hdeliver⟩ := exec_deliver w' inbound.sender (payload result.rendered)
  refine ⟨client, ?_⟩
  rw [h.exec_attempt, ← h.client]
  exact hdeliver

/-- After the fallback for a message that has been saved, what was saved is held. -/
theorem Saves.held_of_undelivered (h : Saves w router inbound state result w') {e : Exc}
    (hsend : delivered w.client inbound.sender (payload result.rendered) = .error e) :
    held (exec answer (handleMessage router inbound) w).2.port inbound =
      some (state.next result) := by
  obtain ⟨client, hattempt⟩ := h.exec_attempt_delivered
  rw [hsend] at hattempt
  rw [port_handleMessage hattempt]
  exact h.holds

end Saved

/-- The fallback keeps what is held exactly if the message does not save what it cannot deliver. -/
theorem fallbackKeeps_iff : FallbackKeeps router w inbound ↔ ¬ SavesUndelivered router w inbound := by
  constructor
  · rintro hkeeps ⟨state, result, w', hsaves, hother, e, hsend⟩
    obtain ⟨client, hattempt⟩ := hsaves.exec_attempt_delivered
    have hfalls : FallsBack router w inbound := ⟨e, by rw [hattempt, hsend]⟩
    exact hother ((hkeeps hfalls).symm.trans (hsaves.held_of_undelivered hsend))
  · rintro hnot ⟨e, he⟩
    by_cases hsaved : ∃ state result w', Saves w router inbound state result w'
    · obtain ⟨state, result, w', hsaves⟩ := hsaved
      obtain ⟨client, hattempt⟩ := hsaves.exec_attempt_delivered
      have hsend : delivered w.client inbound.sender (payload result.rendered) = .error e := by
        rwa [hattempt] at he
      rw [hsaves.held_of_undelivered hsend]
      by_contra hother
      exact hnot ⟨state, result, w', hsaves, fun heq => hother heq.symm, e, hsend⟩
    · -- nothing was saved, so the block stopped at a step that leaves what is held
      obtain ⟨e, w', hattempt, hheld⟩ := exec_attempt_of_not_saves
        fun state result w' hsaves => hsaved ⟨state, result, w', hsaves⟩
      rw [port_handleMessage hattempt, hheld]

/-! ## Callbacks -/

variable (router)

/-- Every message of a callback that is reached, all those before it having been answered, meets `P`
in the world that they leave. -/
def EachReached (P : W1RuntimeWorld σ β ω → NormalizedInboundMessage → Prop)
    (w : W1RuntimeWorld σ β ω) (messages : List NormalizedInboundMessage) : Prop :=
  ∀ before inbound after sents w', messages = before ++ inbound :: after →
    exec answer (handleMessages router before) w = (.ok sents, w') → P w' inbound

/-- The first message is always reached; the others are unless its fallback raises. -/
theorem eachReached_cons {P : W1RuntimeWorld σ β ω → NormalizedInboundMessage → Prop}
    {messages : List NormalizedInboundMessage} :
    EachReached router P w (inbound :: messages) ↔ P w inbound ∧
      ∀ sent w', exec answer (handleMessage router inbound) w = (.ok sent, w') →
        EachReached router P w' messages := by
  constructor
  · intro h
    refine ⟨h [] inbound messages [] w rfl rfl, ?_⟩
    rintro sent w' hfirst before inbound' after sents w'' rfl hbefore
    refine h (inbound :: before) inbound' after (sent :: sents) w'' rfl ?_
    exact exec_handleMessages_cons.mpr ⟨sent, w', sents, hfirst, hbefore, rfl⟩
  · rintro ⟨hfirst, hrest⟩ before inbound' after sents w'' heq hbefore
    cases before with
    | nil =>
        obtain ⟨rfl, -⟩ := List.cons.inj heq
        cases hbefore
        exact hfirst
    | cons inbound before =>
        obtain ⟨rfl, hmessages⟩ := List.cons.inj heq
        obtain ⟨sent, w', rest, hsent, hbefore, -⟩ := exec_handleMessages_cons.mp hbefore
        exact hrest sent w' hsent before inbound' after rest w'' hmessages hbefore

/-- In a callback the fallback means that nothing changed, exactly if no message of it saves what it
cannot deliver. -/
theorem fallback_keepsHeld_iff (w : W1RuntimeWorld σ β ω) (messages : List NormalizedInboundMessage) :
    EachReached router (FallbackKeeps router) w messages ↔
      EachReached router (fun w inbound => ¬ SavesUndelivered router w inbound) w messages := by
  unfold EachReached
  simp only [fallbackKeeps_iff]

end W1RuntimeWorld

/-! ## A review that is not delivered -/

section Undelivered

open Fixture W1RuntimeWorld W1WhatsAppRuntime

/-- Nothing has been reviewed, and the provider rejects the first thing it is sent. -/
def undelivered : W1RuntimeWorld StateStore RecordingBoundary ScriptedHttp :=
  ⟨⟨{ session := secureSession, catalogSession := catalogWithCart }⟩, {}, ⟨[500]⟩⟩

/-- The customer is told that the request could not be continued; the review can be confirmed. -/
theorem undelivered_isHeld :
    ¬ EachReached ⟨true⟩ (FallbackKeeps ⟨true⟩) undelivered [tap "service:takeaway"] := by
  intro hall
  have hkeeps := ((eachReached_cons ⟨true⟩).mp hall).1
  have hfalls : FallsBack ⟨true⟩ undelivered (tap "service:takeaway") :=
    ⟨MetaWhatsAppOutboundAdapter.metaProviderError .metaProviderError .transient 500, by decide +kernel⟩
  have hbefore : (W1RuntimeStatePort.held undelivered.port (tap "service:takeaway")).bind (·.checkout) =
      none := by decide +kernel
  rw [← hkeeps hfalls] at hbefore
  revert hbefore
  decide +kernel

end Undelivered

end XbosCustomerChannel
