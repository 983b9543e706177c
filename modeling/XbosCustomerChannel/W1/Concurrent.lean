import Mathlib.Algebra.BigOperators.Pi
import Mathlib.Algebra.Order.BigOperators.Group.Finset
import Mathlib.Algebra.Order.Group.Multiset
import XbosCustomerChannel.Effects.Path
import XbosCustomerChannel.W1.Replies
import XbosCustomerChannel.W1.Webhook

/-!
# Webhooks at once

Calls of `handle_webhook` with messages of one conversation, whose state is a register: to load and to
save are one step each, and so are to route and to send. A save writes the whole state back, so it
undoes what was saved since the message was loaded; where no save meets a line that its message has
not seen, every line whose 'Added' reply is sent stays in the cart.

What a call has done is read off the operations it has issued (`observe`).
-/

namespace XbosCustomerChannel

open Effects Effects.Program Data

/-! ## The cart of a conversation -/

/-- The lines of the cart, with their multiplicity. -/
def CatalogSession.lines (catalogSession : CatalogSession) : Multiset CartLine :=
  catalogSession.cart.lines

/-- The result leaves the cart, or says that it has added a line. -/
def W1ConversationResult.Extends (catalogSession : CatalogSession) (r : W1ConversationResult) : Prop :=
  r.catalogSession.lines = catalogSession.lines ∨
    ∃ line name, r.catalogSession.lines = catalogSession.lines + {line} ∧
      r.rendered.body = "Added " ++ name ++ ". What next?"

/-- The lines that a result adds to the cart it was routed with. -/
def W1ConversationResult.added (r : W1ConversationResult) (state : W1RuntimeConversationState) :
    Multiset CartLine :=
  r.catalogSession.lines - state.catalogSession.lines

theorem W1ConversationResult.Extends.lines {state : W1RuntimeConversationState}
    {r : W1ConversationResult} (h : r.Extends state.catalogSession) :
    r.catalogSession.lines = state.catalogSession.lines + r.added state := by
  unfold added
  rcases h with h | ⟨line, name, h, -⟩
  · rw [h, tsub_self, add_zero]
  · rw [h, add_tsub_cancel_left]

namespace W1ConversationRouter

variable (router : W1ConversationRouter) (catalogSession : CatalogSession)
  (navigation : W1NavigationCursor)

theorem sectionView_session (sectionRef : String) :
    (sectionView catalogSession sectionRef).catalogSession = catalogSession := by
  unfold sectionView
  split
  · rfl
  dsimp only
  split <;> rfl

theorem withCheckout_extends (result : W1CallOf W1CheckoutResult) :
    (router.withCheckout catalogSession navigation result).Yields
      (W1ConversationResult.Extends catalogSession) := by
  unfold withCheckout
  split
  · exact Yields.bind fun _ => .inl rfl
  · exact .inl rfl

/-- The router never removes a line, and where it adds one it says so. -/
theorem answer_extends (session : CustomerSessionSnapshot) (state : Option W1CheckoutState)
    (action : W1Action) : (router.answer session catalogSession navigation state action).Yields
      (W1ConversationResult.Extends catalogSession) := by
  cases action with
  | root => exact .inl rfl
  | help => exact .inl rfl
  | unknown => exact .inl rfl
  | «section» => exact .inl (congrArg _ (sectionView_session _ _))
  | cart => exact withCheckout_extends router _ _ _
  | checkout => exact withCheckout_extends router _ _ _
  | orderChange => exact withCheckout_extends router _ _ _
  | orderConfirm => exact withCheckout_extends router _ _ _
  | back =>
      left
      show (back catalogSession navigation).catalogSession.lines = _
      unfold back
      split
      · rw [sectionView_session]
      · rfl
  | item itemRef =>
      left
      show (itemView catalogSession itemRef).catalogSession.lines = _
      unfold itemView
      split <;> rfl
  | quantity value =>
      left
      show (quantityView catalogSession navigation value).catalogSession.lines = _
      unfold quantityView
      split
      · split <;> rfl
      · rfl
  -- the one action that adds
  | add =>
      show (add catalogSession navigation).Extends catalogSession
      rcases add_cases catalogSession navigation with h | ⟨item, line, -, hcatalog, -, hbody⟩
      · rw [h]
        exact .inl rfl
      · refine .inr ⟨line, _, ?_, hbody⟩
        rw [hcatalog]
        exact (Multiset.coe_add _ _).symm
  | service mode =>
      unfold answer
      dsimp only
      split
      · exact .inl rfl
      · exact withCheckout_extends router _ _ _
  | pay method =>
      unfold answer
      dsimp only
      split
      · exact .inl rfl
      · exact withCheckout_extends router _ _ _

end W1ConversationRouter

theorem W1RuntimeConversationState.route_extends [CaseFolding] (router : W1ConversationRouter)
    (state : W1RuntimeConversationState) (inbound : NormalizedInboundMessage) :
    (state.route router inbound).Yields (W1ConversationResult.Extends state.catalogSession) := by
  apply Yields.bind
  intro _
  exact W1ConversationRouter.answer_extends router _ _ _ _ _

/-! ## The register -/

/-- The state of one conversation, loaded and saved in one step. -/
structure ConversationRegister where
  state : W1RuntimeConversationState

instance : W1RuntimeStatePort ConversationRegister where
  load p _ := (.ok p.state, p)
  save _ _ state := (.ok (), ⟨state⟩)
  held p _ := some p.state
  held_load _ _ := rfl
  held_save _ _ _ _ := rfl
  held_save_error _ _ _ _ h := by cases h

def ConversationRegister.lines (p : ConversationRegister) : Multiset CartLine :=
  p.state.catalogSession.lines

/-! ## What a call has done -/

/-- The message in hand: routed and not yet saved, or saved and not yet answered. -/
inductive W1InHand
  | none
  | routed (state : W1RuntimeConversationState) (result : W1ConversationResult)
  | saved (state : W1RuntimeConversationState) (result : W1ConversationResult)

/-- The lines that are saved and may yet be acknowledged. -/
def W1InHand.pending : W1InHand → Multiset CartLine
  | .saved state result => result.added state
  | _ => 0

/-- The lines that the message was routed with. -/
def W1InHand.seen : W1InHand → Multiset CartLine
  | .routed state _ => state.catalogSession.lines
  | _ => 0

def WebhookOp.isSave : WebhookOp → Bool
  | .save _ _ => true
  | _ => false

/-- What is seen of a call: the message in hand, the lines it has saved, and those of them that it has
sent an 'Added' reply for. -/
structure Observed where
  inHand : W1InHand := .none
  saved : Multiset CartLine := 0
  acknowledged : Multiset CartLine := 0

namespace Webhook

variable {β ω : Type} [W1CheckoutDomainBoundary β] [MetaHttpClient ω] [CaseFolding]
  (router : W1ConversationRouter)

/-- What has been seen after one operation more. -/
def observe (o : Observed) : WebhookOp × W1RuntimeWorld ConversationRegister β ω → Observed
  | (.load _, _) => { o with inHand := .none }
  | (.route inbound state, w) =>
      match (routerCalls router (.route inbound state) w).1 with
      | .ok result => { o with inHand := .routed state result }
      | .error _ => { o with inHand := .none }
  | (.save _ _, _) =>
      match o.inHand with
      | .routed state result =>
          { o with inHand := .saved state result, saved := o.saved + result.added state }
      | _ => o
  | (.post _ payload, _) =>
      match o.inHand with
      | .saved state result =>
          if W1WhatsAppRuntime.payload result.rendered = .ok payload then
            { o with inHand := .none, acknowledged := o.acknowledged + result.added state }
          else { o with inHand := .none }
      | _ => o

def observed (T : List (WebhookOp × W1RuntimeWorld ConversationRegister β ω)) : Observed :=
  T.foldl (observe router) {}

theorem observed_concat (T : List (WebhookOp × W1RuntimeWorld ConversationRegister β ω))
    (e : WebhookOp × W1RuntimeWorld ConversationRegister β ω) :
    observed router (T ++ [e]) = observe router (observed router T) e :=
  List.foldl_concat _ _ _ _

/-- What is acknowledged, and what may yet be, has been saved. -/
theorem acknowledged_le (T : List (WebhookOp × W1RuntimeWorld ConversationRegister β ω)) :
    (observed router T).acknowledged + (observed router T).inHand.pending ≤ (observed router T).saved := by
  induction T using List.reverseRecOn with
  | nil => exact le_refl _
  | append_singleton T e ih =>
      rw [observed_concat]
      generalize observed router T = o at ih ⊢
      have hacknowledged : o.acknowledged ≤ o.saved := le_trans (Multiset.le_add_right _ _) ih
      obtain ⟨op, w⟩ := e
      cases op with
      | load inbound => simpa [observe, W1InHand.pending] using hacknowledged
      | route inbound state =>
          simp only [observe]
          split <;> simpa [W1InHand.pending] using hacknowledged
      | save inbound next =>
          simp only [observe]
          split
          · simpa [W1InHand.pending] using hacknowledged
          · exact ih
      | post recipient payload =>
          simp only [observe]
          split
          · next state result hsaved =>
            split
            · simpa [W1InHand.pending, hsaved] using ih
            · simpa [W1InHand.pending] using hacknowledged
          · exact ih

/-! ## What is saved -/

/-- What is saved is the next state of a message that has just been routed. -/
def SavesRouted (before : List (WebhookOp × W1RuntimeWorld ConversationRegister β ω))
    (e : WebhookOp × W1RuntimeWorld ConversationRegister β ω) : Prop :=
  ∀ inbound next, e.1 = .save inbound next → ∃ T state w result,
    before = T ++ [(.route inbound state, w)] ∧
      (routerCalls router (.route inbound state) w).1 = .ok result ∧ next = state.next result

variable {router}

theorem SavesRouted.append_left {before : List (WebhookOp × W1RuntimeWorld ConversationRegister β ω)}
    {e : WebhookOp × W1RuntimeWorld ConversationRegister β ω} (h : SavesRouted router before e)
    (T : List (WebhookOp × W1RuntimeWorld ConversationRegister β ω)) :
    SavesRouted router (T ++ before) e := by
  intro inbound next hop
  obtain ⟨T', state, w, result, rfl, hresult, hnext⟩ := h inbound next hop
  exact ⟨T ++ T', state, w, result, (List.append_assoc _ _ _).symm, hresult, hnext⟩

/-- Operations that save nothing. -/
theorem savesRouted_of_forall {T : List (WebhookOp × W1RuntimeWorld ConversationRegister β ω)}
    (h : ∀ e ∈ T, ∀ inbound next, e.1 ≠ .save inbound next) : History.Each (SavesRouted router) T := by
  rintro before e after rfl inbound next hop
  exact absurd hop (h e (by simp) inbound next)

omit [CaseFolding] in
theorem deliver_uses (recipient : UntrustedProviderUserRef) (payload : Except Exc MetaPayload) :
    (deliver recipient payload).Uses fun op : WebhookOp => ∀ inbound next, op ≠ .save inbound next := by
  apply Uses.bind (Uses.ofExcept _)
  intro payload
  apply Uses.bind
  · exact ⟨fun _ _ h => WebhookOp.noConfusion h, fun _ => trivial⟩
  · intro answer
    exact Uses.bind (Uses.ofExcept _) fun _ => Uses.ofExcept _

theorem deliver_savesRouted {recipient : UntrustedProviderUserRef} {payload : Except Exc MetaPayload}
    {T : List (WebhookOp × W1RuntimeWorld ConversationRegister β ω)}
    {q : WebhookCallOf ProviderOutboundMessage}
    (h : Effects.Path (routerCalls router) (deliver recipient payload) T q) :
    History.Each (SavesRouted router) T :=
  savesRouted_of_forall (h.uses (deliver_uses recipient payload))

theorem path_ask {α : Type} {op : WebhookOp} {f : op.Resp → WebhookCallOf α}
    {T : List (WebhookOp × W1RuntimeWorld ConversationRegister β ω)} {q : WebhookCallOf α}
    (h : Effects.Path (routerCalls router) (askWebhook op >>= f) T q) :
    T = [] ∨ ∃ w T', T = (op, w) :: T' ∧
      Effects.Path (routerCalls router) (f (routerCalls router op w).1) T' q := by
  cases h with
  | nil => exact .inl rfl
  | step h => exact .inr ⟨_, _, rfl, h⟩

theorem attempt_savesRouted {inbound : NormalizedInboundMessage}
    {T : List (WebhookOp × W1RuntimeWorld ConversationRegister β ω)}
    {q : WebhookCallOf ProviderOutboundMessage}
    (h : Effects.Path (routerCalls router) (attempt inbound) T q) : History.Each (SavesRouted router) T := by
  unfold attempt at h
  rcases path_ask h with rfl | ⟨w₁, T₁, rfl, h₁⟩
  · exact History.each_nil
  rcases h₁.of_ofExcept_bind with rfl | ⟨state, -, h₂⟩
  · exact savesRouted_of_forall (by simp)
  rcases path_ask h₂ with rfl | ⟨w₂, T₂, rfl, h₃⟩
  · exact savesRouted_of_forall (by simp)
  have hrouted : History.Each (SavesRouted router)
      ([(.load inbound, w₁), (.route inbound state, w₂)] : List (WebhookOp × W1RuntimeWorld _ β ω)) :=
    savesRouted_of_forall (by simp)
  rcases h₃.of_ofExcept_bind with rfl | ⟨result, hresult, h₄⟩
  · exact hrouted
  rcases path_ask h₄ with rfl | ⟨w₃, T₃, rfl, h₅⟩
  · exact hrouted
  have hsaved : History.Each (SavesRouted router)
      ([(.load inbound, w₁), (.route inbound state, w₂)] ++
        [((.save inbound (state.next result), w₃) : WebhookOp × W1RuntimeWorld _ β ω)]) := by
    refine History.each_concat.mpr ⟨hrouted, ?_⟩
    rintro _ _ ⟨⟩
    exact ⟨[(.load inbound, w₁)], state, w₂, result, rfl, hresult, rfl⟩
  rcases h₅.of_ofExcept_bind with rfl | ⟨_, -, h₆⟩
  · exact hsaved
  · exact History.each_append (fun T _ _ h => h.append_left T) hsaved (deliver_savesRouted h₆)

theorem handleMessage_savesRouted {inbound : NormalizedInboundMessage}
    {T : List (WebhookOp × W1RuntimeWorld ConversationRegister β ω)}
    {q : WebhookCallOf ProviderOutboundMessage}
    (h : Effects.Path (routerCalls router) (handleMessage inbound) T q) :
    History.Each (SavesRouted router) T := by
  rcases h.of_tryCatch with ⟨q', h⟩ | ⟨e, T₁, T₂, rfl, hattempt, hfallback⟩
  · exact attempt_savesRouted h
  · exact History.each_append (fun T _ _ h => h.append_left T) (attempt_savesRouted hattempt)
      (deliver_savesRouted hfallback)

/-- A call saves nothing but next states of messages that it has just routed. -/
theorem handleMessages_savesRouted {messages : List NormalizedInboundMessage}
    {T : List (WebhookOp × W1RuntimeWorld ConversationRegister β ω)}
    {q : WebhookCallOf (List ProviderOutboundMessage)}
    (h : Effects.Path (routerCalls router) (handleMessages messages) T q) :
    History.Each (SavesRouted router) T := by
  induction messages generalizing T q with
  | nil =>
      obtain ⟨rfl, -⟩ := h.of_done
      exact History.each_nil
  | cons inbound messages ih =>
      rw [handleMessages_cons] at h
      rcases h.of_bind with ⟨q', h⟩ | ⟨sent, T₁, T₂, rfl, hfirst, h⟩
      · exact handleMessage_savesRouted h
      apply History.each_append (fun T _ _ h => h.append_left T) (handleMessage_savesRouted hfirst)
      rcases h.of_bind with ⟨q', h⟩ | ⟨rest, T₃, T₄, rfl, hrest, h⟩
      · exact ih h
      · obtain ⟨rfl, -⟩ := h.of_done
        rw [List.append_nil]
        exact ih hrest

/-! ## Calls at once -/

section Calls

variable {ι : Type} [DecidableEq ι] (router)

/-- Calls of the webhook, each with its messages. -/
def webhooks (calls : ι → List NormalizedInboundMessage) (w : W1RuntimeWorld ConversationRegister β ω) :
    Pool WebhookPorts (W1RuntimeWorld ConversationRegister β ω) Exc (List ProviderOutboundMessage) ι :=
  ⟨w, fun i => handleMessages (calls i)⟩

/-- The calls after they have taken these turns. -/
def interleaved (calls : ι → List NormalizedInboundMessage)
    (w : W1RuntimeWorld ConversationRegister β ω) (turns : List ι) :
    Pool WebhookPorts (W1RuntimeWorld ConversationRegister β ω) Exc (List ProviderOutboundMessage) ι :=
  (webhooks calls w).run (routerCalls router) (turns.map .thread)

/-- What the calls issue in these turns. -/
def issuedAt (calls : ι → List NormalizedInboundMessage)
    (w : W1RuntimeWorld ConversationRegister β ω) (turns : List ι) :
    List (ι × WebhookOp × W1RuntimeWorld ConversationRegister β ω) :=
  (webhooks calls w).trace (routerCalls router) (turns.map .thread)

/-- What is seen of a call. -/
def observedOf (T : List (ι × WebhookOp × W1RuntimeWorld ConversationRegister β ω)) (i : ι) : Observed :=
  observed router (Pool.own (S := WebhookPorts) i T)

/-- A save finds no line held that its message was not routed with. -/
def SeesHeld (before : List (ι × WebhookOp × W1RuntimeWorld ConversationRegister β ω))
    (e : ι × WebhookOp × W1RuntimeWorld ConversationRegister β ω) : Prop :=
  e.2.1.isSave = true → e.2.2.port.lines ≤ (observedOf router before e.1).inHand.seen

instance decidableSeesHeld (before : List (ι × WebhookOp × W1RuntimeWorld ConversationRegister β ω))
    (e : ι × WebhookOp × W1RuntimeWorld ConversationRegister β ω) :
    Decidable (SeesHeld router before e) :=
  inferInstanceAs (Decidable (_ = true → _ ≤ _))

/-- One operation more of one call. -/
theorem observedOf_concat (T : List (ι × WebhookOp × W1RuntimeWorld ConversationRegister β ω)) (i : ι)
    (e : WebhookOp × W1RuntimeWorld ConversationRegister β ω) :
    observedOf router (T ++ [(i, e)]) =
      Function.update (observedOf router T) i (observe router (observedOf router T i) e) := by
  funext j
  unfold observedOf
  rw [Pool.own_append]
  by_cases h : j = i
  · subst h
    rw [Function.update_self, ← observed_concat]
    simp [Pool.own]
  · rw [Function.update_of_ne h]
    simp [Pool.own, Ne.symm h]

theorem issuedAt_concat (calls : ι → List NormalizedInboundMessage)
    (w : W1RuntimeWorld ConversationRegister β ω) (turns : List ι) (i : ι) :
    issuedAt router calls w (turns ++ [i]) =
      issuedAt router calls w turns ++ (interleaved router calls w turns).issues i := by
  unfold issuedAt
  rw [List.map_append]
  exact Pool.trace_concat _ _ _ _

theorem interleaved_concat (calls : ι → List NormalizedInboundMessage)
    (w : W1RuntimeWorld ConversationRegister β ω) (turns : List ι) (i : ι) :
    interleaved router calls w (turns ++ [i]) =
      (interleaved router calls w turns).step (routerCalls router) (.thread i) := by
  unfold interleaved
  rw [List.map_append]
  exact Pool.run_append _ _ _ _

variable {router}

/-- A save that a call makes is of a message that it has in hand. -/
theorem saves_inHand {calls : ι → List NormalizedInboundMessage}
    {w : W1RuntimeWorld ConversationRegister β ω} {turns : List ι} {i : ι}
    {inbound : NormalizedInboundMessage} {next : W1RuntimeConversationState}
    {k : Except Exc Unit → WebhookCallOf (List ProviderOutboundMessage)}
    (h : (interleaved router calls w turns).threads i = .call (.save inbound next) k) :
    ∃ state result, (observedOf router (issuedAt router calls w turns) i).inHand = .routed state result ∧
      next = state.next result ∧ result.Extends state.catalogSession := by
  have hpath := Pool.path_run (routerCalls router) (webhooks calls w) (turns.map .thread) i
  have hlonger := Effects.Path.concat (h ▸ hpath) (interleaved router calls w turns).state
  obtain ⟨-, hsaves⟩ := History.each_concat.mp (handleMessages_savesRouted hlonger)
  obtain ⟨T, state, w', result, hown, hresult, hnext⟩ := hsaves inbound next rfl
  refine ⟨state, result, ?_, hnext, ?_⟩
  · show (observed router (Pool.own (S := WebhookPorts) i (issuedAt router calls w turns))).inHand = _
    unfold issuedAt
    rw [hown, observed_concat]
    simp only [observe, hresult]
  · have hrouted : exec W1CheckoutDomainBoundary.handle (state.route router inbound) w'.boundary =
        (.ok result, _) := Prod.ext hresult rfl
    exact (state.route_extends router inbound).of_exec _ hrouted

/-- Where a turn adds to what is seen to be saved, it adds as much to what is held. -/
theorem observe_saved {calls : ι → List NormalizedInboundMessage}
    {w s : W1RuntimeWorld ConversationRegister β ω} {turns : List ι} {i : ι} {o : Observed}
    {op : WebhookOp} {k : op.Resp → WebhookCallOf (List ProviderOutboundMessage)}
    (hcall : (interleaved router calls w turns).threads i = .call op k)
    (ho : observedOf router (issuedAt router calls w turns) i = o)
    (hsees : op.isSave = true → s.port.lines ≤ o.inHand.seen) :
    ∃ added, (observe router o (op, s)).saved = o.saved + added ∧
      s.port.lines + added ≤ (routerCalls router op s).2.port.lines := by
  cases op with
  | load inbound => exact ⟨0, (add_zero _).symm, le_of_eq (add_zero _)⟩
  | route inbound state =>
      refine ⟨0, ?_, le_of_eq (add_zero _)⟩
      rw [add_zero]
      simp only [observe]
      split <;> rfl
  | post recipient payload =>
      refine ⟨0, ?_, le_of_eq (add_zero _)⟩
      rw [add_zero]
      simp only [observe]
      split
      · split <;> rfl
      · rfl
  | save inbound next =>
      obtain ⟨state, result, hinHand, rfl, hextends⟩ := saves_inHand hcall
      rw [ho] at hinHand
      have hseen : s.port.lines ≤ state.catalogSession.lines := by
        have hseen := hsees rfl
        rwa [hinHand] at hseen
      refine ⟨result.added state, ?_, ?_⟩
      · simp only [observe, hinHand]
      · show s.port.lines + result.added state ≤ result.catalogSession.lines
        rw [hextends.lines]
        exact add_le_add_left hseen _

omit [CaseFolding] [MetaHttpClient ω] [W1CheckoutDomainBoundary β] in
theorem sum_saved_update [Fintype ι] (f : ι → Observed) (i : ι) {o : Observed} {added : Multiset CartLine}
    (h : o.saved = (f i).saved + added) :
    ∑ j, (Function.update f i o j).saved = ∑ j, (f j).saved + added := by
  rw [← Finset.add_sum_erase _ _ (Finset.mem_univ i),
    ← Finset.add_sum_erase _ (fun j => (f j).saved) (Finset.mem_univ i), Function.update_self, h,
    add_right_comm]
  congr 2
  refine Finset.sum_congr rfl fun j hj => ?_
  rw [Function.update_of_ne (Finset.ne_of_mem_erase hj)]

/-- What the calls are seen to have saved is held. -/
theorem saved_le_held [Fintype ι] {calls : ι → List NormalizedInboundMessage}
    {w : W1RuntimeWorld ConversationRegister β ω} {turns : List ι}
    (h : History.Each (SeesHeld router) (issuedAt router calls w turns)) :
    ∑ i, (observedOf router (issuedAt router calls w turns) i).saved ≤
      (interleaved router calls w turns).state.port.lines := by
  induction turns using List.reverseRecOn with
  | nil =>
      have hnone : ∑ i : ι, (observedOf router (issuedAt router calls w []) i).saved = 0 :=
        Finset.sum_eq_zero fun i _ => rfl
      rw [hnone]
      exact Multiset.zero_le _
  | append_singleton turns i ih =>
      rw [issuedAt_concat] at h ⊢
      rw [interleaved_concat]
      by_cases hcall : ∃ op k, (interleaved router calls w turns).threads i = .call op k
      · obtain ⟨op, k, hi⟩ := hcall
        rw [Pool.issues_of_call hi] at h ⊢
        rw [Pool.step_thread_call _ hi]
        obtain ⟨hbefore, hsees⟩ := History.each_concat.mp h
        obtain ⟨added, hsaved, hheld⟩ := observe_saved hi rfl hsees
        rw [observedOf_concat, sum_saved_update _ i hsaved]
        exact le_trans (add_le_add_left (ih hbefore) added) hheld
      · have hnot : ∀ op k, (interleaved router calls w turns).threads i ≠ .call op k :=
          fun op k hi => hcall ⟨op, k, hi⟩
        rw [Pool.issues_of_not_call hnot, List.append_nil] at h ⊢
        rw [Pool.step_thread_of_not_call _ hnot]
        exact ih h

/-- In every interleaving in which no save meets a line that its message was not routed with, the cart
holds, with their multiplicity, the lines whose 'Added' replies have been sent. -/
theorem acknowledged_le_held [Fintype ι] (router : W1ConversationRouter)
    (calls : ι → List NormalizedInboundMessage) (w : W1RuntimeWorld ConversationRegister β ω)
    (turns : List ι) (h : History.Each (SeesHeld router) (issuedAt router calls w turns)) :
    ∑ i, (observedOf router (issuedAt router calls w turns) i).acknowledged ≤
      (interleaved router calls w turns).state.port.lines := by
  have hacknowledged (i : ι) : (observedOf router (issuedAt router calls w turns) i).acknowledged ≤
      (observedOf router (issuedAt router calls w turns) i).saved :=
    le_trans (Multiset.le_add_right _ _) (acknowledged_le router _)
  exact le_trans (Finset.sum_le_sum fun i _ => hacknowledged i) (saved_le_held h)

end Calls

end Webhook

/-! ## Two taps -/

namespace Fixture

open Webhook

/-- A customer who looks at an item, with nothing in the cart yet. -/
def looking : W1RuntimeWorld ConversationRegister RecordingBoundary ScriptedHttp :=
  ⟨⟨{ session := secureSession
      catalogSession := ⟨entry, catalog 1 3000, {}⟩
      navigation := { activeItemRef := some "item:fixture:one" } }⟩, {}, {}⟩

/-- Two calls, each with one tap on the button that adds the item. -/
def taps : Fin 2 → List NormalizedInboundMessage := fun _ => [tap "add"]

/-- One call after the other. -/
def inTurn : List (Fin 2) := [0, 0, 0, 0, 1, 1, 1, 1]

/-- Both messages are loaded before either is saved. -/
def race : List (Fin 2) := [0, 1, 0, 1, 0, 1, 0, 1]

theorem acknowledged_le_held_inTurn :
    ∑ i, (observedOf ⟨true⟩ (issuedAt ⟨true⟩ taps looking inTurn) i).acknowledged ≤
      (interleaved ⟨true⟩ taps looking inTurn).state.port.lines := by
  apply acknowledged_le_held
  show History.Each (SeesHeld ⟨true⟩) (issuedAt ⟨true⟩ taps looking inTurn)
  decide +kernel

/-- Two 'Added' replies, and one line. -/
theorem race_losesLine :
    (interleaved ⟨true⟩ taps looking race).Finished ∧
      ¬ ∑ i, (observedOf ⟨true⟩ (issuedAt ⟨true⟩ taps looking race) i).acknowledged ≤
        (interleaved ⟨true⟩ taps looking race).state.port.lines := by
  refine ⟨by decide +kernel, fun h => ?_⟩
  have hacknowledged : (∑ i, (observedOf ⟨true⟩ (issuedAt ⟨true⟩ taps looking race) i).acknowledged).card = 2 := by
    decide +kernel
  have hheld : (interleaved ⟨true⟩ taps looking race).state.port.lines.card = 1 := by decide +kernel
  have hle := Multiset.card_le_card h
  omega

end Fixture

end XbosCustomerChannel
