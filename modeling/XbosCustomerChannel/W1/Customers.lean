import Mathlib.Logic.Function.Basic
import XbosCustomerChannel.Effects.Isolation
import XbosCustomerChannel.W1.Endpoint

/-!
# Customers at one runtime

Calls of the webhook at once, each with messages of whatever customers. Behind the runtime every
sender has a state port of his own, every session a boundary and every recipient a client, all of them
arbitrary; what one customer comes to see is then what he sees in a run of his own messages.

Sessions are the state port's to hand out. That the runtime takes a session to the boundary for nobody
else rests on its saving each state with the session it was loaded with.
-/

namespace XbosCustomerChannel

open Effects Effects.Program Data

/-! ## The boundary operations of a message -/

/-- The session that the boundary is called with. -/
def W1CheckoutOp.session : W1CheckoutOp → CustomerSessionSnapshot
  | prepareOrderReview session _ _ => session
  | submitOrder session _ => session
  | paymentOptions session _ => session

/-- The boundary is called with this session. -/
def W1CheckoutOp.With (session : CustomerSessionSnapshot) (op : W1CheckoutOp) : Prop :=
  op.session = session

section Route

variable {session : CustomerSessionSnapshot}

namespace W1CheckoutUX

theorem uses_orFailure {α : Type} {A : W1CheckoutOp → Prop} {k : α → W1CallOf W1CheckoutResult}
    (answer : Except W1BoundaryFault α) (hk : ∀ a, (k a).Uses A) : (orFailure answer k).Uses A := by
  cases answer with
  | ok a => exact hk a
  | error fault => cases fault <;> trivial

theorem uses_selectServiceMode (catalogSession : CatalogSession) (mode : ServiceMode) :
    (selectServiceMode session catalogSession mode).Uses (W1CheckoutOp.With session) := by
  unfold selectServiceMode
  split
  · trivial
  · split
    · trivial
    · exact ⟨rfl, fun answer => uses_orFailure answer fun _ => trivial⟩

theorem uses_requestPayment (state : W1CheckoutState) (order : CanonicalOrderProjection) :
    (requestPayment session state order).Uses (W1CheckoutOp.With session) := by
  refine ⟨rfl, fun answer => ?_⟩
  apply uses_orFailure answer
  intro options
  unfold presentPayment
  split
  · trivial
  · exact Uses.bind (Uses.ofExcept _) fun _ => trivial

theorem uses_confirmOrder (state : Option W1CheckoutState) :
    (confirmOrder session state).Uses (W1CheckoutOp.With session) := by
  unfold confirmOrder
  cases state with
  | none => trivial
  | some state =>
      dsimp only
      split
      · trivial
      · exact ⟨rfl, fun answer => uses_orFailure answer (uses_requestPayment state)⟩

end W1CheckoutUX

namespace W1ConversationRouter

variable (router : W1ConversationRouter) (catalogSession : CatalogSession)
  (navigation : W1NavigationCursor)

theorem uses_withCheckout {A : W1CheckoutOp → Prop} {result : W1CallOf W1CheckoutResult}
    (h : result.Uses A) : (router.withCheckout catalogSession navigation result).Uses A := by
  unfold withCheckout
  split
  · exact Uses.bind h fun _ => trivial
  · trivial

/-- Whatever the action, the boundary is called with the session alone. -/
theorem uses_answer (checkoutState : Option W1CheckoutState) (action : W1Action) :
    (router.answer session catalogSession navigation checkoutState action).Uses
      (W1CheckoutOp.With session) := by
  cases action with
  | service mode =>
      unfold answer
      dsimp only
      split
      · trivial
      · exact uses_withCheckout router _ _ (W1CheckoutUX.uses_selectServiceMode _ _)
  | orderConfirm => exact uses_withCheckout router _ _ (W1CheckoutUX.uses_confirmOrder _)
  | pay method =>
      unfold answer
      dsimp only
      split
      · trivial
      · exact uses_withCheckout router _ _ trivial
  | cart => exact uses_withCheckout router _ _ trivial
  | checkout => exact uses_withCheckout router _ _ trivial
  | orderChange => exact uses_withCheckout router _ _ trivial
  | _ => trivial

end W1ConversationRouter

theorem W1RuntimeConversationState.uses_route [CaseFolding] (router : W1ConversationRouter)
    (state : W1RuntimeConversationState) (inbound : NormalizedInboundMessage) :
    (state.route router inbound).Uses (W1CheckoutOp.With state.session) :=
  Uses.bind (Uses.raiseIf _ _) fun _ => W1ConversationRouter.uses_answer router _ _ _ _

end Route

/-! ## Ports for each customer -/

section Ports

variable {σ β ω : Type}

open W1RuntimeStatePort (load save held held_load held_save held_save_error)

instance senderPorts [W1RuntimeStatePort σ] : W1RuntimeStatePort (UntrustedProviderUserRef → σ) where
  load ports inbound :=
    ((load (ports inbound.sender) inbound).1,
      Function.update ports inbound.sender (load (ports inbound.sender) inbound).2)
  save ports inbound state :=
    ((save (ports inbound.sender) inbound state).1,
      Function.update ports inbound.sender (save (ports inbound.sender) inbound state).2)
  held ports inbound := held (ports inbound.sender) inbound
  held_load ports inbound := by
    simp only [Function.update_self]
    exact held_load _ _
  held_save ports inbound state h := by
    simp only [Function.update_self]
    exact held_save _ _ _ h
  held_save_error ports inbound state e h := by
    simp only [Function.update_self]
    exact held_save_error _ _ _ e h

instance sessionBoundaries [W1CheckoutDomainBoundary β] : W1CheckoutDomainBoundary (String → β) where
  prepareOrderReview b session catalogSession mode :=
    let reviewed := W1CheckoutDomainBoundary.prepareOrderReview (b session.sessionRef) session
      catalogSession mode
    (reviewed.1, Function.update b session.sessionRef reviewed.2)
  submitOrder b session confirmation :=
    let submitted := W1CheckoutDomainBoundary.submitOrder (b session.sessionRef) session confirmation
    (submitted.1, Function.update b session.sessionRef submitted.2)
  paymentOptions b session order :=
    let offered := W1CheckoutDomainBoundary.paymentOptions (b session.sessionRef) session order
    (offered.1, Function.update b session.sessionRef offered.2)

instance recipientClients [MetaHttpClient ω] : MetaHttpClient (UntrustedProviderUserRef → ω) where
  post clients recipient payload :=
    ((MetaHttpClient.post (clients recipient) recipient payload).1,
      Function.update clients recipient (MetaHttpClient.post (clients recipient) recipient payload).2)

theorem handle_sessionBoundaries [W1CheckoutDomainBoundary β] (op : W1CheckoutOp) (b : String → β) :
    W1CheckoutDomainBoundary.handle op b =
      ((W1CheckoutDomainBoundary.handle op (b op.session.sessionRef)).1,
        Function.update b op.session.sessionRef
          (W1CheckoutDomainBoundary.handle op (b op.session.sessionRef)).2) := by
  cases op <;> rfl

end Ports

/-! ## Whose an operation is -/

section Ownership

variable (ownerOf : String → UntrustedProviderUserRef)

/-- The session is the customer's. -/
def CustomerSessionSnapshot.IsOf (session : CustomerSessionSnapshot)
    (customer : UntrustedProviderUserRef) : Prop := ownerOf session.sessionRef = customer

/-- The operation is one of the customer's. -/
def W1RuntimeOp.IsOf (customer : UntrustedProviderUserRef) : W1RuntimeOp → Prop
  | load inbound => inbound.sender = customer
  | save inbound state => inbound.sender = customer ∧ state.session.IsOf ownerOf customer
  | boundary op => op.session.IsOf ownerOf customer
  | post recipient _ => recipient = customer

/-- The operation is one of another customer's. -/
def W1RuntimeOp.OfOthers (customer : UntrustedProviderUserRef) (op : W1RuntimeOp) : Prop :=
  ∃ other, other ≠ customer ∧ op.IsOf ownerOf other

/-- A state is loaded with a session of the sender. -/
def W1RuntimeOp.AnsweredWith : (op : W1RuntimeOp) → op.Resp → Prop
  | load inbound, loaded => ∀ state : W1RuntimeConversationState,
      loaded = (.ok state : Except Exc W1RuntimeConversationState) →
        state.session.IsOf ownerOf inbound.sender
  | _, _ => True

namespace W1WhatsAppRuntime

theorem confined_deliver {customer : UntrustedProviderUserRef} (payload : Except Exc MetaPayload) :
    (deliver customer payload).Confined (W1RuntimeOp.IsOf ownerOf customer)
      (W1RuntimeOp.AnsweredWith ownerOf) := by
  unfold deliver
  apply Confined.ofExcept_bind
  intro payload _
  refine ⟨rfl, fun answer _ => ?_⟩
  apply Confined.of_uses
  apply Uses.bind (Uses.done answer)
  intro answer
  apply Uses.bind (Uses.ofExcept _)
  intro response
  exact Uses.ofExcept _

variable [CaseFolding] (router : W1ConversationRouter)

/-- A message has its sender's operations done and nobody else's. -/
theorem confined_handleMessage (inbound : NormalizedInboundMessage) :
    (handleMessage router inbound).Confined (W1RuntimeOp.IsOf ownerOf inbound.sender)
      (W1RuntimeOp.AnsweredWith ownerOf) := by
  unfold handleMessage
  apply Confined.tryCatch
  · refine ⟨rfl, fun loaded hloaded => ?_⟩
    apply Confined.ofExcept_bind
    intro state hstate
    have hsession : state.session.IsOf ownerOf inbound.sender := hloaded state hstate
    apply Confined.bind
    · apply Confined.of_uses
      apply Uses.embed (state.uses_route router inbound)
      intro op hop
      show op.session.IsOf ownerOf inbound.sender
      rwa [show op.session = state.session from hop]
    · intro result
      refine ⟨⟨rfl, hsession⟩, fun saved _ => ?_⟩
      apply Confined.ofExcept_bind
      intro _ _
      exact confined_deliver ownerOf _
  · intro e
    exact confined_deliver ownerOf _

end W1WhatsAppRuntime

end Ownership

/-! ## What a customer sees -/

section Views

variable {σ β ω : Type}

/-- A port for each sender, a boundary for each session, a client for each recipient. -/
abbrev CustomersWorld (σ β ω : Type) :=
  W1RuntimeWorld (UntrustedProviderUserRef → σ) (String → β) (UntrustedProviderUserRef → ω)

variable (ownerOf : String → UntrustedProviderUserRef)

/-- A port hands out sessions of its own customer alone, if it is given no others. -/
structure HandsOut [W1RuntimeStatePort σ] (owns : UntrustedProviderUserRef → σ → Prop) : Prop where
  session : ∀ p inbound state, owns inbound.sender p →
    (W1RuntimeStatePort.load p inbound).1 = .ok state → state.session.IsOf ownerOf inbound.sender
  load : ∀ p inbound, owns inbound.sender p →
    owns inbound.sender (W1RuntimeStatePort.load p inbound).2
  save : ∀ p inbound state, owns inbound.sender p → state.session.IsOf ownerOf inbound.sender →
    owns inbound.sender (W1RuntimeStatePort.save p inbound state).2

/-- The two worlds look the same to the customer. -/
structure CustomersWorld.AlikeTo (customer : UntrustedProviderUserRef) (w w' : CustomersWorld σ β ω) :
    Prop where
  port : w.port customer = w'.port customer
  boundary : ∀ ref, ownerOf ref = customer → w.boundary ref = w'.boundary ref
  client : w.client customer = w'.client customer

variable [W1RuntimeStatePort σ] [W1CheckoutDomainBoundary β] [MetaHttpClient ω] {ownerOf}
  {owns : UntrustedProviderUserRef → σ → Prop}

open W1RuntimeWorld (answer)

theorem HandsOut.answers (h : HandsOut ownerOf owns) {w : CustomersWorld σ β ω}
    (hw : ∀ customer, owns customer (w.port customer)) (op : W1RuntimeOp) :
    op.AnsweredWith ownerOf (answer op w).1 := by
  cases op with
  | load inbound =>
      intro state hstate
      exact h.session _ inbound state (hw inbound.sender) hstate
  | _ => trivial

theorem HandsOut.keeps (h : HandsOut ownerOf owns) {w : CustomersWorld σ β ω}
    (hw : ∀ customer, owns customer (w.port customer)) {op : W1RuntimeOp}
    {customer : UntrustedProviderUserRef} (hop : op.IsOf ownerOf customer) :
    ∀ other, owns other ((answer op w).2.port other) := by
  cases op with
  | load inbound =>
      apply (Function.forall_update_iff w.port owns).mpr
      exact ⟨h.load _ inbound (hw inbound.sender), fun other _ => hw other⟩
  | save inbound state =>
      obtain ⟨rfl, hsession⟩ := hop
      apply (Function.forall_update_iff w.port owns).mpr
      exact ⟨h.save _ inbound state (hw inbound.sender) hsession, fun other _ => hw other⟩
  | boundary op => exact hw
  | post recipient payload => exact hw

namespace CustomersWorld.AlikeTo

variable {customer : UntrustedProviderUserRef} {w w' : CustomersWorld σ β ω}

/-- The customer's own operations are answered from what he sees, and change it alike. -/
theorem mine (h : w.AlikeTo ownerOf customer w') {op : W1RuntimeOp}
    (hop : op.IsOf ownerOf customer) :
    (answer op w).1 = (answer op w').1 ∧ AlikeTo ownerOf customer (answer op w).2 (answer op w').2 := by
  cases op with
  | load inbound =>
      obtain rfl : inbound.sender = customer := hop
      simp only [answer, W1RuntimeStatePort.load, h.port, true_and]
      exact ⟨by simp, h.boundary, h.client⟩
  | save inbound state =>
      obtain ⟨rfl, -⟩ := hop
      simp only [answer, W1RuntimeStatePort.save, h.port, true_and]
      exact ⟨by simp, h.boundary, h.client⟩
  | boundary op =>
      have hsame := h.boundary op.session.sessionRef hop
      simp only [answer, handle_sessionBoundaries, hsame, true_and]
      refine ⟨h.port, fun ref href => ?_, h.client⟩
      by_cases heq : ref = op.session.sessionRef
      · subst heq
        simp
      · simpa [Function.update_of_ne heq] using h.boundary ref href
  | post recipient payload =>
      obtain rfl : recipient = customer := hop
      simp only [answer, MetaHttpClient.post, h.client, true_and]
      exact ⟨h.port, h.boundary, by simp⟩

/-- The others' operations change nothing that he sees. -/
theorem others (h : w.AlikeTo ownerOf customer w') {op : W1RuntimeOp}
    (hop : op.OfOthers ownerOf customer) : AlikeTo ownerOf customer (answer op w).2 w' := by
  obtain ⟨other, hne, hop⟩ := hop
  cases op with
  | load inbound =>
      obtain rfl : inbound.sender = other := hop
      exact ⟨(Function.update_of_ne hne.symm _ _).trans h.port, h.boundary, h.client⟩
  | save inbound state =>
      obtain ⟨rfl, -⟩ := hop
      exact ⟨(Function.update_of_ne hne.symm _ _).trans h.port, h.boundary, h.client⟩
  | boundary op =>
      simp only [answer, handle_sessionBoundaries]
      refine ⟨h.port, fun ref href => ?_, h.client⟩
      -- the session is another customer's, so it is not this one
      have hother : ref ≠ op.session.sessionRef := by
        rintro rfl
        exact hne (hop.symm.trans href)
      exact (Function.update_of_ne hother _ _).trans (h.boundary ref href)
  | post recipient payload =>
      obtain rfl : recipient = other := hop
      exact ⟨h.port, h.boundary, (Function.update_of_ne hne.symm _ _).trans h.client⟩

end CustomersWorld.AlikeTo

/-- The operations of one customer are hidden from the others. -/
theorem HandsOut.isolates (h : HandsOut ownerOf owns) (customer : UntrustedProviderUserRef) :
    Isolates (answer (σ := UntrustedProviderUserRef → σ) (β := String → β)
        (ω := UntrustedProviderUserRef → ω))
      (W1RuntimeOp.IsOf ownerOf customer) (W1RuntimeOp.OfOthers ownerOf customer)
      (W1RuntimeOp.AnsweredWith ownerOf) (fun w => ∀ other, owns other (w.port other))
      (CustomersWorld.AlikeTo ownerOf customer) where
  answers op w hw := h.answers hw op
  keeps op w hop hw := by
    rcases hop with hmine | ⟨other, -, hother⟩
    · exact h.keeps hw hmine
    · exact h.keeps hw hother
  same op w w' hop hR := hR.mine hop
  hidden op w w' hop hR := hR.others hop

end Views

/-! ## Callbacks at once -/

section Callbacks

variable [CaseFolding] (router : W1ConversationRouter) (customer : UntrustedProviderUserRef)

/-- The messages of the customer. -/
def messagesOf (messages : List NormalizedInboundMessage) : List NormalizedInboundMessage :=
  messages.filter fun inbound => inbound.sender = customer

/-- Of the replies to the messages, those to the customer's. -/
def repliesTo (messages : List NormalizedInboundMessage) (sents : List ProviderOutboundMessage) :
    List ProviderOutboundMessage :=
  ((messages.zip sents).filter fun replied => replied.1.sender = customer).map Prod.snd

namespace W1WhatsAppRuntime

/-- A callback does for the customer what a callback with nothing but his messages does, as long as it
goes on. -/
theorem shadows_handleMessages (ownerOf : String → UntrustedProviderUserRef)
    (messages : List NormalizedInboundMessage) :
    Shadows (W1RuntimeOp.IsOf ownerOf customer) (W1RuntimeOp.OfOthers ownerOf customer)
      (W1RuntimeOp.AnsweredWith ownerOf)
      (fun sents own => own = repliesTo customer messages sents)
      (handleMessages router messages) (handleMessages router (messagesOf customer messages)) := by
  induction messages with
  | nil => exact .done rfl
  | cons inbound messages ih =>
      have hconfined := confined_handleMessage ownerOf router inbound
      unfold messagesOf
      by_cases hsender : inbound.sender = customer
      · rw [List.filter_cons_of_pos (by simpa using hsender)]
        unfold handleMessages
        rw [hsender] at hconfined
        apply Shadows.bind (Shadows.of_mine hconfined)
        rintro sent _ rfl
        apply Shadows.bind ih
        rintro rest own rfl
        exact .done (by simp [repliesTo, hsender])
      · rw [List.filter_cons_of_neg (by simpa using hsender)]
        rw [handleMessages]
        apply Shadows.bind_of_others (hconfined.mono fun op hop => ⟨_, hsender, hop⟩)
        intro sent
        apply Shadows.map_left ih
        rintro rest own rfl
        simp [repliesTo, hsender]

variable [Hmac] [IntLimit] (loads : String → Option JsonValue) (config : MetaWhatsAppConfig)

omit [CaseFolding] in
/-- The messages that a call of the webhook is to handle. -/
def messagesIn (request : WebhookRequest) : List NormalizedInboundMessage :=
  match MetaWhatsAppInboundAdapter.received loads config request.rawBody request.signature with
  | .ok callback => callback.messages
  | .error _ => []

theorem shadows_handleWebhook (ownerOf : String → UntrustedProviderUserRef)
    (request : WebhookRequest) :
    Shadows (W1RuntimeOp.IsOf ownerOf customer) (W1RuntimeOp.OfOthers ownerOf customer)
      (W1RuntimeOp.AnsweredWith ownerOf)
      (fun sents own => own = repliesTo customer (messagesIn loads config request) sents)
      (handleWebhook loads config router request)
      (handleMessages router (messagesOf customer (messagesIn loads config request))) := by
  by_cases haccepted : Accepted loads config request
  · obtain ⟨callback, hreceived⟩ := accepted_iff.mp haccepted
    have hmessages : messagesIn loads config request = callback.messages := by
      unfold messagesIn
      rw [hreceived]
    rw [handleWebhook_of_accepted hreceived, hmessages]
    exact shadows_handleMessages router customer ownerOf callback.messages
  · obtain ⟨e, -, hraise⟩ := handleWebhook_of_not_accepted router haccepted
    rw [hraise]
    exact .raise e _

variable {σ β ω ι : Type} [DecidableEq ι] [W1RuntimeStatePort σ] [W1CheckoutDomainBoundary β]
  [MetaHttpClient ω]

/-- The calls of the webhook with nothing but the customer's messages. -/
def webhooksOf (w : CustomersWorld σ β ω) (requests : ι → WebhookRequest) :
    Pool W1RuntimePorts (CustomersWorld σ β ω) Exc (List ProviderOutboundMessage) ι where
  state := w
  threads i := handleMessages router (messagesOf customer (messagesIn loads config (requests i)))

end W1WhatsAppRuntime

end Callbacks

section Fixture

open Fixture

def secondPhone : UntrustedProviderUserRef := ⟨"raw-phone:2", by decide⟩

/-- A session is named after its customer. -/
def namedAfter (sessionRef : String) : UntrustedProviderUserRef :=
  if h : sessionRef = "" then secondPhone else ⟨sessionRef, h⟩

theorem namedAfter_value (customer : UntrustedProviderUserRef) :
    namedAfter customer.value = customer := by
  unfold namedAfter
  rw [dif_neg customer.given]

theorem stateStore_handsOut : HandsOut namedAfter
    fun customer (p : StateStore) => p.state.session.IsOf namedAfter customer where
  session p inbound state howns hstate := by
    obtain rfl : p.state = state := Except.ok.inj hstate
    exact howns
  load p inbound howns := howns
  save p inbound state _ hsession := hsession

/-- Every customer has a session and the cart of the fixture. -/
def customersWorld : CustomersWorld StateStore RecordingBoundary ScriptedHttp where
  port customer :=
    ⟨{ session := { secureSession with sessionRef := customer.value }
       catalogSession := catalogWithCart }⟩
  boundary _ := {}
  client _ := {}

/-- A callback with texts, each with its sender. -/
def textCallback (texts : List (String × String)) : JsonValue :=
  .obj [("object", .str "whatsapp_business_account"), ("entry", .arr [.obj [("changes", .arr [.obj
    [("field", .str "messages"), ("value", .obj [
      ("metadata", .obj [("phone_number_id", .str "phone-id")]),
      ("messages", .arr (texts.map fun (sender, text) =>
        .obj [("id", .str ("wamid." ++ text)), ("from", .str sender), ("timestamp", .str "1"),
          ("type", .str "text"), ("text", .obj [("body", .str text)])]))])]])]])]

/-- The first of the two bodies has messages of both customers. -/
def mixedLoads (text : String) : Option JsonValue :=
  if text = "" then
    some (textCallback [("raw-phone", "Menu"), ("raw-phone:2", "Cart"), ("raw-phone", "Cart")])
  else some (textCallback [("raw-phone:2", "Menu")])

local instance callbackHmac : Hmac := ⟨fun _ _ => []⟩

local instance callbackLimit : IntLimit := ⟨4300⟩

def mixedRequests (first : Bool) : WebhookRequest :=
  let rawBody := if first then [] else [32]
  ⟨rawBody, some (MetaWhatsAppInboundAdapter.signatureOf MetaWhatsAppInboundAdapter.secretConfig rawBody)⟩

/-- The calls take turns. -/
def alternating : List (Turn Bool (CustomersWorld StateStore RecordingBoundary ScriptedHttp)) :=
  (List.replicate 9 [.thread true, .thread false]).flatten

end Fixture

end XbosCustomerChannel
