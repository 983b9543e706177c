import XbosCustomerChannel.Catalog.FakeClient
import XbosCustomerChannel.Order.SubmitLockstep

/-!
# Whether customers disturb each other's checkout

The confirmation the fixture prepares is named after the version of the quote, the service mode and
the service context, and after no customer. Two customers who take away at one location share it:
preparing replaces the other's confirmation, and an order for it uses it up for both. Apart from that
a customer's calls go as if there were nobody else (`observed_of_undisturbed`).
-/

namespace XbosCustomerChannel

open Effects Effects.Program Data OrderDraftConfirmationService FakeXBOSOrderClient World

/-! ## One call -/

section Call

variable [Hashlib] (svc : OrderDraftConfirmationService) {key : String} {own : List String}
  {w w' : World FakeXBOSOrderClient}

omit [Hashlib] in
/-- A token that is new is the one the handle is drawn with. -/
theorem World.newConfirmationHandle_drawing {token : String}
    (hnew : "confirmation_handle_" ++ token ∉ w.provenance.confirmations.keys) :
    (w.drawing token).provenance.newConfirmationHandle (w.drawing token).refs =
      "confirmation_handle_" ++ token := by
  show "confirmation_handle_" ++
    (if "confirmation_handle_" ++ token ∈ w.provenance.confirmations.keys then
      w.refs.token "confirmation_handle_" w.provenance.confirmations.keys
    else token) = _
  rw [if_neg hnew]

/-- `submit` issues no confirmation at the port. -/
theorem submit_issuedConfirmations (hk : w.Keyed) (args : SubmitArgs) :
    (exec handle (svc.submit args) w).2.orders.issuedConfirmations =
      w.orders.issuedConfirmations := by
  rcases svc.submit_orders hk args with ⟨session, record, -, -, horders⟩ | ⟨-, hsame⟩
  · rw [horders]
    rfl
  · exact hsame.confirmations

/-- A call of the customer's, undisturbed, goes as it does in the customer's own world. -/
theorem World.Alike.own_step (h : w.Alike key own w') {call : CheckoutCall} (hmine : call.On w key)
    (hclient : ∀ c ∈ call.clientSubmitRef, c ∈ own) (hdrawn : call.Drawn w)
    (hcall : call.Undisturbed svc key own w) :
    call.outcome svc w = call.outcome svc w' ∧
      ((checkout svc).step w call).Alike key own ((checkout svc).step w' call) := by
  cases call with
  | prepareConfirmation args token =>
      -- a token that is new among all handles is new among the customer's
      have hdrawn' : "confirmation_handle_" ++ token ∉ w'.provenance.confirmations.keys := by
        rw [← Dict.get?_eq_none_iff]
        have hnew : w.provenance.resolveConfirmation ("confirmation_handle_" ++ token) = none :=
          Dict.get?_eq_none_iff.mpr hdrawn
        have halone := h.records ("confirmation_handle_" ++ token)
        rw [hnew] at halone
        exact halone
      have hhandle := (newConfirmationHandle_drawing hdrawn').trans
        (newConfirmationHandle_drawing hdrawn).symm
      unfold CheckoutCall.outcome checkout CheckoutCall.program CheckoutCall.start
      simp only [exec_void_state]
      rcases ((h.drawing token).own_prepareConfirmation svc hmine hhandle).cases with
        ⟨p, _, t, t', hexec, hexec', rfl, hafter⟩ | ⟨e, e', t, t', hexec, hexec', hsame, hafter⟩
      · rw [hexec, hexec']
        exact ⟨rfl, hafter⟩
      · rw [hexec, hexec']
        exact ⟨congrArg CheckoutOutcome.raised hsame, hafter⟩
  | submit args =>
      have hunclaimed := hcall.unclaimed hmine
      unfold CheckoutCall.operations CheckoutCall.program at hunclaimed
      rw [issued_void] at hunclaimed
      -- the terms are read after the call, which leaves the confirmations as they are
      have hissued := submit_issuedConfirmations svc h.keyed args
      have hissued' := submit_issuedConfirmations svc h.keyed' args
      unfold CheckoutCall.outcome checkout CheckoutCall.program CheckoutCall.start
      simp only [exec_void_state]
      rcases (h.own_submit svc hmine (hclient _ rfl) hunclaimed).cases with
        ⟨o, o', t, t', hexec, hexec', hunnamed, hterms, hafter⟩ |
        ⟨e, e', t, t', hexec, hexec', hsame, hafter⟩
      · rw [hexec, hexec']
        rw [hexec] at hissued
        rw [hexec'] at hissued'
        have href : o'.unnamed.confirmationRef = o.unnamed.confirmationRef := by rw [hunnamed]
        change o'.confirmationRef = o.confirmationRef at href
        refine ⟨?_, hafter⟩
        dsimp only
        rw [hunnamed, href]
        unfold FakeXBOSOrderClient.resolveOrderConfirmation at hterms ⊢
        rw [hissued, hissued', hterms]
      · rw [hexec, hexec']
        exact ⟨congrArg CheckoutOutcome.raised hsame, hafter⟩

end Call

/-! ## Runs -/

section Runs

variable [Hashlib] (svc : OrderDraftConfirmationService)

/-- The operation makes no alias. -/
def ChannelOp.KeepsAliases (op : ChannelOp) : Prop :=
  ∀ session legacyAlias, op ≠ .session (.putWithLegacyAlias session legacyAlias)

omit [Hashlib] in
theorem ChannelOp.Internal.keepsAliases {op : ChannelOp} (h : op.Internal) : op.KeepsAliases := by
  rintro session legacyAlias rfl
  exact h

omit [Hashlib] in
theorem ChannelOp.Prepares.keepsAliases {op : ChannelOp} (h : op.Prepares) : op.KeepsAliases := by
  rintro session legacyAlias rfl
  exact h

theorem handle_aliases (op : Channel.Op) (w : World FakeXBOSOrderClient)
    (h : ChannelOp.KeepsAliases op) : (handle op w).2.sessions.aliases = w.sessions.aliases := by
  cases op with
  | session op =>
      cases op with
      | putWithLegacyAlias session legacyAlias => exact absurd rfl (h session legacyAlias)
      | rotateIfActive ref owner now replacement =>
          rcases w.sessions.rotateIfActive_cases ref owner now replacement with
            ⟨r, hrotate, -⟩ | ⟨current, -, -, -, -, -, hrotate⟩
          · show (w.sessions.rotateIfActive ref owner now replacement).2.aliases = _
            rw [hrotate]
          · show (w.sessions.rotateIfActive ref owner now replacement).2.aliases = _
            rw [hrotate]
      | _ => rfl
  | _ => rfl

theorem checkout_aliases (w : World FakeXBOSOrderClient) (call : CheckoutCall) :
    ((checkout svc).step w call).sessions.aliases = w.sessions.aliases := by
  have hkeeps {p : Service Unit} (hp : p.Uses ChannelOp.KeepsAliases)
      (w : World FakeXBOSOrderClient) :
      (exec handle p w).2.sessions.aliases = w.sessions.aliases :=
    exec_preserves handle (R := fun w w' => w'.sessions.aliases = w.sessions.aliases)
      (fun _ => rfl) (fun _ _ _ h₁ h₂ => h₂.trans h₁) handle_aliases hp w
  cases call with
  | prepareConfirmation args token =>
      refine hkeeps (Uses.bind ?_ fun _ => Uses.done _) (w.drawing token)
      exact (svc.uses_prepareConfirmation args).mono fun _ h => h.keepsAliases
  | submit args =>
      refine hkeeps (Uses.bind ?_ fun _ => Uses.done _) w
      apply svc.uses_submit_of (fun _ h => h.keepsAliases)
      rintro request session legacyAlias ⟨⟩

/-- Calls of two customers of different owners, with their own client references, at a port that has
given neither of them anything yet. -/
structure TwoCustomers (w : World FakeXBOSOrderClient) (a b : String) (calls : List CheckoutCall) :
    Prop where
  keyed : w.Keyed
  sessions : ∃ A B, w.sessions.sessions.get? a = some A ∧ w.sessions.sessions.get? b = some B ∧
    A.securityBindingComplete = true ∧ B.securityBindingComplete = true ∧
    A.ownerIdentityRef ≠ B.ownerIdentityRef ∧ ∀ n, A.orderRef ≠ some (orderRefOf n)
  orders : w.orders = {}
  handles : w.provenance.confirmations = ∅
  theirs : ∀ call ∈ calls, call.On w a ∨ call.On w b
  clients : (CheckoutCall.clientSubmitRefs (calls.filter (CheckoutCall.On w a))).Disjoint
    (CheckoutCall.clientSubmitRefs (calls.filter (CheckoutCall.On w b)))
  drawn : (checkout svc).Throughout (fun w call => call.Drawn w) w calls

variable {svc} {w : World FakeXBOSOrderClient} {a b : String} {calls : List CheckoutCall}

/-- Before the first call there is one world. -/
theorem TwoCustomers.alike (h : TwoCustomers svc w a b calls) (own : List String) :
    w.Alike a own w := by
  obtain ⟨A, B, hA, -, -, -, -, hnamed⟩ := h.sessions
  have hrecords (handleRef : String) : w.provenance.resolveConfirmation handleRef = none := by
    unfold InMemoryChannelProvenanceStore.resolveConfirmation
    rw [h.handles]
    rfl
  have hports : w.orders.Alike own w.orders := by
    rw [h.orders]
    exact
      { regular := regular_empty
        regular' := regular_empty
        orders := fun _ _ => rfl
        claims := fun _ _ _ => Iff.rfl
        alone := by
          intro ref c hc
          cases hc }
  exact
    { keyed := h.keyed
      keyed' := h.keyed
      upstream := rfl
      aliases := rfl
      session :=
        ⟨A, A, hA, hA,
          { unnamed := rfl
            named := rfl
            orders := by
              intro c _ e e' he he'
              rw [he] at he'
              obtain rfl := Option.some.inj he'
              rfl
            past := fun n _ => hnamed n
            past' := fun n _ => hnamed n }⟩
      results := fun _ => rfl
      records := by
        intro handleRef
        simp [hrecords]
      confirmations := by
        intro handleRef record hrecord
        simp [hrecords] at hrecord
      ports := hports }

/-- Each call is the customer's with a client reference of the customer's, or neither. -/
theorem TwoCustomers.client_iff (h : TwoCustomers svc w a b calls) {call : CheckoutCall}
    (hcall : call ∈ calls) : ∀ c ∈ call.clientSubmitRef,
      (c ∈ CheckoutCall.clientSubmitRefs (calls.filter (CheckoutCall.On w a)) ↔ call.On w a) := by
  intro c hc
  have hmem {key : String} (hon : call.On w key) :
      c ∈ CheckoutCall.clientSubmitRefs (calls.filter (CheckoutCall.On w key)) :=
    List.mem_filterMap.mpr ⟨call, List.mem_filter.mpr ⟨hcall, by simpa using hon⟩, hc⟩
  constructor
  · intro hmine
    rcases h.theirs call hcall with ha | hb
    · exact ha
    · exact (h.clients hmine (hmem hb)).elim
  · exact hmem

/-- In every run of two customers whose calls are undisturbed, each call of the first has the outcome
it has with all calls of the second removed. -/
theorem observed_of_undisturbed (h : TwoCustomers svc w a b calls)
    (hundisturbed : (checkout svc).Throughout
      (fun w' call => call.Undisturbed svc a
        (CheckoutCall.clientSubmitRefs (calls.filter (CheckoutCall.On w a))) w') w calls) :
    (checkout svc).observed (CheckoutCall.On w a) w calls =
      (checkout svc).outcomes w (calls.filter (CheckoutCall.On w a)) := by
  have hP := (hundisturbed.and h.drawn).and
    (Machine.Throughout.of_forall (fun call hcall => h.client_iff hcall) w)
  -- whose a call is does not change along the run
  have hon {t : World FakeXBOSOrderClient} (ht : t.sessions.aliases = w.sessions.aliases)
      (call : CheckoutCall) : call.On t a ↔ call.On w a := by
    unfold CheckoutCall.On InMemoryCustomerSessionStore.canonicalRef
    rw [ht]
  refine Machine.Unwinding.observed_eq
    (R := fun t t' => World.Alike a
      (CheckoutCall.clientSubmitRefs (calls.filter (CheckoutCall.On w a))) t t' ∧
        t.sessions.aliases = w.sessions.aliases) ⟨?_, ?_, ?_⟩ ⟨h.alike _, rfl⟩ hP
  · rintro t t' call ⟨halike, ht⟩ hmine ⟨⟨hcall, hdrawn⟩, hclient⟩
    exact (halike.own_step svc ((hon ht call).mpr hmine) (fun c hc => (hclient c hc).mpr hmine)
      hdrawn hcall).1
  · rintro t t' call ⟨halike, ht⟩ hmine ⟨⟨hcall, hdrawn⟩, hclient⟩
    refine ⟨?_, by rw [checkout_aliases, ht]⟩
    exact (halike.own_step svc ((hon ht call).mpr hmine) (fun c hc => (hclient c hc).mpr hmine)
      hdrawn hcall).2
  · rintro t t' call ⟨halike, ht⟩ hother ⟨⟨hcall, -⟩, hclient⟩
    refine ⟨?_, by rw [checkout_aliases, ht]⟩
    exact halike.others svc (mt (hon ht call).mp hother)
      (fun c hc => mt (hclient c hc).mp hother) hcall

end Runs

end XbosCustomerChannel

/-! ## Two customers at one location -/

namespace XbosCustomerChannel.Neighbours

open Effects Data

open Fixture (lengthRefs)

/-- The SHA-256 digests of the three confirmations that are prepared here: one by delivery, and two
to take away that differ in the item. -/
def digest (bytes : List UInt8) : String :=
  if bytes[53]? = some 100 then "907f8df843a8de59f0eac25f9e43a660698fa5d4a3c6f8cf2f9acf09d81c7d97"
  else if bytes[262]? = some 111 then
    "b772b9559454c990490b389d2e06dd2d122ed35ca74400b7da14cfff453677f2"
  else "7c5bf3dea7a2aebf1eca8914aa3960bee26320cfabd8ef79e044e83a9efa8941"

scoped instance : Hashlib := ⟨digest⟩

def catalogClient : FakeXBOSCatalogClient := {}

/-- Each customer has an identity and a conversation of their own. -/
def bindingOf (identityBindingRef : String) : Option IdentityBindingRecord :=
  if identityBindingRef = "identity_binding_r" then some Fixture.binding
  else if identityBindingRef = "identity_binding_s" then
    some
      { Fixture.binding with
        identityBindingRef := "identity_binding_s"
        identityRef := "identity:fixture:two"
        conversationRef := "conversation:fixture:two" }
  else none

def xbos : Upstream :=
  { Fixture.upstream 1 3000 with
    resolveQuote := catalogClient.resolveQuote
    resolveBinding := bindingOf }

def firstSession : String := "sess_r"

def secondSession : String := "sess_rrrrrrr"

/-- A session is created and brought into review. -/
def intoReview (sessionRef identityBindingRef conversationRef correlationRef : String) :
    List (ChannelCall FakeXBOSOrderClient) :=
  [.createSession
      { conversationRef, correlationRef
        identityBindingRef := some identityBindingRef
        entryContext := some Fixture.entry
        nowEpoch := some 0
        expiresAtEpoch := some 10000 },
    .transition { sessionRef, target := .merchantContext, idempotencyKey := "k1" },
    .transition { sessionRef, target := .browsing, idempotencyKey := "k2" },
    .transition { sessionRef, target := .cart, idempotencyKey := "k3" },
    .transition { sessionRef, target := .serviceMode, idempotencyKey := "k4" },
    .transition { sessionRef, target := .review, idempotencyKey := "k5" }]

/-- Both customers are in review. -/
def world : World FakeXBOSOrderClient :=
  run {} (.start {} xbos lengthRefs)
    (intoReview firstSession "identity_binding_r" "conversation:fixture:one"
        "correlation:fixture:one" ++
      intoReview secondSession "identity_binding_s" "conversation:fixture:two"
        "correlation:fixture:two")

def prepare (sessionRef itemRef : String) (serviceMode : ServiceMode) (token : String) :
    CheckoutCall :=
  .prepareConfirmation
    { sessionRef
      catalogSession :=
        ⟨Fixture.entry,
          catalogClient.projection "merchant:fixture:alpha" "location:fixture:one",
          ⟨[⟨itemRef, 1, [], Int.one_pos⟩]⟩⟩
      serviceMode
      nowEpoch := 10
      contactRef := some "contact:fixture:one"
      deliveryAddressRef := some "address:fixture:inside" }
    token

def submit (sessionRef token clientSubmitRef : String) : CheckoutCall :=
  .submit ⟨sessionRef, "confirmation_handle_" ++ token, clientSubmitRef, 20⟩

/-- The customers take turns: both prepare, both submit. -/
def turns (firstItem secondItem : String) (firstMode secondMode : ServiceMode) :
    List CheckoutCall :=
  [prepare firstSession firstItem firstMode "one",
    prepare secondSession secondItem secondMode "two",
    submit secondSession "two" "submit:fixture:two",
    submit firstSession "one" "submit:fixture:one"]

/-- The two have owners of their own, and no orders yet. -/
theorem world_twoCustomers {firstItem secondItem : String} {firstMode secondMode : ServiceMode}
    (hdrawn : (checkout {}).Throughout (fun w call => call.Drawn w) world
      (turns firstItem secondItem firstMode secondMode)) :
    TwoCustomers {} world firstSession secondSession
      (turns firstItem secondItem firstMode secondMode) := by
  have hfirst : (world.sessions.sessions.get? firstSession).map
      (fun s => (s.ownerIdentityRef, s.orderRef, s.securityBindingComplete)) =
        some (some "identity:fixture:one", none, true) := by decide +kernel
  have hsecond : (world.sessions.sessions.get? secondSession).map
      (fun s => (s.ownerIdentityRef, s.securityBindingComplete)) =
        some (some "identity:fixture:two", true) := by decide +kernel
  obtain ⟨A, hA, hfields⟩ := Option.map_eq_some_iff.mp hfirst
  obtain ⟨B, hB, hfields'⟩ := Option.map_eq_some_iff.mp hsecond
  simp only [Prod.mk.injEq] at hfields hfields'
  obtain ⟨howner, horder, hsecure⟩ := hfields
  obtain ⟨howner', hsecure'⟩ := hfields'
  have hother : secondSession ≠ firstSession := by decide
  have hon : world.sessions.canonicalRef firstSession = firstSession := by decide +kernel
  have hon' : world.sessions.canonicalRef secondSession = secondSession := by decide +kernel
  have hmine : (turns firstItem secondItem firstMode secondMode).filter
      (CheckoutCall.On world firstSession) =
        [prepare firstSession firstItem firstMode "one",
          submit firstSession "one" "submit:fixture:one"] := by
    simp [turns, prepare, submit, CheckoutCall.On, CheckoutCall.sessionRef, hon, hon', hother]
  have htheirs : (turns firstItem secondItem firstMode secondMode).filter
      (CheckoutCall.On world secondSession) =
        [prepare secondSession secondItem secondMode "two",
          submit secondSession "two" "submit:fixture:two"] := by
    simp [turns, prepare, submit, CheckoutCall.On, CheckoutCall.sessionRef, hon, hon', hother.symm]
  exact
    { keyed := run_keyed {} (start_keyed _ _ _) _
      sessions := ⟨A, B, hA, hB, hsecure, hsecure', by rw [howner, howner']; decide, by
        intro n h
        rw [horder] at h
        cases h⟩
      orders := rfl
      handles := rfl
      theirs := by
        simp [turns, prepare, submit, CheckoutCall.On, CheckoutCall.sessionRef, hon, hon']
      clients := by
        rw [hmine, htheirs]
        show List.Disjoint ["submit:fixture:one"] ["submit:fixture:two"]
        simp
      drawn := hdrawn }

/-- One takes away and the other has it delivered: nothing of the first's changes. -/
theorem observed_of_undisturbed_otherMode :
    (checkout {}).observed (CheckoutCall.On world firstSession) world
        (turns "item:fixture:one" "item:fixture:one" .takeaway .delivery) =
      (checkout {}).outcomes world
        ((turns "item:fixture:one" "item:fixture:one" .takeaway .delivery).filter
          (CheckoutCall.On world firstSession)) :=
  observed_of_undisturbed (world_twoCustomers (by decide +kernel)) (by decide +kernel)

/-- Both take away. The second's other item replaces the confirmation of the first, who is told it
changed. Alone the first gets an order. -/
theorem sameContext_disturbs :
    ¬ ∀ (w : World FakeXBOSOrderClient) (a b : String) (calls : List CheckoutCall),
      TwoCustomers {} w a b calls →
        (checkout {}).observed (CheckoutCall.On w a) w calls =
          (checkout {}).outcomes w (calls.filter (CheckoutCall.On w a)) := by
  intro h
  have hsame := h world firstSession secondSession
    (turns "item:fixture:one" "item:fixture:two" .takeaway .takeaway)
    (world_twoCustomers (by decide +kernel))
  exact absurd hsame (by decide +kernel)

end XbosCustomerChannel.Neighbours
