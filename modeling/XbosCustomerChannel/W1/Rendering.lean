import XbosCustomerChannel.Data.Traversal
import XbosCustomerChannel.W1.Presented
import XbosCustomerChannel.W1.Runtime

/-!
# What is rendered and what can be sent

The outbound adapter refuses what is out of its bounds: a text of more than 1024 characters, no
buttons or more than three, a list without rows. Over a catalog of short texts every reply is well
framed, and most have a short body. The others are assembled without a bound: the text of a cart, of a
review, and those that show a price or an amount.
-/

namespace XbosCustomerChannel

open Effects Effects.Program Data Data.Traversal

open MetaWhatsAppOutboundAdapter W1WhatsAppRuntime

/-! ## What the adapter accepts -/

/-- A text that can be sent. -/
def Fits (text : String) : Prop := text ≠ "" ∧ text.length ≤ 1024

theorem outboundText_ok {text : String} : (∃ t, outboundText text = .ok t) ↔ Fits text := by
  unfold outboundText Fits
  split
  · next h =>
    constructor
    · rintro ⟨t, ht⟩
      cases ht
    · rintro ⟨hgiven, hlength⟩
      exact absurd h (not_or.mpr ⟨hgiven, not_lt.mpr hlength⟩)
  · next h =>
    obtain ⟨hgiven, hlength⟩ := not_or.mp h
    exact ⟨fun _ => ⟨hgiven, not_lt.mp hlength⟩, fun _ => ⟨text, rfl⟩⟩

instance : DecidablePred Fits := fun text =>
  inferInstanceAs (Decidable (text ≠ "" ∧ text.length ≤ 1024))

/-- A literal text is given by its characters. -/
theorem fits_ofList {cs : List Char} (hgiven : cs ≠ []) (hlength : cs.length ≤ 1024) :
    Fits (String.ofList cs) := by
  refine ⟨?_, by rwa [String.length_ofList]⟩
  intro hempty
  apply hgiven
  rw [← String.toList_ofList (l := cs), hempty, String.toList_empty]

theorem fits_iff {text : String} : Fits text ↔ 0 < text.length ∧ text.length ≤ 1024 := by
  rw [Fits, Nat.pos_iff_ne_zero, Ne, Ne, String.length_eq_zero_iff]

/-- Everything but the body is in bounds. -/
def W1RenderedMessage.Framed (r : W1RenderedMessage) : Prop :=
  match r.kind with
  | .text => True
  | .buttons => (1 ≤ r.buttons.length ∧ r.buttons.length ≤ 3) ∧
      ∀ button ∈ r.buttons, Fits button.replyId ∧ Fits button.title
  | .list => Fits ((pyOr r.listButtonLabel (some "Options")).getD "Options") ∧ r.listSections ≠ [] ∧
      ∀ s ∈ r.listSections, s.rows ≠ [] ∧ Fits s.title ∧
        ∀ row ∈ s.rows, Fits row.replyId ∧ Fits row.title

/-- The message passes the validation of the method it is sent with. -/
def W1RenderedMessage.Sendable (r : W1RenderedMessage) : Prop := ∃ p, payload r = .ok p

/-- A pair of texts can be sent if both can. -/
theorem pair_ok {α : Type} {replyId title : String} {f : String → String → α} :
    (∃ y, (do
      let replyId ← outboundText replyId
      let title ← outboundText title
      pure (f replyId title) : Except Exc α) = .ok y) ↔ Fits replyId ∧ Fits title := by
  rw [exists_bind_iff (p := Fits title), outboundText_ok]
  intro x
  rw [exists_bind_iff (p := True), outboundText_ok, and_true]
  intro y
  exact ⟨fun _ => trivial, fun _ => ⟨_, rfl⟩⟩

/-- A section can be sent if its title and its rows can. -/
theorem section_ok {s : InteractiveListSection} :
    (∃ y, (do
      let title ← outboundText s.title
      let rows ← s.rows.mapM fun row => do
        let replyId ← outboundText row.replyId
        let title ← outboundText row.title
        pure (⟨replyId, title, row.description.filter (· ≠ "")⟩ : InteractiveListRow)
      pure (⟨title, rows⟩ : InteractiveListSection) : Except Exc InteractiveListSection) = .ok y) ↔
    Fits s.title ∧ ∀ row ∈ s.rows, Fits row.replyId ∧ Fits row.title := by
  rw [exists_bind_iff (p := ∀ row ∈ s.rows, Fits row.replyId ∧ Fits row.title), outboundText_ok]
  intro title
  rw [exists_bind_iff (p := True), exists_mapM_eq_ok, and_true]
  · exact forall₂_congr fun row _ => pair_ok
  · intro rows
    exact ⟨fun _ => trivial, fun _ => ⟨_, rfl⟩⟩

theorem W1RenderedMessage.sendable_iff {r : W1RenderedMessage} :
    r.Sendable ↔ r.Framed ∧ Fits r.body := by
  unfold Sendable Framed payload
  cases r.kind with
  | text =>
      dsimp only [textPayload]
      rw [exists_bind_iff (p := True), outboundText_ok, and_comm]
      intro x
      exact ⟨fun _ => trivial, fun _ => ⟨_, rfl⟩⟩
  | buttons =>
      dsimp only [buttonsPayload]
      rw [List.length_map]
      split
      · next hcount =>
        constructor
        · rintro ⟨p, hp⟩
          cases hp
        · rintro ⟨⟨hcount', -⟩, -⟩
          exact absurd hcount' hcount
      · next hcount =>
        rw [exists_bind_iff (p := Fits r.body), exists_mapM_eq_ok]
        · simp only [List.forall_mem_map, pair_ok, not_not.mp hcount, true_and]
        · intro actions
          rw [exists_bind_iff (p := True), outboundText_ok, and_true]
          intro y
          exact ⟨fun _ => trivial, fun _ => ⟨_, rfl⟩⟩
  | list =>
      dsimp only [listPayload]
      split
      · next hrows =>
        constructor
        · rintro ⟨p, hp⟩
          cases hp
        · rintro ⟨⟨-, hsections, hall⟩, -⟩
          rcases hrows with hnil | ⟨s, hs, hnil⟩
          · exact absurd (List.map_eq_nil_iff.mp hnil) hsections
          · obtain ⟨s', hs', rfl⟩ := List.mem_map.mp hs
            exact absurd (List.map_eq_nil_iff.mp hnil) (hall s' hs').1
      · next hrows =>
        obtain ⟨hsections, hall⟩ := not_or.mp hrows
        have hnonempty : ∀ s ∈ r.listSections, s.rows ≠ [] := by
          intro s hs hnil
          exact hall ⟨_, List.mem_map_of_mem hs, by simp [hnil]⟩
        have hgiven : r.listSections ≠ [] := by simpa using hsections
        rw [exists_bind_iff (p := Fits r.body ∧ Fits ((pyOr r.listButtonLabel (some "Options")).getD "Options")),
          exists_mapM_eq_ok]
        · simp only [section_ok, List.forall_mem_map]
          constructor
          · rintro ⟨htexts, hbody, hlabel⟩
            exact ⟨⟨hlabel, hgiven, fun s hs => ⟨hnonempty s hs, htexts s hs⟩⟩, hbody⟩
          · rintro ⟨⟨hlabel, -, htexts⟩, hbody⟩
            exact ⟨fun s hs => (htexts s hs).2, hbody, hlabel⟩
        · intro rendered
          rw [exists_bind_iff (p := Fits ((pyOr r.listButtonLabel (some "Options")).getD "Options")),
            outboundText_ok]
          intro body
          rw [exists_bind_iff (p := True), outboundText_ok, and_true]
          intro label
          exact ⟨fun _ => trivial, fun _ => ⟨_, rfl⟩⟩

/-! ## Short texts -/

/-- A text of a bounded catalog. -/
def Short (text : String) : Prop := text ≠ "" ∧ text.length ≤ 60

theorem Short.fits {text : String} (h : Short text) : Fits text := ⟨h.1, h.2.trans (by decide)⟩

theorem Short.fits_append {text : String} (h : Short text) (pfx : String) (hpfx : pfx.length ≤ 60) :
    Fits (pfx ++ text) := by
  have hpos := (fits_iff.mp h.fits).1
  have hlength := h.2
  rw [fits_iff, String.length_append]
  omega

/-- A catalog with a section, and short texts. -/
structure CatalogProjection.Bounded (p : CatalogProjection) : Prop where
  sections_ne_nil : p.sections ≠ []
  sections_short : ∀ s ∈ p.sections, Short s.sectionRef ∧ Short s.name
  items_short : ∀ item ∈ p.items, Short item.itemRef ∧ Short item.name ∧ Short item.description ∧
    Short item.currency

theorem CatalogProjection.mem_of_item {p : CatalogProjection} {itemRef : String}
    {item : CatalogItemProjection} (h : p.item itemRef = .ok item) :
    item ∈ p.items ∧ item.itemRef = itemRef := by
  unfold CatalogProjection.item at h
  split at h
  · next found hfind =>
    cases h
    exact ⟨List.mem_of_find?_eq_some hfind, by simpa using List.find?_some hfind⟩
  · cases h

/-! ## The frame of a reply -/

section Framed

open W1ConversationRouter

variable {catalogSession : CatalogSession} (hbounded : catalogSession.projection.Bounded)

theorem unsupported_framed (catalogSession : CatalogSession) :
    (unsupported catalogSession).rendered.Framed := trivial

include hbounded in
theorem root_framed : (root catalogSession).rendered.Framed := by
  have hlabel : Fits "Menu" := fits_ofList (by simp) (by simp)
  have htitle : Fits "Categories" := fits_ofList (by simp) (by simp)
  refine ⟨hlabel, by simp [root], fun s hs => ?_⟩
  rw [root, List.mem_singleton] at hs
  subst hs
  refine ⟨?_, htitle, fun row hrow => ?_⟩
  · rw [Ne, List.map_eq_nil_iff]
    intro hnil
    have hlength := congrArg List.length hnil
    rw [List.length_insertionSort] at hlength
    exact hbounded.sections_ne_nil (List.length_eq_zero_iff.mp hlength)
  · obtain ⟨s, hs, rfl⟩ := List.mem_map.mp hrow
    obtain ⟨href, hname⟩ := hbounded.sections_short s ((List.mem_insertionSort _).mp hs)
    exact ⟨href.fits_append "section:" (by decide), hname.fits⟩

include hbounded in
theorem sectionView_framed (sectionRef : String) :
    (sectionView catalogSession sectionRef).rendered.Framed := by
  unfold sectionView
  split
  · exact unsupported_framed _
  next s hfound =>
  dsimp only
  split
  · exact unsupported_framed _
  next hrows =>
  have hshort := hbounded.sections_short s (List.mem_of_find?_eq_some hfound)
  have hlabel : Fits "Items" := fits_ofList (by simp) (by simp)
  refine ⟨hlabel, by simp, fun s' hs' => ?_⟩
  rw [List.mem_singleton] at hs'
  subst hs'
  refine ⟨hrows, hshort.2.fits, fun row hrow => ?_⟩
  obtain ⟨item, hitem, rfl⟩ := List.mem_map.mp hrow
  obtain ⟨href, hname, -⟩ := hbounded.items_short item (List.mem_of_mem_filter hitem)
  exact ⟨href.fits_append "item:" (by decide), hname.fits⟩

theorem product_framed (item : CatalogItemProjection) (navigation : W1NavigationCursor) :
    (product catalogSession item navigation).rendered.Framed := by
  refine ⟨by simp [product], ?_⟩
  simp only [product, List.forall_mem_cons]
  decide

theorem add_framed (navigation : W1NavigationCursor) :
    (add catalogSession navigation).rendered.Framed := by
  unfold add
  split
  · exact unsupported_framed _
  dsimp only
  split
  · exact unsupported_framed _
  · refine ⟨by simp, ?_⟩
    simp only [List.forall_mem_cons]
    decide

/-! ### The checkout -/

open W1CheckoutUX

theorem failure_framed (code : W1CheckoutFailureCode) :
    (renderCheckout (failure code).view).Framed := trivial

theorem cartReview_framed (catalogSession : CatalogSession) :
    (renderCheckout (cartReview catalogSession).view).Framed := by
  unfold cartReview
  split
  · exact failure_framed _
  dsimp only
  split
  · exact failure_framed _
  · refine ⟨by simp [renderCheckout], ?_⟩
    simp only [renderCheckout, List.map_cons, List.map_nil, List.forall_mem_cons]
    decide

theorem serviceMode_framed (catalogSession : CatalogSession) :
    (renderCheckout (serviceMode catalogSession).view).Framed := by
  unfold serviceMode
  dsimp only
  split
  · exact failure_framed _
  next hbuttons =>
  refine ⟨⟨?_, ?_⟩, fun button hbutton => ?_⟩
  · simp only [renderCheckout, List.length_map]
    exact List.length_pos_of_ne_nil hbuttons
  · simp only [renderCheckout, List.length_map]
    exact List.length_filterMap_le _ _
  · obtain ⟨shown, hshown, rfl⟩ := List.mem_map.mp hbutton
    obtain ⟨mode, -, hmode⟩ := List.mem_filterMap.mp hshown
    split at hmode
    · obtain rfl := Option.some.inj hmode
      cases mode <;> decide
    · cases hmode

theorem presentReview_framed (mode : ServiceMode)
    (confirmation : AuthoritativeOrderConfirmationSnapshot) :
    (presentReview mode confirmation).Yields fun r => (renderCheckout r.view).Framed := by
  refine ⟨by simp [renderCheckout], ?_⟩
  simp only [renderCheckout, List.map_cons, List.map_nil, List.forall_mem_cons]
  decide

/-- The rows are of the methods, with their labels. -/
theorem paymentRows_fit {methods : List PaymentMethodCode} {rows : List W1CheckoutListRow}
    (h : paymentRows methods = .ok rows) (hmethods : methods ≠ []) :
    rows ≠ [] ∧ ∀ row ∈ rows, Fits row.replyId ∧ Fits row.title := by
  constructor
  · intro hrows
    exact hmethods ((forall₂_eq_nil (mapM_eq_ok.mp h)).mpr hrows)
  · intro row hrow
    obtain ⟨method, -, hmethod⟩ := exists_of_mem_mapM h hrow
    split at hmethod
    · next label hlabel =>
      cases hmethod
      cases method <;> cases hlabel <;> decide
    · cases hmethod

theorem presentPayment_framed (state : W1CheckoutState) (order : CanonicalOrderProjection)
    (options : W1CustomerSafePaymentOptions) :
    (presentPayment state order options).Yields fun r => (renderCheckout r.view).Framed := by
  unfold presentPayment
  split
  · exact failure_framed .contextMismatch
  apply Yields.bind_of (Yields.ofExcept _)
  intro rows hrows
  obtain ⟨hgiven, hfit⟩ := paymentRows_fit hrows options.offers.1
  have hlabel : Fits "Payment methods" := fits_ofList (by simp) (by simp)
  have htitle : Fits "Options" := fits_ofList (by simp) (by simp)
  refine ⟨hlabel, by simp [renderCheckout], fun s hs => ?_⟩
  simp only [renderCheckout, List.mem_singleton] at hs
  subst hs
  refine ⟨by simpa using hgiven, htitle, fun row hrow => ?_⟩
  obtain ⟨shown, hshown, rfl⟩ := List.mem_map.mp hrow
  exact hfit shown hshown

theorem selectPaymentMethod_framed (state : Option W1CheckoutState) (method : PaymentMethodCode) :
    (renderCheckout (selectPaymentMethod state method).view).Framed := by
  unfold selectPaymentMethod
  split
  · exact failure_framed _
  split
  · exact failure_framed _
  split
  · exact failure_framed _
  split
  · exact failure_framed _
  · trivial

end Framed

/-! ## The length of a body -/

section Lengths

open W1ConversationRouter W1CheckoutUX

/-- The text of a product, at a quantity of one digit. -/
def productLength (item : CatalogItemProjection) : Nat :=
  item.name.length + item.description.length + item.displayPrice.toSciString.length +
    item.currency.length + 33

/-- A line of the cart, with the line break before or after it. -/
def lineLength (p : CatalogProjection) (line : CartLine) : Nat :=
  match p.item line.itemRef with
  | .ok item => line.quantity.repr.length + item.name.length + 5
  | .error _ => 0

/-- The text of a cart. -/
def cartLength (catalogSession : CatalogSession) : Nat :=
  (catalogSession.cart.lines.map (lineLength catalogSession.projection)).sum + 74

/-- A line that names an amount, with its line break. -/
def amountLength (labelLength : Nat) (amount : Decimal) (currency : String) : Nat :=
  labelLength + amount.toSciString.length + currency.length + 4

/-- The text of a review. -/
def reviewLength (mode : ServiceMode) (confirmation : AuthoritativeOrderConfirmationSnapshot) : Nat :=
  (confirmation.lines.map fun line =>
      amountLength (line.quantity.repr.length + line.itemRef.length + 4) line.lineTotal
        confirmation.currency).sum +
    (confirmation.deliveryFee.toList.map fun fee =>
      amountLength 12 fee confirmation.currency).sum +
    (confirmation.taxesCharges.map fun charge =>
      amountLength charge.label.length charge.amount confirmation.currency).sum +
    amountLength 5 confirmation.total confirmation.currency + mode.serviceLabel.length + 74

/-- The text that presents payment. -/
def paymentLength (order : CanonicalOrderProjection) (options : W1CustomerSafePaymentOptions) : Nat :=
  order.orderRef.length + options.canonicalAmount.toSciString.length + options.currency.length + 82

theorem product_length (catalogSession : CatalogSession) (item : CatalogItemProjection)
    {navigation : W1NavigationCursor} (hquantity : navigation.quantity.repr.length = 1) :
    (product catalogSession item navigation).rendered.body.length = productLength item := by
  have hparts : ": ".length = 2 ∧ "\n".length = 1 ∧ "Displayed price: ".length = 17 ∧
      " ".length = 1 ∧ "Quantity: ".length = 10 :=
    ⟨String.length_ofList, String.length_ofList, String.length_ofList, String.length_ofList,
      String.length_ofList⟩
  obtain ⟨hcolon, hbreak, hprice, hspace, hlabel⟩ := hparts
  simp only [product, productLength, String.length_append, hcolon, hbreak, hprice, hspace, hlabel,
    hquantity]
  omega

theorem counted_length (quantity : Int) (name : String) :
    (counted quantity name).length = quantity.repr.length + name.length + 4 := by
  have hsign : " Ã— ".length = 4 := String.length_ofList
  simp only [counted, String.length_append, hsign]
  omega

/-- The lines of a cart, each with its line break. -/
theorem lineText_length {p : CatalogProjection} {lines : List CartLine} {texts : List String}
    (h : (lines.mapM fun line => (p.item line.itemRef).map fun item =>
      counted line.quantity item.name) = .ok texts) :
    (texts.map fun text => text.length + "\n".length).sum = (lines.map (lineLength p)).sum := by
  have hbreak : "\n".length = 1 := String.length_ofList
  induction lines generalizing texts with
  | nil =>
      cases h
      rfl
  | cons line lines ih =>
      obtain ⟨text, rest, hline, hrest, rfl⟩ := mapM_cons_eq_ok.mp h
      rw [List.map_cons, List.sum_cons, ih hrest, List.map_cons, List.sum_cons]
      unfold lineLength
      cases hitem : p.item line.itemRef with
      | error e =>
          rw [hitem] at hline
          cases hline
      | ok item =>
          rw [hitem] at hline
          obtain rfl := Except.ok.inj hline
          rw [counted_length, hbreak]

theorem reviewBody_length (mode : ServiceMode)
    (confirmation : AuthoritativeOrderConfirmationSnapshot) :
    (reviewBody mode confirmation).length = reviewLength mode confirmation := by
  have hparts : "\n".length = 1 ∧ "Review your order".length = 17 ∧ "Service: ".length = 9 ∧
      ": ".length = 2 ∧ " ".length = 1 :=
    ⟨String.length_ofList, String.length_ofList, String.length_ofList, String.length_ofList,
      String.length_ofList⟩
  have hmore : "Delivery fee: ".length = 14 ∧ "Total: ".length = 7 ∧
      "Confirming the order does not mean it is paid.".length = 46 :=
    ⟨String.length_ofList, String.length_ofList, String.length_ofList⟩
  obtain ⟨hbreak, hreview, hservice, hcolon, hspace⟩ := hparts
  obtain ⟨hfee, htotal, hconfirming⟩ := hmore
  have hlength : (reviewBody mode confirmation).length + "\n".length = _ :=
    Text.length_intercalate "\n" (by simp)
  have hlines : (confirmation.lines.map fun line => (counted line.quantity line.itemRef ++ ": " ++
        line.lineTotal.toSciString ++ " " ++ confirmation.currency).length + 1) =
      confirmation.lines.map fun line =>
        amountLength (line.quantity.repr.length + line.itemRef.length + 4) line.lineTotal
          confirmation.currency := by
    apply List.map_congr_left
    intro line _
    simp only [String.length_append, counted_length, hcolon, hspace, amountLength]
    omega
  have hfees : (confirmation.deliveryFee.toList.map fun fee => ("Delivery fee: " ++
        fee.toSciString ++ " " ++ confirmation.currency).length + 1) =
      confirmation.deliveryFee.toList.map fun fee => amountLength 12 fee confirmation.currency := by
    apply List.map_congr_left
    intro fee _
    simp only [String.length_append, hfee, hspace, amountLength]
    omega
  have hcharges : (confirmation.taxesCharges.map fun charge => (charge.label ++ ": " ++
        charge.amount.toSciString ++ " " ++ confirmation.currency).length + 1) =
      confirmation.taxesCharges.map fun charge =>
        amountLength charge.label.length charge.amount confirmation.currency := by
    apply List.map_congr_left
    intro charge _
    simp only [String.length_append, hcolon, hspace, amountLength]
    omega
  simp only [List.map_append, List.sum_append, List.map_map, Function.comp_def, hbreak, hlines, hfees,
    hcharges] at hlength
  simp only [List.map_cons, List.map_nil, List.sum_cons, List.sum_nil, String.length_append,
    hreview, hservice, hspace, htotal, hconfirming] at hlength
  unfold reviewLength
  rw [amountLength]
  omega

theorem body_fits {r : W1RenderedMessage} (hframed : r.Framed) {n : Nat} (hlength : r.body.length = n)
    (hpos : 0 < n) : r.Sendable ↔ n ≤ 1024 := by
  rw [W1RenderedMessage.sendable_iff, fits_iff, hlength]
  exact ⟨fun h => h.2.2, fun h => ⟨hframed, hpos, h⟩⟩

theorem failureMessage_fits (code : W1CheckoutFailureCode) : Fits (failureMessage code) := by
  cases code with
  | contextMismatch =>
      have hfirst : "We could not safely match this checkout to your current order. ".length = 63 :=
        String.length_ofList
      have hsecond : "Please return to the menu or ask for help.".length = 42 :=
        String.length_ofList
      dsimp only [failureMessage]
      rw [fits_iff, String.length_append, hfirst, hsecond]
      simp
  | _ =>
      dsimp only [failureMessage]
      exact fits_ofList (by simp) (by simp)

theorem failure_fits (code : W1CheckoutFailureCode) :
    Fits (renderCheckout (failure code).view).body := failureMessage_fits code

theorem failure_sendable (code : W1CheckoutFailureCode) :
    (renderCheckout (failure code).view).Sendable :=
  W1RenderedMessage.sendable_iff.mpr ⟨failure_framed code, failure_fits code⟩

/-- A cart of known items can be shown exactly if its text is short enough. -/
theorem cartReview_sendable_iff {catalogSession : CatalogSession}
    (hknown : ∀ line ∈ catalogSession.cart.lines,
      ∃ item, catalogSession.projection.item line.itemRef = .ok item) :
    (renderCheckout (cartReview catalogSession).view).Sendable ↔ cartLength catalogSession ≤ 1024 := by
  have hframed := cartReview_framed catalogSession
  unfold cartReview at hframed ⊢
  split
  · next hempty =>
    refine iff_of_true (failure_sendable _) ?_
    rw [cartLength, hempty]
    simp
  next hlines =>
  rw [if_neg hlines] at hframed
  obtain ⟨texts, htexts⟩ : ∃ texts, (catalogSession.cart.lines.mapM fun line =>
      (catalogSession.projection.item line.itemRef).map fun item =>
        counted line.quantity item.name) = .ok texts := by
    rw [exists_mapM_eq_ok]
    intro line hline
    obtain ⟨item, hitem⟩ := hknown line hline
    exact ⟨counted line.quantity item.name, by rw [hitem]; rfl⟩
  rw [htexts] at hframed ⊢
  refine body_fits hframed ?_ (Nat.succ_pos _)
  have hgiven : texts ≠ [] := fun hnil =>
    hlines ((forall₂_eq_nil (mapM_eq_ok.mp htexts)).mpr hnil)
  have hlength := Text.length_intercalate "\n" hgiven
  rw [lineText_length htexts] at hlength
  have hparts : "\n".length = 1 ∧ "Your cart\n".length = 10 ∧
      "\n\nContinue to review service and the current authoritative total.".length = 65 :=
    ⟨String.length_ofList, String.length_ofList, String.length_ofList⟩
  obtain ⟨hbreak, hcart, hcontinue⟩ := hparts
  simp only [renderCheckout, String.length_append, hcart, hcontinue]
  rw [hbreak] at hlength
  rw [cartLength]
  omega

theorem serviceMode_sendable (catalogSession : CatalogSession) :
    (renderCheckout (serviceMode catalogSession).view).Sendable := by
  refine W1RenderedMessage.sendable_iff.mpr ⟨serviceMode_framed catalogSession, ?_⟩
  unfold serviceMode
  dsimp only
  split
  · exact failure_fits _
  · show Fits "How would you like to receive your order?"
    exact fits_ofList (by simp) (by simp)

theorem selectPaymentMethod_sendable (state : Option W1CheckoutState) (method : PaymentMethodCode) :
    (renderCheckout (selectPaymentMethod state method).view).Sendable := by
  refine W1RenderedMessage.sendable_iff.mpr ⟨selectPaymentMethod_framed state method, ?_⟩
  unfold selectPaymentMethod
  split
  · exact failure_fits _
  split
  · exact failure_fits _
  split
  · exact failure_fits _
  split
  · exact failure_fits _
  next label hlabel =>
  show Fits (selectedBody method label)
  cases method <;> cases hlabel <;> decide +kernel

end Lengths

end XbosCustomerChannel
