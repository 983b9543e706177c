import XbosCustomerChannel.Transports.Grammar

/-!
# What the normalizer accepts

Level by level from the messages up: which items are accepted, and what comes of them.
-/

namespace XbosCustomerChannel

open Data Data.JsonValue Data.Traversal

namespace Callback

/-! ## Lists of objects -/

section Lists

variable {v : JsonValue} {reason : String} {β : Type} {f : JsonValue → Except Exc β}
  {P : JsonObject → Prop}

theorem optionalSequence_ok {items : List JsonValue} : optionalSequence v reason = .ok items ↔
    (v = .null ∧ items = []) ∨ (v = .arr items ∧ items ≠ []) := by
  unfold optionalSequence
  split
  · simp [eq_comm]
  · next hgiven =>
    have hnot : v ≠ .null := hgiven
    simp [hnot]

/-- A non-empty list is gone through if each of its items is accepted. -/
theorem sequence_accepted (reason : String) (hf : ∀ item, (∃ y, f item = .ok y) ↔ item.IsObject P) :
    (∃ items, sequence v reason = .ok items ∧ ∃ ys, items.mapM f = .ok ys) ↔ v.IsList P := by
  simp only [sequence_ok, exists_mapM_eq_ok, hf, and_assoc]
  rfl

theorem optionalSequence_accepted (reason : String)
    (hf : ∀ item, (∃ y, f item = .ok y) ↔ item.IsObject P) :
    (∃ items, optionalSequence v reason = .ok items ∧ ∃ ys, items.mapM f = .ok ys) ↔
      v.IsOptionalList P := by
  simp only [optionalSequence_ok, exists_mapM_eq_ok, hf]
  constructor
  · rintro ⟨items, ⟨hnull, -⟩ | ⟨hitems, hne⟩, hall⟩
    · exact Or.inl hnull
    · exact Or.inr ⟨items, hitems, hne, hall⟩
  · rintro (hnull | ⟨items, hitems, hne, hall⟩)
    · exact ⟨[], Or.inl ⟨hnull, rfl⟩, by simp⟩
    · exact ⟨items, Or.inr ⟨hitems, hne⟩, hall⟩

/-- What comes of a list comes of its objects, one by one. -/
theorem forall₂_objects {R : JsonObject → β → Prop}
    (hf : ∀ item y, f item = .ok y → ∃ entries, item = .obj entries ∧ R entries y)
    {items : List JsonValue} {ys : List β} (h : items.mapM f = .ok ys) :
    List.Forall₂ R (JsonValue.arr items).objects ys := by
  rw [mapM_eq_ok] at h
  induction h with
  | nil => exact .nil
  | cons hy hys ih =>
      obtain ⟨entries, rfl, hR⟩ := hf _ _ hy
      exact .cons hR ih

theorem forall₂_optional {R : JsonObject → β → Prop}
    (hf : ∀ item y, f item = .ok y → ∃ entries, item = .obj entries ∧ R entries y)
    {items : List JsonValue} {ys : List β} (hv : optionalSequence v reason = .ok items)
    (h : items.mapM f = .ok ys) : List.Forall₂ R v.objects ys := by
  rcases optionalSequence_ok.mp hv with ⟨rfl, rfl⟩ | ⟨rfl, -⟩
  · obtain rfl := Except.ok.inj h
    exact .nil
  · exact forall₂_objects hf h

end Lists

/-! ## Changes, entries and callbacks -/

section Normalizer

variable [IntLimit] {reason : String}

/-- What is done with an item of a list of messages. -/
theorem messageItem_ok {phoneNumberId : String} {item : JsonValue} {r : NormalizedInboundMessage} :
    (do
      let message ← mapping item reason
      normalizeMessage phoneNumberId message) = .ok r ↔
      ∃ message, item = .obj message ∧ MessageOf (phoneNumberId, message) r := by
  simp only [bind_eq_ok, mapping_ok, normalizeMessage_ok]

theorem statusItem_ok {item : JsonValue} {r : NormalizedDeliveryStatus} :
    (do
      let status ← mapping item reason
      normalizeStatus status) = .ok r ↔ ∃ status, item = .obj status ∧ StatusOf status r := by
  simp only [bind_eq_ok, mapping_ok, normalizeStatus_ok]

theorem messageItem_accepted (reason phoneNumberId : String) (item : JsonValue) :
    (∃ r, (do
      let message ← mapping item reason
      normalizeMessage phoneNumberId message) = .ok r) ↔ item.IsObject (IsMessage Converts) := by
  simp only [messageItem_ok]
  constructor
  · rintro ⟨r, message, hitem, hr⟩
    exact ⟨message, hitem, exists_messageOf.mp ⟨r, hr⟩⟩
  · rintro ⟨message, hitem, hmessage⟩
    obtain ⟨r, hr⟩ := exists_messageOf.mpr hmessage
    exact ⟨r, message, hitem, hr⟩

theorem statusItem_accepted (reason : String) (item : JsonValue) :
    (∃ r, (do
      let status ← mapping item reason
      normalizeStatus status) = .ok r) ↔ item.IsObject (IsStatus Converts) := by
  simp only [statusItem_ok]
  constructor
  · rintro ⟨r, status, hitem, hr⟩
    exact ⟨status, hitem, exists_statusOf.mp ⟨r, hr⟩⟩
  · rintro ⟨status, hitem, hstatus⟩
    obtain ⟨r, hr⟩ := exists_statusOf.mpr hstatus
    exact ⟨r, status, hitem, hr⟩

/-- The messages and the statuses of a change come of its objects. -/
theorem normalizeChange_renders {item : JsonValue}
    {out : List NormalizedInboundMessage × List NormalizedDeliveryStatus}
    (h : normalizeChange item = .ok out) :
    ∃ change, item = .obj change ∧ List.Forall₂ MessageOf (messagesOfChange change) out.1 ∧
      List.Forall₂ StatusOf (statusesOfChange change) out.2 := by
  obtain ⟨change, hitem, h⟩ := bind_eq_ok.mp h
  refine ⟨change, mapping_ok.mp hitem, ?_⟩
  split at h
  · simp only [bind_eq_ok, mapping_ok, text_ok] at h
    obtain ⟨value, hvalue, metadata, hmetadata, phoneNumberId, ⟨hphone, -⟩, items, hitems, messages,
      hmessages, items', hitems', statuses, hstatuses, hout⟩ := h
    obtain rfl := Except.ok.inj hout
    unfold messagesOfChange statusesOfChange phoneNumberOf
    rw [hvalue, get_obj, get_obj, get_obj, hmetadata, get_obj, hphone, List.forall₂_map_left_iff]
    exact ⟨forall₂_optional (fun _ _ => messageItem_ok.mp) hitems hmessages,
      forall₂_optional (fun _ _ => statusItem_ok.mp) hitems' hstatuses⟩
  · cases h

theorem normalizeEntry_renders {item : JsonValue}
    {out : List NormalizedInboundMessage × List NormalizedDeliveryStatus}
    (h : normalizeEntry item = .ok out) :
    ∃ entry, item = .obj entry ∧
      List.Forall₂ MessageOf ((changesOf entry).flatMap messagesOfChange) out.1 ∧
      List.Forall₂ StatusOf ((changesOf entry).flatMap statusesOfChange) out.2 := by
  simp only [normalizeEntry, bind_eq_ok, mapping_ok, sequence_ok] at h
  obtain ⟨entry, rfl, items, ⟨hitems, -⟩, found, hfound, hout⟩ := h
  obtain rfl := Except.ok.inj hout
  have hchanges := forall₂_objects (fun _ _ => normalizeChange_renders) hfound
  rw [← hitems] at hchanges
  exact ⟨entry, rfl, List.rel_flatMap hchanges fun _ _ h => h.1,
    List.rel_flatMap hchanges fun _ _ h => h.2⟩

/-- What is found in the entries of a payload are its messages and its statuses. -/
theorem normalizeEntries_render {root : JsonObject} {items : List JsonValue}
    {found : List (List NormalizedInboundMessage × List NormalizedDeliveryStatus)}
    (hitems : fieldOf root "entry" = .arr items) (hfound : items.mapM normalizeEntry = .ok found) :
    List.Forall₂ MessageOf (messagesOf (.obj root)) (found.flatMap (·.1)) ∧
      List.Forall₂ StatusOf (statusesOf (.obj root)) (found.flatMap (·.2)) := by
  have hentries := forall₂_objects (fun _ _ => normalizeEntry_renders) hfound
  rw [← hitems] at hentries
  constructor
  · exact List.rel_flatMap hentries fun _ _ h => h.1
  · exact List.rel_flatMap hentries fun _ _ h => h.2

/-- What is returned for a payload are its messages and its statuses, each once and in their order. -/
theorem normalizeProviderCallback_renders {payload : JsonValue} {r : NormalizedProviderCallback}
    (h : normalizeProviderCallback payload = .ok r) :
    List.Forall₂ MessageOf (messagesOf payload) r.messages ∧
      List.Forall₂ StatusOf (statusesOf payload) r.deliveryStatuses := by
  obtain ⟨root, hroot, hfields⟩ := bind_eq_ok.mp h
  obtain rfl := mapping_ok.mp hroot
  split at hfields
  · simp only [bind_eq_ok, sequence_ok] at hfields
    obtain ⟨items, ⟨hitems, -⟩, found, hfound, hout⟩ := hfields
    split at hout
    · cases hout
    obtain rfl := Except.ok.inj hout
    exact normalizeEntries_render hitems hfound
  · cases hfields

theorem normalizeChange_accepted (item : JsonValue) :
    (∃ out, normalizeChange item = .ok out) ↔ item.IsObject (IsChange Converts) := by
  unfold normalizeChange
  simp only [exists_bind_eq_ok, mapping_ok]
  apply exists_congr
  intro change
  apply and_congr_right
  rintro -
  constructor
  · rintro ⟨out, h⟩
    split at h
    · next hfield =>
      simp only [bind_eq_ok, mapping_ok, text_ok] at h
      obtain ⟨value, hvalue, metadata, hmetadata, phoneNumberId, hphone, items, hitems, messages,
        hmessages, items', hitems', statuses, hstatuses, -⟩ := h
      exact ⟨hfield, value, hvalue, ⟨metadata, hmetadata, phoneNumberId, hphone⟩,
        (optionalSequence_accepted _ (messageItem_accepted _ _)).mp ⟨items, hitems, messages, hmessages⟩,
        (optionalSequence_accepted _ (statusItem_accepted _)).mp
          ⟨items', hitems', statuses, hstatuses⟩⟩
    · cases h
  · rintro ⟨hfield, value, hvalue, ⟨metadata, hmetadata, phoneNumberId, hphone⟩, hmessages, hstatuses⟩
    obtain ⟨items, hitems, messages, hmessages⟩ :=
      (optionalSequence_accepted "provider_messages_invalid"
        (messageItem_accepted "provider_message_invalid" phoneNumberId)).mpr hmessages
    obtain ⟨items', hitems', statuses, hstatuses⟩ :=
      (optionalSequence_accepted "provider_statuses_invalid"
        (statusItem_accepted "provider_status_invalid")).mpr hstatuses
    rw [hfield]
    simp only [bind_eq_ok, mapping_ok, text_ok]
    exact ⟨_, value, hvalue, metadata, hmetadata, phoneNumberId, hphone, items, hitems, messages,
      hmessages, items', hitems', statuses, hstatuses, rfl⟩

theorem normalizeEntry_accepted (item : JsonValue) :
    (∃ out, normalizeEntry item = .ok out) ↔ item.IsObject (IsEntry Converts) := by
  unfold normalizeEntry
  simp only [exists_bind_eq_ok, mapping_ok]
  apply exists_congr
  intro entry
  apply and_congr_right
  rintro -
  rw [IsEntry, ← sequence_accepted "provider_changes_missing" normalizeChange_accepted]
  constructor
  · rintro ⟨items, hitems, found, hfound, -⟩
    exact ⟨items, hitems, found, hfound⟩
  · rintro ⟨items, hitems, found, hfound⟩
    exact ⟨items, hitems, found, hfound, _, rfl⟩

/-- The normalizer returns for the callbacks whose timestamps are converted. -/
theorem normalizeProviderCallback_accepted (payload : JsonValue) :
    (∃ r, normalizeProviderCallback payload = .ok r) ↔ IsCallback Converts payload := by
  have hentries (root : JsonObject) :=
    sequence_accepted (v := fieldOf root "entry") "provider_entry_missing" normalizeEntry_accepted
  constructor
  · rintro ⟨r, h⟩
    obtain ⟨root, hroot, hfields⟩ := bind_eq_ok.mp h
    obtain rfl := mapping_ok.mp hroot
    split at hfields
    · next hobject =>
      obtain ⟨items, hitems, hfields⟩ := bind_eq_ok.mp hfields
      obtain ⟨found, hfound, hout⟩ := bind_eq_ok.mp hfields
      obtain ⟨hmessages, hstatuses⟩ := normalizeEntries_render (sequence_ok.mp hitems).1 hfound
      refine ⟨⟨root, rfl, hobject, (hentries root).mp ⟨items, hitems, found, hfound⟩⟩, ?_⟩
      dsimp only at hout
      split at hout
      · cases hout
      · next hne =>
        rw [Ne, Ne, forall₂_eq_nil hmessages, forall₂_eq_nil hstatuses]
        exact not_and_or.mp hne
    · cases hfields
  · rintro ⟨⟨root, rfl, hobject, hlist⟩, hgiven⟩
    obtain ⟨items, hitems, found, hfound⟩ := (hentries root).mpr hlist
    obtain ⟨hmessages, hstatuses⟩ := normalizeEntries_render (sequence_ok.mp hitems).1 hfound
    rw [Ne, Ne, forall₂_eq_nil hmessages, forall₂_eq_nil hstatuses] at hgiven
    refine ⟨⟨found.flatMap (·.1), found.flatMap (·.2)⟩, ?_⟩
    refine bind_eq_ok.mpr ⟨root, rfl, ?_⟩
    rw [hobject]
    refine bind_eq_ok.mpr ⟨items, hitems, bind_eq_ok.mpr ⟨found, hfound, ?_⟩⟩
    exact if_neg (not_and_or.mpr hgiven)

end Normalizer

/-! ## Timestamps -/

section Timestamps

variable {T : JsonValue → Prop}

/-- `T` holds of the timestamps of some messages and some statuses. -/
def Stamped (T : JsonValue → Prop) (messages : List (String × JsonObject))
    (statuses : List JsonObject) : Prop :=
  (∀ message ∈ messages, T (fieldOf message.2 "timestamp")) ∧
    ∀ status ∈ statuses, T (fieldOf status "timestamp")

theorem stamped_flatMap {α : Type} {xs : List α} {f : α → List (String × JsonObject)}
    {g : α → List JsonObject} :
    Stamped T (xs.flatMap f) (xs.flatMap g) ↔ ∀ x ∈ xs, Stamped T (f x) (g x) := by
  unfold Stamped
  simp only [List.mem_flatMap, forall_exists_index, and_imp]
  constructor
  · rintro ⟨hmessages, hstatuses⟩ x hx
    exact ⟨fun message => hmessages message x hx, fun status => hstatuses status x hx⟩
  · intro h
    exact ⟨fun message x hx => (h x hx).1 message, fun status x hx => (h x hx).2 status⟩

theorem stamped_timestampsOf {payload : JsonValue} :
    Stamped T (messagesOf payload) (statusesOf payload) ↔ ∀ v ∈ timestampsOf payload, T v := by
  unfold timestampsOf
  rw [List.forall_mem_append, List.forall_mem_map, List.forall_mem_map]
  rfl

theorem isMessage_iff {message : JsonObject} :
    IsMessage T message ↔ IsMessage (fun _ => True) message ∧ T (fieldOf message "timestamp") := by
  constructor
  · intro h
    exact ⟨{ h with timestamp := trivial }, h.timestamp⟩
  · rintro ⟨h, htimestamp⟩
    exact { h with timestamp := htimestamp }

theorem isStatus_iff {status : JsonObject} :
    IsStatus T status ↔ IsStatus (fun _ => True) status ∧ T (fieldOf status "timestamp") := by
  constructor
  · intro h
    exact ⟨{ h with timestamp := trivial }, h.timestamp⟩
  · rintro ⟨h, htimestamp⟩
    exact { h with timestamp := htimestamp }

theorem isChange_iff {change : JsonObject} : IsChange T change ↔
    IsChange (fun _ => True) change ∧ Stamped T (messagesOfChange change) (statusesOfChange change) := by
  unfold Stamped messagesOfChange statusesOfChange
  simp only [List.forall_mem_map]
  constructor
  · rintro ⟨hfield, value, hvalue, hphone, hmessages, hstatuses⟩
    obtain ⟨hmessages, hmessageTimes⟩ := (isOptionalList_and fun _ => isMessage_iff).mp hmessages
    obtain ⟨hstatuses, hstatusTimes⟩ := (isOptionalList_and fun _ => isStatus_iff).mp hstatuses
    rw [hvalue, get_obj, get_obj]
    exact ⟨⟨hfield, value, hvalue, hphone, hmessages, hstatuses⟩, hmessageTimes, hstatusTimes⟩
  · rintro ⟨⟨hfield, value, hvalue, hphone, hmessages, hstatuses⟩, hmessageTimes, hstatusTimes⟩
    rw [hvalue, get_obj] at hmessageTimes hstatusTimes
    exact ⟨hfield, value, hvalue, hphone,
      (isOptionalList_and fun _ => isMessage_iff).mpr ⟨hmessages, hmessageTimes⟩,
      (isOptionalList_and fun _ => isStatus_iff).mpr ⟨hstatuses, hstatusTimes⟩⟩

theorem isEntry_iff {entry : JsonObject} : IsEntry T entry ↔ IsEntry (fun _ => True) entry ∧
    Stamped T ((changesOf entry).flatMap messagesOfChange)
      ((changesOf entry).flatMap statusesOfChange) := by
  rw [stamped_flatMap]
  exact isList_and fun _ => isChange_iff

/-- A callback is one whatever its timestamps are, and its timestamps are as they are to be. -/
theorem isCallback_iff {payload : JsonValue} : IsCallback T payload ↔
    IsCallback (fun _ => True) payload ∧ ∀ v ∈ timestampsOf payload, T v := by
  rw [← stamped_timestampsOf, messagesOf, statusesOf, stamped_flatMap]
  constructor
  · rintro ⟨⟨root, rfl, hobject, hentries⟩, hgiven⟩
    obtain ⟨hentries, htimes⟩ := (isList_and fun _ => isEntry_iff).mp hentries
    exact ⟨⟨⟨root, rfl, hobject, hentries⟩, hgiven⟩, htimes⟩
  · rintro ⟨⟨⟨root, rfl, hobject, hentries⟩, hgiven⟩, htimes⟩
    exact ⟨⟨root, rfl, hobject, (isList_and fun _ => isEntry_iff).mpr ⟨hentries, htimes⟩⟩, hgiven⟩

/-- A truth value is all that `IsEpochOrBool` allows and `IsEpoch` does not. -/
theorem isEpoch_iff {v : JsonValue} : IsEpoch v ↔ IsEpochOrBool v ∧ ∀ b, v ≠ .bool b := by
  constructor
  · intro h
    refine ⟨Or.inl h, ?_⟩
    rintro b rfl
    rcases h with ⟨n, h⟩ | ⟨text, h, -⟩
    · cases h
    · cases h
  · rintro ⟨h | ⟨b, rfl⟩, hbool⟩
    · exact h
    · exact absurd rfl (hbool b)

/-- `int` reads the timestamp if it is a text of decimal digits. -/
def IntSucceeds [IntLimit] (v : JsonValue) : Prop :=
  ∀ text, v = .str text → PyInt.isDecimal text.toList →
    ∃ n, PyInt.ofDecimal? IntLimit.maxStrDigits text.toList = some n

theorem converts_iff [IntLimit] {v : JsonValue} (hint : IntSucceeds v) :
    Converts v ↔ IsEpochOrBool v := by
  unfold Converts EpochOf IsEpochOrBool IsEpoch
  cases v with
  | str text =>
      simp only [int?, reduceCtorEq, JsonValue.str.injEq, false_or, exists_false, or_false]
      constructor
      · rintro ⟨n, text, rfl, hdecimal, -⟩
        exact ⟨text, rfl, hdecimal⟩
      · rintro ⟨text, rfl, hdecimal⟩
        obtain ⟨n, hn⟩ := hint text rfl hdecimal
        exact ⟨n, text, rfl, hdecimal, hn⟩
  | bool b => simp [int?]
  | int n => simp [int?]
  | null => simp [int?]
  | float => simp [int?]
  | arr => simp [int?]
  | obj => simp [int?]

end Timestamps

/-- The normalizer returns for the callbacks, with all that they say, unless a timestamp of an otherwise
well-formed callback is a truth value. -/
theorem accepts_grammar_iff [IntLimit] (payload : JsonValue)
    (hint : ∀ v ∈ timestampsOf payload, IntSucceeds v) :
    (((∃ r, normalizeProviderCallback payload = .ok r) ↔ IsCallback IsEpoch payload) ∧
      ∀ r, normalizeProviderCallback payload = .ok r →
        List.Forall₂ MessageOf (messagesOf payload) r.messages ∧
          List.Forall₂ StatusOf (statusesOf payload) r.deliveryStatuses) ↔
    (IsCallback IsEpochOrBool payload → ∀ v ∈ timestampsOf payload, ∀ b, v ≠ .bool b) := by
  have hconverts : IsCallback Converts payload ↔ IsCallback IsEpochOrBool payload := by
    rw [isCallback_iff, isCallback_iff (T := IsEpochOrBool)]
    apply and_congr_right
    rintro -
    exact forall₂_congr fun v hv => converts_iff (hint v hv)
  have hepoch : IsCallback IsEpoch payload ↔
      IsCallback IsEpochOrBool payload ∧ ∀ v ∈ timestampsOf payload, ∀ b, v ≠ .bool b := by
    rw [isCallback_iff, isCallback_iff (T := IsEpochOrBool), and_assoc]
    simp only [isEpoch_iff, forall_and]
  rw [normalizeProviderCallback_accepted, hconverts, hepoch]
  constructor
  · rintro ⟨h, -⟩ hcallback
    exact (h.mp hcallback).2
  · intro h
    refine ⟨⟨fun hcallback => ⟨hcallback, h hcallback⟩, And.left⟩, ?_⟩
    intro r hr
    exact normalizeProviderCallback_renders hr

/-- A callback with one text message. -/
def menuCallback (timestamp : JsonValue) : JsonValue :=
  .obj [("object", .str "whatsapp_business_account"), ("entry", .arr [.obj [("changes", .arr [.obj
    [("field", .str "messages"), ("value", .obj [
      ("metadata", .obj [("phone_number_id", .str "phone-id")]),
      ("messages", .arr [.obj [("id", .str "wamid.1"), ("from", .str "raw-phone"),
        ("timestamp", timestamp), ("type", .str "text"),
        ("text", .obj [("body", .str "Menu")])]])])]])]])]

theorem timestampsOf_menuCallback (timestamp : JsonValue) :
    timestampsOf (menuCallback timestamp) = [timestamp] := rfl

theorem menuCallback_accepted :
    (∃ r, @normalizeProviderCallback ⟨4300⟩ (menuCallback (.str "1")) = .ok r) ↔
      IsCallback IsEpoch (menuCallback (.str "1")) := by
  have hint : ∀ v ∈ timestampsOf (menuCallback (.str "1")), @IntSucceeds ⟨4300⟩ v := by
    rw [timestampsOf_menuCallback, List.forall_mem_singleton]
    rintro text heq -
    obtain rfl := JsonValue.str.inj heq
    exact ⟨1, by decide⟩
  have hdigits : ∀ v ∈ timestampsOf (menuCallback (.str "1")), ∀ b, v ≠ .bool b := by
    rw [timestampsOf_menuCallback, List.forall_mem_singleton]
    simp
  exact ((@accepts_grammar_iff ⟨4300⟩ _ hint).mpr fun _ => hdigits).1

/-- A message of the time `true` is taken for one of the first second. -/
theorem true_taken_for_one :
    @normalizeProviderCallback ⟨4300⟩ (menuCallback (.bool true)) =
        .ok ⟨[⟨"wamid.1", ⟨"raw-phone", by decide⟩, 1, some "Menu", none, none, "phone-id"⟩], []⟩ ∧
      ¬ IsCallback IsEpoch (menuCallback (.bool true)) := by
  refine ⟨rfl, ?_⟩
  intro h
  have hepoch := (isCallback_iff.mp h).2
  rw [timestampsOf_menuCallback, List.forall_mem_singleton] at hepoch
  exact (isEpoch_iff.mp hepoch).2 true rfl

end Callback

end XbosCustomerChannel
