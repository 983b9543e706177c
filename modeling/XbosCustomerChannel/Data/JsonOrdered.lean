import XbosCustomerChannel.Data.Json

/-!
# Compact JSON text in the order of insertion

The text `json.dumps` writes for a value with `separators=(",", ":")` and the default ASCII escapes:
the members of an object stand as they were inserted. Nothing is lost in it: values with one text are
one value (`ordered_inj`), and so are values with the same bytes (`bytes_inj`).
-/

namespace Data

namespace Json

mutual
def ordered : Json → List Char
  | .null => ['n', 'u', 'l', 'l']
  | .int n => n.repr.toList
  | .str s => quote s
  | .arr items => '[' :: (joinComma (orderedItems items) ++ [']'])
  | .obj members => '{' :: (joinComma (orderedMembers members) ++ ['}'])
def orderedItems : List Json → List (List Char)
  | [] => []
  | v :: vs => v.ordered :: orderedItems vs
def orderedMembers : List (String × Json) → List (List Char)
  | [] => []
  | (k, v) :: ms => memberText (k, v.ordered) :: orderedMembers ms
end

/-- `json.dumps(v, separators=(",", ":")).encode("utf-8")`: every character written is ASCII. -/
def bytes (v : Json) : List UInt8 := v.ordered.map (fun c => c.toNat.toUInt8)

/-! ## The scanner passes over it -/

mutual
theorem neutral_ordered : (v : Json) → Neutral v.ordered
  | .null => by
      rw [ordered, ← text]
      exact neutral_text .null
  | .int n => by
      rw [ordered, ← text]
      exact neutral_text (.int n)
  | .str s => by
      rw [ordered]
      exact neutral_quote s
  | .arr items => by
      rw [ordered]
      exact neutral_enclosed (.inl rfl) (.inl rfl) (neutral_orderedItems items)
  | .obj members => by
      rw [ordered]
      exact neutral_enclosed (.inr rfl) (.inr rfl) (neutral_orderedMembers members)
theorem neutral_orderedItems : (vs : List Json) → ∀ t ∈ orderedItems vs, Neutral t
  | [], t, h => by simp [orderedItems] at h
  | v :: vs, t, h => by
      rw [orderedItems] at h
      rcases List.mem_cons.mp h with rfl | h
      · exact neutral_ordered v
      · exact neutral_orderedItems vs t h
theorem neutral_orderedMembers : (ms : List (String × Json)) → ∀ t ∈ orderedMembers ms, Neutral t
  | [], t, h => by simp [orderedMembers] at h
  | (k, v) :: ms, t, h => by
      rw [orderedMembers] at h
      rcases List.mem_cons.mp h with rfl | h
      · exact neutral_colon (neutral_quote k) (neutral_ordered v)
      · exact neutral_orderedMembers ms t h
end

/-! ## Bytes -/

mutual
theorem ascii_ordered : (v : Json) → Ascii v.ordered
  | .null => by
      rw [ordered, ← text]
      exact ascii_text .null
  | .int n => by
      rw [ordered, ← text]
      exact ascii_text (.int n)
  | .str s => by
      rw [ordered]
      exact ascii_quote s
  | .arr items => by
      rw [ordered]
      exact ascii_enclosed (by decide) (by decide) (ascii_orderedItems items)
  | .obj members => by
      rw [ordered]
      exact ascii_enclosed (by decide) (by decide) (ascii_orderedMembers members)
theorem ascii_orderedItems : (vs : List Json) → ∀ t ∈ orderedItems vs, Ascii t
  | [], t, h => by simp [orderedItems] at h
  | v :: vs, t, h => by
      rw [orderedItems] at h
      rcases List.mem_cons.mp h with rfl | h
      · exact ascii_ordered v
      · exact ascii_orderedItems vs t h
theorem ascii_orderedMembers : (ms : List (String × Json)) → ∀ t ∈ orderedMembers ms, Ascii t
  | [], t, h => by simp [orderedMembers] at h
  | (k, v) :: ms, t, h => by
      rw [orderedMembers] at h
      rcases List.mem_cons.mp h with rfl | h
      · exact ascii_memberText (ascii_ordered v)
      · exact ascii_orderedMembers ms t h
end

theorem decode_bytes (v : Json) : v.bytes.map (fun b => Char.ofNat b.toNat) = v.ordered := by
  unfold bytes
  rw [List.map_map]
  conv_rhs => rw [← List.map_id v.ordered]
  apply List.map_congr_left
  intro c hc
  have hc : c.toNat < 128 := ascii_ordered v c hc
  show Char.ofNat (c.toNat % 256) = c
  rw [Nat.mod_eq_of_lt (by omega), Char.ofNat_toNat]

/-! ## Values with one text -/

/-- What a text begins with tells what kind of value it is of. -/
def kind : Json → Nat
  | .null => 0
  | .int _ => 1
  | .str _ => 2
  | .arr _ => 3
  | .obj _ => 4

def kindOfHead (c : Char) : Nat :=
  if c = 'n' then 0 else if c = '"' then 2 else if c = '[' then 3 else if c = '{' then 4 else 1

theorem kindOfHead_digit {c : Char} (h : c.isDigit = true ∨ c = '-') : kindOfHead c = 1 := by
  unfold kindOfHead
  rcases h with h | rfl
  · split_ifs with h₁ h₂ h₃ h₄
    · subst h₁; exact absurd h (by decide)
    · subst h₂; exact absurd h (by decide)
    · subst h₃; exact absurd h (by decide)
    · subst h₄; exact absurd h (by decide)
    · rfl
  · decide

theorem toDigits_ne_nil (n : Nat) : Nat.toDigits 10 n ≠ [] := by
  intro h
  have hlength := @Nat.length_toDigits_pos 10 n
  rw [h] at hlength
  cases hlength

theorem kind_of_head (v : Json) : ∃ c t, v.ordered = c :: t ∧ kindOfHead c = v.kind := by
  cases v with
  | null => exact ⟨'n', ['u', 'l', 'l'], by rw [ordered], rfl⟩
  | str s => exact ⟨'"', _, by rw [ordered, quote], rfl⟩
  | arr items => exact ⟨'[', _, by rw [ordered], rfl⟩
  | obj members => exact ⟨'{', _, by rw [ordered], rfl⟩
  | int n =>
      rw [ordered, repr_toList]
      split
      · obtain ⟨c, t, hdigits⟩ := List.exists_cons_of_ne_nil (toDigits_ne_nil n.toNat)
        refine ⟨c, t, hdigits, kindOfHead_digit (Or.inl ?_)⟩
        have hmem : c ∈ Nat.toDigits 10 n.toNat := by
          rw [hdigits]
          exact List.mem_cons_self
        exact Nat.isDigit_of_mem_toDigits (by decide) (by decide) hmem
      · exact ⟨'-', _, rfl, kindOfHead_digit (Or.inr rfl)⟩

theorem kind_eq {v w : Json} (h : v.ordered = w.ordered) : v.kind = w.kind := by
  obtain ⟨c, t, hv, hc⟩ := kind_of_head v
  obtain ⟨c', t', hw, hc'⟩ := kind_of_head w
  rw [hv, hw] at h
  rw [← hc, ← hc', (List.cons.inj h).1]

theorem ordered_ne_nil (v : Json) : v.ordered ≠ [] := by
  obtain ⟨c, t, hv, -⟩ := kind_of_head v
  rw [hv]
  exact List.cons_ne_nil c t

theorem orderedItems_inj_of_arr {vs ws : List Json} (h : (arr vs).ordered = (arr ws).ordered) :
    orderedItems vs = orderedItems ws := by
  rw [ordered, ordered] at h
  have hne (xs : List Json) : ∀ t ∈ orderedItems xs, Neutral t ∧ t ≠ [] := by
    intro t ht
    refine ⟨neutral_orderedItems xs t ht, ?_⟩
    induction xs with
    | nil => simp [orderedItems] at ht
    | cons x xs ih =>
        rw [orderedItems] at ht
        rcases List.mem_cons.mp ht with rfl | ht
        · exact ordered_ne_nil x
        · exact ih ht
  exact joinComma_inj (hne vs) (hne ws) (List.append_cancel_right (List.cons.inj h).2)

theorem orderedMembers_inj_of_obj {ms ns : List (String × Json)}
    (h : (obj ms).ordered = (obj ns).ordered) : orderedMembers ms = orderedMembers ns := by
  rw [ordered, ordered] at h
  have hne (xs : List (String × Json)) : ∀ t ∈ orderedMembers xs, Neutral t ∧ t ≠ [] := by
    intro t ht
    refine ⟨neutral_orderedMembers xs t ht, ?_⟩
    induction xs with
    | nil => simp [orderedMembers] at ht
    | cons x xs ih =>
        rw [orderedMembers] at ht
        rcases List.mem_cons.mp ht with rfl | ht
        · simp [memberText, quote]
        · exact ih ht
  exact joinComma_inj (hne ms) (hne ns) (List.append_cancel_right (List.cons.inj h).2)

mutual
/-- The text determines the value. -/
theorem ordered_inj : (v w : Json) → v.ordered = w.ordered → v = w
  | .null, w, h => by
      cases w <;> first | rfl | exact absurd (kind_eq h) (by simp [kind])
  | .int m, w, h => by
      cases w with
      | int n =>
          rw [ordered, ordered, ← text, ← text] at h
          rw [text_int_inj h]
      | _ => exact absurd (kind_eq h) (by simp [kind])
  | .str s, w, h => by
      cases w with
      | str s' =>
          rw [ordered, ordered, ← text, ← text] at h
          rw [text_str_inj h]
      | _ => exact absurd (kind_eq h) (by simp [kind])
  | .arr vs, w, h => by
      cases w with
      | arr ws => rw [orderedItems_inj vs ws (orderedItems_inj_of_arr h)]
      | _ => exact absurd (kind_eq h) (by simp [kind])
  | .obj ms, w, h => by
      cases w with
      | obj ns => rw [orderedMembers_inj ms ns (orderedMembers_inj_of_obj h)]
      | _ => exact absurd (kind_eq h) (by simp [kind])
theorem orderedItems_inj : (vs ws : List Json) → orderedItems vs = orderedItems ws → vs = ws
  | [], [], _ => rfl
  | [], w :: ws, h => by
      rw [orderedItems, orderedItems] at h
      cases h
  | v :: vs, [], h => by
      rw [orderedItems, orderedItems] at h
      cases h
  | v :: vs, w :: ws, h => by
      rw [orderedItems, orderedItems] at h
      obtain ⟨hhead, htail⟩ := List.cons.inj h
      rw [ordered_inj v w hhead, orderedItems_inj vs ws htail]
theorem orderedMembers_inj :
    (ms ns : List (String × Json)) → orderedMembers ms = orderedMembers ns → ms = ns
  | [], [], _ => rfl
  | [], n :: ns, h => by
      rw [orderedMembers, orderedMembers] at h
      cases h
  | m :: ms, [], h => by
      rw [orderedMembers, orderedMembers] at h
      cases h
  | (k, v) :: ms, (k', w) :: ns, h => by
      rw [orderedMembers, orderedMembers] at h
      obtain ⟨hhead, htail⟩ := List.cons.inj h
      obtain ⟨hkey, hvalue⟩ := Prod.mk.inj (memberText_inj hhead)
      rw [hkey, ordered_inj v w hvalue, orderedMembers_inj ms ns htail]
end

/-- So do the bytes. -/
theorem bytes_inj {v w : Json} : v.bytes = w.bytes ↔ v = w := by
  constructor
  · intro h
    apply ordered_inj
    rw [← decode_bytes v, h, decode_bytes]
  · rintro rfl
    rfl

end Json

end Data
