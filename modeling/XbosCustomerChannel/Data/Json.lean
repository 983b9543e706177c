import Mathlib.Data.List.Basic
import Mathlib.Data.List.Sort
import Mathlib.Tactic.Linarith

/-!
# Compact JSON text

The text `json.dumps` writes for a value with `sort_keys=True`, `separators=(",", ":")` and the
default ASCII escapes, for values built from null, integers, strings, arrays and objects.

Texts are told apart with a scanner that cuts a value off the front of a text by tracking nesting
and quotation. Every written value is `Neutral` for it: the scanner runs over the value without
stopping and is left as it was. From this follow the inversion lemmas, one for each constructor
(`text_str_inj`, `text_int_inj`, `texts_inj_of_arr`, `mem_memberTexts_of_obj`), by which a caller
reads back, field by field, what two equal texts have in common.
-/

namespace Data

inductive Json
  | null
  | int (n : Int)
  | str (s : String)
  | arr (items : List Json)
  | obj (members : List (String × Json))

namespace Json

/-! ## Writing -/

/-- Four lowercase hexadecimal digits. -/
def hex4 (n : Nat) : List Char :=
  [Nat.digitChar (n / 4096 % 16), Nat.digitChar (n / 256 % 16), Nat.digitChar (n / 16 % 16),
    Nat.digitChar (n % 16)]

/-- One character inside quotation marks. -/
def escape (c : Char) : List Char :=
  if c = '"' then ['\\', '"']
  else if c = '\\' then ['\\', '\\']
  else if c = '\n' then ['\\', 'n']
  else if c = '\r' then ['\\', 'r']
  else if c = '\t' then ['\\', 't']
  else if c.toNat = 12 then ['\\', 'f']
  else if c.toNat = 8 then ['\\', 'b']
  else if 32 ≤ c.toNat ∧ c.toNat < 127 then [c]
  else if c.toNat < 65536 then '\\' :: 'u' :: hex4 c.toNat
  else
    -- outside the basic plane: a surrogate pair
    '\\' :: 'u' :: hex4 (55296 + (c.toNat - 65536) / 1024) ++
      '\\' :: 'u' :: hex4 (56320 + (c.toNat - 65536) % 1024)

def escapeAll (cs : List Char) : List Char := cs.flatMap escape

def quote (s : String) : List Char := '"' :: (escapeAll s.toList ++ ['"'])

def joinComma : List (List Char) → List Char
  | [] => []
  | [t] => t
  | t :: u :: ts => t ++ ',' :: joinComma (u :: ts)

/-- A member of an object. -/
def memberText (m : String × List Char) : List Char := quote m.1 ++ ':' :: m.2

def sortMembers (ms : List (String × List Char)) : List (String × List Char) :=
  ms.insertionSort (fun a b => a.1 ≤ b.1)

mutual
def text : Json → List Char
  | .null => ['n', 'u', 'l', 'l']
  | .int n => n.repr.toList
  | .str s => quote s
  | .arr items => '[' :: (joinComma (texts items) ++ [']'])
  | .obj members => '{' :: (joinComma ((sortMembers (memberTexts members)).map memberText) ++ ['}'])
def texts : List Json → List (List Char)
  | [] => []
  | v :: vs => v.text :: texts vs
def memberTexts : List (String × Json) → List (String × List Char)
  | [] => []
  | (k, v) :: ms => (k, v.text) :: memberTexts ms
end

/-- `json.dumps(v, sort_keys=True, separators=(",", ":")).encode("utf-8")`: every character written
is ASCII (`ascii_text`), so it is encoded as the byte of its code. -/
def encode (v : Json) : List UInt8 := v.text.map (fun c => c.toNat.toUInt8)

theorem texts_eq_map (vs : List Json) : texts vs = vs.map text := by
  induction vs with
  | nil => simp [texts]
  | cons v vs ih => simp [texts, ih]

theorem memberTexts_eq_map (ms : List (String × Json)) :
    memberTexts ms = ms.map (fun m => (m.1, m.2.text)) := by
  induction ms with
  | nil => simp [memberTexts]
  | cons m ms ih => simp [memberTexts, ih]

theorem mem_sortMembers {m : String × List Char} {ms : List (String × List Char)} :
    m ∈ sortMembers ms ↔ m ∈ ms := (List.perm_insertionSort _ ms).mem_iff

/-! ## Escapes -/

theorem digitChar_inj : ∀ a < 16, ∀ b < 16, Nat.digitChar a = Nat.digitChar b → a = b := by
  decide

theorem hex4_inj {m n : Nat} (hm : m < 65536) (hn : n < 65536) {r r' : List Char}
    (h : hex4 m ++ r = hex4 n ++ r') : m = n ∧ r = r' := by
  simp only [hex4, List.cons_append, List.nil_append, List.cons.injEq] at h
  obtain ⟨h₁, h₂, h₃, h₄, hr⟩ := h
  have h₁ := digitChar_inj _ (by omega) _ (by omega) h₁
  have h₂ := digitChar_inj _ (by omega) _ (by omega) h₂
  have h₃ := digitChar_inj _ (by omega) _ (by omega) h₃
  have h₄ := digitChar_inj _ (by omega) _ (by omega) h₄
  exact ⟨by omega, hr⟩

/-- The character a two-character escape stands for. -/
def unescapeShort (x : Char) : Option Char :=
  if x = '"' then some '"'
  else if x = '\\' then some '\\'
  else if x = 'n' then some '\n'
  else if x = 'r' then some '\r'
  else if x = 't' then some '\t'
  else if x = 'f' then some (Char.ofNat 12)
  else if x = 'b' then some (Char.ofNat 8)
  else none

/-- The shapes of an escaped character. -/
inductive EscapeShape (c : Char) : List Char → Prop
  | plain : c ≠ '"' → c ≠ '\\' → EscapeShape c [c]
  | short (x : Char) : x ≠ 'u' → unescapeShort x = some c → EscapeShape c ['\\', x]
  | unit : c.toNat < 65536 → EscapeShape c ('\\' :: 'u' :: hex4 c.toNat)
  | pair : 65536 ≤ c.toNat → EscapeShape c
      ('\\' :: 'u' :: hex4 (55296 + (c.toNat - 65536) / 1024) ++
        '\\' :: 'u' :: hex4 (56320 + (c.toNat - 65536) % 1024))

theorem escape_shape (c : Char) : EscapeShape c (escape c) := by
  unfold escape
  split
  · next h => subst h; exact .short '"' (by decide) (by decide)
  split
  · next h => subst h; exact .short '\\' (by decide) (by decide)
  split
  · next h => subst h; exact .short 'n' (by decide) (by decide)
  split
  · next h => subst h; exact .short 'r' (by decide) (by decide)
  split
  · next h => subst h; exact .short 't' (by decide) (by decide)
  split
  · next h =>
      have hc : c = Char.ofNat 12 := by rw [← h, Char.ofNat_toNat]
      subst hc; exact .short 'f' (by decide) (by decide)
  split
  · next h =>
      have hc : c = Char.ofNat 8 := by rw [← h, Char.ofNat_toNat]
      subst hc; exact .short 'b' (by decide) (by decide)
  split
  · exact .plain ‹_› ‹_›
  split
  · next h => exact .unit h
  · next h => exact .pair (by omega)

theorem toNat_lt (c : Char) : c.toNat < 1114112 := by
  have := c.valid
  rcases this with h | h
  · simp only [Char.toNat]; omega
  · simp only [Char.toNat]; omega

theorem toNat_not_surrogate (c : Char) : c.toNat < 55296 ∨ 57343 < c.toNat := by
  have := c.valid
  rcases this with h | h
  · exact .inl h
  · exact .inr h.1

theorem toNat_inj {c c' : Char} (h : c.toNat = c'.toNat) : c = c' := by
  rw [← Char.ofNat_toNat c, h, Char.ofNat_toNat]

/-- The escapes of characters form a prefix code. -/
theorem escape_inj {c c' : Char} {r r' : List Char} (h : escape c ++ r = escape c' ++ r') :
    c = c' ∧ r = r' := by
  have hs := escape_shape c
  have hs' := escape_shape c'
  generalize escape c = e at h hs
  generalize escape c' = e' at h hs'
  -- the first characters tell the four shapes apart, save one unit from a pair
  cases hs with
  | plain hq hb =>
      cases hs' with
      | plain => simpa using h
      | short x => exact absurd (List.cons.inj h).1 hb
      | unit => exact absurd (List.cons.inj h).1 hb
      | pair => exact absurd (List.cons.inj h).1 hb
  | short x hx hc =>
      cases hs' with
      | plain hq hb => exact absurd (List.cons.inj h).1.symm hb
      | short x' hx' hc' =>
          simp only [List.cons_append, List.nil_append, List.cons.injEq, true_and] at h
          obtain ⟨rfl, hr⟩ := h
          rw [hc] at hc'
          exact ⟨Option.some.inj hc', hr⟩
      | unit => exact absurd (List.cons.inj (List.cons.inj h).2).1 hx
      | pair => exact absurd (List.cons.inj (List.cons.inj h).2).1 hx
  | unit hlt =>
      -- a unit is no surrogate, and a pair starts with one
      have hns := toNat_not_surrogate c
      cases hs' with
      | plain hq hb => exact absurd (List.cons.inj h).1.symm hb
      | short x' hx' => exact absurd (List.cons.inj (List.cons.inj h).2).1.symm hx'
      | unit hlt' =>
          obtain ⟨hn, hr⟩ := hex4_inj hlt hlt' (List.cons.inj (List.cons.inj h).2).2
          exact ⟨toNat_inj hn, hr⟩
      | pair hge =>
          have := toNat_lt c'
          rw [List.append_assoc] at h
          obtain ⟨hn, -⟩ := hex4_inj hlt (by omega) (List.cons.inj (List.cons.inj h).2).2
          omega
  | pair hge =>
      have hlt := toNat_lt c
      rw [List.append_assoc] at h
      cases hs' with
      | plain hq hb => exact absurd (List.cons.inj h).1.symm hb
      | short x' hx' => exact absurd (List.cons.inj (List.cons.inj h).2).1.symm hx'
      | unit hlt' =>
          have hns := toNat_not_surrogate c'
          obtain ⟨hn, -⟩ := hex4_inj (by omega) hlt' (List.cons.inj (List.cons.inj h).2).2
          omega
      | pair hge' =>
          have hlt' := toNat_lt c'
          rw [List.append_assoc] at h
          obtain ⟨hhi, h⟩ := hex4_inj (by omega) (by omega) (List.cons.inj (List.cons.inj h).2).2
          obtain ⟨hlo, hr⟩ := hex4_inj (by omega) (by omega) (List.cons.inj (List.cons.inj h).2).2
          exact ⟨toNat_inj (by omega), hr⟩

/-- No escape starts with the closing quotation mark. -/
theorem escape_head_ne_quote {c : Char} {r t : List Char} (h : escape c ++ r = '"' :: t) : False := by
  have hs := escape_shape c
  generalize escape c = e at h hs
  cases hs with
  | plain hq hb => exact hq (List.cons.inj h).1
  | short x => exact absurd (List.cons.inj h).1 (by decide)
  | unit => exact absurd (List.cons.inj h).1 (by decide)
  | pair => exact absurd (List.cons.inj h).1 (by decide)

theorem escapeAll_inj {cs cs' r r' : List Char}
    (h : escapeAll cs ++ '"' :: r = escapeAll cs' ++ '"' :: r') : cs = cs' ∧ r = r' := by
  induction cs generalizing cs' with
  | nil =>
      cases cs' with
      | nil => simpa [escapeAll] using h
      | cons c cs' =>
          simp only [escapeAll, List.flatMap_nil, List.nil_append, List.flatMap_cons,
            List.append_assoc] at h
          exact (escape_head_ne_quote h.symm).elim
  | cons c cs ih =>
      cases cs' with
      | nil =>
          simp only [escapeAll, List.flatMap_nil, List.nil_append, List.flatMap_cons,
            List.append_assoc] at h
          exact (escape_head_ne_quote h).elim
      | cons c' cs' =>
          simp only [escapeAll, List.flatMap_cons, List.append_assoc] at h
          obtain ⟨hc, ht⟩ := escape_inj h
          obtain ⟨hcs, hr⟩ := ih ht
          exact ⟨by rw [hc, hcs], hr⟩

theorem quote_append_inj {s s' : String} {r r' : List Char} (h : quote s ++ r = quote s' ++ r') :
    s = s' ∧ r = r' := by
  simp only [quote, List.cons_append, List.append_assoc, List.nil_append, List.cons.injEq,
    true_and] at h
  obtain ⟨hs, hr⟩ := escapeAll_inj h
  exact ⟨String.toList_inj.mp hs, hr⟩

/-! ## Cutting a value off a text -/

/-- Outside a string, inside one, or just after a backslash in one. -/
inductive Mode
  | out
  | inside
  | escaped

/-- Read characters until a comma or a closing bracket of depth `0`; return what was read and the
rest. -/
def scan : Nat → Mode → List Char → List Char × List Char
  | _, _, [] => ([], [])
  | d, .out, c :: cs =>
      if c = '"' then (c :: (scan d .inside cs).1, (scan d .inside cs).2)
      else if c = '[' ∨ c = '{' then (c :: (scan (d + 1) .out cs).1, (scan (d + 1) .out cs).2)
      else if d = 0 ∧ (c = ',' ∨ c = ']' ∨ c = '}') then ([], c :: cs)
      else if c = ']' ∨ c = '}' then (c :: (scan (d - 1) .out cs).1, (scan (d - 1) .out cs).2)
      else (c :: (scan d .out cs).1, (scan d .out cs).2)
  | d, .inside, c :: cs =>
      if c = '"' then (c :: (scan d .out cs).1, (scan d .out cs).2)
      else if c = '\\' then (c :: (scan d .escaped cs).1, (scan d .escaped cs).2)
      else (c :: (scan d .inside cs).1, (scan d .inside cs).2)
  | d, .escaped, c :: cs => (c :: (scan d .inside cs).1, (scan d .inside cs).2)

/-- The scanner runs over `t` without stopping, from depth `d` and mode `m` to depth `d'` and mode
`m'`. -/
def Passes (d : Nat) (m : Mode) (d' : Nat) (m' : Mode) (t : List Char) : Prop :=
  ∀ r, scan d m (t ++ r) = (t ++ (scan d' m' r).1, (scan d' m' r).2)

theorem Passes.nil (d : Nat) (m : Mode) : Passes d m d m [] := fun _ => rfl

theorem Passes.append {d₁ d₂ d₃ : Nat} {m₁ m₂ m₃ : Mode} {t u : List Char}
    (ht : Passes d₁ m₁ d₂ m₂ t) (hu : Passes d₂ m₂ d₃ m₃ u) : Passes d₁ m₁ d₃ m₃ (t ++ u) := by
  intro r
  rw [List.append_assoc, ht, hu, List.append_assoc]

theorem Passes.cons {d₁ d₂ d₃ : Nat} {m₁ m₂ m₃ : Mode} {c : Char} {u : List Char}
    (hc : Passes d₁ m₁ d₂ m₂ [c]) (hu : Passes d₂ m₂ d₃ m₃ u) : Passes d₁ m₁ d₃ m₃ (c :: u) :=
  hc.append hu

/-- A text the scanner passes at every depth. -/
def Neutral (t : List Char) : Prop := ∀ d, Passes d .out d .out t

/-! ### Single characters -/

theorem passes_inside {d : Nat} {c : Char} (hq : c ≠ '"') (hb : c ≠ '\\') :
    Passes d .inside d .inside [c] := by
  intro r; simp [scan, hq, hb]

theorem passes_openQuote (d : Nat) : Passes d .out d .inside ['"'] := by
  intro r; simp [scan]

theorem passes_closeQuote (d : Nat) : Passes d .inside d .out ['"'] := by
  intro r; simp [scan]

theorem passes_open {c : Char} (hc : c = '[' ∨ c = '{') (d : Nat) :
    Passes d .out (d + 1) .out [c] := by
  intro r
  rcases hc with rfl | rfl <;> simp [scan]

theorem passes_close {c : Char} (hc : c = ']' ∨ c = '}') (d : Nat) :
    Passes (d + 1) .out d .out [c] := by
  intro r
  rcases hc with rfl | rfl <;> simp [scan]

/-- Commas between values do not stop the scanner below depth `0`. -/
theorem passes_comma (d : Nat) : Passes (d + 1) .out (d + 1) .out [','] := by
  intro r; simp [scan]

/-- A character that neither opens, closes, quotes nor separates. -/
def Plain (c : Char) : Prop :=
  c ≠ '"' ∧ c ≠ '[' ∧ c ≠ '{' ∧ c ≠ ',' ∧ c ≠ ']' ∧ c ≠ '}'

instance (c : Char) : Decidable (Plain c) := inferInstanceAs (Decidable (_ ∧ _))

theorem neutral_plain {c : Char} (h : Plain c) : Neutral [c] := by
  obtain ⟨h₁, h₂, h₃, h₄, h₅, h₆⟩ := h
  intro d r
  simp [scan, h₁, h₂, h₃, h₄, h₅, h₆]

/-! ### Texts -/

theorem digitChar_plain : ∀ n < 16, Nat.digitChar n ≠ '"' ∧ Nat.digitChar n ≠ '\\' := by
  decide

theorem passes_hex4 (d n : Nat) : Passes d .inside d .inside (hex4 n) := by
  have h (m : Nat) : Passes d .inside d .inside [Nat.digitChar (m % 16)] :=
    have hm := digitChar_plain (m % 16) (by omega)
    passes_inside hm.1 hm.2
  exact (h _).cons ((h _).cons ((h _).cons (h _)))

theorem passes_unit (d n : Nat) : Passes d .inside d .inside ('\\' :: 'u' :: hex4 n) := by
  intro r
  simp [scan, passes_hex4 d n r]

theorem passes_escape (d : Nat) (c : Char) : Passes d .inside d .inside (escape c) := by
  have hs := escape_shape c
  generalize escape c = e at hs ⊢
  cases hs with
  | plain hq hb => exact passes_inside hq hb
  | short x => intro r; simp [scan]
  | unit => exact passes_unit d _
  | pair => exact (passes_unit d _).append (passes_unit d _)

theorem passes_escapeAll (d : Nat) (cs : List Char) :
    Passes d .inside d .inside (escapeAll cs) := by
  induction cs with
  | nil => exact .nil d _
  | cons c cs ih => exact (passes_escape d c).append ih

theorem neutral_quote (s : String) : Neutral (quote s) := fun d =>
  (passes_openQuote d).cons ((passes_escapeAll d _).append (passes_closeQuote d))

theorem neutral_of_plain {t : List Char} (h : ∀ c ∈ t, Plain c) : Neutral t := by
  intro d
  induction t with
  | nil => exact .nil d _
  | cons c cs ih =>
      exact (neutral_plain (h c (by simp)) d).cons (ih (fun x hx => h x (by simp [hx])))

theorem plain_of_isDigit {c : Char} (h : c.isDigit) : Plain c := by
  refine ⟨?_, ?_, ?_, ?_, ?_, ?_⟩ <;> · rintro rfl; exact absurd h (by decide)

theorem plain_of_mem_toDigits {n : Nat} {c : Char} (h : c ∈ Nat.toDigits 10 n) : Plain c :=
  plain_of_isDigit (Nat.isDigit_of_mem_toDigits (by decide) (by decide) h)

theorem plain_of_mem_repr {n : Int} {c : Char} (h : c ∈ n.repr.toList) : Plain c := by
  rw [Int.repr_eq_if] at h
  split at h
  · exact plain_of_mem_toDigits (by simpa using h)
  · rcases (by simpa using h : c = '-' ∨ c ∈ Nat.toDigits 10 (-n).toNat) with rfl | h
    · decide
    · exact plain_of_mem_toDigits h

theorem neutral_colon {t u : List Char} (ht : Neutral t) (hu : Neutral u) :
    Neutral (t ++ ':' :: u) := fun d =>
  (ht d).append ((neutral_plain (by decide) d).cons (hu d))

theorem passes_joinComma {ts : List (List Char)} (h : ∀ t ∈ ts, Neutral t) (d : Nat) :
    Passes (d + 1) .out (d + 1) .out (joinComma ts) := by
  induction ts with
  | nil => exact .nil _ _
  | cons t ts ih =>
      cases ts with
      | nil => exact h t (by simp) _
      | cons u us =>
          have hrest := ih (fun x hx => h x (by simp [hx]))
          exact (h t (by simp) _).append ((passes_comma d).cons hrest)

theorem neutral_enclosed {o c : Char} (ho : o = '[' ∨ o = '{') (hc : c = ']' ∨ c = '}')
    {ts : List (List Char)} (h : ∀ t ∈ ts, Neutral t) : Neutral (o :: (joinComma ts ++ [c])) :=
  fun d => (passes_open ho d).cons ((passes_joinComma h d).append (passes_close hc d))

mutual
/-- The scanner passes over every written value. -/
theorem neutral_text : (v : Json) → Neutral v.text
  | .null => by
      rw [text]
      have hall : ['n', 'u', 'l', 'l'].all (fun c => decide (Plain c)) = true := by decide
      exact neutral_of_plain fun c hc => of_decide_eq_true (List.all_eq_true.mp hall c hc)
  | .int n => by
      rw [text]
      exact neutral_of_plain fun c => plain_of_mem_repr
  | .str s => by
      rw [text]
      exact neutral_quote s
  | .arr items => by
      rw [text]
      exact neutral_enclosed (.inl rfl) (.inl rfl) (neutral_texts items)
  | .obj members => by
      rw [text]
      refine neutral_enclosed (.inr rfl) (.inr rfl) fun t ht => ?_
      obtain ⟨m, hm, rfl⟩ := List.mem_map.mp ht
      exact neutral_colon (neutral_quote _) (neutral_memberTexts members m (mem_sortMembers.mp hm))
theorem neutral_texts : (vs : List Json) → ∀ t ∈ texts vs, Neutral t
  | [], t, h => by simp [texts] at h
  | v :: vs, t, h => by
      rw [texts] at h
      rcases List.mem_cons.mp h with rfl | h
      · exact neutral_text v
      · exact neutral_texts vs t h
theorem neutral_memberTexts :
    (ms : List (String × Json)) → ∀ m ∈ memberTexts ms, Neutral m.2
  | [], m, h => by simp [memberTexts] at h
  | (k, v) :: ms, m, h => by
      rw [memberTexts] at h
      rcases List.mem_cons.mp h with rfl | h
      · exact neutral_text v
      · exact neutral_memberTexts ms m h
end

/-! ## Bytes -/

def Ascii (t : List Char) : Prop := ∀ c ∈ t, c.toNat < 128

theorem ascii_of_all {t : List Char} (h : t.all (fun c => c.toNat < 128) = true) : Ascii t :=
  fun c hc => of_decide_eq_true (List.all_eq_true.mp h c hc)

theorem ascii_hex4 (n : Nat) : Ascii (hex4 n) := by
  have hdigit : ∀ m < 16, (Nat.digitChar m).toNat < 128 := by decide
  intro c hc
  simp only [hex4, List.mem_cons, List.not_mem_nil, or_false] at hc
  obtain rfl | rfl | rfl | rfl := hc <;> exact hdigit _ (by omega)

theorem ascii_escape (c : Char) : Ascii (escape c) := by
  have hunit (n : Nat) : Ascii ('\\' :: 'u' :: hex4 n) := by
    intro x hx
    rcases List.mem_cons.mp hx with rfl | hx
    · decide
    rcases List.mem_cons.mp hx with rfl | hx
    · decide
    exact ascii_hex4 n x hx
  unfold escape
  split_ifs
  all_goals first
    | exact hunit _
    | (intro x hx
       rcases List.mem_append.mp hx with hx | hx
       · exact hunit _ x hx
       · exact hunit _ x hx)
    | exact ascii_of_all (by decide)
    | skip
  -- a printable character that stands for itself
  intro x hx
  obtain rfl := List.mem_singleton.mp hx
  omega

theorem ascii_quote (s : String) : Ascii (quote s) := by
  intro x hx
  rcases List.mem_cons.mp hx with rfl | hx
  · decide
  rcases List.mem_append.mp hx with hx | hx
  · obtain ⟨c, -, hc⟩ := List.mem_flatMap.mp hx
    exact ascii_escape c x hc
  · obtain rfl := List.mem_singleton.mp hx
    decide

theorem ascii_toDigits (n : Nat) : Ascii (Nat.toDigits 10 n) := by
  intro c hc
  have hd : c.isDigit = true := Nat.isDigit_of_mem_toDigits (by decide) (by decide) hc
  simp only [Char.isDigit, Bool.and_eq_true, decide_eq_true_eq, UInt32.le_iff_toNat_le] at hd
  have h57 : c.val.toNat ≤ 57 := hd.2
  show c.val.toNat < 128
  omega

theorem ascii_joinComma {ts : List (List Char)} (h : ∀ t ∈ ts, Ascii t) : Ascii (joinComma ts) := by
  induction ts with
  | nil => intro c hc; cases hc
  | cons t ts ih =>
      cases ts with
      | nil => exact h t (by simp)
      | cons u us =>
          intro c hc
          rcases List.mem_append.mp hc with hc | hc
          · exact h t (by simp) c hc
          rcases List.mem_cons.mp hc with rfl | hc
          · decide
          · exact ih (fun x hx => h x (by simp [hx])) c hc

theorem ascii_enclosed {o c : Char} (ho : o.toNat < 128) (hc : c.toNat < 128)
    {ts : List (List Char)} (h : ∀ t ∈ ts, Ascii t) : Ascii (o :: (joinComma ts ++ [c])) := by
  intro x hx
  rcases List.mem_cons.mp hx with rfl | hx
  · exact ho
  rcases List.mem_append.mp hx with hx | hx
  · exact ascii_joinComma h x hx
  · obtain rfl := List.mem_singleton.mp hx
    exact hc

theorem ascii_memberText {k : String} {t : List Char} (ht : Ascii t) : Ascii (memberText (k, t)) := by
  intro x hx
  rcases List.mem_append.mp hx with hx | hx
  · exact ascii_quote k x hx
  rcases List.mem_cons.mp hx with rfl | hx
  · decide
  · exact ht x hx

mutual
theorem ascii_text : (v : Json) → Ascii v.text
  | .null => by
      rw [text]
      exact ascii_of_all (by decide)
  | .int n => by
      rw [text, Int.repr_eq_if]
      intro c hc
      split at hc
      · exact ascii_toDigits _ c (by simpa using hc)
      · rcases (by simpa using hc : c = '-' ∨ c ∈ Nat.toDigits 10 (-n).toNat) with rfl | hc
        · decide
        · exact ascii_toDigits _ c hc
  | .str s => by
      rw [text]
      exact ascii_quote s
  | .arr items => by
      rw [text]
      exact ascii_enclosed (by decide) (by decide) (ascii_texts items)
  | .obj members => by
      rw [text]
      refine ascii_enclosed (by decide) (by decide) fun t ht => ?_
      obtain ⟨m, hm, rfl⟩ := List.mem_map.mp ht
      exact ascii_memberText (ascii_memberTexts members m (mem_sortMembers.mp hm))
theorem ascii_texts : (vs : List Json) → ∀ t ∈ texts vs, Ascii t
  | [], t, h => by simp [texts] at h
  | v :: vs, t, h => by
      rw [texts] at h
      rcases List.mem_cons.mp h with rfl | h
      · exact ascii_text v
      · exact ascii_texts vs t h
theorem ascii_memberTexts : (ms : List (String × Json)) → ∀ m ∈ memberTexts ms, Ascii m.2
  | [], m, h => by simp [memberTexts] at h
  | (k, v) :: ms, m, h => by
      rw [memberTexts] at h
      rcases List.mem_cons.mp h with rfl | h
      · exact ascii_text v
      · exact ascii_memberTexts ms m h
end

theorem decode_encode (v : Json) : v.encode.map (fun b => Char.ofNat b.toNat) = v.text := by
  unfold encode
  rw [List.map_map]
  conv_rhs => rw [← List.map_id v.text]
  apply List.map_congr_left
  intro c hc
  have hc : c.toNat < 128 := ascii_text v c hc
  show Char.ofNat (c.toNat % 256) = c
  rw [Nat.mod_eq_of_lt (by omega), Char.ofNat_toNat]

/-- The bytes determine the text. -/
theorem text_eq_of_encode_eq {v w : Json} (h : v.encode = w.encode) : v.text = w.text := by
  rw [← decode_encode v, h, decode_encode]

/-! ## What equal texts have in common -/

theorem text_cases_ne {v : Json} : v.text ≠ [] := by
  cases v with
  | null => simp [text]
  | int n =>
      intro h
      rw [text, Int.repr_eq_if] at h
      split at h <;> simp at h
  | str s => simp [text, quote]
  | arr items => simp [text]
  | obj members => simp [text]

/-- Neutral texts that stop before a comma, or end. -/
theorem neutral_append_inj {t u r r' : List Char} (ht : Neutral t) (hu : Neutral u)
    (hr : r = [] ∨ ∃ x, r = ',' :: x) (hr' : r' = [] ∨ ∃ x, r' = ',' :: x)
    (h : t ++ r = u ++ r') : t = u ∧ r = r' := by
  have hstop {x : List Char} (hx : x = [] ∨ ∃ y, x = ',' :: y) : scan 0 .out x = ([], x) := by
    rcases hx with rfl | ⟨y, rfl⟩
    · rfl
    · simp [scan]
  have hscan := congrArg (scan 0 .out) h
  rw [ht 0, hu 0, hstop hr, hstop hr'] at hscan
  simpa using hscan

theorem joinComma_cons (t : List Char) (ts : List (List Char)) :
    ∃ r, joinComma (t :: ts) = t ++ r ∧
      (ts = [] ∧ r = [] ∨ ts ≠ [] ∧ r = ',' :: joinComma ts) := by
  cases ts with
  | nil => exact ⟨[], by simp [joinComma], .inl ⟨rfl, rfl⟩⟩
  | cons u us => exact ⟨',' :: joinComma (u :: us), rfl, .inr ⟨by simp, rfl⟩⟩

/-- A joined list of non-empty neutral texts can be split in one way only. -/
theorem joinComma_inj {ts us : List (List Char)} (ht : ∀ t ∈ ts, Neutral t ∧ t ≠ [])
    (hu : ∀ u ∈ us, Neutral u ∧ u ≠ []) (h : joinComma ts = joinComma us) : ts = us := by
  induction ts generalizing us with
  | nil =>
      cases us with
      | nil => rfl
      | cons u us =>
          obtain ⟨r, hr, -⟩ := joinComma_cons u us
          rw [hr] at h
          exact absurd (List.append_eq_nil_iff.mp h.symm).1 (hu u (by simp)).2
  | cons t ts ih =>
      cases us with
      | nil =>
          obtain ⟨r, hr, -⟩ := joinComma_cons t ts
          rw [hr] at h
          exact absurd (List.append_eq_nil_iff.mp h).1 (ht t (by simp)).2
      | cons u us =>
          obtain ⟨r, hr, hcase⟩ := joinComma_cons t ts
          obtain ⟨r', hr', hcase'⟩ := joinComma_cons u us
          rw [hr, hr'] at h
          obtain ⟨htu, hrr⟩ := neutral_append_inj (ht t (by simp)).1 (hu u (by simp)).1
            (hcase.imp (·.2) fun h => ⟨_, h.2⟩) (hcase'.imp (·.2) fun h => ⟨_, h.2⟩) h
          have hrest : ts = us := by
            rcases hcase with ⟨rfl, rfl⟩ | ⟨-, rfl⟩ <;> rcases hcase' with ⟨rfl, rfl⟩ | ⟨-, rfl⟩
            · rfl
            · cases hrr
            · cases hrr
            · exact ih (fun x hx => ht x (by simp [hx])) (fun x hx => hu x (by simp [hx]))
                (List.cons.inj hrr).2
          rw [htu, hrest]

theorem text_str_inj {s s' : String} (h : (str s).text = (str s').text) : s = s' := by
  rw [text, text] at h
  exact (quote_append_inj (congrArg (· ++ []) h)).1

theorem text_null_ne_str {s : String} : null.text ≠ (str s).text := by
  simp [text, quote]

theorem toDigits_inj {m n : Nat} (h : Nat.toDigits 10 m = Nat.toDigits 10 n) : m = n := by
  rw [← @Nat.ofDigitChars_ten_toDigits m, h, Nat.ofDigitChars_ten_toDigits]

theorem toString_inj {m n : Nat} (h : toString m = toString n) : m = n := by
  rw [Nat.toString_eq_repr, Nat.toString_eq_repr, Nat.repr, Nat.repr] at h
  exact toDigits_inj (String.ofList_injective h)

theorem minus_cons_ne_toDigits {n : Nat} {r : List Char} (h : '-' :: r = Nat.toDigits 10 n) :
    False := by
  have hmem : '-' ∈ Nat.toDigits 10 n := by rw [← h]; simp
  exact absurd (Nat.isDigit_of_mem_toDigits (by decide) (by decide) hmem) (by decide)

theorem repr_toList (n : Int) :
    n.repr.toList =
      if 0 ≤ n then Nat.toDigits 10 n.toNat else '-' :: Nat.toDigits 10 (-n).toNat := by
  rw [Int.repr_eq_if]
  split <;> simp

theorem text_int_inj {m n : Int} (h : (int m).text = (int n).text) : m = n := by
  rw [text, text, repr_toList, repr_toList] at h
  split at h <;> split at h
  · have := toDigits_inj h
    omega
  · exact (minus_cons_ne_toDigits h.symm).elim
  · exact (minus_cons_ne_toDigits h).elim
  · have := toDigits_inj (List.cons.inj h).2
    omega

theorem texts_inj_of_arr {vs ws : List Json} (h : (arr vs).text = (arr ws).text) :
    texts vs = texts ws := by
  rw [text, text] at h
  have hne (xs : List Json) : ∀ t ∈ texts xs, Neutral t ∧ t ≠ [] := by
    intro t ht
    refine ⟨neutral_texts xs t ht, ?_⟩
    rw [texts_eq_map] at ht
    obtain ⟨v, -, rfl⟩ := List.mem_map.mp ht
    exact text_cases_ne
  exact joinComma_inj (hne vs) (hne ws) (List.append_cancel_right (List.cons.inj h).2)

theorem memberText_inj {m m' : String × List Char} (h : memberText m = memberText m') : m = m' := by
  obtain ⟨hk, ht⟩ := quote_append_inj h
  exact Prod.ext hk (List.cons.inj ht).2

/-- Objects with one text have the same members, up to the texts of the values. -/
theorem mem_memberTexts_of_obj {ms ns : List (String × Json)} (h : (obj ms).text = (obj ns).text)
    {m : String × List Char} (hm : m ∈ memberTexts ms) : m ∈ memberTexts ns := by
  rw [text, text] at h
  have hne (xs : List (String × Json)) :
      ∀ t ∈ (sortMembers (memberTexts xs)).map memberText, Neutral t ∧ t ≠ [] := by
    intro t ht
    obtain ⟨m, hm, rfl⟩ := List.mem_map.mp ht
    exact ⟨neutral_colon (neutral_quote _) (neutral_memberTexts xs m (mem_sortMembers.mp hm)),
      by simp [memberText, quote]⟩
  have hjoin := joinComma_inj (hne ms) (hne ns) (List.append_cancel_right (List.cons.inj h).2)
  have hmem : memberText m ∈ (sortMembers (memberTexts ns)).map memberText := by
    rw [← hjoin]
    exact List.mem_map_of_mem (mem_sortMembers.mpr hm)
  obtain ⟨m', hm', heq⟩ := List.mem_map.mp hmem
  rw [← memberText_inj heq]
  exact mem_sortMembers.mp hm'

/-- Members at one place of two objects with one text, if they have one key. -/
theorem text_eq_of_obj {ms ns : List (String × Json)} (h : (obj ms).text = (obj ns).text)
    (hkeys : (ns.map (·.1)).Nodup) {k : String} {v w : Json} {i : Nat}
    (hv : ms[i]? = some (k, v)) (hw : ns[i]? = some (k, w)) : v.text = w.text := by
  have hmem : (k, v.text) ∈ memberTexts ms := by
    rw [memberTexts_eq_map]
    exact List.mem_map_of_mem (List.mem_of_getElem? hv)
  have hmem' := mem_memberTexts_of_obj h hmem
  rw [memberTexts_eq_map] at hmem'
  obtain ⟨⟨k', w'⟩, hw', heq⟩ := List.mem_map.mp hmem'
  obtain ⟨rfl, htext⟩ := Prod.ext_iff.mp heq
  -- a key occurs once
  obtain rfl : w' = w := congrArg Prod.snd
    (List.inj_on_of_nodup_map hkeys hw' (List.mem_of_getElem? hw) rfl)
  exact htext.symm

/-- Arrays with one text agree in whatever the texts of their items determine. -/
theorem map_eq_of_arr {α β : Type} {f : α → Json} {g : α → β}
    (hg : ∀ x y, (f x).text = (f y).text → g x = g y) {xs ys : List α}
    (h : (arr (xs.map f)).text = (arr (ys.map f)).text) : xs.map g = ys.map g := by
  have htexts := texts_inj_of_arr h
  rw [texts_eq_map, texts_eq_map, List.map_map, List.map_map] at htexts
  clear h
  induction xs generalizing ys with
  | nil =>
      cases ys with
      | nil => rfl
      | cons y ys => cases htexts
  | cons x xs ih =>
      cases ys with
      | nil => cases htexts
      | cons y ys =>
          obtain ⟨hx, hxs⟩ := List.cons.inj htexts
          rw [List.map_cons, List.map_cons, hg x y hx, ih hxs]

end Json

end Data
