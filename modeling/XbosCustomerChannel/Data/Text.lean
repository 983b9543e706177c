import Mathlib.Algebra.GroupWithZero.Nat
import Mathlib.Data.List.DropRight

/-!
# Text as Python handles it

Splitting, prefixes and surrounding whitespace, and the URL-safe base64 of a byte string. Most texts
are lists of characters here; the callers convert.
-/

namespace Data

namespace Text

/-- `text.split(sep, n)`. -/
def split (sep : Char) : Nat → List Char → List (List Char)
  | 0, cs => [cs]
  | n + 1, cs =>
      match cs.dropWhile (· ≠ sep) with
      | [] => [cs]
      | _ :: rest => cs.takeWhile (· ≠ sep) :: split sep n rest

/-- `text.rsplit(sep, 1)[1]`, of a text that has the separator. -/
def afterLast (sep : Char) (cs : List Char) : List Char := cs.rtakeWhile (· ≠ sep)

/-- `text.rstrip(c)`. -/
def rstrip (c : Char) (cs : List Char) : List Char := cs.rdropWhile (· = c)

/-- The rest of a text after a prefix, which it may not have. -/
def afterPrefix (pfx text : String) : Option String :=
  (pfx.toList.isPrefixOf? text.toList).map String.ofList

/-- `c.isspace()`. -/
def isSpace (c : Char) : Bool :=
  c.toNat ∈ [0x9, 0xa, 0xb, 0xc, 0xd, 0x1c, 0x1d, 0x1e, 0x1f, 0x20, 0x85, 0xa0, 0x1680, 0x2000, 0x2001,
    0x2002, 0x2003, 0x2004, 0x2005, 0x2006, 0x2007, 0x2008, 0x2009, 0x200a, 0x2028, 0x2029, 0x202f,
    0x205f, 0x3000]

/-- `text.strip()`. -/
def strip (cs : List Char) : List Char := (cs.dropWhile isSpace).rdropWhile isSpace

/-- `text.isascii()`. -/
def isAscii (cs : List Char) : Bool := cs.all (·.toNat < 128)

@[simp] theorem afterPrefix_append (pfx rest : String) : afterPrefix pfx (pfx ++ rest) = some rest := by
  have hlist (cs rest : List Char) : cs.isPrefixOf? (cs ++ rest) = some rest := by
    induction cs with
    | nil => rfl
    | cons c cs ih => simp [List.isPrefixOf?, ih]
  simp [afterPrefix, hlist]

theorem afterPrefix_eq_some {pfx text rest : String} :
    afterPrefix pfx text = some rest ↔ text = pfx ++ rest := by
  constructor
  · intro h
    have hlist : ∀ cs ds rest : List Char, cs.isPrefixOf? ds = some rest → ds = cs ++ rest := by
      intro cs
      induction cs with
      | nil =>
          intro ds rest h
          exact Option.some.inj h
      | cons c cs ih =>
          intro ds rest h
          cases ds with
          | nil => cases h
          | cons d ds =>
              rw [List.isPrefixOf?] at h
              split at h
              · next heq => rw [ih ds rest h, eq_of_beq heq, List.cons_append]
              · cases h
    obtain ⟨rest', hrest, rfl⟩ := Option.map_eq_some_iff.mp h
    apply String.toList_injective
    rw [String.toList_append, String.toList_ofList, hlist _ _ _ hrest]
  · rintro rfl
    exact afterPrefix_append pfx rest

/-- What is stripped is made of one character. -/
theorem rstrip_append (c : Char) (cs : List Char) : ∃ n, cs = rstrip c cs ++ List.replicate n c := by
  have hall : ∀ c' ∈ cs.rtakeWhile (· = c), c' = c := fun c' hc' => by
    simpa using List.mem_rtakeWhile_imp hc'
  refine ⟨(cs.rtakeWhile (· = c)).length, ?_⟩
  rw [← List.eq_replicate_of_mem hall]
  exact List.rdropWhile_append_rtakeWhile.symm

/-! ## Splitting -/

/-- A text ends before its first separator, or it is the text before it and the split of the rest. -/
theorem split_succ_cases (sep : Char) (n : Nat) (cs : List Char) :
    sep ∉ cs ∧ split sep (n + 1) cs = [cs] ∨
      ∃ word rest, sep ∉ word ∧ cs = word ++ sep :: rest ∧
        split sep (n + 1) cs = word :: split sep n rest := by
  have hwhole := List.takeWhile_append_dropWhile (p := (· ≠ sep)) (l := cs)
  have hword : sep ∉ cs.takeWhile (· ≠ sep) := fun h => by simpa using List.mem_takeWhile_imp h
  rw [split]
  split
  · next hnone =>
      rw [hnone, List.append_nil] at hwhole
      rw [hwhole] at hword
      exact .inl ⟨hword, rfl⟩
  · next c rest hsome =>
      have hsep : c = sep := by
        have hc := List.head?_dropWhile_not (fun c => decide (c ≠ sep)) cs
        rw [hsome] at hc
        simpa using hc
      subst hsep
      rw [hsome] at hwhole
      exact .inr ⟨_, rest, hword, hwhole.symm, rfl⟩

theorem split_append {sep : Char} {word : List Char} (h : sep ∉ word) (n : Nat) (rest : List Char) :
    split sep (n + 1) (word ++ sep :: rest) = word :: split sep n rest := by
  have hall : ∀ c ∈ word, decide (c ≠ sep) = true := by
    intro c hc
    rw [decide_eq_true_iff]
    rintro rfl
    exact h hc
  rw [split, List.dropWhile_append_of_pos hall, List.takeWhile_append_of_pos hall,
    List.dropWhile_cons_of_neg (by simp), List.takeWhile_cons_of_neg (by simp), List.append_nil]

/-- Splitting takes a text apart at its separators. -/
theorem intercalate_split (sep : Char) (n : Nat) (cs : List Char) :
    [sep].intercalate (split sep n cs) = cs := by
  induction n generalizing cs with
  | zero => exact List.intercalate_singleton
  | succ n ih =>
      rcases split_succ_cases sep n cs with ⟨-, hsplit⟩ | ⟨word, rest, -, hcs, hsplit⟩
      · rw [hsplit, List.intercalate_singleton]
      · have hne : split sep n rest ≠ [] := by
          intro hnil
          cases n with
          | zero => cases hnil
          | succ n =>
              rcases split_succ_cases sep n rest with ⟨-, h⟩ | ⟨_, _, -, -, h⟩ <;>
                rw [h] at hnil <;> cases hnil
        rw [hsplit, List.intercalate_cons_of_ne_nil hne, ih, hcs]
        simp

/-- No word but the last has the separator. -/
theorem notMem_of_mem_split {sep : Char} {n : Nat} {cs last : List Char} {words : List (List Char)}
    (h : split sep n cs = words ++ [last]) : ∀ word ∈ words, sep ∉ word := by
  induction n generalizing cs words with
  | zero =>
      intro word hword
      have hlength := congrArg List.length h
      simp only [split, List.length_append, List.length_singleton, Nat.right_eq_add] at hlength
      rw [List.length_eq_zero_iff.mp hlength] at hword
      cases hword
  | succ n ih =>
      intro word hword
      obtain ⟨first, words, rfl⟩ := List.exists_cons_of_ne_nil (List.ne_nil_of_mem hword)
      rcases split_succ_cases sep n cs with ⟨-, hsplit⟩ | ⟨_, rest, hfirst, -, hsplit⟩
      · rw [hsplit] at h
        simp at h
      · rw [hsplit, List.cons_append, List.cons.injEq] at h
        obtain ⟨rfl, hrest⟩ := h
        rcases List.mem_cons.mp hword with rfl | hword
        · exact hfirst
        · exact ih hrest word hword

/-- Words without the separator are found again; the last may be any text. -/
theorem split_intercalate {sep : Char} {words : List (List Char)} (last : List Char)
    (h : ∀ word ∈ words, sep ∉ word) :
    split sep words.length ([sep].intercalate (words ++ [last])) = words ++ [last] := by
  induction words with
  | nil => simp [split]
  | cons word words ih =>
      have hjoined : [sep].intercalate (word :: (words ++ [last])) =
          word ++ sep :: [sep].intercalate (words ++ [last]) := by
        rw [List.intercalate_cons_of_ne_nil (by simp)]
        simp
      rw [List.cons_append, hjoined, List.length_cons, split_append (h word (by simp)),
        ih fun w hw => h w (by simp [hw])]

/-- A join has the separators of its words, and one between each two. -/
theorem count_intercalate (sep : Char) {words : List (List Char)} (h : words ≠ []) :
    ([sep].intercalate words).count sep + 1 = words.length + (words.map (List.count sep)).sum := by
  induction words with
  | nil => exact absurd rfl h
  | cons word words ih =>
      by_cases hwords : words = []
      · subst hwords
        simp [Nat.add_comm]
      · rw [List.intercalate_cons_of_ne_nil hwords]
        have hrest := ih hwords
        simp only [List.append_assoc, List.singleton_append, List.count_append, List.count_cons_self,
          List.length_cons, List.map_cons, List.sum_cons]
        omega

/-- Joining as many words loses nothing, if the words of one side do not have the separator: then
those of the other do not have it either. -/
theorem intercalate_injective {sep : Char} {words words' : List (List Char)}
    (hlength : words.length = words'.length) (hfree : ∀ word ∈ words', sep ∉ word)
    (h : [sep].intercalate words = [sep].intercalate words') : words = words' := by
  by_cases hne : words' = []
  · subst hne
    exact List.length_eq_zero_iff.mp hlength
  have hne' : words ≠ [] := by
    intro hnil
    rw [hnil] at hlength
    exact hne (List.length_eq_zero_iff.mp hlength.symm)
  have hnone : (words'.map (List.count sep)).sum = 0 := by
    apply List.sum_eq_zero_iff_forall_eq_nat.mpr
    intro n hn
    obtain ⟨word, hword, rfl⟩ := List.mem_map.mp hn
    exact List.count_eq_zero.mpr (hfree word hword)
  have hcount := count_intercalate sep hne'
  rw [h, count_intercalate sep hne, hnone, hlength] at hcount
  have hfree' : ∀ word ∈ words, sep ∉ word := by
    intro word hword
    have hsum : (words.map (List.count sep)).sum = 0 := by omega
    apply List.count_eq_zero.mp
    exact List.sum_eq_zero_iff_forall_eq_nat.mp hsum _ (List.mem_map.mpr ⟨word, hword, rfl⟩)
  rw [← List.splitOn_intercalate sep hfree' hne', h, List.splitOn_intercalate sep hfree hne]

theorem afterLast_append {sep : Char} {word : List Char} (h : sep ∉ word) (cs : List Char) :
    afterLast sep (cs ++ sep :: word) = word := by
  have hall : ∀ c ∈ word.reverse, decide (c ≠ sep) = true := by
    intro c hc
    rw [decide_eq_true_iff]
    rintro rfl
    exact h (List.mem_reverse.mp hc)
  rw [afterLast, List.rtakeWhile, List.reverse_append, List.reverse_cons, List.append_assoc,
    List.takeWhile_append_of_pos hall, List.singleton_append, List.takeWhile_cons_of_neg (by simp),
    List.append_nil, List.reverse_reverse]

/-- Each text between separators counts with one of them, but for the last. -/
theorem length_intercalate (sep : String) {texts : List String} (h : texts ≠ []) :
    (sep.intercalate texts).length + sep.length = (texts.map fun t => t.length + sep.length).sum := by
  induction texts with
  | nil => exact absurd rfl h
  | cons text texts ih =>
      by_cases htexts : texts = []
      · subst htexts
        simp
      · rw [String.intercalate_cons_of_ne_nil htexts, String.length_append, String.length_append,
          List.map_cons, List.sum_cons, ← ih htexts]
        omega

/-! ## Base64 -/

/-- The URL-safe alphabet: upper case, lower case, digits, `-` and `_`. -/
def base64Digit (n : Nat) : Char :=
  if n < 26 then Char.ofNat (0x41 + n)
  else if n < 52 then Char.ofNat (0x61 + (n - 26))
  else if n < 62 then Char.ofNat (0x30 + (n - 52))
  else if n = 62 then '-'
  else '_'

/-- `base64.urlsafe_b64encode`: three bytes are four digits, and the last group is padded. -/
def urlsafeB64encode : List UInt8 → List Char
  | [] => []
  | [a] =>
      let bits := a.toNat * 16
      [base64Digit (bits / 64), base64Digit (bits % 64), '=', '=']
  | [a, b] =>
      let bits := (a.toNat * 256 + b.toNat) * 4
      [base64Digit (bits / 4096), base64Digit (bits / 64 % 64), base64Digit (bits % 64), '=']
  | a :: b :: c :: rest =>
      let bits := (a.toNat * 256 + b.toNat) * 256 + c.toNat
      base64Digit (bits / 262144) :: base64Digit (bits / 4096 % 64) ::
        base64Digit (bits / 64 % 64) :: base64Digit (bits % 64) :: urlsafeB64encode rest

/-- `c` is of the URL-safe alphabet. -/
def isUrlsafe (c : Char) : Bool := c.isAlphanum || c = '-' || c = '_'

theorem base64Digit_isUrlsafe (n : Nat) : isUrlsafe (base64Digit n) := by
  by_cases h : n < 62
  · have hall : ∀ n < 62, isUrlsafe (base64Digit n) := by decide
    exact hall n h
  · unfold base64Digit
    rw [if_neg (by omega), if_neg (by omega), if_neg h]
    split <;> rfl

/-- Base64 is of its alphabet, but for the padding. -/
theorem isUrlsafe_of_mem {bytes : List UInt8} {c : Char} (h : c ∈ urlsafeB64encode bytes)
    (hpad : c ≠ '=') : isUrlsafe c := by
  induction bytes using urlsafeB64encode.induct with
  | case1 => cases h
  | case2 a =>
      simp only [urlsafeB64encode, List.mem_cons, List.not_mem_nil, or_false] at h
      rcases h with rfl | rfl | rfl | rfl
      · exact base64Digit_isUrlsafe _
      · exact base64Digit_isUrlsafe _
      · exact absurd rfl hpad
      · exact absurd rfl hpad
  | case3 a b =>
      simp only [urlsafeB64encode, List.mem_cons, List.not_mem_nil, or_false] at h
      rcases h with rfl | rfl | rfl | rfl
      · exact base64Digit_isUrlsafe _
      · exact base64Digit_isUrlsafe _
      · exact base64Digit_isUrlsafe _
      · exact absurd rfl hpad
  | case4 a b c rest ih =>
      simp only [urlsafeB64encode, List.mem_cons] at h
      rcases h with rfl | rfl | rfl | rfl | h
      · exact base64Digit_isUrlsafe _
      · exact base64Digit_isUrlsafe _
      · exact base64Digit_isUrlsafe _
      · exact base64Digit_isUrlsafe _
      · exact ih h

theorem isUrlsafe_toNat_lt {c : Char} (h : isUrlsafe c) : c.toNat < 128 := by
  have hval : c.toNat = c.val.toNat := rfl
  have hupper : 'Z'.val.toNat = 90 := rfl
  have hlower : 'z'.val.toNat = 122 := rfl
  have hdigit : '9'.val.toNat = 57 := rfl
  unfold isUrlsafe at h
  rw [Bool.or_eq_true, Bool.or_eq_true, decide_eq_true_eq, decide_eq_true_eq] at h
  rcases h with (h | rfl) | rfl
  · have hclass : (c.isUpper || c.isLower || c.isDigit) = true := h
    rw [Bool.or_eq_true, Bool.or_eq_true] at hclass
    rcases hclass with (h | h) | h
    · have hle : c.val ≤ 'Z'.val := (of_decide_eq_true h).2
      rw [UInt32.le_iff_toNat_le] at hle
      omega
    · have hle : c.val ≤ 'z'.val := of_decide_eq_true (Bool.and_eq_true_iff.mp h).2
      rw [UInt32.le_iff_toNat_le] at hle
      omega
    · have hle : c.val ≤ '9'.val := of_decide_eq_true (Bool.and_eq_true_iff.mp h).2
      rw [UInt32.le_iff_toNat_le] at hle
      omega
  · decide
  · decide

example : urlsafeB64encode [0xfb, 0xff, 0x00, 0x10] = ['-', '_', '8', 'A', 'E', 'A', '=', '='] := by
  decide

end Text

end Data
