import Mathlib.Data.List.Basic
import XbosCustomerChannel.Data.PyInt

/-!
# How an integer is spelled

`str` writes an integer in one way and `int` reads it back (`parse_repr`), but `int` reads many
other texts. `Plain` says which texts are the ones that `str` writes.
-/

namespace Data

namespace PyInt

/-- A number in ASCII digits, with no zero in front of it. -/
def PlainNat (cs : List Char) : Prop :=
  cs ≠ [] ∧ (∀ c ∈ cs, c.isDigit) ∧ (cs.head? = some '0' → cs = ['0'])

/-- A number as `str` writes it: perhaps a minus, and then its digits. -/
def Plain (cs : List Char) : Prop :=
  PlainNat cs ∨ ∃ ds, cs = '-' :: ds ∧ PlainNat ds ∧ ds ≠ ['0']

/-! ## ASCII digits -/

theorem isDigit_iff {c : Char} : c.isDigit = true ↔ 48 ≤ c.toNat ∧ c.toNat ≤ 57 := by
  simp only [Char.isDigit, Bool.and_eq_true, decide_eq_true_eq, ge_iff_le, UInt32.le_iff_toNat_le]
  rfl

theorem digitChar_of_isDigit {c : Char} (h : c.isDigit) : Nat.digitChar (c.toNat - 48) = c := by
  have hrange := isDigit_iff.mp h
  apply Char.toNat_inj.mp
  rw [Nat.toNat_digitChar_of_lt_ten (by omega)]
  omega

theorem digit?_of_isDigit {c : Char} (h : c.isDigit) : digit? c = some (c.toNat - 48) := by
  have hrange := isDigit_iff.mp h
  have hfirst : zeros.find? (fun z => z ≤ c.toNat ∧ c.toNat < z + 10) = some 48 := by
    unfold zeros
    rw [List.find?_cons_of_pos]
    simp only [decide_eq_true_eq]
    omega
  unfold digit?
  rw [hfirst]
  rfl

theorem isSpace_of_isDigit {c : Char} (h : c.isDigit) : isSpace c = false := by
  have hrange := isDigit_iff.mp h
  simp only [isSpace, List.mem_cons, List.not_mem_nil, or_false, decide_eq_false_iff_not]
  omega

theorem ne_of_isDigit {c d : Char} (h : c.isDigit) (hd : d.isDigit = false) : c ≠ d := by
  rintro rfl
  rw [h] at hd
  cases hd

theorem sign_of_isDigit {c : Char} (h : c.isDigit) (cs : List Char) :
    sign (c :: cs) = (1, c :: cs) := by
  unfold sign
  split
  · next heq => exact absurd (List.cons.inj heq).1 (ne_of_isDigit h rfl)
  · next heq => exact absurd (List.cons.inj heq).1 (ne_of_isDigit h rfl)
  · rfl

/-- ASCII digits are read to the end. -/
theorem digits_of_isDigit {cs : List Char} (hne : cs ≠ []) (h : ∀ c ∈ cs, c.isDigit) :
    digits cs = some (cs.map (·.toNat - 48), []) := by
  induction cs with
  | nil => exact absurd rfl hne
  | cons c cs ih =>
      have hc := digit?_of_isDigit (h c (by simp))
      cases cs with
      | nil => simp [digits, hc]
      | cons c' cs =>
          have hc' : c' ≠ '_' := ne_of_isDigit (h c' (by simp)) rfl
          have hrest := ih (by simp) fun d hd => h d (by simp [hd])
          simp [digits, hc, hc', hrest]

theorem value_map_digits (cs : List Char) :
    value (cs.map (·.toNat - 48)) = Nat.ofDigitChars 10 cs 0 := by
  rw [value, List.foldl_map, Nat.ofDigitChars_eq_foldl]
  rfl

/-! ## Decimal digits of any script -/

/-- `text.isdecimal()`. -/
def isDecimal (cs : List Char) : Bool := !cs.isEmpty && cs.all fun c => (digit? c).isSome

/-- `int(text)` of decimal digits, of which `limit` are allowed, or any number if that is zero; `none`
is a `ValueError`. -/
def ofDecimal? (limit : Nat) (cs : List Char) : Option Int :=
  if limit = 0 ∨ cs.length ≤ limit then some (value (cs.filterMap digit?)) else none

theorem isSpace_of_digit? {c : Char} (h : (digit? c).isSome) : isSpace c = false := by
  have hspaces : ∀ n ∈ [0x9, 0xa, 0xb, 0xc, 0xd, 0x20, 0x85, 0xa0, 0x1680, 0x2000, 0x2001, 0x2002,
      0x2003, 0x2004, 0x2005, 0x2006, 0x2007, 0x2008, 0x2009, 0x200a, 0x2028, 0x2029, 0x202f, 0x205f,
      0x3000], (digit? (Char.ofNat n)).isSome = false := by decide
  by_contra hspace
  rw [Bool.not_eq_false] at hspace
  have hmem := of_decide_eq_true hspace
  have hnone := hspaces _ hmem
  rw [Char.ofNat_toNat, h] at hnone
  cases hnone

theorem sign_of_digit? {c : Char} (h : (digit? c).isSome) (cs : List Char) :
    sign (c :: cs) = (1, c :: cs) := by
  have hsigns : (digit? '-').isSome = false ∧ (digit? '+').isSome = false := by decide
  unfold sign
  split
  · next heq =>
    rw [(List.cons.inj heq).1, hsigns.1] at h
    cases h
  · next heq =>
    rw [(List.cons.inj heq).1, hsigns.2] at h
    cases h
  · rfl

theorem digits_of_isDecimal {cs : List Char} (h : isDecimal cs) :
    digits cs = some (cs.filterMap digit?, []) := by
  unfold isDecimal at h
  induction cs with
  | nil => cases h
  | cons c cs ih =>
      simp only [List.isEmpty_cons, Bool.not_false, List.all_cons, Bool.true_and, Bool.and_eq_true]
        at h
      obtain ⟨d, hd⟩ := Option.isSome_iff_exists.mp h.1
      cases cs with
      | nil => simp [digits, hd]
      | cons c' cs =>
          have hrest := ih (by simpa using h.2)
          have hc' : c' ≠ '_' := by
            rintro rfl
            have hunderscore : (digit? '_').isSome = false := by decide
            have hall := h.2
            simp [hunderscore] at hall
          simp [digits, hd, hc', hrest]

/-- Of decimal digits, `int` reads what they say if they are not too many. -/
theorem parse_of_isDecimal {cs : List Char} (h : isDecimal cs) :
    parse cs = ofDecimal? maxDigits cs := by
  have hdigits := digits_of_isDecimal h
  have hlength : (cs.filterMap digit?).length = cs.length := by
    rw [List.length_filterMap_eq_countP, List.countP_eq_length]
    intro c hc
    unfold isDecimal at h
    rw [Bool.and_eq_true, List.all_eq_true] at h
    exact h.2 c hc
  have hlimit : maxDigits ≠ 0 := by
    unfold maxDigits
    decide
  cases cs with
  | nil => cases h
  | cons c cs =>
      have hc : (digit? c).isSome := by
        unfold isDecimal at h
        simp only [List.all_cons, Bool.and_eq_true] at h
        exact h.2.1
      unfold parse ofDecimal?
      rw [List.dropWhile_cons_of_neg (by rw [isSpace_of_digit? hc]; exact Bool.false_ne_true),
        sign_of_digit? hc]
      simp only [hdigits, hlength, List.all_nil, true_and, hlimit, false_or, one_mul]

/-! ## Natural numbers -/

/-- Digits without a zero in front are those of their value. -/
theorem PlainNat.toDigits {cs : List Char} (h : PlainNat cs) :
    Nat.toDigits 10 (Nat.ofDigitChars 10 cs 0) = cs := by
  obtain ⟨hne, hdigits, hzero⟩ := h
  induction cs using List.reverseRecOn with
  | nil => exact absurd rfl hne
  | append_singleton cs c ih =>
      have hc := hdigits c (by simp)
      have hrange := isDigit_iff.mp hc
      rw [Nat.ofDigitChars_append, Nat.ofDigitChars_cons, Nat.ofDigitChars_nil]
      have hlast : Nat.toDigits 10 (c.toNat - '0'.toNat) = [c] := by
        rw [Nat.toDigits_of_lt_base (by simp; omega)]
        exact congrArg (· :: []) (digitChar_of_isDigit hc)
      by_cases hnil : cs = []
      · subst hnil
        simpa using hlast
      · have hhead : cs.head? ≠ some '0' := by
          intro heq
          have hall := hzero (by rw [List.head?_append_of_ne_nil _ hnil]; exact heq)
          have hlength := congrArg List.length hall
          simp only [List.length_append, List.length_singleton, Nat.add_eq_right] at hlength
          exact hnil (List.length_eq_zero_iff.mp hlength)
        have hcs := ih hnil (fun d hd => hdigits d (by simp [hd])) fun heq => absurd heq hhead
        have hpos : 0 < Nat.ofDigitChars 10 cs 0 := by
          apply Nat.pos_of_ne_zero
          intro hv
          rw [hv, Nat.toDigits_zero] at hcs
          exact hhead (by rw [← hcs]; rfl)
        rw [← Nat.toDigits_append_toDigits (by omega) hpos (by simp; omega), hcs, hlast]

theorem plainNat_toDigits (n : Nat) : PlainNat (Nat.toDigits 10 n) := by
  refine ⟨Nat.toDigits_ne_nil, fun c hc => Nat.isDigit_of_mem_toDigits (by omega) le_rfl hc, ?_⟩
  intro hhead
  suffices h : n = 0 by rw [h]; rfl
  induction n using Nat.strong_induction_on with
  | _ n ih =>
      rw [Nat.toDigits_eq_if (by omega)] at hhead
      split at hhead
      · simpa using hhead
      · next hlarge =>
          rw [List.head?_append_of_ne_nil _ Nat.toDigits_ne_nil] at hhead
          have := ih (n / 10) (by omega) hhead
          omega

/-! ## Integers -/

theorem toList_repr (n : Int) :
    n.repr.toList = if 0 ≤ n then Nat.toDigits 10 n.natAbs else '-' :: Nat.toDigits 10 n.natAbs := by
  rw [Int.repr_eq_if]
  split
  · next hpos => rw [Nat.toList_repr, show n.toNat = n.natAbs by omega]
  · next hneg =>
      rw [String.toList_append, Nat.toList_repr, show (-n).toNat = n.natAbs by omega]
      rfl

theorem isDigit_or_minus {n : Int} {c : Char} (h : c ∈ n.repr.toList) : c.isDigit ∨ c = '-' := by
  rw [toList_repr] at h
  have hdigit : c ∈ Nat.toDigits 10 n.natAbs → c.isDigit :=
    Nat.isDigit_of_mem_toDigits (by omega) le_rfl
  split at h
  · exact .inl (hdigit h)
  · rcases List.mem_cons.mp h with rfl | h
    · exact .inr rfl
    · exact .inl (hdigit h)

theorem repr_injective {m n : Int} (h : m.repr = n.repr) : m = n := by
  have hlists := congrArg String.toList h
  rw [toList_repr, toList_repr] at hlists
  have hminus : ∀ k ds, Nat.toDigits 10 k ≠ '-' :: ds := by
    intro k ds heq
    have hdigit : '-'.isDigit := (plainNat_toDigits k).2.1 '-' (by rw [heq]; simp)
    cases hdigit
  have hdigits : ∀ a b, Nat.toDigits 10 a = Nat.toDigits 10 b → a = b := by
    intro a b heq
    have hvalues := congrArg (Nat.ofDigitChars 10 · 0) heq
    simpa using hvalues
  split at hlists <;> split at hlists
  · have := hdigits _ _ hlists
    omega
  · exact absurd hlists (hminus _ _)
  · exact absurd hlists.symm (hminus _ _)
  · have := hdigits _ _ (List.cons.inj hlists).2
    omega

/-- The texts that `str` writes are the plain ones. -/
theorem plain_iff (cs : List Char) : Plain cs ↔ ∃ n : Int, n.repr.toList = cs := by
  constructor
  · rintro (hnat | ⟨ds, rfl, hnat, hne⟩)
    · refine ⟨(Nat.ofDigitChars 10 cs 0 : Nat), ?_⟩
      rw [toList_repr, if_pos (by omega), Int.natAbs_natCast, hnat.toDigits]
    · have hpos : Nat.ofDigitChars 10 ds 0 ≠ 0 := by
        intro hzero
        have hds := hnat.toDigits
        rw [hzero, Nat.toDigits_zero] at hds
        exact hne hds.symm
      refine ⟨-(Nat.ofDigitChars 10 ds 0 : Nat), ?_⟩
      rw [toList_repr, if_neg (by omega), Int.natAbs_neg, Int.natAbs_natCast, hnat.toDigits]
  · rintro ⟨n, rfl⟩
    rw [toList_repr]
    split
    · exact .inl (plainNat_toDigits _)
    · next hneg =>
        refine .inr ⟨_, rfl, plainNat_toDigits _, ?_⟩
        intro hzero
        have hvalue := congrArg (Nat.ofDigitChars 10 · 0) hzero
        simp [Nat.ofDigitChars_cons] at hvalue
        omega

/-- What `int` makes of a sign and ASCII digits. -/
theorem parse_digits {cs ds : List Char} {s : Int} (hspace : cs.dropWhile isSpace = cs)
    (hsign : sign cs = (s, ds)) (hne : ds ≠ []) (h : ∀ c ∈ ds, c.isDigit) :
    parse cs =
      if ds.length ≤ maxDigits then some (s * Nat.ofDigitChars 10 ds 0) else none := by
  unfold parse
  simp only [hspace, hsign, digits_of_isDigit hne h, List.all_nil, true_and, List.length_map,
    value_map_digits]

/-- `int(str(n))`, as far as `int` reads. -/
theorem parse_repr (n : Int) :
    parse n.repr.toList = if n.natAbs < 10 ^ maxDigits then some n else none := by
  obtain ⟨hne, hdigits, -⟩ := plainNat_toDigits n.natAbs
  have hlimit : 0 < maxDigits := by
    unfold maxDigits
    omega
  have hlength : (Nat.toDigits 10 n.natAbs).length ≤ maxDigits ↔ n.natAbs < 10 ^ maxDigits :=
    Nat.length_toDigits_le_iff (by omega) hlimit
  rw [toList_repr]
  split
  · next hpos =>
      obtain ⟨c, cs, hcs⟩ := List.exists_cons_of_ne_nil hne
      have hc : c.isDigit := hdigits c (by rw [hcs]; simp)
      have hspace : (Nat.toDigits 10 n.natAbs).dropWhile isSpace = Nat.toDigits 10 n.natAbs := by
        rw [hcs, List.dropWhile_cons_of_neg (by rw [isSpace_of_isDigit hc]; simp)]
      have hsign : sign (Nat.toDigits 10 n.natAbs) = (1, Nat.toDigits 10 n.natAbs) := by
        rw [hcs, sign_of_isDigit hc]
      rw [parse_digits hspace hsign hne hdigits, Nat.ofDigitChars_ten_toDigits,
        show (1 : Int) * (n.natAbs : Nat) = n by omega]
      simp only [hlength]
  · next hneg =>
      have hsign : sign ('-' :: Nat.toDigits 10 n.natAbs) = (-1, Nat.toDigits 10 n.natAbs) := rfl
      rw [parse_digits rfl hsign hne hdigits, Nat.ofDigitChars_ten_toDigits,
        show (-1 : Int) * (n.natAbs : Nat) = n by omega]
      simp only [hlength]

/-- What can be written can be read. -/
theorem parse_of_format {n : Int} (h : (format n).isSome) : parse n.repr.toList = some n := by
  unfold format at h
  split at h
  · next hshort => rw [parse_repr, if_pos hshort]
  · cases h

/-- A text that is read is the one that `str` writes if it is plain, and only then. -/
theorem repr_eq_iff_plain {cs : List Char} {n : Int} (h : parse cs = some n) :
    n.repr.toList = cs ↔ Plain cs := by
  constructor
  · intro heq
    exact (plain_iff cs).mpr ⟨n, heq⟩
  · intro hplain
    obtain ⟨m, rfl⟩ := (plain_iff cs).mp hplain
    rw [parse_repr] at h
    split at h
    · rw [← Option.some.inj h]
    · cases h

end PyInt

end Data
