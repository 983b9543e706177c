import Mathlib.Algebra.Order.Ring.Nat
import Mathlib.Data.List.Induction

/-!
# Integers as Python reads and writes them

`PyInt.parse` is `int(text)`: surrounding whitespace, one sign, decimal digits of any script, and
single underscores between digits. `PyInt.format` is `str(n)`. Both refuse more than 4300 digits,
and what has been read can be written (`format_of_parse`).
-/

namespace Data

namespace PyInt

/-- `sys.int_info.default_max_str_digits`. Irreducible, so that no proof writes out its power. -/
@[irreducible] def maxDigits : Nat := 4300

/-- The zeros of the scripts that have decimal digits (Unicode 15.1); the other digits of a script
follow its zero. -/
def zeros : List Nat :=
  [0x30, 0x660, 0x6f0, 0x7c0, 0x966, 0x9e6, 0xa66, 0xae6, 0xb66, 0xbe6, 0xc66, 0xce6, 0xd66, 0xde6,
    0xe50, 0xed0, 0xf20, 0x1040, 0x1090, 0x17e0, 0x1810, 0x1946, 0x19d0, 0x1a80, 0x1a90, 0x1b50,
    0x1bb0, 0x1c40, 0x1c50, 0xa620, 0xa8d0, 0xa900, 0xa9d0, 0xa9f0, 0xaa50, 0xabf0, 0xff10, 0x104a0,
    0x10d30, 0x11066, 0x110f0, 0x11136, 0x111d0, 0x112f0, 0x11450, 0x114d0, 0x11650, 0x116c0,
    0x11730, 0x118e0, 0x11950, 0x11c50, 0x11d50, 0x11da0, 0x11f50, 0x16a60, 0x16ac0, 0x16b50,
    0x1d7ce, 0x1d7d8, 0x1d7e2, 0x1d7ec, 0x1d7f6, 0x1e140, 0x1e2f0, 0x1e4f0, 0x1e950, 0x1fbf0]

/-- `unicodedata.decimal(c)`. -/
def digit? (c : Char) : Option Nat :=
  (zeros.find? fun z => z ≤ c.toNat ∧ c.toNat < z + 10).map (c.toNat - ·)

/-- Whitespace around a number: of ASCII the six characters C skips, of the rest what Unicode calls
whitespace. -/
def isSpace (c : Char) : Bool :=
  c.toNat ∈ [0x9, 0xa, 0xb, 0xc, 0xd, 0x20, 0x85, 0xa0, 0x1680, 0x2000, 0x2001, 0x2002, 0x2003, 0x2004,
    0x2005, 0x2006, 0x2007, 0x2008, 0x2009, 0x200a, 0x2028, 0x2029, 0x202f, 0x205f, 0x3000]

/-- The digits at the head of a text, with single underscores between them, and the rest. -/
def digits : List Char → Option (List Nat × List Char)
  | [] => none
  | c :: cs =>
      match digit? c, cs with
      | none, _ => none
      | some d, '_' :: rest => (digits rest).map fun found => (d :: found.1, found.2)
      | some d, cs =>
          match digits cs with
          | some found => some (d :: found.1, found.2)
          | none => some ([d], cs)

/-- The sign at the head of a text, and the rest. -/
def sign : List Char → Int × List Char
  | '-' :: cs => (-1, cs)
  | '+' :: cs => (1, cs)
  | cs => (1, cs)

def value (ds : List Nat) : Nat := ds.foldl (fun n d => 10 * n + d) 0

/-- `int(text)`; `none` is a `ValueError`. -/
def parse (text : List Char) : Option Int :=
  let signed := sign (text.dropWhile isSpace)
  match digits signed.2 with
  | none => none
  | some (ds, rest) =>
      if rest.all isSpace ∧ ds.length ≤ maxDigits then some (signed.1 * value ds) else none

/-- `str(n)`; `none` is a `ValueError`. -/
def format (n : Int) : Option String := if n.natAbs < 10 ^ maxDigits then some n.repr else none

theorem digit?_lt {c : Char} {d : Nat} (h : digit? c = some d) : d < 10 := by
  unfold digit? at h
  obtain ⟨z, hz, rfl⟩ := Option.map_eq_some_iff.mp h
  have hrange := List.find?_some hz
  simp only [decide_eq_true_eq] at hrange
  omega

theorem digits_lt {cs rest : List Char} {ds : List Nat} (h : digits cs = some (ds, rest)) :
    ∀ d ∈ ds, d < 10 := by
  induction cs using digits.induct generalizing ds rest with
  | case1 => simp [digits] at h
  | case2 c cs hnone =>
      rw [digits.eq_2 c cs hnone] at h
      cases h
  | case3 c d tail hd ih =>
      rw [digits.eq_3 c d tail hd] at h
      obtain ⟨found, hfound, heq⟩ := Option.map_eq_some_iff.mp h
      obtain ⟨rfl, rfl⟩ := Prod.mk.inj heq
      intro d' hd'
      rcases List.mem_cons.mp hd' with rfl | hd'
      · exact digit?_lt hd
      · exact ih hfound d' hd'
  | case4 c d cs hplain hd found hfound ih =>
      simp only [digits, hd, hfound, Option.some.injEq, Prod.mk.injEq] at h
      obtain ⟨rfl, rfl⟩ := h
      intro d' hd'
      rcases List.mem_cons.mp hd' with rfl | hd'
      · exact digit?_lt hd
      · exact ih hfound d' hd'
  | case5 c d cs hplain hd hnone ih =>
      simp only [digits, hd, hnone, Option.some.injEq, Prod.mk.injEq] at h
      obtain ⟨rfl, rfl⟩ := h
      intro d' hd'
      rw [List.mem_singleton.mp hd']
      exact digit?_lt hd

theorem value_append (ds : List Nat) (d : Nat) : value (ds ++ [d]) = 10 * value ds + d := by
  simp [value]

theorem value_lt (ds : List Nat) (h : ∀ d ∈ ds, d < 10) : value ds < 10 ^ ds.length := by
  induction ds using List.reverseRecOn with
  | nil => simp [value]
  | append_singleton ds d ih =>
      have hd := h d (by simp)
      have hds := ih fun d' hd' => h d' (by simp [hd'])
      rw [value_append, List.length_append, List.length_singleton, pow_succ]
      omega

theorem sign_natAbs (cs : List Char) : (sign cs).1.natAbs = 1 := by
  unfold sign
  split <;> rfl

/-- An integer that was read is written: its text had no more digits than may be written. -/
theorem format_of_parse {text : List Char} {n : Int} (h : parse text = some n) :
    format n = some n.repr := by
  unfold parse at h
  simp only at h
  split at h
  · cases h
  rename_i ds rest hdigits
  split at h
  · rename_i hshort
    have hvalue := value_lt ds (digits_lt hdigits)
    have hlimit : 10 ^ ds.length ≤ 10 ^ maxDigits := Nat.pow_le_pow_right (by omega) hshort.2
    have habs : n.natAbs = value ds := by
      rw [← Option.some.inj h, Int.natAbs_mul, sign_natAbs, one_mul, Int.natAbs_natCast]
    unfold format
    rw [if_pos (by omega)]
  · cases h

end PyInt

end Data
