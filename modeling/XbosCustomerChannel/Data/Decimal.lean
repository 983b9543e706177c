import Mathlib.Algebra.Order.Field.Rat
import Mathlib.Tactic.FieldSimp
import Mathlib.Tactic.Linarith
import Mathlib.Tactic.Ring

/-!
# Finite decimals

The finite values of the General Decimal Arithmetic specification: a sign, a coefficient and an
exponent. Different triples can denote one number, so there are two equalities: Lean's on the
triples, and equality of `value`, which is what `==` compares.

Two renderings are defined, fixed point (`formatF`, the format code `f`) and scientific
(`toSciString`, what `str` gives). The fixed-point text determines the number:
`value_eq_of_formatF_eq`.

Sums and products are rounded to the precision of the default context; `PlusExact` and `TimesExact`
say that one is not.
-/

namespace Data

/-- `(-1)^negative * coefficient * 10^exponent`. -/
structure Decimal where
  negative : Bool
  coefficient : Nat
  exponent : Int
  deriving DecidableEq, Repr

namespace Decimal

/-- The number denoted. -/
def value (d : Decimal) : ℚ :=
  (if d.negative then -1 else 1) * d.coefficient * 10 ^ d.exponent

/-- The decimal of an integer literal. -/
def ofNat (n : Nat) : Decimal := ⟨false, n, 0⟩

/-- Python's truth value of a decimal. -/
def truthy (d : Decimal) : Bool := d.coefficient != 0

/-! ## Exact arithmetic -/

/-- The signed coefficient of `d` at a smaller exponent `e`. -/
def scaledTo (d : Decimal) (e : Int) : Int :=
  (if d.negative then -1 else 1) * d.coefficient * 10 ^ (d.exponent - e).toNat

/-- The exact sum, at the smaller of the two exponents. -/
def add (a b : Decimal) : Decimal :=
  let e := min a.exponent b.exponent
  let c := a.scaledTo e + b.scaledTo e
  ⟨decide (c < 0), c.natAbs, e⟩

/-- The exact product with an integer. -/
def mulInt (a : Decimal) (n : Int) : Decimal :=
  ⟨a.negative ^^ decide (n < 0), a.coefficient * n.natAbs, a.exponent⟩

/-! ## The default context -/

/-- The digits of the coefficient. -/
def digits (d : Decimal) : List Char := Nat.toDigits 10 d.coefficient

/-- Rounded to so many digits, ties to even. -/
def roundTo (d : Decimal) (precision : Nat) : Decimal :=
  let dropped := d.digits.length - precision
  if dropped = 0 then d
  else
    let kept := d.coefficient / 10 ^ dropped
    let rest := d.coefficient % 10 ^ dropped
    let rounded :=
      if 10 ^ dropped < 2 * rest ∨ (10 ^ dropped = 2 * rest ∧ kept % 2 = 1) then kept + 1 else kept
    -- carrying into a new digit drops one more
    if rounded = 10 ^ precision then
      ⟨d.negative, 10 ^ (precision - 1), d.exponent + dropped + 1⟩
    else ⟨d.negative, rounded, d.exponent + dropped⟩

/-- The precision of the default decimal context. -/
def contextPrecision : Nat := 28

/-- `a + b`. -/
def plus (a b : Decimal) : Decimal := (a.add b).roundTo contextPrecision

/-- `a * n` for an integer `n`. -/
def times (a : Decimal) (n : Int) : Decimal := (a.mulInt n).roundTo contextPrecision

/-! ## Arithmetic without rounding -/

/-- `a + b` is the sum. -/
def PlusExact (a b : Decimal) : Prop := (a.plus b).value = a.value + b.value

/-- `a * n` is the product. -/
def TimesExact (a : Decimal) (n : Int) : Prop := (a.times n).value = a.value * n

/-- Adding one after another gives the sum at every step. -/
def SumExact (start : Decimal) : List Decimal → Prop
  | [] => True
  | d :: ds => PlusExact start d ∧ SumExact (start.plus d) ds

theorem value_scaledTo (d : Decimal) {e : Int} (h : e ≤ d.exponent) :
    (d.scaledTo e : ℚ) * 10 ^ e = d.value := by
  obtain ⟨n, hn⟩ := Int.eq_ofNat_of_zero_le (by omega : 0 ≤ d.exponent - e)
  have hexp : d.exponent = n + e := by omega
  unfold scaledTo value
  rw [hn, Int.toNat_natCast, hexp, zpow_add₀ (by norm_num), zpow_natCast]
  push_cast
  ring

/-- A signed coefficient, as a decimal. -/
theorem value_ofCoefficient (c e : Int) :
    value ⟨decide (c < 0), c.natAbs, e⟩ = (c : ℚ) * 10 ^ e := by
  have hsign : (if decide (c < 0) = true then (-1 : ℚ) else 1) * (c.natAbs : ℚ) = c := by
    rcases lt_or_ge c 0 with hneg | hpos
    · rw [if_pos (by simpa using hneg), Nat.cast_natAbs, abs_of_neg hneg]
      push_cast
      ring
    · rw [if_neg (by simpa using hpos), Nat.cast_natAbs, abs_of_nonneg hpos]
      ring
  unfold value
  rw [hsign]

theorem value_add (a b : Decimal) : (a.add b).value = a.value + b.value := by
  unfold add
  dsimp only
  rw [value_ofCoefficient, Int.cast_add, add_mul, a.value_scaledTo (min_le_left _ _),
    b.value_scaledTo (min_le_right _ _)]

theorem value_mulInt (a : Decimal) (n : Int) : (a.mulInt n).value = a.value * n := by
  have hsign : (if (a.negative ^^ decide (n < 0)) = true then (-1 : ℚ) else 1) * (n.natAbs : ℚ) =
      (if a.negative then -1 else 1) * n := by
    rcases lt_or_ge n 0 with hneg | hpos
    · rw [Nat.cast_natAbs, abs_of_neg hneg, decide_eq_true hneg]
      cases a.negative <;> simp
    · rw [Nat.cast_natAbs, abs_of_nonneg hpos, decide_eq_false (not_lt.mpr hpos)]
      cases a.negative <;> simp
  unfold mulInt value
  dsimp only
  calc (if (a.negative ^^ decide (n < 0)) = true then (-1 : ℚ) else 1) *
        ((a.coefficient * n.natAbs : ℕ) : ℚ) * 10 ^ a.exponent
      = ((if (a.negative ^^ decide (n < 0)) = true then (-1 : ℚ) else 1) * (n.natAbs : ℚ)) *
          a.coefficient * 10 ^ a.exponent := by push_cast; ring
    _ = (if a.negative then -1 else 1) * a.coefficient * 10 ^ a.exponent * n := by rw [hsign]; ring

theorem roundTo_of_le {d : Decimal} {precision : Nat} (h : d.digits.length ≤ precision) :
    d.roundTo precision = d := by
  unfold roundTo
  rw [if_pos (by omega)]

theorem plusExact_of_le {a b : Decimal} (h : (a.add b).digits.length ≤ contextPrecision) :
    PlusExact a b := by
  unfold PlusExact plus
  rw [roundTo_of_le h, value_add]

theorem timesExact_of_le {a : Decimal} {n : Int}
    (h : (a.mulInt n).digits.length ≤ contextPrecision) : TimesExact a n := by
  unfold TimesExact times
  rw [roundTo_of_le h, value_mulInt]

theorem value_foldl_plus {start : Decimal} {ds : List Decimal} (h : SumExact start ds) :
    (ds.foldl plus start).value = start.value + (ds.map value).sum := by
  induction ds generalizing start with
  | nil => simp
  | cons d ds ih =>
      have hfirst : (start.plus d).value = start.value + d.value := h.1
      rw [List.foldl_cons, ih h.2, hfirst, List.map_cons, List.sum_cons]
      ring

/-! ## Fixed-point notation -/

/-- Digits before the point in fixed-point notation. A zero loses a positive exponent. -/
def intPart (d : Decimal) : List Char :=
  if 0 ≤ d.exponent then
    if d.coefficient = 0 then ['0'] else d.digits ++ List.replicate d.exponent.toNat '0'
  else
    let places := (-d.exponent).toNat
    if d.digits.length ≤ places then ['0'] else d.digits.take (d.digits.length - places)

/-- Digits after the point in fixed-point notation. -/
def fracPart (d : Decimal) : List Char :=
  if 0 ≤ d.exponent then []
  else
    let places := (-d.exponent).toNat
    if d.digits.length ≤ places then List.replicate (places - d.digits.length) '0' ++ d.digits
    else d.digits.drop (d.digits.length - places)

/-- A sign, digits, and a fraction if there is one. -/
def fixedPoint (negative : Bool) (int frac : List Char) : List Char :=
  (if negative then ['-'] else []) ++ int ++ (if frac = [] then [] else '.' :: frac)

/-- `format(d, "f")`. -/
def formatF (d : Decimal) : String := String.ofList (fixedPoint d.negative d.intPart d.fracPart)

/-- `str(d)`: plain notation for small exponents, else one digit before the point. -/
def toSciString (d : Decimal) : String :=
  let leftDigits := d.exponent + d.digits.length
  let sign := if d.negative then "-" else ""
  if d.exponent ≤ 0 ∧ -6 < leftDigits then d.formatF
  else
    let fraction := if d.digits.length = 1 then "" else "." ++ String.ofList d.digits.tail
    let power := leftDigits - 1
    sign ++ String.ofList (d.digits.take 1) ++ fraction ++
      "E" ++ (if 0 ≤ power then "+" else "") ++ toString power

/-! ## The text determines the number -/

theorem isDigit_of_mem_digits {d : Decimal} {c : Char} (h : c ∈ d.digits) : c.isDigit :=
  Nat.isDigit_of_mem_toDigits (by decide) (by decide) h

theorem isDigit_of_mem_intPart {d : Decimal} {c : Char} (h : c ∈ d.intPart) : c.isDigit := by
  unfold intPart at h
  split at h
  · split at h
    · simp only [List.mem_singleton] at h; subst h; decide
    · rcases List.mem_append.mp h with h | h
      · exact isDigit_of_mem_digits h
      · rw [(List.mem_replicate.mp h).2]; decide
  · dsimp only at h
    split at h
    · simp only [List.mem_singleton] at h; subst h; decide
    · exact isDigit_of_mem_digits (List.mem_of_mem_take h)

theorem intPart_ne_nil (d : Decimal) : d.intPart ≠ [] := by
  have hd : 0 < d.digits.length := Nat.length_toDigits_pos
  unfold intPart
  split
  · split
    · simp
    · intro h
      have := congrArg List.length h
      simp only [List.length_append, List.length_replicate, List.length_nil] at this
      omega
  · dsimp only
    split
    · simp
    · intro h
      have := congrArg List.length h
      simp only [List.length_take, List.length_nil] at this
      omega

/-- The digits on both sides of the point spell the coefficient, scaled by the length of the
fraction. -/
theorem value_eq_parts (d : Decimal) :
    d.value = (if d.negative then -1 else 1) *
      (Nat.ofDigitChars 10 (d.intPart ++ d.fracPart) 0 : ℚ) / 10 ^ d.fracPart.length := by
  have hdig : Nat.ofDigitChars 10 d.digits 0 = d.coefficient := Nat.ofDigitChars_ten_toDigits
  unfold value intPart fracPart
  by_cases hexp : 0 ≤ d.exponent
  · simp only [hexp, if_true]
    by_cases hzero : d.coefficient = 0
    · simp [hzero, Nat.ofDigitChars_cons]
    · obtain ⟨n, hn⟩ := Int.eq_ofNat_of_zero_le hexp
      simp only [hzero, if_false, List.append_nil, Nat.ofDigitChars_append, hdig,
        Nat.ofDigitChars_replicate_zero, List.length_nil, pow_zero, div_one, hn,
        Int.toNat_natCast, zpow_natCast, Nat.cast_mul, Nat.cast_pow, Nat.cast_ofNat]
      ring
  · simp only [hexp, if_false]
    obtain ⟨n, hn⟩ := Int.eq_ofNat_of_zero_le (by omega : 0 ≤ -d.exponent)
    have hexp' : d.exponent = -(n : Int) := by omega
    simp only [hn, Int.toNat_natCast]
    rw [hexp', zpow_neg, zpow_natCast]
    by_cases hlen : d.digits.length ≤ n
    · simp only [hlen, if_true]
      have hfrac : (List.replicate (n - d.digits.length) '0' ++ d.digits).length = n := by
        simp only [List.length_append, List.length_replicate]; omega
      have hval : Nat.ofDigitChars 10
          (['0'] ++ (List.replicate (n - d.digits.length) '0' ++ d.digits)) 0 = d.coefficient := by
        simp only [Nat.ofDigitChars_append, Nat.ofDigitChars_replicate_zero]
        simpa [Nat.ofDigitChars_cons] using hdig
      rw [hfrac, hval, div_eq_mul_inv]
    · simp only [hlen, if_false, List.take_append_drop, hdig]
      have hfrac : (d.digits.drop (d.digits.length - n)).length = n := by
        simp only [List.length_drop]; omega
      rw [hfrac, div_eq_mul_inv]

theorem not_isDigit_minus : ('-' : Char).isDigit = false := by decide

theorem not_isDigit_point : ('.' : Char).isDigit = false := by decide

/-- Splitting at the first non-digit is unambiguous. -/
theorem append_frac_inj {i i' f f' : List Char} (hi : ∀ c ∈ i, c.isDigit) (hi' : ∀ c ∈ i', c.isDigit)
    (h : i ++ (if f = [] then [] else '.' :: f) = i' ++ (if f' = [] then [] else '.' :: f')) :
    i = i' ∧ f = f' := by
  induction i generalizing i' with
  | nil =>
      cases i' with
      | nil => revert h; split <;> split <;> simp_all
      | cons c cs =>
          exfalso
          revert h
          split
          · simp
          · intro h
            have hc := hi' c (by simp)
            rw [← (List.cons.inj h).1, not_isDigit_point] at hc
            cases hc
  | cons c cs ih =>
      cases i' with
      | nil =>
          exfalso
          revert h
          split <;> split
          · simp
          · intro h
            have hc := hi c (by simp)
            rw [(List.cons.inj h).1, not_isDigit_point] at hc
            cases hc
          · simp
          · intro h
            have hc := hi c (by simp)
            rw [(List.cons.inj h).1, not_isDigit_point] at hc
            cases hc
      | cons c' cs' =>
          obtain ⟨hc, ht⟩ := List.cons.inj h
          obtain ⟨hcs, hf⟩ := ih (fun x hx => hi x (by simp [hx])) (fun x hx => hi' x (by simp [hx])) ht
          exact ⟨by rw [hc, hcs], hf⟩

theorem fixedPoint_inj {n n' : Bool} {i i' f f' : List Char} (hi : ∀ c ∈ i, c.isDigit)
    (hi' : ∀ c ∈ i', c.isDigit) (hne : i ≠ []) (hne' : i' ≠ [])
    (h : fixedPoint n i f = fixedPoint n' i' f') : n = n' ∧ i = i' ∧ f = f' := by
  obtain ⟨c, cs, rfl⟩ := List.exists_cons_of_ne_nil hne
  obtain ⟨c', cs', rfl⟩ := List.exists_cons_of_ne_nil hne'
  -- the first character is a minus sign exactly when the number is negative
  have hc : c ≠ '-' := by
    rintro rfl; have := hi '-' (by simp); rw [not_isDigit_minus] at this; cases this
  have hc' : c' ≠ '-' := by
    rintro rfl; have := hi' '-' (by simp); rw [not_isDigit_minus] at this; cases this
  unfold fixedPoint at h
  cases n <;> cases n'
  · exact ⟨rfl, append_frac_inj hi hi' (by simpa using h)⟩
  · exact absurd (List.cons.inj (by simpa using h)).1 hc
  · exact absurd (List.cons.inj (by simpa using h)).1.symm hc'
  · exact ⟨rfl, append_frac_inj hi hi' (by simpa using h)⟩

/-- Decimals with one fixed-point text are one number. -/
theorem value_eq_of_formatF_eq {a b : Decimal} (h : a.formatF = b.formatF) :
    a.value = b.value := by
  obtain ⟨hn, hi, hf⟩ := fixedPoint_inj (fun _ => isDigit_of_mem_intPart)
    (fun _ => isDigit_of_mem_intPart) a.intPart_ne_nil b.intPart_ne_nil (String.ofList_injective h)
  rw [value_eq_parts a, value_eq_parts b, hn, hi, hf]

end Decimal

end Data
