import Mathlib.Algebra.Order.Floor.Ring
import Mathlib.Data.Nat.Digits.Defs
import Mathlib.Data.Rat.Floor
import Mathlib.Tactic.FieldSimp
import Mathlib.Tactic.Linarith
import Mathlib.Tactic.Ring

/-
  Exact numbers in print.

  A rational number is printed with a fixed count of digits
  behind the point: it is rounded to the nearest such number,
  and of two that are equally near to the one whose last
  digit is even. What is printed can be read back.

  Key definitions include:
    * `roundHalfEven`
    * `decimalText`
    * `decimalValue`

  Key theorems include:
    * `abs_roundHalfEven_sub_le`
    * `roundHalfEven_lt_iff`
    * `decimalValue_decimalText`
    * `decimalText_inj`
-/

------------------------------------------------------------
-- Rounding
------------------------------------------------------------

namespace D2Common

namespace FixedPoint

/- The nearest whole number, and the even one of two. -/
def roundHalfEven (x : ℚ) : ℤ :=
  if Int.fract x < 1 / 2 then ⌊x⌋
  else if 1 / 2 < Int.fract x then ⌊x⌋ + 1
  else ⌊x⌋ + ⌊x⌋ % 2

theorem abs_roundHalfEven_sub_le (x : ℚ) :
    |(roundHalfEven x : ℚ) - x| ≤ 1 / 2 := by
  have hFract : Int.fract x = x - ⌊x⌋ := rfl
  have hLower := Int.fract_nonneg x
  have hUpper := Int.fract_lt_one x
  unfold roundHalfEven
  rw [abs_le]
  split
  · constructor <;> linarith
  · split
    · push_cast
      constructor <;> linarith
    · -- halfway, either neighbour is as near
      rcases Int.emod_two_eq_zero_or_one ⌊x⌋ with
        hEven | hOdd
      · rw [hEven, add_zero]
        constructor <;> linarith
      · rw [hOdd]
        push_cast
        constructor <;> linarith

theorem roundHalfEven_nonneg
    {x : ℚ}
    (hx : 0 ≤ x) :
    0 ≤ roundHalfEven x := by
  have hNear := (abs_le.mp (abs_roundHalfEven_sub_le x)).1
  have hHalf : (-1 : ℚ) < roundHalfEven x := by linarith
  have hInt : (-1 : ℤ) < roundHalfEven x := by
    exact_mod_cast hHalf
  omega

/- Below an even number the numbers up to half stay. -/
theorem roundHalfEven_lt_iff
    {n : ℤ}
    (hEven : n % 2 = 0)
    (x : ℚ) :
    roundHalfEven x < n ↔ x < n - 1 / 2 := by
  have hFract : Int.fract x = x - ⌊x⌋ := rfl
  have hUpper := Int.fract_lt_one x
  have hLower := Int.fract_nonneg x
  rcases lt_trichotomy (⌊x⌋ + 1) n with hBelow | hAt | hAbove
  · -- the next whole number is below
    have hNext : ⌊x⌋ + 2 ≤ n := by omega
    have hInt : (⌊x⌋ : ℚ) + 2 ≤ n := by exact_mod_cast hNext
    refine iff_of_true ?_ (by linarith)
    unfold roundHalfEven
    have hParity := Int.emod_two_eq_zero_or_one ⌊x⌋
    split
    · omega
    · split <;> omega
  · -- the next whole number is the even one
    have hInt : (⌊x⌋ : ℚ) + 1 = n := by exact_mod_cast hAt
    have hOdd : ⌊x⌋ % 2 = 1 := by omega
    unfold roundHalfEven
    by_cases hHalf : Int.fract x < 1 / 2
    · rw [if_pos hHalf]
      exact iff_of_true (by omega) (by linarith)
    · rw [if_neg hHalf]
      refine iff_of_false ?_ (by linarith)
      split <;> omega
  · have hInt : (n : ℚ) ≤ ⌊x⌋ := by
      exact_mod_cast Int.lt_add_one_iff.mp hAbove
    refine iff_of_false ?_ (by linarith)
    unfold roundHalfEven
    have hParity := Int.emod_two_eq_zero_or_one ⌊x⌋
    split
    · omega
    · split <;> omega

/- Numbers that are far apart are rounded to others. -/
theorem roundHalfEven_ne_of_lt
    {x y : ℚ}
    (hFar : x + 1 < y) :
    roundHalfEven x ≠ roundHalfEven y := by
  intro hSame
  have hx := (abs_le.mp (abs_roundHalfEven_sub_le x)).2
  have hy := (abs_le.mp (abs_roundHalfEven_sub_le y)).1
  rw [hSame] at hx
  linarith

end FixedPoint

end D2Common

------------------------------------------------------------
-- Texts
------------------------------------------------------------

namespace D2Common

namespace FixedPoint

/- The number that is printed, in units of the last digit. -/
def scaled
    (precision : Nat)
    (x : ℚ) : Nat :=
  (roundHalfEven (|x| * 10 ^ precision)).toNat

/- `precision` digits behind the point. -/
def fixedDigits
    (precision : Nat)
    (n : Nat) : List Char :=
  Nat.toDigits 10 (n / 10 ^ precision) ++
    '.' ::
      (Nat.toDigits 10 (n % 10 ^ precision)).leftpad
        precision '0'

/-
  A number with so many digits behind the point, and with
  zeros in front up to a width.
-/
def decimalText
    (width precision : Nat)
    (x : ℚ) : List Char :=
  let digits := fixedDigits precision (scaled precision x)
  if x < 0 then '-' :: digits.leftpad (width - 1) '0'
  else digits.leftpad width '0'

/- The value of a text without a sign. -/
def decimalValue (text : List Char) : ℚ :=
  match text.splitOn '.' with
  | [whole, fraction] =>
      Nat.ofDigitChars 10 whole 0 +
        Nat.ofDigitChars 10 fraction 0 / 10 ^ fraction.length
  | _ => 0

/- Only digits are in the digits of a number. -/
theorem not_mem_leftpad_toDigits
    {c : Char}
    (hOther : c.isDigit = false)
    (n width : Nat) :
    c ∉ (Nat.toDigits 10 n).leftpad width '0' := by
  intro hc
  have hDigit : c.isDigit = true := by
    rcases List.mem_append.mp hc with hZero | hDigit
    · rw [List.eq_of_mem_replicate hZero]
      rfl
    · exact
        Nat.isDigit_of_mem_toDigits (by decide) (by decide)
          hDigit
  rw [hDigit] at hOther
  cases hOther

theorem ofDigitChars_leftpad (n width : Nat) :
    Nat.ofDigitChars 10
      ((Nat.toDigits 10 n).leftpad width '0') 0 = n := by
  rw [List.leftpad, Nat.ofDigitChars_append,
    Nat.ofDigitChars_replicate_zero, Nat.mul_zero,
    Nat.ofDigitChars_ten_toDigits]

theorem length_leftpad_toDigits
    {n width : Nat}
    (hWidth : 0 < width)
    (hDigits : n < 10 ^ width) :
    ((Nat.toDigits 10 n).leftpad width '0').length =
      width := by
  have hLength :=
    (Nat.length_toDigits_le_iff (by decide) hWidth).mpr
      hDigits
  rw [List.leftpad, List.length_append,
    List.length_replicate]
  omega

/- Zeros in front come before the digits of the whole. -/
theorem leftpad_fixedDigits (width precision n : Nat) :
    ∃ zeros,
      (fixedDigits precision n).leftpad width '0' =
        (Nat.toDigits 10 (n / 10 ^ precision)).leftpad zeros
            '0' ++
          '.' ::
            (Nat.toDigits 10 (n % 10 ^ precision)).leftpad
              precision '0' := by
  refine
    ⟨width - (fixedDigits precision n).length +
      (Nat.toDigits 10 (n / 10 ^ precision)).length, ?_⟩
  rw [List.leftpad, List.leftpad, Nat.add_sub_cancel]
  conv_lhs => rhs; rw [fixedDigits]
  rw [List.append_assoc]

/- A text is read as the number that it is printed for. -/
theorem decimalValue_decimalText
    {x : ℚ}
    (hx : 0 ≤ x)
    (width : Nat)
    {precision : Nat}
    (hPrecision : 0 < precision) :
    decimalValue (decimalText width precision x) =
      scaled precision x / 10 ^ precision := by
  unfold decimalText
  rw [if_neg (not_lt.mpr hx)]
  generalize scaled precision x = n
  rcases leftpad_fixedDigits width precision n with
    ⟨zeros, hText⟩
  have hPoint : '.'.isDigit = false := by decide
  have hWhole :=
    not_mem_leftpad_toDigits hPoint (n / 10 ^ precision) zeros
  have hFraction :=
    not_mem_leftpad_toDigits hPoint (n % 10 ^ precision)
      precision
  have hLength :=
    length_leftpad_toDigits hPrecision
      (Nat.mod_lt n (Nat.pow_pos (n := precision)
        (by decide : 0 < 10)))
  rw [hText, decimalValue,
    List.splitOn_append_cons_self_of_not_mem hWhole,
    List.splitOn_eq_singleton hFraction]
  simp only [ofDigitChars_leftpad, hLength]
  have hPow : (10 : ℚ) ^ precision ≠ 0 := by positivity
  have hDivMod :
      (n : ℚ) =
        10 ^ precision * (n / 10 ^ precision : Nat) +
          (n % 10 ^ precision : Nat) := by
    exact_mod_cast (Nat.div_add_mod n (10 ^ precision)).symm
  rw [eq_div_iff hPow, hDivMod]
  field_simp

/- A text tells the number, up to rounding. -/
theorem decimalText_inj
    {x y : ℚ}
    (hx : 0 ≤ x)
    (hy : 0 ≤ y)
    (width : Nat)
    {precision : Nat}
    (hPrecision : 0 < precision) :
    decimalText width precision x =
        decimalText width precision y ↔
      scaled precision x = scaled precision y := by
  constructor
  · intro hSame
    have hValue := congrArg decimalValue hSame
    rw [decimalValue_decimalText hx width hPrecision,
      decimalValue_decimalText hy width hPrecision] at hValue
    have hPow : (10 : ℚ) ^ precision ≠ 0 := by positivity
    field_simp at hValue
    exact_mod_cast hValue
  · intro hSame
    unfold decimalText
    rw [if_neg (not_lt.mpr hx), if_neg (not_lt.mpr hy), hSame]

/- What separates fields is in no number. -/
theorem not_mem_decimalText
    (width precision : Nat)
    (x : ℚ)
    {c : Char}
    (hDigit : c.isDigit = false)
    (hPoint : c ≠ '.')
    (hMinus : c ≠ '-') :
    c ∉ decimalText width precision x := by
  have hDigits (w : Nat) :
      c ∉ (fixedDigits precision
        (scaled precision x)).leftpad w '0' := by
    rcases leftpad_fixedDigits w precision
      (scaled precision x) with ⟨zeros, hText⟩
    rw [hText]
    intro hIn
    rcases List.mem_append.mp hIn with hWhole | hRest
    · exact not_mem_leftpad_toDigits hDigit _ _ hWhole
    · rcases List.mem_cons.mp hRest with hHere | hFraction
      · exact hPoint hHere
      · exact not_mem_leftpad_toDigits hDigit _ _ hFraction
  unfold decimalText
  dsimp only
  split
  · rw [List.mem_cons, not_or]
    exact ⟨hMinus, hDigits _⟩
  · exact hDigits _

/- The number that is printed, as the rounded one. -/
theorem scaled_cast
    {x : ℚ}
    (hx : 0 ≤ x)
    (precision : Nat) :
    (scaled precision x : ℤ) =
      roundHalfEven (x * 10 ^ precision) := by
  unfold scaled
  rw [abs_of_nonneg hx]
  exact
    Int.toNat_of_nonneg
      (roundHalfEven_nonneg
        (mul_nonneg hx (by positivity)))

end FixedPoint

end D2Common
