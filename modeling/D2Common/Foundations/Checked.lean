import Mathlib.Algebra.Order.Ring.Int

/-
  Integers of a width.

  A type of machine integers holds the numbers between two
  bounds. An operation is made on numbers without bounds and
  then checked: a result that the type does not hold is an
  overflow, and there is nothing that it is.

  Key definitions include:
    * `IntType`
    * `IntType.check`

  Key theorems include:
    * `check_of_holds`
    * `check_of_not_holds`
    * `bind_check_of_holds`
    * `bind_check_of_not_holds`
-/

namespace D2Common

namespace Checked

/- The least and the greatest number of a type. -/
structure IntType where
  min : Int
  max : Int

/- A signed type with 32 bits. -/
def int32 : IntType := ⟨-2147483648, 2147483647⟩

/- An unsigned type with 32 bits. -/
def uint32 : IntType := ⟨0, 4294967295⟩

/- A number that is one of the type. -/
def IntType.Holds
    (t : IntType)
    (x : Int) : Prop :=
  t.min ≤ x ∧ x ≤ t.max

instance (t : IntType) (x : Int) : Decidable (t.Holds x) :=
  inferInstanceAs (Decidable (_ ∧ _))

/- The result of an operation, unless it overflows. -/
def IntType.check
    (t : IntType)
    (x : Int) : Option Int :=
  if t.Holds x then some x else none

theorem check_of_holds
    {t : IntType}
    {x : Int}
    (hx : t.Holds x) :
    t.check x = some x :=
  if_pos hx

theorem check_of_not_holds
    {t : IntType}
    {x : Int}
    (hx : ¬ t.Holds x) :
    t.check x = none :=
  if_neg hx

variable {B : Type}

/- What follows an operation that does not overflow. -/
theorem bind_check_of_holds
    {t : IntType}
    {x : Int}
    (hx : t.Holds x)
    (next : Int → Option B) :
    (t.check x >>= next) = next x := by
  rw [check_of_holds hx]
  rfl

/- Nothing follows one that does. -/
theorem bind_check_of_not_holds
    {t : IntType}
    {x : Int}
    (hx : ¬ t.Holds x)
    (next : Int → Option B) :
    (t.check x >>= next) = none := by
  rw [check_of_not_holds hx]
  rfl

theorem int32_holds_iff (x : Int) :
    int32.Holds x ↔ -2147483648 ≤ x ∧ x ≤ 2147483647 :=
  Iff.rfl

theorem uint32_holds_iff (x : Int) :
    uint32.Holds x ↔ 0 ≤ x ∧ x ≤ 4294967295 :=
  Iff.rfl

end Checked

end D2Common
