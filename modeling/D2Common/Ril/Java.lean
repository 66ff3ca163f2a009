import Mathlib.Algebra.Order.Ring.Int

/-
  Java strings, numbers and exceptions.

  A string is a list of UTF-16 units. Which units are digits
  is a parameter, since `Character.digit` knows the digits
  of all scripts.

  Key definitions include:
    * `JString`
    * `parseInt`
    * `Throwable`
-/

------------------------------------------------------------
-- Strings And Numbers
------------------------------------------------------------

namespace D2Common

namespace Ril

/- A string that is not `null`. -/
abbrev JString := List UInt16

/- A string literal. -/
def literal (text : String) : JString :=
  text.toList.map fun c => UInt16.ofNat c.toNat

/- `Character.digit(c, radix)`, with `none` for -1. -/
abbrev CharDigit := UInt16 → Nat → Option Nat

/- The digits and letters of ASCII. -/
def asciiDigit : CharDigit :=
  fun c radix =>
    let value :=
      if 48 ≤ c.toNat ∧ c.toNat ≤ 57 then c.toNat - 48
      else if 65 ≤ c.toNat ∧ c.toNat ≤ 90 then c.toNat - 55
      else if 97 ≤ c.toNat ∧ c.toNat ≤ 122 then c.toNat - 87
      else radix
    if value < radix then some value else none

/- The number that digits stand for. -/
def digitsValue
    (digit : CharDigit)
    (radix : Nat) : JString → Nat → Option Nat
| [], value => some value
| c :: rest, value =>
    match digit c radix with
    | none => none
    | some d =>
        digitsValue digit radix rest (value * radix + d)

/-
  `Integer.parseInt(s, radix)`; `none` is its
  `NumberFormatException`.
-/
def parseInt
    (digit : CharDigit)
    (s : JString)
    (radix : Nat) : Option Int :=
  let negative := s.head? = some 45
  let digits :=
    if negative ∨ s.head? = some 43 then s.tail else s
  if digits = [] then
    none
  else
    match digitsValue digit radix digits 0 with
    | none => none
    | some value =>
        let n : Int := if negative then -value else value
        if -2 ^ 31 ≤ n ∧ n < 2 ^ 31 then some n else none

/- `Integer.toString(n)`. -/
def integerToString (n : Int) : JString :=
  let digits :=
    (Nat.toDigits 10 n.natAbs).map fun c =>
      UInt16.ofNat c.toNat
  if n < 0 then 45 :: digits else digits

/- `Integer.MAX_VALUE`. -/
def integerMaxValue : Int := 2 ^ 31 - 1

end Ril

end D2Common

------------------------------------------------------------
-- Exceptions
------------------------------------------------------------

namespace D2Common

namespace Ril

/- What a call may throw. -/
inductive Throwable where
  | nullPointerException
  | arrayIndexOutOfBoundsException
  | numberFormatException
  | runtimeException
  -- those that other classes throw
  | other (name : String)
deriving DecidableEq

/- A method that is called on a reference. -/
def onObject
    {α β : Type}
    (object : Option α)
    (method : α → β) : Except Throwable β :=
  match object with
  | none => .error .nullPointerException
  | some object => .ok (method object)

end Ril

end D2Common
