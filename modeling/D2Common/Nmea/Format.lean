import Mathlib.Algebra.Order.Ring.Int

/-
  Text of NMEA sentences.

  A sentence is written into an array of fixed size by
  calls of `snprintf`. A call whose text does not fit is an
  error and ends the function that has made it, except where
  its result is not looked at: there the text is cut.

  Key definitions include:
    * `append`
    * `appendCut`
    * `formatInt`
    * `putChecksum`

  Key theorems include:
    * `append_of_lt`
    * `length_formatInt_le`
-/

------------------------------------------------------------
-- Writing
------------------------------------------------------------

namespace D2Common

namespace Nmea

/- The text in the array, without the final NUL. -/
abbrev Sentence := List Char

/- `NMEA_SENTENCE_MAX_LENGTH`, the size of the array. -/
def nmeaSentenceMaxLength : Nat := 200

/- What is left of the array, for text and its NUL. -/
def lengthRemaining (sentence : Sentence) : Nat :=
  nmeaSentenceMaxLength - sentence.length

/- A `snprintf` at the end, and the check of its result. -/
def append
    (sentence text : Sentence) : Option Sentence :=
  if lengthRemaining sentence ≤ text.length then none
  else some (sentence ++ text)

/- A `snprintf` at the end whose result is not checked. -/
def appendCut
    (sentence text : Sentence) : Sentence :=
  sentence ++ text.take (lengthRemaining sentence - 1)

theorem append_of_lt
    (sentence text : Sentence)
    (hFits :
      sentence.length + text.length <
        nmeaSentenceMaxLength) :
    append sentence text = some (sentence ++ text) := by
  unfold append lengthRemaining
  rw [if_neg (by omega)]

end Nmea

end D2Common

------------------------------------------------------------
-- Numbers
------------------------------------------------------------

namespace D2Common

namespace Nmea

/- Zeros in front, up to a width. -/
def zeroPadded
    (width : Nat)
    (text : Sentence) : Sentence :=
  List.replicate (width - text.length) '0' ++ text

/- The conversion `%0wd`; `%d` for a width of zero. -/
def formatInt
    (width : Nat)
    (n : Int) : Sentence :=
  let digits := Nat.toDigits 10 n.natAbs
  if n < 0 then '-' :: zeroPadded (width - 1) digits
  else zeroPadded width digits

theorem length_zeroPadded
    (width : Nat)
    (text : Sentence) :
    (zeroPadded width text).length =
      max width text.length := by
  simp only [zeroPadded, List.length_append,
    List.length_replicate]
  omega

/- The length of a number of so many digits. -/
theorem length_formatInt_le
    {width k : Nat}
    {n : Int}
    (hWidth : width ≤ k)
    (hPositive : 0 < k)
    (hDigits : n.natAbs < 10 ^ k) :
    (formatInt width n).length ≤ k + 1 := by
  have hLength :
      (Nat.toDigits 10 n.natAbs).length ≤ k :=
    (Nat.length_toDigits_le_iff (by omega) hPositive).mpr
      hDigits
  unfold formatInt
  dsimp only
  split
  · rw [List.length_cons, length_zeroPadded]
    omega
  · rw [length_zeroPadded]
    omega

/- One without a sign is no longer than its digits. -/
theorem length_formatInt_natCast_le
    (width k : Nat)
    {m : Nat}
    (hWidth : width ≤ k)
    (hPositive : 0 < k)
    (hDigits : m < 10 ^ k) :
    (formatInt width m).length ≤ k := by
  have hLength : (Nat.toDigits 10 m).length ≤ k :=
    (Nat.length_toDigits_le_iff (by omega) hPositive).mpr
      hDigits
  have hNatAbs : (m : Int).natAbs = m := by omega
  unfold formatInt
  rw [hNatAbs, if_neg (by omega), length_zeroPadded]
  omega

/- A number is at least as long as its digits. -/
theorem length_toDigits_le_formatInt
    (width : Nat)
    (n : Int) :
    (Nat.toDigits 10 n.natAbs).length ≤
      (formatInt width n).length := by
  unfold formatInt
  dsimp only
  split
  · rw [List.length_cons, length_zeroPadded]
    omega
  · rw [length_zeroPadded]
    omega

/- A number of type `int`. -/
theorem length_formatInt_toInt_le
    (width : Nat)
    (hWidth : width ≤ 10)
    (n : BitVec 32) :
    (formatInt width n.toInt).length ≤ 11 := by
  have hLower := BitVec.le_toInt n
  have hUpper := BitVec.toInt_lt (x := n)
  exact
    length_formatInt_le (k := 10) hWidth (by omega) (by omega)

end Nmea

end D2Common

------------------------------------------------------------
-- Checksums
------------------------------------------------------------

namespace D2Common

namespace Nmea

/- A digit of the conversion `%02X`. -/
def hexDigit (n : Nat) : Char :=
  if n < 10 then Char.ofNat ('0'.toNat + n)
  else Char.ofNat ('A'.toNat + (n - 10))

/- A sentence as it is passed to `loc_eng_nmea_send`. -/
structure Sent where
  pNmea : Sentence
  length : Nat
deriving DecidableEq

/-
  `loc_eng_nmea_put_checksum`: the characters behind the `$`
  are combined into one byte. The length that is returned
  does not count the `$`.
-/
def putChecksum
    (sentence : Sentence)
    (maxSize : Nat) : Sent :=
  let body := sentence.tail
  let checksum : UInt8 :=
    body.foldl (fun sum c => sum ^^^ UInt8.ofNat c.toNat) 0
  let text :=
    ['*', hexDigit (checksum.toNat / 16),
      hexDigit (checksum.toNat % 16), '\r', '\n']
  let size := maxSize - body.length - 1
  ⟨sentence ++ text.take (size - 1),
    body.length + text.length⟩

end Nmea

end D2Common
