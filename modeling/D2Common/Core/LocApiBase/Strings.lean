import D2Common.Foundations.Checked
import D2Common.Foundations.Writes
import D2Common.Nmea.Format

/-
  Bytes as strings.

  `hexcode` writes bytes as hexadecimal digits, and
  `decodeAddress` writes the digits of an address that comes
  as swapped decimal digits. Both are given the size of the
  string and write no more than fits. What they write is a
  sequence of writes to the string, by index. A `char` has
  no sign, as on the target.

  Key definitions include:
    * `hexcode`
    * `decodeHex`
    * `decodeAddress`
    * `digitsOf`
    * `packed`

  Key theorems include:
    * `hexLoop_eq`
    * `hexcode_inverts_iff`
    * `decodeLoop_eq`
    * `decodeAddress_digits`
-/

------------------------------------------------------------
-- Hexadecimal Digits
------------------------------------------------------------

namespace D2Common

namespace LocApiBase

open Checked (int32)
open Nmea (hexDigit)
open Writes (textAt)

/- The result of a function and its writes to the string. -/
structure Coded where
  ret : Nat
  writes : List (Nat × Char)
deriving DecidableEq

/- The two digits of the conversion `%02X`. -/
def hexPair (ch : UInt8) : List Char :=
  [hexDigit (ch.toNat / 16), hexDigit (ch.toNat % 16)]

/- The loop of `hexcode`, from an index on. -/
def hexLoop
    (string_size : Int) :
    Nat → List UInt8 → Option Coded
| i, [] => some ⟨i, []⟩
| i, ch :: data => do
    let start ← int32.check (i * 2)
    let needed ← int32.check (start + 3)
    if needed ≤ string_size then
      let rest ← hexLoop string_size (i + 1) data
      -- `snprintf(&hexstring[i*2], 3, "%02X", ch)`
      let written := textAt (i * 2) (hexPair ch ++ ['\x00'])
      some { rest with writes := written ++ rest.writes }
    else some ⟨i, []⟩

/- `hexcode`; `data_size` is the count of the bytes. -/
def hexcode
    (string_size : Int)
    (data : List UInt8) : Option Coded :=
  hexLoop string_size 0 data

/- The value of a hexadecimal digit, in upper case. -/
def hexValue (c : Char) : Option Nat :=
  if '0' ≤ c ∧ c ≤ '9' then some (c.toNat - '0'.toNat)
  else if 'A' ≤ c ∧ c ≤ 'F' then
    some (c.toNat - 'A'.toNat + 10)
  else none

/- The bytes that pairs of digits stand for. -/
def decodeHex : List Char → Option (List UInt8)
| [] => some []
| [_] => none
| c :: d :: text => do
    let high ← hexValue c
    let low ← hexValue d
    let data ← decodeHex text
    some (UInt8.ofNat (16 * high + low) :: data)

end LocApiBase

end D2Common

------------------------------------------------------------
-- Encoding and Decoding
------------------------------------------------------------

namespace D2Common

namespace LocApiBase

open Checked (int32 bind_check_of_holds
  bind_check_of_not_holds int32_holds_iff)
open Nmea (hexDigit)
open Writes (Stands textAt writeAll)

/- The digits of bytes. -/
def hexText (data : List UInt8) : List Char :=
  data.flatMap hexPair

theorem hexValue_hexDigit
    {n : Nat}
    (hDigit : n < 16) :
    hexValue (hexDigit n) = some n := by
  revert n
  decide

theorem hexText_cons
    (ch : UInt8)
    (data : List UInt8) :
    hexText (ch :: data) = hexPair ch ++ hexText data := rfl

theorem length_hexText (data : List UInt8) :
    (hexText data).length = 2 * data.length := by
  induction data with
  | nil => rfl
  | cons ch data ih =>
      rw [hexText_cons, List.length_append, ih,
        List.length_cons]
      simp only [hexPair, List.length_cons, List.length_nil]
      omega

theorem hexValue_of_mem_hexText
    {data : List UInt8}
    {c : Char}
    (hc : c ∈ hexText data) :
    (hexValue c).isSome = true := by
  rcases List.mem_flatMap.mp hc with ⟨ch, -, hPair⟩
  have hByte := ch.toNat_lt
  simp only [hexPair, List.mem_cons, List.not_mem_nil,
    or_false] at hPair
  rcases hPair with rfl | rfl
  · rw [hexValue_hexDigit (by omega)]
    rfl
  · rw [hexValue_hexDigit (by omega)]
    rfl

/- The digits of bytes are read as these bytes. -/
theorem decodeHex_hexText (data : List UInt8) :
    decodeHex (hexText data) = some data := by
  induction data with
  | nil => rfl
  | cons ch data ih =>
      have hByte := ch.toNat_lt
      have hHigh : ch.toNat / 16 < 16 := by omega
      have hLow : ch.toNat % 16 < 16 := by omega
      rw [hexText_cons]
      simp only [hexPair, List.cons_append, List.nil_append,
        decodeHex, hexValue_hexDigit hHigh,
        hexValue_hexDigit hLow, ih, Option.bind_eq_bind,
        Option.bind_some, Nat.div_add_mod, UInt8.ofNat_toNat]

/- How many bytes the string has room for. -/
def hexRoom (string_size : Int) : Nat :=
  ((string_size - 1) / 2).toNat

/- What the loop writes for bytes from an index on. -/
def hexWrites : Nat → List UInt8 → List (Nat × Char)
| _, [] => []
| i, ch :: data =>
    textAt (i * 2) (hexPair ch ++ ['\x00']) ++
      hexWrites (i + 1) data

/- The loop writes bytes as long as there is room. -/
theorem hexLoop_eq
    {string_size : Int}
    (hSize : int32.Holds string_size)
    {i : Nat}
    (hi : i ≤ hexRoom string_size)
    {data : List UInt8}
    (hRange :
      string_size < 2147483647 ∨
        (i + data.length : Int) < 1073741824) :
    hexLoop string_size i data =
      some
        ⟨i + min data.length (hexRoom string_size - i),
          hexWrites i
            (data.take (hexRoom string_size - i))⟩ := by
  rw [int32_holds_iff] at hSize
  unfold hexRoom at hi ⊢
  induction data generalizing i with
  | nil => simp [hexLoop, hexWrites]
  | cons ch data ih =>
      rw [List.length_cons, Nat.cast_add, Nat.cast_one]
        at hRange
      have hStart : int32.Holds (i * 2) := by
        rw [int32_holds_iff]
        omega
      have hNeeded : int32.Holds (i * 2 + 3) := by
        rw [int32_holds_iff]
        omega
      rw [hexLoop, bind_check_of_holds hStart,
        bind_check_of_holds hNeeded]
      by_cases hFits : (i : Int) * 2 + 3 ≤ string_size
      · -- one more byte, and room for one less
        have hRoom :
            ((string_size - 1) / 2).toNat - i =
              ((string_size - 1) / 2).toNat - (i + 1) + 1 := by
          omega
        have hCount :
            i + 1 +
                min data.length
                  (((string_size - 1) / 2).toNat - (i + 1)) =
              i +
                min (data.length + 1)
                  (((string_size - 1) / 2).toNat - i) := by
          omega
        rw [if_pos hFits, ih (by omega) (by omega),
          Option.bind_eq_bind, Option.bind_some, hRoom,
          List.take_succ_cons, hexWrites, List.length_cons,
          hCount, hRoom]
      · have hNone :
            ((string_size - 1) / 2).toNat - i = 0 := by
          omega
        rw [if_neg hFits, hNone]
        simp [hexWrites]

/- A terminator is overwritten by the next digits. -/
theorem writeAll_hexWrites
    (i : Nat)
    (ch : UInt8)
    (data : List UInt8)
    (m : Nat → Char) :
    writeAll (hexWrites i (ch :: data)) m =
      writeAll
        (textAt (i * 2) (hexText (ch :: data) ++ ['\x00']))
        m := by
  induction data generalizing i ch m with
  | nil => simp [hexWrites, hexText]
  | cons next data ih =>
      have hLength : (hexPair ch).length = 2 := rfl
      have hNext : (i + 1) * 2 = i * 2 + 2 := by omega
      have hPair (text : List Char) :
          textAt (i * 2) (hexPair ch ++ text) =
            textAt (i * 2) (hexPair ch) ++
              textAt (i * 2 + 2) text := by
        rw [Writes.textAt_append, hLength]
      rw [hexWrites, Writes.writeAll_append, ih, hNext,
        hexText_cons ch, List.append_assoc, hPair, hPair,
        Writes.writeAll_append, Writes.writeAll_append,
        ← Writes.writeAll_append _ (textAt _ (hexText _ ++ _))]
      -- the terminator stands where the next digit goes
      exact
        Writes.writeAll_twice (i * 2 + 2) '\x00'
          (hexDigit (next.toNat / 16)) _
          (writeAll (textAt (i * 2) (hexPair ch)) m)

end LocApiBase

end D2Common

------------------------------------------------------------
-- What The String Holds
------------------------------------------------------------

namespace D2Common

namespace LocApiBase

open Checked (int32 bind_check_of_holds
  bind_check_of_not_holds int32_holds_iff)
open Writes (Stands writeAll)

/- The bytes that are encoded fit, and can be read back. -/
structure Inverts
    (string_size : Int)
    (data : List UInt8)
    (r : Coded) : Prop where
  ret :
    (r.ret : Int) =
      min (data.length : Int) (max 0 ((string_size - 1) / 2))
  bounds : ∀ w ∈ r.writes, (w.1 : Int) < string_size
  text :
    0 < r.ret →
      ∀ m,
        ∃ text,
          text.length = 2 * r.ret ∧
          (∀ c ∈ text, (hexValue c).isSome = true) ∧
          decodeHex text = some (data.take r.ret) ∧
          Stands (writeAll r.writes m) 0 (text ++ ['\x00'])

theorem bounds_of_mem_hexWrites
    {i : Nat}
    {data : List UInt8}
    {w : Nat × Char}
    (hw : w ∈ hexWrites i data) :
    0 < data.length ∧ w.1 ≤ (i + data.length) * 2 := by
  induction data generalizing i with
  | nil => cases hw
  | cons ch data ih =>
      rw [List.length_cons]
      rcases List.mem_append.mp hw with hHere | hLater
      · have hBounds := Writes.bounds_of_mem_textAt hHere
        simp only [hexPair, List.cons_append, List.nil_append,
          List.length_cons, List.length_nil] at hBounds
        omega
      · have hBound := ih hLater
        omega

/- The bytes that fit are encoded, if the loop ends. -/
theorem inverts_hexWrites
    (string_size : Int)
    (data : List UInt8) :
    Inverts string_size data
      ⟨min data.length (hexRoom string_size),
        hexWrites 0 (data.take (hexRoom string_size))⟩ where
  ret := by
    unfold hexRoom
    dsimp only
    omega
  bounds := by
    intro w hw
    have hBound := bounds_of_mem_hexWrites hw
    rw [List.length_take] at hBound
    unfold hexRoom at hBound
    omega
  text := by
    intro hSome m
    dsimp only at hSome ⊢
    have hTaken :
        data.take (min data.length (hexRoom string_size)) =
          data.take (hexRoom string_size) := by
      rw [Nat.min_comm, ← List.take_eq_take_min]
    refine
      ⟨hexText (data.take (hexRoom string_size)), ?_,
        fun c hc => hexValue_of_mem_hexText hc, ?_, ?_⟩
    · rw [length_hexText, List.length_take, Nat.min_comm]
    · rw [decodeHex_hexText, hTaken]
    · cases hData : data.take (hexRoom string_size) with
      | nil =>
          have hLength := congrArg List.length hData
          rw [List.length_take, List.length_nil] at hLength
          omega
      | cons ch rest =>
          rw [writeAll_hexWrites, Nat.zero_mul]
          exact Writes.stands_writeAll_textAt 0 _ m

/- The next position is out of range in the last round. -/
theorem hexLoop_overflows
    {i : Nat}
    (hi : (i : Int) < 1073741824)
    {data : List UInt8}
    (hLong : 1073741824 ≤ (i + data.length : Int)) :
    hexLoop 2147483647 i data = none := by
  induction data generalizing i with
  | nil =>
      rw [List.length_nil, Nat.cast_zero] at hLong
      omega
  | cons ch data ih =>
      rw [List.length_cons, Nat.cast_add, Nat.cast_one]
        at hLong
      have hStart : int32.Holds (i * 2) := by
        rw [int32_holds_iff]
        omega
      rw [hexLoop, bind_check_of_holds hStart]
      by_cases hLast : (i : Int) + 1 < 1073741824
      · have hNeeded : int32.Holds (i * 2 + 3) := by
          rw [int32_holds_iff]
          omega
        have hFits : (i : Int) * 2 + 3 ≤ 2147483647 := by
          omega
        rw [bind_check_of_holds hNeeded, if_pos hFits,
          ih (by push_cast; omega) (by push_cast; omega)]
        rfl
      · have hNeeded : ¬ int32.Holds (i * 2 + 3) := by
          rw [int32_holds_iff]
          omega
        rw [bind_check_of_not_holds hNeeded]

theorem hexcode_eq
    {string_size : Int}
    (hSize : int32.Holds string_size)
    {data : List UInt8}
    (hRange :
      string_size < 2147483647 ∨
        (data.length : Int) < 1073741824) :
    hexcode string_size data =
      some
        ⟨min data.length (hexRoom string_size),
          hexWrites 0
            (data.take (hexRoom string_size))⟩ := by
  have hStart :
      string_size < 2147483647 ∨
        ((0 : Nat) + data.length : Int) < 1073741824 := by
    push_cast
    omega
  have hLoop := hexLoop_eq hSize (Nat.zero_le _) hStart
  rw [Nat.zero_add, Nat.sub_zero] at hLoop
  exact hLoop

/- Only the largest size and too many bytes are excluded. -/
theorem hexcode_inverts_iff
    {string_size : Int}
    (hSize : int32.Holds string_size)
    (data : List UInt8) :
    (∃ r,
        hexcode string_size data = some r ∧
        Inverts string_size data r) ↔
      string_size < 2147483647 ∨
        (data.length : Int) < 1073741824 := by
  constructor
  · rintro ⟨r, hResult, -⟩
    by_contra hRange
    rw [int32_holds_iff] at hSize
    have hLargest : string_size = 2147483647 := by omega
    subst hLargest
    have hNone :
        hexcode 2147483647 data = none :=
      hexLoop_overflows (i := 0) (by omega)
        (by push_cast; omega)
    rw [hNone] at hResult
    cases hResult
  · intro hRange
    exact
      ⟨_, hexcode_eq hSize hRange,
        inverts_hexWrites string_size data⟩

theorem hexcode_inverts_iff_odd :
    ∃ r,
      hexcode 4 [0xA0, 0x01] = some r ∧
      Inverts 4 [0xA0, 0x01] r :=
  (hexcode_inverts_iff (by decide) [0xA0, 0x01]).mpr
    (Or.inl (by decide))

/- A string of the largest size, and too many bytes. -/
theorem hexcode_largest_fails :
    ¬ ∃ r,
      hexcode 2147483647 (List.replicate 1073741824 0) =
        some r ∧
      Inverts 2147483647 (List.replicate 1073741824 0) r := by
  rintro ⟨r, hResult, -⟩
  have hNone :
      hexcode 2147483647 (List.replicate 1073741824 0) =
        none :=
    hexLoop_overflows (i := 0) (by omega)
      (by rw [List.length_replicate]; omega)
  rw [hNone] at hResult
  cases hResult

end LocApiBase

end D2Common

------------------------------------------------------------
-- Decoding An Address
------------------------------------------------------------

namespace D2Common

namespace LocApiBase

open Checked (int32)
open Writes (textAt)

/- `addr_prefix`. -/
def addrPrefix : UInt8 := 0x91

/- `low + '0'` and `hi + '0'`. -/
def digitChar (digit : UInt8) : Char :=
  Char.ofNat (digit.toNat + '0'.toNat)

/- Half a byte goes to the string if it is a digit and there
is room; `string_size - 1` is only computed for a digit. -/
def appendDigit
    (string_size : Int)
    (digit : UInt8)
    (r : Coded) : Option Coded :=
  if digit ≤ 9 then do
    let last ← int32.check (string_size - 1)
    if r.ret < last then
      let written := (r.ret, digitChar digit)
      some ⟨r.ret + 1, r.writes ++ [written]⟩
    else some r
  else some r

/- The loop of `decodeAddress`, with what it has written. -/
def decodeLoop
    (string_size : Int) :
    List UInt8 → Coded → Option Coded
| [], r => some r
| ch :: data, r => do
    let r ← appendDigit string_size (ch &&& 0x0F) r
    let r ← appendDigit string_size (ch >>> 4) r
    decodeLoop string_size data r

/- `decodeAddress`; a pointer that is NULL is `false` or
`none`. The first byte is read whatever `data_size` is. -/
def decodeAddress
    (addr_string : Bool)
    (string_size : Int)
    (data : Option (List UInt8)) : Option Coded :=
  match addr_string, data with
  | false, _ | _, none => some ⟨0, []⟩
  | true, some [] => none
  | true, some (first :: data) =>
      if first ≠ addrPrefix then some ⟨0, [(0, '\x00')]⟩
      else do
        let r ← decodeLoop string_size data ⟨0, []⟩
        some ⟨r.ret, r.writes ++ [(r.ret, '\x00')]⟩

/- The character of half a byte, unless it is a filler. -/
def digitOf (digit : UInt8) : List Char :=
  if digit ≤ 9 then [digitChar digit] else []

/- The digits of bytes, the low half of each byte first. -/
def digitsOf (data : List UInt8) : List Char :=
  data.flatMap fun ch =>
    digitOf (ch &&& 0x0F) ++ digitOf (ch >>> 4)

/- The value of a decimal digit. -/
def digitValue (c : Char) : UInt8 :=
  UInt8.ofNat (c.toNat - '0'.toNat)

/- Digits as swapped BCD; `0xF` fills the last byte. -/
def packed : List Char → List UInt8
| [] => []
| [c] => [0xF0 ||| digitValue c]
| c :: d :: digits =>
    (digitValue d <<< 4 ||| digitValue c) :: packed digits

end LocApiBase

end D2Common

------------------------------------------------------------
-- Packed Digits
------------------------------------------------------------

namespace D2Common

namespace LocApiBase

theorem halves_of_small :
    ∀ low high : Fin 16,
      (UInt8.ofNat high <<< 4 ||| UInt8.ofNat low) &&& 0x0F =
          UInt8.ofNat low ∧
        (UInt8.ofNat high <<< 4 ||| UInt8.ofNat low) >>> 4 =
          UInt8.ofNat high := by
  decide

/- Two halves that are packed in a byte are its halves. -/
theorem halves_of_packed
    {low high : UInt8}
    (hLow : low ≤ 15)
    (hHigh : high ≤ 15) :
    (high <<< 4 ||| low) &&& 0x0F = low ∧
      (high <<< 4 ||| low) >>> 4 = high := by
  have hLowSmall : low.toNat < 16 :=
    Nat.lt_succ_of_le (UInt8.le_iff_toNat_le.mp hLow)
  have hHighSmall : high.toNat < 16 :=
    Nat.lt_succ_of_le (UInt8.le_iff_toNat_le.mp hHigh)
  have hHalves :=
    halves_of_small ⟨low.toNat, hLowSmall⟩
      ⟨high.toNat, hHighSmall⟩
  rw [UInt8.ofNat_toNat, UInt8.ofNat_toNat] at hHalves
  exact hHalves

theorem toNat_digitValue
    {c : Char}
    (hDigit : c.isDigit = true) :
    (digitValue c).toNat + '0'.toNat = c.toNat ∧
      (digitValue c).toNat ≤ 9 := by
  simp only [Char.isDigit, Bool.and_eq_true,
    decide_eq_true_eq] at hDigit
  have hLow : 48 ≤ c.toNat := hDigit.1
  have hHigh : c.toNat ≤ 57 := hDigit.2
  have hZero : '0'.toNat = 48 := rfl
  rw [digitValue, UInt8.toNat_ofNat', hZero]
  omega

theorem digitOf_digitValue
    {c : Char}
    (hDigit : c.isDigit = true) :
    digitOf (digitValue c) = [c] := by
  have hValue := toNat_digitValue hDigit
  have hSmall : digitValue c ≤ 9 :=
    UInt8.le_iff_toNat_le.mpr hValue.2
  rw [digitOf, if_pos hSmall, digitChar, hValue.1,
    Char.ofNat_toNat]

theorem digitsOf_cons
    (ch : UInt8)
    (data : List UInt8) :
    digitsOf (ch :: data) =
      digitOf (ch &&& 0x0F) ++
        (digitOf (ch >>> 4) ++ digitsOf data) :=
  List.append_assoc _ _ _

/- What the halves of a packed byte stand for. -/
theorem digitsOf_packed_cons
    {low high : UInt8}
    (hLow : low ≤ 15)
    (hHigh : high ≤ 15)
    (data : List UInt8) :
    digitsOf ((high <<< 4 ||| low) :: data) =
      digitOf low ++ (digitOf high ++ digitsOf data) := by
  have hHalves := halves_of_packed hLow hHigh
  rw [digitsOf_cons, hHalves.1, hHalves.2]

/- Packed digits are unpacked, two of them at a time. -/
theorem digitsOf_packed
    {digits : List Char}
    (hDigits : ∀ c ∈ digits, c.isDigit = true) :
    digitsOf (packed digits) = digits := by
  have hHalf {c : Char} (hDigit : c.isDigit = true) :
      digitValue c ≤ 15 := by
    have hValue := toNat_digitValue hDigit
    exact UInt8.le_iff_toNat_le.mpr (hValue.2.trans (by decide))
  induction digits using packed.induct with
  | case1 => rfl
  | case2 c =>
      have hDigit := hDigits c (List.mem_singleton_self c)
      have hFiller : (0xF0 : UInt8) = (15 : UInt8) <<< 4 := by
        decide
      rw [packed, hFiller,
        digitsOf_packed_cons (hHalf hDigit) (by decide),
        digitOf_digitValue hDigit]
      rfl
  | case3 c d digits ih =>
      have hFirst := hDigits c (by simp)
      have hSecond := hDigits d (by simp)
      rw [packed,
        digitsOf_packed_cons (hHalf hFirst) (hHalf hSecond),
        digitOf_digitValue hFirst, digitOf_digitValue hSecond,
        ih fun c hc => hDigits c (by simp [hc])]
      rfl

example : packed ['4', '9', '1'] = [0x94, 0xF1] := by decide

end LocApiBase

end D2Common

------------------------------------------------------------
-- The Digits That Fit
------------------------------------------------------------

namespace D2Common

namespace LocApiBase

open Checked (int32 bind_check_of_holds int32_holds_iff)
open Writes (Stands textAt writeAll)

/- The result with more text written behind it. -/
def Coded.append
    (r : Coded)
    (text : List Char) : Coded :=
  ⟨r.ret + text.length, r.writes ++ textAt r.ret text⟩

theorem Coded.append_nil (r : Coded) : r.append [] = r := by
  simp [Coded.append, textAt]

theorem Coded.append_append
    (r : Coded)
    (text more : List Char) :
    (r.append text).append more = r.append (text ++ more) := by
  simp [Coded.append, Writes.textAt_append, Nat.add_assoc]

/- What is left of the string for digits. -/
def Coded.room
    (string_size : Int)
    (r : Coded) : Nat :=
  (string_size - 1).toNat - r.ret

/- The room that a text that is cut to fit leaves. -/
theorem Coded.take_append
    (string_size : Int)
    (r : Coded)
    (text more : List Char) :
    (r.append (text.take (r.room string_size))).append
        (more.take
          ((r.append
            (text.take (r.room string_size))).room
              string_size)) =
      r.append ((text ++ more).take (r.room string_size)) := by
  have hRoom :
      (r.append (text.take (r.room string_size))).room
          string_size =
        r.room string_size - text.length := by
    simp only [Coded.append, Coded.room, List.length_take]
    omega
  rw [hRoom, Coded.append_append, List.take_append]

theorem appendDigit_eq
    {string_size : Int}
    (hSize : int32.Holds string_size)
    (hRoom : 1 ≤ string_size)
    (digit : UInt8)
    (r : Coded) :
    appendDigit string_size digit r =
      some
        (r.append
          ((digitOf digit).take (r.room string_size))) := by
  have hLast : int32.Holds (string_size - 1) := by
    rw [int32_holds_iff] at hSize ⊢
    omega
  unfold appendDigit digitOf
  by_cases hDigit : digit ≤ 9
  · rw [if_pos hDigit, if_pos hDigit,
      bind_check_of_holds hLast]
    by_cases hFits : (r.ret : Int) < string_size - 1
    · have hSome :
          r.room string_size = r.room string_size - 1 + 1 := by
        unfold Coded.room
        omega
      rw [if_pos hFits, hSome, List.take_succ_cons,
        List.take_nil]
      rfl
    · have hNone : r.room string_size = 0 := by
        unfold Coded.room
        omega
      rw [if_neg hFits, hNone, List.take_zero,
        Coded.append_nil]
  · rw [if_neg hDigit, if_neg hDigit, List.take_nil,
      Coded.append_nil]

/- The loop writes the digits as long as there is room. -/
theorem decodeLoop_eq
    {string_size : Int}
    (hSize : int32.Holds string_size)
    (hRoom : 1 ≤ string_size)
    (data : List UInt8)
    (r : Coded) :
    decodeLoop string_size data r =
      some
        (r.append
          ((digitsOf data).take (r.room string_size))) := by
  induction data generalizing r with
  | nil =>
      rw [decodeLoop, digitsOf, List.flatMap_nil,
        List.take_nil, Coded.append_nil]
  | cons ch data ih =>
      rw [decodeLoop, appendDigit_eq hSize hRoom,
        Option.bind_eq_bind, Option.bind_some,
        appendDigit_eq hSize hRoom, Option.bind_some, ih,
        Coded.take_append, Coded.take_append, digitsOf_cons]

end LocApiBase

end D2Common

------------------------------------------------------------
-- The Decoded Address
------------------------------------------------------------

namespace D2Common

namespace LocApiBase

open Checked (int32)
open Writes (Stands textAt writeAll)

/- The result is the length of the digits in the string. -/
structure Leaves
    (string_size : Int)
    (r : Coded)
    (text : List Char) : Prop where
  ret : r.ret = text.length
  fits : (r.ret : Int) ≤ string_size - 1
  digits : ∀ c ∈ text, c.isDigit = true
  bounds : ∀ w ∈ r.writes, (w.1 : Int) < string_size
  stands :
    ∀ m, Stands (writeAll r.writes m) 0 (text ++ ['\x00'])

theorem isDigit_of_mem_digitOf
    {digit : UInt8}
    {c : Char}
    (hc : c ∈ digitOf digit) :
    c.isDigit = true := by
  have hAll :
      ∀ i : Fin 10,
        (Char.ofNat (i.val + '0'.toNat)).isDigit = true := by
    decide
  unfold digitOf at hc
  split at hc
  · rename_i hDigit
    have hSmall : digit.toNat < 10 :=
      Nat.lt_succ_of_le (UInt8.le_iff_toNat_le.mp hDigit)
    rw [List.mem_singleton] at hc
    rw [hc]
    exact hAll ⟨digit.toNat, hSmall⟩
  · cases hc

theorem isDigit_of_mem_digitsOf
    {data : List UInt8}
    {c : Char}
    (hc : c ∈ digitsOf data) :
    c.isDigit = true := by
  rcases List.mem_flatMap.mp hc with ⟨ch, -, hHalves⟩
  rcases List.mem_append.mp hHalves with hLow | hHigh
  · exact isDigit_of_mem_digitOf hLow
  · exact isDigit_of_mem_digitOf hHigh

/- The digits that fit are written, and the terminator. -/
theorem decodeAddress_eq
    {string_size : Int}
    (hSize : int32.Holds string_size)
    (hRoom : 1 ≤ string_size)
    (data : List UInt8) :
    decodeAddress true string_size
        (some (addrPrefix :: data)) =
      some
        ⟨((digitsOf data).take (string_size - 1).toNat).length,
          textAt 0
            ((digitsOf data).take (string_size - 1).toNat ++
              ['\x00'])⟩ := by
  rw [decodeAddress, if_neg (by simp),
    decodeLoop_eq hSize hRoom, Option.bind_eq_bind,
    Option.bind_some]
  simp [Coded.append, Coded.room, Writes.textAt_append, textAt]

theorem decodeAddress_leaves
    {string_size : Int}
    (hSize : int32.Holds string_size)
    (hRoom : 1 ≤ string_size)
    (data : List UInt8) :
    ∃ r,
      decodeAddress true string_size
          (some (addrPrefix :: data)) = some r ∧
      Leaves string_size r
        ((digitsOf data).take (string_size - 1).toNat) := by
  refine ⟨_, decodeAddress_eq hSize hRoom data, ?_⟩
  have hLength :
      ((digitsOf data).take (string_size - 1).toNat).length ≤
        (string_size - 1).toNat :=
    List.length_take_le _ _
  exact
    { ret := rfl
      fits := by
        dsimp only
        omega
      digits := fun c hc =>
        isDigit_of_mem_digitsOf (List.mem_of_mem_take hc)
      bounds := by
        intro w hw
        have hBounds := Writes.bounds_of_mem_textAt hw
        rw [List.length_append, List.length_singleton]
          at hBounds
        omega
      stands := fun m =>
        Writes.stands_writeAll_textAt 0 _ m }

theorem decodeAddress_digits
    {string_size : Int}
    (hSize : int32.Holds string_size)
    (hRoom : 1 ≤ string_size) :
    (∀ data,
        ∃ r,
          decodeAddress true string_size
              (some (addrPrefix :: data)) = some r ∧
          Leaves string_size r
            ((digitsOf data).take (string_size - 1).toNat)) ∧
      ∀ digits,
        (∀ c ∈ digits, c.isDigit = true) →
        (digits.length : Int) ≤ string_size - 1 →
        ∃ r,
          decodeAddress true string_size
              (some (addrPrefix :: packed digits)) = some r ∧
          Leaves string_size r digits := by
  refine
    ⟨decodeAddress_leaves hSize hRoom,
      fun digits hDigits hFits => ?_⟩
  have hAll :
      (digitsOf (packed digits)).take (string_size - 1).toNat =
        digits := by
    rw [digitsOf_packed hDigits]
    exact List.take_of_length_le (by omega)
  have hLeaves :=
    decodeAddress_leaves hSize hRoom (packed digits)
  rw [hAll] at hLeaves
  exact hLeaves

theorem decodeAddress_digits_odd :
    ∃ r,
      decodeAddress true 4
          (some (addrPrefix :: packed ['4', '9', '1'])) =
        some r ∧
      Leaves 4 r ['4', '9', '1'] :=
  (decodeAddress_digits (by decide) (by decide)).2
    ['4', '9', '1'] (List.all_eq_true.mp rfl) (by decide)

end LocApiBase

end D2Common
