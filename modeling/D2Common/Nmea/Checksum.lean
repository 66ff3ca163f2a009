import D2Common.Nmea.Format

/-
  The checksum in the array of a sentence.

  The function reads the array from behind the `$` to the
  NUL, combines what it reads into one byte, and writes this
  byte at the end of the text. The file has the function on
  the bytes of the array, and says how it refines the one on
  texts.

  Key definitions include:
    * `checksumLoop`
    * `snprintfAt`
    * `putChecksumIn`
    * `AsDocumented`

  Key theorems include:
    * `putChecksumIn_eq`
    * `putChecksumIn_refines`
    * `putChecksumIn_one_short`
-/

------------------------------------------------------------
-- Arrays of Bytes
------------------------------------------------------------

namespace D2Common

namespace Nmea

/- The array of a sentence. -/
abbrev Buffer := List UInt8

/- A character as it is stored. -/
def byte (c : Char) : UInt8 :=
  UInt8.ofNat c.toNat

/-
  The `while` loop, with the checksum and the length that it
  has come to.
-/
def checksumLoop :
    Buffer → UInt8 → Nat → UInt8 × Nat
| [], checksum, length => (checksum, length)
| b :: bs, checksum, length =>
    if b = 0 then (checksum, length)
    else checksumLoop bs (checksum ^^^ b) (length + 1)

/- An `int` that is passed as a `size_t`. -/
def sizeT (n : Int) : Nat :=
  (n % 4294967296).toNat

/-
  `snprintf` at an index: the text, cut to the size, and a
  NUL. The result is the length of the whole text.
-/
def snprintfAt
    (buffer : Buffer)
    (start size : Nat)
    (text : Buffer) : Buffer × Nat :=
  let written := text.take (size - 1)
  let after :=
    if size = 0 then buffer
    else
      buffer.take start ++ written ++
        0 :: buffer.drop (start + written.length + 1)
  (after, text.length)

/- `"*%02X\r\n"`. -/
def checksumText (checksum : UInt8) : Sentence :=
  ['*', hexDigit (checksum.toNat / 16),
    hexDigit (checksum.toNat % 16), '\r', '\n']

/- `loc_eng_nmea_put_checksum`. -/
def putChecksumIn
    (pNmea : Buffer)
    (maxSize : BitVec 32) : Buffer × Nat :=
  let (checksum, length) := checksumLoop pNmea.tail 0 0
  let (pNmea, checksumLength) :=
    snprintfAt pNmea (length + 1)
      (sizeT (maxSize.toInt - length - 1))
      ((checksumText checksum).map byte)
  (pNmea, length + checksumLength)

/- The bytes of a text, combined into one. -/
def checksumOf (s : Buffer) : UInt8 :=
  s.foldl (fun checksum b => checksum ^^^ b) 0

theorem checksumLoop_eq
    {s : Buffer}
    (hText : ∀ b ∈ s, b ≠ 0)
    (rest : Buffer)
    (checksum : UInt8)
    (length : Nat) :
    checksumLoop (s ++ 0 :: rest) checksum length =
      (s.foldl (fun checksum b => checksum ^^^ b) checksum,
        length + s.length) := by
  induction s generalizing checksum length with
  | nil => rfl
  | cons b s ih =>
      have hFirst : b ≠ 0 := hText b (by simp)
      rw [List.cons_append, checksumLoop, if_neg hFirst,
        ih (fun c hc => hText c (by simp [hc]))]
      simp only [List.foldl_cons, List.length_cons]
      congr 1
      omega

/- Where the text ends, `snprintf` goes on writing. -/
theorem snprintfAt_end
    (front rest text : Buffer)
    {size : Nat}
    (hSize : 0 < size) :
    snprintfAt (front ++ 0 :: rest) front.length size text =
      (front ++ text.take (size - 1) ++
          0 :: rest.drop (text.take (size - 1)).length,
        text.length) := by
  have hDrop (k : Nat) :
      (front ++ 0 :: rest).drop (front.length + k + 1) =
        rest.drop k := by
    rw [Nat.add_assoc, List.drop_length_add_append]
    rfl
  have hNotZero : size ≠ 0 := by omega
  unfold snprintfAt
  dsimp only
  rw [if_neg hNotZero, List.take_left, hDrop]

/-
  The checksum of the text behind the first character is
  written at its end, as far as there is room.
-/
theorem putChecksumIn_eq
    (first : UInt8)
    {s : Buffer}
    (hText : ∀ b ∈ s, b ≠ 0)
    (rest : Buffer)
    {maxSize : BitVec 32}
    (hSize : (s.length : Int) + 1 < maxSize.toInt) :
    let text := (checksumText (checksumOf s)).map byte
    let written :=
      text.take (maxSize.toInt.toNat - s.length - 2)
    putChecksumIn (first :: s ++ 0 :: rest) maxSize =
      (first :: s ++ written ++ 0 :: rest.drop written.length,
        s.length + 5) := by
  have hUpper := BitVec.toInt_lt (x := maxSize)
  have hRoom :
      sizeT (maxSize.toInt - (0 + s.length : Nat) - 1) =
        maxSize.toInt.toNat - s.length - 1 := by
    unfold sizeT
    omega
  have hLoop := checksumLoop_eq hText rest 0 0
  unfold putChecksumIn
  simp only [List.cons_append, List.tail_cons, hLoop]
  have hEnd : 0 + s.length + 1 = (first :: s).length := by
    simp
  rw [hRoom, hEnd, ← List.cons_append, snprintfAt_end]
  · rw [show maxSize.toInt.toNat - s.length - 1 - 1 =
      maxSize.toInt.toNat - s.length - 2 by omega]
    simp [checksumOf, checksumText]
  · omega

end Nmea

end D2Common

------------------------------------------------------------
-- The Text in the Array
------------------------------------------------------------

namespace D2Common

namespace Nmea

theorem foldl_byte
    (text : Sentence)
    (checksum : UInt8) :
    (text.map byte).foldl (fun sum b => sum ^^^ b) checksum =
      text.foldl
        (fun sum c => sum ^^^ UInt8.ofNat c.toNat)
        checksum := by
  rw [List.foldl_map]
  rfl

/-
  On an array with a sentence in it the function does what
  is said of it on texts, also where the checksum is cut.
-/
theorem putChecksumIn_refines
    (first : Char)
    {body : Sentence}
    (hText : ∀ c ∈ body, byte c ≠ 0)
    (rest : Buffer)
    {maxSize : Nat}
    (hSize : body.length + 1 < maxSize)
    (hInt : maxSize < 2147483648) :
    let sent := putChecksum (first :: body) maxSize
    ∃ rest',
      putChecksumIn
          ((first :: body).map byte ++ 0 :: rest)
          (BitVec.ofNat 32 maxSize) =
        (sent.pNmea.map byte ++ 0 :: rest', sent.length) := by
  have hToInt : (BitVec.ofNat 32 maxSize).toInt = maxSize := by
    have hToNat : (BitVec.ofNat 32 maxSize).toNat = maxSize := by
      rw [BitVec.toNat_ofNat]
      omega
    rw [BitVec.toInt_eq_toNat_of_lt (by omega), hToNat]
  have hBytes : ∀ b ∈ body.map byte, b ≠ 0 := by
    intro b hb
    rcases List.mem_map.mp hb with ⟨c, hc, rfl⟩
    exact hText c hc
  have hEq :=
    putChecksumIn_eq (byte first) hBytes rest
      (by rw [hToInt, List.length_map]; omega :
        ((body.map byte).length : Int) + 1 <
          (BitVec.ofNat 32 maxSize).toInt)
  rw [hToInt] at hEq
  have hChecksum :
      checksumOf (body.map byte) =
        body.foldl
          (fun sum c => sum ^^^ UInt8.ofNat c.toNat) 0 :=
    foldl_byte body 0
  have hLeft :
      (maxSize : Int).toNat - (body.map byte).length - 2 =
        maxSize - body.length - 1 - 1 := by
    rw [List.length_map]
    omega
  have hSent :
      (putChecksum (first :: body) maxSize).pNmea.map byte =
        byte first :: body.map byte ++
          ((checksumText (checksumOf (body.map byte))).map
            byte).take
              (maxSize - body.length - 1 - 1) := by
    rw [hChecksum]
    simp only [putChecksum, List.tail_cons, List.map_append,
      List.map_take]
    rfl
  dsimp only at hEq
  rw [hLeft, ← hSent, List.length_map] at hEq
  exact ⟨_, hEq⟩

end Nmea

end D2Common

------------------------------------------------------------
-- The Length That Is Returned
------------------------------------------------------------

namespace D2Common

namespace Nmea

/- A digit of a number to the base 16. -/
def hexByte (n : Nat) : UInt8 :=
  byte ("0123456789ABCDEF".toList.getD n ' ')

/-
  A text between its `$` and the end of its sentence: a `*`,
  both digits of the checksum, and the end of a line.
-/
def sealed (s : Buffer) : Buffer :=
  let checksum := (checksumOf s).toNat
  byte '$' :: s ++
    [byte '*', hexByte (checksum / 16),
      hexByte (checksum % 16), byte '\r', byte '\n']

/-
  The array holds the sentence and a NUL, and the result is
  the total length of the sentence.
-/
def AsDocumented
    (s : Buffer)
    (r : Buffer × Nat) : Prop :=
  sealed s ++ [0] <+: r.1 ∧ r.2 = (sealed s).length

instance
    (s : Buffer)
    (r : Buffer × Nat) : Decidable (AsDocumented s r) :=
  inferInstanceAs (Decidable (_ ∧ _))

/- The digits of `snprintf` are those. -/
theorem byte_hexDigit
    {n : Nat}
    (hDigit : n < 16) :
    byte (hexDigit n) = hexByte n := by
  revert n
  decide

theorem sealed_eq (s : Buffer) :
    sealed s =
      byte '$' :: s ++
        (checksumText (checksumOf s)).map byte := by
  have hByte := (checksumOf s).toNat_lt
  have hHigh :=
    byte_hexDigit (n := (checksumOf s).toNat / 16) (by omega)
  have hLow :=
    byte_hexDigit (n := (checksumOf s).toNat % 16) (by omega)
  unfold sealed checksumText
  simp only [List.map_cons, List.map_nil, hHigh, hLow]

/-
  The sentence is right in every array with room for it, and
  the length that is returned is always one short, as it
  does not count the `$`.
-/
theorem putChecksumIn_one_short
    (s rest : Buffer)
    (maxSize : BitVec 32)
    (hText : ∀ b ∈ s, b ≠ 0)
    (hRoom : 1 + (s.length : Int) + 5 + 1 ≤ maxSize.toInt) :
    let r := putChecksumIn (byte '$' :: s ++ 0 :: rest) maxSize
    sealed s ++ [0] <+: r.1 ∧
      r.2 + 1 = (sealed s).length ∧
      ¬ AsDocumented s r := by
  intro r
  have hEq :=
    putChecksumIn_eq (byte '$') hText rest
      (by omega : (s.length : Int) + 1 < maxSize.toInt)
  have hLength :
      ((checksumText (checksumOf s)).map byte).length = 5 := by
    simp [checksumText]
  have hWhole :
      ((checksumText (checksumOf s)).map byte).take
          (maxSize.toInt.toNat - s.length - 2) =
        (checksumText (checksumOf s)).map byte := by
    apply List.take_of_length_le
    omega
  simp only [hWhole] at hEq
  have hBuffer : sealed s ++ [0] <+: r.1 := by
    refine ⟨rest.drop 5, ?_⟩
    have hFirst := congrArg Prod.fst hEq
    rw [hLength] at hFirst
    exact (hFirst.trans (by simp [sealed_eq])).symm
  have hShort : r.2 + 1 = (sealed s).length := by
    have hSecond := congrArg Prod.snd hEq
    have hTotal : (sealed s).length = s.length + 6 := by
      rw [sealed_eq, List.length_append, hLength,
        List.length_cons]
    rw [show r.2 = s.length + 5 from hSecond, hTotal]
  refine ⟨hBuffer, hShort, ?_⟩
  rintro ⟨-, hTotal⟩
  omega

/- The body `A` in an array of 16 bytes. -/
theorem putChecksumIn_one_short_A :
    (sealed [65]).length = 7 ∧
      (putChecksumIn
          (byte '$' :: [65] ++ 0 :: List.replicate 13 0)
        16#32).2 + 1 = 7 :=
  ⟨by decide,
    (putChecksumIn_one_short [65] (List.replicate 13 0) 16#32
      (by simp) (by decide)).2.1⟩

/- For the body `GP` seven is returned instead of eight. -/
theorem putChecksumIn_GP :
    ¬ AsDocumented [71, 80]
      (putChecksumIn
        (byte '$' :: [71, 80] ++ 0 :: List.replicate 12 0)
        16#32) := by
  rintro ⟨-, hTotal⟩
  revert hTotal
  decide

end Nmea

end D2Common
