import D2Common.Foundations.Layout
import D2Common.Ril.Operators

/-
  What a parcel holds, and reading it in order.

  The class of parcels is a parameter: all that is used of it
  is that it gives out numbers, strings and byte arrays in
  the order in which they were written, and that it can be
  read again from an earlier position. A parcel of bytes is
  such a one.

  Key definitions include:
    * `Item`
    * `ParcelReader`
    * `InOrder`
    * `ParcelClass`
    * `Rewinds`
    * `Parcel.reader`

  Key theorems include:
    * `reads_readInt`
    * `inOrder_bytes`
    * `rewinds_bytes`
-/

------------------------------------------------------------
-- Items And Readers
------------------------------------------------------------

namespace D2Common

namespace Ril

open Layout (Reader Reads)

/- What is written to a parcel. -/
inductive Item where
  | int (n : BitVec 32)
  | string (s : Option JString)
  | byteArray (b : Option (List UInt8))
deriving DecidableEq

/- What is used of the class `Parcel`. -/
structure ParcelReader (S : Type) where
  readInt : S → BitVec 32 × S
  readString : S → Option JString × S
  createByteArray : S → Option (List UInt8) × S

variable {S : Type}

/- What was written first is read first. -/
structure InOrder
    (R : ParcelReader S)
    (holds : S → List Item → Prop) : Prop where
  int :
    ∀ p n rest, holds p (.int n :: rest) →
      (R.readInt p).1 = n ∧ holds (R.readInt p).2 rest
  string :
    ∀ p s rest, holds p (.string s :: rest) →
      (R.readString p).1 = s ∧ holds (R.readString p).2 rest
  byteArray :
    ∀ p b rest, holds p (.byteArray b :: rest) →
      (R.createByteArray p).1 = b ∧
        holds (R.createByteArray p).2 rest

/- What is used of it where a parcel is read twice. -/
structure ParcelClass (S : Type) extends ParcelReader S where
  dataPosition : S → Nat
  setDataPosition : S → Nat → S
  dataAvail : S → Nat

/- What has been read of a parcel is only its position. -/
structure Rewinds (C : ParcelClass S) : Prop where
  position :
    ∀ p, C.setDataPosition p (C.dataPosition p) = p
  readInt :
    ∀ p position,
      C.setDataPosition (C.readInt p).2 position =
        C.setDataPosition p position

/- A method that reads a parcel and may throw. -/
abbrev Read (S α : Type) := Reader S Throwable α

/- `p.readInt()`. -/
def readInt (R : ParcelReader S) : Read S (BitVec 32) :=
  fun p => .ok (R.readInt p)

/- `p.readString()`. -/
def readString (R : ParcelReader S) : Read S (Option JString) :=
  fun p => .ok (R.readString p)

/- `p.createByteArray()`. -/
def createByteArray
    (R : ParcelReader S) : Read S (Option (List UInt8)) :=
  fun p => .ok (R.createByteArray p)

variable {R : ParcelReader S}
variable {holds : S → List Item → Prop}

theorem reads_readInt
    (hR : InOrder R holds)
    (n : BitVec 32) :
    Reads holds (readInt R) [.int n] (.ok n) := by
  intro p rest hHolds
  rcases hR.int p n rest hHolds with ⟨hValue, hRest⟩
  refine ⟨(R.readInt p).2, ?_, hRest⟩
  exact congrArg Except.ok (Prod.ext hValue rfl)

theorem reads_readString
    (hR : InOrder R holds)
    (s : Option JString) :
    Reads holds (readString R) [.string s] (.ok s) := by
  intro p rest hHolds
  rcases hR.string p s rest hHolds with ⟨hValue, hRest⟩
  refine ⟨(R.readString p).2, ?_, hRest⟩
  exact congrArg Except.ok (Prod.ext hValue rfl)

theorem reads_createByteArray
    (hR : InOrder R holds)
    (b : Option (List UInt8)) :
    Reads holds (createByteArray R) [.byteArray b]
      (.ok b) := by
  intro p rest hHolds
  rcases hR.byteArray p b rest hHolds with ⟨hValue, hRest⟩
  refine ⟨(R.createByteArray p).2, ?_, hRest⟩
  exact congrArg Except.ok (Prod.ext hValue rfl)

end Ril

end D2Common

------------------------------------------------------------
-- Parcels Of Bytes
------------------------------------------------------------

namespace D2Common

namespace Ril

/- The bytes of a parcel, and where it is read next. -/
structure Parcel where
  data : List UInt8
  dataPosition : Nat

def Parcel.setDataPosition
    (p : Parcel)
    (dataPosition : Nat) : Parcel :=
  { p with dataPosition }

def Parcel.dataAvail (p : Parcel) : Nat :=
  p.data.length - p.dataPosition

/- The next four bytes, or zero when they are not there. -/
def Parcel.readInt (p : Parcel) : BitVec 32 × Parcel :=
  match p.data.drop p.dataPosition with
  | a :: b :: c :: d :: _ =>
      (d.toBitVec ++ c.toBitVec ++ b.toBitVec ++ a.toBitVec,
        { p with dataPosition := p.dataPosition + 4 })
  | _ => (0, p)

/- The four bytes of a number, the lowest one first. -/
def intBytes (n : BitVec 32) : List UInt8 :=
  [⟨n.extractLsb' 0 8⟩, ⟨n.extractLsb' 8 8⟩,
    ⟨n.extractLsb' 16 8⟩, ⟨n.extractLsb' 24 8⟩]

/- The two bytes of a unit of a string. -/
def unitBytes (c : UInt16) : List UInt8 :=
  [⟨c.toBitVec.extractLsb' 0 8⟩,
    ⟨c.toBitVec.extractLsb' 8 8⟩]

/- Items take up whole words. -/
def padSize (len : Nat) : Nat := (len + 3) / 4 * 4

/- Bytes, and zeros up to the end of the word. -/
def padded (bytes : List UInt8) : List UInt8 :=
  bytes ++
    List.replicate (padSize bytes.length - bytes.length) 0

/- The bytes of an item; the length of `null` is -1. -/
def Item.bytes : Item → List UInt8
| .int n => intBytes n
| .string none => intBytes (-1)
| .string (some s) =>
    intBytes (BitVec.ofNat 32 s.length) ++
      padded (s.flatMap unitBytes ++ [0, 0])
| .byteArray none => intBytes (-1)
| .byteArray (some b) =>
    intBytes (BitVec.ofNat 32 b.length) ++ padded b

/- An item whose size is a number of 31 bits. -/
def Item.Fits : Item → Prop
| .string (some s) => (s.length + 1) * 2 < 2 ^ 31 - 4
| .byteArray (some b) => b.length < 2 ^ 31 - 4
| _ => True

/- The units that bytes stand for. -/
def unitsOf : List UInt8 → JString
| a :: b :: rest => ⟨b.toBitVec ++ a.toBitVec⟩ :: unitsOf rest
| _ => []

namespace Parcel

/- The bytes of an item, if they are there. -/
def readInplace
    (p : Parcel)
    (len : Nat) : Option (List UInt8 × Parcel) :=
  if p.dataPosition + padSize len ≤ p.data.length then
    some
      ((p.data.drop p.dataPosition).take len,
        p.setDataPosition (p.dataPosition + padSize len))
  else none

def readString (p : Parcel) : Option JString × Parcel :=
  let (size, p) := p.readInt
  if 0 ≤ size.toInt then
    match p.readInplace ((size.toNat + 1) * 2) with
    | none => (none, p)
    | some (bytes, p) =>
        (some (unitsOf (bytes.take (size.toNat * 2))), p)
  else (none, p)

def createByteArray
    (p : Parcel) : Option (List UInt8) × Parcel :=
  let (len, p) := p.readInt
  if 0 ≤ len.toInt ∧ len.toNat ≤ p.dataAvail then
    match p.readInplace len.toNat with
    | none => (none, p)
    | some (bytes, p) => (some bytes, p)
  else (none, p)

/- A parcel of bytes as a parcel. -/
def reader : ParcelReader Parcel :=
  ⟨readInt, readString, createByteArray⟩

/- The same with its positions. -/
def positioned : ParcelClass Parcel where
  toParcelReader := reader
  dataPosition := dataPosition
  setDataPosition := setDataPosition
  dataAvail := dataAvail

/- Behind its position a parcel has the bytes of items. -/
structure Holds (p : Parcel) (items : List Item) : Prop where
  fits : ∀ i ∈ items, i.Fits
  position : p.dataPosition ≤ p.data.length
  bytes :
    p.data.drop p.dataPosition = items.flatMap Item.bytes

end Parcel

/- A number is what its bytes say. -/
theorem append_intBytes (n : BitVec 32) :
    n.extractLsb' 24 8 ++ n.extractLsb' 16 8 ++
        n.extractLsb' 8 8 ++ n.extractLsb' 0 8 =
      n := by
  apply BitVec.eq_of_getLsbD_eq
  intro i hi
  simp only [BitVec.getLsbD_append,
    BitVec.getLsbD_extractLsb']
  grind

theorem append_unitBytes (n : BitVec 16) :
    n.extractLsb' 8 8 ++ n.extractLsb' 0 8 = n := by
  apply BitVec.eq_of_getLsbD_eq
  intro i hi
  simp only [BitVec.getLsbD_append,
    BitVec.getLsbD_extractLsb']
  grind

theorem unitsOf_flatMap (s : JString) :
    unitsOf (s.flatMap unitBytes) = s := by
  induction s with
  | nil => rfl
  | cons c s ih =>
      change
        (⟨c.toBitVec.extractLsb' 8 8 ++
            c.toBitVec.extractLsb' 0 8⟩ : UInt16) ::
          unitsOf (s.flatMap unitBytes) = c :: s
      rw [ih, append_unitBytes]

theorem length_flatMap_unitBytes (s : JString) :
    (s.flatMap unitBytes).length = s.length * 2 := by
  induction s with
  | nil => rfl
  | cons c s ih =>
      rw [List.flatMap_cons, List.length_append, ih,
        List.length_cons]
      change 2 + _ = _
      omega

theorem le_padSize (len : Nat) : len ≤ padSize len := by
  unfold padSize
  omega

theorem length_padded (bytes : List UInt8) :
    (padded bytes).length = padSize bytes.length := by
  have hLe := le_padSize bytes.length
  rw [padded, List.length_append, List.length_replicate]
  omega

namespace Parcel

variable {p : Parcel}
variable {rest : List UInt8}

/- What is behind some bytes of a parcel. -/
theorem drop_after
    {bytes : List UInt8}
    (hBytes : p.data.drop p.dataPosition = bytes ++ rest) :
    p.data.drop (p.dataPosition + bytes.length) = rest := by
  rw [← List.drop_drop, hBytes, List.drop_left]

theorem readInt_of_bytes
    {n : BitVec 32}
    (hBytes :
      p.data.drop p.dataPosition = intBytes n ++ rest) :
    p.readInt =
      (n, p.setDataPosition (p.dataPosition + 4)) := by
  unfold readInt
  rw [hBytes]
  change
    (n.extractLsb' 24 8 ++ n.extractLsb' 16 8 ++
        n.extractLsb' 8 8 ++ n.extractLsb' 0 8, _) = _
  rw [append_intBytes]
  rfl

theorem readInplace_of_bytes
    {bytes : List UInt8}
    (hPosition : p.dataPosition ≤ p.data.length)
    (hBytes :
      p.data.drop p.dataPosition = padded bytes ++ rest) :
    p.readInplace bytes.length =
      some
        (bytes,
          p.setDataPosition
            (p.dataPosition + padSize bytes.length)) := by
  have hLength := congrArg List.length hBytes
  rw [List.length_drop, List.length_append,
    length_padded] at hLength
  unfold readInplace
  rw [if_pos (by omega), hBytes, padded, List.append_assoc,
    List.take_left]

/- A parcel that is read further. -/
theorem holds_after
    {p q : Parcel}
    {i : Item}
    {items : List Item}
    (hHolds : Holds p (i :: items))
    (hData : q.data = p.data)
    (hPosition :
      q.dataPosition = p.dataPosition + i.bytes.length) :
    Holds q items := by
  have hBytes := hHolds.bytes
  rw [List.flatMap_cons] at hBytes
  have hLength := congrArg List.length hBytes
  rw [List.length_drop, List.length_append] at hLength
  have hWithin := hHolds.position
  refine ⟨?_, ?_, ?_⟩
  · exact
      fun j hj => hHolds.fits j (List.mem_cons_of_mem _ hj)
  · rw [hData, hPosition]
    omega
  · rw [hData, hPosition]
    exact drop_after hBytes

/- The sign bit of a length is not set. -/
theorem toInt_of_length
    {len : Nat}
    (hLen : len < 2 ^ 31) :
    0 ≤ (BitVec.ofNat 32 len).toInt ∧
      (BitVec.ofNat 32 len).toNat = len := by
  have hNat : (BitVec.ofNat 32 len).toNat = len := by
    rw [BitVec.toNat_ofNat]
    exact Nat.mod_eq_of_lt (by omega)
  refine ⟨?_, hNat⟩
  rw [BitVec.toInt_eq_toNat_cond, hNat]
  split <;> omega

end Parcel

/- A length and the bytes that are as long. -/
theorem Parcel.readInplace_after
    {p : Parcel}
    {n : BitVec 32}
    {bytes rest : List UInt8}
    (hBytes :
      p.data.drop p.dataPosition =
        intBytes n ++ (padded bytes ++ rest)) :
    (p.setDataPosition (p.dataPosition + 4)).readInplace
        bytes.length =
      some
        (bytes,
          p.setDataPosition
            (p.dataPosition + 4 + padSize bytes.length)) := by
  have hLength := congrArg List.length hBytes
  rw [List.length_drop, List.length_append] at hLength
  have hFour : (intBytes n).length = 4 := rfl
  refine
    Parcel.readInplace_of_bytes ?_ (Parcel.drop_after hBytes)
  change p.dataPosition + 4 ≤ p.data.length
  omega

/- A parcel of bytes gives items out in order. -/
theorem inOrder_bytes : InOrder Parcel.reader Parcel.Holds where
  int := by
    intro p n rest hHolds
    have hBytes := hHolds.bytes
    rw [List.flatMap_cons] at hBytes
    have hRead := Parcel.readInt_of_bytes hBytes
    simp only [Parcel.reader, hRead]
    exact ⟨trivial, Parcel.holds_after hHolds rfl rfl⟩
  string := by
    intro p s rest hHolds
    have hBytes := hHolds.bytes
    rw [List.flatMap_cons] at hBytes
    cases s with
    | none =>
        have hRead := Parcel.readInt_of_bytes hBytes
        simp only [Parcel.reader, Parcel.readString, hRead]
        rw [if_neg (by decide)]
        exact ⟨rfl, Parcel.holds_after hHolds rfl rfl⟩
    | some s =>
        have hFits := hHolds.fits _ List.mem_cons_self
        simp only [Item.Fits] at hFits
        simp only [Item.bytes, List.append_assoc] at hBytes
        have hRead := Parcel.readInt_of_bytes hBytes
        have hLen : s.length < 2 ^ 31 := by omega
        rcases Parcel.toInt_of_length hLen with
          ⟨hSign, hNat⟩
        have hSize :
            (s.flatMap unitBytes ++ [0, 0]).length =
              (s.length + 1) * 2 := by
          rw [List.length_append, length_flatMap_unitBytes]
          change _ + 2 = _
          omega
        have hText := Parcel.readInplace_after hBytes
        rw [hSize] at hText
        simp only [Parcel.reader, Parcel.readString, hRead]
        rw [if_pos hSign, hNat, hText]
        have hTake :
            (s.flatMap unitBytes ++ [0, 0]).take
                (s.length * 2) =
              s.flatMap unitBytes := by
          rw [← length_flatMap_unitBytes, List.take_left]
        refine ⟨?_, Parcel.holds_after hHolds rfl ?_⟩
        · change some (unitsOf (List.take _ _)) = _
          rw [hTake, unitsOf_flatMap]
        · simp only [Item.bytes, List.length_append,
            length_padded, hSize]
          change p.dataPosition + 4 + _ = _ + (4 + _)
          omega
  byteArray := by
    intro p b rest hHolds
    have hBytes := hHolds.bytes
    rw [List.flatMap_cons] at hBytes
    cases b with
    | none =>
        have hRead := Parcel.readInt_of_bytes hBytes
        simp only [Parcel.reader, Parcel.createByteArray,
          hRead]
        rw [if_neg (fun hLen => absurd hLen.1 (by decide))]
        exact ⟨rfl, Parcel.holds_after hHolds rfl rfl⟩
    | some b =>
        have hFits := hHolds.fits _ List.mem_cons_self
        simp only [Item.Fits] at hFits
        simp only [Item.bytes, List.append_assoc] at hBytes
        have hRead := Parcel.readInt_of_bytes hBytes
        have hLen : b.length < 2 ^ 31 := by omega
        rcases Parcel.toInt_of_length hLen with
          ⟨hSign, hNat⟩
        have hContent := Parcel.readInplace_after hBytes
        have hAvail :
            b.length ≤
              (p.setDataPosition
                (p.dataPosition + 4)).dataAvail := by
          have hLength := congrArg List.length hBytes
          have hFour (n : BitVec 32) :
              (intBytes n).length = 4 := rfl
          have hLe := le_padSize b.length
          rw [List.length_drop, List.length_append,
            List.length_append, length_padded,
            hFour] at hLength
          change b.length ≤ p.data.length - _
          change _ ≤ _ - (p.dataPosition + 4)
          omega
        simp only [Parcel.reader, Parcel.createByteArray,
          hRead]
        rw [hNat, if_pos ⟨hSign, hAvail⟩, hContent]
        refine ⟨rfl, Parcel.holds_after hHolds rfl ?_⟩
        simp only [Item.bytes, List.length_append,
          length_padded]
        change p.dataPosition + 4 + _ = _ + (4 + _)
        omega

/- Nothing but its position changes when it is read. -/
theorem rewinds_bytes : Rewinds Parcel.positioned where
  position := fun _ => rfl
  readInt := by
    intro p position
    have hData : p.readInt.2.data = p.data := by
      unfold Parcel.readInt
      split <;> rfl
    exact congrArg (Parcel.mk · position) hData

/- The parcel into which these items have been written. -/
def Parcel.of (items : List Item) : Parcel :=
  ⟨items.flatMap Item.bytes, 0⟩

theorem Parcel.holds_of
    {items : List Item}
    (hFits : ∀ i ∈ items, i.Fits) :
    (Parcel.of items).Holds items :=
  ⟨hFits, Nat.zero_le _, rfl⟩

end Ril

end D2Common
