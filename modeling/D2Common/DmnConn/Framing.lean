import Mathlib.Algebra.Order.Ring.Int
import D2Common.DmnConn.ServerProc

/-
  Messages as they lie in the daemon pipe.

  A sender stores the size of its message in the first field
  and writes that many bytes from the start of the message.
  The size counts the field itself, so that a message in the
  pipe is its size followed by the rest of its bytes.

  The pipe is `fifoRead` and `fifoWrite`: a write appends
  its bytes, and a read takes bytes from the front.

  Key definitions include:
    * `msgsnd`
    * `Frame`
    * `Frame.bytes`

  Key theorems include:
    * `msgsnd_fifo`
    * `piperead_header`
    * `piperead_body`
    * `frame_fifo_of_le`
    * `frame_fifo_of_lt`
-/

------------------------------------------------------------
-- Sending
------------------------------------------------------------

namespace D2Common

namespace DmnConn

variable {n : Nat}
variable {σ : Type}

/- A pipe that is given bytes: how many it takes, if any. -/
abbrev PipeWrite (σ : Type) :=
  List UInt8 → σ → Option Nat × σ

/- `loc_eng_dmn_conn_glue_pipewrite` from the buffer on. -/
def pipewrite
    (write : PipeWrite σ)
    (mem : Mem)
    (pipe : σ)
    (sz : BitVec (8 * n)) : Int × σ :=
  match write (Known.window mem 0 sz.toNat) pipe with
  | (none, pipe) => (-1, pipe)
  | (some count, pipe) => (toInt count, pipe)

/- The bytes of a number, lowest first. -/
def toLittleEndian : Nat → Nat → List UInt8
| 0, _ => []
| k + 1, m => UInt8.ofNat m :: toLittleEndian k (m / 256)

/- `pmsg->msgsz = msgsz`. -/
def storeMsgsz
    (mem : Mem)
    (msgsz : BitVec (8 * n)) : Mem :=
  stored mem 0 (toLittleEndian n msgsz.toNat)

/- `loc_eng_dmn_conn_glue_msgsnd`. -/
def msgsnd
    (write : PipeWrite σ)
    (msgp : Mem)
    (pipe : σ)
    (msgsz : BitVec (8 * n)) : Int × σ :=
  let (result, pipe) :=
    pipewrite write (storeMsgsz msgp msgsz) pipe msgsz
  if result ≠ toInt msgsz.toNat then
    (-1, pipe)
  else
    (result, pipe)

/- A pipe that takes all bytes, and appends them at once. -/
def fifoWrite : PipeWrite (List UInt8) :=
  fun bytes pipe => (some bytes.length, pipe ++ bytes)

@[simp] theorem length_toLittleEndian
    (k m : Nat) :
    (toLittleEndian k m).length = k := by
  induction k generalizing m with
  | zero => rfl
  | succ k ih => simp [toLittleEndian, ih]

theorem littleEndian_toLittleEndian
    (k m : Nat) :
    littleEndian (toLittleEndian k m) = m % 256 ^ k := by
  induction k generalizing m with
  | zero => simp [toLittleEndian, littleEndian, Nat.mod_one]
  | succ k ih =>
      have hLow : (UInt8.ofNat m).toNat = m % 256 := by
        simp [UInt8.toNat_ofNat']
      rw [toLittleEndian, littleEndian, ih, hLow,
        Nat.pow_succ', Nat.mod_mul]

/- A size survives its way through the field. -/
theorem ofNat_littleEndian
    (msgsz : BitVec (8 * n)) :
    BitVec.ofNat (8 * n)
        (littleEndian (toLittleEndian n msgsz.toNat)) =
      msgsz := by
  have hBase : 256 ^ n = 2 ^ (8 * n) := by
    rw [Nat.pow_mul]
  apply BitVec.eq_of_toNat_eq
  rw [littleEndian_toLittleEndian, hBase, BitVec.toNat_ofNat,
    Nat.mod_mod, Nat.mod_eq_of_lt msgsz.isLt]

end DmnConn

end D2Common

------------------------------------------------------------
-- Frames
------------------------------------------------------------

namespace D2Common

namespace DmnConn

/- A size, and as many bytes behind it as the size says. -/
structure Frame (abi : Abi) where
  msgsz : BitVec (8 * abi.word)
  body : List UInt8
  whole : abi.word + body.length = msgsz.toNat

variable {abi : Abi}

/- The first field of a frame. -/
def Frame.head (f : Frame abi) : List UInt8 :=
  toLittleEndian abi.word f.msgsz.toNat

/- A frame as it lies in the pipe. -/
def Frame.bytes (f : Frame abi) : List UInt8 :=
  f.head ++ f.body

@[simp] theorem Frame.length_head
    (f : Frame abi) :
    f.head.length = abi.word :=
  length_toLittleEndian ..

@[simp] theorem Frame.length_bytes
    (f : Frame abi) :
    f.bytes.length = f.msgsz.toNat := by
  rw [Frame.bytes, List.length_append, f.length_head, f.whole]

theorem Frame.word_le
    (f : Frame abi) :
    abi.word ≤ f.msgsz.toNat := by
  have hWhole := f.whole
  omega

theorem Frame.rest
    (f : Frame abi) :
    (f.msgsz - sizeofMsgsz abi.word).toNat =
      f.body.length := by
  have hSize := toNat_sizeofMsgsz abi.word
  have hWhole := f.whole
  rw [BitVec.toNat_sub_of_le
    (BitVec.le_def.mpr (by omega)), hSize]
  omega

/- The frame that a sender's buffer becomes. -/
def frameOf
    (msgp : Mem)
    (msgsz : BitVec (8 * abi.word))
    (hWord : abi.word ≤ msgsz.toNat) : Frame abi where
  msgsz := msgsz
  body :=
    Known.window msgp abi.word (msgsz.toNat - abi.word)
  whole := by
    rw [Known.length_window]
    omega

/- What is written when the size is stored and counted in. -/
theorem window_storeMsgsz
    (msgp : Mem)
    (msgsz : BitVec (8 * abi.word))
    (hWord : abi.word ≤ msgsz.toNat) :
    Known.window (storeMsgsz msgp msgsz) 0 msgsz.toNat =
      (frameOf msgp msgsz hWord).bytes := by
  have hHead :
      (toLittleEndian abi.word msgsz.toNat).length =
        abi.word :=
    length_toLittleEndian ..
  have hSplit :
      msgsz.toNat = abi.word + (msgsz.toNat - abi.word) := by
    omega
  rw [hSplit, Known.window_add]
  congr 1
  · have hPatch :=
      Known.window_patch msgp 0
        (toLittleEndian abi.word msgsz.toNat)
    rw [hHead] at hPatch
    exact hPatch
  · rw [Nat.zero_add]
    exact Known.window_patch_of_add_le _ _ (by omega)

/- A sender appends its frame. -/
theorem msgsnd_fifo
    (msgp : Mem)
    (pipe : List UInt8)
    (msgsz : BitVec (8 * abi.word))
    (hWord : abi.word ≤ msgsz.toNat) :
    msgsnd fifoWrite msgp pipe msgsz =
      (toInt msgsz.toNat,
        pipe ++ (frameOf msgp msgsz hWord).bytes) := by
  have hBytes := window_storeMsgsz msgp msgsz hWord
  have hLength :
      (frameOf msgp msgsz hWord).bytes.length =
        msgsz.toNat :=
    Frame.length_bytes _
  simp [msgsnd, pipewrite, fifoWrite, hBytes, hLength]

end DmnConn

end D2Common

------------------------------------------------------------
-- Receiving
------------------------------------------------------------

namespace D2Common

namespace DmnConn

variable {abi : Abi}

/- A number that an `int` can hold. -/
theorem toInt_of_lt
    {m : Nat}
    (hLt : m < 2 ^ 31) :
    toInt m = m := by
  have hMod : m % 2 ^ 32 = m := Nat.mod_eq_of_lt (by omega)
  rw [toInt, BitVec.toInt_eq_toNat_of_lt]
  · rw [BitVec.toNat_ofNat, hMod]
  · rw [BitVec.toNat_ofNat, hMod]
    omega

theorem toInt_word
    (abi : Abi) :
    toInt abi.word = abi.word := by
  cases abi <;> decide

theorem isHeader_word
    (abi : Abi) :
    isHeader abi.word abi.word = true := by
  cases abi <;> decide

/- The read of the size, as far as a receive goes by it. -/
theorem taken_head
    (f : Frame abi)
    (rest : List UInt8) :
    taken abi.word
        (.delivered ((f.bytes ++ rest).take abi.word)) =
      ((abi.word : Int), f.head) := by
  rw [Frame.bytes, List.append_assoc,
    List.take_left' f.length_head, taken,
    List.take_of_length_le (Nat.le_of_eq f.length_head),
    f.length_head, toInt_word]

theorem drop_bytes_append
    (f : Frame abi)
    (rest : List UInt8) :
    (f.bytes ++ rest).drop abi.word = f.body ++ rest := by
  rw [Frame.bytes, List.append_assoc,
    List.drop_left' f.length_head]

/- The read of the rest of a frame. -/
theorem taken_body
    (f : Frame abi)
    (rest : List UInt8) :
    taken f.body.length
        (.delivered ((f.body ++ rest).take f.body.length)) =
      (toInt f.body.length, f.body) := by
  rw [List.take_left, taken, List.take_length]

/- The first read takes the size of the frame in front. -/
theorem piperead_header
    (f : Frame abi)
    (rest : List UInt8)
    (mem : Mem)
    (requests : List (StoreRequest abi.word)) :
    piperead fifoRead ⟨mem, f.bytes ++ rest, requests⟩ 0
        (sizeofMsgsz abi.word) =
      ((abi.word : Int),
        ⟨Known.patch mem 0 f.head, f.body ++ rest,
          requests ++ [⟨0, sizeofMsgsz abi.word⟩]⟩) := by
  simp only [piperead_eq, fifoRead, toNat_sizeofMsgsz,
    taken_head, drop_bytes_append]

theorem msgszField_head
    (f : Frame abi)
    (mem : Mem) :
    msgszField abi.word (Known.patch mem 0 f.head) =
      f.msgsz := by
  have hField := msgszField_patch mem [] f.length_head
  rw [List.append_nil] at hField
  rw [hField, Frame.head, ofNat_littleEndian]

/- The second read takes the rest of the frame. -/
theorem piperead_body
    (f : Frame abi)
    (rest : List UInt8)
    (mem : Mem)
    (requests : List (StoreRequest abi.word)) :
    piperead fifoRead
        ⟨Known.patch mem 0 f.head, f.body ++ rest, requests⟩
        abi.word (f.msgsz - sizeofMsgsz abi.word) =
      (toInt f.body.length,
        ⟨Known.patch mem 0 f.bytes, rest,
          requests ++
            [⟨abi.word,
              f.msgsz - sizeofMsgsz abi.word⟩]⟩) := by
  have hWrite := Known.patch_append mem 0 f.head f.body
  rw [Nat.zero_add, f.length_head] at hWrite
  simp only [piperead_eq, fifoRead, f.rest, taken_body,
    List.drop_left, hWrite, Frame.bytes]

/- A frame that is larger than the buffer stays behind. -/
theorem frame_fifo_of_lt
    {f : Frame abi}
    (hLarge : sizeofBuffer abi < f.msgsz)
    (rest : List UInt8) :
    frame abi fifoRead (f.bytes ++ rest) =
      (none, f.body ++ rest) := by
  have hSize :
      BitVec.ofNat (8 * abi.word) (littleEndian f.head) =
        f.msgsz :=
    ofNat_littleEndian f.msgsz
  simp only [frame, fifoRead, toNat_sizeofMsgsz, taken_head,
    drop_bytes_append, isHeader_word, Bool.not_true,
    Bool.false_eq_true, if_false, hSize, if_pos hLarge]

/- The buffer of the server is small, and so is a size. -/
theorem toInt_msgsz
    {f : Frame abi}
    (hFits : f.msgsz ≤ sizeofBuffer abi) :
    toInt f.msgsz.toNat = f.msgsz.toNat := by
  have hSmall : (sizeofBuffer abi).toNat < 2 ^ 31 := by
    cases abi <;> decide
  have hLe := BitVec.le_def.mp hFits
  exact toInt_of_lt (by omega)

/- A frame that fits is received as it is. -/
theorem frame_fifo_of_le
    {f : Frame abi}
    (hFits : f.msgsz ≤ sizeofBuffer abi)
    (rest : List UInt8) :
    frame abi fifoRead (f.bytes ++ rest) =
      (some f.bytes, rest) := by
  have hSize :
      BitVec.ofNat (8 * abi.word) (littleEndian f.head) =
        f.msgsz :=
    ofNat_littleEndian f.msgsz
  have hPos : ¬ toInt f.msgsz.toNat ≤ 0 := by
    have hWord : 0 < abi.word := by
      cases abi <;> decide
    have hLe := f.word_le
    rw [toInt_msgsz hFits]
    omega
  simp only [frame, fifoRead, toNat_sizeofMsgsz, taken_head,
    drop_bytes_append, isHeader_word, Bool.not_true,
    Bool.false_eq_true, if_false, hSize,
    if_neg (BitVec.not_lt.mpr hFits), f.rest, taken_body,
    List.drop_left, ne_eq, not_true_eq_false, hPos, or_self]
  rw [Frame.bytes]

end DmnConn

end D2Common
