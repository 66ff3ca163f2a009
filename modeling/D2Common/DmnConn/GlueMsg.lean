import Mathlib.Data.List.Basic
import Mathlib.Data.Nat.Basic

/-
  Receiving a message from the daemon pipe.

  A message begins with its own size as a `size_t`. The
  receiver reads this header into the buffer, compares it
  with the size of the buffer, and reads the rest behind it.
  `n` is `sizeof(size_t)`, and sizes are `8 * n` bit words.

  The pipe is a parameter: any state, and any function that
  says what a `read` of some size comes back with.

  Key definitions include:
    * `piperead`
    * `msgrcv`

  Key theorems include:
    * `msgrcv_requests`
    * `stores_fit_iff`
    * `short_header_overruns`
-/

------------------------------------------------------------
-- Reading From A Pipe
------------------------------------------------------------

namespace D2Common

namespace DmnConn

/- What `read` comes back with. -/
inductive ReadOutcome where
  | failed
  | delivered (bytes : List UInt8)

/- A pipe that is asked for at most so many bytes. -/
abbrev PipeRead (σ : Type) :=
  Nat → σ → ReadOutcome × σ

/- The value that an `int` holds after an assignment. -/
def toInt (m : Nat) : Int :=
  (BitVec.ofNat 32 m).toInt

/- A request to store so many bytes from an offset on. -/
structure StoreRequest (n : Nat) where
  offset : Nat
  size : BitVec (8 * n)
deriving DecidableEq

/-
  The receiver in the middle of a call: the memory from the
  start of the buffer on, the pipe, and the stores it has
  asked for.
-/
structure Receiver (n : Nat) (σ : Type) where
  mem : Nat → UInt8
  pipe : σ
  requests : List (StoreRequest n)

/- The memory after bytes have been stored. -/
def stored
    (mem : Nat → UInt8)
    (offset : Nat)
    (bytes : List UInt8) : Nat → UInt8 :=
  fun i =>
    if offset ≤ i then bytes.getD (i - offset) (mem i)
    else mem i

variable {n : Nat}
variable {σ : Type}

/- `loc_eng_dmn_conn_glue_piperead`; `buf` is an offset. -/
def piperead
    (read : PipeRead σ)
    (x : Receiver n σ)
    (buf : Nat)
    (sz : BitVec (8 * n)) : Int × Receiver n σ :=
  let requests := x.requests ++ [⟨buf, sz⟩]
  match read sz.toNat x.pipe with
  | (.failed, pipe) => (-1, ⟨x.mem, pipe, requests⟩)
  | (.delivered bytes, pipe) =>
      let bytes := bytes.take sz.toNat
      (toInt bytes.length,
        ⟨stored x.mem buf bytes, pipe, requests⟩)

/- The number that little-endian bytes stand for. -/
def littleEndian : List UInt8 → Nat
| [] => 0
| b :: bytes => b.toNat + 256 * littleEndian bytes

/- `pmsg->msgsz`, the first field of the buffer. -/
def msgszField
    (n : Nat)
    (mem : Nat → UInt8) : BitVec (8 * n) :=
  BitVec.ofNat (8 * n)
    (littleEndian ((List.range n).map mem))

/- `sizeof(pmsg->msgsz)` as a `size_t`. -/
def sizeofMsgsz (n : Nat) : BitVec (8 * n) :=
  BitVec.ofNat (8 * n) n

/- `result != sizeof(pmsg->msgsz)` compares as `size_t`. -/
def isHeader
    (n : Nat)
    (result : Int) : Bool :=
  BitVec.ofInt (8 * n) result == sizeofMsgsz n

/- `loc_eng_dmn_conn_glue_msgrcv`. -/
def msgrcv
    (read : PipeRead σ)
    (x : Receiver n σ)
    (msgbufsz : BitVec (8 * n)) : Int × Receiver n σ :=
  let (result, x) := piperead read x 0 (sizeofMsgsz n)
  if !isHeader n result then
    (-1, x)
  else if msgbufsz < msgszField n x.mem then
    (-1, x)
  else
    let (result, x) :=
      piperead read x n
        (msgszField n x.mem - sizeofMsgsz n)
    if
      result ≠
        toInt
          (msgszField n x.mem - sizeofMsgsz n).toNat then
      (-1, x)
    else
      (toInt (msgszField n x.mem).toNat, x)

end DmnConn

end D2Common

------------------------------------------------------------
-- Stores
------------------------------------------------------------

namespace D2Common

namespace DmnConn

variable {n : Nat}
variable {σ : Type}

theorem requests_piperead
    (read : PipeRead σ)
    (x : Receiver n σ)
    (buf : Nat)
    (sz : BitVec (8 * n)) :
    (piperead read x buf sz).2.requests =
      x.requests ++ [⟨buf, sz⟩] := by
  unfold piperead
  rcases read sz.toNat x.pipe with ⟨outcome, pipe⟩
  cases outcome <;> rfl

/- A header that is read in full and is not too large. -/
def Accepted
    (read : PipeRead σ)
    (x : Receiver n σ)
    (msgbufsz : BitVec (8 * n)) : Prop :=
  let r := piperead read x 0 (sizeofMsgsz n)
  isHeader n r.1 = true ∧
    msgszField n r.2.mem ≤ msgbufsz

/- The value of the header once the first read is done. -/
def header
    (read : PipeRead σ)
    (x : Receiver n σ) : BitVec (8 * n) :=
  msgszField n (piperead read x 0 (sizeofMsgsz n)).2.mem

/- The stores of one call. -/
theorem msgrcv_requests
    (read : PipeRead σ)
    (x : Receiver n σ)
    (msgbufsz : BitVec (8 * n)) :
    (Accepted read x msgbufsz →
        (msgrcv read x msgbufsz).2.requests =
          x.requests ++
            [⟨0, sizeofMsgsz n⟩,
              ⟨n, header read x - sizeofMsgsz n⟩]) ∧
      (¬ Accepted read x msgbufsz →
        (msgrcv read x msgbufsz).2.requests =
          x.requests ++ [⟨0, sizeofMsgsz n⟩]) := by
  have hFirst := requests_piperead read x 0 (sizeofMsgsz n)
  unfold msgrcv Accepted header
  generalize
    piperead read x 0 (sizeofMsgsz n) = r at hFirst ⊢
  rcases r with ⟨result, y⟩
  have hSecond :=
    requests_piperead read y n
      (msgszField n y.mem - sizeofMsgsz n)
  dsimp only at hFirst ⊢
  constructor
  · rintro ⟨hHeader, hFits⟩
    rw [if_neg (by simp [hHeader]),
      if_neg (BitVec.not_lt.mpr hFits)]
    split <;> simp [hSecond, hFirst]
  · intro hNot
    by_cases hHeader : isHeader n result = true
    · have hLarge : msgbufsz < msgszField n y.mem := by
        rw [← BitVec.not_le]
        exact fun hFits => hNot ⟨hHeader, hFits⟩
      rw [if_neg (by simp [hHeader]), if_pos hLarge]
      exact hFirst
    · rw [if_pos (by simpa using hHeader)]
      exact hFirst

theorem toNat_sizeofMsgsz
    (n : Nat) :
    (sizeofMsgsz n).toNat = n := by
  have hLt : n < 2 ^ (8 * n) :=
    Nat.lt_of_lt_of_le Nat.lt_two_pow_self
      (Nat.pow_le_pow_right (by omega) (by omega))
  simp [sizeofMsgsz, Nat.mod_eq_of_lt hLt]

/-
  The second store ends where the message ends, unless the
  message is shorter than its own header: then the size that
  is asked for wraps around.
-/
theorem rest_fits_iff
    {msgsz msgbufsz : BitVec (8 * n)}
    (hFits : msgsz ≤ msgbufsz) :
    n + (msgsz - sizeofMsgsz n).toNat ≤ msgbufsz.toNat ↔
      n ≤ msgsz.toNat := by
  have hSize := toNat_sizeofMsgsz n
  have hLe : msgsz.toNat ≤ msgbufsz.toNat :=
    BitVec.le_def.mp hFits
  have hBuf := msgbufsz.isLt
  have hMsg := msgsz.isLt
  by_cases hShort : n ≤ msgsz.toNat
  · have hRest :
        (msgsz - sizeofMsgsz n).toNat =
          msgsz.toNat - n := by
      rw [BitVec.toNat_sub_of_le
        (BitVec.le_def.mpr (by omega)), hSize]
    omega
  · have hRest :
        (msgsz - sizeofMsgsz n).toNat =
          2 ^ (8 * n) - n + msgsz.toNat := by
      rw [BitVec.toNat_sub, hSize]
      exact Nat.mod_eq_of_lt (by omega)
    omega

/-
  The stores of a call stay inside a buffer that holds at
  least a header, exactly when no accepted header is smaller
  than itself.
-/
theorem stores_fit_iff
    (read : PipeRead σ)
    (mem : Nat → UInt8)
    (pipe : σ)
    (msgbufsz : BitVec (8 * n))
    (hBuf : n ≤ msgbufsz.toNat) :
    let x : Receiver n σ := ⟨mem, pipe, []⟩
    (∀ q ∈ (msgrcv read x msgbufsz).2.requests,
        q.offset + q.size.toNat ≤ msgbufsz.toNat) ↔
      (Accepted read x msgbufsz →
        n ≤ (header read x).toNat) := by
  intro x
  have hSize := toNat_sizeofMsgsz n
  rcases msgrcv_requests read x msgbufsz with
    ⟨hTwo, hOne⟩
  by_cases hAccepted : Accepted read x msgbufsz
  · have hRest := rest_fits_iff hAccepted.2
    rw [hTwo hAccepted]
    simpa [x, hAccepted, hSize, hBuf, header] using hRest
  · rw [hOne hAccepted]
    simp [x, hAccepted, hSize, hBuf]

/- A pipe that holds bytes and hands them out in order. -/
def fifoRead : PipeRead (List UInt8) :=
  fun sz pipe => (.delivered (pipe.take sz), pipe.drop sz)

/- A message of ten bytes fits a buffer of sixty-four. -/
theorem stores_fit_ten_bytes :
    let x : Receiver 8 (List UInt8) :=
      ⟨fun _ => 0, [10, 0, 0, 0, 0, 0, 0, 0, 1, 2], []⟩
    ∀ q ∈ (msgrcv fifoRead x 64#64).2.requests,
      q.offset + q.size.toNat ≤ 64 :=
  (stores_fit_iff (n := 8) fifoRead (fun _ => 0)
    [10, 0, 0, 0, 0, 0, 0, 0, 1, 2] 64#64
    (by decide)).mpr (by intro _; decide)

/-
  A header of zero: the second read is asked to store almost
  the whole address space behind the header.
-/
theorem short_header_overruns :
    let x : Receiver 8 (List UInt8) :=
      ⟨fun _ => 0, List.replicate 8 0, []⟩
    ¬ ∀ q ∈ (msgrcv fifoRead x 512#64).2.requests,
      q.offset + q.size.toNat ≤ 512 := by
  decide

end DmnConn

end D2Common
