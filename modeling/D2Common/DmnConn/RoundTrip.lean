import Mathlib.Data.List.Forall2
import D2Common.Foundations.Transducer
import D2Common.DmnConn.Framing

/-
  The daemon pipe as a queue of messages.

  Any number of senders write messages into the pipe, each
  in one piece, and one receiver takes them out with two
  reads for each. A read blocks until its bytes are there,
  so that messages may be written between the two reads.

  The messages that have been written are those received,
  in the same order, and those that are still in the pipe.
  The receiver returns the size as an `int`.

  Key definitions include:
    * `Message`
    * `queue`
    * `Returns`
    * `Ledger`

  Key theorems include:
    * `msgrcv_eq`
    * `ledger_run`
    * `left_calls`
    * `messages_round_trip`
-/

------------------------------------------------------------
-- The Two Reads
------------------------------------------------------------

namespace D2Common

namespace DmnConn

variable {n : Nat}
variable {σ : Type}

/- Where the first read of a receive ends it, the result. -/
def afterHeader
    (msgbufsz : BitVec (8 * n))
    (result : Int)
    (msgp : Mem) : Option Int :=
  if !isHeader n result then
    some (-1)
  else if msgbufsz < msgszField n msgp then
    some (-1)
  else
    none

/- The result of a receive after its second read. -/
def afterBody
    (n : Nat)
    (result : Int)
    (msgp : Mem) : Int :=
  if
    result ≠
      toInt (msgszField n msgp - sizeofMsgsz n).toNat then
    -1
  else
    toInt (msgszField n msgp).toNat

/- A receive is its two reads. -/
theorem msgrcv_eq
    (read : PipeRead σ)
    (x : Receiver n σ)
    (msgbufsz : BitVec (8 * n)) :
    msgrcv read x msgbufsz =
      let (result, x) := piperead read x 0 (sizeofMsgsz n)
      match afterHeader msgbufsz result x.mem with
      | some result => (result, x)
      | none =>
          let (result, x) :=
            piperead read x n
              (msgszField n x.mem - sizeofMsgsz n)
          (afterBody n result x.mem, x) := by
  unfold msgrcv afterHeader afterBody
  rcases piperead read x 0 (sizeofMsgsz n) with ⟨result, y⟩
  dsimp only
  split
  · rfl
  · split
    · rfl
    · dsimp only
      split <;> rfl

end DmnConn

end D2Common

------------------------------------------------------------
-- Senders And A Receiver
------------------------------------------------------------

namespace D2Common

namespace DmnConn

/-
  What a sender passes to `msgsnd`: at least a header, and
  not more than the receiver has room for.
-/
structure Message
    (abi : Abi)
    (msgbufsz : BitVec (8 * abi.word)) where
  msgp : Mem
  msgsz : BitVec (8 * abi.word)
  word_le : abi.word ≤ msgsz.toNat
  fits : msgsz ≤ msgbufsz

variable {abi : Abi}
variable {msgbufsz : BitVec (8 * abi.word)}
variable {T : Type}

/- The bytes of a message, with its size stored in it. -/
def Message.bytes
    (m : Message abi msgbufsz) : List UInt8 :=
  Known.window (storeMsgsz m.msgp m.msgsz) 0 m.msgsz.toNat

/- Where the receiver is: which read it waits for. -/
inductive Receiving where
  | idle
  | header (msgp : Mem)
  | body (msgp : Mem)

/- The pipe and its receiver. -/
structure Queue where
  pipe : List UInt8
  receiver : Receiving

/-
  A call of `msgsnd` does nothing that others can see but
  its one write. The receiver calls `msgrcv` with a buffer,
  and then its reads return one by one.
-/
inductive QueueInput
    (abi : Abi)
    (msgbufsz : BitVec (8 * abi.word))
    (T : Type) where
  | msgsnd (sender : T) (m : Message abi msgbufsz)
  | msgrcv (msgp : Mem)
  | read

/- What the calls return. -/
inductive QueueOutput (T : Type) where
  | sent (sender : T) (result : Int)
  | received (result : Int) (msgp : Mem)

/- The read that the receiver waits for. -/
def Queue.read
    (msgbufsz : BitVec (8 * abi.word))
    (q : Queue) : Queue × List (QueueOutput T) :=
  match q.receiver with
  | .idle => (q, [])
  | .header msgp =>
      let sz := sizeofMsgsz abi.word
      if q.pipe.length < sz.toNat then
        (q, [])
      else
        let (result, x) :=
          piperead fifoRead ⟨msgp, q.pipe, []⟩ 0 sz
        match afterHeader msgbufsz result x.mem with
        | some result =>
            (⟨x.pipe, .idle⟩, [.received result x.mem])
        | none => (⟨x.pipe, .body x.mem⟩, [])
  | .body msgp =>
      let sz :=
        msgszField abi.word msgp - sizeofMsgsz abi.word
      if q.pipe.length < sz.toNat then
        (q, [])
      else
        let (result, x) :=
          piperead fifoRead ⟨msgp, q.pipe, []⟩ abi.word sz
        (⟨x.pipe, .idle⟩,
          [.received (afterBody abi.word result x.mem) x.mem])

def Queue.step
    (q : Queue) :
    QueueInput abi msgbufsz T →
      Queue × List (QueueOutput T)
| .msgsnd sender m =>
    let (result, pipe) :=
      DmnConn.msgsnd fifoWrite m.msgp q.pipe m.msgsz
    ({ q with pipe }, [.sent sender result])
| .msgrcv msgp =>
    match q.receiver with
    | .idle => ({ q with receiver := .header msgp }, [])
    | _ => (q, [])
| .read => q.read msgbufsz

/- An empty pipe, its senders and its receiver. -/
def queue
    (abi : Abi)
    (msgbufsz : BitVec (8 * abi.word))
    (T : Type) :
    Transducer Queue (QueueInput abi msgbufsz T)
      (QueueOutput T) where
  init := ⟨[], .idle⟩
  step := Queue.step

abbrev QueueEvent
    (abi : Abi)
    (msgbufsz : BitVec (8 * abi.word))
    (T : Type) :=
  Transducer.Event Queue (QueueInput abi msgbufsz T)
    (QueueOutput T)

/- The message that a call writes. -/
def QueueInput.message :
    QueueInput abi msgbufsz T →
      Option (Message abi msgbufsz)
| .msgsnd _ m => some m
| _ => none

/- The results of receives, and their buffers. -/
def QueueOutput.receipt :
    QueueOutput T → Option (Int × Mem)
| .sent _ _ => none
| .received result msgp => some (result, msgp)

/- The messages of a run in the order of the writes. -/
def writes
    (h : List (QueueEvent abi msgbufsz T)) :
    List (Message abi msgbufsz) :=
  h.filterMap fun e => e.input.message

/- What the receives of a run have returned, in order. -/
def receipts
    (h : List (QueueEvent abi msgbufsz T)) :
    List (Int × Mem) :=
  h.flatMap fun e => e.output.filterMap QueueOutput.receipt

/- A receive has returned a message. -/
structure Returns
    (receipt : Int × Mem)
    (m : Message abi msgbufsz) : Prop where
  bytes :
    Known.window receipt.2 0 m.msgsz.toNat = m.bytes
  length : receipt.1 = toInt m.msgsz.toNat
  lengthExact :
    m.msgsz.toNat < 2 ^ 31 → receipt.1 = m.msgsz.toNat

end DmnConn

end D2Common

------------------------------------------------------------
-- The Ledger
------------------------------------------------------------

namespace D2Common

namespace DmnConn

variable {abi : Abi}
variable {msgbufsz : BitVec (8 * abi.word)}
variable {T : Type}

/- A message as it lies in the pipe. -/
def Message.frame
    (m : Message abi msgbufsz) : Frame abi :=
  frameOf m.msgp m.msgsz m.word_le

theorem Message.bytes_eq
    (m : Message abi msgbufsz) :
    m.bytes = m.frame.bytes :=
  window_storeMsgsz m.msgp m.msgsz m.word_le

/- The bytes of messages one after the other. -/
def contents
    (ms : List (Message abi msgbufsz)) : List UInt8 :=
  ms.flatMap fun m => m.frame.bytes

/-
  The pipe holds the messages that are left; of the first
  one only the rest when its header has been read.
-/
def Queue.Holds
    (q : Queue)
    (left : List (Message abi msgbufsz)) : Prop :=
  match q.receiver with
  | .body msgp =>
      ∃ m rest mem, left = m :: rest ∧
        msgp = Known.patch mem 0 m.frame.head ∧
          q.pipe = m.frame.body ++ contents rest
  | _ => q.pipe = contents left

/- The messages received and those that are left. -/
structure Ledger
    (h : List (QueueEvent abi msgbufsz T))
    (q : Queue)
    (left : List (Message abi msgbufsz)) : Prop where
  received :
    ∃ done, writes h = done ++ left ∧
      List.Forall₂ Returns (receipts h) done
  holds : q.Holds left

theorem writes_concat
    (h : List (QueueEvent abi msgbufsz T))
    (e : QueueEvent abi msgbufsz T) :
    writes (h ++ [e]) =
      writes h ++ e.input.message.toList := by
  unfold writes
  rw [List.filterMap_append]
  cases hWritten : e.input.message <;> simp [hWritten]

theorem receipts_concat
    (h : List (QueueEvent abi msgbufsz T))
    (e : QueueEvent abi msgbufsz T) :
    receipts (h ++ [e]) =
      receipts h ++
        e.output.filterMap QueueOutput.receipt := by
  simp [receipts]

theorem contents_concat
    (ms : List (Message abi msgbufsz))
    (m : Message abi msgbufsz) :
    contents (ms ++ [m]) = contents ms ++ m.frame.bytes := by
  simp [contents]

/- A step that neither writes nor returns a message. -/
theorem Ledger.keep
    {h : List (QueueEvent abi msgbufsz T)}
    {q q' : Queue}
    {left : List (Message abi msgbufsz)}
    (hLedger : Ledger h q left)
    {i : QueueInput abi msgbufsz T}
    (hWrites : ∀ sender m, i ≠ .msgsnd sender m)
    (hStep : q.step i = (q', []))
    (hHolds : q'.Holds left) :
    Ledger (h ++ [(queue abi msgbufsz T).event q i])
      (q.step i).1 left := by
  have hWritten : i.message = none := by
    cases i with
    | msgsnd sender m => exact absurd rfl (hWrites sender m)
    | msgrcv msgp => rfl
    | read => rfl
  have hOutput :
      ((queue abi msgbufsz T).event q i).output = [] :=
    congrArg Prod.snd hStep
  rcases hLedger.received with ⟨done, hDone, hReturns⟩
  rw [hStep]
  refine ⟨⟨done, ?_, ?_⟩, hHolds⟩
  · have hSame :
        ((queue abi msgbufsz T).event q i).input.message =
          none := hWritten
    rw [writes_concat, hSame, hDone, Option.toList_none,
      List.append_nil]
  · rw [receipts_concat, hOutput, List.filterMap_nil,
      List.append_nil]
    exact hReturns

/- A write adds its message behind those that are left. -/
theorem ledger_msgsnd
    {h : List (QueueEvent abi msgbufsz T)}
    {q : Queue}
    {left : List (Message abi msgbufsz)}
    (hLedger : Ledger h q left)
    (sender : T)
    (m : Message abi msgbufsz) :
    let i : QueueInput abi msgbufsz T := .msgsnd sender m
    Ledger (h ++ [(queue abi msgbufsz T).event q i])
      (q.step i).1 (left ++ [m]) := by
  have hSnd := msgsnd_fifo m.msgp q.pipe m.msgsz m.word_le
  rcases hLedger.received with ⟨done, hWrites, hReturns⟩
  refine ⟨⟨done, ?_, ?_⟩, ?_⟩
  · rw [writes_concat, hWrites]
    simp [QueueInput.message, Transducer.event]
  · have hNone :
        ((queue abi msgbufsz T).event q
          (.msgsnd sender m)).output.filterMap
            QueueOutput.receipt = [] := rfl
    rw [receipts_concat, hNone, List.append_nil]
    exact hReturns
  · have hHolds := hLedger.holds
    simp only [Queue.step, hSnd]
    unfold Queue.Holds at hHolds ⊢
    cases hReceiver : q.receiver with
    | body msgp =>
        simp only [hReceiver] at hHolds ⊢
        rcases hHolds with
          ⟨m', rest, mem, rfl, hMsgp, hPipe⟩
        refine ⟨m', rest ++ [m], mem, rfl, hMsgp, ?_⟩
        rw [hPipe, contents_concat, List.append_assoc]
        rfl
    | idle =>
        simp only [hReceiver] at hHolds ⊢
        rw [hHolds, contents_concat]
        rfl
    | header msgp =>
        simp only [hReceiver] at hHolds ⊢
        rw [hHolds, contents_concat]
        rfl

/- A call begins, unless one has begun before. -/
theorem ledger_msgrcv
    {h : List (QueueEvent abi msgbufsz T)}
    {q : Queue}
    {left : List (Message abi msgbufsz)}
    (hLedger : Ledger h q left)
    (msgp : Mem) :
    let i : QueueInput abi msgbufsz T := .msgrcv msgp
    Ledger (h ++ [(queue abi msgbufsz T).event q i])
        (q.step i).1 left ∧
      (q.step i).1.receiver ≠ .idle := by
  intro i
  have hHolds := hLedger.holds
  by_cases hIdle : q.receiver = .idle
  · have hStep :
        q.step i =
          ({ q with receiver := .header msgp }, []) := by
      simp only [i, Queue.step, hIdle]
    constructor
    · apply hLedger.keep (by simp [i]) hStep
      simpa only [Queue.Holds, hIdle] using hHolds
    · simp [hStep]
  · have hStep : q.step i = (q, []) := by
      cases hReceiver : q.receiver with
      | idle => contradiction
      | header msgp => simp only [i, Queue.step, hReceiver]
      | body msgp => simp only [i, Queue.step, hReceiver]
    constructor
    · exact hLedger.keep (by simp [i]) hStep hHolds
    · simpa [hStep] using hIdle

/- A read does nothing while no call has begun. -/
theorem ledger_read_idle
    {h : List (QueueEvent abi msgbufsz T)}
    {q : Queue}
    {left : List (Message abi msgbufsz)}
    (hLedger : Ledger h q left)
    (hIdle : q.receiver = .idle) :
    let i : QueueInput abi msgbufsz T := .read
    Ledger (h ++ [(queue abi msgbufsz T).event q i])
        (q.step i).1 left ∧
      (q.step i).1 = q := by
  intro i
  have hStep : q.step i = (q, []) := by
    simp only [i, Queue.step, Queue.read, hIdle]
  constructor
  · exact hLedger.keep (by simp [i]) hStep hLedger.holds
  · rw [hStep]

/- The first read waits for a message, and takes its size. -/
theorem ledger_read_header
    {h : List (QueueEvent abi msgbufsz T)}
    {q : Queue}
    {left : List (Message abi msgbufsz)}
    (hLedger : Ledger h q left)
    {msgp : Mem}
    (hHeader : q.receiver = .header msgp) :
    let i : QueueInput abi msgbufsz T := .read
    Ledger (h ++ [(queue abi msgbufsz T).event q i])
        (q.step i).1 left ∧
      ((left = [] ∧ (q.step i).1 = q) ∨
        ∃ msgp, (q.step i).1.receiver = .body msgp) := by
  intro i
  have hSize := toNat_sizeofMsgsz abi.word
  have hHolds := hLedger.holds
  simp only [Queue.Holds, hHeader] at hHolds
  cases left with
  | nil =>
      have hWord : 0 < abi.word := by
        cases abi <;> decide
      have hStep : q.step i = (q, []) := by
        simp [i, Queue.step, Queue.read, hHeader, hHolds,
          contents, hSize, hWord]
      refine ⟨?_, Or.inl ⟨rfl, congrArg Prod.fst hStep⟩⟩
      exact hLedger.keep (by simp [i]) hStep hLedger.holds
  | cons m rest =>
      have hPipe :
          q.pipe = m.frame.bytes ++ contents rest := hHolds
      have hThere : ¬ q.pipe.length < abi.word := by
        have hLe := m.frame.word_le
        rw [hPipe, List.length_append, m.frame.length_bytes]
        omega
      have hRead :=
        piperead_header m.frame (contents rest) msgp []
      have hAfter :
          afterHeader msgbufsz (abi.word : Int)
            (Known.patch msgp 0 m.frame.head) = none := by
        rw [afterHeader, isHeader_word, msgszField_head]
        have hFits : ¬ msgbufsz < m.frame.msgsz :=
          BitVec.not_lt.mpr m.fits
        simp [hFits]
      have hStep :
          q.step i =
            (⟨m.frame.body ++ contents rest,
              .body (Known.patch msgp 0 m.frame.head)⟩,
              []) := by
        simp only [i, Queue.step, Queue.read, hHeader, hSize,
          hThere, if_false]
        rw [hPipe, hRead]
        simp only [hAfter]
      constructor
      · apply hLedger.keep (by simp [i]) hStep
        exact ⟨m, rest, msgp, rfl, rfl, rfl⟩
      · simp [hStep]

/- The second read returns the message in front. -/
theorem ledger_read_body
    {h : List (QueueEvent abi msgbufsz T)}
    {q : Queue}
    {left : List (Message abi msgbufsz)}
    (hLedger : Ledger h q left)
    {msgp : Mem}
    (hBody : q.receiver = .body msgp) :
    let i : QueueInput abi msgbufsz T := .read
    Ledger (h ++ [(queue abi msgbufsz T).event q i])
        (q.step i).1 left.tail ∧
      (q.step i).1.receiver = .idle := by
  intro i
  have hHolds := hLedger.holds
  simp only [Queue.Holds, hBody] at hHolds
  rcases hHolds with ⟨m, rest, mem, rfl, rfl, hPipe⟩
  have hField := msgszField_head m.frame mem
  have hThere :
      ¬ q.pipe.length <
        (m.frame.msgsz - sizeofMsgsz abi.word).toNat := by
    rw [hPipe, List.length_append, m.frame.rest]
    omega
  have hRead :=
    piperead_body m.frame (contents rest) mem []
  have hField' :
      msgszField abi.word
          (Known.patch mem 0 m.frame.bytes) =
        m.frame.msgsz := by
    rw [Frame.bytes,
      msgszField_patch _ _ m.frame.length_head, Frame.head,
      ofNat_littleEndian]
  have hAfter :
      afterBody abi.word (toInt m.frame.body.length)
          (Known.patch mem 0 m.frame.bytes) =
        toInt m.msgsz.toNat := by
    rw [afterBody, hField', m.frame.rest]
    simp
    rfl
  have hStep :
      q.step i =
        (⟨contents rest, .idle⟩,
          [.received (toInt m.msgsz.toNat)
            (Known.patch mem 0 m.frame.bytes)]) := by
    simp only [i, Queue.step, Queue.read, hBody, hField,
      hThere, if_false]
    rw [hPipe, hRead]
    simp only [hAfter]
  have hReturned :
      Returns
        (toInt m.msgsz.toNat,
          Known.patch mem 0 m.frame.bytes) m := by
    refine ⟨?_, rfl, toInt_of_lt⟩
    have hWindow :=
      Known.window_patch mem 0 m.frame.bytes
    rw [m.frame.length_bytes] at hWindow
    rw [m.bytes_eq]
    exact hWindow
  rcases hLedger.received with ⟨done, hWrites, hReturns⟩
  refine ⟨⟨⟨done ++ [m], ?_, ?_⟩, ?_⟩, ?_⟩
  · rw [writes_concat, hWrites]
    simp [QueueInput.message, Transducer.event, i]
  · rw [receipts_concat]
    have hOutput :
        ((queue abi msgbufsz T).event q i).output =
          [.received (toInt m.msgsz.toNat)
            (Known.patch mem 0 m.frame.bytes)] :=
      congrArg Prod.snd hStep
    rw [hOutput]
    exact
      List.rel_append hReturns
        (List.Forall₂.cons hReturned List.Forall₂.nil)
  · rw [hStep]
    rfl
  · rw [hStep]

end DmnConn

end D2Common

------------------------------------------------------------
-- Runs
------------------------------------------------------------

namespace D2Common

namespace DmnConn

variable {abi : Abi}
variable {msgbufsz : BitVec (8 * abi.word)}
variable {T : Type}

/- What is left after a run of the queue. -/
def Left
    (is : List (QueueInput abi msgbufsz T))
    (left : List (Message abi msgbufsz)) : Prop :=
  Ledger ((queue abi msgbufsz T).history is)
    ((queue abi msgbufsz T).run is) left

theorem left_nil :
    Left ([] : List (QueueInput abi msgbufsz T)) [] := by
  refine ⟨⟨[], ?_, List.Forall₂.nil⟩, ?_⟩
  · simp [writes, Transducer.history, Transducer.historyFrom]
  · simp [Queue.Holds, queue, contents]

/- Every run has received what it has not left. -/
theorem ledger_run
    (is : List (QueueInput abi msgbufsz T)) :
    ∃ left, Left is left := by
  apply (queue abi msgbufsz T).history_induction_of_all
    (I := fun h q => ∃ left, Ledger h q left)
  · exact ⟨[], left_nil⟩
  · rintro h q i ⟨left, hLedger⟩
    cases i with
    | msgsnd sender m =>
        exact ⟨left ++ [m], ledger_msgsnd hLedger sender m⟩
    | msgrcv msgp =>
        exact ⟨left, (ledger_msgrcv hLedger msgp).1⟩
    | read =>
        cases hReceiver : q.receiver with
        | idle =>
            refine ⟨left, ?_⟩
            exact (ledger_read_idle hLedger hReceiver).1
        | header msgp =>
            refine ⟨left, ?_⟩
            exact (ledger_read_header hLedger hReceiver).1
        | body msgp =>
            refine ⟨left.tail, ?_⟩
            exact (ledger_read_body hLedger hReceiver).1

/- A call of `msgrcv` that is given two reads. -/
def call
    (msgp : Mem) : List (QueueInput abi msgbufsz T) :=
  [.msgrcv msgp, .read, .read]

/- The state and the history after one more input. -/
theorem left_concat
    {is : List (QueueInput abi msgbufsz T)}
    {i : QueueInput abi msgbufsz T}
    {left : List (Message abi msgbufsz)} :
    Left (is ++ [i]) left ↔
      Ledger
        ((queue abi msgbufsz T).history is ++
          [(queue abi msgbufsz T).event
            ((queue abi msgbufsz T).run is) i])
        (((queue abi msgbufsz T).run is).step i).1 left := by
  rw [Left, Transducer.history_concat, Transducer.run_concat]
  rfl

/- A read that some call waits for, and one more. -/
theorem left_two_reads
    {is : List (QueueInput abi msgbufsz T)}
    {left : List (Message abi msgbufsz)}
    (hLeft : Left is left)
    (hBegun :
      ((queue abi msgbufsz T).run is).receiver ≠ .idle) :
    Left (is ++ [.read] ++ [.read]) left.tail := by
  cases hReceiver :
      ((queue abi msgbufsz T).run is).receiver with
  | idle => contradiction
  | body msgp =>
      -- the second read finds no call
      rcases ledger_read_body hLeft hReceiver with
        ⟨hFirst, hIdle⟩
      rw [left_concat, Transducer.run_concat,
        Transducer.history_concat]
      exact (ledger_read_idle hFirst hIdle).1
  | header msgp =>
      rcases ledger_read_header hLeft hReceiver with
        ⟨hFirst, hNext⟩
      rw [left_concat, Transducer.run_concat,
        Transducer.history_concat]
      rcases hNext with ⟨rfl, hSame⟩ | ⟨msgp', hBody⟩
      · -- nothing has been written: the call goes on waiting
        exact
          (ledger_read_header hFirst
            ((congrArg Queue.receiver hSame).trans
              hReceiver)).1
      · exact (ledger_read_body hFirst hBody).1

/- A call receives the first message that is left. -/
theorem left_call
    {is : List (QueueInput abi msgbufsz T)}
    {left : List (Message abi msgbufsz)}
    (hLeft : Left is left)
    (msgp : Mem) :
    Left (is ++ call msgp) left.tail := by
  rcases ledger_msgrcv hLeft msgp with ⟨hBegun, hReceiver⟩
  have hSplit :
      is ++ call msgp =
        is ++ [.msgrcv msgp] ++ [.read] ++ [.read] := by
    simp [call]
  rw [hSplit]
  apply left_two_reads (left_concat.mpr hBegun)
  rw [Transducer.run_concat]
  exact hReceiver

/- Calls receive as many messages as there are calls. -/
theorem left_calls
    {is : List (QueueInput abi msgbufsz T)}
    {left : List (Message abi msgbufsz)}
    (hLeft : Left is left)
    (msgps : List Mem) :
    Left (is ++ msgps.flatMap call)
      (left.drop msgps.length) := by
  induction msgps generalizing is left with
  | nil => simpa using hLeft
  | cons msgp msgps ih =>
      have hRest := ih (left_call hLeft msgp)
      simpa [List.append_assoc, List.drop_tail] using hRest

theorem writes_history
    (is : List (QueueInput abi msgbufsz T)) :
    writes ((queue abi msgbufsz T).history is) =
      is.filterMap QueueInput.message := by
  induction is using List.reverseRecOn with
  | nil => rfl
  | append_singleton is i ih =>
      rw [Transducer.history_concat, writes_concat, ih,
        List.filterMap_append]
      cases i <;> rfl

/- Calls of `msgrcv` write nothing. -/
theorem writes_calls
    (is : List (QueueInput abi msgbufsz T))
    (msgps : List Mem) :
    writes
        ((queue abi msgbufsz T).history
          (is ++ msgps.flatMap call)) =
      writes ((queue abi msgbufsz T).history is) := by
  have hCalls :
      List.filterMap QueueInput.message
          (msgps.flatMap call :
            List (QueueInput abi msgbufsz T)) =
        [] := by
    rw [List.filterMap_eq_nil_iff]
    intro i hMem
    rcases List.mem_flatMap.mp hMem with ⟨msgp, -, hCall⟩
    have hOne : i = .msgrcv msgp ∨ i = .read := by
      simpa [call] using hCall
    rcases hOne with rfl | rfl <;> rfl
  rw [writes_history, writes_history, List.filterMap_append,
    hCalls, List.append_nil]

/-
  After any run, and any further calls of `msgrcv`: what has
  been received are the first messages that were written, in
  order, and every call has received one more while there
  were any.
-/
theorem messages_round_trip
    (is : List (QueueInput abi msgbufsz T))
    (msgps : List Mem) :
    let h := (queue abi msgbufsz T).history is
    List.Forall₂ Returns
      (receipts
        ((queue abi msgbufsz T).history
          (is ++ msgps.flatMap call)))
      ((writes h).take
        ((receipts h).length + msgps.length)) := by
  intro h
  obtain ⟨left, hLeft⟩ := ledger_run is
  rcases hLeft.received with ⟨done, hWrites, hReturns⟩
  have hLength : (receipts h).length = done.length :=
    hReturns.length_eq
  have hAll : writes h = done ++ left := hWrites
  rcases (left_calls hLeft msgps).received with
    ⟨done', hWrites', hReturns'⟩
  rw [writes_calls] at hWrites'
  have hDone' : done' = done ++ left.take msgps.length := by
    have hSplit :
        done ++ left.take msgps.length ++
            left.drop msgps.length =
          done' ++ left.drop msgps.length := by
      rw [List.append_assoc, List.take_append_drop]
      exact hWrites.symm.trans hWrites'
    exact (List.append_cancel_right hSplit).symm
  rw [hAll, hLength, List.take_length_add_append]
  exact hDone' ▸ hReturns'

/- Two gigabytes: one more than the largest `int`. -/
def twoGigabytes : BitVec (8 * Abi.lp64.word) :=
  BitVec.ofNat (8 * Abi.lp64.word) (2 ^ 31)

/- A message of that size, and a buffer of that size. -/
def largeMessage : Message .lp64 twoGigabytes where
  msgp := fun _ => 0
  msgsz := twoGigabytes
  word_le := by decide
  fits := BitVec.le_refl _

/- It is received, and its length comes back negative. -/
theorem largeMessage_length :
    let h :=
      (queue .lp64 twoGigabytes Unit).history
        ([.msgsnd () largeMessage] ++ call fun _ => 0)
    ¬ List.Forall₂
        (fun receipt m => receipt.1 = (m.msgsz.toNat : Int))
        (receipts h) (writes h) := by
  intro h hExact
  have hSent : Left [.msgsnd () largeMessage] [largeMessage] :=
    left_concat.mpr
      (ledger_msgsnd left_nil () largeMessage)
  rcases (left_call hSent (fun _ => 0)).received with
    ⟨done, hWrites, hReturns⟩
  have hWritten : writes h = [largeMessage] := by
    simp only [h, writes_history]
    rfl
  have hDone : done = [largeMessage] := by
    simpa [hWritten] using hWrites.symm.trans hWritten
  rw [hWritten] at hExact
  rw [hDone] at hReturns
  change List.Forall₂ Returns (receipts h) _ at hReturns
  generalize receipts h = returned at hExact hReturns
  cases hReturns with
  | cons hReturned _ =>
      cases hExact with
      | cons hExact _ =>
          have hInt :
              toInt twoGigabytes.toNat = twoGigabytes.toNat :=
            hReturned.length.symm.trans hExact
          revert hInt
          decide

end DmnConn

end D2Common
