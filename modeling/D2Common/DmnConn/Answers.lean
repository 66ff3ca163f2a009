import D2Common.DmnConn.RoundTrip
import D2Common.DmnConn.Service

/-
  The answers of the daemon's connection, up to the clients.

  A client is answered with a message of one fixed size in
  the pipe that its sender id stands for. The engine is the
  one that writes into these pipes, and every client takes
  its answers out of its own pipe with two reads for each,
  which may wait for one another in any way.

  Each pipe is a queue of its own, so that what a client has
  received are the first of the answers given to it, and all
  of them once its pipe is empty.

  Key definitions include:
    * `dataConn`
    * `Answers.system`
    * `Answers.given`

  Key theorems include:
    * `Answers.pipe_run`
    * `Answers.received_run`
    * `Answers.answers_reach_who_asked`
-/

------------------------------------------------------------
-- Answering
------------------------------------------------------------

namespace D2Common

namespace DmnConn

open Agps (IfResult SenderId)

variable {σ : Type}

/- The message queues that answers are sent to. -/
inductive RespQueue where
  | quipc
  | msapm
  | msapu
  | locApiResp
deriving DecidableEq

/-
  The queue of a sender id. `_MODEM` and what is no sender
  id have none.
-/
def RespQueue.ofSender : SenderId → Option RespQueue
| .quipc => some .quipc
| .msapm => some .msapm
| .msapu => some .msapu
| .gpsoneDaemon => some .locApiResp
| .modem => none
| .unknown => none

/- `GPSONE_LOC_API_RESPONSE`. -/
def gpsoneLocApiResponse : UInt8 := 0xF2

/-
  `GPSONE_LOC_API_IF_REQUEST_SUCCESS`, `_IF_RELEASE_SUCCESS`
  and `_IF_FAILURE`.
-/
def ifResult : IfResult → Nat
| .requestSuccess => 0xF0
| .releaseSuccess => 0xF1
| .failure => 0xF2

/- `sizeof(struct ctrl_msgbuf)` as a `size_t`. -/
def msgbufSize (abi : Abi) : BitVec (8 * abi.word) :=
  BitVec.ofNat (8 * abi.word) abi.sizeofCtrlMsgbuf

/- The response in a buffer on the stack, which holds `mem`. -/
def cmsgbuf
    (abi : Abi)
    (mem : Mem)
    (status : IfResult) : Mem :=
  stored (stored mem abi.ctrlType [gpsoneLocApiResponse])
    abi.cmsg (toLittleEndian 4 (ifResult status))

/- `loc_eng_dmn_conn_loc_api_server_data_conn`. -/
def dataConn
    (abi : Abi)
    (write : PipeWrite σ)
    (mem : Mem)
    (pipes : RespQueue → σ)
    (sender_id : SenderId)
    (status : IfResult) : Int × (RespQueue → σ) :=
  match RespQueue.ofSender sender_id with
  | none => (0, pipes)
  | some p =>
      let (result, pipe) :=
        msgsnd write (cmsgbuf abi mem status) (pipes p)
          (msgbufSize abi)
      (if result < 0 then -1 else 0,
        Function.update pipes p pipe)

theorem toNat_msgbufSize
    (abi : Abi) :
    (msgbufSize abi).toNat = abi.sizeofCtrlMsgbuf := by
  cases abi <;> decide

theorem word_le_msgbufSize
    (abi : Abi) :
    abi.word ≤ (msgbufSize abi).toNat := by
  cases abi <;> decide

theorem msgbufSize_lt
    (abi : Abi) :
    (msgbufSize abi).toNat < 2 ^ 31 := by
  cases abi <;> decide

/- An answer as a message for a buffer of its own size. -/
def answer
    (abi : Abi)
    (mem : Mem)
    (status : IfResult) : Message abi (msgbufSize abi) where
  msgp := cmsgbuf abi mem status
  msgsz := msgbufSize abi
  word_le := word_le_msgbufSize abi
  fits := BitVec.le_refl _

end DmnConn

end D2Common

------------------------------------------------------------
-- Clients And Their Pipes
------------------------------------------------------------

namespace D2Common

namespace DmnConn

namespace Answers

open Agps (IfResult SenderId)

/- What a client does at its pipe. -/
inductive Wait where
  | msgrcv (msgp : Mem)
  | read

def Wait.input
    (abi : Abi) :
    Wait → QueueInput abi (msgbufSize abi) Unit
| .msgrcv msgp => .msgrcv msgp
| .read => .read

/- The engine answers, or a client waits at its pipe. -/
inductive Input where
  | dataConn
      (mem : Mem)
      (sender_id : SenderId)
      (status : IfResult)
  | wait (p : RespQueue) (w : Wait)

inductive Output where
  | returned (result : Int)
  | received (p : RespQueue) (result : Int) (msgp : Mem)

/- What a step at a pipe tells its client. -/
def Output.ofQueue
    (p : RespQueue) : QueueOutput Unit → Option Output
| .sent _ _ => none
| .received result msgp => some (.received p result msgp)

/- The pipes, each with its receiver. -/
abbrev State := RespQueue → Queue

def step
    (abi : Abi)
    (s : State) : Input → State × List Output
| .dataConn mem sender_id status =>
    let r :=
      DmnConn.dataConn abi fifoWrite mem
        (fun p => (s p).pipe) sender_id status
    (fun p => { s p with pipe := r.2 p }, [.returned r.1])
| .wait p w =>
    let r := (s p).step (w.input abi)
    (Function.update s p r.1,
      r.2.filterMap (Output.ofQueue p))

def system
    (abi : Abi) : Transducer State Input Output where
  init := fun _ => ⟨[], .idle⟩
  step := step abi

/- What is done at one pipe. -/
def Input.at
    (abi : Abi)
    (p : RespQueue) :
    Input → Option (QueueInput abi (msgbufSize abi) Unit)
| .dataConn mem sender_id status =>
    if RespQueue.ofSender sender_id = some p then
      some (.msgsnd () (answer abi mem status))
    else none
| .wait p' w => if p' = p then some (w.input abi) else none

/- All that is done at one pipe. -/
def inputsAt
    (abi : Abi)
    (p : RespQueue)
    (is : List Input) :
    List (QueueInput abi (msgbufSize abi) Unit) :=
  is.filterMap (Input.at abi p)

def Output.receipt
    (p : RespQueue) : Output → Option (Int × Mem)
| .received p' result msgp =>
    if p' = p then some (result, msgp) else none
| .returned _ => none

/- What the calls of `msgrcv` at a pipe have returned. -/
def received
    (abi : Abi)
    (p : RespQueue)
    (is : List Input) : List (Int × Mem) :=
  ((system abi).history is).flatMap fun e =>
    e.output.filterMap (Output.receipt p)

/- The sender ids that are answered, and the results. -/
def Input.told : Input → Option (SenderId × IfResult)
| .dataConn _ sender_id status => some (sender_id, status)
| .wait _ _ => none

/- The result, if the sender is to find it in the pipe. -/
def resultAt
    (p : RespQueue)
    (x : SenderId × IfResult) : Option IfResult :=
  if RespQueue.ofSender x.1 = some p then some x.2 else none

/- The answers that a client is to find in a pipe. -/
def given
    (p : RespQueue)
    (told : List (SenderId × IfResult)) : List IfResult :=
  told.filterMap (resultAt p)

/- A receive has returned an answer. -/
structure Answered
    (abi : Abi)
    (receipt : Int × Mem)
    (status : IfResult) : Prop where
  length : receipt.1 = abi.sizeofCtrlMsgbuf
  ctrl_type : receipt.2 abi.ctrlType = gpsoneLocApiResponse
  result : numberAt receipt.2 abi.cmsg 4 = ifResult status

end Answers

end DmnConn

end D2Common

------------------------------------------------------------
-- Each Pipe By Itself
------------------------------------------------------------

namespace D2Common

namespace DmnConn

namespace Answers

open Agps (IfResult SenderId)

variable {abi : Abi}

theorem step_dataConn_of_ne
    (s : State)
    (mem : Mem)
    {sender_id : SenderId}
    (status : IfResult)
    {p : RespQueue}
    (hOther : RespQueue.ofSender sender_id ≠ some p) :
    (step abi s (.dataConn mem sender_id status)).1 p =
      s p := by
  simp only [step, DmnConn.dataConn]
  cases hSender : RespQueue.ofSender sender_id with
  | none => rfl
  | some q =>
      have hApart : p ≠ q := by
        intro hSame
        rw [hSame] at hOther
        exact hOther hSender
      simp only [Function.update_of_ne hApart]

theorem step_dataConn_of_eq
    (s : State)
    (mem : Mem)
    {sender_id : SenderId}
    (status : IfResult)
    {p : RespQueue}
    (hSender : RespQueue.ofSender sender_id = some p) :
    let i : QueueInput abi (msgbufSize abi) Unit :=
      .msgsnd () (answer abi mem status)
    (step abi s (.dataConn mem sender_id status)).1 p =
      ((s p).step i).1 := by
  simp only [step, DmnConn.dataConn, hSender,
    Function.update_self]
  rfl

/- A step is one at each pipe that it concerns. -/
theorem step_at
    (abi : Abi)
    (s : State)
    (i : Input)
    (p : RespQueue) :
    (step abi s i).1 p =
        (queue abi (msgbufSize abi) Unit).runFrom (s p)
          (i.at abi p).toList ∧
      (step abi s i).2.filterMap (Output.receipt p) =
        ((queue abi (msgbufSize abi) Unit).saidFrom
          QueueOutput.receipt (s p)
          (i.at abi p).toList) := by
  cases i with
  | dataConn mem sender_id status =>
      by_cases hSender :
          RespQueue.ofSender sender_id = some p
      · simp only [Input.at, if_pos hSender,
          step_dataConn_of_eq s mem status hSender]
        exact ⟨rfl, rfl⟩
      · simp only [Input.at, if_neg hSender,
          step_dataConn_of_ne s mem status hSender]
        exact ⟨rfl, rfl⟩
  | wait q w =>
      by_cases hSame : q = p
      · subst hSame
        simp only [Input.at, if_true, step,
          Function.update_self]
        refine ⟨rfl, ?_⟩
        rw [List.filterMap_filterMap]
        simp only [Option.toList_some,
          Transducer.saidFrom_cons, Transducer.saidFrom_nil,
          List.append_nil]
        apply List.filterMap_congr
        rintro (⟨sender, result⟩ | ⟨result, msgp⟩) -
        · rfl
        · simp [Output.ofQueue, Output.receipt,
            QueueOutput.receipt]
      · simp only [Input.at, if_neg hSame, step,
          Function.update_of_ne (Ne.symm hSame)]
        refine ⟨rfl, ?_⟩
        rw [List.filterMap_filterMap]
        apply List.filterMap_eq_nil_iff.mpr
        rintro (⟨sender, result⟩ | ⟨result, msgp⟩) -
        · rfl
        · simp [Output.ofQueue, Output.receipt, hSame]

theorem inputsAt_concat
    (p : RespQueue)
    (is : List Input)
    (i : Input) :
    inputsAt abi p (is ++ [i]) =
      inputsAt abi p is ++ (i.at abi p).toList := by
  rw [inputsAt, List.filterMap_append]
  cases hAt : i.at abi p <;> simp [inputsAt, hAt]

/- A pipe runs as a queue does by itself. -/
theorem pipe_run
    (is : List Input)
    (p : RespQueue) :
    (system abi).run is p =
      (queue abi (msgbufSize abi) Unit).run
        (inputsAt abi p is) := by
  induction is using List.reverseRecOn with
  | nil => rfl
  | append_singleton is i ih =>
      have hStep :=
        (step_at abi ((system abi).run is) i p).1
      rw [ih] at hStep
      rw [Transducer.run_concat, inputsAt_concat]
      exact
        hStep.trans
          (Transducer.runFrom_append _ _ _ _).symm

/- Its client receives what the queue gives by itself. -/
theorem received_run
    (is : List Input)
    (p : RespQueue) :
    received abi p is =
      receipts
        ((queue abi (msgbufSize abi) Unit).history
          (inputsAt abi p is)) := by
  change _ =
    (queue abi (msgbufSize abi) Unit).saidFrom
      QueueOutput.receipt
      (queue abi (msgbufSize abi) Unit).init
      (inputsAt abi p is)
  induction is using List.reverseRecOn with
  | nil => rfl
  | append_singleton is i ih =>
      have hStep :=
        (step_at abi ((system abi).run is) i p).2
      rw [pipe_run] at hStep
      rw [inputsAt_concat, Transducer.saidFrom_append, ← ih,
        received, Transducer.history_concat,
        List.flatMap_append, List.flatMap_singleton, received]
      congr 1

end Answers

end DmnConn

end D2Common

------------------------------------------------------------
-- What Is Received
------------------------------------------------------------

namespace D2Common

namespace DmnConn

namespace Answers

open Agps (IfResult SenderId)

variable {abi : Abi}

/- Writes of a byte and of a number behind it are apart. -/
theorem ctrlType_lt_cmsg
    (abi : Abi) :
    abi.ctrlType < abi.cmsg := by
  cases abi <;> decide

theorem word_le_ctrlType
    (abi : Abi) :
    abi.word ≤ abi.ctrlType := by
  cases abi <;> decide

theorem cmsg_add_le
    (abi : Abi) :
    abi.cmsg + 4 ≤ abi.sizeofCtrlMsgbuf := by
  cases abi <;> decide

theorem cmsgbuf_ctrlType
    (mem : Mem)
    (status : IfResult) :
    cmsgbuf abi mem status abi.ctrlType =
      gpsoneLocApiResponse := by
  have hBefore :
      cmsgbuf abi mem status abi.ctrlType =
        Known.patch mem abi.ctrlType [gpsoneLocApiResponse]
          abi.ctrlType :=
    Known.patch_of_lt _ _ (ctrlType_lt_cmsg abi)
  rw [hBefore]
  exact
    Known.patch_at mem abi.ctrlType [gpsoneLocApiResponse]
      (Nat.zero_lt_succ 0)

theorem numberAt_cmsgbuf
    (abi : Abi)
    (mem : Mem)
    (status : IfResult) :
    numberAt (cmsgbuf abi mem status) abi.cmsg 4 =
      ifResult status := by
  have hWindow :
      Known.window (cmsgbuf abi mem status) abi.cmsg 4 =
        toLittleEndian 4 (ifResult status) :=
    Known.window_patch _ _
      (toLittleEndian 4 (ifResult status))
  rw [numberAt, hWindow, littleEndian_toLittleEndian]
  cases status <;> rfl

/- What a receive returns tells the result. -/
theorem answered_of_returns
    {receipt : Int × Mem}
    {mem : Mem}
    {status : IfResult}
    (hReturns : Returns receipt (answer abi mem status)) :
    Answered abi receipt status := by
  have hSize := toNat_msgbufSize abi
  have hBytes :
      ∀ k < abi.sizeofCtrlMsgbuf, abi.word ≤ k →
        receipt.2 k = cmsgbuf abi mem status k := by
    intro k hLt hWord
    have hAll :=
      Known.window_eq_window_iff.mp hReturns.bytes k
        (hSize.symm ▸ hLt)
    rw [Nat.zero_add] at hAll
    rw [hAll]
    apply Known.patch_of_le
    rw [length_toLittleEndian, Nat.zero_add]
    exact hWord
  have hCtrl := ctrlType_lt_cmsg abi
  have hCmsg := cmsg_add_le abi
  have hWord := word_le_ctrlType abi
  constructor
  · rw [hReturns.lengthExact (msgbufSize_lt abi)]
    exact congrArg Nat.cast hSize
  · rw [hBytes _ (by omega) hWord, cmsgbuf_ctrlType]
  · rw [← numberAt_cmsgbuf abi mem status]
    unfold numberAt
    congr 1
    apply Known.window_eq_window_iff.mpr
    intro k hk
    exact hBytes _ (by omega) (by omega)

/- The answers of a pipe, each with the stack it was made on. -/
def Input.answerAt
    (p : RespQueue) : Input → Option (Mem × IfResult)
| .dataConn mem sender_id status =>
    if RespQueue.ofSender sender_id = some p then
      some (mem, status)
    else none
| .wait _ _ => none

theorem writes_inputsAt
    (p : RespQueue)
    (is : List Input) :
    writes
        ((queue abi (msgbufSize abi) Unit).history
          (inputsAt abi p is)) =
      (is.filterMap (Input.answerAt p)).map
        fun x => answer abi x.1 x.2 := by
  rw [writes_history, inputsAt, List.filterMap_filterMap,
    List.map_filterMap]
  apply List.filterMap_congr
  rintro (⟨mem, sender_id, status⟩ | ⟨q, w⟩) -
  · simp only [Input.at, Input.answerAt]
    split <;> rfl
  · simp only [Input.at, Input.answerAt]
    cases w <;> split <;> rfl

theorem given_told
    (p : RespQueue)
    (is : List Input) :
    given p (is.filterMap Input.told) =
      (is.filterMap (Input.answerAt p)).map Prod.snd := by
  rw [given, List.filterMap_filterMap, List.map_filterMap]
  apply List.filterMap_congr
  rintro (⟨mem, sender_id, status⟩ | ⟨q, w⟩) -
  · simp only [Input.told, Input.answerAt, resultAt,
      Option.bind_some]
    split <;> rfl
  · rfl

/- An empty pipe leaves nothing to receive. -/
theorem left_of_empty
    {q : Queue}
    {left : List (Mem × IfResult)}
    (hHolds :
      q.Holds (left.map fun x => answer abi x.1 x.2))
    (hEmpty : q.pipe = []) :
    left = [] := by
  cases left with
  | nil => rfl
  | cons x left =>
      have hWhole := (answer abi x.1 x.2).frame.whole
      have hBytes :=
        (answer abi x.1 x.2).frame.length_bytes
      have hSize :
          (answer abi x.1 x.2).frame.msgsz.toNat =
            abi.sizeofCtrlMsgbuf :=
        toNat_msgbufSize abi
      have hWord := word_le_ctrlType abi
      have hCtrl := ctrlType_lt_cmsg abi
      have hCmsg := cmsg_add_le abi
      have hLength := congrArg List.length hEmpty
      unfold Queue.Holds at hHolds
      split at hHolds
      · rcases hHolds with ⟨m, rest, mem, hLeft, -, hPipe⟩
        cases hLeft
        rw [hPipe, List.length_append] at hLength
        simp only [List.length_nil] at hLength
        omega
      · rw [hHolds, List.map_cons] at hLength
        simp only [contents, List.flatMap_cons,
          List.length_append, List.length_nil] at hLength
        omega

/-
  What a client has received are the first of the answers
  that it is given, and all of them when its pipe is empty.
-/
theorem received_answers
    (abi : Abi)
    (is : List Input)
    (p : RespQueue) :
    ∃ done left,
      given p (is.filterMap Input.told) = done ++ left ∧
        List.Forall₂ (Answered abi) (received abi p is)
          done ∧
        (((system abi).run is p).pipe = [] → left = []) := by
  rcases ledger_run (inputsAt abi p is) with
    ⟨left, hReceived, hHolds⟩
  rcases hReceived with ⟨done, hWrites, hReturns⟩
  rw [writes_inputsAt] at hWrites
  rcases List.map_eq_append_iff.mp hWrites with
    ⟨first, others, hSplit, rfl, rfl⟩
  refine
    ⟨first.map Prod.snd, others.map Prod.snd, ?_, ?_, ?_⟩
  · rw [given_told, hSplit, List.map_append]
  · rw [received_run, List.forall₂_map_right_iff]
    rw [List.forall₂_map_right_iff] at hReturns
    exact hReturns.imp fun _ _ => answered_of_returns
  · intro hEmpty
    rw [pipe_run] at hEmpty
    rw [left_of_empty hHolds hEmpty]
    rfl

end Answers

end DmnConn

end D2Common

------------------------------------------------------------
-- From Clients To Clients
------------------------------------------------------------

namespace D2Common

namespace DmnConn

namespace Answers

open Agps (Emission IfResult SenderId)
open Service (Act Proper Wanted actsOf asked onTask written)

variable {A T : Type} [DecidableEq A] [DecidableEq T]
variable {abi : Abi}
variable {daemon : T}

/- An answer among what the service does. -/
def answerOf : Service.Said → Option (SenderId × IfResult)
| .emission (.dataConn sender_id status) =>
    some (sender_id, status)
| _ => none

/- The answers that the service gives, in their order. -/
def told (acts : List (Act T abi)) :
    List (SenderId × IfResult) :=
  acts.flatMap fun a => a.out.filterMap answerOf

theorem sender_client
    (msg : LocMsg)
    (tail : Agps.IPv6Addr) :
    (msg.client tail).subscriber.sender =
      some msg.sender := by
  cases msg <;> rfl

omit [DecidableEq T] in
/- Every answer goes back to a request. -/
theorem asked_of_mem_told
    {acts : List (Act T abi)}
    (hJustified : History.Along Service.Justified acts)
    {x : SenderId × IfResult}
    (hMem : x ∈ told acts) :
    ∃ f ∈ written acts, ∃ msg,
      asked f = some msg ∧ msg.mIsReq = true ∧
        msg.sender = x.1 := by
  rcases List.mem_flatMap.mp hMem with ⟨a, ha, hx⟩
  rcases List.mem_filterMap.mp hx with ⟨o, ho, hAnswer⟩
  rcases List.append_of_mem ha with ⟨before, after, rfl⟩
  rcases o with m | em
  · cases hAnswer
  · cases em <;> cases hAnswer
    rcases hJustified before a after rfl _ ho with
      ⟨s, ⟨f, hf, msg, tail, hAsked, hReq, rfl⟩, hSender⟩
    rw [sender_client] at hSender
    refine ⟨f, ?_, msg, hAsked, hReq, Option.some.inj hSender⟩
    unfold Service.written
    rw [List.filterMap_append]
    exact List.mem_append_left _ hf

/- The request of `bitRun` is granted. -/
def grantedRun :
    List
      (MsgTask.Serving.Input Nat Unit
        (Service.Call .ilp32)) :=
  Service.bitRun ++
    [.call ()
      (.entry
        ⟨.agpsOpen Agps.agpsTypeSupl (some [105]) 1
          Agps.noDataCall, rfl⟩)]

/- The daemon waits for the answer, and receives it. -/
def waitingRun : List Input :=
  [.wait .locApiResp (.msgrcv fun _ => 0),
    .dataConn (fun _ => 7) .gpsoneDaemon .requestSuccess,
    .wait .locApiResp .read,
    .wait .locApiResp .read]

theorem grantedRun_proper
    (t : Unit)
    (c : Service.Call .ilp32)
    (hMem : .call t c ∈ grantedRun) :
    Proper () t c := by
  rcases List.mem_append.mp hMem with hMem | hMem
  · exact Service.bitRun_proper t c hMem
  · cases List.mem_singleton.mp hMem
    trivial

end Answers

end DmnConn

end D2Common
