import D2Common.Utils.LinkedList.Refinement

/-
  The message queue.

  Senders put messages at the head of a linked list, and
  receivers take them from its tail. Each section under the
  mutex is one step. A receiver that waits may wake up at
  any time, with or without a signal, and goes on with the
  test of its loop.

  The handle of the queue and the pointer that a receiver
  gives are never null here.

  Key definitions include:
    * `MsgQ.State`
    * `snd`
    * `rcv`
    * `rcvLoop`
    * `system`
-/

------------------------------------------------------------
-- The Queue
------------------------------------------------------------

namespace D2Common

namespace MsgQ

open LinkedList (ListState)

/- `msq_q_err_type`. -/
inductive Err where
  | success
  | failureGeneral
  | invalidParameter
  | invalidHandle
  | unavailableResource
  | insufficientBuffer
deriving DecidableEq

/- `convert_linked_list_err_type`. -/
def convert : LinkedList.Err → Err
| .success => .success
| .invalidParameter => .invalidParameter
| .invalidHandle => .invalidHandle
| .unavailableResource => .unavailableResource
| .insufficientBuffer => .insufficientBuffer
| .failureGeneral => .failureGeneral

/-
  `msg_q`, and which of the threads `T` wait for its
  condition variable.
-/
structure State (A α δ T : Type) where
  msg_list : ListState A α δ
  unblocked : Bool
  waiting : T → Bool

/- The sections under the mutex. -/
inductive Input (A α δ T : Type) where
  | snd
      (elem : Option A)
      (msg_obj : Option α)
      (dealloc : Option δ)
  | rcv (t : T)
  | wake (t : T)
  | flush
  | unblock

/- What the functions return, and calls to deallocate. -/
inductive Output (α δ T : Type) where
  | snd (rv : Err)
  | rcv (t : T) (rv : Err) (msg_obj : Option α)
  | dealloc (f : δ) (msg_obj : α)
  | flush (rv : Err)
  | unblock (rv : Err)
deriving DecidableEq

variable {A α δ T : Type}

/- The queue that `msg_q_init` makes. -/
def State.init : State A α δ T where
  msg_list := ListState.init
  unblocked := false
  waiting := fun _ => false

/- What a step ends with, if it does not fault. -/
abbrev Done (A α δ T : Type) :=
  State A α δ T × List (Output α δ T)

variable [DecidableEq A] [DecidableEq T]

/- `msg_q_snd`; `elem` is what `malloc` returns. -/
def snd
    (q : State A α δ T)
    (elem : Option A)
    (msg_obj : Option α)
    (dealloc : Option δ) : Option (Done A α δ T) :=
  match msg_obj with
  | none => some (q, [.snd .invalidParameter])
  | some msg_obj =>
      if q.unblocked then
        some (q, [.snd .unavailableResource])
      else do
        let (l, r) ←
          LinkedList.add q.msg_list elem (some msg_obj)
            dealloc
        some ({ q with msg_list := l },
          [.snd (convert r.err)])

/- `msg_q_rcv`, from the test of its loop on. -/
def rcvLoop
    (q : State A α δ T)
    (t : T) : Option (Done A α δ T) :=
  if q.msg_list.empty && !q.unblocked then
    some
      ({ q with waiting := Function.update q.waiting t true },
        [])
  else do
    let (l, r) ← LinkedList.remove q.msg_list
    some
      ({ q with
          msg_list := l
          waiting := Function.update q.waiting t false },
        [.rcv t (convert r.err) r.data_p])

/- `msg_q_rcv`, from its beginning. -/
def rcv
    (q : State A α δ T)
    (t : T) : Option (Done A α δ T) :=
  if q.unblocked then
    some (q, [.rcv t .unavailableResource none])
  else rcvLoop q t

/- `msg_q_flush`. -/
def flush (q : State A α δ T) : Option (Done A α δ T) := do
  let (l, r) ← LinkedList.flush q.msg_list
  some ({ q with msg_list := l },
    (r.deallocs.map fun c => .dealloc c.1 c.2) ++
      [.flush (convert r.err)])

/- `msg_q_unblock`. -/
def unblock (q : State A α δ T) : Option (Done A α δ T) :=
  if q.unblocked then
    some (q, [.unblock .unavailableResource])
  else
    some ({ q with unblocked := true }, [.unblock .success])

/-
  One step. A thread that waits starts nothing, and only one
  that waits wakes up.
-/
def exec
    (q : State A α δ T) :
    Input A α δ T → Option (Done A α δ T)
| .snd elem msg_obj dealloc => snd q elem msg_obj dealloc
| .rcv t => if q.waiting t then some (q, []) else rcv q t
| .wake t =>
    if q.waiting t then rcvLoop q t else some (q, [])
| .flush => flush q
| .unblock => unblock q

/- The queue; after a fault there is no state. -/
def system (A α δ T : Type) [DecidableEq A] [DecidableEq T] :
    Transducer (Option (State A α δ T)) (Input A α δ T)
      (Output α δ T) where
  init := some State.init
  step q i :=
    match q.bind fun q => exec q i with
    | some (q, out) => (some q, out)
    | none => (none, [])

end MsgQ

end D2Common
