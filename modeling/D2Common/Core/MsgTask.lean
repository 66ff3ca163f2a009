import D2Common.Foundations.Custody
import D2Common.Utils.MsgQ.ExactlyOnce

/-
  The message task.

  `sendMsg` puts a message into the queue, with a function
  that deletes it. The loop takes messages out, runs each
  and deletes it; when the queue gives it none it destroys
  the queue, which deletes what is left there, and exits.
  The destructor unblocks the queue. `sendMsg` does not look
  at what the queue answers, so a message that the queue
  refuses belongs to nobody.

  A message is named by the call of `sendMsg` it was given
  to, so that no two are the same.

  Key definitions include:
    * `State`
    * `system`
    * `legal`
    * `FlushedAtExit`
    * `ConsumedOnce`

  Key theorems include:
    * `turn_of_legal`
    * `inv_step`
    * `consumed_once_iff`
-/

------------------------------------------------------------
-- The Task
------------------------------------------------------------

namespace D2Common

namespace MsgQ

variable {A α δ T : Type} [DecidableEq A]

/-
  `msg_q_destroy`: the list is flushed, and the queue is
  freed.
-/
def destroy
    (q : State A α δ T) : Option (List (Output α δ T)) := do
  let (_, r) ← LinkedList.flush q.msg_list
  some (r.deallocs.map fun c => .dealloc c.1 c.2)

end MsgQ

namespace MsgTask

/- The function that deallocates messages. -/
inductive Dealloc where
  | locMsgDestroy
deriving DecidableEq

/- A message, and the number of the `sendMsg` it came by. -/
structure LocMsg (μ : Type) where
  send : Nat
  msg : μ
deriving DecidableEq

/-
  Where `loopMain` is: before or in `msg_q_rcv`, before
  `proc`, before `delete`, before `msg_q_destroy`, or gone.
-/
inductive Loop (μ : Type) where
  | listening
  | received (m : LocMsg μ)
  | ran (m : LocMsg μ)
  | failed
  | exited
deriving DecidableEq

/- The queue of the task; its only receiver is the loop. -/
abbrev Queue (A μ : Type) :=
  MsgQ.State A (LocMsg μ) Dealloc Unit

/- The outputs of the queue, and what the loop does. -/
inductive Output (μ : Type) where
  | q (out : MsgQ.Output (LocMsg μ) Dealloc Unit)
  | proc (m : LocMsg μ)
  | delete (m : LocMsg μ)
deriving DecidableEq

/- `mQ`, none when it has been freed, and the loop. -/
structure State (A μ : Type) where
  mQ : Option (Queue A μ)
  loop : Loop μ
  sends : Nat

/-
  Calls of `sendMsg`, where `elem` is what `malloc` returns
  for the element of the list, the destructor, and the steps
  of the loop.
-/
inductive Input (A μ : Type) where
  | sendMsg (elem : Option A) (msg : μ)
  | unblock
  | loop

variable {A μ : Type} [DecidableEq A]

/- Where `msg_q_rcv` leaves the loop. -/
def Loop.after :
    List (MsgQ.Output (LocMsg μ) Dealloc Unit) → Loop μ
| [] => .listening
| [.rcv _ .success (some m)] => .received m
| _ => .failed

/- One step of `loopMain`. -/
def loopMain
    (s : State A μ) : Option (State A μ × List (Output μ)) :=
  match s.loop with
  | .listening => do
      let q ← s.mQ
      let (q, out) ←
        MsgQ.exec q
          (if q.waiting () then .wake () else .rcv ())
      some ({ s with mQ := some q, loop := Loop.after out },
        out.map .q)
  | .received m => some ({ s with loop := .ran m }, [.proc m])
  | .ran m => some ({ s with loop := .listening }, [.delete m])
  | .failed => do
      let q ← s.mQ
      let out ← MsgQ.destroy q
      some ({ s with mQ := none, loop := .exited },
        out.map .q)
  | .exited => some (s, [])

/- One step; a call on a queue that is freed is a fault. -/
def exec
    (s : State A μ) :
    Input A μ → Option (State A μ × List (Output μ))
| .sendMsg elem msg => do
    let q ← s.mQ
    let (q, out) ←
      MsgQ.exec q
        (.snd elem (some ⟨s.sends, msg⟩)
          (some .locMsgDestroy))
    some ({ s with mQ := some q, sends := s.sends + 1 },
      out.map .q)
| .unblock => do
    let q ← s.mQ
    let (q, out) ← MsgQ.exec q .unblock
    some ({ s with mQ := some q }, out.map .q)
| .loop => loopMain s

/- The task; after a fault there is no state. -/
def system (A μ : Type) [DecidableEq A] :
    Transducer (Option (State A μ)) (Input A μ)
      (Output μ) where
  init := some ⟨some MsgQ.State.init, .listening, 0⟩
  step s i :=
    match s.bind fun s => exec s i with
    | some (s, out) => (some s, out)
    | none => (none, [])

/- One step of a run. -/
abbrev Event (A μ : Type) :=
  Transducer.Event (Option (State A μ)) (Input A μ)
    (Output μ)

end MsgTask

end D2Common

------------------------------------------------------------
-- What Becomes Of Messages
------------------------------------------------------------

namespace D2Common

namespace MsgTask

variable {A μ : Type}

/- The message that an output runs. -/
def ranBy : Output μ → Option (LocMsg μ)
| .proc m => some m
| _ => none

/- The message that the loop deletes. -/
def deletedBy : Output μ → Option (LocMsg μ)
| .delete m => some m
| _ => none

/- The message that a flush of the queue deletes. -/
def flushedBy : Output μ → Option (LocMsg μ)
| .q (.dealloc .locMsgDestroy m) => some m
| _ => none

/- The message that is passed to `sendMsg`. -/
def passed
    (s : State A μ) : Input A μ → List (LocMsg μ)
| .sendMsg _ msg => [⟨s.sends, msg⟩]
| _ => []

/- Whether the queue takes a message that is sent to it. -/
def takes
    (s : State A μ)
    (elem : Option A) : Bool :=
  elem.isSome && s.mQ.all fun q => !q.unblocked

/- The message that the queue does not take. -/
def refused
    (s : State A μ) : Input A μ → List (LocMsg μ)
| .sendMsg elem msg =>
    if takes s elem then [] else [⟨s.sends, msg⟩]
| _ => []

/- The message that the loop holds. -/
def Loop.hand : Loop μ → List (LocMsg μ)
| .received m => [m]
| .ran m => [m]
| _ => []

/- The message that has been run and not yet deleted. -/
def Loop.running : Loop μ → List (LocMsg μ)
| .ran m => [m]
| _ => []

/- All messages passed to `sendMsg`. -/
def allPassed (h : List (Event A μ)) : List (LocMsg μ) :=
  h.flatMap fun e => e.before.toList.flatMap (passed · e.input)

/- All messages that the queue has not taken. -/
def allRefused (h : List (Event A μ)) : List (LocMsg μ) :=
  h.flatMap fun e =>
    e.before.toList.flatMap (refused · e.input)

/- All messages run, in order. -/
def allRan (h : List (Event A μ)) : List (LocMsg μ) :=
  h.flatMap fun e => e.output.filterMap ranBy

/- All messages deleted by the loop, in order. -/
def allDeleted (h : List (Event A μ)) : List (LocMsg μ) :=
  h.flatMap fun e => e.output.filterMap deletedBy

/- All messages deleted with the queue. -/
def allFlushed (h : List (Event A μ)) : List (LocMsg μ) :=
  h.flatMap fun e => e.output.filterMap flushedBy

end MsgTask

end D2Common

------------------------------------------------------------
-- One Step
------------------------------------------------------------

namespace D2Common

namespace MsgTask

open LinkedList (Obj Represents)

variable {A μ : Type}

/- A message with the function that deletes it. -/
def object (m : LocMsg μ) : Obj (LocMsg μ) Dealloc :=
  (m, some .locMsgDestroy)

/-
  The queue of a state holds the messages `queued`, oldest
  first; it is freed when the loop exits.
-/
structure Holds
    (s : State A μ)
    (queued : List (LocMsg μ)) : Prop where
  queue :
    ∀ q, s.mQ = some q →
      ∃ cells, Represents q.msg_list cells ∧
        (cells.map Prod.snd).reverse = queued.map object
  freed : s.mQ = none ↔ s.loop = .exited
  empty : s.mQ = none → queued = []

theorem Holds.loop_ne_exited
    {s : State A μ}
    {queued : List (LocMsg μ)}
    (hs : Holds s queued)
    {q : Queue A μ}
    (hQueue : s.mQ = some q) :
    s.loop ≠ .exited := by
  intro hExited
  rw [hs.freed.mpr hExited] at hQueue
  contradiction

theorem Holds.exists_queue
    {s : State A μ}
    {queued : List (LocMsg μ)}
    (hs : Holds s queued)
    (hLoop : s.loop ≠ .exited) :
    ∃ q, s.mQ = some q := by
  apply Option.ne_none_iff_exists'.mp
  intro hNone
  exact hLoop (hs.freed.mp hNone)

/- While the loop is there, so is its queue. -/
theorem holds_of_queue
    {s : State A μ}
    {queued : List (LocMsg μ)}
    {q : Queue A μ}
    {cells : List (A × Obj (LocMsg μ) Dealloc)}
    (hQueue : s.mQ = some q)
    (hLoop : s.loop ≠ .exited)
    (hCells : Represents q.msg_list cells)
    (hQueued :
      (cells.map Prod.snd).reverse = queued.map object) :
    Holds s queued := by
  constructor
  · intro q' hq'
    rw [hQueue] at hq'
    cases hq'
    exact ⟨cells, hCells, hQueued⟩
  · simp [hQueue, hLoop]
  · simp [hQueue]

variable [DecidableEq A]

/- What a step does to the messages. -/
structure Turn
    (s : State A μ)
    (queued : List (LocMsg μ))
    (i : Input A μ)
    (s' : State A μ)
    (queued' : List (LocMsg μ))
    (out : List (Output μ)) : Prop where
  exec : exec s i = some (s', out)
  holds : Holds s' queued'
  balance :
    ((queued ++ s.loop.hand) ++ passed s i).Perm
      ((queued' ++ s'.loop.hand) ++
        (out.filterMap deletedBy ++ out.filterMap flushedBy ++
          refused s i))
  order :
    s.loop.running ++ out.filterMap ranBy =
      out.filterMap deletedBy ++ s'.loop.running
  first :
    ∀ m ∈ out.filterMap deletedBy, m ∈ s.loop.running
  sends : s'.sends = s.sends + (passed s i).length

/- Outputs of the queue neither run a message nor are the
loop's way to delete one. -/
theorem filterMap_q
    (out : List (MsgQ.Output (LocMsg μ) Dealloc Unit)) :
    (out.map Output.q).filterMap ranBy = [] ∧
      (out.map Output.q).filterMap deletedBy = [] := by
  induction out with
  | nil => exact ⟨rfl, rfl⟩
  | cons o out ih => exact ih

/- A step in which only the queue does something. -/
theorem turn_of_queue
    {s : State A μ}
    {queued queued' : List (LocMsg μ)}
    {i : Input A μ}
    (s' : State A μ)
    (out : List (MsgQ.Output (LocMsg μ) Dealloc Unit))
    (hExec : exec s i = some (s', out.map .q))
    (hHolds : Holds s' queued')
    (hBalance :
      ((queued ++ s.loop.hand) ++ passed s i).Perm
        ((queued' ++ s'.loop.hand) ++
          ((out.map Output.q).filterMap flushedBy ++
            refused s i)))
    (hRunning : s'.loop.running = s.loop.running)
    (hSends : s'.sends = s.sends + (passed s i).length) :
    Turn s queued i s' queued' (out.map .q) where
  exec := hExec
  holds := hHolds
  balance := by
    rw [(filterMap_q out).2]
    exact hBalance
  order := by
    rw [(filterMap_q out).1, (filterMap_q out).2, hRunning]
    exact List.append_nil _
  first := by
    rw [(filterMap_q out).2]
    simp
  sends := hSends

/- A queue that is unblocked refuses, as one without room. -/
theorem snd_refused
    {q : Queue A μ}
    {elem : Option A}
    (hRefused : q.unblocked = true ∨ elem = none)
    (m : LocMsg μ) :
    ∃ rv,
      MsgQ.exec q (.snd elem (some m) (some .locMsgDestroy)) =
        some (q, [.snd rv]) := by
  by_cases hUnblocked : q.unblocked = true
  · exact ⟨_, if_pos hUnblocked⟩
  · have hNone : elem = none :=
      hRefused.resolve_left hUnblocked
    rw [hNone]
    exact ⟨.failureGeneral, if_neg hUnblocked⟩

/- A message that is taken is behind those in the queue. -/
theorem snd_taken
    {q : Queue A μ}
    {cells : List (A × Obj (LocMsg μ) Dealloc)}
    (hs : Represents q.msg_list cells)
    (hOpen : q.unblocked = false)
    {a : A}
    (hFree : q.msg_list.heap a = none)
    (m : LocMsg μ) :
    ∃ q',
      MsgQ.exec q
          (.snd (some a) (some m) (some .locMsgDestroy)) =
        some (q', [.snd .success]) ∧
      Represents q'.msg_list ((a, object m) :: cells) := by
  rcases LinkedList.represents_add hs hFree m
    (some Dealloc.locMsgDestroy) with ⟨l, hAdd, hAfter⟩
  refine ⟨{ q with msg_list := l }, ?_, hAfter⟩
  simp [MsgQ.exec, MsgQ.snd, hOpen, hAdd,
    LinkedList.Reply.of, MsgQ.convert]

theorem turn_sendMsg
    {s : State A μ}
    {queued : List (LocMsg μ)}
    (hs : Holds s queued)
    {q : Queue A μ}
    (hQueue : s.mQ = some q)
    {elem : Option A}
    (hFresh :
      ∀ a, elem = some a → q.msg_list.heap a = none)
    (msg : μ) :
    ∃ s' queued' out,
      Turn s queued (.sendMsg elem msg) s' queued' out := by
  rcases hs.queue q hQueue with ⟨cells, hCells, hQueued⟩
  have hLoop := hs.loop_ne_exited hQueue
  by_cases hTakes : takes s elem = true
  · have hBoth : elem.isSome = true ∧ q.unblocked = false := by
      simpa [takes, hQueue] using hTakes
    rcases Option.isSome_iff_exists.mp hBoth.1 with ⟨a, rfl⟩
    rcases snd_taken hCells hBoth.2 (hFresh a rfl)
      ⟨s.sends, msg⟩ with ⟨q', hExec, hAfter⟩
    refine ⟨_, queued ++ [⟨s.sends, msg⟩], _,
      turn_of_queue
        { s with mQ := some q', sends := s.sends + 1 }
        [.snd .success] ?_ ?_ ?_ rfl rfl⟩
    · simp only [exec, hQueue, Option.bind_eq_bind,
        Option.bind_some, hExec]
    · apply holds_of_queue rfl _ hAfter
      · simp [hQueued]
      · exact hLoop
    · have hNone : refused s (.sendMsg (some a) msg) = [] :=
        if_pos hTakes
      rw [hNone]
      change
        List.Perm (_ ++ [_]) (((queued ++ [_]) ++ _) ++ [])
      rw [List.append_nil, List.append_assoc,
        List.append_assoc]
      exact List.perm_append_comm.append_left queued
  · have hRefused : q.unblocked = true ∨ elem = none := by
      by_contra hNeither
      push Not at hNeither
      apply hTakes
      simp [takes, hQueue, hNeither,
        Option.isSome_iff_ne_none]
    rcases snd_refused hRefused ⟨s.sends, msg⟩ with
      ⟨rv, hExec⟩
    refine ⟨_, queued, _,
      turn_of_queue
        { s with mQ := some q, sends := s.sends + 1 }
        [.snd rv] ?_ ?_ ?_ rfl rfl⟩
    · simp only [exec, hQueue, Option.bind_eq_bind,
        Option.bind_some, hExec]
    · apply holds_of_queue rfl _ hCells hQueued
      exact hLoop
    · have hAll :
          refused s (.sendMsg elem msg) =
            [⟨s.sends, msg⟩] :=
        if_neg hTakes
      rw [hAll]
      exact List.Perm.refl _

theorem turn_unblock
    {s : State A μ}
    {queued : List (LocMsg μ)}
    (hs : Holds s queued)
    {q : Queue A μ}
    (hQueue : s.mQ = some q) :
    ∃ s' queued' out,
      Turn s queued .unblock s' queued' out := by
  have hLoop := hs.loop_ne_exited hQueue
  have hExec :
      ∃ q' rv,
        MsgQ.exec q .unblock = some (q', [.unblock rv]) ∧
          q'.msg_list = q.msg_list := by
    by_cases hUnblocked : q.unblocked = true
    · exact ⟨q, _, if_pos hUnblocked, rfl⟩
    · exact ⟨_, _, if_neg hUnblocked, rfl⟩
  rcases hExec with ⟨q', rv, hExec, hList⟩
  refine ⟨_, queued, _,
    turn_of_queue { s with mQ := some q' } [.unblock rv]
      ?_ ?_ ?_ rfl rfl⟩
  · simp only [exec, hQueue, Option.bind_eq_bind,
      Option.bind_some, hExec]
  · rcases hs.queue q hQueue with ⟨cells, hCells, hQueued⟩
    apply holds_of_queue rfl _ (hList ▸ hCells) hQueued
    exact hLoop
  · exact List.Perm.refl _

/-
  What the call of `msg_q_rcv` comes to: the loop waits, or
  it gets nothing, or it gets the oldest message.
-/
inductive Receives
    (q : Queue A μ)
    (cells : List (A × Obj (LocMsg μ) Dealloc))
    (r : Option (MsgQ.Done A (LocMsg μ) Dealloc Unit)) :
    Prop
  | waits
      (q' : Queue A μ)
      (hEq : r = some (q', []))
      (hList : q'.msg_list = q.msg_list)
  | fails
      (q' : Queue A μ)
      (hEq :
        r = some (q', [.rcv () .unavailableResource none]))
      (hList : q'.msg_list = q.msg_list)
  | gets
      (q' : Queue A μ)
      (front : List (A × Obj (LocMsg μ) Dealloc))
      (c : A × Obj (LocMsg μ) Dealloc)
      (hCells : cells = front ++ [c])
      (hEq :
        r = some (q', [.rcv () .success (some c.2.1)]))
      (hAfter : Represents q'.msg_list front)

theorem receives_rcvLoop
    {q : Queue A μ}
    {cells : List (A × Obj (LocMsg μ) Dealloc)}
    (hs : Represents q.msg_list cells) :
    Receives q cells (MsgQ.rcvLoop q ()) := by
  unfold MsgQ.rcvLoop
  by_cases hWait :
      (q.msg_list.empty && !q.unblocked) = true
  · rw [if_pos hWait]
    exact Receives.waits _ rfl rfl
  · rw [if_neg hWait]
    rcases List.eq_nil_or_concat' cells with
      rfl | ⟨front, c, rfl⟩
    · rw [LinkedList.remove_of_empty hs]
      exact Receives.fails _ rfl rfl
    · rcases LinkedList.represents_remove hs with
        ⟨l, hRemove, hAfter⟩
      rw [hRemove]
      exact Receives.gets _ front c rfl rfl hAfter

theorem receives_exec
    {q : Queue A μ}
    {cells : List (A × Obj (LocMsg μ) Dealloc)}
    (hs : Represents q.msg_list cells) :
    Receives q cells
      (MsgQ.exec q
        (if q.waiting () then .wake () else .rcv ())) := by
  by_cases hWaiting : q.waiting () = true
  · have hExec : MsgQ.exec q (.wake ()) = MsgQ.rcvLoop q () :=
      if_pos hWaiting
    rw [if_pos hWaiting, hExec]
    exact receives_rcvLoop hs
  · have hExec : MsgQ.exec q (.rcv ()) = MsgQ.rcv q () :=
      if_neg hWaiting
    rw [if_neg hWaiting, hExec, MsgQ.rcv]
    by_cases hUnblocked : q.unblocked = true
    · rw [if_pos hUnblocked]
      exact Receives.fails q rfl rfl
    · rw [if_neg hUnblocked]
      exact receives_rcvLoop hs

/- The oldest object of the queue is its first message. -/
omit [DecidableEq A] in
theorem queued_of_concat
    {front : List (A × Obj (LocMsg μ) Dealloc)}
    {c : A × Obj (LocMsg μ) Dealloc}
    {queued : List (LocMsg μ)}
    (hQueued :
      ((front ++ [c]).map Prod.snd).reverse =
        queued.map object) :
    ∃ m rest, queued = m :: rest ∧ c.2 = object m ∧
      (front.map Prod.snd).reverse = rest.map object := by
  rw [List.map_append, List.reverse_append] at hQueued
  cases queued with
  | nil => simp at hQueued
  | cons m rest =>
      have hEach :
          c.2 = object m ∧
            (front.map Prod.snd).reverse =
              rest.map object := by
        simpa using hQueued
      exact ⟨m, rest, rfl, hEach⟩

theorem turn_listening
    {s : State A μ}
    {queued : List (LocMsg μ)}
    (hs : Holds s queued)
    (hLoop : s.loop = .listening) :
    ∃ s' queued' out, Turn s queued .loop s' queued' out := by
  have hThere : s.loop ≠ .exited := by simp [hLoop]
  rcases hs.exists_queue hThere with ⟨q, hq⟩
  rcases hs.queue q hq with ⟨cells, hCells, hQueued⟩
  have hExec :
      ∀ q' out,
        MsgQ.exec q
            (if q.waiting () then .wake () else .rcv ()) =
          some (q', out) →
        exec s .loop =
          some
            ({ s with mQ := some q', loop := Loop.after out },
              out.map .q) := by
    intro q' out hEq
    simp only [exec, loopMain, hLoop, hq, Option.bind_eq_bind,
      Option.bind_some, hEq]
  cases receives_exec hCells with
  | waits q' hEq hList =>
      refine ⟨_, queued, _,
        turn_of_queue _ _ (hExec q' _ hEq) ?_ ?_ ?_ rfl⟩
      · exact
          holds_of_queue rfl (by simp [Loop.after])
            (hList ▸ hCells) hQueued
      · rw [hLoop]
        exact List.Perm.refl _
      · rw [hLoop]
        rfl
  | fails q' hEq hList =>
      refine ⟨_, queued, _,
        turn_of_queue _ _ (hExec q' _ hEq) ?_ ?_ ?_ rfl⟩
      · exact
          holds_of_queue rfl (by simp [Loop.after])
            (hList ▸ hCells) hQueued
      · rw [hLoop]
        exact List.Perm.refl _
      · rw [hLoop]
        rfl
  | gets q' front c hSplit hEq hAfter =>
      subst hSplit
      rcases queued_of_concat hQueued with
        ⟨m, rest, rfl, hc, hRest⟩
      have hMsg : c.2.1 = m := congrArg Prod.fst hc
      rw [hMsg] at hEq
      refine ⟨_, rest, _,
        turn_of_queue _ _ (hExec q' _ hEq) ?_ ?_ ?_ rfl⟩
      · exact
          holds_of_queue rfl (by simp [Loop.after]) hAfter
            hRest
      · rw [hLoop]
        change
          List.Perm ((([m] ++ rest) ++ []) ++ [])
            ((rest ++ [m]) ++ [])
        rw [List.append_nil, List.append_nil, List.append_nil]
        exact List.perm_append_comm
      · rw [hLoop]
        rfl

/- The calls with which a flush deletes messages. -/
def deallocs
    (l : List (LocMsg μ)) :
    List (MsgQ.Output (LocMsg μ) Dealloc Unit) :=
  (l.flatMap fun m => (object m).deallocCall).map
    fun c => .dealloc c.1 c.2

omit [DecidableEq A] in
theorem flushedBy_deallocs
    (l : List (LocMsg μ)) :
    ((deallocs l).map Output.q).filterMap flushedBy = l := by
  induction l with
  | nil => rfl
  | cons m l ih => exact congrArg (List.cons m) ih

theorem turn_failed
    {s : State A μ}
    {queued : List (LocMsg μ)}
    (hs : Holds s queued)
    (hLoop : s.loop = .failed) :
    ∃ s' queued' out, Turn s queued .loop s' queued' out := by
  have hThere : s.loop ≠ .exited := by simp [hLoop]
  rcases hs.exists_queue hThere with ⟨q, hq⟩
  rcases hs.queue q hq with ⟨cells, hCells, hQueued⟩
  rcases LinkedList.represents_flush hCells with
    ⟨l, hFlush, -⟩
  have hCells' :
      cells.map Prod.snd = queued.reverse.map object := by
    rw [List.map_reverse, ← hQueued, List.reverse_reverse]
  have hCalls :
      (cells.flatMap fun c => Obj.deallocCall c.2) =
        queued.reverse.flatMap
          fun m => (object m).deallocCall := by
    rw [← List.flatMap_map, hCells', List.flatMap_map]
  rw [hCalls] at hFlush
  refine ⟨{ s with mQ := none, loop := .exited }, [], _,
    turn_of_queue _ (deallocs queued.reverse) ?_
      ⟨?_, ?_, ?_⟩ ?_ ?_ rfl⟩
  · simp only [exec, loopMain, hLoop, hq, MsgQ.destroy,
      hFlush, Option.bind_eq_bind, Option.bind_some]
    rfl
  · simp
  · simp
  · simp
  · rw [hLoop, flushedBy_deallocs]
    simp [Loop.hand, passed, refused]
  · rw [hLoop]
    rfl

/- A step between two calls of `msg_q_rcv`. -/
theorem turn_of_same
    {s : State A μ}
    {queued : List (LocMsg μ)}
    (hs : Holds s queued)
    (loop : Loop μ)
    (out : List (Output μ))
    (hExec : exec s .loop = some ({ s with loop := loop }, out))
    (hStays : loop = .exited ↔ s.loop = .exited)
    (hHand :
      s.loop.hand =
        loop.hand ++
          (out.filterMap deletedBy ++
            out.filterMap flushedBy))
    (hOrder :
      s.loop.running ++ out.filterMap ranBy =
        out.filterMap deletedBy ++ loop.running)
    (hFirst :
      ∀ m ∈ out.filterMap deletedBy, m ∈ s.loop.running) :
    ∃ s' queued' out, Turn s queued .loop s' queued' out := by
  refine ⟨{ s with loop := loop }, queued, out, hExec,
    ⟨hs.queue, hs.freed.trans hStays.symm, hs.empty⟩,
    ?_, hOrder, hFirst, rfl⟩
  rw [hHand]
  simp [passed, refused]

theorem turn_loop
    {s : State A μ}
    {queued : List (LocMsg μ)}
    (hs : Holds s queued) :
    ∃ s' queued' out, Turn s queued .loop s' queued' out := by
  cases hLoop : s.loop with
  | listening => exact turn_listening hs hLoop
  | received m =>
      apply turn_of_same hs (.ran m) [.proc m]
      · simp [exec, loopMain, hLoop]
      · simp [hLoop]
      · rw [hLoop]
        rfl
      · rw [hLoop]
        rfl
      · simp [deletedBy]
  | ran m =>
      apply turn_of_same hs .listening [.delete m]
      · simp [exec, loopMain, hLoop]
      · simp [hLoop]
      · rw [hLoop]
        rfl
      · rw [hLoop]
        rfl
      · simp [hLoop, deletedBy, Loop.running]
  | failed => exact turn_failed hs hLoop
  | exited =>
      have hExec : exec s .loop = some (s, []) := by
        simp only [exec, loopMain, hLoop]
      apply turn_of_same hs .exited []
      · rw [hExec, ← hLoop]
      · simp [hLoop]
      · rw [hLoop]
        rfl
      · rw [hLoop]
        rfl
      · simp

/-
  What is given: `sendMsg` and the destructor are called
  only while the queue is allocated, and `malloc` returns an
  address where nothing is.
-/
def legal (e : Event A μ) : Bool :=
  e.before.all fun s =>
    match e.input with
    | .sendMsg elem _ =>
        s.mQ.any fun q =>
          elem.all fun a => (q.msg_list.heap a).isNone
    | .unblock => s.mQ.isSome
    | .loop => true

/- Every legal step is such a turn. -/
theorem turn_of_legal
    {s : State A μ}
    {queued : List (LocMsg μ)}
    (hs : Holds s queued)
    (i : Input A μ)
    (hLegal :
      legal ((system A μ).event (some s) i) = true) :
    ∃ s' queued' out, Turn s queued i s' queued' out := by
  cases i with
  | sendMsg elem msg =>
      have hBoth :
          s.mQ.any
              (fun q =>
                elem.all
                  fun a => (q.msg_list.heap a).isNone) =
            true :=
        hLegal
      rcases Option.any_eq_true _ _ |>.mp hBoth with
        ⟨q, hq, hFresh⟩
      apply turn_sendMsg hs hq
      intro a ha
      subst ha
      exact Option.isNone_iff_eq_none.mp hFresh
  | unblock =>
      have hSome : s.mQ.isSome = true := hLegal
      rcases Option.isSome_iff_exists.mp hSome with ⟨q, hq⟩
      exact turn_unblock hs hq
  | loop => exact turn_loop hs

end MsgTask

end D2Common

------------------------------------------------------------
-- All Runs
------------------------------------------------------------

namespace D2Common

namespace MsgTask

variable {A μ : Type}

/- What is deleted, and what the queue does not take. -/
def allGone (h : List (Event A μ)) : List (LocMsg μ) :=
  h.flatMap fun e =>
    e.output.filterMap deletedBy ++
      e.output.filterMap flushedBy ++
        e.before.toList.flatMap (refused · e.input)

/- The books balance, and the loop runs before it deletes. -/
structure Books
    (h : List (Event A μ))
    (s : State A μ)
    (queued : List (LocMsg μ)) : Prop where
  holds : Holds s queued
  balanced :
    Custody.Balanced (allPassed h) (queued ++ s.loop.hand)
      (allGone h)
  numbered :
    Custody.Numbered LocMsg.send (allPassed h) s.sends
  order : allRan h = allDeleted h ++ s.loop.running

/- There is no fault, and the books are kept. -/
def Inv
    (h : List (Event A μ))
    (s : Option (State A μ)) : Prop :=
  ∃ t queued, s = some t ∧ Books h t queued

variable [DecidableEq A]

theorem inv_init :
    Inv [] (system A μ).init := by
  refine ⟨⟨some MsgQ.State.init, .listening, 0⟩, [], rfl,
    ⟨?_, ?_, ?_⟩, Custody.balanced_nil,
    Custody.numbered_nil 0, rfl⟩
  · intro q hq
    cases hq
    exact ⟨[], LinkedList.represents_init, rfl⟩
  · simp
  · simp

theorem event_of_exec
    {s s' : State A μ}
    {i : Input A μ}
    {out : List (Output μ)}
    (hExec : exec s i = some (s', out)) :
    (system A μ).event (some s) i =
      ⟨some s, i, out, some s'⟩ := by
  simp [Transducer.event, system, hExec]

theorem inv_step
    {h : List (Event A μ)}
    {s : Option (State A μ)}
    (hInv : Inv h s)
    (i : Input A μ)
    (hLegal : legal ((system A μ).event s i) = true) :
    Inv (h ++ [(system A μ).event s i])
      ((system A μ).step s i).1 := by
  rcases hInv with ⟨s, queued, rfl, hBooks⟩
  rcases turn_of_legal hBooks.holds i hLegal with
    ⟨s', queued', out, hTurn⟩
  have hEvent := event_of_exec hTurn.exec
  have hAfter :
      ((system A μ).step (some s) i).1 = some s' :=
    congrArg Transducer.Event.after hEvent
  rw [hAfter, hEvent]
  have hPassed :
      ∀ h : List (Event A μ),
        allPassed (h ++ [⟨some s, i, out, some s'⟩]) =
          allPassed h ++ passed s i := by
    intro h
    simp [allPassed]
  refine ⟨s', queued', rfl, hTurn.holds, ?_, ?_, ?_⟩
  · have hGone :
        allGone (h ++ [⟨some s, i, out, some s'⟩]) =
          allGone h ++
            (out.filterMap deletedBy ++
              out.filterMap flushedBy ++ refused s i) := by
      simp [allGone]
    rw [hPassed, hGone]
    exact hBooks.balanced.concat hTurn.balance
  · rw [hPassed, hTurn.sends]
    cases i with
    | sendMsg elem msg => exact hBooks.numbered.concat rfl
    | unblock =>
        exact (List.append_nil (allPassed h)).symm ▸
          hBooks.numbered
    | loop =>
        exact (List.append_nil (allPassed h)).symm ▸
          hBooks.numbered
  · have hRan :
        allRan (h ++ [⟨some s, i, out, some s'⟩]) =
          allRan h ++ out.filterMap ranBy := by
      simp [allRan]
    have hDeleted :
        allDeleted (h ++ [⟨some s, i, out, some s'⟩]) =
          allDeleted h ++ out.filterMap deletedBy := by
      simp [allDeleted]
    rw [hRan, hDeleted, hBooks.order, List.append_assoc,
      hTurn.order, List.append_assoc]

theorem inv_run
    (is : List (Input A μ))
    (hLegal :
      History.Along (fun _ e => legal e = true)
        ((system A μ).history is)) :
    Inv ((system A μ).history is) ((system A μ).run is) :=
  (system A μ).history_induction inv_init
    (fun _ _ i hInv hEvent => inv_step hInv i hEvent) is
    hLegal

/- Every message that the loop deletes has been run. -/
def RunFirst
    (h : List (Event A μ))
    (e : Event A μ) : Prop :=
  ∀ m ∈ e.output.filterMap deletedBy, m ∈ allRan h

theorem runFirst_of_inv
    {h : List (Event A μ)}
    {s : Option (State A μ)}
    (hInv : Inv h s)
    (i : Input A μ)
    (hLegal : legal ((system A μ).event s i) = true) :
    RunFirst h ((system A μ).event s i) := by
  rcases hInv with ⟨s, queued, rfl, hBooks⟩
  rcases turn_of_legal hBooks.holds i hLegal with
    ⟨s', queued', out, hTurn⟩
  rw [event_of_exec hTurn.exec]
  intro m hm
  rw [hBooks.order]
  exact List.mem_append_right _ (hTurn.first m hm)

/- The loop has destroyed the queue and returned. -/
def exited (s : Option (State A μ)) : Bool :=
  s.any fun s =>
    match s.loop with
    | .exited => true
    | _ => false

/-
  The condition: a message that is sent finds the queue not
  yet unblocked, and an element is allocated for it.
-/
def accepted (e : Event A μ) : Bool :=
  e.before.all fun s =>
    match e.input with
    | .sendMsg elem _ => takes s elem
    | _ => true

omit [DecidableEq A] in
theorem accepted_iff
    (e : Event A μ) :
    accepted e = true ↔
      e.before.toList.flatMap (refused · e.input) = [] := by
  rcases e with ⟨before, input, out, after⟩
  cases before with
  | none => exact iff_of_true rfl rfl
  | some s =>
      cases input with
      | sendMsg elem msg =>
          change
            takes s elem = true ↔
              (if takes s elem then []
                else [(⟨s.sends, msg⟩ : LocMsg μ)]) ++ [] = []
          by_cases hTakes : takes s elem = true <;>
            simp [hTakes]
      | unblock => exact iff_of_true rfl rfl
      | loop => exact iff_of_true rfl rfl

omit [DecidableEq A] in
theorem allRefused_eq_nil_iff
    (h : List (Event A μ)) :
    allRefused h = [] ↔
      History.Along (fun _ e => accepted e = true) h := by
  rw [History.along_const, allRefused,
    List.flatMap_eq_nil_iff]
  apply forall₂_congr
  intro e _
  exact (accepted_iff e).symm

/- Only a flush of the queue deallocates messages. -/
theorem flushedBy_of_exec
    {q q' : Queue A μ}
    {i : MsgQ.Input A (LocMsg μ) Dealloc Unit}
    (hOther : i ≠ .flush)
    {out : List (MsgQ.Output (LocMsg μ) Dealloc Unit)}
    (hExec : MsgQ.exec q i = some (q', out)) :
    (out.map Output.q).filterMap flushedBy = [] := by
  have hLoop
      (hEq : MsgQ.rcvLoop q () = some (q', out)) :
      (out.map Output.q).filterMap flushedBy = [] := by
    unfold MsgQ.rcvLoop at hEq
    split at hEq
    · cases hEq
      rfl
    · rcases Option.bind_eq_some_iff.mp hEq with
        ⟨⟨l, r⟩, -, hDone⟩
      cases hDone
      rfl
  cases i with
  | flush => exact absurd rfl hOther
  | snd elem msg_obj dealloc =>
      simp only [MsgQ.exec, MsgQ.snd] at hExec
      split at hExec
      · cases hExec
        rfl
      · split at hExec
        · cases hExec
          rfl
        · rcases Option.bind_eq_some_iff.mp hExec with
            ⟨⟨l, r⟩, -, hDone⟩
          cases hDone
          rfl
  | rcv t =>
      simp only [MsgQ.exec, MsgQ.rcv] at hExec
      split at hExec
      · cases hExec
        rfl
      · split at hExec
        · cases hExec
          rfl
        · exact hLoop hExec
  | wake t =>
      simp only [MsgQ.exec] at hExec
      split at hExec
      · exact hLoop hExec
      · cases hExec
        rfl
  | unblock =>
      simp only [MsgQ.exec, MsgQ.unblock] at hExec
      split at hExec <;> cases hExec <;> rfl

/- A message is deleted with the queue as the loop exits. -/
theorem exits_of_flushed
    {s s' : State A μ}
    {i : Input A μ}
    {out : List (Output μ)}
    (hExec : exec s i = some (s', out))
    (hFlushed : out.filterMap flushedBy ≠ []) :
    s.loop ≠ .exited ∧ s'.loop = .exited := by
  have hQueue
      {j : MsgQ.Input A (LocMsg μ) Dealloc Unit}
      (hOther : j ≠ .flush)
      {q q' : Queue A μ}
      {calls : List (MsgQ.Output (LocMsg μ) Dealloc Unit)}
      (hEq : MsgQ.exec q j = some (q', calls))
      (hOut : out = calls.map .q) :
      s.loop ≠ .exited ∧ s'.loop = .exited := by
    rw [hOut, flushedBy_of_exec hOther hEq] at hFlushed
    exact absurd rfl hFlushed
  cases i with
  | sendMsg elem msg =>
      rcases Option.bind_eq_some_iff.mp hExec with
        ⟨q, -, hRest⟩
      rcases Option.bind_eq_some_iff.mp hRest with
        ⟨⟨q', calls⟩, hEq, hDone⟩
      cases hDone
      exact hQueue (by simp) hEq rfl
  | unblock =>
      rcases Option.bind_eq_some_iff.mp hExec with
        ⟨q, -, hRest⟩
      rcases Option.bind_eq_some_iff.mp hRest with
        ⟨⟨q', calls⟩, hEq, hDone⟩
      cases hDone
      exact hQueue (by simp) hEq rfl
  | loop =>
      simp only [exec, loopMain] at hExec
      split at hExec
      · rcases Option.bind_eq_some_iff.mp hExec with
          ⟨q, -, hRest⟩
        rcases Option.bind_eq_some_iff.mp hRest with
          ⟨⟨q', calls⟩, hEq, hDone⟩
        cases hDone
        exact hQueue (by split <;> simp) hEq rfl
      · cases hExec
        exact absurd rfl hFlushed
      · cases hExec
        exact absurd rfl hFlushed
      · next hFailed =>
          rcases Option.bind_eq_some_iff.mp hExec with
            ⟨q, -, hRest⟩
          rcases Option.bind_eq_some_iff.mp hRest with
            ⟨calls, -, hDone⟩
          cases hDone
          exact ⟨by simp [hFailed], rfl⟩
      · cases hExec
        exact absurd rfl hFlushed

/-
  Messages are deleted with the queue in no other step than
  that in which the loop destroys the queue and returns.
-/
def FlushedAtExit (e : Event A μ) : Prop :=
  e.output.filterMap flushedBy ≠ [] →
    exited e.before = false ∧ exited e.after = true

theorem flushedAtExit
    (s : Option (State A μ))
    (i : Input A μ) :
    FlushedAtExit ((system A μ).event s i) := by
  intro hFlushed
  cases s with
  | none => exact absurd rfl hFlushed
  | some s =>
      cases hExec : exec s i with
      | none =>
          simp [Transducer.event, system, hExec] at hFlushed
      | some r =>
          rcases r with ⟨s', out⟩
          rw [event_of_exec hExec] at hFlushed ⊢
          rcases exits_of_flushed hExec hFlushed with
            ⟨hBefore, hAfter⟩
          constructor
          · cases hLoop : s.loop <;> simp_all [exited]
          · simp [exited, hAfter]

variable [DecidableEq μ]

/-
  A message has been run once and then deleted, or it has
  been deleted with the queue, when the loop destroyed it,
  and never been run.
-/
def Consumed
    (h : List (Event A μ))
    (m : LocMsg μ) : Prop :=
  ((allRan h).count m = 1 ∧
      (allDeleted h).count m = 1 ∧
        (allFlushed h).count m = 0) ∨
    ((allRan h).count m = 0 ∧
      (allDeleted h).count m = 0 ∧
        (allFlushed h).count m = 1)

instance
    (h : List (Event A μ))
    (m : LocMsg μ) : Decidable (Consumed h m) :=
  inferInstanceAs (Decidable (_ ∨ _))

/-
  No message is run or deleted twice, none is deleted by the
  loop before it has been run or with the queue before the
  loop exits, and once it has exited all that were sent are
  consumed.
-/
structure ConsumedOnce
    (h : List (Event A μ))
    (s : Option (State A μ)) : Prop where
  ran : ∀ m, (allRan h).count m ≤ 1
  deleted :
    ∀ m, (allDeleted h).count m + (allFlushed h).count m ≤ 1
  first : History.Along RunFirst h
  atExit : History.Along (fun _ e => FlushedAtExit e) h
  consumed :
    exited s = true → ∀ m ∈ allPassed h, Consumed h m

/- Where a message is, counted. -/
omit [DecidableEq A] in
theorem books_count
    {h : List (Event A μ)}
    {s : State A μ}
    {queued : List (LocMsg μ)}
    (hBooks : Books h s queued)
    (m : LocMsg μ) :
    queued.count m + s.loop.hand.count m +
        ((allDeleted h).count m + (allFlushed h).count m +
          (allRefused h).count m) =
      (allPassed h).count m := by
  have hGone :
      (allGone h).count m =
        (allDeleted h).count m + (allFlushed h).count m +
          (allRefused h).count m := by
    have hFirst :=
      (List.flatMap_append_perm h
        (fun e : Event A μ =>
          e.output.filterMap deletedBy ++
            e.output.filterMap flushedBy)
        (fun e => e.before.toList.flatMap
          (refused · e.input))).count_eq m
    have hSecond :=
      (List.flatMap_append_perm h
        (fun e : Event A μ => e.output.filterMap deletedBy)
        (fun e => e.output.filterMap flushedBy)).count_eq m
    rw [List.count_append] at hFirst hSecond
    unfold allGone allDeleted allFlushed allRefused
    omega
  rw [← hGone, hBooks.balanced.count_eq m,
    List.count_append, List.count_append]

omit [DecidableEq A] in
theorem passed_count_le
    {h : List (Event A μ)}
    {s : State A μ}
    {queued : List (LocMsg μ)}
    (hBooks : Books h s queued)
    (m : LocMsg μ) :
    (allPassed h).count m ≤ 1 :=
  List.nodup_iff_count_le_one.mp hBooks.numbered.nodup m

/- A message that has been run is held, or is deleted. -/
omit [DecidableEq A] in
theorem ran_count
    {h : List (Event A μ)}
    {s : State A μ}
    {queued : List (LocMsg μ)}
    (hBooks : Books h s queued)
    (m : LocMsg μ) :
    (allRan h).count m =
        (allDeleted h).count m + s.loop.running.count m ∧
      s.loop.running.count m ≤ s.loop.hand.count m := by
  constructor
  · rw [hBooks.order, List.count_append]
  · cases s.loop with
    | ran m' => exact Nat.le_refl _
    | _ => exact Nat.zero_le _

omit [DecidableEq A] in
theorem consumed_iff
    {h : List (Event A μ)}
    {s : State A μ}
    {queued : List (LocMsg μ)}
    (hBooks : Books h s queued)
    (hExited : s.loop = .exited) :
    (∀ m ∈ allPassed h, Consumed h m) ↔
      allRefused h = [] := by
  have hQueued : queued = [] :=
    hBooks.holds.empty (hBooks.holds.freed.mpr hExited)
  have hCounts :
      ∀ m,
        (allDeleted h).count m + (allFlushed h).count m +
            (allRefused h).count m =
          (allPassed h).count m ∧
        (allRan h).count m = (allDeleted h).count m := by
    intro m
    have hPlaces := books_count hBooks m
    have hRan := (ran_count hBooks m).1
    rw [hQueued, hExited] at hPlaces
    rw [hExited] at hRan
    constructor
    · simpa [Loop.hand] using hPlaces
    · simpa [Loop.running] using hRan
  constructor
  · intro hAll
    apply List.eq_nil_iff_forall_not_mem.mpr
    intro m hm
    rcases hCounts m with ⟨hSum, hRan⟩
    have hPos := List.count_pos_iff.mpr hm
    have hLe := passed_count_le hBooks m
    have hPassed : m ∈ allPassed h := by
      apply List.count_pos_iff.mp
      omega
    rcases hAll m hPassed with ⟨-, hOne, -⟩ | ⟨-, -, hOne⟩
    · omega
    · omega
  · intro hNone m hm
    rcases hCounts m with ⟨hSum, hRan⟩
    have hOne : (allPassed h).count m = 1 :=
      List.count_eq_one_of_mem hBooks.numbered.nodup hm
    rw [hNone, List.count_nil] at hSum
    unfold Consumed
    omega

/-
  In every run every message is consumed once if and only
  if, should the loop have exited, the queue has taken every
  message that was sent.
-/
theorem consumed_once_iff
    (is : List (Input A μ))
    (hLegal :
      History.Along (fun _ e => legal e = true)
        ((system A μ).history is)) :
    ConsumedOnce ((system A μ).history is)
        ((system A μ).run is) ↔
      (exited ((system A μ).run is) = true →
        History.Along (fun _ e => accepted e = true)
          ((system A μ).history is)) := by
  rcases inv_run is hLegal with ⟨s, queued, hRun, hBooks⟩
  have hExit :
      exited ((system A μ).run is) = true ↔
        s.loop = .exited := by
    rw [hRun]
    cases hLoop : s.loop <;> simp [exited, hLoop]
  rw [← allRefused_eq_nil_iff, hExit]
  constructor
  · intro hOnce hExited
    exact
      (consumed_iff hBooks hExited).mp
        (hOnce.consumed (hExit.mpr hExited))
  · intro hTaken
    refine ⟨?_, ?_, ?_, ?_, ?_⟩
    · intro m
      have hPlaces := books_count hBooks m
      have hLe := passed_count_le hBooks m
      have hRan := ran_count hBooks m
      omega
    · intro m
      have hPlaces := books_count hBooks m
      have hLe := passed_count_le hBooks m
      omega
    · exact
        (system A μ).along_of_invariant inv_init
          (fun _ _ i hInv hEvent => inv_step hInv i hEvent)
          (fun _ _ i hInv hEvent =>
            runFirst_of_inv hInv i hEvent)
          is hLegal
    · exact
        (system A μ).along_of_invariant inv_init
          (fun _ _ i hInv hEvent => inv_step hInv i hEvent)
          (fun _ s i _ _ => flushedAtExit s i)
          is hLegal
    · intro hExited
      exact
        (consumed_iff hBooks (hExit.mp hExited)).mpr
          (hTaken (hExit.mp hExited))

/-
  One message is run, one is left in the queue when it is
  unblocked, and the loop exits.
-/
def shutDown : List (Input Nat Nat) :=
  [.sendMsg (some 0) 10,
    .loop,
    .sendMsg (some 1) 11,
    .loop,
    .unblock,
    .loop,
    .loop,
    .loop]

theorem shutDown_consumed :
    exited ((system Nat Nat).run shutDown) = true ∧
      (ConsumedOnce ((system Nat Nat).history shutDown)
          ((system Nat Nat).run shutDown) ↔
        (exited ((system Nat Nat).run shutDown) = true →
          History.Along (fun _ e => accepted e = true)
            ((system Nat Nat).history shutDown))) :=
  ⟨by decide, consumed_once_iff shutDown (by decide)⟩

/- A message that is sent after the queue is unblocked. -/
def sendAfterUnblock : List (Input Nat Nat) :=
  [.unblock,
    .sendMsg (some 0) 10,
    .loop,
    .loop]

theorem sendAfterUnblock_not_consumed :
    History.Along (fun _ e => legal e = true)
        ((system Nat Nat).history sendAfterUnblock) ∧
      exited ((system Nat Nat).run sendAfterUnblock) = true ∧
      ¬ ConsumedOnce
        ((system Nat Nat).history sendAfterUnblock)
        ((system Nat Nat).run sendAfterUnblock) := by
  refine ⟨by decide, by decide, ?_⟩
  intro hOnce
  have hConsumed :=
    hOnce.consumed (by decide) ⟨0, 10⟩ (by decide)
  exact absurd hConsumed (by decide)

end MsgTask

end D2Common
