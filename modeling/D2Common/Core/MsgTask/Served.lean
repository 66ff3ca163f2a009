import D2Common.Foundations.Mailbox
import D2Common.Core.MsgTask

/-
  A program behind a message task.

  Threads call the program directly and send messages to
  the task, whose loop calls the program with them. What a
  call tells may be messages to the same task: an adapter
  sends from the methods that the location API calls, and
  `proc` of a message sends more of them. A thread sends
  the messages of a call one by one, and anything may happen
  between two of them.

  Key definitions include:
    * `Serving.State`
    * `Serving.system`
    * `Serving.Presents`

  Key theorems include:
    * `passage`
    * `Serving.refines`
    * `Serving.handled_in_order`
-/

------------------------------------------------------------
-- The Order Of Messages
------------------------------------------------------------

namespace D2Common

namespace MsgTask

variable {A μ : Type}

/- The message that the queue takes. -/
def taken
    (s : State A μ) : Input A μ → List (LocMsg μ)
| .sendMsg elem msg =>
    if takes s elem then [⟨s.sends, msg⟩] else []
| _ => []

/- The message that the loop has got and not yet run. -/
def Loop.unrun : Loop μ → List (LocMsg μ)
| .received m => [m]
| _ => []

/- The message that a step runs. -/
def runs
    (s : State A μ) : Input A μ → List (LocMsg μ)
| .loop => s.loop.unrun
| _ => []

/-
  A step after which the messages still to run are those
  before it, without the one that it runs and with the one
  that it takes behind them. A loop that exits runs none.
-/
structure Passage
    (s : State A μ)
    (queued : List (LocMsg μ))
    (i : Input A μ)
    (s' : State A μ)
    (queued' : List (LocMsg μ)) : Prop where
  holds : Holds s' queued'
  line :
    s'.loop ≠ .exited →
      (s.loop.unrun ++ queued) ++ taken s i =
        runs s i ++ (s'.loop.unrun ++ queued')
  stays : s.loop = .exited → s'.loop = .exited

/- A step of the queue that the loop has no part in. -/
theorem passage_of_queue
    {s : State A μ}
    {queued queued' : List (LocMsg μ)}
    (hs : Holds s queued)
    {i : Input A μ}
    {q q' : Queue A μ}
    (hQueue : s.mQ = some q)
    {s' : State A μ}
    (hQueue' : s'.mQ = some q')
    (hLoop : s'.loop = s.loop)
    {cells : List (A × LinkedList.Obj (LocMsg μ) Dealloc)}
    (hCells : LinkedList.Represents q'.msg_list cells)
    (hQueued :
      (cells.map Prod.snd).reverse = queued'.map object)
    (hTaken : queued' = queued ++ taken s i)
    (hRuns : runs s i = []) :
    Passage s queued i s' queued' where
  holds :=
    holds_of_queue hQueue'
      (hLoop ▸ hs.loop_ne_exited hQueue) hCells hQueued
  line := by
    intro _
    rw [hRuns, hLoop, hTaken, List.nil_append,
      List.append_assoc]
  stays := fun hExited => hLoop.trans hExited

variable [DecidableEq A]

theorem passage_sendMsg
    {s : State A μ}
    {queued : List (LocMsg μ)}
    (hs : Holds s queued)
    {q : Queue A μ}
    (hQueue : s.mQ = some q)
    {elem : Option A}
    (hFresh :
      ∀ a, elem = some a → q.msg_list.heap a = none)
    (msg : μ) :
    ∃ s' queued' out,
      exec s (.sendMsg elem msg) = some (s', out) ∧
        Passage s queued (.sendMsg elem msg) s' queued' := by
  rcases hs.queue q hQueue with ⟨cells, hCells, hQueued⟩
  by_cases hTakes : takes s elem = true
  · have hBoth : elem.isSome = true ∧ q.unblocked = false := by
      simpa [takes, hQueue] using hTakes
    rcases Option.isSome_iff_exists.mp hBoth.1 with ⟨a, rfl⟩
    rcases snd_taken hCells hBoth.2 (hFresh a rfl)
      ⟨s.sends, msg⟩ with ⟨q', hExec, hAfter⟩
    refine
      ⟨{ s with mQ := some q', sends := s.sends + 1 },
        queued ++ [⟨s.sends, msg⟩], [.q (.snd .success)],
        ?_,
        passage_of_queue hs hQueue rfl rfl hAfter ?_ ?_ rfl⟩
    · simp only [exec, hQueue, Option.bind_eq_bind,
        Option.bind_some, hExec]
      rfl
    · simp [hQueued]
    · rw [taken, if_pos hTakes]
  · have hRefused : q.unblocked = true ∨ elem = none := by
      by_contra hNeither
      push Not at hNeither
      apply hTakes
      simp [takes, hQueue, hNeither,
        Option.isSome_iff_ne_none]
    rcases snd_refused hRefused ⟨s.sends, msg⟩ with
      ⟨rv, hExec⟩
    refine
      ⟨{ s with mQ := some q, sends := s.sends + 1 },
        queued, [.q (.snd rv)], ?_,
        passage_of_queue hs hQueue rfl rfl hCells hQueued ?_
          rfl⟩
    · simp only [exec, hQueue, Option.bind_eq_bind,
        Option.bind_some, hExec]
      rfl
    · rw [taken, if_neg hTakes, List.append_nil]

theorem passage_unblock
    {s : State A μ}
    {queued : List (LocMsg μ)}
    (hs : Holds s queued)
    {q : Queue A μ}
    (hQueue : s.mQ = some q) :
    ∃ s' queued' out,
      exec s .unblock = some (s', out) ∧
        Passage s queued .unblock s' queued' := by
  rcases hs.queue q hQueue with ⟨cells, hCells, hQueued⟩
  have hExec :
      ∃ q' rv,
        MsgQ.exec q .unblock = some (q', [.unblock rv]) ∧
          q'.msg_list = q.msg_list := by
    by_cases hUnblocked : q.unblocked = true
    · exact ⟨q, _, if_pos hUnblocked, rfl⟩
    · exact ⟨_, _, if_neg hUnblocked, rfl⟩
  rcases hExec with ⟨q', rv, hExec, hList⟩
  refine
    ⟨{ s with mQ := some q' }, queued, [.q (.unblock rv)],
      ?_,
      passage_of_queue hs hQueue rfl rfl (hList ▸ hCells)
        hQueued (List.append_nil _).symm rfl⟩
  simp only [exec, hQueue, Option.bind_eq_bind,
    Option.bind_some, hExec]
  rfl

theorem passage_listening
    {s : State A μ}
    {queued : List (LocMsg μ)}
    (hs : Holds s queued)
    (hLoop : s.loop = .listening) :
    ∃ s' queued' out,
      exec s .loop = some (s', out) ∧
        Passage s queued .loop s' queued' := by
  have hThere : s.loop ≠ .exited := by simp [hLoop]
  rcases hs.exists_queue hThere with ⟨q, hq⟩
  rcases hs.queue q hq with ⟨cells, hCells, hQueued⟩
  have hExec :
      ∀ q' out,
        MsgQ.exec q
            (if q.waiting () then .wake () else .rcv ()) =
          some (q', out) →
        exec s .loop =
          some
            ({ s with mQ := some q', loop := Loop.after out },
              out.map .q) := by
    intro q' out hEq
    simp only [exec, loopMain, hLoop, hq, Option.bind_eq_bind,
      Option.bind_some, hEq]
  have hStill
      {q' : Queue A μ}
      {loop : Loop μ}
      (hList : q'.msg_list = q.msg_list)
      (hGoes : loop ≠ .exited)
      (hNone : loop.unrun = []) :
      Passage s queued .loop
        { s with mQ := some q', loop := loop } queued := by
    refine
      ⟨holds_of_queue rfl hGoes (hList ▸ hCells) hQueued,
        ?_, fun hExited => absurd hExited hThere⟩
    intro _
    change
      (s.loop.unrun ++ queued) ++ [] =
        s.loop.unrun ++ (loop.unrun ++ queued)
    rw [hNone, List.append_nil, List.nil_append]
  cases receives_exec hCells with
  | waits q' hEq hList =>
      exact
        ⟨_, queued, _, hExec q' _ hEq,
          hStill hList (by simp [Loop.after]) rfl⟩
  | fails q' hEq hList =>
      exact
        ⟨_, queued, _, hExec q' _ hEq,
          hStill hList (by simp [Loop.after]) rfl⟩
  | gets q' front c hSplit hEq hAfter =>
      subst hSplit
      rcases queued_of_concat hQueued with
        ⟨m, rest, rfl, hc, hRest⟩
      have hMsg : c.2.1 = m := congrArg Prod.fst hc
      rw [hMsg] at hEq
      refine
        ⟨_, rest, _, hExec q' _ hEq,
          holds_of_queue rfl (by simp [Loop.after]) hAfter
            hRest,
          ?_, fun hExited => absurd hExited hThere⟩
      intro _
      simp [runs, taken, hLoop, Loop.unrun, Loop.after]

/- A step of the loop between two uses of the queue. -/
theorem passage_of_same
    {s : State A μ}
    {queued : List (LocMsg μ)}
    (hs : Holds s queued)
    (loop : Loop μ)
    (out : List (Output μ))
    (hExec : exec s .loop = some ({ s with loop := loop }, out))
    (hStays : loop = .exited ↔ s.loop = .exited)
    (hNone : loop.unrun = []) :
    ∃ s' queued' out,
      exec s .loop = some (s', out) ∧
        Passage s queued .loop s' queued' := by
  refine
    ⟨{ s with loop := loop }, queued, out, hExec,
      ⟨hs.queue, hs.freed.trans hStays.symm, hs.empty⟩, ?_,
      hStays.mpr⟩
  intro _
  rw [hNone]
  exact List.append_nil _

theorem passage_loop
    {s : State A μ}
    {queued : List (LocMsg μ)}
    (hs : Holds s queued) :
    ∃ s' queued' out,
      exec s .loop = some (s', out) ∧
        Passage s queued .loop s' queued' := by
  cases hLoop : s.loop with
  | listening => exact passage_listening hs hLoop
  | received m =>
      apply passage_of_same hs (.ran m) [.proc m]
      · simp [exec, loopMain, hLoop]
      · simp [hLoop]
      · rfl
  | ran m =>
      apply passage_of_same hs .listening [.delete m]
      · simp [exec, loopMain, hLoop]
      · simp [hLoop]
      · rfl
  | failed =>
      rcases turn_failed hs hLoop with
        ⟨s', queued', out, hTurn⟩
      have hExited : s'.loop = .exited := by
        have hThere : s.loop ≠ .exited := by simp [hLoop]
        rcases hs.exists_queue hThere with ⟨q, hq⟩
        have hExec := hTurn.exec
        simp only [exec, loopMain, hLoop, hq,
          Option.bind_eq_bind, Option.bind_some,
          Option.bind_eq_some_iff] at hExec
        rcases hExec with ⟨out', -, hEq⟩
        cases hEq
        rfl
      exact
        ⟨s', queued', out, hTurn.exec, hTurn.holds,
          fun hGoes => absurd hExited hGoes,
          fun _ => hExited⟩
  | exited =>
      have hExec : exec s .loop = some (s, []) := by
        simp only [exec, loopMain, hLoop]
      apply passage_of_same hs .exited []
      · rw [hExec, ← hLoop]
      · simp [hLoop]
      · rfl

/- Every legal step is a passage. -/
theorem passage
    {s : State A μ}
    {queued : List (LocMsg μ)}
    (hs : Holds s queued)
    (i : Input A μ)
    (hLegal :
      legal ((system A μ).event (some s) i) = true) :
    ∃ s' queued',
      ((system A μ).step (some s) i).1 = some s' ∧
        Passage s queued i s' queued' := by
  have hAll :
      ∃ s' queued' out,
        exec s i = some (s', out) ∧
          Passage s queued i s' queued' := by
    cases i with
    | sendMsg elem msg =>
        have hBoth :
            s.mQ.any
                (fun q =>
                  elem.all
                    fun a => (q.msg_list.heap a).isNone) =
              true :=
          hLegal
        rcases Option.any_eq_true _ _ |>.mp hBoth with
          ⟨q, hq, hFresh⟩
        apply passage_sendMsg hs hq
        intro a ha
        subst ha
        exact Option.isNone_iff_eq_none.mp hFresh
    | unblock =>
        have hSome : s.mQ.isSome = true := hLegal
        rcases Option.isSome_iff_exists.mp hSome with ⟨q, hq⟩
        exact passage_unblock hs hq
    | loop => exact passage_loop hs
  rcases hAll with ⟨s', queued', out, hExec, hPassage⟩
  refine ⟨s', queued', ?_, hPassage⟩
  have hEvent := event_of_exec hExec
  exact congrArg Transducer.Event.after hEvent

end MsgTask

end D2Common

------------------------------------------------------------
-- A Program And Its Task
------------------------------------------------------------

namespace D2Common

namespace MsgTask

namespace Serving

/-
  The task, whose messages carry the thread that sends them,
  the program, and what each thread has still to send. The
  thread of the loop is `none`.
-/
structure State (A T σ μ : Type) where
  task : Option (MsgTask.State A (Option T × μ))
  actor : σ
  outbox : Option T → List μ

/-
  A thread calls the program, or goes on to its next
  `sendMsg`, for which `elem` is what `malloc` returns; the
  destructor; a step of the loop.
-/
inductive Input (A T ι : Type) where
  | call (t : T) (i : ι)
  | send (w : Option T) (elem : Option A)
  | unblock
  | loop

/- What the program and its threads do, and the task. -/
inductive Output (T ι μ ω : Type) where
  | act (a : Mailbox.Act T ι μ ω)
  | task (o : MsgTask.Output (Option T × μ))

variable {A T σ ι μ ω : Type} [DecidableEq A] [DecidableEq T]

/- The task takes a step; the program does something. -/
def State.moved
    (s : State A T σ μ)
    (i : MsgTask.Input A (Option T × μ))
    (actor : σ)
    (outbox : Option T → List μ)
    (acts : List (Mailbox.Act T ι μ ω)) :
    State A T σ μ × List (Output T ι μ ω) :=
  let r := (MsgTask.system A (Option T × μ)).step s.task i
  (⟨r.1, actor, outbox⟩, acts.map .act ++ r.2.map .task)

/- The message that the loop runs when it goes on. -/
def running
    (task : Option (MsgTask.State A (Option T × μ))) :
    Option (Option T × μ) :=
  task.bind fun s => s.loop.unrun.head?.map LocMsg.msg

/-
  One step. A thread that has still to send is in the middle
  of its call, and so is the loop.
-/
def step
    (p : Program σ ι μ ω)
    (s : State A T σ μ) :
    Input A T ι → State A T σ μ × List (Output T ι μ ω)
| .call t i =>
    if (s.outbox (some t)).isEmpty then
      let r := p.machine.step s.actor i
      ({ s with
          actor := r.1
          outbox :=
            Function.update s.outbox (some t)
              (r.2.filterMap p.sends) },
        [.act (.called t i r.2)])
    else (s, [])
| .send w elem =>
    match s.outbox w with
    | [] => (s, [])
    | m :: rest =>
        s.moved (.sendMsg elem (w, m)) s.actor
          (Function.update s.outbox w rest)
          [.passed w m (s.task.any (takes · elem))]
| .unblock => s.moved .unblock s.actor s.outbox []
| .loop =>
    if (s.outbox none).isEmpty then
      match running s.task with
      | none => s.moved .loop s.actor s.outbox []
      | some (w, m) =>
          let r := p.machine.step s.actor (p.proc m)
          s.moved .loop r.1
            (Function.update s.outbox none
              (r.2.filterMap p.sends))
            [.handled w m r.2]
    else (s, [])

/- The program and its task before any call. -/
def system
    (A T : Type)
    [DecidableEq A]
    [DecidableEq T]
    (p : Program σ ι μ ω) :
    Transducer (State A T σ μ) (Input A T ι)
      (Output T ι μ ω) where
  init :=
    ⟨(MsgTask.system A (Option T × μ)).init,
      p.machine.init, fun _ => []⟩
  step := step p

/- One step of a run. -/
abbrev Event (A T σ ι μ ω : Type) :=
  Transducer.Event (State A T σ μ) (Input A T ι)
    (Output T ι μ ω)

/- What the task does at a step, if anything. -/
def tasked
    (s : State A T σ μ) :
    Input A T ι → Option (MsgTask.Input A (Option T × μ))
| .call _ _ => none
| .send w elem =>
    (s.outbox w).head?.map fun m => .sendMsg elem (w, m)
| .unblock => some .unblock
| .loop => if (s.outbox none).isEmpty then some .loop else none

/- What is given of a step of the task, if it takes one. -/
def legal (e : Event A T σ ι μ ω) : Bool :=
  (tasked e.before e.input).all fun i =>
    MsgTask.legal
      ((MsgTask.system A (Option T × μ)).event e.before.task i)

/- What the program and its threads do. -/
def Output.act? :
    Output T ι μ ω → Option (Mailbox.Act T ι μ ω)
| .act a => some a
| .task _ => none

/- All that the program and its threads have done. -/
def acts
    (h : List (Event A T σ ι μ ω)) :
    List (Mailbox.Act T ι μ ω) :=
  Transducer.heard Output.act? h

/-
  The queue and the loop present a mailbox: it holds what
  the loop has still to run. What is left when the loop has
  exited is never run.
-/
structure Presents
    (s : State A T σ μ)
    (t : Mailbox.State T σ μ) : Prop where
  actor : s.actor = t.actor
  outbox : s.outbox = t.outbox
  task :
    ∃ r queued,
      s.task = some r ∧ Holds r queued ∧
        (r.loop ≠ .exited →
          t.box = (r.loop.unrun ++ queued).map LocMsg.msg)

end Serving

end MsgTask

end D2Common

------------------------------------------------------------
-- The Task Presents A Mailbox
------------------------------------------------------------

namespace D2Common

namespace MsgTask

namespace Serving

variable {A T σ ι μ ω : Type} [DecidableEq A] [DecidableEq T]
variable {p : Program σ ι μ ω}
variable {s : State A T σ μ}
variable {t : Mailbox.State T σ μ}

omit [DecidableEq A] [DecidableEq T] in
/- What is heard of a step is what the program does. -/
theorem heard_moved
    (acts : List (Mailbox.Act T ι μ ω))
    (out : List (MsgTask.Output (Option T × μ))) :
    (acts.map Output.act ++ out.map Output.task).filterMap
        Output.act? =
      acts := by
  rw [List.filterMap_append, List.filterMap_map,
    List.filterMap_map]
  have hTask :
      out.filterMap
          (Output.act? (ι := ι) (ω := ω) ∘ Output.task) =
        [] := by
    apply List.filterMap_eq_nil_iff.mpr
    intro o _
    rfl
  rw [hTask, List.append_nil]
  exact List.filterMap_some

theorem legal_of_tasked
    {i : Input A T ι}
    (hLegal : legal ((system A T p).event s i) = true)
    {j : MsgTask.Input A (Option T × μ)}
    (hTasked : tasked s i = some j) :
    MsgTask.legal
        ((MsgTask.system A (Option T × μ)).event s.task j) =
      true := by
  have hAll :
      (tasked s i).all
          (fun j =>
            MsgTask.legal
              ((MsgTask.system A (Option T × μ)).event
                s.task j)) =
        true :=
    hLegal
  rw [hTasked] at hAll
  exact hAll

/-
  A step of the task: what the mailbox holds changes as the
  line of messages does.
-/
omit [DecidableEq T] in
theorem presents_moved
    (hPresents : Presents s t)
    {i : MsgTask.Input A (Option T × μ)}
    (hLegal :
      MsgTask.legal
        ((MsgTask.system A (Option T × μ)).event s.task i) =
          true)
    (t' : Mailbox.State T σ μ)
    (acts : List (Mailbox.Act T ι μ ω))
    (hBox :
      ∀ r ∈ s.task,
        r.loop ≠ .exited →
          t.box ++ (taken r i).map LocMsg.msg =
            (runs r i).map LocMsg.msg ++ t'.box) :
    Presents (s.moved i t'.actor t'.outbox acts).1 t' := by
  rcases hPresents.task with ⟨r, queued, hTask, hHolds, hLine⟩
  rw [hTask] at hLegal
  rcases passage hHolds i hLegal with
    ⟨r', queued', hStep, hPassage⟩
  refine ⟨rfl, rfl, r', queued', ?_, hPassage.holds, ?_⟩
  · simp only [State.moved, hTask]
    exact hStep
  · intro hGoes
    have hWent : r.loop ≠ .exited :=
      fun hExited => hGoes (hPassage.stays hExited)
    have hMoved := hBox r hTask hWent
    rw [hLine hWent, ← List.map_append,
      hPassage.line hGoes, List.map_append] at hMoved
    exact (List.append_cancel_left hMoved).symm

theorem refines
    (p : Program σ ι μ ω) :
    Transducer.Refines (system A T p) (Mailbox.system T p)
      Presents Output.act? some
      (fun e => legal e = true) where
  init := by
    refine
      ⟨rfl, rfl,
        ⟨some MsgQ.State.init, .listening, 0⟩, [], rfl,
        ⟨?_, ?_, ?_⟩, fun _ => rfl⟩
    · intro q hq
      cases hq
      exact ⟨[], LinkedList.represents_init, rfl⟩
    · simp
    · simp
  step := by
    intro s t i hPresents hLegal
    have hStill :
        ∃ js,
          Presents s ((Mailbox.system T p).runFrom t js) ∧
            [] =
              (Mailbox.system T p).saidFrom some t js :=
      ⟨[], hPresents, rfl⟩
    cases i with
    | call u i =>
        simp only [system, step]
        split
        · next hIdle =>
            refine ⟨[.call u i], ?_, ?_⟩
            all_goals
              rw [hPresents.outbox] at hIdle
              simp only [Transducer.runFrom,
                Transducer.saidFrom_cons,
                Transducer.saidFrom_nil, Mailbox.system,
                Mailbox.step, if_pos hIdle]
            · refine ⟨?_, ?_, hPresents.task⟩
              · rw [hPresents.actor]
                rfl
              · rw [hPresents.actor, hPresents.outbox]
                rfl
            · rw [hPresents.actor]
              rfl
        · exact hStill
    | send w elem =>
        simp only [system, step]
        split
        · exact hStill
        · next m rest hOutbox =>
            have hMoves :=
              legal_of_tasked (j := .sendMsg elem (w, m))
                hLegal (by simp [tasked, hOutbox])
            refine
              ⟨[.pass w (s.task.any (takes · elem))], ?_, ?_⟩
            all_goals
              have hPass := hOutbox
              rw [hPresents.outbox] at hPass
              simp only [Transducer.runFrom,
                Transducer.saidFrom_cons,
                Transducer.saidFrom_nil, Mailbox.system,
                Mailbox.step, hPass]
            · rw [hPresents.actor, hPresents.outbox]
              refine
                presents_moved hPresents hMoves
                  { t with
                    box :=
                      if s.task.any (takes · elem) then
                        t.box ++ [(w, m)] else t.box
                    outbox :=
                      Function.update t.outbox w rest }
                  _ ?_
              intro r hTask _
              rw [Option.mem_def.mp hTask]
              simp only [taken, runs, Option.any_some]
              split <;> simp
            · exact heard_moved _ _
    | unblock =>
        refine ⟨[], ?_, heard_moved [] _⟩
        simp only [system, step]
        rw [hPresents.actor, hPresents.outbox]
        refine
          presents_moved hPresents
            (legal_of_tasked hLegal rfl) t [] ?_
        intro r _ _
        exact List.append_nil _
    | loop =>
        simp only [system, step]
        split
        · next hIdle =>
            have hMoves :=
              legal_of_tasked hLegal (if_pos hIdle)
            rcases hPresents.task with
              ⟨r, queued, hTask, hHolds, hLine⟩
            split
            · next hRunning =>
                refine ⟨[], ?_, heard_moved [] _⟩
                rw [hPresents.actor, hPresents.outbox]
                refine presents_moved hPresents hMoves t [] ?_
                intro r' hTask' _
                rw [hTask] at hTask'
                cases hTask'
                have hNone : r.loop.unrun = [] := by
                  simpa [running, hTask] using hRunning
                simp [taken, runs, hNone]
            · next w m hRunning =>
                have hUnrun :
                    ∃ n, r.loop = .received n ∧
                      n.msg = (w, m) := by
                  cases hLoop : r.loop <;>
                    simp [running, hTask, Loop.unrun,
                      hLoop] at hRunning
                  exact ⟨_, rfl, hRunning⟩
                rcases hUnrun with ⟨n, hLoop, hMsg⟩
                have hBox :
                    t.box =
                      (w, m) :: queued.map LocMsg.msg := by
                  rw [hLine (by simp [hLoop]), hLoop, ← hMsg]
                  rfl
                refine ⟨[.handle], ?_, ?_⟩
                all_goals
                  rw [hPresents.outbox] at hIdle
                  simp only [Transducer.runFrom,
                    Transducer.saidFrom_cons,
                    Transducer.saidFrom_nil, Mailbox.system,
                    Mailbox.step, if_pos hIdle, hBox]
                · rw [hPresents.actor, hPresents.outbox]
                  refine
                    presents_moved hPresents hMoves
                      (Mailbox.State.called p
                        { t with
                          box := queued.map LocMsg.msg }
                        none (p.proc m))
                      _ ?_
                  intro r' hTask' _
                  rw [hTask] at hTask'
                  cases hTask'
                  simp [taken, runs, hLoop, Loop.unrun, hMsg,
                    hBox, Mailbox.State.called]
                · rw [hPresents.actor]
                  exact heard_moved _ _
        · exact hStill

end Serving

end MsgTask

end D2Common

------------------------------------------------------------
-- All Runs
------------------------------------------------------------

namespace D2Common

namespace MsgTask

namespace Serving

variable {A T σ ι μ ω : Type} [DecidableEq A] [DecidableEq T]

/-
  In every interleaving of the threads, the loop and the
  destructor, the program is called as if by one caller, one
  call after the other. The messages that are handled are
  those that the queue has taken, oldest first, without the
  ones that are still in the queue or in the hand of the
  loop. Every thread, the loop included, sends what its
  calls tell it to send in the order of telling, and leaves
  out only what it has still to send.
-/
theorem handled_in_order
    (p : Program σ ι μ ω)
    (is : List (Input A T ι))
    (hLegal :
      History.Along (fun _ e => legal e = true)
        ((system A T p).history is)) :
    ∃ waiting,
      Mailbox.Orderly p (acts ((system A T p).history is))
          ((system A T p).run is).actor waiting
          ((system A T p).run is).outbox ∧
        ∃ r queued,
          ((system A T p).run is).task = some r ∧
            Holds r queued ∧
              (r.loop ≠ .exited →
                waiting =
                  (r.loop.unrun ++ queued).map
                    LocMsg.msg) := by
  rcases (refines (A := A) (T := T) p).run is hLegal with
    ⟨js, hPresents, hActs⟩
  have hOrderly := Mailbox.orderly_run (T := T) p js
  rw [← hActs, ← hPresents.actor,
    ← hPresents.outbox] at hOrderly
  exact ⟨_, hOrderly, hPresents.task⟩

/-
  Nothing is in the queue or in the hand of the loop, and
  no thread has anything to send.
-/
structure Drained (s : State A T σ μ) : Prop where
  task :
    ∃ r q,
      s.task = some r ∧ r.mQ = some q ∧
        q.msg_list.empty = true ∧ r.loop.unrun = []
  outbox : ∀ w, s.outbox w = []

/- The part that can be looked at in one state. -/
def State.idleTask (s : State A T σ μ) : Bool :=
  s.task.any fun r =>
    r.mQ.any (fun q => q.msg_list.empty) &&
      r.loop.unrun.isEmpty

omit [DecidableEq A] [DecidableEq T] in
theorem drained_of_idleTask
    {s : State A T σ μ}
    (hIdle : s.idleTask = true)
    (hOutbox : ∀ w, s.outbox w = []) :
    Drained s where
  task := by
    unfold State.idleTask at hIdle
    cases hTask : s.task with
    | none =>
        rw [hTask] at hIdle
        cases hIdle
    | some r =>
        simp only [hTask, Option.any_some, Bool.and_eq_true,
          List.isEmpty_iff, Option.any_eq_true] at hIdle
        rcases hIdle with ⟨⟨q, hQueue, hEmpty⟩, hUnrun⟩
        exact ⟨r, q, rfl, hQueue, hEmpty, hUnrun⟩
  outbox := hOutbox

omit [DecidableEq A] [DecidableEq T] in
/- Then the mailbox that is presented is idle. -/
theorem idle_of_drained
    {s : State A T σ μ}
    {t : Mailbox.State T σ μ}
    (hPresents : Presents s t)
    (hDrained : Drained s) :
    t.box = [] ∧ ∀ w, t.outbox w = [] := by
  constructor
  · rcases hDrained.task with
      ⟨r, q, hTask, hQueue, hEmpty, hUnrun⟩
    rcases hPresents.task with
      ⟨r', queued, hTask', hHolds, hBox⟩
    rw [hTask] at hTask'
    cases hTask'
    rcases hHolds.queue q hQueue with ⟨cells, hCells, hQueued⟩
    rw [LinkedList.empty_eq hCells,
      List.isEmpty_iff] at hEmpty
    subst hEmpty
    have hNone : queued = [] :=
      List.map_eq_nil_iff.mp hQueued.symm
    rw [hBox (hHolds.loop_ne_exited hQueue), hUnrun, hNone]
    rfl
  · intro w
    rw [← hPresents.outbox]
    exact hDrained.outbox w

/- A thread has called what it was an input to call. -/
theorem call_mem_of_called
    {p : Program σ ι μ ω}
    {is : List (Input A T ι)}
    {t : T}
    {i : ι}
    {out : List ω}
    (hMem :
      .called t i out ∈ acts ((system A T p).history is)) :
    .call t i ∈ is := by
  rcases List.mem_flatMap.mp hMem with ⟨e, hEvent, hAct⟩
  have hInput := Transducer.input_mem_of_mem hEvent
  rw [Transducer.output_of_mem hEvent] at hAct
  rcases e with ⟨s, j, out', s'⟩
  have hStep :
      (.called t i out : Mailbox.Act T ι μ ω) ∈
        (step p s j).2.filterMap Output.act? :=
    hAct
  cases j with
  | call u j =>
      simp only [step] at hStep
      split at hStep
      · cases List.mem_singleton.mp hStep
        exact hInput
      · cases hStep
  | send w elem =>
      simp only [step] at hStep
      split at hStep
      · cases hStep
      · simp only [State.moved, heard_moved] at hStep
        cases List.mem_singleton.mp hStep
  | unblock =>
      simp only [step, State.moved, heard_moved] at hStep
      cases hStep
  | loop =>
      simp only [step] at hStep
      split at hStep
      · split at hStep
        · simp only [State.moved, heard_moved] at hStep
          cases hStep
        · simp only [State.moved, heard_moved] at hStep
          cases List.mem_singleton.mp hStep
      · cases hStep

/- A program that counts down, and sends what is left. -/
def countdown : Program Nat Nat Nat Nat where
  machine :=
    { init := 0
      step := fun s i =>
        (s + 1, if i = 0 then [] else [i - 1]) }
  proc := id
  sends := some

/- A caller starts it, and the loop goes on with it. -/
def countdownRun : List (Input Nat Unit Nat) :=
  [.call () 1, .send (some ()) (some 0), .loop, .loop, .loop,
    .loop]

theorem handled_in_order_countdown :
    ∃ waiting,
      Mailbox.Orderly countdown
          (acts
            ((system Nat Unit countdown).history countdownRun))
          ((system Nat Unit countdown).run countdownRun).actor
          waiting
          ((system Nat Unit countdown).run
            countdownRun).outbox ∧
        ∃ r queued,
          ((system Nat Unit countdown).run
              countdownRun).task = some r ∧
            Holds r queued ∧
              (r.loop ≠ .exited →
                waiting =
                  (r.loop.unrun ++ queued).map
                    LocMsg.msg) :=
  handled_in_order countdown countdownRun (by decide)

end Serving

end MsgTask

end D2Common
