import D2Common.Foundations.Transducer
import D2Common.DmnConn.Framing

/-
  The loop of the server thread.

  `thelper_main` calls the procedure of the thread until
  `thread_exit` is set, and sets it when a call is negative.
  The procedure of the server is negative when a receive
  fails, and logs that it will be tried again.

  Over a pipe of complete frames a receive fails exactly for
  a frame that is larger than the buffer.

  Key definitions include:
    * `thelperMain`
    * `Serves`

  Key theorems include:
    * `turn_of_le`
    * `turn_of_lt`
    * `serves_iff`
-/

------------------------------------------------------------
-- The Loop
------------------------------------------------------------

namespace D2Common

namespace DmnConn

variable {η σ : Type}

/- The flag of the loop, and what its calls work on. -/
structure Thelper (σ : Type) where
  thread_exit : UInt8
  context : σ

/-
  The loop of `thelper_main`, turn by turn. An input is what
  the environment gives to the call, and the output is how
  the call has ended.
-/
def thelperMain
    (thread_proc : Mem → σ → Outcome η × σ)
    (context : σ) :
    Transducer (Thelper σ) Mem (Outcome η) where
  init := ⟨0, context⟩
  step t mem :=
    if t.thread_exit ≠ 0 then
      (t, [])
    else
      match thread_proc mem t.context with
      | (.crashed, context) =>
          -- no thread is left
          (⟨1, context⟩, [.crashed])
      | (.returned result sent, context) =>
          (⟨if result < 0 then 1 else t.thread_exit, context⟩,
            [.returned result sent])

/-
  The server thread over a pipe, with a buffer from `malloc`
  for every turn.
-/
def serverThread
    (abi : Abi)
    (loc_api_handle : Option η)
    (pipe : List UInt8) :
    Transducer (Thelper (List UInt8)) Mem (Outcome η) :=
  thelperMain
    (fun mem =>
      serverProc abi loc_api_handle fifoRead (some mem))
    pipe

end DmnConn

end D2Common

------------------------------------------------------------
-- Turns
------------------------------------------------------------

namespace D2Common

namespace DmnConn

variable {η : Type}
variable {abi : Abi}

/- A frame, and the buffer that it is received into. -/
abbrev Delivery (abi : Abi) := Frame abi × Mem

/- The frames one after the other. -/
def pipeOf
    (ds : List (Delivery abi)) : List UInt8 :=
  ds.flatMap fun d => d.1.bytes

/- The buffer that holds the frame, given to its handler. -/
def dispatched
    (locEng : η)
    (d : Delivery abi) : Outcome η :=
  (dispatch abi (some locEng)
    (Known.patch d.2 0 d.1.bytes)
    (toInt d.1.msgsz.toNat)).ignoreResult

theorem dispatched_eq
    (locEng : η)
    (d : Delivery abi) :
    ∃ sent, dispatched locEng d = .returned 0 sent := by
  unfold dispatched
  rw [dispatch_some]
  exact ⟨_, rfl⟩

/- A frame that fits is dispatched, and the loop goes on. -/
theorem turn_of_le
    (locEng : η)
    {d : Delivery abi}
    (hFits : d.1.msgsz ≤ sizeofBuffer abi)
    (pipe₀ rest : List UInt8) :
    (serverThread abi (some locEng) pipe₀).step
        ⟨0, d.1.bytes ++ rest⟩ d.2 =
      (⟨0, rest⟩, [dispatched locEng d]) := by
  obtain ⟨sent, hDispatched⟩ := dispatched_eq locEng d
  have hProc :
      serverProc abi (some locEng) fifoRead (some d.2)
          (d.1.bytes ++ rest) =
        (dispatched locEng d, rest) := by
    rw [serverProc_frame, frame_fifo_of_le hFits]
    rfl
  simp [serverThread, thelperMain, hProc, hDispatched]

/- A frame that does not fit ends the loop. -/
theorem turn_of_lt
    (locEng : η)
    {d : Delivery abi}
    (hLarge : sizeofBuffer abi < d.1.msgsz)
    (pipe₀ rest : List UInt8) :
    (serverThread abi (some locEng) pipe₀).step
        ⟨0, d.1.bytes ++ rest⟩ d.2 =
      (⟨1, d.1.body ++ rest⟩, [.returned (-1) []]) := by
  have hProc :
      serverProc abi (some locEng) fifoRead (some d.2)
          (d.1.bytes ++ rest) =
        (.returned (-1) [], d.1.body ++ rest) := by
    rw [serverProc_frame, frame_fifo_of_lt hLarge]
  simp [serverThread, thelperMain, hProc]

end DmnConn

end D2Common

------------------------------------------------------------
-- Runs
------------------------------------------------------------

namespace D2Common

namespace DmnConn

variable {η : Type}
variable {abi : Abi}

/- The thread once it has taken a turn for each frame. -/
def threadAfter
    (locEng : η)
    (ds processed : List (Delivery abi)) :
    Thelper (List UInt8) :=
  (serverThread abi (some locEng) (pipeOf ds)).run
    (processed.map Prod.snd)

/-
  After every turn the thread is still in its loop, and what
  the turn has done for a frame that fits is to dispatch it
  with its own contents.
-/
def Serves
    (locEng : η)
    (ds : List (Delivery abi)) : Prop :=
  ∀ before d after,
    ds = before ++ d :: after →
      let turn :=
        (serverThread abi (some locEng) (pipeOf ds)).step
          (threadAfter locEng ds before) d.2
      turn.1.thread_exit = 0 ∧
        (d.1.msgsz ≤ sizeofBuffer abi →
          turn.2 = [dispatched locEng d])

/- Frames that fit are taken from the pipe one by one. -/
theorem threadAfter_of_le
    (locEng : η)
    {ds before : List (Delivery abi)}
    (after : List (Delivery abi))
    (hSplit : ds = before ++ after)
    (hFits : ∀ d ∈ before, d.1.msgsz ≤ sizeofBuffer abi) :
    threadAfter locEng ds before = ⟨0, pipeOf after⟩ := by
  induction before using List.reverseRecOn
    generalizing after with
  | nil =>
      simp [threadAfter, serverThread, thelperMain, hSplit]
  | append_singleton before d ih =>
      have hBefore :=
        ih (d :: after) (by simpa using hSplit)
          (fun d' hMem => hFits d' (by simp [hMem]))
      have hTurn :=
        turn_of_le locEng (hFits d (by simp)) (pipeOf ds)
          (pipeOf after)
      unfold threadAfter at hBefore ⊢
      rw [List.map_append, List.map_singleton,
        Transducer.run_concat, hBefore]
      exact congrArg Prod.fst hTurn

@[simp] theorem pipeOf_cons
    (d : Delivery abi)
    (ds : List (Delivery abi)) :
    pipeOf (d :: ds) = d.1.bytes ++ pipeOf ds := by
  simp [pipeOf]

/-
  The first frame that does not fit would be met by a thread
  that is still in its loop, and would end it.
-/
theorem le_of_serves
    {locEng : η}
    {ds before after : List (Delivery abi)}
    (hServes : Serves locEng ds)
    (hSplit : ds = before ++ after) :
    ∀ d ∈ before, d.1.msgsz ≤ sizeofBuffer abi := by
  induction before using List.reverseRecOn
    generalizing after with
  | nil => simp
  | append_singleton before d ih =>
      have hSplit' : ds = before ++ d :: after := by
        simpa using hSplit
      have hBefore := ih hSplit'
      have hLast : d.1.msgsz ≤ sizeofBuffer abi := by
        by_contra hNot
        have hLarge := BitVec.not_le.mp hNot
        have hExit := (hServes before d after hSplit').1
        rw [threadAfter_of_le locEng _ hSplit' hBefore,
          pipeOf_cons, turn_of_lt locEng hLarge] at hExit
        have hOne : (1 : UInt8) = 0 := hExit
        exact absurd hOne (by decide)
      intro d' hMem
      rcases List.mem_append.mp hMem with hMem | hMem
      · exact hBefore d' hMem
      · exact List.mem_singleton.mp hMem ▸ hLast

/-
  The thread survives its clients, and serves them, exactly
  when no frame is larger than the buffer.
-/
theorem serves_iff
    (locEng : η)
    (ds : List (Delivery abi)) :
    Serves locEng ds ↔
      ∀ d ∈ ds, d.1.msgsz ≤ sizeofBuffer abi := by
  constructor
  · intro hServes
    exact le_of_serves hServes (List.append_nil ds).symm
  · intro hFits before d after hSplit
    have hBefore :=
      threadAfter_of_le locEng (d :: after) hSplit
        (fun d' hMem => hFits d' (by simp [hSplit, hMem]))
    have hTurn :=
      turn_of_le locEng
        (hFits d (by simp [hSplit])) (pipeOf ds)
        (pipeOf after)
    rw [hBefore, pipeOf_cons, hTurn]
    exact ⟨rfl, fun _ => rfl⟩

/- A frame of one byte more than the buffer, of zeros. -/
def largeFrame : Frame .ilp32 where
  msgsz := sizeofBuffer .ilp32 + 1
  body :=
    List.replicate ((sizeofBuffer .ilp32).toNat - 3) 0
  whole := by
    rw [List.length_replicate]
    decide

/- A client that sends it ends the thread. -/
theorem largeFrame_ends_thread :
    ¬ Serves () [(largeFrame, fun _ => 0)] := by
  intro hServes
  have hFits :=
    le_of_serves hServes (List.append_nil _).symm
      (largeFrame, fun _ => 0) (by simp)
  revert hFits
  decide

end DmnConn

end D2Common
