import D2Common.DmnConn.Answers

/-
  How the server thread is ended from outside.

  `loc_eng_dmn_conn_loc_api_server_unblock` sets the flag
  that the loop tests after each turn, and then writes a
  message, so that a thread that waits for a message gets
  one. Clients write their frames all the while, and the
  thread may be anywhere in its loop.

  The thread takes at most one message more once the flag is
  set, it never waits at an empty pipe once the call has
  returned, and its own next turn and test end it.

  Key definitions include:
    * `unblockProc`
    * `Shutdown.system`
    * `Shutdown.late`

  Key theorems include:
    * `Shutdown.sound_run`
    * `Shutdown.ended_of_turn`
    * `Shutdown.unblock_ends_thread`
-/

------------------------------------------------------------
-- The Thread And The Caller
------------------------------------------------------------

namespace D2Common

namespace DmnConn

variable {σ : Type}

/- `GPSONE_UNBLOCK`. -/
def gpsoneUnblock : UInt8 := 0xF3

/- `loc_eng_dmn_conn_unblock_proc`, on a stack with `mem`. -/
def unblockProc
    (abi : Abi)
    (write : PipeWrite σ)
    (mem : Mem)
    (pipe : σ) : Int × σ :=
  let r :=
    msgsnd write (stored mem abi.ctrlType [gpsoneUnblock])
      pipe (msgbufSize abi)
  (0, r.2)

namespace Shutdown

/- Where the server thread is in its loop. -/
inductive Place where
  | proc
  | whileTest
  | ended
deriving DecidableEq

/- How far the one call of `unblock` has come. -/
inductive Unblock where
  | notCalled
  | flagSet
  | returned
deriving DecidableEq

structure State where
  thelper : Thelper (List UInt8)
  place : Place
  unblock : Unblock

/-
  Clients write frames. The caller of `unblock` sets the flag
  and writes its message. The thread calls its procedure with
  a buffer from `malloc`, and tests the flag.
-/
inductive Input (abi : Abi) where
  | write (f : Frame abi)
  | unblockThelper
  | unblockProc (mem : Mem)
  | proc (mem : Mem)
  | whileTest

variable {η : Type}

/- The procedure runs when the pipe has a message for it. -/
def State.takes
    (abi : Abi)
    (s : State) : Input abi → Bool
| .proc _ =>
    decide (s.place = .proc) && !s.thelper.context.isEmpty
| _ => false

/- One turn: a call of the procedure and its result. -/
def turn
    (abi : Abi)
    (locEng : η)
    (s : State)
    (mem : Mem) : State × List (η × LocMsg) :=
  match
    serverProc abi (some locEng) fifoRead (some mem)
      s.thelper.context with
  | (.crashed, pipe) =>
      ({ s with thelper := ⟨1, pipe⟩, place := .ended }, [])
  | (.returned result sent, pipe) =>
      ({ s with
          thelper :=
            ⟨if result < 0 then 1 else s.thelper.thread_exit,
              pipe⟩
          place := .whileTest },
        sent)

/- More bytes in the pipe. -/
def State.appended
    (s : State)
    (bytes : List UInt8) : State :=
  { s with
    thelper :=
      { s.thelper with
        context := s.thelper.context ++ bytes } }

def step
    (abi : Abi)
    (locEng : η)
    (s : State) :
    Input abi → State × List (η × LocMsg)
| .write f => (s.appended f.bytes, [])
| .unblockThelper =>
    if s.unblock = .notCalled then
      ({ s with
          thelper := { s.thelper with thread_exit := 1 }
          unblock := .flagSet },
        [])
    else (s, [])
| .unblockProc mem =>
    if s.unblock = .flagSet then
      ({ s with
          thelper :=
            { s.thelper with
              context :=
                (DmnConn.unblockProc abi fifoWrite mem
                  s.thelper.context).2 }
          unblock := .returned },
        [])
    else (s, [])
| .proc mem =>
    if s.takes abi (.proc mem) then turn abi locEng s mem
    else (s, [])
| .whileTest =>
    if s.place = .whileTest then
      ({ s with
          place :=
            if s.thelper.thread_exit = 0 then .proc
            else .ended },
        [])
    else (s, [])

/- The thread once it has been launched. -/
def system
    (abi : Abi)
    (locEng : η) :
    Transducer State (Input abi) (η × LocMsg) where
  init := ⟨⟨0, []⟩, .proc, .notCalled⟩
  step := step abi locEng

abbrev Event
    (abi : Abi)
    (η : Type) :=
  Transducer.Event State (Input abi) (η × LocMsg)

def Input.frame {abi : Abi} : Input abi → Option (Frame abi)
| .write f => some f
| _ => none

variable {abi : Abi}

/- The frames that the clients have written. -/
def written (h : List (Event abi η)) : List (Frame abi) :=
  h.filterMap fun e => e.input.frame

/- A message is taken after the flag has been set. -/
def tookLate (e : Event abi η) : Bool :=
  decide (e.before.unblock ≠ .notCalled) &&
    e.before.takes abi e.input

/- How many messages are taken after that. -/
def late (h : List (Event abi η)) : Nat :=
  h.countP tookLate

end Shutdown

end DmnConn

end D2Common

------------------------------------------------------------
-- Steps
------------------------------------------------------------

namespace D2Common

namespace DmnConn

namespace Shutdown

open Service (Fits bytesOf)

variable {η : Type}
variable {abi : Abi}

/- The message that ends the wait. -/
def unblockFrame
    (abi : Abi)
    (mem : Mem) : Frame abi :=
  frameOf (stored mem abi.ctrlType [gpsoneUnblock])
    (msgbufSize abi) (word_le_msgbufSize abi)

theorem fits_unblockFrame
    (mem : Mem) :
    Fits (unblockFrame abi mem) = true := by
  have hFits : msgbufSize abi ≤ sizeofBuffer abi := by
    cases abi <;> decide
  exact decide_eq_true hFits

theorem unblockProc_fifo
    (mem : Mem)
    (pipe : List UInt8) :
    unblockProc abi fifoWrite mem pipe =
      (0, pipe ++ (unblockFrame abi mem).bytes) := by
  unfold unblockProc
  rw [msgsnd_fifo _ _ _ (word_le_msgbufSize abi)]
  rfl

theorem turn_of_fits
    (locEng : η)
    {s : State}
    {f : Frame abi}
    {fs : List (Frame abi)}
    (hPipe : s.thelper.context = bytesOf (f :: fs))
    (hFits : Fits f = true)
    (mem : Mem) :
    (turn abi locEng s mem).1 =
      { s with
        thelper := ⟨s.thelper.thread_exit, bytesOf fs⟩
        place := .whileTest } := by
  have hFrame :=
    frame_fifo_of_le (of_decide_eq_true hFits) (bytesOf fs)
  have hBytes :
      s.thelper.context = f.bytes ++ bytesOf fs := hPipe
  unfold turn
  rw [hBytes, serverProc_frame, hFrame]
  dsimp only
  rw [dispatch_some]
  rfl

theorem turn_of_large
    (locEng : η)
    {s : State}
    {f : Frame abi}
    {fs : List (Frame abi)}
    (hPipe : s.thelper.context = bytesOf (f :: fs))
    (hLarge : Fits f = false)
    (mem : Mem) :
    (turn abi locEng s mem).1 =
      { s with
        thelper := ⟨1, f.body ++ bytesOf fs⟩
        place := .whileTest } := by
  have hLt : sizeofBuffer abi < f.msgsz :=
    BitVec.not_le.mp (of_decide_eq_false hLarge)
  have hFrame := frame_fifo_of_lt hLt (bytesOf fs)
  have hBytes :
      s.thelper.context = f.bytes ++ bytesOf fs := hPipe
  unfold turn
  rw [hBytes, serverProc_frame, hFrame]
  rfl

end Shutdown

end DmnConn

end D2Common

------------------------------------------------------------
-- What A Run Keeps
------------------------------------------------------------

namespace D2Common

namespace DmnConn

namespace Shutdown

open Service (Fits bytesOf bytes_ne_nil)

variable {η : Type}
variable {abi : Abi}

/- The flag is a number that is not zero. -/
theorem exit_ne_zero : (1 : UInt8) ≠ 0 := by decide

/-
  The pipe holds whole frames as long as the thread may still
  read from it, and one at least once `unblock` has returned.
  The flag is set by the caller, or for a frame that is too
  large, and whoever finds it set takes nothing more.
-/
structure Sound
    (h : List (Event abi η))
    (s : State) : Prop where
  flag : s.unblock ≠ .notCalled → s.thelper.thread_exit ≠ 0
  frames :
    s.place = .proc ∨ s.thelper.thread_exit = 0 →
      ∃ fs, s.thelper.context = bytesOf fs ∧
        ∀ f ∈ fs, f ∈ written h ∨ Fits f = true
  wakes :
    s.place = .proc → s.unblock = .returned →
      s.thelper.context ≠ []
  reason :
    s.thelper.thread_exit ≠ 0 →
      s.unblock ≠ .notCalled ∨
        ∃ f ∈ written h, Fits f = false
  ended : s.place = .ended → s.thelper.thread_exit ≠ 0
  late_le : late h ≤ 1
  late_proc : s.place = .proc → late h = 0
  late_flag : late h ≠ 0 → s.unblock ≠ .notCalled

theorem written_concat
    (h : List (Event abi η))
    (e : Event abi η) :
    written (h ++ [e]) =
      written h ++ e.input.frame.toList := by
  unfold written
  rw [List.filterMap_append]
  cases hFrame : e.input.frame <;> simp [hFrame]

theorem late_concat
    (h : List (Event abi η))
    (e : Event abi η) :
    late (h ++ [e]) =
      late h + if tookLate e then 1 else 0 := by
  rw [late, List.countP_append, List.countP_singleton]
  rfl

theorem mem_written_concat
    {h : List (Event abi η)}
    {f : Frame abi}
    (hMem : f ∈ written h)
    (e : Event abi η) :
    f ∈ written (h ++ [e]) := by
  rw [written_concat]
  exact List.mem_append_left _ hMem

/- A step that takes nothing from the pipe. -/
theorem late_of_not_takes
    (M : Transducer State (Input abi) (η × LocMsg))
    (h : List (Event abi η))
    {s : State}
    {i : Input abi}
    (hTakes : s.takes abi i = false) :
    late (h ++ [M.event s i]) = late h := by
  have hNot : tookLate (M.event s i) = false := by
    simp [tookLate, Transducer.event, hTakes]
  rw [late_concat, hNot]
  rfl

variable {h : List (Event abi η)}
variable {s : State}

/- A pipe to which a frame is added is not empty. -/
theorem appended_ne_nil
    (s : State)
    (f : Frame abi) :
    (s.appended f.bytes).thelper.context ≠ [] := by
  intro hEmpty
  have hSome := bytes_ne_nil f []
  rw [List.append_nil,
    (List.append_eq_nil_iff.mp hEmpty).2] at hSome
  cases hSome

/- What has ended the thread stays written. -/
theorem Sound.reason_concat
    (hSound : Sound h s)
    (e : Event abi η)
    (hExit : s.thelper.thread_exit ≠ 0) :
    s.unblock ≠ .notCalled ∨
      ∃ f ∈ written (h ++ [e]), Fits f = false :=
  (hSound.reason hExit).imp_right fun ⟨f, hf, hLarge⟩ =>
    ⟨f, mem_written_concat hf e, hLarge⟩

/- More frames are written, and the thread stays put. -/
theorem Sound.appended
    (hSound : Sound h s)
    {e : Event abi η}
    (hLate : late (h ++ [e]) = late h)
    {f : Frame abi}
    (hFrame : f ∈ written (h ++ [e]) ∨ Fits f = true) :
    Sound (h ++ [e]) (s.appended f.bytes) where
  flag := hSound.flag
  frames hOpen := by
    rcases hSound.frames hOpen with ⟨fs, hPipe, hFrames⟩
    refine ⟨fs ++ [f], ?_, ?_⟩
    · simp [State.appended, hPipe, bytesOf]
    · intro g hg
      rcases List.mem_append.mp hg with hg | hg
      · exact
          (hFrames g hg).imp_left
            (mem_written_concat · e)
      · rw [List.mem_singleton.mp hg]
        exact hFrame
  wakes _ _ := appended_ne_nil s f
  reason := hSound.reason_concat e
  ended := hSound.ended
  late_le := hLate ▸ hSound.late_le
  late_proc hProc := hLate.trans (hSound.late_proc hProc)
  late_flag hSome := hSound.late_flag (hLate ▸ hSome)

/- A step at which nothing happens. -/
theorem Sound.idle
    (hSound : Sound h s)
    {e : Event abi η}
    (hLate : late (h ++ [e]) = late h) :
    Sound (h ++ [e]) s where
  flag := hSound.flag
  frames hOpen := by
    rcases hSound.frames hOpen with ⟨fs, hPipe, hFrames⟩
    exact
      ⟨fs, hPipe, fun f hf =>
        (hFrames f hf).imp_left (mem_written_concat · e)⟩
  wakes := hSound.wakes
  reason := hSound.reason_concat e
  ended := hSound.ended
  late_le := hLate ▸ hSound.late_le
  late_proc hProc := hLate.trans (hSound.late_proc hProc)
  late_flag hSome := hSound.late_flag (hLate ▸ hSome)

/- The caller sets the flag. -/
theorem Sound.flagSet
    (hSound : Sound h s) :
    Sound h
      { s with
        thelper := { s.thelper with thread_exit := 1 }
        unblock := .flagSet } where
  flag _ := exit_ne_zero
  frames hOpen := by
    rcases hOpen with hProc | hZero
    · exact hSound.frames (Or.inl hProc)
    · cases hZero
  wakes _ hReturned := by cases hReturned
  reason _ := Or.inl (by simp)
  ended _ := exit_ne_zero
  late_le := hSound.late_le
  late_proc := hSound.late_proc
  late_flag _ := by simp

/- The caller has written its message. -/
theorem Sound.returned
    (hSound : Sound h s)
    (hFlag : s.unblock = .flagSet)
    (hSome : s.thelper.context ≠ []) :
    Sound h { s with unblock := .returned } where
  flag _ := hSound.flag (by simp [hFlag])
  frames := hSound.frames
  wakes _ _ := hSome
  reason _ := Or.inl (by simp)
  ended := hSound.ended
  late_le := hSound.late_le
  late_proc := hSound.late_proc
  late_flag _ := by simp

/- The thread tests the flag. -/
theorem Sound.tested
    (hSound : Sound h s) :
    Sound h
      { s with
        place :=
          if s.thelper.thread_exit = 0 then .proc
          else .ended } := by
  by_cases hZero : s.thelper.thread_exit = 0
  · rw [if_pos hZero]
    have hNotCalled : s.unblock = .notCalled := by
      by_contra hCalled
      exact hSound.flag hCalled hZero
    constructor
    · exact hSound.flag
    · exact fun _ => hSound.frames (Or.inr hZero)
    · intro _ hReturned
      rw [hNotCalled] at hReturned
      cases hReturned
    · exact hSound.reason
    · exact fun hEnded => by cases hEnded
    · exact hSound.late_le
    · intro _
      by_contra hLate
      exact hSound.late_flag hLate hNotCalled
    · exact hSound.late_flag
  · rw [if_neg hZero]
    constructor
    · exact hSound.flag
    · intro hOpen
      rcases hOpen with hProc | hExit
      · cases hProc
      · exact absurd hExit hZero
    · exact fun hProc => by cases hProc
    · exact hSound.reason
    · exact fun _ => hZero
    · exact hSound.late_le
    · exact fun hProc => by cases hProc
    · exact hSound.late_flag

/- A message for the thread is the first of whole frames. -/
theorem Sound.front
    (hSound : Sound h s)
    (hProc : s.place = .proc)
    (hSome : s.thelper.context ≠ []) :
    ∃ f fs, s.thelper.context = bytesOf (f :: fs) ∧
      ∀ g ∈ f :: fs, g ∈ written h ∨ Fits g = true := by
  rcases hSound.frames (Or.inl hProc) with
    ⟨fs, hPipe, hFrames⟩
  cases fs with
  | nil => exact absurd hPipe hSome
  | cons f fs => exact ⟨f, fs, hPipe, hFrames⟩

/- The thread takes a message. -/
theorem Sound.turn
    (hSound : Sound h s)
    (locEng : η)
    {mem : Mem}
    (hProc : s.place = .proc)
    (hSome : s.thelper.context ≠ []) :
    Sound
      (h ++ [(system abi locEng).event s (.proc mem)])
      (Shutdown.turn abi locEng s mem).1 := by
  generalize hEvent :
    (system abi locEng).event s (.proc mem) = e
  have hBefore : e.before = s := by
    rw [← hEvent]
    rfl
  have hLate :
      late (h ++ [e]) = if tookLate e then 1 else 0 := by
    rw [late_concat, hSound.late_proc hProc, Nat.zero_add]
  have hLe : late (h ++ [e]) ≤ 1 := by
    rw [hLate]
    split <;> simp
  have hCalled :
      late (h ++ [e]) ≠ 0 → s.unblock ≠ .notCalled := by
    intro hSomeLate
    rw [hLate] at hSomeLate
    split at hSomeLate
    · rename_i hTook
      unfold tookLate at hTook
      rw [Bool.and_eq_true, hBefore] at hTook
      exact of_decide_eq_true hTook.1
    · exact absurd rfl hSomeLate
  rcases hSound.front hProc hSome with
    ⟨f, fs, hPipe, hFrames⟩
  cases hFits : Fits f with
  | true =>
      rw [turn_of_fits locEng hPipe hFits]
      constructor
      · exact hSound.flag
      · intro _
        exact
          ⟨fs, rfl, fun g hg =>
            (hFrames g (List.mem_cons_of_mem _ hg)).imp_left
              (mem_written_concat · e)⟩
      · exact fun h => by cases h
      · exact hSound.reason_concat e
      · exact fun h => by cases h
      · exact hLe
      · exact fun h => by cases h
      · exact hCalled
  | false =>
      rw [turn_of_large locEng hPipe hFits]
      constructor
      · exact fun _ => exit_ne_zero
      · rintro (h | h) <;> cases h
      · exact fun h => by cases h
      · intro _
        right
        refine ⟨f, ?_, hFits⟩
        rcases hFrames f List.mem_cons_self with hf | hf
        · exact mem_written_concat hf e
        · rw [hFits] at hf
          cases hf
      · exact fun h => by cases h
      · exact hLe
      · exact fun h => by cases h
      · exact hCalled

theorem State.takes_proc
    {mem : Mem} :
    s.takes abi (.proc mem) = true ↔
      s.place = .proc ∧ s.thelper.context ≠ [] := by
  simp [State.takes]

theorem sound_step
    (locEng : η)
    (hSound : Sound h s)
    (i : Input abi) :
    Sound (h ++ [(system abi locEng).event s i])
      (step abi locEng s i).1 := by
  have hQuiet
      (hTakes : s.takes abi i = false) :
      late (h ++ [(system abi locEng).event s i]) = late h :=
    late_of_not_takes _ h hTakes
  cases i with
  | write f =>
      apply hSound.appended (hQuiet rfl)
      left
      rw [written_concat]
      exact List.mem_append_right _ List.mem_cons_self
  | unblockThelper =>
      simp only [step]
      split
      · exact (hSound.idle (hQuiet rfl)).flagSet
      · exact hSound.idle (hQuiet rfl)
  | unblockProc mem =>
      simp only [step]
      split
      · rename_i hFlag
        have hAppended :=
          hSound.appended (hQuiet rfl)
            (Or.inr (fits_unblockFrame mem))
        rw [unblockProc_fifo]
        exact
          hAppended.returned hFlag
            (appended_ne_nil s (unblockFrame abi mem))
      · exact hSound.idle (hQuiet rfl)
  | proc mem =>
      simp only [step]
      split
      · rename_i hTakes
        rcases State.takes_proc.mp hTakes with
          ⟨hProc, hSome⟩
        exact hSound.turn locEng hProc hSome
      · rename_i hTakes
        exact
          hSound.idle (hQuiet (Bool.eq_false_iff.mpr hTakes))
  | whileTest =>
      simp only [step]
      split
      · exact (hSound.idle (hQuiet rfl)).tested
      · exact hSound.idle (hQuiet rfl)

theorem sound_init
    (abi : Abi)
    (locEng : η) :
    Sound ([] : List (Event abi η))
      (system abi locEng).init where
  flag hCalled := absurd rfl hCalled
  frames _ := ⟨[], rfl, by simp⟩
  wakes _ hReturned := by cases hReturned
  reason hExit := absurd rfl hExit
  ended hEnded := by cases hEnded
  late_le := by simp [late]
  late_proc _ := rfl
  late_flag hLate := absurd rfl hLate

theorem sound_run
    (abi : Abi)
    (locEng : η)
    (is : List (Input abi)) :
    Sound ((system abi locEng).history is)
      ((system abi locEng).run is) :=
  (system abi locEng).history_induction_of_all
    (sound_init abi locEng)
    (fun _ _ i hSound => sound_step locEng hSound i) is

end Shutdown

end DmnConn

end D2Common

------------------------------------------------------------
-- The End Of The Thread
------------------------------------------------------------

namespace D2Common

namespace DmnConn

namespace Shutdown

open Service (Fits)

variable {η : Type}
variable {abi : Abi}
variable {h : List (Event abi η)}
variable {s : State}

/- The thread has only to test the flag, which is set. -/
structure Closing (s : State) : Prop where
  exit : s.thelper.thread_exit ≠ 0
  place : s.place ≠ .proc

theorem closing_step
    (locEng : η)
    (hClosing : Closing s)
    (i : Input abi) :
    Closing (step abi locEng s i).1 := by
  cases i with
  | write f => exact ⟨hClosing.exit, hClosing.place⟩
  | unblockThelper =>
      simp only [step]
      split
      · exact ⟨exit_ne_zero, hClosing.place⟩
      · exact hClosing
  | unblockProc mem =>
      simp only [step]
      split
      · exact ⟨hClosing.exit, hClosing.place⟩
      · exact hClosing
  | proc mem =>
      simp only [step]
      split
      · rename_i hTakes
        exact
          absurd (State.takes_proc.mp hTakes).1
            hClosing.place
      · exact hClosing
  | whileTest =>
      simp only [step]
      split
      · exact ⟨hClosing.exit, by simp [hClosing.exit]⟩
      · exact hClosing

theorem closing_runFrom
    (locEng : η)
    (hClosing : Closing s)
    (is : List (Input abi)) :
    Closing ((system abi locEng).runFrom s is) := by
  induction is generalizing s with
  | nil => exact hClosing
  | cons i is ih => exact ih (closing_step locEng hClosing i)

theorem ended_of_closing
    (abi : Abi)
    (locEng : η)
    (hClosing : Closing s) :
    (step abi locEng s .whileTest).1.place = .ended := by
  simp only [step]
  split
  · exact if_neg hClosing.exit
  · rename_i hPlace
    cases hAt : s.place with
    | proc => exact absurd hAt hClosing.place
    | whileTest => exact absurd hAt hPlace
    | ended => rfl

/- Once `unblock` has returned, one turn is the last. -/
theorem closing_of_turn
    (locEng : η)
    (hSound : Sound h s)
    (hReturned : s.unblock = .returned)
    (mem : Mem) :
    Closing (step abi locEng s (.proc mem)).1 := by
  have hExit : s.thelper.thread_exit ≠ 0 :=
    hSound.flag (by simp [hReturned])
  simp only [step]
  split
  · rename_i hTakes
    rcases State.takes_proc.mp hTakes with ⟨hProc, hSome⟩
    rcases hSound.front hProc hSome with ⟨f, fs, hPipe, -⟩
    cases hFits : Fits f with
    | true =>
        rw [turn_of_fits locEng hPipe hFits]
        exact ⟨hExit, by simp⟩
    | false =>
        rw [turn_of_large locEng hPipe hFits]
        exact ⟨exit_ne_zero, by simp⟩
  · rename_i hTakes
    refine ⟨hExit, ?_⟩
    intro hProc
    apply hTakes
    exact
      State.takes_proc.mpr
        ⟨hProc, hSound.wakes hProc hReturned⟩

/- Its next turn and its next test end the thread. -/
theorem ended_of_turn
    (locEng : η)
    {is : List (Input abi)}
    (hReturned :
      ((system abi locEng).run is).unblock = .returned)
    (mem : Mem)
    (js : List (Input abi)) :
    ((system abi locEng).run
        (is ++ .proc mem :: js ++ [.whileTest])).place =
      .ended := by
  have hClosing :=
    closing_runFrom locEng
      (closing_of_turn locEng (sound_run abi locEng is)
        hReturned mem)
      js
  have hRun :
      (system abi locEng).run (is ++ .proc mem :: js) =
        (system abi locEng).runFrom
          (step abi locEng ((system abi locEng).run is)
            (.proc mem)).1 js :=
    Transducer.runFrom_append _ _ _ _
  rw [Transducer.run_concat, hRun]
  exact ended_of_closing abi locEng hClosing

/-
  In every interleaving of clients, the server thread and a
  call of `unblock`: when the flag has been set the thread
  takes at most one message more; when the call has returned
  the thread does not wait at an empty pipe, and whatever the
  clients do, its next turn and its next test end it; and it
  ends for nothing else but a frame that its buffer has no
  room for.
-/
theorem unblock_ends_thread
    (abi : Abi)
    (locEng : η)
    (is : List (Input abi)) :
    let M := system abi locEng
    let s := M.run is
    late (M.history is) ≤ 1 ∧
      (s.unblock = .returned →
        (s.place = .proc → s.thelper.context ≠ []) ∧
          ∀ mem js,
            (M.run
                (is ++ .proc mem :: js ++
                  [.whileTest])).place =
              .ended) ∧
      (s.place = .ended →
        s.unblock ≠ .notCalled ∨
          ∃ f ∈ written (M.history is), Fits f = false) := by
  have hSound := sound_run abi locEng is
  refine ⟨hSound.late_le, ?_, ?_⟩
  · intro hReturned
    exact
      ⟨fun hProc => hSound.wakes hProc hReturned,
        ended_of_turn locEng hReturned⟩
  · exact fun hEnded => hSound.reason (hSound.ended hEnded)

end Shutdown

end DmnConn

end D2Common
