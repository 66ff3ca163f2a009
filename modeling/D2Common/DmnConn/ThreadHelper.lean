import D2Common.Foundations.Transducer

/-
  Launching the thread of the daemon connection.

  `loc_eng_dmn_conn_launch_thelper` creates a thread and
  waits on a condition variable until the thread signals
  that its initialization is over. The sections under the
  mutex are single steps, and so are the accesses to
  `thread_exit` outside of it. The wait may return at any
  time, with or without a signal.

  Key definitions include:
    * `Thelper`
    * `signalWait`
    * `system`
    * `Truthful`
    * `Signalled`

  Key theorems include:
    * `sound_step`
    * `launch_truthful`
-/

------------------------------------------------------------
-- The Launcher and the Thread
------------------------------------------------------------

namespace D2Common

namespace ThreadHelper

/- Where `loc_eng_dmn_conn_launch_thelper` is. -/
inductive Launcher where
  | start
  | created
  | inWait
  | waited
  | returned (result : Int)
deriving DecidableEq

/- Where `thelper_main` is. -/
inductive Main where
  | notCreated
  | created
  | initFailed
  | exitSet
  | initialized
  | signalled
  | looping
  | testing
  | stopped
  | ended
deriving DecidableEq

/-
  `loc_eng_dmn_conn_thelper` as far as it changes, the
  places of the launcher and of the thread, and what
  `thread_proc_init` has returned.
-/
structure Thelper where
  thread_exit : Bool
  thread_ready : Bool
  launcher : Launcher
  main : Main
  init : Option Int
deriving DecidableEq

/-
  What the launcher, the thread and the one who unblocks it
  do. A function that is NULL does what one does that
  returns 0.
-/
inductive Input where
  | create (result : Int)
  | wait
  | wake (result : Int)
  | finish
  | thread_proc_init (result : Int)
  | setExit
  | signalReady
  | thread_proc_pre (result : Int)
  | thread_proc (result : Int)
  | test
  | thread_proc_post (result : Int)
  | unblock

/- The result of the launch. -/
inductive Output where
  | launched (result : Int)
deriving DecidableEq

/-
  `thelper_signal_init` and `pthread_create`. A thread that
  a callback creates has the result 0.
-/
def create
    (t : Thelper)
    (result : Int) : Thelper × List Output :=
  let t := { t with thread_exit := false, thread_ready := false }
  if result ≠ 0 then
    ({ t with launcher := .returned (-1) }, [.launched (-1)])
  else ({ t with launcher := .created, main := .created }, [])

/-
  `thelper_signal_wait` up to the wait, which unlocks the
  mutex, or to its end.
-/
def signalWait (t : Thelper) : Thelper :=
  if t.thread_ready = false ∧ t.thread_exit = false then
    { t with launcher := .inWait }
  else { t with launcher := .waited }

/- The launcher returns `thread_exit`. -/
def finish (t : Thelper) : Thelper × List Output :=
  let result := if t.thread_exit then 1 else 0
  ({ t with launcher := .returned result },
    [.launched result])

/- `thread_proc_init`, and what its result leads to. -/
def procInit
    (t : Thelper)
    (result : Int) : Thelper :=
  { t with
    init := some result
    main := if result < 0 then .initFailed else .initialized }

/- `thelper_signal_ready`, after which `main` goes on. -/
def signalReady
    (t : Thelper)
    (main : Main) : Thelper :=
  { t with thread_ready := true, main := main }

/- `thread_proc_pre`. -/
def procPre
    (t : Thelper)
    (result : Int) : Thelper :=
  if result < 0 then
    { t with thread_exit := true, main := .ended }
  else { t with main := .looping }

/- `thread_proc`, once. -/
def proc
    (t : Thelper)
    (result : Int) : Thelper :=
  { t with
    thread_exit := t.thread_exit || result < 0
    main := .testing }

/-
  A launch. A step that is not the next one of the launcher
  or of the thread does nothing.
-/
def system : Transducer Thelper Input Output where
  init :=
    { thread_exit := false
      thread_ready := false
      launcher := .start
      main := .notCreated
      init := none }
  step t
    | .create result =>
        if t.launcher = .start then create t result
        else (t, [])
    | .wait =>
        if t.launcher = .created then (signalWait t, [])
        else (t, [])
    | .wake _ =>
        if t.launcher = .inWait then
          ({ t with launcher := .waited }, [])
        else (t, [])
    | .finish =>
        if t.launcher = .waited then finish t else (t, [])
    | .thread_proc_init result =>
        if t.main = .created then (procInit t result, [])
        else (t, [])
    | .setExit =>
        if t.main = .initFailed then
          ({ t with thread_exit := true, main := .exitSet },
            [])
        else (t, [])
    | .signalReady =>
        match t.main with
        | .exitSet => (signalReady t .ended, [])
        | .initialized => (signalReady t .signalled, [])
        | _ => (t, [])
    | .thread_proc_pre result =>
        if t.main = .signalled then (procPre t result, [])
        else (t, [])
    | .thread_proc result =>
        if t.main = .looping then (proc t result, [])
        else (t, [])
    | .test =>
        if t.main = .testing then
          ({ t with
              main :=
                if t.thread_exit then .stopped
                else .looping },
            [])
        else (t, [])
    | .thread_proc_post _ =>
        if t.main = .stopped then
          ({ t with main := .ended }, [])
        else (t, [])
    | .unblock => ({ t with thread_exit := true }, [])

end ThreadHelper

end D2Common

------------------------------------------------------------
-- Readiness
------------------------------------------------------------

namespace D2Common

namespace ThreadHelper

/- The initialization is over, and has not failed. -/
def Thelper.Succeeded (t : Thelper) : Prop :=
  ∃ result, t.init = some result ∧ 0 ≤ result

/- The launch says whether the thread is ready. -/
structure Truthful (t : Thelper) : Prop where
  zero : t.launcher = .returned 0 → t.Succeeded
  failed :
    ∀ result, t.init = some result → result < 0 →
      ∀ ret, t.launcher = .returned ret → ret ≠ 0

/- One step of a run, as it was taken. -/
abbrev Step := Transducer.Event Thelper Input Output

/- A wait returns only after the thread has signalled. -/
def Signalled (e : Step) : Prop :=
  ∀ result,
    e.input = .wake result →
      e.before.launcher = .inWait →
        e.before.thread_ready = true

/- What the place of the thread says. -/
def Main.Sound
    (t : Thelper) : Main → Prop
| .notCreated | .created =>
    t.init = none ∧ t.thread_ready = false
| .initFailed | .ended => True
| .exitSet => t.thread_exit = true
| .initialized | .signalled | .looping | .testing
| .stopped => t.Succeeded

/-
  Once the thread has signalled, it has been initialized or
  the launch will fail, and so it is when the launcher has
  waited.
-/
structure Sound (t : Thelper) : Prop where
  start : t.launcher = .start → t.main = .notCreated
  main : t.main.Sound t
  ready :
    t.thread_ready = true →
      t.thread_exit = true ∨ t.Succeeded
  waited :
    t.launcher = .waited →
      t.thread_exit = true ∨ t.Succeeded
  zero : t.launcher = .returned 0 → t.Succeeded

theorem sound_init : Sound system.init where
  start := fun _ => rfl
  main := ⟨rfl, rfl⟩
  ready := nofun
  waited := nofun
  zero := nofun

section Steps

variable {t : Thelper}

theorem Sound.create
    (hSound : Sound t)
    (hStart : t.launcher = .start)
    (result : Int) :
    Sound (create t result).1 := by
  have hPlace := hSound.start hStart
  have hMain := hSound.main
  rw [hPlace] at hMain
  unfold ThreadHelper.create
  by_cases hFailed : result ≠ 0
  · rw [if_pos hFailed]
    refine ⟨nofun, ?_, nofun, nofun, nofun⟩
    rw [hPlace]
    exact ⟨hMain.1, rfl⟩
  · rw [if_neg hFailed]
    exact ⟨nofun, ⟨hMain.1, rfl⟩, nofun, nofun, nofun⟩

/- The launcher does not wait if it need not. -/
theorem Sound.signalWait (hSound : Sound t) :
    Sound (signalWait t) := by
  unfold ThreadHelper.signalWait
  by_cases hBlock :
      t.thread_ready = false ∧ t.thread_exit = false
  · rw [if_pos hBlock]
    exact ⟨nofun, hSound.main, hSound.ready, nofun, nofun⟩
  · rw [if_neg hBlock]
    refine ⟨nofun, hSound.main, hSound.ready, ?_, nofun⟩
    intro _
    rcases Bool.eq_false_or_eq_true t.thread_ready with
      hReady | hNotReady
    · exact hSound.ready hReady
    · left
      simpa [hNotReady] using hBlock

/- A wait that returns after the signal. -/
theorem Sound.wake
    (hSound : Sound t)
    (hReady : t.thread_ready = true) :
    Sound { t with launcher := .waited } :=
  ⟨nofun, hSound.main, hSound.ready,
    fun _ => hSound.ready hReady, nofun⟩

theorem Sound.finish
    (hSound : Sound t)
    (hWaited : t.launcher = .waited) :
    Sound (finish t).1 := by
  refine ⟨nofun, hSound.main, hSound.ready, nofun, ?_⟩
  intro hZero
  rcases hSound.waited hWaited with hExit | hSucceeded
  · simp [ThreadHelper.finish, hExit] at hZero
  · exact hSucceeded

/- The initialization is over only once. -/
theorem Sound.procInit
    (hSound : Sound t)
    (hPlace : t.main = .created)
    (result : Int) :
    Sound (procInit t result) := by
  have hMain := hSound.main
  rw [hPlace] at hMain
  have hNot : ¬ t.Succeeded := by
    rintro ⟨r, hInit, -⟩
    rw [hMain.1] at hInit
    cases hInit
  refine ⟨?_, ?_, ?_, ?_, ?_⟩
  · intro hStart
    have hNotCreated := hSound.start hStart
    rw [hPlace] at hNotCreated
    cases hNotCreated
  · unfold ThreadHelper.procInit
    by_cases hFailed : result < 0
    · simp only [if_pos hFailed]
      trivial
    · simp only [if_neg hFailed]
      exact ⟨result, rfl, Int.not_lt.mp hFailed⟩
  · intro hReady
    exact Or.inl ((hSound.ready hReady).resolve_right hNot)
  · intro hWaited
    exact Or.inl ((hSound.waited hWaited).resolve_right hNot)
  · intro hZero
    exact absurd (hSound.zero hZero) hNot

/- What only moves the thread and may stop it is sound. -/
theorem Sound.moveMain
    (hSound : Sound t)
    (hPlace : t.main ≠ .notCreated)
    {thread_exit : Bool}
    (hExit : t.thread_exit = true → thread_exit = true)
    {main : Main}
    (hMain :
      main.Sound
        { t with thread_exit := thread_exit, main := main }) :
    Sound
      { t with thread_exit := thread_exit, main := main } where
  start := fun hStart => absurd (hSound.start hStart) hPlace
  main := hMain
  ready := fun hReady => (hSound.ready hReady).imp_left hExit
  waited := fun hWaited =>
    (hSound.waited hWaited).imp_left hExit
  zero := hSound.zero

/- The thread signals when it is initialized or stopped. -/
theorem Sound.signalReady
    (hSound : Sound t)
    (hPlace : t.main ≠ .notCreated)
    (hOver : t.thread_exit = true ∨ t.Succeeded)
    {main : Main}
    (hMain : main.Sound (signalReady t main)) :
    Sound (signalReady t main) where
  start := fun hStart => absurd (hSound.start hStart) hPlace
  main := hMain
  ready := fun _ => hOver
  waited := hSound.waited
  zero := hSound.zero

/- Setting `thread_exit` leaves the thread where it is. -/
theorem Sound.unblock (hSound : Sound t) :
    Sound { t with thread_exit := true } := by
  refine ⟨hSound.start, ?_, fun _ => Or.inl rfl,
    fun _ => Or.inl rfl, hSound.zero⟩
  have hMain := hSound.main
  cases hPlace : t.main <;> rw [hPlace] at hMain <;>
    first | exact hMain | trivial

end Steps

/- Every step whose wait has been signalled is sound. -/
theorem sound_step
    {t : Thelper}
    (hSound : Sound t)
    (i : Input)
    (hSignalled : Signalled (system.event t i)) :
    Sound (system.step t i).1 := by
  have hMain := hSound.main
  cases i with
  | create result =>
      simp only [system]
      split
      · next hStart => exact hSound.create hStart result
      · exact hSound
  | wait =>
      simp only [system]
      split
      · exact hSound.signalWait
      · exact hSound
  | wake result =>
      simp only [system]
      split
      · next hWait =>
          exact hSound.wake (hSignalled result rfl hWait)
      · exact hSound
  | finish =>
      simp only [system]
      split
      · next hWaited => exact hSound.finish hWaited
      · exact hSound
  | thread_proc_init result =>
      simp only [system]
      split
      · next hPlace => exact hSound.procInit hPlace result
      · exact hSound
  | setExit =>
      simp only [system]
      split
      · next hPlace =>
          exact hSound.moveMain (by simp [hPlace])
            (fun _ => rfl) rfl
      · exact hSound
  | signalReady =>
      simp only [system]
      split
      · next hPlace =>
          rw [hPlace] at hMain
          exact hSound.signalReady (by simp [hPlace])
            (Or.inl hMain) trivial
      · next hPlace =>
          rw [hPlace] at hMain
          exact hSound.signalReady (by simp [hPlace])
            (Or.inr hMain) hMain
      · exact hSound
  | thread_proc_pre result =>
      simp only [system]
      split
      · next hPlace =>
          rw [hPlace] at hMain
          unfold procPre
          split
          · exact hSound.moveMain (by simp [hPlace])
              (fun _ => rfl) trivial
          · exact hSound.moveMain (by simp [hPlace]) id hMain
      · exact hSound
  | thread_proc result =>
      simp only [system]
      split
      · next hPlace =>
          rw [hPlace] at hMain
          exact hSound.moveMain (by simp [hPlace])
            (fun hExit => by simp [hExit]) hMain
      · exact hSound
  | test =>
      simp only [system]
      split
      · next hPlace =>
          rw [hPlace] at hMain
          refine hSound.moveMain (by simp [hPlace]) id ?_
          cases t.thread_exit <;> exact hMain
      · exact hSound
  | thread_proc_post result =>
      simp only [system]
      split
      · next hPlace =>
          exact hSound.moveMain (by simp [hPlace]) id trivial
      · exact hSound
  | unblock => exact hSound.unblock

theorem Sound.truthful
    {t : Thelper}
    (hSound : Sound t) :
    Truthful t where
  zero := hSound.zero
  failed := by
    rintro result hInit hNegative ret hReturned rfl
    rcases hSound.zero hReturned with ⟨r, hr, hNonneg⟩
    rw [hInit] at hr
    cases hr
    omega

theorem sound_run
    {is : List Input}
    (hSignalled :
      History.Along (fun _ e => Signalled e)
        (system.history is)) :
    Sound (system.run is) := by
  refine system.history_induction (I := fun _ t => Sound t)
    sound_init ?_ is hSignalled
  intro _ t i hSound hStep
  exact sound_step hSound i hStep

/-
  In every interleaving whose waits are signalled the launch
  returns 0 only after the initialization, and not if that
  has failed. A wait that returns before both the signal and
  the initialization can always spoil it.
-/
theorem launch_truthful (is : List Input) :
    (History.Along (fun _ e => Signalled e)
        (system.history is) →
      Truthful (system.run is)) ∧
      ((system.run is).launcher = .inWait →
        (system.run is).thread_exit = false →
          ¬ (system.run is).Succeeded →
            ∀ result,
              ¬ Truthful
                (system.run (is ++ [.wake result, .finish]))) := by
  constructor
  · intro hSignalled
    exact (sound_run hSignalled).truthful
  · intro hWait hExit hNot result hTruthful
    apply hNot
    rw [List.append_cons, system.run_concat,
      system.run_concat] at hTruthful
    generalize system.run is = t at hWait hExit hTruthful ⊢
    have hRun :
        (system.step (system.step t (.wake result)).1
          .finish).1 = { t with launcher := .returned 0 } := by
      simp [system, hWait, finish, hExit]
    rw [hRun] at hTruthful
    exact hTruthful.zero rfl

/- The launcher wakes up by itself. -/
theorem spurious_wake_reports_ready :
    ¬ Truthful
        (system.run [.create 0, .wait, .wake 0, .finish]) ∧
      ¬ Truthful
        (system.run
          [.create 0, .wait, .wake 0, .finish,
            .thread_proc_init (-1), .setExit,
            .signalReady]) := by
  constructor
  · intro hTruthful
    rcases hTruthful.zero rfl with ⟨result, hInit, -⟩
    cases hInit
  · intro hTruthful
    exact hTruthful.failed (-1) rfl (by decide) 0 rfl rfl

end ThreadHelper

end D2Common
