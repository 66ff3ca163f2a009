import D2Common.Foundations.Transducer

/-
  The timer.

  A timer is a thread that waits for its deadline on a
  condition variable. The sections under the mutex are
  single steps, and so is the way from one to the next. What
  the wait answers is part of the input of the step in which
  it returns: it may return at any time, with or without a
  signal.

  Key definitions include:
    * `Timer`
    * `locTimerStop`
    * `system`
    * `Book`
    * `Truthful`

  Key theorems include:
    * `book_step`
    * `book_run`
    * `stop_or_callback_iff`
-/

------------------------------------------------------------
-- The Timer and Its Thread
------------------------------------------------------------

namespace D2Common

namespace LocTimer

/- `timer_state`. -/
inductive TimerState where
  | ready
  | waiting
  | done
  | abort
deriving DecidableEq

/- `ETIMEDOUT`. -/
def etimedout : Int := 110

/- Where the thread is; `destroying` counts the tries. -/
inductive Place where
  | created
  | inWait
  | unlocked
  | destroying (i : Nat)
  | exited
deriving DecidableEq

/-
  `timer_data` as far as it changes, the place of the thread
  and its variable `ret`.
-/
structure Timer where
  state : TimerState
  place : Place
  ret : Int
deriving DecidableEq

/- What the thread and the callers of the timer do. -/
inductive Input where
  | lock
  | wake (ret : Int)
  | act
  | destroy (busy : Bool)
  | stop

/- What can be seen of it. -/
inductive Output where
  | callback_func (result : Int)
  | signal
deriving DecidableEq

/- Whether a stop can still take effect. -/
def TimerState.Stoppable (s : TimerState) : Prop :=
  s = .ready ∨ s = .waiting

instance (s : TimerState) : Decidable s.Stoppable :=
  inferInstanceAs (Decidable (_ ∨ _))

/-
  `loc_timer_stop` on a live timer. The same test is made
  before the mutex is locked. As the state does not come
  back, a test that fails there agrees with this one.
-/
def locTimerStop (t : Timer) : Timer × List Output :=
  if t.state.Stoppable then
    ({ t with state := .abort }, [.signal])
  else (t, [])

/- The first section of `timer_thread` under the mutex. -/
def lock (t : Timer) : Timer :=
  if t.state = .ready then
    { t with state := .waiting, place := .inWait }
  else { t with place := .unlocked }

/- The wait has returned, and the mutex is unlocked. -/
def wake (ret : Int) : Timer :=
  { state := .done, place := .unlocked, ret := ret }

/- What the thread does with the result. -/
def act (t : Timer) : Timer × List Output :=
  ({ t with place := .destroying 0 },
    if t.ret = etimedout then [.callback_func t.ret] else [])

/- One round of the loop that destroys the mutex. -/
def destroy
    (t : Timer)
    (i : Nat)
    (busy : Bool) : Timer :=
  if busy ∧ i ≤ 5 then { t with place := .destroying (i + 1) }
  else { t with place := .exited }

/-
  A started timer. A step that is not the next one of the
  thread does nothing, and neither does a stop when the
  timer has been freed.
-/
def system : Transducer Timer Input Output where
  init :=
    { state := .ready, place := .created, ret := -etimedout }
  step t
    | .lock =>
        if t.place = .created then (lock t, []) else (t, [])
    | .wake ret =>
        if t.place = .inWait then (wake ret, []) else (t, [])
    | .act => if t.place = .unlocked then act t else (t, [])
    | .destroy busy =>
        match t.place with
        | .destroying i => (destroy t i busy, [])
        | _ => (t, [])
    | .stop =>
        if t.place = .exited then (t, []) else locTimerStop t

end LocTimer

end D2Common

------------------------------------------------------------
-- Stop and Callback
------------------------------------------------------------

namespace D2Common

namespace LocTimer

/- One step of a run, as it was taken. -/
abbrev Step := Transducer.Event Timer Input Output

/- The callback is started. -/
def called (e : Step) : Bool :=
  e.output.any fun o =>
    match o with
    | .callback_func _ => true
    | .signal => false

/- A stop moves the timer to `ABORT`. -/
def TookEffect (e : Step) : Prop :=
  e.before.state ≠ .abort ∧ e.after.state = .abort

instance (e : Step) : Decidable (TookEffect e) :=
  inferInstanceAs (Decidable (_ ∧ _))

/- Some stop has taken effect. -/
def Stopped (h : List Step) : Prop :=
  ∃ e ∈ h, TookEffect e

/-
  The callback is started at most once, never after a stop
  has taken effect, and the thread ends without it only if
  some stop has.
-/
structure StopOrCallback
    (h : List Step)
    (t : Timer) : Prop where
  once : h.countP called ≤ 1
  exclusive :
    History.Along
      (fun before e => called e = true → ¬ Stopped before) h
  exhaustive :
    t.place = .exited →
      ¬ Stopped h →
        ∃ e ∈ h, called e = true

/-
  When the wait returns it reports the deadline exactly if
  no stop has taken effect.
-/
def Truthful (e : Step) : Prop :=
  ∀ ret,
    e.input = .wake ret →
      e.before.place = .inWait →
        (ret = etimedout ↔ e.before.state ≠ .abort)

/- The thread has yet to leave its section. -/
def Timer.Early (t : Timer) : Prop :=
  t.place = .created ∨ t.place = .inWait

/- The thread is past the call of the callback. -/
def Timer.Past (t : Timer) : Prop :=
  t.place ≠ .created ∧ t.place ≠ .inWait ∧
    t.place ≠ .unlocked

instance (t : Timer) : Decidable t.Early :=
  inferInstanceAs (Decidable (_ ∨ _))

instance (t : Timer) : Decidable t.Past :=
  inferInstanceAs (Decidable (_ ∧ _))

/- The callback has been started. -/
def Timer.HasCalled (t : Timer) : Prop :=
  t.Past ∧ t.ret = etimedout

instance (t : Timer) : Decidable t.HasCalled :=
  inferInstanceAs (Decidable (_ ∧ _))

/-
  What the timer knows of its history. Until the thread
  leaves its section the state tells whether a stop has
  taken effect; from then on only `ret` does, and it is
  right if and only if the wait was truthful.
-/
structure Book
    (h : List Step)
    (t : Timer) : Prop where
  calls : h.countP called = if t.HasCalled then 1 else 0
  created :
    t.place = .created →
      t.state ≠ .waiting ∧ t.ret ≠ etimedout
  early :
    t.Early →
      t.state ≠ .done ∧ (Stopped h ↔ t.state = .abort)
  late : ¬ t.Early → ¬ t.state.Stoppable
  truthful :
    History.Along (fun _ e => Truthful e) h ↔
      (¬ t.Early → (t.ret = etimedout ↔ ¬ Stopped h))
  exclusive :
    History.Along
        (fun before e => called e = true → ¬ Stopped before)
        h ↔
      ¬ (t.HasCalled ∧ Stopped h)

theorem stopped_concat
    (h : List Step)
    (e : Step) :
    Stopped (h ++ [e]) ↔ Stopped h ∨ TookEffect e := by
  simp [Stopped, or_and_right, exists_or]

/- Only a return of the wait can report anything. -/
theorem truthful_of_ne
    {e : Step}
    (hInput : ∀ ret, e.input ≠ .wake ret) :
    Truthful e := by
  intro ret hWake
  exact absurd hWake (hInput ret)

theorem book_init : Book [] system.init where
  calls := rfl
  created := fun _ => ⟨nofun, nofun⟩
  early := by
    intro _
    exact ⟨nofun, by simp [Stopped, system]⟩
  late := fun hLate => absurd (Or.inl rfl) hLate
  truthful :=
    iff_of_true History.along_nil
      (fun hLate => absurd (Or.inl rfl) hLate)
  exclusive :=
    iff_of_true History.along_nil
      (fun hCalled => hCalled.1.1.1 rfl)

section Book

variable {h : List Step}
variable {t : Timer}

/-
  A step that starts no callback, stops nothing and is not
  the return of the wait changes nothing that the book is
  about.
-/
theorem Book.quiet
    (hBook : Book h t)
    {e : Step}
    (hCalled : called e = false)
    (hStop : ¬ TookEffect e)
    (hTruthful : Truthful e) :
    Book (h ++ [e]) t := by
  have hStopped : Stopped (h ++ [e]) ↔ Stopped h := by
    rw [stopped_concat]
    exact or_iff_left hStop
  exact
    { calls := by simp [hCalled, hBook.calls]
      created := hBook.created
      early := by
        rw [hStopped]
        exact hBook.early
      late := hBook.late
      truthful := by
        rw [History.along_concat, hStopped, ← hBook.truthful]
        exact and_iff_left hTruthful
      exclusive := by
        rw [History.along_concat, hStopped,
          ← hBook.exclusive]
        apply and_iff_left
        simp [hCalled] }

/- A section that finds a stop leaves without a wait. -/
theorem Book.lock
    (hBook : Book h t)
    (hPlace : t.place = .created) :
    Book h (lock t) := by
  have hEarly : t.Early := Or.inl hPlace
  rcases hBook.created hPlace with ⟨hNotWaiting, hRet⟩
  rcases hBook.early hEarly with ⟨hNotDone, hStopped⟩
  have hCalls := hBook.calls
  have hTruthful := hBook.truthful
  have hExclusive := hBook.exclusive
  have hNotCalled : ¬ t.HasCalled := by
    intro hCalled
    exact hCalled.1.1 hPlace
  rw [if_neg hNotCalled] at hCalls
  by_cases hReady : t.state = .ready
  · have hNext :
        LocTimer.lock t =
          { t with state := .waiting, place := .inWait } :=
      if_pos hReady
    rw [hNext]
    refine ⟨?_, nofun, ?_, ?_, ?_, ?_⟩
    · simp [hCalls, Timer.HasCalled, Timer.Past]
    · simp [hStopped, hReady]
    · intro hLate
      exact absurd (Or.inr rfl) hLate
    · rw [hTruthful]
      simp [Timer.Early, hPlace]
    · rw [hExclusive]
      simp [Timer.HasCalled, Timer.Past, hPlace]
  · have hAbort : t.state = .abort := by
      cases hState : t.state <;> simp_all
    have hNext :
        LocTimer.lock t = { t with place := .unlocked } :=
      if_neg hReady
    rw [hNext]
    refine ⟨?_, nofun, ?_, ?_, ?_, ?_⟩
    · simp [hCalls, Timer.HasCalled, Timer.Past]
    · simp [Timer.Early]
    · simp [TimerState.Stoppable, hAbort]
    · rw [hTruthful]
      simp [Timer.Early, hPlace, hRet, hStopped, hAbort]
    · rw [hExclusive]
      simp [Timer.HasCalled, Timer.Past, hPlace]

/- The rounds of the destruction change nothing else. -/
theorem Book.destroy
    (hBook : Book h t)
    {i : Nat}
    (hPlace : t.place = .destroying i)
    (busy : Bool) :
    Book h (destroy t i busy) := by
  have hAny :
      ∀ place,
        place = .exited ∨ (∃ j, place = .destroying j) →
          Book h { t with place := place } := by
    intro place hNext
    have hCreated : place ≠ .created := by
      rcases hNext with rfl | ⟨j, rfl⟩ <;> exact nofun
    have hInWait : place ≠ .inWait := by
      rcases hNext with rfl | ⟨j, rfl⟩ <;> exact nofun
    have hUnlocked : place ≠ .unlocked := by
      rcases hNext with rfl | ⟨j, rfl⟩ <;> exact nofun
    have hLate : ¬ t.Early := by
      simp [Timer.Early, hPlace]
    have hCalled :
        Timer.HasCalled { t with place := place } ↔
          t.HasCalled := by
      simp [Timer.HasCalled, Timer.Past, hPlace, hCreated,
        hInWait, hUnlocked]
    have hStill :
        ¬ Timer.Early { t with place := place } := by
      simp [Timer.Early, hCreated, hInWait]
    refine ⟨?_, ?_, ?_, ?_, ?_, ?_⟩
    · simp only [hCalled]
      exact hBook.calls
    · exact fun hPlace => absurd hPlace hCreated
    · exact fun hEarly => absurd hEarly hStill
    · exact fun _ => hBook.late hLate
    · rw [hBook.truthful]
      simp [hLate, hStill]
    · rw [hCalled]
      exact hBook.exclusive
  unfold LocTimer.destroy
  split
  · exact hAny _ (Or.inr ⟨i + 1, rfl⟩)
  · exact hAny _ (Or.inl rfl)

/-
  The return of the wait: from here on `ret` alone says what
  happens.
-/
theorem Book.wake
    (hBook : Book h t)
    (hPlace : t.place = .inWait)
    (ret : Int) :
    Book (h ++ [⟨t, .wake ret, [], wake ret⟩])
      (wake ret) := by
  have hEarly : t.Early := Or.inr hPlace
  rcases hBook.early hEarly with ⟨-, hStopped⟩
  have hNotCalled : ¬ t.HasCalled := by
    intro hCalled
    exact hCalled.1.2.1 hPlace
  have hNotPast : ¬ Timer.HasCalled (LocTimer.wake ret) := by
    intro hCalled
    exact hCalled.1.2.2 rfl
  have hSame :
      Stopped (h ++ [⟨t, .wake ret, [], LocTimer.wake ret⟩]) ↔
        Stopped h := by
    rw [stopped_concat]
    exact or_iff_left (fun hEffect => nomatch hEffect.2)
  have hBefore :
      History.Along (fun _ e => Truthful e) h := by
    rw [hBook.truthful]
    exact fun hLate => absurd hEarly hLate
  refine ⟨?_, nofun, ?_, ?_, ?_, ?_⟩
  · rw [if_neg hNotPast]
    have hCalls := hBook.calls
    rw [if_neg hNotCalled] at hCalls
    simpa [called] using hCalls
  · rintro (hPlace | hPlace) <;> cases hPlace
  · rintro - (hState | hState) <;> cases hState
  · rw [History.along_concat, and_iff_right hBefore, hSame,
      hStopped]
    simp [Truthful, Timer.Early, hPlace, LocTimer.wake]
  · rw [History.along_concat, hBook.exclusive]
    simp [called, hNotCalled, hNotPast]

/- The callback is started exactly if `ret` says so. -/
theorem Book.act
    (hBook : Book h t)
    (hPlace : t.place = .unlocked) :
    Book (h ++ [⟨t, .act, (act t).2, (act t).1⟩])
      (act t).1 := by
  have hLate : ¬ t.Early := by
    simp [Timer.Early, hPlace]
  have hState := hBook.late hLate
  have hNotCalled : ¬ t.HasCalled := by
    intro hCalled
    exact hCalled.1.2.2 hPlace
  have hCalledNow :
      Timer.HasCalled (LocTimer.act t).1 ↔
        t.ret = etimedout := by
    simp [Timer.HasCalled, Timer.Past, LocTimer.act]
  have hOut :
      called ⟨t, .act, (LocTimer.act t).2,
          (LocTimer.act t).1⟩ = true ↔
        t.ret = etimedout := by
    by_cases hRet : t.ret = etimedout <;>
      simp [called, LocTimer.act, hRet]
  have hSame :
      Stopped
          (h ++ [⟨t, .act, (LocTimer.act t).2,
            (LocTimer.act t).1⟩]) ↔
        Stopped h := by
    rw [stopped_concat]
    exact or_iff_left (fun hEffect => hEffect.1 hEffect.2)
  have hTruthful :
      Truthful ⟨t, .act, (LocTimer.act t).2,
        (LocTimer.act t).1⟩ :=
    truthful_of_ne nofun
  have hStill : ¬ Timer.Early (LocTimer.act t).1 := by
    simp [Timer.Early, LocTimer.act]
  have hCalls := hBook.calls
  rw [if_neg hNotCalled] at hCalls
  refine ⟨?_, nofun, ?_, ?_, ?_, ?_⟩
  · rw [List.countP_append, hCalls, List.countP_singleton]
    simp only [hOut, hCalledNow, Nat.zero_add]
  · exact fun hEarly => absurd hEarly hStill
  · exact fun _ => hState
  · rw [History.along_concat, hSame, hBook.truthful,
      and_iff_left hTruthful]
    exact
      ⟨fun hRet _ => hRet hLate, fun hRet _ => hRet hStill⟩
  · rw [History.along_concat, hBook.exclusive, hSame, hOut,
      hCalledNow]
    simp [hNotCalled]

/- A stop that comes in time is on record until the end. -/
theorem Book.stop
    (hBook : Book h t) :
    Book
      (h ++
        [⟨t, .stop, (locTimerStop t).2, (locTimerStop t).1⟩])
      (locTimerStop t).1 := by
  by_cases hState : t.state.Stoppable
  · have hNext :
        locTimerStop t =
          ({ t with state := .abort }, [.signal]) :=
      if_pos hState
    have hNotAbort : t.state ≠ .abort := by
      rcases hState with hState | hState <;> simp [hState]
    have hEarly : t.Early := by
      by_contra hLate
      exact hBook.late hLate hState
    have hNotCalled : ¬ t.HasCalled := by
      rintro ⟨⟨hCreated, hInWait, -⟩, -⟩
      rcases hEarly with hPlace | hPlace
      · exact hCreated hPlace
      · exact hInWait hPlace
    have hCalls := hBook.calls
    have hTruthful := hBook.truthful
    have hExclusive := hBook.exclusive
    have hNow :
        Stopped
          (h ++ [⟨t, .stop, [.signal],
            { t with state := .abort }⟩]) := by
      rw [stopped_concat]
      exact Or.inr ⟨hNotAbort, rfl⟩
    rw [hNext]
    have hNoWake :
        Truthful ⟨t, .stop, [.signal],
          { t with state := .abort }⟩ :=
      truthful_of_ne nofun
    have hStillNot :
        ¬ Timer.HasCalled { t with state := .abort } :=
      hNotCalled
    have hStillEarly :
        Timer.Early { t with state := .abort } := hEarly
    rw [if_neg hNotCalled] at hCalls
    refine ⟨?_, ?_, ?_, ?_, ?_, ?_⟩
    · rw [if_neg hStillNot]
      simpa [called] using hCalls
    · intro hPlace
      exact ⟨nofun, (hBook.created hPlace).2⟩
    · intro _
      exact ⟨nofun, iff_of_true hNow rfl⟩
    · exact fun hLate => absurd hStillEarly hLate
    · rw [History.along_concat, hTruthful,
        and_iff_left hNoWake]
      exact iff_of_true
        (fun hLate => absurd hEarly hLate)
        (fun hLate => absurd hStillEarly hLate)
    · rw [History.along_concat, hExclusive]
      simp [called, hNotCalled, hStillNot]
  · have hNext : locTimerStop t = (t, []) := if_neg hState
    rw [hNext]
    exact hBook.quiet rfl (fun hEffect => hEffect.1 hEffect.2)
      (truthful_of_ne nofun)

/- A step that is not the next one of the thread. -/
theorem Book.idle
    (hBook : Book h t)
    {e : Step}
    (hOut : e.output = [])
    (hSame : e.after = e.before)
    (hTruthful : Truthful e) :
    Book (h ++ [e]) t := by
  apply hBook.quiet
  · simp [called, hOut]
  · rintro ⟨hBefore, hAfter⟩
    rw [hSame] at hAfter
    exact hBefore hAfter
  · exact hTruthful

theorem book_step
    (hBook : Book h t)
    (i : Input) :
    Book (h ++ [system.event t i]) (system.step t i).1 := by
  cases i with
  | lock =>
      by_cases hPlace : t.place = .created
      · simp only [Transducer.event, system, if_pos hPlace]
        apply (hBook.lock hPlace).quiet rfl
        · rintro ⟨hBefore, hAfter⟩
          unfold lock at hAfter
          split at hAfter
          · exact nomatch hAfter
          · exact hBefore hAfter
        · exact truthful_of_ne nofun
      · simp only [Transducer.event, system, if_neg hPlace]
        exact hBook.idle rfl rfl (truthful_of_ne nofun)
  | wake ret =>
      by_cases hPlace : t.place = .inWait
      · simp only [Transducer.event, system, if_pos hPlace]
        exact hBook.wake hPlace ret
      · simp only [Transducer.event, system, if_neg hPlace]
        apply hBook.idle rfl rfl
        intro _ _ hInWait
        exact absurd hInWait hPlace
  | act =>
      by_cases hPlace : t.place = .unlocked
      · simp only [Transducer.event, system, if_pos hPlace]
        exact hBook.act hPlace
      · simp only [Transducer.event, system, if_neg hPlace]
        exact hBook.idle rfl rfl (truthful_of_ne nofun)
  | destroy busy =>
      cases hPlace : t.place with
      | destroying i =>
          simp only [Transducer.event, system, hPlace]
          apply (hBook.destroy hPlace busy).quiet rfl
          · rintro ⟨hBefore, hAfter⟩
            unfold destroy at hAfter
            split at hAfter <;> exact hBefore hAfter
          · exact truthful_of_ne nofun
      | _ =>
          simp only [Transducer.event, system, hPlace]
          exact hBook.idle rfl rfl (truthful_of_ne nofun)
  | stop =>
      by_cases hPlace : t.place = .exited
      · simp only [Transducer.event, system, if_pos hPlace]
        exact hBook.idle rfl rfl (truthful_of_ne nofun)
      · simp only [Transducer.event, system, if_neg hPlace]
        exact hBook.stop

end Book

/- The book is right in every interleaving. -/
theorem book_run
    (is : List Input) :
    Book (system.history is) (system.run is) := by
  apply system.history_induction_of_all book_init
  intro h s i hBook
  exact book_step hBook i

/- A started callback is one of the history. -/
theorem Book.hasCalled_iff
    {h : List Step}
    {t : Timer}
    (hBook : Book h t) :
    t.HasCalled ↔ ∃ e ∈ h, called e = true := by
  rw [← List.countP_pos_iff, hBook.calls]
  split
  · next hCalled => simp [hCalled]
  · next hCalled => simp [hCalled]

/-
  Stop and callback exclude each other and one of them
  happens in every interleaving whose waits are truthful,
  and, when the thread has exited, in no others.
-/
theorem stop_or_callback_iff
    (is : List Input) :
    (History.Along (fun _ e => Truthful e)
        (system.history is) →
      StopOrCallback (system.history is) (system.run is)) ∧
    ((system.run is).place = .exited →
      (StopOrCallback (system.history is) (system.run is) ↔
        History.Along (fun _ e => Truthful e)
          (system.history is))) := by
  have hBook := book_run is
  have hCalls := hBook.calls
  have hOnce : (system.history is).countP called ≤ 1 := by
    rw [hCalls]
    split <;> omega
  have hSafe :
      History.Along (fun _ e => Truthful e)
          (system.history is) →
        StopOrCallback (system.history is)
          (system.run is) := by
    intro hAlong
    have hRet := hBook.truthful.mp hAlong
    refine ⟨hOnce, hBook.exclusive.mpr ?_, ?_⟩
    · rintro ⟨hCalled, hStopped⟩
      have hLate : ¬ (system.run is).Early := by
        rintro (hPlace | hPlace)
        · exact hCalled.1.1 hPlace
        · exact hCalled.1.2.1 hPlace
      exact (hRet hLate).mp hCalled.2 hStopped
    · intro hExited hNotStopped
      have hLate : ¬ (system.run is).Early := by
        simp [Timer.Early, hExited]
      have hPast : (system.run is).Past := by
        simp [Timer.Past, hExited]
      apply hBook.hasCalled_iff.mp
      exact ⟨hPast, (hRet hLate).mpr hNotStopped⟩
  refine ⟨hSafe, fun hExited => ⟨fun hHolds => ?_, hSafe⟩⟩
  have hPast : (system.run is).Past := by
    simp [Timer.Past, hExited]
  rw [hBook.truthful]
  intro _
  constructor
  · intro hRet hStopped
    exact hBook.exclusive.mp hHolds.exclusive
      ⟨⟨hPast, hRet⟩, hStopped⟩
  · intro hNotStopped
    have hCalled := hHolds.exhaustive hExited hNotStopped
    exact (hBook.hasCalled_iff.mpr hCalled).2

/-
  A stop that lands between the deadline and the mutex, and
  a wake-up that nobody signalled.
-/
theorem untruthful_waits :
    ¬ StopOrCallback
        (system.history [.lock, .stop, .wake etimedout, .act])
        (system.run [.lock, .stop, .wake etimedout, .act]) ∧
      ¬ StopOrCallback
        (system.history
          [.lock, .wake 0, .act, .destroy false])
        (system.run
          [.lock, .wake 0, .act, .destroy false]) := by
  constructor
  · intro hHolds
    have hSafe := hHolds.exclusive
      (system.history [.lock, .stop, .wake etimedout])
      _ [] rfl rfl
    apply hSafe
    refine ⟨_, List.mem_cons_of_mem _ List.mem_cons_self, ?_⟩
    exact ⟨nofun, rfl⟩
  · intro hHolds
    have hNever := hHolds.exhaustive rfl ?_
    · revert hNever
      decide
    · unfold Stopped
      decide

end LocTimer

end D2Common
