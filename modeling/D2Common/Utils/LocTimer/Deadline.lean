import D2Common.Foundations.Checked

/-
  The deadline of a timer.

  The thread of a timer adds its milliseconds to the current
  time: whole seconds to the seconds, the rest as nanoseconds
  to the nanoseconds, and from these at most one second is
  carried. Milliseconds are an unsigned type with 32 bits,
  nanoseconds a signed one. Seconds have no bounds.

  Key definitions include:
    * `locTimerStart`
    * `deadline`

  Key theorems include:
    * `addSeconds_eq`
    * `addNanoseconds_eq`
    * `carry_eq`
    * `deadline_exact`
-/

------------------------------------------------------------
-- Adding Milliseconds
------------------------------------------------------------

namespace D2Common

namespace LocTimer

open Checked (int32 uint32)

/- `timespec`. -/
structure Timespec where
  tv_sec : Int
  tv_nsec : Int
deriving DecidableEq

/-
  `loc_timer_start`, up to the thread that it creates: the
  `time_msec` of the timer, which is NULL without a callback
  or without a time.
-/
def locTimerStart
    (cb_func : Bool)
    (msec : Int) : Option Int :=
  if cb_func = false ∨ msec = 0 then none else some msec

/- The whole seconds, and the milliseconds that are left. -/
def addSeconds
    (ts : Timespec)
    (time_msec : Int) : Option (Timespec × Int) :=
  if 1000 ≤ time_msec then do
    let seconds ← uint32.check (time_msec / 1000)
    let time_msec ← uint32.check (time_msec % 1000)
    some ({ ts with tv_sec := ts.tv_sec + seconds }, time_msec)
  else some (ts, time_msec)

/-
  The rest. A `long` and an `unsigned int` of the same width
  are added as unsigned numbers, and the sum is stored in a
  `long` again.
-/
def addNanoseconds
    (ts : Timespec)
    (time_msec : Int) : Option Timespec :=
  if time_msec ≠ 0 then do
    let nsec ← uint32.check (time_msec * 1000000)
    let tv_nsec ← uint32.check ts.tv_nsec
    let sum ← uint32.check (tv_nsec + nsec)
    let tv_nsec ← int32.check sum
    some { ts with tv_nsec := tv_nsec }
  else some ts

/- A second that is in the nanoseconds. -/
def carry (ts : Timespec) : Option Timespec :=
  if 999999999 < ts.tv_nsec then do
    let tv_nsec ← int32.check (ts.tv_nsec - 1000000000)
    some ⟨ts.tv_sec + 1, tv_nsec⟩
  else some ts

/- The deadline that `timer_thread` waits for. -/
def deadline
    (time_msec : Int)
    (ts : Timespec) : Option Timespec := do
  let (ts, time_msec) ← addSeconds ts time_msec
  let ts ← addNanoseconds ts time_msec
  carry ts

end LocTimer

end D2Common

------------------------------------------------------------
-- The Time It Is
------------------------------------------------------------

namespace D2Common

namespace LocTimer

open Checked (int32 uint32 bind_check_of_holds int32_holds_iff
  uint32_holds_iff)

/- The nanoseconds are less than a second. -/
def Timespec.Normal (ts : Timespec) : Prop :=
  0 ≤ ts.tv_nsec ∧ ts.tv_nsec < 1000000000

instance (ts : Timespec) : Decidable ts.Normal :=
  inferInstanceAs (Decidable (_ ∧ _))

/- The time in nanoseconds. -/
def Timespec.nanoseconds (ts : Timespec) : Int :=
  ts.tv_sec * 1000000000 + ts.tv_nsec

theorem addSeconds_eq
    (ts : Timespec)
    {time_msec : Int}
    (hTime : uint32.Holds time_msec) :
    addSeconds ts time_msec =
      some
        (⟨ts.tv_sec + time_msec / 1000, ts.tv_nsec⟩,
          time_msec % 1000) := by
  rw [uint32_holds_iff] at hTime
  have hSeconds : uint32.Holds (time_msec / 1000) := by
    rw [uint32_holds_iff]
    omega
  have hRest : uint32.Holds (time_msec % 1000) := by
    rw [uint32_holds_iff]
    omega
  unfold addSeconds
  by_cases hLong : 1000 ≤ time_msec
  · rw [if_pos hLong, bind_check_of_holds hSeconds,
      bind_check_of_holds hRest]
  · -- less than a second is no second and all of the rest
    have hNone : time_msec / 1000 = 0 := by omega
    have hAll : time_msec % 1000 = time_msec := by omega
    rw [if_neg hLong, hNone, hAll, Int.add_zero]

/- The sum is below two seconds, and so it is a `long`. -/
theorem addNanoseconds_eq
    (ts : Timespec)
    (hNormal : ts.Normal)
    {time_msec : Int}
    (hTime : 0 ≤ time_msec)
    (hRest : time_msec < 1000) :
    addNanoseconds ts time_msec =
      some
        ⟨ts.tv_sec, ts.tv_nsec + time_msec * 1000000⟩ := by
  rcases hNormal with ⟨hLower, hUpper⟩
  unfold addNanoseconds
  by_cases hSome : time_msec ≠ 0
  · have hNsec : uint32.Holds (time_msec * 1000000) := by
      rw [uint32_holds_iff]
      omega
    have hOld : uint32.Holds ts.tv_nsec := by
      rw [uint32_holds_iff]
      omega
    have hSum :
        uint32.Holds (ts.tv_nsec + time_msec * 1000000) := by
      rw [uint32_holds_iff]
      omega
    have hLong :
        int32.Holds (ts.tv_nsec + time_msec * 1000000) := by
      rw [int32_holds_iff]
      omega
    rw [if_pos hSome, bind_check_of_holds hNsec,
      bind_check_of_holds hOld, bind_check_of_holds hSum,
      bind_check_of_holds hLong]
  · have hZero : time_msec = 0 := not_not.mp hSome
    rw [if_neg hSome, hZero, Int.zero_mul, Int.add_zero]

/- Below two seconds one carry is enough. -/
theorem carry_eq
    (ts : Timespec)
    (hLower : 0 ≤ ts.tv_nsec)
    (hUpper : ts.tv_nsec < 2000000000) :
    ∃ r, carry ts = some r ∧ r.Normal ∧
      r.nanoseconds = ts.nanoseconds := by
  unfold carry
  by_cases hCarry : 999999999 < ts.tv_nsec
  · have hRest : int32.Holds (ts.tv_nsec - 1000000000) := by
      rw [int32_holds_iff]
      omega
    rw [if_pos hCarry, bind_check_of_holds hRest]
    refine ⟨_, rfl, ⟨?_, ?_⟩, ?_⟩
    · change 0 ≤ ts.tv_nsec - 1000000000
      omega
    · change ts.tv_nsec - 1000000000 < 1000000000
      omega
    · unfold Timespec.nanoseconds
      dsimp only
      omega
  · rw [if_neg hCarry]
    exact ⟨ts, rfl, ⟨hLower, by omega⟩, rfl⟩

/-
  Nothing overflows on the way to the deadline, and it is the
  current time and the milliseconds that the timer has been
  started with.
-/
theorem deadline_exact
    {msec : Int}
    (hPositive : 0 < msec)
    (hBelow : msec < 2 ^ 32)
    {ts : Timespec}
    (hNormal : ts.Normal) :
    ∃ r,
      ((locTimerStart true msec).bind fun time_msec =>
        deadline time_msec ts) = some r ∧
        r.Normal ∧
          r.nanoseconds =
            ts.nanoseconds + msec * 1000000 := by
  have hTime : uint32.Holds msec := by
    rw [uint32_holds_iff]
    omega
  have hStart : locTimerStart true msec = some msec :=
    if_neg (by simp; omega)
  have hNonneg : 0 ≤ msec % 1000 := by omega
  have hRest : msec % 1000 < 1000 := by omega
  have hSplit : msec = msec / 1000 * 1000 + msec % 1000 := by
    omega
  rcases hNormal with ⟨hLower, hUpper⟩
  have hSum :=
    addNanoseconds_eq
      ⟨ts.tv_sec + msec / 1000, ts.tv_nsec⟩
      ⟨hLower, hUpper⟩ hNonneg hRest
  rcases
    carry_eq
      ⟨ts.tv_sec + msec / 1000,
        ts.tv_nsec + msec % 1000 * 1000000⟩
      (by dsimp only; omega) (by dsimp only; omega) with
    ⟨r, hCarry, hNormal, hSame⟩
  refine ⟨r, ?_, hNormal, ?_⟩
  · rw [hStart, Option.bind_some, deadline,
      addSeconds_eq ts hTime]
    simp only [Option.bind_eq_bind, Option.bind_some]
    rw [hSum, Option.bind_some, hCarry]
  · rw [hSame]
    unfold Timespec.nanoseconds
    dsimp only
    omega

/- A second that is carried, at the end of a second. -/
theorem deadline_exact_carried :
    ∃ r,
      ((locTimerStart true 1001).bind fun time_msec =>
        deadline time_msec ⟨7, 999999999⟩) = some r ∧
        r.Normal ∧
          r.nanoseconds =
            (⟨7, 999999999⟩ : Timespec).nanoseconds +
              1001 * 1000000 :=
  deadline_exact (by decide) (by decide) (by decide)

end LocTimer

end D2Common
