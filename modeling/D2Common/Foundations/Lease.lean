import D2Common.Foundations.History

/-
  A resource that is requested and released in turn.

  The holder sends requests and releases to the owner of the
  resource. A request may also lapse: the owner refuses it
  or takes the resource back, and nothing is sent for that.
  A course of acts is lawful when a request is only sent
  while nothing is held and a release only while something
  is.

  Key definitions include:
    * `Lease.Act`
    * `Lease.Lawful`
    * `Lease.Moves`

  Key theorems include:
    * `Lease.lawful_append`
    * `Lease.between_releases`
    * `Lease.between_requests`
-/

------------------------------------------------------------
-- Lawful Courses
------------------------------------------------------------

namespace D2Common

namespace Lease

inductive Act where
  | request
  | release
  | lapse
deriving DecidableEq, Repr

/-
  The lawful courses, with whether the resource is held (or
  awaited) at the end.
-/
inductive Lawful : List Act → Bool → Prop where
  | nil : Lawful [] false
  | request
      {l : List Act}
      (hLawful : Lawful l false) :
      Lawful (l ++ [.request]) true
  | release
      {l : List Act}
      (hLawful : Lawful l true) :
      Lawful (l ++ [.release]) false
  | lapse
      {l : List Act}
      (hLawful : Lawful l true) :
      Lawful (l ++ [.lapse]) false

/- The moves that a holder makes in one go. -/
inductive Moves : Bool → List Act → Bool → Prop where
  | rest (held : Bool) : Moves held [] held
  | request : Moves false [.request] true
  | release : Moves true [.release] false
  | lapse : Moves true [.lapse] false

theorem lawful_append
    {l acts : List Act}
    {held held' : Bool}
    (hLawful : Lawful l held)
    (hMoves : Moves held acts held') :
    Lawful (l ++ acts) held' := by
  cases hMoves with
  | rest => simpa using hLawful
  | request => exact hLawful.request
  | release => exact hLawful.release
  | lapse => exact hLawful.lapse

end Lease

end D2Common

------------------------------------------------------------
-- Separation Of The Messages
------------------------------------------------------------

namespace D2Common

namespace Lease

open History

variable {l : List Act}
variable {held : Bool}

/- What ends a request. -/
def Ends (a : Act) : Prop :=
  a = .release ∨ a = .lapse

/-
  While the resource is held no release is waiting for its
  request; while it is not, no request is waiting for its
  end.
-/
theorem not_open_of_lawful
    (hLawful : Lawful l held) :
    (held = true →
        ¬ Open (· = Act.release) (· = Act.request) l) ∧
      (held = false →
        ¬ Open (· = Act.request) Ends l) := by
  cases hLawful with
  | nil => simp [not_open_nil]
  | request _ => simp [open_concat]
  | release _ => simp [open_concat, Ends]
  | lapse _ => simp [open_concat, Ends]

/- Between two releases there is a request. -/
theorem between_releases
    (hLawful : Lawful l held) :
    Between (· = Act.release) (· = Act.request)
      (· = Act.release) l := by
  induction hLawful with
  | nil => exact between_nil
  | request _ ih => exact between_concat ih (by simp)
  | release hBefore ih =>
      apply between_concat ih
      intro _
      exact (not_open_of_lawful hBefore).1 rfl
  | lapse _ ih => exact between_concat ih (by simp)

/- Between two requests something ends the first. -/
theorem between_requests
    (hLawful : Lawful l held) :
    Between (· = Act.request) Ends (· = Act.request) l := by
  induction hLawful with
  | nil => exact between_nil
  | request hBefore ih =>
      apply between_concat ih
      intro _
      exact (not_open_of_lawful hBefore).2 rfl
  | release _ ih => exact between_concat ih (by simp)
  | lapse _ ih => exact between_concat ih (by simp)

end Lease

end D2Common
