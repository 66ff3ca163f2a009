import Mathlib.Data.List.Basic
import Mathlib.Logic.Function.Basic
import Mathlib.Logic.Nontrivial.Basic

/-
  Sequences of writes to places.

  A memory is a function from places to values, and a
  sequence of writes says which place gets which value. What
  a place holds afterwards is the last value written to it,
  or what it held before.

  Key definitions include:
    * `writeAll`
    * `lastAt`

  Key theorems include:
    * `lastAt_append`
    * `lastAt_eq_some`
    * `writeAll_apply`
    * `forall_writeAll_iff`
    * `writeAll_eq_self_iff`
    * `stands_writeAll_textAt`
-/

------------------------------------------------------------
-- Writes
------------------------------------------------------------

namespace D2Common

namespace Writes

variable {P V : Type} [DecidableEq P]

/- Make writes to a memory, in order. -/
def writeAll
    (ws : List (P × V))
    (m : P → V) : P → V :=
  ws.foldl (fun m w => Function.update m w.1 w.2) m

/- The last value that is written to a place. -/
def lastAt
    (p : P)
    (ws : List (P × V)) : Option V :=
  (ws.filter fun w => w.1 = p).getLast?.map Prod.snd

@[simp] theorem writeAll_nil (m : P → V) :
    writeAll [] m = m := rfl

theorem writeAll_cons
    (w : P × V)
    (ws : List (P × V))
    (m : P → V) :
    writeAll (w :: ws) m =
      writeAll ws (Function.update m w.1 w.2) := rfl

theorem writeAll_append
    (ws ws' : List (P × V))
    (m : P → V) :
    writeAll (ws ++ ws') m = writeAll ws' (writeAll ws m) :=
  List.foldl_append

@[simp] theorem lastAt_nil (p : P) :
    lastAt p ([] : List (P × V)) = none := rfl

/- The later writes decide, if there are any. -/
theorem lastAt_append
    (p : P)
    (ws ws' : List (P × V)) :
    lastAt p (ws ++ ws') =
      (lastAt p ws').or (lastAt p ws) := by
  unfold lastAt
  rw [List.filter_append, List.getLast?_append]
  cases (ws'.filter fun w => w.1 = p).getLast? <;> rfl

theorem lastAt_singleton
    (p : P)
    (w : P × V) :
    lastAt p [w] = if w.1 = p then some w.2 else none := by
  unfold lastAt
  by_cases hPlace : w.1 = p <;> simp [hPlace]

theorem lastAt_cons
    (p : P)
    (w : P × V)
    (ws : List (P × V)) :
    lastAt p (w :: ws) =
      (lastAt p ws).or (lastAt p [w]) :=
  lastAt_append p [w] ws

theorem lastAt_eq_none_iff
    {p : P}
    {ws : List (P × V)} :
    lastAt p ws = none ↔ ∀ w ∈ ws, w.1 ≠ p := by
  simp [lastAt]

/- The last value is one of those that are written. -/
theorem mem_of_lastAt
    {p : P}
    {ws : List (P × V)}
    {x : V}
    (hLast : lastAt p ws = some x) :
    (p, x) ∈ ws := by
  unfold lastAt at hLast
  rcases Option.map_eq_some_iff.mp hLast with ⟨w, hw, rfl⟩
  have hMem := List.mem_of_getLast? hw
  rw [List.mem_filter, decide_eq_true_iff] at hMem
  rw [← hMem.2]
  exact hMem.1

/- A place that gets one value only. -/
theorem lastAt_eq_some
    {p : P}
    {ws : List (P × V)}
    {x : V}
    (hSome : (p, x) ∈ ws)
    (hOnly : ∀ w ∈ ws, w.1 = p → w.2 = x) :
    lastAt p ws = some x := by
  cases hLast : lastAt p ws with
  | none =>
      exact absurd rfl
        (lastAt_eq_none_iff.mp hLast (p, x) hSome)
  | some y =>
      rw [← hOnly (p, y) (mem_of_lastAt hLast) rfl]

/- What a place holds after the writes. -/
theorem writeAll_apply
    (ws : List (P × V))
    (m : P → V)
    (p : P) :
    writeAll ws m p = (lastAt p ws).getD (m p) := by
  induction ws generalizing m with
  | nil => rfl
  | cons w ws ih =>
      rw [writeAll_cons, ih, lastAt_cons, lastAt_singleton]
      cases lastAt p ws with
      | some x => rfl
      | none =>
          by_cases hPlace : w.1 = p
          · simp [hPlace]
          · simp [hPlace, Function.update_of_ne
              (Ne.symm hPlace)]

/- A place always ends up with the last value, if any. -/
theorem forall_writeAll_iff
    [Nontrivial V]
    (ws : List (P × V))
    (p : P)
    (x : V) :
    (∀ m, writeAll ws m p = x) ↔ lastAt p ws = some x := by
  constructor
  · intro hAll
    rcases exists_ne x with ⟨y, hy⟩
    have hHeld := hAll fun _ => y
    rw [writeAll_apply] at hHeld
    cases hLast : lastAt p ws with
    | none =>
        rw [hLast] at hHeld
        exact absurd hHeld hy
    | some z =>
        rw [hLast] at hHeld
        rw [← hHeld]
        rfl
  · intro hLast m
    rw [writeAll_apply, hLast]
    rfl

/- Only no writes leave every memory as it is. -/
theorem writeAll_eq_self_iff
    [Nontrivial V]
    (ws : List (P × V)) :
    (∀ m, writeAll ws m = m) ↔ ws = [] := by
  constructor
  · intro hSelf
    rcases List.eq_nil_or_concat ws with hNil |
      ⟨before, w, hLast⟩
    · exact hNil
    · -- a memory that holds another value than the last one
      rcases exists_ne w.2 with ⟨x, hx⟩
      have hHeld :=
        congrFun (hSelf fun _ => x) w.1
      rw [hLast, List.concat_eq_append, writeAll_apply,
        lastAt_append, lastAt_singleton, if_pos rfl] at hHeld
      exact absurd hHeld.symm hx
  · rintro rfl m
    rfl

end Writes

end D2Common

------------------------------------------------------------
-- Texts
------------------------------------------------------------

namespace D2Common

namespace Writes

variable {P V : Type}

/- The writes of a text, from a position on. -/
def textAt : Nat → List V → List (Nat × V)
| _, [] => []
| pos, x :: text => (pos, x) :: textAt (pos + 1) text

/- A memory has a text from a position on. -/
def Stands
    (m : Nat → V)
    (pos : Nat)
    (text : List V) : Prop :=
  ∀ i, i < text.length → text[i]? = some (m (pos + i))

theorem textAt_append
    (pos : Nat)
    (text more : List V) :
    textAt pos (text ++ more) =
      textAt pos text ++ textAt (pos + text.length) more := by
  induction text generalizing pos with
  | nil => rfl
  | cons x text ih =>
      rw [List.cons_append, textAt, ih, List.length_cons,
        Nat.add_right_comm, Nat.add_assoc pos text.length 1]
      rfl

theorem bounds_of_mem_textAt
    {pos : Nat}
    {text : List V}
    {w : Nat × V}
    (hw : w ∈ textAt pos text) :
    pos ≤ w.1 ∧ w.1 < pos + text.length := by
  induction text generalizing pos with
  | nil => cases hw
  | cons x text ih =>
      rw [List.length_cons]
      rcases List.mem_cons.mp hw with rfl | hw
      · exact ⟨Nat.le_refl pos, by dsimp only; omega⟩
      · have hLater := ih hw
        omega

theorem lastAt_textAt
    (pos : Nat)
    (text : List V)
    (i : Nat) :
    lastAt (pos + i) (textAt pos text) = text[i]? := by
  induction text generalizing pos i with
  | nil => rfl
  | cons x text ih =>
      rw [textAt, lastAt_cons, lastAt_singleton]
      cases i with
      | zero =>
          have hLater :
              lastAt (pos + 0) (textAt (pos + 1) text) =
                none := by
            refine lastAt_eq_none_iff.mpr fun w hw => ?_
            have hBounds := bounds_of_mem_textAt hw
            omega
          rw [hLater]
          simp
      | succ i =>
          have hNext : pos + (i + 1) = pos + 1 + i := by omega
          rw [hNext, ih, if_neg (by dsimp only; omega),
            Option.or_none]
          rfl

/- A text that has been written is there. -/
theorem stands_writeAll_textAt
    (pos : Nat)
    (text : List V)
    (m : Nat → V) :
    Stands (writeAll (textAt pos text) m) pos text := by
  intro i hi
  rw [writeAll_apply, lastAt_textAt,
    List.getElem?_eq_getElem hi]
  rfl

/- Of two writes to one place the second one counts. -/
theorem writeAll_twice
    [DecidableEq P]
    (p : P)
    (x y : V)
    (ws : List (P × V))
    (m : P → V) :
    writeAll ((p, x) :: (p, y) :: ws) m =
      writeAll ((p, y) :: ws) m := by
  rw [writeAll_cons, writeAll_cons, writeAll_cons,
    Function.update_idem]

end Writes

end D2Common
