import Mathlib.Data.List.Nodup
import Mathlib.Data.List.Perm.Basic

/-
  Things that are handed over.

  Things arrive, are held for a while and leave. When every
  step balances, all that has arrived is held or has left;
  when no two arrivals are the same, each of them is in one
  place.

  Key definitions include:
    * `Custody.Balanced`
    * `Custody.Numbered`

  Key theorems include:
    * `Custody.Balanced.concat`
    * `Custody.Balanced.count_eq_one`
    * `Custody.Numbered.concat`
-/

------------------------------------------------------------
-- Balance
------------------------------------------------------------

namespace D2Common

namespace Custody

variable {α β κ : Type}

/- All that has arrived is held or has left. -/
def Balanced (arrived held left : List κ) : Prop :=
  arrived.Perm (held ++ left)

theorem balanced_nil :
    Balanced ([] : List κ) [] [] :=
  List.Perm.refl _

/- A step that keeps the balance. -/
theorem Balanced.concat
    {arrived held held' left : List κ}
    (hBefore : Balanced arrived held left)
    {new gone : List κ}
    (hStep : (held ++ new).Perm (held' ++ gone)) :
    Balanced (arrived ++ new) held' (left ++ gone) := by
  calc
    List.Perm (arrived ++ new) ((held ++ left) ++ new) :=
      hBefore.append_right _
    List.Perm _ (left ++ (held ++ new)) := by
      rw [← List.append_assoc]
      exact List.perm_append_comm.append_right _
    List.Perm _ (left ++ (held' ++ gone)) :=
      hStep.append_left _
    List.Perm _ ((left ++ held') ++ gone) := by
      rw [List.append_assoc]
    List.Perm _ ((held' ++ left) ++ gone) :=
      List.perm_append_comm.append_right _
    List.Perm _ (held' ++ (left ++ gone)) := by
      rw [List.append_assoc]

/- What is held or has left has arrived. -/
theorem Balanced.mem_iff
    {arrived held left : List κ}
    (hBalanced : Balanced arrived held left)
    (x : κ) :
    x ∈ arrived ↔ x ∈ held ∨ x ∈ left :=
  (List.Perm.mem_iff hBalanced).trans List.mem_append

/- Whatever arrives once is in one place. -/
theorem Balanced.count_eq_one
    [DecidableEq κ]
    {arrived held left : List κ}
    (hBalanced : Balanced arrived held left)
    (hNodup : arrived.Nodup)
    {x : κ}
    (hx : x ∈ arrived) :
    held.count x + left.count x = 1 := by
  rw [← List.count_append, ← List.Perm.count_eq hBalanced]
  exact List.count_eq_one_of_mem hNodup hx

/-
  An entry of a list that is changed gives up what it had
  for what it has.
-/
theorem filterMap_modify_perm
    (f : α → Option β)
    (g : α → α)
    {l : List α}
    {n : Nat}
    {x : α}
    (hx : l[n]? = some x) :
    (l.filterMap f ++ (f (g x)).toList).Perm
      ((l.modify n g).filterMap f ++ (f x).toList) := by
  have hCons :
      ∀ y l,
        List.filterMap f (y :: l) =
          (f y).toList ++ l.filterMap f := by
    intro y l
    cases hf : f y <;> simp [hf]
  induction l generalizing n with
  | nil => simp at hx
  | cons y l ih =>
      cases n with
      | zero =>
          have hxy : y = x := by simpa using hx
          subst hxy
          rw [List.modify_zero_cons, hCons, hCons]
          calc
            List.Perm _ ((f (g y)).toList ++ (_ ++ _)) :=
              List.perm_append_comm
            List.Perm _ ((f (g y)).toList ++ (_ ++ _)) :=
              List.perm_append_comm.append_left _
            List.Perm _ _ := by rw [List.append_assoc]
      | succ n =>
          have hTail : l[n]? = some x := by simpa using hx
          rw [List.modify_succ_cons, hCons, hCons,
            List.append_assoc, List.append_assoc]
          exact (ih hTail).append_left _

end Custody

end D2Common

------------------------------------------------------------
-- Numbers
------------------------------------------------------------

namespace D2Common

namespace Custody

variable {κ : Type}
variable {number : κ → Nat}

/- The numbers of a list rise, and stay below a bound. -/
structure Numbered
    (number : κ → Nat)
    (l : List κ)
    (n : Nat) : Prop where
  rising : l.Pairwise fun x y => number x < number y
  below : ∀ x ∈ l, number x < n

theorem numbered_nil
    (n : Nat) :
    Numbered number [] n :=
  ⟨List.Pairwise.nil, by simp⟩

theorem Numbered.nodup
    {l : List κ}
    {n : Nat}
    (hNumbered : Numbered number l n) :
    l.Nodup := by
  apply hNumbered.rising.imp
  rintro x y hLess rfl
  omega

theorem Numbered.mono
    {l : List κ}
    {n m : Nat}
    (hNumbered : Numbered number l n)
    (hLe : n ≤ m) :
    Numbered number l m := by
  refine ⟨hNumbered.rising, ?_⟩
  intro x hx
  have hBelow := hNumbered.below x hx
  omega

/- What arrives with the next number is new. -/
theorem Numbered.concat
    {l : List κ}
    {n : Nat}
    (hNumbered : Numbered number l n)
    {x : κ}
    (hx : number x = n) :
    Numbered number (l ++ [x]) (n + 1) := by
  constructor
  · apply List.pairwise_append.mpr
    refine ⟨hNumbered.rising, List.pairwise_singleton _ _, ?_⟩
    intro y hy z hz
    rw [List.mem_singleton.mp hz, hx]
    exact hNumbered.below y hy
  · intro y hy
    rcases List.mem_append.mp hy with hy | hy
    · have hBelow := hNumbered.below y hy
      omega
    · rw [List.mem_singleton.mp hy]
      omega

end Custody

end D2Common
