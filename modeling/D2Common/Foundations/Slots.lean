import Mathlib.Data.List.Nodup
import Mathlib.Data.List.Perm.Basic

/-
  Tables of slots without holes.

  A table has a fixed number of slots, each free or with an
  entry. Loops over it that end at the first free slot see
  all the entries only if the used slots come first. The
  file says what such a table holds, as a list, and how the
  list changes when an entry is put into the first free slot
  or the last entry is moved into a hole.

  Key definitions include:
    * `Holds`
    * `swapRemove`

  Key theorems include:
    * `Holds.push`
    * `Holds.fillHole`
    * `swapRemove_perm`
    * `mem_swapRemove`
-/

------------------------------------------------------------
-- What a Table Holds
------------------------------------------------------------

namespace D2Common

namespace Slots

variable {α : Type}
variable {n : Nat}

/- The first slots hold a list, and the rest are free. -/
structure Holds
    (t : Vector (Option α) n)
    (l : List α) : Prop where
  fits : l.length ≤ n
  entry : ∀ i (hi : i < n), t[i] = l[i]?

/- Some slot of a table is free. -/
def HasFree
    (t : Vector (Option α) n) : Prop :=
  ∃ i, ∃ hi : i < n, t[i] = none

theorem holds_nil :
    Holds (Vector.replicate n (none : Option α)) [] where
  fits := Nat.zero_le n
  entry := by
    intro i hi
    simp

section Used

variable {t : Vector (Option α) n}
variable {l : List α}

theorem Holds.eq_none_iff
    (hHolds : Holds t l)
    {i : Nat}
    (hi : i < n) :
    t[i] = none ↔ l.length ≤ i := by
  rw [hHolds.entry i hi]
  exact List.getElem?_eq_none_iff

theorem Holds.of_lt
    (hHolds : Holds t l)
    {i : Nat}
    (hi : i < n)
    (hUsed : i < l.length) :
    t[i] = some l[i] := by
  rw [hHolds.entry]
  exact List.getElem?_eq_getElem hUsed

theorem Holds.hasFree_iff
    (hHolds : Holds t l) :
    HasFree t ↔ l.length < n := by
  constructor
  · rintro ⟨i, hi, hFree⟩
    have hUsed := (hHolds.eq_none_iff hi).mp hFree
    omega
  · intro hRoom
    exact ⟨l.length, hRoom,
      (hHolds.eq_none_iff hRoom).mpr (Nat.le_refl _)⟩

/- The entry that is put into the first free slot. -/
theorem Holds.push
    (hHolds : Holds t l)
    (hRoom : l.length < n)
    (a : α) :
    Holds (t.set l.length (some a)) (l ++ [a]) where
  fits := by
    rw [List.length_append, List.length_singleton]
    omega
  entry := by
    intro i hi
    rw [Vector.getElem_set]
    split
    · next hLast =>
        rw [← hLast]
        simp
    · next hOther =>
        rw [hHolds.entry i hi]
        rcases Nat.lt_or_gt_of_ne hOther with hAfter | hBefore
        · have hLength : (l ++ [a]).length ≤ i := by
            rw [List.length_append, List.length_singleton]
            omega
          rw [List.getElem?_eq_none hLength,
            List.getElem?_eq_none (by omega)]
        · rw [List.getElem?_append_left hBefore]

end Used

end Slots

end D2Common

------------------------------------------------------------
-- Filling a Hole with the Last Entry
------------------------------------------------------------

namespace D2Common

namespace Slots

variable {α : Type}
variable {n : Nat}

/- A list whose last element takes the place of another. -/
def swapRemove
    (l : List α)
    (k : Nat) : List α :=
  match l.getLast? with
  | some z => (l.set k z).dropLast
  | none => []

theorem swapRemove_concat
    (l : List α)
    (z : α)
    (k : Nat) :
    swapRemove (l ++ [z]) k = l.set k z := by
  have hLast :
      swapRemove (l ++ [z]) k =
        ((l ++ [z]).set k z).dropLast := by
    simp [swapRemove]
  rw [hLast]
  rcases Nat.lt_or_ge k l.length with hk | hk
  · rw [List.set_append_left _ _ hk, List.dropLast_concat]
  · rw [List.set_append_right _ _ hk,
      List.set_eq_of_length_le hk]
    cases k - l.length <;> simp

theorem swapRemove_perm
    {l : List α}
    {k : Nat}
    (hk : k < l.length) :
    (swapRemove l k).Perm (l.eraseIdx k) := by
  rcases List.eq_nil_or_concat' l with rfl | ⟨l, z, rfl⟩
  · simp at hk
  rw [swapRemove_concat]
  rcases Nat.lt_or_ge k l.length with hInner | hLast
  · rw [List.eraseIdx_append_of_lt_length hInner]
    exact (List.set_perm_cons_eraseIdx hInner z).trans
      (List.perm_append_singleton z _).symm
  · have hEnd : k = l.length := by
      rw [List.length_append, List.length_singleton] at hk
      omega
    rw [List.set_eq_of_length_le hLast,
      List.eraseIdx_append_of_length_le hLast, hEnd]
    simp

theorem length_swapRemove
    {l : List α}
    {k : Nat}
    (hk : k < l.length) :
    (swapRemove l k).length = l.length - 1 := by
  rw [(swapRemove_perm hk).length_eq,
    List.length_eraseIdx_of_lt hk]

theorem nodup_swapRemove
    {l : List α}
    {k : Nat}
    (hk : k < l.length)
    (hNodup : l.Nodup) :
    (swapRemove l k).Nodup :=
  (swapRemove_perm hk).nodup_iff.mpr
    (hNodup.sublist (List.eraseIdx_sublist l k))

/- In a list without duplicates just one element goes. -/
theorem swapRemove_perm_erase
    [DecidableEq α]
    {l : List α}
    {k : Nat}
    (hk : k < l.length)
    (hNodup : l.Nodup) :
    (swapRemove l k).Perm (l.erase l[k]) := by
  rw [hNodup.erase_getElem]
  exact swapRemove_perm hk

theorem mem_swapRemove
    [DecidableEq α]
    {l : List α}
    {k : Nat}
    (hk : k < l.length)
    (hNodup : l.Nodup)
    (x : α) :
    x ∈ swapRemove l k ↔ x ≠ l[k] ∧ x ∈ l := by
  rw [(swapRemove_perm_erase hk hNodup).mem_iff]
  exact hNodup.mem_erase_iff

/-
  The last entry is moved into a hole and its own slot is
  made free. When the hole is the last slot itself, nothing
  is moved.
-/
theorem Holds.fillHole
    {t : Vector (Option α) n}
    {l : List α}
    (hHolds : Holds t l)
    {k last : Nat}
    (hk : k < n)
    (hLast : last < n)
    (hLength : l.length = last + 1)
    (hHole : k ≤ last) :
    Holds
      (((t.set k none).set k (t.set k none)[last]).set
        last none)
      (swapRemove l k) where
  fits := by
    rw [length_swapRemove (by omega)]
    have hFits := hHolds.fits
    omega
  entry := by
    intro i hi
    rcases List.eq_nil_or_concat' l with rfl | ⟨l, z, rfl⟩
    · simp at hLength
    rw [List.length_append, List.length_singleton] at hLength
    have hEnd : t[last] = some z := by
      rw [hHolds.entry last hLast,
        show last = l.length by omega]
      simp
    rw [swapRemove_concat, Vector.set_set, Vector.getElem_set,
      Vector.getElem_set]
    by_cases hLastSlot : last = i
    · rw [if_pos hLastSlot, List.getElem?_eq_none]
      rw [List.length_set]
      omega
    · rw [if_neg hLastSlot]
      by_cases hHoleSlot : k = i
      · rw [if_pos hHoleSlot,
          Vector.getElem_set_ne hk hLast (by omega), hEnd,
          ← hHoleSlot, List.getElem?_set_self (by omega)]
      · rw [if_neg hHoleSlot, hHolds.entry i hi,
          List.getElem?_set_ne hHoleSlot]
        rcases Nat.lt_or_ge i l.length with hUsed | hFree
        · exact List.getElem?_append_left hUsed
        · rw [List.getElem?_eq_none hFree,
            List.getElem?_eq_none]
          rw [List.length_append, List.length_singleton]
          omega

end Slots

end D2Common
