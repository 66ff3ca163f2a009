import Mathlib.Data.List.Basic

/-
  Chains of pointers.

  A pointer may be null. A walk follows one link of every
  node it visits and ends at some pointer. A doubly linked
  chain is a walk from its head, and the same walk backwards
  from its tail, both to null.

  Key definitions include:
    * `Chain.Walk`
    * `Chain.Linked`

  Key theorems include:
    * `Chain.walk_append`
    * `Chain.nodup_of_walk`
    * `Chain.linked_cons`
    * `Chain.linked_erase`
-/

------------------------------------------------------------
-- Walks
------------------------------------------------------------

namespace D2Common

namespace Chain

variable {A : Type}

/- Following `next` from `x` visits `l` and ends at `y`. -/
def Walk
    (next : A → Option A) :
    Option A → List A → Option A → Prop
| x, [], y => x = y
| x, a :: l, y => x = some a ∧ Walk next (next a) l y

variable {next next' : A → Option A}

theorem walk_append
    (x : Option A)
    (l m : List A)
    (y : Option A) :
    Walk next x (l ++ m) y ↔
      ∃ z, Walk next x l z ∧ Walk next z m y := by
  induction l generalizing x with
  | nil => simp [Walk]
  | cons a l ih => simp [Walk, ih, and_assoc]

/- A walk depends on the links of its nodes only. -/
theorem walk_congr
    {l : List A}
    (hSame : ∀ a ∈ l, next a = next' a)
    {x y : Option A}
    (hWalk : Walk next x l y) :
    Walk next' x l y := by
  induction l generalizing x with
  | nil => exact hWalk
  | cons a l ih =>
      refine ⟨hWalk.1, ?_⟩
      rw [← hSame a (by simp)]
      exact ih (fun b hb => hSame b (by simp [hb])) hWalk.2

/- The walk to null is the only one. -/
theorem eq_of_walk
    {x : Option A}
    {l m : List A}
    (hl : Walk next x l none)
    (hm : Walk next x m none) :
    l = m := by
  induction l generalizing x m with
  | nil =>
      cases m with
      | nil => rfl
      | cons b m =>
          have hNull : x = none := hl
          rw [hNull] at hm
          exact absurd hm.1 (by simp)
  | cons a l ih =>
      rcases hl with ⟨rfl, hl⟩
      cases m with
      | nil => exact absurd hm (by simp [Walk])
      | cons b m =>
          rcases hm with ⟨hSame, hm⟩
          cases hSame
          rw [ih hl hm]

/- A walk to null visits no node twice. -/
theorem nodup_of_walk
    {x : Option A}
    {l : List A}
    (hWalk : Walk next x l none) :
    l.Nodup := by
  induction l generalizing x with
  | nil => exact List.nodup_nil
  | cons a l ih =>
      rcases hWalk with ⟨-, hWalk⟩
      refine List.nodup_cons.mpr ⟨?_, ih hWalk⟩
      intro ha
      -- From `a` on there would be a longer walk.
      rcases List.append_of_mem ha with ⟨p, q, rfl⟩
      rcases (walk_append _ p (a :: q) _).mp hWalk with
        ⟨z, -, -, hq⟩
      have hSame := eq_of_walk hWalk hq
      have hLength := congrArg List.length hSame
      simp at hLength
      omega

theorem head_of_walk
    {x : Option A}
    {l : List A}
    (hWalk : Walk next x l none) :
    x = l.head? := by
  cases l with
  | nil => exact hWalk
  | cons a l => exact hWalk.1

/- The link of a node leads to the node after it. -/
theorem next_of_walk
    {x : Option A}
    {p q : List A}
    {a : A}
    (hWalk : Walk next x (p ++ a :: q) none) :
    next a = q.head? := by
  rcases (walk_append _ p (a :: q) _).mp hWalk with
    ⟨z, -, -, hq⟩
  exact head_of_walk hq

variable [DecidableEq A]

/-
  A node leaves the walk when the node before it, or the
  start, takes over its link.
-/
theorem walk_erase
    {x : Option A}
    {p q : List A}
    {a : A}
    (hWalk : Walk next x (p ++ a :: q) none)
    (hNext :
      ∀ b ∈ p ++ q,
        next' b =
          if p.getLast? = some b then next a else next b) :
    Walk next' (if p = [] then next a else x) (p ++ q)
      none := by
  have hNodup := nodup_of_walk hWalk
  rcases (walk_append _ p (a :: q) _).mp hWalk with
    ⟨z, hp, rfl, hq⟩
  rcases List.eq_nil_or_concat' p with rfl | ⟨p, b, rfl⟩
  · rw [if_pos rfl]
    apply walk_congr _ hq
    intro c hc
    rw [hNext c hc]
    simp
  · have hDistinct :
        ∀ c ∈ p ++ q, c ≠ b := by
      rintro c hc rfl
      have hApart :
          c ∉ p ++ a :: q := by
        have hMoved :
            (c :: (p ++ a :: q)).Nodup := by
          apply List.Perm.nodup _ hNodup
          simp [List.perm_middle]
        exact (List.nodup_cons.mp hMoved).1
      apply hApart
      rcases List.mem_append.mp hc with hc | hc
      · simp [hc]
      · simp [hc]
    have hOther :
        ∀ c ∈ p ++ q, next c = next' c := by
      intro c hc
      rw [hNext c (by
        rcases List.mem_append.mp hc with hc | hc <;>
          simp [hc])]
      simp [Ne.symm (hDistinct c hc)]
    have hLast : next' b = next a := by
      rw [hNext b (by simp)]
      simp
    rw [if_neg (by simp)]
    rcases (walk_append _ p [b] _).mp hp with
      ⟨y, hFront, hb⟩
    rw [List.append_assoc]
    apply (walk_append _ _ _ _).mpr
    refine ⟨y, ?_, hb.1, ?_⟩
    · apply walk_congr _ hFront
      intro c hc
      exact hOther c (by simp [hc])
    · rw [hLast]
      apply walk_congr _ hq
      intro c hc
      exact hOther c (by simp [hc])

/- A node joins the walk at its end. -/
theorem walk_concat
    {x : Option A}
    {l : List A}
    {a : A}
    (hWalk : Walk next x l none)
    (hNull : next' a = none)
    (hNext :
      ∀ b ∈ l,
        next' b =
          if l.getLast? = some b then some a else next b) :
    Walk next' (if l = [] then some a else x) (l ++ [a])
      none := by
  have hNodup := nodup_of_walk hWalk
  rcases List.eq_nil_or_concat' l with rfl | ⟨l, b, rfl⟩
  · exact ⟨rfl, hNull⟩
  · have hFresh : b ∉ l := by
      have hMoved : (b :: l).Nodup := by
        apply List.Perm.nodup _ hNodup
        simp [List.perm_append_singleton]
      exact (List.nodup_cons.mp hMoved).1
    rw [if_neg (by simp)]
    rcases (walk_append _ l [b] _).mp hWalk with
      ⟨y, hFront, hb⟩
    rw [List.append_assoc]
    apply (walk_append _ _ _ _).mpr
    refine ⟨y, ?_, hb.1, ?_, hNull⟩
    · apply walk_congr _ hFront
      intro c hc
      have hApart : b ≠ c := by
        rintro rfl
        exact hFresh hc
      rw [hNext c (by simp [hc])]
      simp [hApart]
    · rw [hNext b (by simp)]
      simp

end Chain

end D2Common

------------------------------------------------------------
-- Doubly Linked Chains
------------------------------------------------------------

namespace D2Common

namespace Chain

variable {A : Type}

/- The nodes from a head, and backwards from a tail. -/
structure Linked
    (next prev : A → Option A)
    (head tail : Option A)
    (l : List A) : Prop where
  forward : Walk next head l none
  backward : Walk prev tail l.reverse none

variable {next next' prev prev' : A → Option A}
variable {head tail : Option A}

theorem head_of_linked
    {l : List A}
    (hl : Linked next prev head tail l) :
    head = l.head? :=
  head_of_walk hl.forward

theorem tail_of_linked
    {l : List A}
    (hl : Linked next prev head tail l) :
    tail = l.getLast? := by
  rw [head_of_walk hl.backward, List.head?_reverse]

/- Both ends are null, or none is. -/
theorem head_eq_none_iff
    {l : List A}
    (hl : Linked next prev head tail l) :
    head = none ↔ tail = none := by
  rw [head_of_linked hl, tail_of_linked hl]
  simp

theorem next_of_linked
    {p q : List A}
    {a : A}
    (hl : Linked next prev head tail (p ++ a :: q)) :
    next a = q.head? :=
  next_of_walk hl.forward

theorem prev_of_linked
    {p q : List A}
    {a : A}
    (hl : Linked next prev head tail (p ++ a :: q)) :
    prev a = p.getLast? := by
  have hBackward := hl.backward
  rw [List.reverse_append, List.reverse_cons,
    List.append_assoc, List.singleton_append] at hBackward
  rw [next_of_walk hBackward, List.head?_reverse]

variable [DecidableEq A]

/- A node in front of the head. -/
theorem linked_cons
    {l : List A}
    {a : A}
    (hl : Linked next prev head tail l)
    (hFirst : next' a = head)
    (hNext : ∀ b ∈ l, next' b = next b)
    (hNull : prev' a = none)
    (hPrev :
      ∀ b ∈ l,
        prev' b =
          if head = some b then some a else prev b) :
    Linked next' prev' (some a)
      (if head = none then some a else tail) (a :: l) := by
  constructor
  · refine ⟨rfl, ?_⟩
    rw [hFirst]
    exact
      walk_congr (fun b hb => (hNext b hb).symm) hl.forward
  · have hHead := head_of_linked hl
    have hBackward :
        Walk prev' (if l.reverse = [] then some a else tail)
          (l.reverse ++ [a]) none := by
      apply walk_concat hl.backward hNull
      intro b hb
      rw [List.getLast?_reverse, ← hHead]
      exact hPrev b (List.mem_reverse.mp hb)
    rw [List.reverse_cons]
    cases l with
    | nil => simpa [hHead] using hBackward
    | cons b l => simpa [hHead] using hBackward

/- A node anywhere in the chain leaves it. -/
theorem linked_erase
    {p q : List A}
    {a : A}
    (hl : Linked next prev head tail (p ++ a :: q))
    (hNext :
      ∀ b ∈ p ++ q,
        next' b =
          if prev a = some b then next a else next b)
    (hPrev :
      ∀ b ∈ p ++ q,
        prev' b =
          if next a = some b then prev a else prev b) :
    Linked next' prev'
      (if prev a = none then next a else head)
      (if next a = none then prev a else tail)
      (p ++ q) := by
  have hBefore := prev_of_linked hl
  have hAfter := next_of_linked hl
  constructor
  · have hForward :
        Walk next' (if p = [] then next a else head) (p ++ q)
          none := by
      apply walk_erase hl.forward
      intro b hb
      rw [← hBefore]
      exact hNext b hb
    simpa [hBefore] using hForward
  · have hSplit :
        (p ++ a :: q).reverse =
          q.reverse ++ a :: p.reverse := by
      simp
    have hBackward :
        Walk prev' (if q.reverse = [] then prev a else tail)
          (q.reverse ++ p.reverse) none := by
      apply walk_erase (hSplit ▸ hl.backward)
      intro b hb
      rw [List.getLast?_reverse, ← hAfter]
      apply hPrev b
      rcases List.mem_append.mp hb with hb | hb
      · simp [List.mem_reverse.mp hb]
      · simp [List.mem_reverse.mp hb]
    rw [List.reverse_append]
    simpa [hAfter] using hBackward

end Chain

end D2Common
