import Mathlib.Data.List.Basic

/-
  Searching a sequence with a predicate that acts.

  The predicate is asked about the elements from the front
  and may change a state each time it is asked. `search`
  stops at the first element the predicate accepts and also
  returns the sequence without that element; `drain`
  repeats a removing search until nothing is accepted.

  Key theorems include:
    * `search_of_never`
    * `drain_eq`
-/

------------------------------------------------------------
-- One Search
------------------------------------------------------------

namespace D2Common

namespace Search

variable {α σ : Type}

/-
  The first accepted element, the sequence without it, and
  the state the questions leave behind.
-/
def search
    (p : α → σ → Bool × σ) :
    List α → σ → Option α × List α × σ
| [], s => (none, [], s)
| a :: l, s =>
    match p a s with
    | (true, s') => (some a, l, s')
    | (false, s') =>
        let (found, rest, s'') := search p l s'
        (found, a :: rest, s'')

/- Apply an action for every element in order. -/
def actAll
    (act : α → σ → σ) :
    List α → σ → σ
| [], s => s
| a :: l, s => actAll act l (act a s)

/-
  A predicate that accepts nothing is asked about every
  element, and nothing is removed.
-/
theorem search_of_never
    {p : α → σ → Bool × σ}
    {act : α → σ → σ}
    (hp : ∀ a s, p a s = (false, act a s))
    (l : List α)
    (s : σ) :
    search p l s = (none, l, actAll act l s) := by
  induction l generalizing s with
  | nil => rfl
  | cons a l ih => simp [search, hp, ih, actAll]

/-
  A predicate that acts only on what it accepts: the search
  changes the state once, at the first accepted element.
-/
theorem search_eq
    {p : α → σ → Bool × σ}
    {accepts : α → Bool}
    {act : α → σ → σ}
    (hp :
      ∀ a s,
        p a s =
          if accepts a then (true, act a s)
          else (false, s))
    (l : List α)
    (s : σ) :
    search p l s =
      match l.find? accepts with
      | some a => (some a, l.eraseP accepts, act a s)
      | none => (none, l, s) := by
  induction l generalizing s with
  | nil => rfl
  | cons a l ih =>
      by_cases ha : accepts a
      · simp [search, hp, ha]
      · simp only [search, hp, ha, ih,
          Bool.false_eq_true, if_false]
        cases hFind : l.find? accepts with
        | none => simp [ha, hFind]
        | some b => simp [ha, hFind]

end Search

end D2Common

------------------------------------------------------------
-- Repeated Search
------------------------------------------------------------

namespace D2Common

namespace Search

variable {α σ : Type}

/-
  Search and remove until nothing is accepted, for at most
  `fuel` searches.
-/
def drain
    (p : α → σ → Bool × σ) :
    Nat → List α → σ → List α × σ
| 0, l, s => (l, s)
| fuel + 1, l, s =>
    match search p l s with
    | (none, _, s') => (l, s')
    | (some _, rest, s') => drain p fuel rest s'

/-
  With one search more than there are elements, draining
  removes exactly the accepted elements and acts once for
  each of them, in the order of the sequence.
-/
theorem drain_eq
    {p : α → σ → Bool × σ}
    {accepts : α → Bool}
    {act : α → σ → σ}
    (hp :
      ∀ a s,
        p a s =
          if accepts a then (true, act a s)
          else (false, s))
    (fuel : Nat)
    (l : List α)
    (s : σ)
    (hFuel : l.length < fuel) :
    drain p fuel l s =
      (l.filter (fun a => !accepts a),
        actAll act (l.filter accepts) s) := by
  induction fuel generalizing l s with
  | zero => omega
  | succ fuel ih =>
      rw [drain, search_eq hp]
      cases hFind : l.find? accepts with
      | none =>
          have hNone := List.find?_eq_none.mp hFind
          have hKeep :
              l.filter (fun a => !accepts a) = l := by
            apply List.filter_eq_self.mpr
            intro a ha
            simpa using hNone a ha
          have hDrop : l.filter accepts = [] := by
            apply List.filter_eq_nil_iff.mpr
            intro a ha
            exact hNone a ha
          simp [hKeep, hDrop, actAll]
      | some a =>
          rcases List.find?_eq_some_iff_append.mp hFind with
            ⟨ha, before, after, rfl, hBefore⟩
          have hErase :
              (before ++ a :: after).eraseP accepts =
                before ++ after := by
            rw [List.eraseP_append_right _
              (fun b hb => by simpa using hBefore b hb)]
            simp [ha]
          have hLength :
              (before ++ after).length < fuel := by
            simp at hFuel ⊢
            omega
          have hFront : before.filter accepts = [] := by
            apply List.filter_eq_nil_iff.mpr
            intro b hb
            simpa using hBefore b hb
          simp only [hErase, ih _ _ hLength,
            List.filter_append, hFront]
          simp [ha, actAll]

end Search

end D2Common
