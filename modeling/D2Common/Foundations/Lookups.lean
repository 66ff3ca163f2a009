import Mathlib.Data.List.Nodup
import Mathlib.Logic.Function.Basic

/-
  Searches that delete what they find.

  A list of records in a store is searched for all that
  match a receiver, and each one found is taken from the list
  and deleted before the search is repeated. The receiver
  may be a record of the list itself. The file keeps a log
  of the records that are looked up, and says when none of
  them has been deleted before.

  Key definitions include:
    * `Lookup`
    * `searchLog`
    * `drainLog`

  Key theorems include:
    * `searchLog_append`
    * `drainLog_rest`
    * `all_live_drainLog_iff`
-/

------------------------------------------------------------
-- Searches with a Log
------------------------------------------------------------

namespace D2Common

namespace Lookups

variable {A : Type}

/- A record that is looked up, and whether it is there. -/
structure Lookup (A : Type) where
  addr : A
  live : Bool
deriving DecidableEq

/-
  The first record that passes a test, and the list without
  it. Each test looks up the record and the receiver.
-/
def searchLog
    (test live : A → Bool)
    (rcver : A) :
    List A → Option A × List A × List (Lookup A)
| [] => (none, [], [])
| e :: l =>
    let log := [⟨e, live e⟩, ⟨rcver, live rcver⟩]
    if test e then (some e, l, log)
    else
      let (found, rest, later) := searchLog test live rcver l
      (found, e :: rest, log ++ later)

/- Search and delete until nothing is found. -/
def drainLog
    [DecidableEq A]
    (test : A → Bool)
    (rcver : A) :
    Nat → (A → Bool) → List A → List A × List (Lookup A)
| 0, _, l => (l, [])
| fuel + 1, live, l =>
    match searchLog test live rcver l with
    | (none, _, log) => (l, log)
    | (some e, rest, log) =>
        let (rest, later) :=
          drainLog test rcver fuel
            (Function.update live e false) rest
        (rest, log ++ later)

/- What the test of one record looks up. -/
def looked
    (live : A → Bool)
    (rcver e : A) : List (Lookup A) :=
  [⟨e, live e⟩, ⟨rcver, live rcver⟩]

/- A search ends at the first record that passes. -/
theorem searchLog_append
    (test live : A → Bool)
    (rcver : A)
    {front back : List A}
    {e : A}
    (hFront : ∀ x ∈ front, test x = false)
    (hTest : test e = true) :
    searchLog test live rcver (front ++ e :: back) =
      (some e, front ++ back,
        (front ++ [e]).flatMap (looked live rcver)) := by
  induction front with
  | nil => simp [searchLog, hTest, looked]
  | cons x front ih =>
      have hFirst : test x = false := hFront x (by simp)
      have hRest := ih (fun y hy => hFront y (by simp [hy]))
      simp [searchLog, hFirst, hRest, looked]

theorem searchLog_none
    (test live : A → Bool)
    (rcver : A)
    {l : List A}
    (hNone : ∀ x ∈ l, test x = false) :
    searchLog test live rcver l =
      (none, l, l.flatMap (looked live rcver)) := by
  induction l with
  | nil => rfl
  | cons x l ih =>
      have hFirst : test x = false := hNone x (by simp)
      have hRest := ih (fun y hy => hNone y (by simp [hy]))
      simp [searchLog, hFirst, hRest, looked]

/- A list has a first record that passes, or none at all. -/
theorem exists_first
    (test : A → Bool)
    (l : List A) :
    (∀ x ∈ l, test x = false) ∨
      ∃ front e back,
        l = front ++ e :: back ∧
          (∀ x ∈ front, test x = false) ∧ test e = true := by
  cases hFind : l.find? test with
  | none =>
      left
      intro x hx
      simpa using List.find?_eq_none.mp hFind x hx
  | some e =>
      right
      rcases List.find?_eq_some_iff_append.mp hFind with
        ⟨hTest, front, back, hSplit, hFront⟩
      refine ⟨front, e, back, hSplit, ?_, hTest⟩
      intro x hx
      simpa using hFront x hx

section Drain

variable [DecidableEq A]
variable (test : A → Bool)
variable (rcver : A)

/- What is left are the records that do not pass. -/
theorem drainLog_rest
    (fuel : Nat)
    (live : A → Bool)
    (l : List A)
    (hFuel : l.length < fuel) :
    (drainLog test rcver fuel live l).1 =
      l.filter (fun x => !test x) := by
  induction fuel generalizing live l with
  | zero => omega
  | succ fuel ih =>
      unfold drainLog
      rcases exists_first test l with
        hNone | ⟨front, e, back, rfl, hFront, hTest⟩
      · rw [searchLog_none test live rcver hNone]
        refine (List.filter_eq_self.mpr ?_).symm
        intro x hx
        simp [hNone x hx]
      · rw [searchLog_append test live rcver hFront hTest]
        have hLess : (front ++ back).length < fuel := by
          rw [List.length_append] at hFuel ⊢
          rw [List.length_cons] at hFuel
          omega
        simp only [ih _ _ hLess]
        simp [List.filter_append, hTest]

/- No deleted record has been looked up. -/
def AllLive (log : List (Lookup A)) : Prop :=
  ∀ c ∈ log, c.live = true

instance (log : List (Lookup A)) : Decidable (AllLive log) :=
  inferInstanceAs (Decidable (∀ c ∈ log, c.live = true))

omit [DecidableEq A] in
theorem allLive_flatMap_looked
    {live : A → Bool}
    {l : List A}
    (hLive : ∀ x ∈ l, live x = true)
    (hRcver : live rcver = true) :
    AllLive (l.flatMap (looked live rcver)) := by
  intro c hc
  rcases List.mem_flatMap.mp hc with ⟨x, hx, hLooked⟩
  simp only [looked, List.mem_cons, List.not_mem_nil,
    or_false] at hLooked
  rcases hLooked with rfl | rfl
  · exact hLive x hx
  · exact hRcver

omit [DecidableEq A] in
/- A search in a list with records looks up the receiver. -/
theorem mem_searchLog
    (live : A → Bool)
    {l : List A}
    (hSome : l ≠ []) :
    (⟨rcver, live rcver⟩ : Lookup A) ∈
      (searchLog test live rcver l).2.2 := by
  cases l with
  | nil => exact absurd rfl hSome
  | cons e l =>
      unfold searchLog
      split <;> simp

/-
  Once the receiver has been deleted, only the search of an
  empty list is safe.
-/
theorem allLive_drainLog_iff_nil
    {fuel : Nat}
    (hFuel : 0 < fuel)
    {live : A → Bool}
    (hDead : live rcver = false)
    (l : List A) :
    AllLive (drainLog test rcver fuel live l).2 ↔ l = [] := by
  obtain ⟨fuel, rfl⟩ := Nat.exists_eq_succ_of_ne_zero
    (Nat.ne_of_gt hFuel)
  constructor
  · intro hAll
    by_contra hSome
    have hMem := mem_searchLog test rcver live hSome
    rw [hDead] at hMem
    have hLive : (false : Bool) = true := by
      apply hAll ⟨rcver, false⟩
      unfold drainLog
      cases hSearch : searchLog test live rcver l with
      | mk found rest =>
          rw [hSearch] at hMem
          cases found with
          | none => exact hMem
          | some e => exact List.mem_append_left _ hMem
    exact absurd hLive (by decide)
  · rintro rfl
    intro c hc
    simp [drainLog, searchLog] at hc

omit [DecidableEq A] in
theorem mem_middle_iff
    {front back : List A}
    {e x : A} :
    x ∈ front ++ e :: back ↔ x = e ∨ x ∈ front ++ back := by
  rw [List.perm_middle.mem_iff, List.mem_cons]

/-
  A search that finds a record looks up only what is there,
  so the rest of the log decides.
-/
theorem allLive_drainLog_step
    {fuel : Nat}
    {live : A → Bool}
    {front back : List A}
    {e : A}
    (hFront : ∀ x ∈ front, test x = false)
    (hTest : test e = true)
    (hLive : ∀ x ∈ front ++ e :: back, live x = true)
    (hRcver : live rcver = true) :
    AllLive
        (drainLog test rcver (fuel + 1) live
          (front ++ e :: back)).2 ↔
      AllLive
        (drainLog test rcver fuel
          (Function.update live e false)
          (front ++ back)).2 := by
  have hFirst :
      AllLive ((front ++ [e]).flatMap (looked live rcver)) := by
    apply allLive_flatMap_looked rcver _ hRcver
    intro x hx
    apply hLive
    rcases List.mem_append.mp hx with hx | hx
    · exact List.mem_append_left _ hx
    · exact mem_middle_iff.mpr
        (Or.inl (List.mem_singleton.mp hx))
  rw [drainLog, searchLog_append test live rcver hFront hTest]
  constructor
  · intro hAll c hc
    exact hAll c (List.mem_append_right _ hc)
  · intro hAll c hc
    rcases List.mem_append.mp hc with hc | hc
    · exact hFirst c hc
    · exact hAll c hc

omit [DecidableEq A] in
/- Nothing is left behind a receiver that is found last. -/
theorem nil_iff_last_of_found
    {front back : List A}
    (hFront : ∀ x ∈ front, test x = false)
    (hTest : test rcver = true)
    (hGone : rcver ∉ front ++ back) :
    front ++ back = [] ↔
      (front ++ rcver :: back).getLast? = some rcver ∧
        ∀ x ∈ front ++ rcver :: back, test x = true := by
  constructor
  · intro hNil
    rcases List.append_eq_nil_iff.mp hNil with ⟨rfl, rfl⟩
    simp [hTest]
  · rintro ⟨hEnd, hAll⟩
    by_contra hSome
    cases back with
    | nil =>
        cases front with
        | nil => exact hSome rfl
        | cons x front =>
            have hNo := hFront x (by simp)
            rw [hAll x (by simp)] at hNo
            exact absurd hNo (by decide)
    | cons x back =>
        rw [List.getLast?_append_cons,
          List.getLast?_cons_cons] at hEnd
        have hIn := List.mem_of_getLast? hEnd
        exact hGone (List.mem_append_right _ hIn)

omit [DecidableEq A] in
/- A record that is found before the receiver is not last. -/
theorem last_iff_of_found_before
    {front back : List A}
    {e : A}
    (hTest : test e = true)
    (hBack : rcver ∈ back) :
    ((front ++ back).getLast? = some rcver ∧
        ∀ x ∈ front ++ back, test x = true) ↔
      (front ++ e :: back).getLast? = some rcver ∧
        ∀ x ∈ front ++ e :: back, test x = true := by
  have hEnd :
      (front ++ e :: back).getLast? =
        (front ++ back).getLast? := by
    cases back with
    | nil => exact absurd hBack List.not_mem_nil
    | cons x back =>
        rw [List.getLast?_append_cons,
          List.getLast?_append_cons,
          List.getLast?_cons_cons]
  rw [hEnd]
  apply and_congr_right
  intro _
  constructor
  · intro hAll x hx
    rcases mem_middle_iff.mp hx with rfl | hx
    · exact hTest
    · exact hAll x hx
  · intro hAll x hx
    exact hAll x (mem_middle_iff.mpr (Or.inr hx))

/-
  The receiver is on the list. No deleted record is looked
  up if and only if the receiver is the last record and all
  before it pass the test as well, so that nothing is left
  to search when it is deleted.
-/
theorem all_live_drainLog_iff
    (fuel : Nat)
    (live : A → Bool)
    (l : List A)
    (hFuel : l.length < fuel)
    (hNodup : l.Nodup)
    (hLive : ∀ x ∈ l, live x = true)
    (hMem : rcver ∈ l)
    (hSelf : test rcver = true) :
    AllLive (drainLog test rcver fuel live l).2 ↔
      l.getLast? = some rcver ∧ ∀ x ∈ l, test x = true := by
  induction fuel generalizing live l with
  | zero => omega
  | succ fuel ih =>
      rcases exists_first test l with
        hNone | ⟨front, e, back, rfl, hFront, hTest⟩
      · rw [hNone rcver hMem] at hSelf
        exact absurd hSelf (by decide)
      have hNotFront : rcver ∉ front := by
        intro hIn
        rw [hFront rcver hIn] at hSelf
        exact absurd hSelf (by decide)
      have hLess : (front ++ back).length < fuel := by
        rw [List.length_append] at hFuel ⊢
        rw [List.length_cons] at hFuel
        omega
      rw [allLive_drainLog_step test rcver hFront hTest hLive
        (hLive rcver hMem)]
      rw [List.perm_middle.nodup_iff, List.nodup_cons]
        at hNodup
      rcases hNodup with ⟨hGone, hNodup⟩
      by_cases hSame : e = rcver
      · subst hSame
        rw [allLive_drainLog_iff_nil test e (by omega)
          (Function.update_self e false live)]
        exact nil_iff_last_of_found test e hFront hTest hGone
      · have hBack : rcver ∈ back := by
          rcases List.mem_append.mp hMem with hIn | hIn
          · exact absurd hIn hNotFront
          · rcases List.mem_cons.mp hIn with hEq | hIn
            · exact absurd hEq.symm hSame
            · exact hIn
        have hStill :
            ∀ x ∈ front ++ back,
              Function.update live e false x = true := by
          intro x hx
          have hOther : x ≠ e := by
            rintro rfl
            exact hGone hx
          rw [Function.update_of_ne hOther]
          exact hLive x (mem_middle_iff.mpr (Or.inr hx))
        rw [ih (Function.update live e false) (front ++ back)
          hLess hNodup hStill
          (List.mem_append_right _ hBack)]
        exact last_iff_of_found_before test rcver hTest hBack

end Drain

end Lookups

end D2Common
