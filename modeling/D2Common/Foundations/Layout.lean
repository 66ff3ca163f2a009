import Mathlib.Data.List.Basic

/-
  Reading what has been laid out.

  A reader takes values off a stream and may fail. What the
  stream holds next is a list of items, in the order in which
  they were written. A reader reads a layout when it takes
  exactly its items off every stream that begins with them,
  whatever follows.

  Key definitions include:
    * `Reads`
    * `times`

  Key theorems include:
    * `ok_of_bind`
    * `Reads.bind`
    * `reads_times`
-/

------------------------------------------------------------
-- Readers And Layouts
------------------------------------------------------------

namespace D2Common

namespace Layout

variable {S ι ε α : Type}

/- A reader of a stream, which may fail. -/
abbrev Reader (S ε α : Type) := StateT S (Except ε) α

/-
  The reader gives this result for these items, and leaves
  what follows them. Nothing is left after a failure.
-/
def Reads
    (holds : S → List ι → Prop)
    (read : Reader S ε α)
    (items : List ι)
    (result : Except ε α) : Prop :=
  ∀ p rest,
    holds p (items ++ rest) →
      match result with
      | .ok a =>
          ∃ p', read.run p = .ok (a, p') ∧ holds p' rest
      | .error e => read.run p = .error e

/- The same reader, a number of times. -/
def times
    (read : Reader S ε α) : Nat → Reader S ε (List α)
| 0 => pure []
| n + 1 => do
    let a ← read
    let as ← times read n
    pure (a :: as)

end Layout

end D2Common

------------------------------------------------------------
-- Computations That May Fail
------------------------------------------------------------

namespace D2Common

namespace Layout

variable {ε α β : Type}

/- What has not failed has not failed on the way. -/
theorem ok_of_bind
    {result : Except ε α}
    {f : α → Except ε β}
    {b : β}
    (hBoth : (result >>= f) = .ok b) :
    ∃ a, result = .ok a ∧ f a = .ok b := by
  cases result with
  | error e => cases hBoth
  | ok a => exact ⟨a, rfl, hBoth⟩

theorem length_of_mapM
    {f : α → Except ε β}
    (l : List α)
    {results : List β}
    (hMap : l.mapM f = .ok results) :
    results.length = l.length := by
  induction l generalizing results with
  | nil =>
      cases hMap
      rfl
  | cons a l ih =>
      rw [List.mapM_cons] at hMap
      rcases ok_of_bind hMap with ⟨b, -, hTail⟩
      rcases ok_of_bind hTail with ⟨bs, hRest, hAll⟩
      cases hAll
      rw [List.length_cons, List.length_cons, ih hRest]

end Layout

end D2Common

------------------------------------------------------------
-- One After The Other
------------------------------------------------------------

namespace D2Common

namespace Layout

variable {S ι ε α β : Type}
variable {holds : S → List ι → Prop}
variable {read : Reader S ε α}
variable {items more : List ι}

theorem reads_pure
    (a : α) :
    Reads holds (pure a : Reader S ε α) [] (.ok a) := by
  intro p rest hHolds
  exact ⟨p, rfl, hHolds⟩

/- What is computed may fail, but takes nothing. -/
theorem reads_lift
    (result : Except ε α) :
    Reads holds (StateT.lift result : Reader S ε α) []
      result := by
  intro p rest hHolds
  cases result with
  | error e => rfl
  | ok a => exact ⟨p, rfl, hHolds⟩

/- One layout behind the other. -/
theorem Reads.bind
    {result : Except ε α}
    (hRead : Reads holds read items result)
    {next : α → Reader S ε β}
    {results : α → Except ε β}
    (hNext :
      ∀ a, result = .ok a →
        Reads holds (next a) more (results a)) :
    Reads holds (read >>= next) (items ++ more)
      (result >>= results) := by
  intro p rest hHolds
  rw [List.append_assoc] at hHolds
  have hFirst := hRead p (more ++ rest) hHolds
  cases result with
  | error e =>
      change (read.run p >>= _) = _
      rw [hFirst]
      rfl
  | ok a =>
      rcases hFirst with ⟨p', hRun, hRest⟩
      have hSecond := hNext a rfl p' rest hRest
      have hBoth :
          (read >>= next).run p = (next a).run p' := by
        change (read.run p >>= _) = _
        rw [hRun]
        rfl
      rw [hBoth]
      exact hSecond

/- The end of a layout. -/
theorem Reads.last
    {result : Except ε α}
    (hRead : Reads holds read items result)
    {next : α → Reader S ε β}
    {results : α → Except ε β}
    (hNext :
      ∀ a, result = .ok a →
        Reads holds (next a) [] (results a)) :
    Reads holds (read >>= next) items
      (result >>= results) := by
  have hBoth := hRead.bind hNext
  rw [List.append_nil] at hBoth
  exact hBoth

/- A layout that is read for certain, and what follows. -/
theorem Reads.andThen
    {a : α}
    (hRead : Reads holds read items (.ok a))
    {next : α → Reader S ε β}
    {result : Except ε β}
    (hNext : Reads holds (next a) more result) :
    Reads holds (read >>= next) (items ++ more) result := by
  have hBoth :
      Reads holds (read >>= next) (items ++ more)
        ((.ok a : Except ε α) >>= fun _ => result) :=
    hRead.bind fun b hb => by
      cases hb
      exact hNext
  exact hBoth

/- One item, and what follows. -/
theorem Reads.item
    {i : ι}
    {a : α}
    (hRead : Reads holds read [i] (.ok a))
    {next : α → Reader S ε β}
    {result : Except ε β}
    (hNext : Reads holds (next a) more result) :
    Reads holds (read >>= next) (i :: more) result :=
  hRead.andThen hNext

/- A computation, and what follows. -/
theorem reads_lift_bind
    (result : Except ε α)
    {next : α → Reader S ε β}
    {results : α → Except ε β}
    (hNext :
      ∀ a, result = .ok a →
        Reads holds (next a) more (results a)) :
    Reads holds (StateT.lift result >>= next) more
      (result >>= results) :=
  (reads_lift result).bind hNext

/- As many of the same kind as there are. -/
theorem reads_times
    {χ : Type}
    {layout : χ → List ι}
    {f : χ → Except ε α}
    (xs : List χ)
    (hEach : ∀ x ∈ xs, Reads holds read (layout x) (f x)) :
    Reads holds (times read xs.length) (xs.flatMap layout)
      (xs.mapM f) := by
  induction xs with
  | nil => exact reads_pure []
  | cons x xs ih =>
      rw [List.length_cons, List.flatMap_cons, List.mapM_cons]
      refine (hEach x List.mem_cons_self).bind ?_
      intro a _
      have hRest :=
        ih fun y hy => hEach y (List.mem_cons_of_mem _ hy)
      exact hRest.last fun as _ => reads_pure (a :: as)

end Layout

end D2Common
