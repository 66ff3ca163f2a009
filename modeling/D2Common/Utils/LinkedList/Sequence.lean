import D2Common.Foundations.Transducer
import D2Common.Utils.LinkedList

/-
  The sequence that the list stands for.

  Objects are pushed at the front and taken from the back.
  An object leaves the sequence in one of three ways: into
  the pointer of a caller, into the function that
  deallocates it, or without a trace when it has none.

  Key definitions include:
    * `Seq.step`
    * `Fate`
    * `Seq.departs`

  Key theorems include:
    * `Seq.perm_step`
    * `Seq.dropped_of_departs`
-/

------------------------------------------------------------
-- Operations On Sequences
------------------------------------------------------------

namespace D2Common

namespace LinkedList

/- An object and the function that deallocates it. -/
abbrev Obj (α δ : Type) := α × Option δ

/- The operations, with the results of `malloc`. -/
inductive Op (A α δ : Type) where
  | add
      (elem : Option A)
      (data_obj : Option α)
      (dealloc : Option δ)
  | remove
  | search
      (equal : α → Bool)
      (data_p rm_if_found : Bool)
  | flush

variable {A α δ : Type}

/- The call that deallocates an object. -/
def Obj.deallocCall (x : Obj α δ) : List (δ × α) :=
  (x.2.map fun f => (f, x.1)).toList

namespace Seq

/- The first match, from the front. -/
def find
    (equal : α → Bool)
    (l : List (Obj α δ)) : Option (Obj α δ) :=
  l.find? fun x => equal x.1

/- The reply of a search that is not on an empty list. -/
def searchReply
    (equal : α → Bool)
    (data_p rm_if_found : Bool)
    (l : List (Obj α δ)) : Reply α δ :=
  match find equal l with
  | none => .of .success
  | some x =>
      ⟨.success, if data_p then some x.1 else none,
        if rm_if_found && !data_p then x.deallocCall
        else []⟩

/- One operation. -/
def step
    (l : List (Obj α δ)) :
    Op A α δ → List (Obj α δ) × List (Reply α δ)
| .add _ none _ => (l, [.of .invalidParameter])
| .add none (some _) _ => (l, [.of .failureGeneral])
| .add (some _) (some data_obj) dealloc =>
    ((data_obj, dealloc) :: l, [.of .success])
| .remove =>
    match l.getLast? with
    | none => (l, [.of .unavailableResource])
    | some x => (l.dropLast, [⟨.success, some x.1, []⟩])
| .search equal data_p rm_if_found =>
    if l = [] then (l, [.of .unavailableResource])
    else
      (if rm_if_found then l.eraseP fun x => equal x.1 else l,
        [searchReply equal data_p rm_if_found l])
| .flush =>
    ([], [⟨.success, none, l.flatMap Obj.deallocCall⟩])

end Seq

end LinkedList

end D2Common

------------------------------------------------------------
-- What Becomes Of Objects
------------------------------------------------------------

namespace D2Common

namespace LinkedList

/- How an object leaves the sequence. -/
inductive Fate where
  | taken
  | deallocated
  | dropped
deriving DecidableEq

variable {A α δ : Type}

/- An object that nobody takes. -/
def Obj.discarded (x : Obj α δ) : Obj α δ × Fate :=
  (x, if x.2.isSome then .deallocated else .dropped)

/- The object in the pointer of a caller. -/
def takenData : Obj α δ × Fate → Option α
| (x, .taken) => some x.1
| _ => none

/- The call that an object's fate is. -/
def fateCall : Obj α δ × Fate → List (δ × α)
| (x, .deallocated) => x.deallocCall
| _ => []

namespace Seq

/- The objects that an operation adds. -/
def arrives : Op A α δ → List (Obj α δ)
| .add (some _) (some data_obj) dealloc =>
    [(data_obj, dealloc)]
| _ => []

/-
  The objects that leave: taken by a removal whose caller
  has given a pointer, discarded otherwise.
-/
def departs
    (l : List (Obj α δ)) :
    Op A α δ → List (Obj α δ × Fate)
| .add _ _ _ => []
| .remove => (l.getLast?.map fun x => (x, .taken)).toList
| .search equal data_p rm_if_found =>
    if rm_if_found then
      ((find equal l).map fun x =>
        if data_p then (x, .taken) else x.discarded).toList
    else []
| .flush => l.map Obj.discarded

/- What an operation takes for its caller. -/
def takenBy
    (op : Op A α δ)
    (r : Reply α δ) : List α :=
  match op with
  | .remove => r.data_p.toList
  | .search _ _ true => r.data_p.toList
  | _ => []

theorem fst_discarded (x : Obj α δ) :
    x.discarded.1 = x := rfl

theorem takenData_taken (x : Obj α δ) :
    takenData (x, .taken) = some x.1 := rfl

theorem fateCall_taken (x : Obj α δ) :
    fateCall (x, .taken) = [] := rfl

theorem fateCall_discarded (x : Obj α δ) :
    fateCall x.discarded = x.deallocCall := by
  rcases x with ⟨data, _ | f⟩ <;> rfl

theorem takenData_discarded (x : Obj α δ) :
    takenData x.discarded = none := by
  rcases x with ⟨data, _ | f⟩ <;> rfl

/- A search that removes takes out what it finds. -/
theorem perm_eraseP
    {equal : α → Bool}
    {l : List (Obj α δ)}
    {x : Obj α δ}
    (hFind : find equal l = some x) :
    l.Perm ((l.eraseP fun y => equal y.1) ++ [x]) := by
  rcases List.find?_eq_some_iff_append.mp hFind with
    ⟨hx, p, q, rfl, hp⟩
  have hErase :
      ((p ++ x :: q).eraseP fun y => equal y.1) =
        p ++ q := by
    rw [List.eraseP_append_right _ (by
      intro y hy
      simpa using hp y hy)]
    simp [hx]
  rw [hErase]
  exact List.perm_middle.trans
    (List.perm_append_singleton x (p ++ q)).symm

theorem fst_departs_search
    {equal : α → Bool}
    {l : List (Obj α δ)}
    {x : Obj α δ}
    (hFind : find equal l = some x)
    (data_p : Bool) :
    (departs l (Op.search (A := A) equal data_p true)).map
        Prod.fst = [x] := by
  simp only [departs, hFind, if_true, Option.map_some,
    Option.toList_some, List.map_singleton]
  cases data_p <;> rfl

/- Nothing is lost or made up in one operation. -/
theorem perm_step
    (l : List (Obj α δ))
    (op : Op A α δ) :
    (arrives op ++ l).Perm
      ((step l op).1 ++ (departs l op).map Prod.fst) := by
  cases op with
  | add elem data_obj dealloc =>
      cases data_obj <;> cases elem <;>
        simp [arrives, step, departs]
  | remove =>
      rcases List.eq_nil_or_concat' l with rfl | ⟨l, x, rfl⟩
      · simp [arrives, step, departs]
      · simp [arrives, step, departs]
  | search equal data_p rm_if_found =>
      by_cases hNil : l = []
      · simp [arrives, step, departs, find, hNil]
      · cases rm_if_found with
        | false => simp [arrives, step, departs, hNil]
        | true =>
            cases hFind : find equal l with
            | none =>
                have hErase :
                    (l.eraseP fun x => equal x.1) = l :=
                  List.eraseP_of_forall_not
                    (List.find?_eq_none.mp hFind)
                simp [arrives, step, departs, hNil, hFind,
                  hErase]
            | some x =>
                rw [fst_departs_search hFind]
                simp only [arrives, step, if_neg hNil,
                  if_true, List.nil_append]
                exact perm_eraseP hFind
  | flush =>
      simp [arrives, step, departs, Function.comp_def,
        fst_discarded]

/- What leaves is what the reply says of it. -/
theorem takenData_departs
    (l : List (Obj α δ))
    (op : Op A α δ) :
    (departs l op).filterMap takenData =
      (step l op).2.flatMap (takenBy op) := by
  cases op with
  | add elem data_obj dealloc =>
      cases data_obj <;> cases elem <;>
        simp [departs, step, takenBy]
  | remove =>
      cases hLast : l.getLast? <;>
        simp [departs, step, takenBy, hLast, takenData_taken,
          Reply.of]
  | search equal data_p rm_if_found =>
      cases rm_if_found with
      | false =>
          by_cases hNil : l = [] <;>
            simp [departs, step, takenBy, hNil]
      | true =>
          by_cases hNil : l = []
          · simp [departs, step, takenBy, find, hNil,
              Reply.of]
          · cases hFind : find equal l <;> cases data_p <;>
              simp [departs, step, takenBy, hNil, hFind,
                searchReply, Reply.of, takenData_taken,
                takenData_discarded]
  | flush =>
      simp [departs, step, takenBy, takenData_discarded]

theorem fateCall_departs
    (l : List (Obj α δ))
    (op : Op A α δ) :
    (departs l op).flatMap fateCall =
      (step l op).2.flatMap Reply.deallocs := by
  cases op with
  | add elem data_obj dealloc =>
      cases data_obj <;> cases elem <;>
        simp [departs, step, Reply.of]
  | remove =>
      cases hLast : l.getLast? <;>
        simp [departs, step, hLast, fateCall_taken, Reply.of]
  | search equal data_p rm_if_found =>
      by_cases hNil : l = []
      · cases rm_if_found <;>
          simp [departs, step, find, hNil, Reply.of]
      · cases rm_if_found with
        | false =>
            cases hFind : find equal l <;>
              simp [departs, step, hNil, hFind, searchReply,
                Reply.of]
        | true =>
            cases hFind : find equal l <;> cases data_p <;>
              simp [departs, step, hNil, hFind, searchReply,
                Reply.of, fateCall_taken, fateCall_discarded]
  | flush =>
      simp [departs, step, List.flatMap_map,
        fateCall_discarded]

/- Only what has no such function is dropped. -/
theorem dropped_of_departs
    {l : List (Obj α δ)}
    {op : Op A α δ}
    {x : Obj α δ}
    (hx : (x, Fate.dropped) ∈ departs l op) :
    x.2 = none ∧
      (op = .flush ∨
        ∃ equal, op = .search equal false true) := by
  have hDiscarded :
      ∀ y : Obj α δ,
        (x, Fate.dropped) = y.discarded → x.2 = none := by
    rintro ⟨data, _ | f⟩ hSame
    · cases hSame
      rfl
    · simp [Obj.discarded] at hSame
  cases op with
  | add elem data_obj dealloc => simp [departs] at hx
  | remove =>
      cases hLast : l.getLast? <;>
        simp [departs, hLast] at hx
  | search equal data_p rm_if_found =>
      cases rm_if_found with
      | false => simp [departs] at hx
      | true =>
          cases hFind : find equal l with
          | none => simp [departs, hFind] at hx
          | some y =>
              cases data_p with
              | true => simp [departs, hFind] at hx
              | false =>
                  have hSame :
                      (x, Fate.dropped) = y.discarded := by
                    simpa [departs, hFind] using hx
                  exact ⟨hDiscarded y hSame,
                    Or.inr ⟨equal, rfl⟩⟩
  | flush =>
      rcases List.mem_map.mp hx with ⟨y, -, hSame⟩
      exact ⟨hDiscarded y hSame.symm, Or.inl rfl⟩

end Seq

end LinkedList

end D2Common
