import D2Common.Foundations.Custody
import D2Common.Utils.LinkedList.Operations

/-
  The list refines the sequence.

  The list in the heap and the sequence run side by side:
  they reply the same, the heap stays well formed, and every
  object that was added is on the list or has left it in one
  way.

  Key definitions include:
    * `system`
    * `malloced`
    * `WellFormed`
    * `Accounted`

  Key theorems include:
    * `step_refines`
    * `run_refines`
    * `list_refines_sequence`
-/

------------------------------------------------------------
-- Both Machines
------------------------------------------------------------

namespace D2Common

namespace LinkedList

variable {A α δ : Type} [DecidableEq A]

/- One operation on the heap. -/
def exec
    (s : ListState A α δ) :
    Op A α δ → Option (ListState A α δ × Reply α δ)
| .add elem data_obj dealloc => add s elem data_obj dealloc
| .remove => remove s
| .search equal data_p rm_if_found =>
    search s equal data_p rm_if_found
| .flush => flush s

/- After a fault there is no state. -/
def system (A α δ : Type) [DecidableEq A] :
    Transducer (Option (ListState A α δ)) (Op A α δ)
      (Reply α δ) where
  init := some ListState.init
  step s op :=
    match s.bind fun s => exec s op with
    | some (s, r) => (some s, [r])
    | none => (none, [])

/- The sequence, from the empty one on. -/
def Seq.system (A α δ : Type) :
    Transducer (List (Obj α δ)) (Op A α δ)
      (Reply α δ) where
  init := []
  step := Seq.step

/- One step of the list. -/
abbrev Event (A α δ : Type) :=
  Transducer.Event (Option (ListState A α δ)) (Op A α δ)
    (Reply α δ)

/-
  Allocation succeeds, at an address where nothing is
  allocated.
-/
def malloced (e : Event A α δ) : Bool :=
  match e.input with
  | .add (some a) (some _) _ =>
      e.before.all fun s => (s.heap a).isNone
  | .add none (some _) _ => false
  | _ => true

/- One operation on both sides. -/
theorem step_refines
    {s : ListState A α δ}
    {cells : List (A × Obj α δ)}
    (hs : Represents s cells)
    (op : Op A α δ)
    (hMalloc :
      malloced ((system A α δ).event (some s) op) = true) :
    ∃ s' r cells', exec s op = some (s', r) ∧
      Represents s' cells' ∧
      Seq.step (cells.map Prod.snd) op =
        (cells'.map Prod.snd, [r]) := by
  cases op with
  | add elem data_obj dealloc =>
      cases data_obj with
      | none =>
          exact
            ⟨s, _, cells, rfl, hs, by
              cases elem <;> rfl⟩
      | some data_obj =>
          cases elem with
          | none => contradiction
          | some a =>
              have hFree : s.heap a = none :=
                Option.isNone_iff_eq_none.mp hMalloc
              rcases represents_add hs hFree data_obj dealloc
                with ⟨s', hAdd, hAfter⟩
              exact ⟨s', _, _, hAdd, hAfter, rfl⟩
  | remove =>
      rcases List.eq_nil_or_concat' cells with
        rfl | ⟨cells, c, rfl⟩
      · exact ⟨s, _, [], remove_of_empty hs, hs, rfl⟩
      · rcases represents_remove hs with
          ⟨s', hRemove, hAfter⟩
        refine ⟨s', _, cells, hRemove, hAfter, ?_⟩
        simp [Seq.step]
  | search equal data_p rm_if_found =>
      by_cases hNil : cells = []
      · subst hNil
        exact
          ⟨s, _, [],
            search_of_empty hs equal data_p rm_if_found,
            hs, rfl⟩
      · rcases represents_search hs hNil equal data_p
          rm_if_found with ⟨s', hSearch, hAfter⟩
        refine ⟨s', _, _, hSearch, hAfter, ?_⟩
        rw [map_searched]
        simp [Seq.step, hNil]
  | flush =>
      rcases represents_flush hs with ⟨s', hFlush, hAfter⟩
      refine ⟨s', _, [], hFlush, hAfter, ?_⟩
      simp [Seq.step, List.flatMap_map]

/- The states of the two machines belong together. -/
def Refines
    (s : Option (ListState A α δ))
    (l : List (Obj α δ)) : Prop :=
  ∃ s' cells, s = some s' ∧ Represents s' cells ∧
    cells.map Prod.snd = l

theorem run_refines
    (is : List (Op A α δ))
    (hMalloc :
      History.Along (fun _ e => malloced e = true)
        ((system A α δ).history is)) :
    Refines ((system A α δ).run is)
        ((Seq.system A α δ).run is) ∧
      (system A α δ).transcript is =
        (Seq.system A α δ).transcript is := by
  apply (system A α δ).simulates (Seq.system A α δ)
    (C := fun e => malloced e = true) (R := Refines) _ _ is
    hMalloc
  · exact ⟨_, [], rfl, represents_init, rfl⟩
  · rintro s l op ⟨s', cells, rfl, hs, rfl⟩ hEvent
    rcases step_refines hs op hEvent with
      ⟨s₂, r, cells₂, hExec, hs₂, hStep⟩
    change Refines _ (Seq.step _ op).1 ∧ _ = (Seq.step _ op).2
    rw [hStep]
    simp only [system, Option.bind_some, hExec, and_true]
    exact ⟨s₂, cells₂, rfl, hs₂, rfl⟩

end LinkedList

end D2Common

------------------------------------------------------------
-- Objects Over Runs
------------------------------------------------------------

namespace D2Common

namespace LinkedList

variable {A α δ : Type}

/- Operations with their replies. -/
abbrev Transcript (A α δ : Type) :=
  List (Op A α δ × List (Reply α δ))

/- The objects that have been added. -/
def added (t : Transcript A α δ) : List (Obj α δ) :=
  t.flatMap fun x => Seq.arrives x.1

/- What callers have taken, in order. -/
def taken (t : Transcript A α δ) : List α :=
  t.flatMap fun x => x.2.flatMap (Seq.takenBy x.1)

/- The calls that deallocate, in order. -/
def deallocated (t : Transcript A α δ) : List (δ × α) :=
  t.flatMap fun x => x.2.flatMap Reply.deallocs

/- One step of the sequence. -/
abbrev Seq.Event (A α δ : Type) :=
  Transducer.Event (List (Obj α δ)) (Op A α δ) (Reply α δ)

/- The objects that have left, in order. -/
def Seq.departed
    (h : List (Seq.Event A α δ)) : List (Obj α δ × Fate) :=
  h.flatMap fun e => Seq.departs e.before e.input

/-
  Every object that was added is in the sequence or has left
  it once; those that have left are the ones taken, the ones
  deallocated, and others that were added without a function
  for that and discarded.
-/
structure Accounted
    (t : Transcript A α δ)
    (h : List (Seq.Event A α δ))
    (l : List (Obj α δ)) : Prop where
  once :
    (added t).Perm (l ++ (Seq.departed h).map Prod.fst)
  taken : taken t = (Seq.departed h).filterMap takenData
  deallocated :
    deallocated t = (Seq.departed h).flatMap fateCall
  dropped :
    ∀ e ∈ h, ∀ x,
      (x, Fate.dropped) ∈ Seq.departs e.before e.input →
        x.2 = none ∧
          (e.input = .flush ∨
            ∃ equal, e.input = .search equal false true)

theorem Seq.accounted
    (is : List (Op A α δ)) :
    Accounted ((Seq.system A α δ).transcript is)
      ((Seq.system A α δ).history is)
      ((Seq.system A α δ).run is) := by
  induction is using List.reverseRecOn with
  | nil =>
      refine ⟨List.Perm.refl _, rfl, rfl, ?_⟩
      intro e he
      simp [Transducer.history, Transducer.historyFrom] at he
  | append_singleton is op ih =>
      rw [Transducer.transcript_concat,
        Transducer.history_concat, Transducer.run_concat]
      have hDeparted :
          Seq.departed
              ((Seq.system A α δ).history is ++
                [(Seq.system A α δ).event
                  ((Seq.system A α δ).run is) op]) =
            Seq.departed ((Seq.system A α δ).history is) ++
              Seq.departs ((Seq.system A α δ).run is) op := by
        simp [Seq.departed, Transducer.event]
      constructor
      · rw [hDeparted, List.map_append]
        unfold added
        rw [List.flatMap_append, List.flatMap_singleton]
        exact
          Custody.Balanced.concat ih.once
            (List.perm_append_comm.trans
              (Seq.perm_step ((Seq.system A α δ).run is) op))
      · rw [hDeparted, List.filterMap_append, ← ih.taken,
          Seq.takenData_departs]
        simp [taken, Seq.system]
      · rw [hDeparted, List.flatMap_append, ← ih.deallocated,
          Seq.fateCall_departs]
        simp [deallocated, Seq.system]
      · intro e he x hx
        exact Seq.dropped_of_departs hx

variable [DecidableEq A]

/-
  The pointers are well formed: both ends are null or none
  is, the chain from the head is finite and ends at the
  tail, and the chain from the tail is its reverse.
-/
structure WellFormed
    (s : ListState A α δ)
    (chain : List A) : Prop where
  ends : s.p_head = none ↔ s.p_tail = none
  forward : Chain.Walk s.next s.p_head chain none
  last : chain.getLast? = s.p_tail
  backward : Chain.Walk s.prev s.p_tail chain.reverse none

omit [DecidableEq A] in
theorem wellFormed_of_represents
    {s : ListState A α δ}
    {cells : List (A × Obj α δ)}
    (hs : Represents s cells) :
    WellFormed s (cells.map Prod.fst) where
  ends := Chain.head_eq_none_iff hs.linked
  forward := hs.linked.forward
  last := (Chain.tail_of_linked hs.linked).symm
  backward := hs.linked.backward

/-
  After every sequence of operations there is no fault, the
  pointers are well formed, the elements hold the sequence,
  all replies are those of the sequence, and every object is
  accounted for.
-/
theorem list_refines_sequence
    (is : List (Op A α δ))
    (hMalloc :
      History.Along (fun _ e => malloced e = true)
        ((system A α δ).history is)) :
    ∃ s chain,
      (system A α δ).run is = some s ∧
      WellFormed s chain ∧
      chain.map s.content =
        ((Seq.system A α δ).run is).map some ∧
      (system A α δ).transcript is =
        (Seq.system A α δ).transcript is ∧
      Accounted ((system A α δ).transcript is)
        ((Seq.system A α δ).history is)
        ((Seq.system A α δ).run is) := by
  rcases run_refines is hMalloc with
    ⟨⟨s, cells, hRun, hs, hCells⟩, hSame⟩
  refine ⟨s, cells.map Prod.fst, hRun,
    wellFormed_of_represents hs, ?_, hSame, ?_⟩
  · rw [← hCells, List.map_map, List.map_map]
    apply List.map_congr_left
    intro c hc
    exact hs.stored c hc
  · rw [hSame]
    exact Seq.accounted is

/-
  Three objects, one of them without a function; the search
  takes out the one in the middle.
-/
def threeAdded : List (Op Nat Nat Unit) :=
  [.add (some 0) (some 10) (some ()),
    .add (some 1) (some 11) (some ()),
    .add (some 2) (some 12) none,
    .search (fun x => x == 11) false true,
    .remove,
    .flush]

theorem threeAdded_refines_sequence :
    ∃ s chain,
      (system Nat Nat Unit).run threeAdded = some s ∧
      WellFormed s chain ∧
      chain.map s.content =
        ((Seq.system Nat Nat Unit).run threeAdded).map some ∧
      (system Nat Nat Unit).transcript threeAdded =
        (Seq.system Nat Nat Unit).transcript threeAdded ∧
      Accounted ((system Nat Nat Unit).transcript threeAdded)
        ((Seq.system Nat Nat Unit).history threeAdded)
        ((Seq.system Nat Nat Unit).run threeAdded) :=
  list_refines_sequence threeAdded (by decide)

end LinkedList

end D2Common
