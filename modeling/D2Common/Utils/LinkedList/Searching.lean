import D2Common.Utils.LinkedList.Operations

/-
  Searching for any caller.

  The predicate of a search may act each time it is called,
  and the pointer of the caller may hold anything before.
  Both are part of the search here: what the predicate acts
  upon is a world, and the pointer, which may be NULL, has a
  content.

  Key definitions include:
    * `Found`
    * `searchWith`
    * `Contract`

  Key theorems include:
    * `search_eq_searchWith`
    * `searchFrom_spec`
    * `search_contract_iff`
-/

------------------------------------------------------------
-- A Predicate That Acts
------------------------------------------------------------

namespace D2Common

namespace LinkedList

/-
  The result of a search, the pointer of the caller with its
  content, which is NULL or an object, the objects that the
  predicate has been called with, the calls of functions
  that deallocate, and the world.
-/
structure Found (α δ σ : Type) where
  err : Err
  data_p : Option (Option α)
  asked : List α
  deallocs : List (δ × α)
  world : σ

variable {A α δ σ : Type}

/- What the loop does where the predicate is called. -/
def Found.ask
    (x : Found α δ σ)
    (equal : α → σ → Bool × σ)
    (data_ptr : α) : Found α δ σ :=
  { x with
    asked := x.asked ++ [data_ptr]
    world := (equal data_ptr x.world).2 }

/- `*data_p = data`, unless the pointer is NULL. -/
def Found.store
    (x : Found α δ σ)
    (data : Option α) : Found α δ σ :=
  { x with data_p := x.data_p.map fun _ => data }

variable [DecidableEq A]

/- The loop of `linked_list_search`, from `tmp` on. -/
def searchFrom
    (equal : α → σ → Bool × σ)
    (rm_if_found : Bool) :
    Nat → Option A → ListState A α δ → Found α δ σ →
      Option (ListState A α δ × Found α δ σ)
| 0, _, _, _ => none
| _ + 1, none, s, x => some (s, x)
| fuel + 1, some tmp, s, x => do
    let e ← s.heap tmp
    let asked := x.ask equal e.data_ptr
    if (equal e.data_ptr x.world).1 then
      let x := asked.store (some e.data_ptr)
      if rm_if_found then
        let s ← unlink s tmp
        let x :=
          if x.data_p.isNone then
            { x with deallocs := x.deallocs ++ e.deallocCall }
          else x
        let s ← s.free tmp
        some (s, x)
      else some (s, x)
    else searchFrom equal rm_if_found fuel e.next s asked

/- `linked_list_search`. -/
def searchWith
    (s : ListState A α δ)
    (data_p : Option (Option α))
    (equal : α → σ → Bool × σ)
    (rm_if_found : Bool)
    (world : σ) :
    Option (ListState A α δ × Found α δ σ) :=
  match s.p_tail with
  | none =>
      some (s, ⟨.unavailableResource, data_p, [], [], world⟩)
  | some _ =>
      let x : Found α δ σ := ⟨.success, data_p, [], [], world⟩
      searchFrom equal rm_if_found (s.allocated + 1) s.p_head
        s (x.store none)

end LinkedList

end D2Common

------------------------------------------------------------
-- Predicates That Do Not Act
------------------------------------------------------------

namespace D2Common

namespace LinkedList

variable {A α δ : Type}

/- What a reply shows of a search. -/
def Found.reply (x : Found α δ Unit) : Reply α δ :=
  ⟨x.err, x.data_p.join, x.deallocs⟩

/- A pointer that is NULL, or one with NULL in it. -/
def callerPointer (data_p : Bool) : Option (Option α) :=
  if data_p then some none else none

/- A predicate that only looks at an object. -/
def looking (equal : α → Bool) : α → Unit → Bool × Unit :=
  fun data_ptr world => (equal data_ptr, world)

variable [DecidableEq A]

theorem searchLoop_eq_searchFrom
    (equal : α → Bool)
    (data_p rm_if_found : Bool)
    (fuel : Nat)
    (tmp : Option A)
    (s : ListState A α δ)
    (asked : List α) :
    searchLoop equal data_p rm_if_found fuel tmp s =
      (searchFrom (looking equal) rm_if_found fuel tmp s
        ⟨.success, callerPointer data_p, asked, [], ()⟩).map
          fun r => (r.1, r.2.reply) := by
  induction fuel generalizing tmp asked with
  | zero => rfl
  | succ fuel ih =>
      cases tmp with
      | none => cases data_p <;> rfl
      | some tmp =>
          unfold searchLoop searchFrom
          cases hHeap : s.heap tmp with
          | none => rfl
          | some e =>
              simp only [Option.bind_eq_bind, Option.bind_some,
                looking]
              cases hEqual : equal e.data_ptr with
              | false =>
                  rw [if_neg (by simp), if_neg (by simp)]
                  exact ih e.next _
              | true =>
                  rw [if_pos rfl, if_pos rfl]
                  cases rm_if_found with
                  | false => cases data_p <;> rfl
                  | true =>
                      simp only [if_true]
                      cases unlink s tmp with
                      | none => rfl
                      | some s =>
                          simp only [Option.bind_some]
                          cases s.free tmp with
                          | none => rfl
                          | some s => cases data_p <;> rfl

/-
  With such a predicate and a pointer that was NULL, this is
  the search as the other operations have it.
-/
theorem search_eq_searchWith
    (s : ListState A α δ)
    (equal : α → Bool)
    (data_p rm_if_found : Bool) :
    search s equal data_p rm_if_found =
      (searchWith s (callerPointer data_p) (looking equal)
        rm_if_found ()).map fun r => (r.1, r.2.reply) := by
  unfold search searchWith
  cases s.p_tail with
  | none => cases data_p <;> rfl
  | some tail =>
      dsimp only
      rw [searchLoop_eq_searchFrom equal data_p rm_if_found _ _
        s []]
      cases data_p <;> rfl

end LinkedList

end D2Common

------------------------------------------------------------
-- The Contract
------------------------------------------------------------

namespace D2Common

namespace LinkedList

variable {A α δ σ : Type}

/- The predicate refuses objects, one after the other. -/
def Refused
    (equal : α → σ → Bool × σ) :
    List α → σ → σ → Prop
| [], w, w' => w' = w
| data :: l, w, w' =>
    (equal data w).1 = false ∧
      Refused equal l (equal data w).2 w'

/- The objects of elements. -/
def dataOf (cells : List (A × Obj α δ)) : List α :=
  cells.map fun c => c.2.1

/-
  What a search of these elements leaves of them, and what
  it has found: the first object that the predicate accepts,
  or NULL when it refuses all.
-/
inductive Contract
    (equal : α → σ → Bool × σ)
    (rm_if_found : Bool)
    (cells : List (A × Obj α δ))
    (w : σ) :
    List (A × Obj α δ) → Found α δ σ → Prop
  | found
      (front : List (A × Obj α δ))
      (c : A × Obj α δ)
      (back : List (A × Obj α δ))
      (hCells : cells = front ++ c :: back)
      (w' : σ)
      (hRefused : Refused equal (dataOf front) w w')
      (hAccepted : (equal c.2.1 w').1 = true)
      (x : Found α δ σ)
      (hData : x.data_p = some (some c.2.1))
      (hAsked : x.asked = dataOf front ++ [c.2.1])
      (hDeallocs : x.deallocs = [])
      (hWorld : x.world = (equal c.2.1 w').2) :
      Contract equal rm_if_found cells w
        (if rm_if_found then front ++ back else cells) x
  | missing
      (x : Found α δ σ)
      (hRefused : Refused equal (dataOf cells) w x.world)
      (hData : x.data_p = some none)
      (hAsked : x.asked = dataOf cells)
      (hDeallocs : x.deallocs = []) :
      Contract equal rm_if_found cells w cells x

/- One more object is refused. -/
theorem refused_concat
    {equal : α → σ → Bool × σ}
    {l : List α}
    {w w' : σ}
    (hRefused : Refused equal l w w')
    {data : α}
    (hData : (equal data w').1 = false) :
    Refused equal (l ++ [data]) w (equal data w').2 := by
  induction l generalizing w with
  | nil =>
      cases hRefused
      exact ⟨hData, rfl⟩
  | cons d l ih => exact ⟨hRefused.1, ih hRefused.2⟩

/- What the loop has done when it is at an element. -/
structure Passed
    (equal : α → σ → Bool × σ)
    (front : List (A × Obj α δ))
    (w : σ)
    (x : Found α δ σ) : Prop where
  refused : Refused equal (dataOf front) w x.world
  data_p : x.data_p = some none
  asked : x.asked = dataOf front
  deallocs : x.deallocs = []

theorem Passed.next
    {equal : α → σ → Bool × σ}
    {front : List (A × Obj α δ)}
    {w : σ}
    {x : Found α δ σ}
    (hPassed : Passed equal front w x)
    {c : A × Obj α δ}
    (hRefused : (equal c.2.1 x.world).1 = false) :
    Passed equal (front ++ [c]) w (x.ask equal c.2.1) where
  refused := by
    unfold dataOf
    rw [List.map_append]
    exact refused_concat hPassed.refused hRefused
  data_p := hPassed.data_p
  asked := by
    simp [Found.ask, hPassed.asked, dataOf]
  deallocs := hPassed.deallocs

variable [DecidableEq A]

/- The element that the loop is at is accepted. -/
theorem searchFrom_accepted
    {s : ListState A α δ}
    {front back : List (A × Obj α δ)}
    {c : A × Obj α δ}
    (hs : Represents s (front ++ c :: back))
    {equal : α → σ → Bool × σ}
    {w : σ}
    {x : Found α δ σ}
    (hPassed : Passed equal front w x)
    (hAccepted : (equal c.2.1 x.world).1 = true)
    (rm_if_found : Bool)
    (fuel : Nat) :
    ∃ s',
      searchFrom equal rm_if_found (fuel + 1) (some c.1) s x =
          some (s',
            (x.ask equal c.2.1).store (some c.2.1)) ∧
        Represents s'
          (if rm_if_found then front ++ back
          else front ++ c :: back) := by
  have hHeap := heap_of_content (hs.stored c (by simp))
  have hStored :
      ((x.ask equal c.2.1).store (some c.2.1)).data_p =
        some (some c.2.1) := by
    simp [Found.store, Found.ask, hPassed.data_p]
  unfold searchFrom
  rw [hHeap]
  simp only [Option.bind_eq_bind, Option.bind_some, hAccepted,
    if_true]
  cases rm_if_found with
  | false => exact ⟨s, rfl, hs⟩
  | true =>
      rcases unlink_spec hs with
        ⟨s₁, s₂, hUnlink, hFree, hErased⟩
      refine ⟨s₂, ?_, represents_of_erased hs hErased⟩
      -- the caller has a pointer, so nothing is deallocated
      simp [hUnlink, hFree, hStored]

/- The loop from an element on, those before being refused. -/
theorem searchFrom_spec
    {s : ListState A α δ}
    {front cells : List (A × Obj α δ)}
    (hs : Represents s (front ++ cells))
    {equal : α → σ → Bool × σ}
    {w : σ}
    {x : Found α δ σ}
    (hPassed : Passed equal front w x)
    (rm_if_found : Bool)
    {fuel : Nat}
    (hFuel : cells.length < fuel) :
    ∃ s' left x',
      searchFrom equal rm_if_found fuel
          (cells.head?.map Prod.fst) s x =
        some (s', x') ∧
      Represents s' left ∧
        Contract equal rm_if_found (front ++ cells) w left
          x' := by
  induction cells generalizing front x fuel with
  | nil =>
      rcases fuel with _ | fuel
      · simp at hFuel
      · rw [List.append_nil] at hs ⊢
        exact ⟨s, front, x, rfl, hs,
          .missing x hPassed.refused hPassed.data_p
            hPassed.asked hPassed.deallocs⟩
  | cons c back ih =>
      rcases fuel with _ | fuel
      · simp at hFuel
      · cases hAnswer : (equal c.2.1 x.world).1 with
        | true =>
            rcases searchFrom_accepted hs hPassed hAnswer
              rm_if_found fuel with ⟨s', hLoop, hAfter⟩
            refine ⟨s', _, _, hLoop, hAfter, ?_⟩
            refine
              .found front c back rfl x.world hPassed.refused
                hAnswer _ ?_ ?_ hPassed.deallocs rfl
            · simp [Found.store, Found.ask, hPassed.data_p]
            · simp [Found.store, Found.ask, hPassed.asked]
        | false =>
            have hAssoc :
                front ++ c :: back =
                  (front ++ [c]) ++ back := by
              simp
            have hHeap :=
              heap_of_content (hs.stored c (by simp))
            have hNext := next_of_represents hs
            rw [hAssoc] at hs ⊢
            rw [List.head?_cons, Option.map_some, searchFrom,
              hHeap]
            simp only [Option.bind_eq_bind, Option.bind_some,
              hAnswer, hNext]
            exact
              ih hs (hPassed.next hAnswer)
                (by simpa using hFuel)

/-
  A search with a pointer does what it should on every list
  but the empty one, where it leaves the pointer as it was.
-/
theorem search_contract_iff
    {s : ListState A α δ}
    {cells : List (A × Obj α δ)}
    (hs : Represents s cells)
    (data_p : Option α)
    (equal : α → σ → Bool × σ)
    (rm_if_found : Bool)
    (world : σ) :
    (∃ s' left x,
      searchWith s (some data_p) equal rm_if_found world =
          some (s', x) ∧
        Represents s' left ∧
          Contract equal rm_if_found cells world left x) ↔
      cells ≠ [] ∨ data_p = none := by
  unfold searchWith
  rw [tail_of_represents hs]
  cases hLast : cells.getLast? with
  | none =>
      -- the list is empty, and nothing is written
      have hNil := List.getLast?_eq_none_iff.mp hLast
      subst hNil
      simp only [Option.map_none, ne_eq, not_true_eq_false,
        false_or]
      constructor
      · rintro ⟨s', left, x, hSearch, -, hContract⟩
        rw [Option.some_inj, Prod.mk.injEq] at hSearch
        rcases hSearch with ⟨-, rfl⟩
        cases hContract with
        | found front c back hCells => simp at hCells
        | missing _ hRefused hData =>
            exact Option.some_inj.mp hData
      · rintro rfl
        exact ⟨s, [], _, rfl, hs, .missing _ rfl rfl rfl rfl⟩
  | some c =>
      have hSome : cells ≠ [] := by
        rintro rfl
        cases hLast
      refine iff_of_true ?_ (Or.inl hSome)
      have hFuel : cells.length < s.allocated + 1 := by
        rw [hs.allocated]
        exact Nat.lt_succ_self _
      have hStart :
          Passed equal ([] : List (A × Obj α δ)) world
            ((⟨.success, some data_p, [], [], world⟩ :
              Found α δ σ).store none) :=
        ⟨rfl, rfl, rfl, rfl⟩
      rw [head_of_represents hs]
      exact searchFrom_spec hs hStart rm_if_found hFuel

/- A predicate that accepts one object and counts calls. -/
def counting (wanted : Nat) : Nat → Nat → Bool × Nat :=
  fun data_ptr calls => (data_ptr == wanted, calls + 1)

/- Three objects, of which the second one is looked for. -/
def threeCells : List (Nat × Obj Nat Unit) :=
  [(2, 9, none), (1, 7, none), (0, 5, none)]

theorem search_contract_iff_three :
    ∃ s : ListState Nat Nat Unit,
      Represents s threeCells ∧
        ∃ s' left x,
          searchWith s (some (some 5)) (counting 7) true 0 =
              some (s', x) ∧
            Represents s' left ∧
              Contract (counting 7) true threeCells 0 left
                x := by
  have hInit :
      Represents (ListState.init : ListState Nat Nat Unit) [] :=
    represents_init
  rcases represents_add hInit (a := 0) rfl 5 none with
    ⟨s₁, hAdd₁, hs₁⟩
  cases hAdd₁
  rcases represents_add hs₁ (a := 1) rfl 7 none with
    ⟨s₂, hAdd₂, hs₂⟩
  cases hAdd₂
  rcases represents_add hs₂ (a := 2) rfl 9 none with
    ⟨s₃, -, hs₃⟩
  exact
    ⟨s₃, hs₃,
      (search_contract_iff hs₃ (some 5) (counting 7) true
        0).mpr (Or.inl (by simp))⟩

/- On the empty list an object from before stays there. -/
theorem empty_list_keeps_pointer :
    ¬ ∃ s' left x,
      searchWith (ListState.init : ListState Nat Nat Unit)
          (some (some 7)) (counting 7) true 0 =
          some (s', x) ∧
        Represents s' left ∧
          Contract (counting 7) true [] 0 left x := by
  rintro ⟨s', left, x, hSearch, -, hContract⟩
  have hKept : x.data_p = some (some 7) :=
    congrArg (fun r => r.2.data_p)
      (Option.some_inj.mp hSearch).symm
  cases hContract with
  | found front c back hCells => simp at hCells
  | missing _ hRefused hData =>
      rw [hData] at hKept
      cases hKept

end LinkedList

end D2Common
