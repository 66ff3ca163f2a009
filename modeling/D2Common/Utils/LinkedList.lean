import D2Common.Foundations.Chain

/-
  The doubly linked list.

  Elements live in a heap that maps addresses to what has
  been allocated there. Reading, writing or freeing an
  address where nothing is allocated is a fault, and so is a
  loop over more elements than are allocated, since it never
  ends. `malloc` is the choice of the environment.

  The handle of the list and the pointers to functions that
  a call requires are never null here.

  Key definitions include:
    * `ListElement`
    * `ListState`
    * `add`
    * `remove`
    * `flush`
    * `search`
-/

------------------------------------------------------------
-- The Heap
------------------------------------------------------------

namespace D2Common

namespace LinkedList

/- `linked_list_err_type`. -/
inductive Err where
  | success
  | failureGeneral
  | invalidParameter
  | invalidHandle
  | unavailableResource
  | insufficientBuffer
deriving DecidableEq

/- `list_element`, with addresses `A`, objects `α` and
functions `δ` that deallocate objects. -/
structure ListElement (A α δ : Type) where
  next : Option A
  prev : Option A
  data_ptr : α
  dealloc_func : Option δ
deriving DecidableEq

/- `list_state` and the heap its elements are in. -/
structure ListState (A α δ : Type) where
  p_head : Option A
  p_tail : Option A
  heap : A → Option (ListElement A α δ)
  allocated : Nat

variable {A α δ : Type}

/- The list that `linked_list_init` makes. -/
def ListState.init : ListState A α δ where
  p_head := none
  p_tail := none
  heap := fun _ => none
  allocated := 0

/- `linked_list_empty`. -/
def ListState.empty (s : ListState A α δ) : Bool :=
  s.p_head.isNone

variable [DecidableEq A]

/- An element that is allocated, changed. -/
def ListState.modify
    (s : ListState A α δ)
    (a : A)
    (f : ListElement A α δ → ListElement A α δ) :
    Option (ListState A α δ) :=
  match s.heap a with
  | some e =>
      some { s with heap := Function.update s.heap a (f e) }
  | none => none

/- `a->next = x`. -/
def ListState.setNext
    (s : ListState A α δ)
    (a : A)
    (x : Option A) : Option (ListState A α δ) :=
  s.modify a fun e => { e with next := x }

/- `a->prev = x`. -/
def ListState.setPrev
    (s : ListState A α δ)
    (a : A)
    (x : Option A) : Option (ListState A α δ) :=
  s.modify a fun e => { e with prev := x }

/- The link to what comes after `x`; for null, the head. -/
def ListState.linkAfter
    (s : ListState A α δ)
    (x y : Option A) : Option (ListState A α δ) :=
  match x with
  | none => some { s with p_head := y }
  | some a => s.setNext a y

/- The link to what comes before `x`; for null, the tail. -/
def ListState.linkBefore
    (s : ListState A α δ)
    (x y : Option A) : Option (ListState A α δ) :=
  match x with
  | none => some { s with p_tail := y }
  | some a => s.setPrev a y

/- `malloc` of an element, and what is copied into it. -/
def ListState.malloc
    (s : ListState A α δ)
    (a : A)
    (e : ListElement A α δ) : ListState A α δ :=
  { s with
    heap := Function.update s.heap a (some e)
    allocated := s.allocated + 1 }

/- `free` of an element. -/
def ListState.free
    (s : ListState A α δ)
    (a : A) : Option (ListState A α δ) :=
  match s.heap a with
  | some _ =>
      some
        { s with
          heap := Function.update s.heap a none
          allocated := s.allocated - 1 }
  | none => none

end LinkedList

end D2Common

------------------------------------------------------------
-- The Operations
------------------------------------------------------------

namespace D2Common

namespace LinkedList

/-
  The result of an operation, what it has written to the
  pointer of its caller, which was null, and the calls of
  functions that deallocate.
-/
structure Reply (α δ : Type) where
  err : Err
  data_p : Option α
  deallocs : List (δ × α)
deriving DecidableEq

variable {A α δ : Type}

/- A reply that is a result only. -/
def Reply.of (err : Err) : Reply α δ := ⟨err, none, []⟩

/- The call that deallocates an element's object. -/
def ListElement.deallocCall
    (e : ListElement A α δ) : List (δ × α) :=
  (e.dealloc_func.map fun f => (f, e.data_ptr)).toList

variable [DecidableEq A]

/-
  `linked_list_add`; `elem` is what `malloc` returns.
-/
def add
    (s : ListState A α δ)
    (elem : Option A)
    (data_obj : Option α)
    (dealloc : Option δ) :
    Option (ListState A α δ × Reply α δ) :=
  match data_obj, elem with
  | none, _ => some (s, .of .invalidParameter)
  | some _, none => some (s, .of .failureGeneral)
  | some data_obj, some elem => do
      let s := s.malloc elem ⟨none, none, data_obj, dealloc⟩
      let tmp := s.p_head
      let s := { s with p_head := some elem }
      let s ← s.setNext elem tmp
      let s ← s.linkBefore tmp s.p_head
      some (s, .of .success)

/- `linked_list_remove`. -/
def remove
    (s : ListState A α δ) :
    Option (ListState A α δ × Reply α δ) :=
  match s.p_tail with
  | none => some (s, .of .unavailableResource)
  | some tmp => do
      let e ← s.heap tmp
      let s := { s with p_tail := e.prev }
      let s ← s.linkAfter s.p_tail none
      let s ← s.free tmp
      some (s, ⟨.success, some e.data_ptr, []⟩)

/- The loop of `linked_list_flush`. -/
def flushLoop :
    Nat → ListState A α δ →
      Option (ListState A α δ × List (δ × α))
| 0, _ => none
| fuel + 1, s =>
    match s.p_head with
    | none => some (s, [])
    | some head => do
        let e ← s.heap head
        let s ← s.free head
        let (s, calls) ←
          flushLoop fuel { s with p_head := e.next }
        some (s, e.deallocCall ++ calls)

/- `linked_list_flush`. -/
def flush
    (s : ListState A α δ) :
    Option (ListState A α δ × Reply α δ) := do
  let (s, calls) ← flushLoop (s.allocated + 1) s
  some ({ s with p_tail := none }, ⟨.success, none, calls⟩)

/- An element is taken out of the chain it is in. -/
def unlink
    (s : ListState A α δ)
    (tmp : A) : Option (ListState A α δ) := do
  let e ← s.heap tmp
  let s ← s.linkAfter e.prev e.next
  let e ← s.heap tmp
  let s ← s.linkBefore e.next e.prev
  let s ← s.setNext tmp none
  s.setPrev tmp none

/-
  The loop of `linked_list_search`, from `tmp` on. `data_p`
  is whether the caller has given a pointer.
-/
def searchLoop
    (equal : α → Bool)
    (data_p rm_if_found : Bool) :
    Nat → Option A → ListState A α δ →
      Option (ListState A α δ × Reply α δ)
| 0, _, _ => none
| _ + 1, none, s => some (s, .of .success)
| fuel + 1, some tmp, s => do
    let e ← s.heap tmp
    if equal e.data_ptr then
      let found := if data_p then some e.data_ptr else none
      if rm_if_found then
        let s ← unlink s tmp
        let s ← s.free tmp
        some (s,
          ⟨.success, found,
            if data_p then [] else e.deallocCall⟩)
      else some (s, ⟨.success, found, []⟩)
    else searchLoop equal data_p rm_if_found fuel e.next s

/- `linked_list_search`. -/
def search
    (s : ListState A α δ)
    (equal : α → Bool)
    (data_p rm_if_found : Bool) :
    Option (ListState A α δ × Reply α δ) :=
  match s.p_tail with
  | none => some (s, .of .unavailableResource)
  | some _ =>
      searchLoop equal data_p rm_if_found (s.allocated + 1)
        s.p_head s

end LinkedList

end D2Common
