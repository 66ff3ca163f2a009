import D2Common.Utils.LinkedList.Sequence

/-
  What a state of the list represents.

  The heap is seen through three functions: the two links of
  an element and its contents. A state represents elements
  when they are a doubly linked chain from its head to its
  tail, hold the objects, and are all that is allocated.

  Key definitions include:
    * `Represents`
    * `Erased`

  Key theorems include:
    * `linkAfter_spec`
    * `linkBefore_spec`
    * `represents_of_erased`
-/

------------------------------------------------------------
-- Views Of The Heap
------------------------------------------------------------

namespace D2Common

namespace LinkedList

variable {A α δ : Type}

/- The object in an element. -/
def ListElement.obj (e : ListElement A α δ) : Obj α δ :=
  (e.data_ptr, e.dealloc_func)

/- The link of an element to the next one. -/
def ListState.next
    (s : ListState A α δ)
    (a : A) : Option A :=
  (s.heap a).bind ListElement.next

/- The link of an element to the one before. -/
def ListState.prev
    (s : ListState A α δ)
    (a : A) : Option A :=
  (s.heap a).bind ListElement.prev

/- What is allocated at an address. -/
def ListState.content
    (s : ListState A α δ)
    (a : A) : Option (Obj α δ) :=
  (s.heap a).map ListElement.obj

/- An element that is there. -/
theorem exists_heap_eq
    {s : ListState A α δ}
    {a : A}
    {x : Obj α δ}
    (hContent : s.content a = some x) :
    ∃ e, s.heap a = some e ∧ e.obj = x :=
  Option.map_eq_some_iff.mp hContent

/- The same element, as it is seen. -/
theorem heap_of_content
    {s : ListState A α δ}
    {a : A}
    {x : Obj α δ}
    (hContent : s.content a = some x) :
    s.heap a = some ⟨s.next a, s.prev a, x.1, x.2⟩ := by
  rcases exists_heap_eq hContent with ⟨e, hHeap, rfl⟩
  simp [ListState.next, ListState.prev, hHeap,
    ListElement.obj]

variable [DecidableEq A]

/- `s'` is `s` but for the link of `b` to the next one. -/
structure NextSet
    (s : ListState A α δ)
    (b : A)
    (y : Option A)
    (s' : ListState A α δ) : Prop where
  p_head : s'.p_head = s.p_head
  p_tail : s'.p_tail = s.p_tail
  allocated : s'.allocated = s.allocated
  next : ∀ c, s'.next c = if c = b then y else s.next c
  prev : ∀ c, s'.prev c = s.prev c
  content : ∀ c, s'.content c = s.content c

theorem setNext_spec
    {s : ListState A α δ}
    {b : A}
    {x : Obj α δ}
    (hb : s.content b = some x)
    (y : Option A) :
    ∃ s', s.setNext b y = some s' ∧ NextSet s b y s' := by
  rcases exists_heap_eq hb with ⟨e, hHeap, -⟩
  unfold ListState.setNext ListState.modify
  rw [hHeap]
  refine ⟨_, rfl, rfl, rfl, rfl, ?_, ?_, ?_⟩
  · intro c
    by_cases hc : c = b <;> simp [ListState.next, hc]
  · intro c
    by_cases hc : c = b <;>
      simp [ListState.prev, hc, hHeap]
  · intro c
    by_cases hc : c = b <;>
      simp [ListState.content, ListElement.obj, hc, hHeap]

/- `s'` is `s` but for the link of `b` to the one before. -/
structure PrevSet
    (s : ListState A α δ)
    (b : A)
    (y : Option A)
    (s' : ListState A α δ) : Prop where
  p_head : s'.p_head = s.p_head
  p_tail : s'.p_tail = s.p_tail
  allocated : s'.allocated = s.allocated
  next : ∀ c, s'.next c = s.next c
  prev : ∀ c, s'.prev c = if c = b then y else s.prev c
  content : ∀ c, s'.content c = s.content c

theorem setPrev_spec
    {s : ListState A α δ}
    {b : A}
    {x : Obj α δ}
    (hb : s.content b = some x)
    (y : Option A) :
    ∃ s', s.setPrev b y = some s' ∧ PrevSet s b y s' := by
  rcases exists_heap_eq hb with ⟨e, hHeap, -⟩
  unfold ListState.setPrev ListState.modify
  rw [hHeap]
  refine ⟨_, rfl, rfl, rfl, rfl, ?_, ?_, ?_⟩
  · intro c
    by_cases hc : c = b <;>
      simp [ListState.next, hc, hHeap]
  · intro c
    by_cases hc : c = b <;> simp [ListState.prev, hc]
  · intro c
    by_cases hc : c = b <;>
      simp [ListState.content, ListElement.obj, hc, hHeap]

/- `s'` is `s` without what is allocated at `a`. -/
structure Freed
    (s : ListState A α δ)
    (a : A)
    (s' : ListState A α δ) : Prop where
  p_head : s'.p_head = s.p_head
  p_tail : s'.p_tail = s.p_tail
  allocated : s'.allocated = s.allocated - 1
  next : ∀ c, c ≠ a → s'.next c = s.next c
  prev : ∀ c, c ≠ a → s'.prev c = s.prev c
  content : ∀ c, c ≠ a → s'.content c = s.content c

theorem free_spec
    {s : ListState A α δ}
    {a : A}
    {x : Obj α δ}
    (ha : s.content a = some x) :
    ∃ s', s.free a = some s' ∧ Freed s a s' := by
  unfold ListState.free
  rw [heap_of_content ha]
  refine ⟨_, rfl, rfl, rfl, rfl, ?_, ?_, ?_⟩
  · intro c hc
    simp [ListState.next, hc]
  · intro c hc
    simp [ListState.prev, hc]
  · intro c hc
    simp [ListState.content, hc]

end LinkedList

end D2Common

------------------------------------------------------------
-- Representation
------------------------------------------------------------

namespace D2Common

namespace LinkedList

variable {A α δ : Type}

/-
  A state represents elements with their objects, in the
  order from the head to the tail.
-/
structure Represents
    (s : ListState A α δ)
    (cells : List (A × Obj α δ)) : Prop where
  linked :
    Chain.Linked s.next s.prev s.p_head s.p_tail
      (cells.map Prod.fst)
  stored : ∀ c ∈ cells, s.content c.1 = some c.2
  allocated : s.allocated = cells.length

theorem represents_init :
    Represents (ListState.init : ListState A α δ) [] where
  linked := ⟨rfl, rfl⟩
  stored c hc := by simp at hc
  allocated := rfl

/- `linked_list_empty` tells whether there are elements. -/
theorem empty_eq
    {s : ListState A α δ}
    {cells : List (A × Obj α δ)}
    (hs : Represents s cells) :
    s.empty = cells.isEmpty := by
  unfold ListState.empty
  rw [Chain.head_of_linked hs.linked]
  cases cells <;> rfl

theorem head_of_represents
    {s : ListState A α δ}
    {cells : List (A × Obj α δ)}
    (hs : Represents s cells) :
    s.p_head = cells.head?.map Prod.fst := by
  rw [Chain.head_of_linked hs.linked, List.head?_map]

theorem tail_of_represents
    {s : ListState A α δ}
    {cells : List (A × Obj α δ)}
    (hs : Represents s cells) :
    s.p_tail = cells.getLast?.map Prod.fst := by
  rw [Chain.tail_of_linked hs.linked, List.getLast?_map]

/- The links of an element lead to its neighbours. -/
theorem next_of_represents
    {s : ListState A α δ}
    {p q : List (A × Obj α δ)}
    {c : A × Obj α δ}
    (hs : Represents s (p ++ c :: q)) :
    s.next c.1 = q.head?.map Prod.fst := by
  have hLinked := hs.linked
  rw [List.map_append, List.map_cons] at hLinked
  rw [Chain.next_of_linked hLinked, List.head?_map]

theorem prev_of_represents
    {s : ListState A α δ}
    {p q : List (A × Obj α δ)}
    {c : A × Obj α δ}
    (hs : Represents s (p ++ c :: q)) :
    s.prev c.1 = p.getLast?.map Prod.fst := by
  have hLinked := hs.linked
  rw [List.map_append, List.map_cons] at hLinked
  rw [Chain.prev_of_linked hLinked, List.getLast?_map]

/- The address of an element is not that of another one. -/
theorem ne_of_represents
    {s : ListState A α δ}
    {p q : List (A × Obj α δ)}
    {c d : A × Obj α δ}
    (hs : Represents s (p ++ c :: q))
    (hd : d ∈ p ++ q) :
    d.1 ≠ c.1 := by
  have hNodup := Chain.nodup_of_walk hs.linked.forward
  have hMoved :
      (c.1 :: (p ++ q).map Prod.fst).Nodup := by
    apply List.Perm.nodup _ hNodup
    simp [List.perm_middle]
  intro hSame
  apply (List.nodup_cons.mp hMoved).1
  rw [← hSame]
  exact List.mem_map_of_mem hd

/- The address of the head is one of an element. -/
theorem content_of_head
    {s : ListState A α δ}
    {cells : List (A × Obj α δ)}
    (hs : Represents s cells)
    (b : A)
    (hb : s.p_head = some b) :
    ∃ c ∈ cells, c.1 = b := by
  rw [head_of_represents hs] at hb
  rcases Option.map_eq_some_iff.mp hb with ⟨c, hc, rfl⟩
  exact ⟨c, List.mem_of_head? hc, rfl⟩

/- What is allocated anew is none of the elements. -/
theorem ne_of_free
    {s : ListState A α δ}
    {cells : List (A × Obj α δ)}
    (hs : Represents s cells)
    {a : A}
    (hFree : s.heap a = none)
    {c : A × Obj α δ}
    (hc : c ∈ cells) :
    c.1 ≠ a := by
  rintro rfl
  have hStored := hs.stored c hc
  simp [ListState.content, hFree] at hStored

/- The neighbours of an element are there. -/
theorem content_of_prev
    {s : ListState A α δ}
    {p q : List (A × Obj α δ)}
    {c : A × Obj α δ}
    (hs : Represents s (p ++ c :: q))
    (a : A)
    (ha : s.prev c.1 = some a) :
    ∃ o, s.content a = some o := by
  rw [prev_of_represents hs] at ha
  rcases Option.map_eq_some_iff.mp ha with ⟨d, hd, rfl⟩
  refine ⟨d.2, hs.stored d ?_⟩
  simp [List.mem_of_getLast? hd]

theorem content_of_next
    {s : ListState A α δ}
    {p q : List (A × Obj α δ)}
    {c : A × Obj α δ}
    (hs : Represents s (p ++ c :: q))
    (a : A)
    (ha : s.next c.1 = some a) :
    ∃ o, s.content a = some o := by
  rw [next_of_represents hs] at ha
  rcases Option.map_eq_some_iff.mp ha with ⟨d, hd, rfl⟩
  refine ⟨d.2, hs.stored d ?_⟩
  simp [List.mem_of_head? hd]

/- No element is its own neighbour. -/
theorem prev_ne_self
    {s : ListState A α δ}
    {p q : List (A × Obj α δ)}
    {c : A × Obj α δ}
    (hs : Represents s (p ++ c :: q)) :
    s.prev c.1 ≠ some c.1 := by
  intro hSelf
  rw [prev_of_represents hs] at hSelf
  rcases Option.map_eq_some_iff.mp hSelf with ⟨d, hd, hSame⟩
  apply ne_of_represents hs (d := d) _ hSame
  simp [List.mem_of_getLast? hd]

theorem next_ne_self
    {s : ListState A α δ}
    {p q : List (A × Obj α δ)}
    {c : A × Obj α δ}
    (hs : Represents s (p ++ c :: q)) :
    s.next c.1 ≠ some c.1 := by
  intro hSelf
  rw [next_of_represents hs] at hSelf
  rcases Option.map_eq_some_iff.mp hSelf with ⟨d, hd, hSame⟩
  apply ne_of_represents hs (d := d) _ hSame
  simp [List.mem_of_head? hd]

end LinkedList

end D2Common

------------------------------------------------------------
-- Links Between Neighbours
------------------------------------------------------------

namespace D2Common

namespace LinkedList

variable {A α δ : Type}

/- `s'` is `s` but for the link after `x`. -/
structure AfterLinked
    [DecidableEq A]
    (s : ListState A α δ)
    (x y : Option A)
    (s' : ListState A α δ) : Prop where
  p_head : s'.p_head = if x = none then y else s.p_head
  p_tail : s'.p_tail = s.p_tail
  allocated : s'.allocated = s.allocated
  next :
    ∀ c, s'.next c = if x = some c then y else s.next c
  prev : ∀ c, s'.prev c = s.prev c
  content : ∀ c, s'.content c = s.content c

/- `s'` is `s` but for the link before `x`. -/
structure BeforeLinked
    [DecidableEq A]
    (s : ListState A α δ)
    (x y : Option A)
    (s' : ListState A α δ) : Prop where
  p_head : s'.p_head = s.p_head
  p_tail : s'.p_tail = if x = none then y else s.p_tail
  allocated : s'.allocated = s.allocated
  next : ∀ c, s'.next c = s.next c
  prev :
    ∀ c, s'.prev c = if x = some c then y else s.prev c
  content : ∀ c, s'.content c = s.content c

variable [DecidableEq A]

theorem linkAfter_spec
    {s : ListState A α δ}
    {x : Option A}
    (hx : ∀ a, x = some a → ∃ o, s.content a = some o)
    (y : Option A) :
    ∃ s', s.linkAfter x y = some s' ∧
      AfterLinked s x y s' := by
  cases x with
  | none =>
      refine ⟨_, rfl, ?_⟩
      constructor <;> intros <;> rfl
  | some a =>
      rcases hx a rfl with ⟨o, ho⟩
      rcases setNext_spec ho y with ⟨s', hSet, h⟩
      refine ⟨s', hSet, by simp [h.p_head], h.p_tail,
        h.allocated, ?_, h.prev, h.content⟩
      intro c
      rw [h.next c]
      simp [eq_comm]

theorem linkBefore_spec
    {s : ListState A α δ}
    {x : Option A}
    (hx : ∀ a, x = some a → ∃ o, s.content a = some o)
    (y : Option A) :
    ∃ s', s.linkBefore x y = some s' ∧
      BeforeLinked s x y s' := by
  cases x with
  | none =>
      refine ⟨_, rfl, ?_⟩
      constructor <;> intros <;> rfl
  | some a =>
      rcases hx a rfl with ⟨o, ho⟩
      rcases setPrev_spec ho y with ⟨s', hSet, h⟩
      refine ⟨s', hSet, h.p_head, by simp [h.p_tail],
        h.allocated, h.next, ?_, h.content⟩
      intro c
      rw [h.prev c]
      simp [eq_comm]

/-
  `s'` is `s` without the element at `a`, whose neighbours
  are linked to each other.
-/
structure Erased
    (s : ListState A α δ)
    (a : A)
    (s' : ListState A α δ) : Prop where
  p_head :
    s'.p_head =
      if s.prev a = none then s.next a else s.p_head
  p_tail :
    s'.p_tail =
      if s.next a = none then s.prev a else s.p_tail
  allocated : s'.allocated = s.allocated - 1
  next :
    ∀ c, c ≠ a →
      s'.next c =
        if s.prev a = some c then s.next a else s.next c
  prev :
    ∀ c, c ≠ a →
      s'.prev c =
        if s.next a = some c then s.prev a else s.prev c
  content : ∀ c, c ≠ a → s'.content c = s.content c

/- Then it represents the sequence without the element. -/
theorem represents_of_erased
    {s s' : ListState A α δ}
    {p q : List (A × Obj α δ)}
    {c : A × Obj α δ}
    (hs : Represents s (p ++ c :: q))
    (hErased : Erased s c.1 s') :
    Represents s' (p ++ q) := by
  have hOther :
      ∀ b ∈ p.map Prod.fst ++ q.map Prod.fst, b ≠ c.1 := by
    intro b hb
    rw [← List.map_append] at hb
    rcases List.mem_map.mp hb with ⟨d, hd, rfl⟩
    exact ne_of_represents hs hd
  have hLinked := hs.linked
  rw [List.map_append, List.map_cons] at hLinked
  constructor
  · rw [hErased.p_head, hErased.p_tail, List.map_append]
    apply Chain.linked_erase hLinked
    · intro b hb
      exact hErased.next b (hOther b hb)
    · intro b hb
      exact hErased.prev b (hOther b hb)
  · intro d hd
    rw [hErased.content d.1 (ne_of_represents hs hd)]
    apply hs.stored d
    rcases List.mem_append.mp hd with hd | hd
    · simp [hd]
    · simp [hd]
  · rw [hErased.allocated, hs.allocated]
    simp

end LinkedList

end D2Common
