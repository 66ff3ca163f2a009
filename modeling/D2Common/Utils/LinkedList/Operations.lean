import D2Common.Utils.LinkedList.Represents

/-
  What the operations do to what a state represents.

  Each operation has one lemma: from a state that represents
  some elements it does not fault, and the state it ends in
  represents the elements that it should.

  Key theorems include:
    * `represents_add`
    * `represents_remove`
    * `represents_flush`
    * `represents_search`
-/

------------------------------------------------------------
-- Adding, Removing And Flushing
------------------------------------------------------------

namespace D2Common

namespace LinkedList

variable {A α δ : Type} [DecidableEq A]

/- Taking an element out of the chain and freeing it. -/
theorem unlink_spec
    {s : ListState A α δ}
    {p q : List (A × Obj α δ)}
    {c : A × Obj α δ}
    (hs : Represents s (p ++ c :: q)) :
    ∃ s₁ s₂, unlink s c.1 = some s₁ ∧
      s₁.free c.1 = some s₂ ∧ Erased s c.1 s₂ := by
  have hc : s.content c.1 = some c.2 := hs.stored c (by simp)
  have hPrev := prev_ne_self hs
  have hNext := next_ne_self hs
  rcases linkAfter_spec (content_of_prev hs) (s.next c.1)
    with ⟨s₁, hAfter, l₁⟩
  have hc₁ : s₁.content c.1 = some c.2 :=
    (l₁.content c.1).trans hc
  have hNext₁ : s₁.next c.1 = s.next c.1 := by
    rw [l₁.next, if_neg hPrev]
  have hThere :
      ∀ a, s.next c.1 = some a →
        ∃ o, s₁.content a = some o := by
    intro a ha
    rw [l₁.content]
    exact content_of_next hs a ha
  rcases linkBefore_spec hThere (s.prev c.1) with
    ⟨s₂, hBefore, l₂⟩
  have hc₂ : s₂.content c.1 = some c.2 :=
    (l₂.content c.1).trans hc₁
  rcases setNext_spec hc₂ none with ⟨s₃, hSet₃, l₃⟩
  have hc₃ : s₃.content c.1 = some c.2 :=
    (l₃.content c.1).trans hc₂
  rcases setPrev_spec hc₃ none with ⟨s₄, hSet₄, l₄⟩
  have hc₄ : s₄.content c.1 = some c.2 :=
    (l₄.content c.1).trans hc₃
  rcases free_spec hc₄ with ⟨s₅, hFree, l₅⟩
  refine ⟨s₄, s₅, ?_, hFree, ?_⟩
  · unfold unlink
    rw [heap_of_content hc]
    simp only [Option.bind_eq_bind, Option.bind_some, hAfter,
      heap_of_content hc₁, hNext₁, l₁.prev, hBefore, hSet₃,
      hSet₄]
  · constructor
    · rw [l₅.p_head, l₄.p_head, l₃.p_head, l₂.p_head,
        l₁.p_head]
    · rw [l₅.p_tail, l₄.p_tail, l₃.p_tail, l₂.p_tail,
        l₁.p_tail]
    · rw [l₅.allocated, l₄.allocated, l₃.allocated,
        l₂.allocated, l₁.allocated]
    · intro d hd
      rw [l₅.next d hd, l₄.next, l₃.next, if_neg hd, l₂.next,
        l₁.next]
    · intro d hd
      rw [l₅.prev d hd, l₄.prev, if_neg hd, l₃.prev, l₂.prev,
        l₁.prev]
    · intro d hd
      rw [l₅.content d hd, l₄.content, l₃.content,
        l₂.content, l₁.content]

/- The last element is removed, and its object returned. -/
theorem represents_remove
    {s : ListState A α δ}
    {cells : List (A × Obj α δ)}
    {c : A × Obj α δ}
    (hs : Represents s (cells ++ [c])) :
    ∃ s', remove s =
        some (s', ⟨.success, some c.2.1, []⟩) ∧
      Represents s' cells := by
  have hc : s.content c.1 = some c.2 := hs.stored c (by simp)
  have hPrev := prev_ne_self hs
  have hNext : s.next c.1 = none := next_of_represents hs
  have hTail : s.p_tail = some c.1 := by
    rw [tail_of_represents hs]
    simp
  have hThere :
      ∀ a, s.prev c.1 = some a →
        ∃ o,
          ListState.content
            { s with p_tail := s.prev c.1 } a = some o :=
    content_of_prev hs
  rcases linkAfter_spec hThere none with ⟨s₁, hAfter, l₁⟩
  have hc₁ : s₁.content c.1 = some c.2 :=
    (l₁.content c.1).trans hc
  rcases free_spec hc₁ with ⟨s₂, hFree, l₂⟩
  refine ⟨s₂, ?_, ?_⟩
  · unfold remove
    rw [hTail]
    simp only [heap_of_content hc, Option.bind_eq_bind,
      Option.bind_some, hAfter, hFree]
  · have hErased : Erased s c.1 s₂ := by
      constructor
      · rw [l₂.p_head, l₁.p_head, hNext]
      · rw [l₂.p_tail, l₁.p_tail, hNext, if_pos rfl]
      · rw [l₂.allocated, l₁.allocated]
      · intro d hd
        rw [l₂.next d hd, l₁.next, hNext]
        rfl
      · intro d hd
        rw [l₂.prev d hd, l₁.prev, hNext, if_neg (by simp)]
        rfl
      · intro d hd
        rw [l₂.content d hd, l₁.content]
        rfl
    simpa using represents_of_erased hs hErased

/- Nothing can be removed from the empty list. -/
theorem remove_of_empty
    {s : ListState A α δ}
    (hs : Represents s []) :
    remove s = some (s, .of .unavailableResource) := by
  unfold remove
  rw [tail_of_represents hs]
  rfl

/-
  `s'` is `s` with an element at `a` that holds `x` in front
  of the head.
-/
structure Pushed
    (s : ListState A α δ)
    (a : A)
    (x : Obj α δ)
    (s' : ListState A α δ) : Prop where
  p_head : s'.p_head = some a
  p_tail :
    s'.p_tail = if s.p_head = none then some a else s.p_tail
  allocated : s'.allocated = s.allocated + 1
  first : s'.next a = s.p_head
  last : s'.prev a = none
  holds : s'.content a = some x
  next : ∀ c, c ≠ a → s'.next c = s.next c
  prev :
    ∀ c, c ≠ a →
      s'.prev c =
        if s.p_head = some c then some a else s.prev c
  content : ∀ c, c ≠ a → s'.content c = s.content c

theorem add_spec
    {s : ListState A α δ}
    {cells : List (A × Obj α δ)}
    {a : A}
    (hs : Represents s cells)
    (hFree : s.heap a = none)
    (data_obj : α)
    (dealloc : Option δ) :
    ∃ s', add s (some a) (some data_obj) dealloc =
        some (s', .of .success) ∧
      Pushed s a (data_obj, dealloc) s' := by
  -- The state in which the links are set.
  let s₁ : ListState A α δ :=
    { s.malloc a ⟨none, none, data_obj, dealloc⟩ with
      p_head := some a }
  have hHeap₁ :
      ∀ b, b ≠ a → s₁.heap b = s.heap b := by
    intro b hb
    simp [s₁, ListState.malloc, hb]
  have ha₁ : s₁.content a = some (data_obj, dealloc) := by
    simp [s₁, ListState.malloc, ListState.content,
      ListElement.obj]
  have hPrev₁ : s₁.prev a = none := by
    simp [s₁, ListState.malloc, ListState.prev]
  rcases setNext_spec ha₁ s.p_head with ⟨s₂, hSet₂, l₂⟩
  have hThere :
      ∀ b, s.p_head = some b →
        ∃ o, s₂.content b = some o := by
    intro b hb
    rcases content_of_head hs b hb with ⟨c, hc, rfl⟩
    refine ⟨c.2, ?_⟩
    rw [l₂.content]
    unfold ListState.content
    rw [hHeap₁ c.1 (ne_of_free hs hFree hc)]
    exact hs.stored c hc
  have hOwn : s.p_head ≠ some a := by
    intro hHead
    rcases content_of_head hs a hHead with ⟨c, hc, hSame⟩
    exact ne_of_free hs hFree hc hSame
  rcases linkBefore_spec hThere (some a) with
    ⟨s₃, hBefore, l₃⟩
  refine ⟨s₃, ?_, ?_⟩
  · have hHead₂ : s₂.p_head = some a := l₂.p_head
    change
      ((s₁.setNext a s.p_head).bind fun s' =>
        (s'.linkBefore s.p_head s'.p_head).bind fun s' =>
          some (s', Reply.of .success)) = _
    rw [hSet₂, Option.bind_some, hHead₂, hBefore]
    rfl
  · constructor
    · exact l₃.p_head.trans l₂.p_head
    · rw [l₃.p_tail, l₂.p_tail]
      rfl
    · rw [l₃.allocated, l₂.allocated]
      rfl
    · rw [l₃.next, l₂.next, if_pos rfl]
    · rw [l₃.prev, if_neg hOwn, l₂.prev, hPrev₁]
    · rw [l₃.content, l₂.content, ha₁]
    · intro b hb
      rw [l₃.next, l₂.next, if_neg hb]
      unfold ListState.next
      rw [hHeap₁ b hb]
    · intro b hb
      rw [l₃.prev, l₂.prev]
      unfold ListState.prev
      rw [hHeap₁ b hb]
    · intro b hb
      rw [l₃.content, l₂.content]
      unfold ListState.content
      rw [hHeap₁ b hb]

/- A new element is put in front of the others. -/
theorem represents_add
    {s : ListState A α δ}
    {cells : List (A × Obj α δ)}
    {a : A}
    (hs : Represents s cells)
    (hFree : s.heap a = none)
    (data_obj : α)
    (dealloc : Option δ) :
    ∃ s', add s (some a) (some data_obj) dealloc =
        some (s', .of .success) ∧
      Represents s' ((a, data_obj, dealloc) :: cells) := by
  rcases add_spec hs hFree data_obj dealloc with
    ⟨s', hAdd, hPushed⟩
  have hMem : ∀ b ∈ cells.map Prod.fst, b ≠ a := by
    intro b hb
    rcases List.mem_map.mp hb with ⟨c, hc, rfl⟩
    exact ne_of_free hs hFree hc
  refine ⟨s', hAdd, ?_, ?_, ?_⟩
  · rw [hPushed.p_head, hPushed.p_tail, List.map_cons]
    apply Chain.linked_cons hs.linked hPushed.first _
      hPushed.last
    · intro b hb
      exact hPushed.prev b (hMem b hb)
    · intro b hb
      exact hPushed.next b (hMem b hb)
  · intro c hc
    rcases List.mem_cons.mp hc with rfl | hc
    · exact hPushed.holds
    · rw [hPushed.content c.1 (ne_of_free hs hFree hc)]
      exact hs.stored c hc
  · rw [hPushed.allocated, hs.allocated, List.length_cons]

/-
  The loop that frees everything follows the links from the
  head; each element is read before it is freed.
-/
theorem flushLoop_spec
    {fuel : Nat}
    {s : ListState A α δ}
    {cells : List (A × Obj α δ)}
    (hWalk :
      Chain.Walk s.next s.p_head (cells.map Prod.fst) none)
    (hStored : ∀ c ∈ cells, s.content c.1 = some c.2)
    (hFuel : cells.length < fuel) :
    ∃ s', flushLoop fuel s =
        some (s',
          cells.flatMap fun c => Obj.deallocCall c.2) ∧
      s'.p_head = none ∧
      s'.allocated = s.allocated - cells.length := by
  induction cells generalizing fuel s with
  | nil =>
      have hHead : s.p_head = none := hWalk
      cases fuel with
      | zero => simp at hFuel
      | succ fuel =>
          refine ⟨s, ?_, hHead, rfl⟩
          unfold flushLoop
          rw [hHead]
          rfl
  | cons c cells ih =>
      have hNodup := Chain.nodup_of_walk hWalk
      rcases hWalk with ⟨hHead, hWalk⟩
      have hc := hStored c (by simp)
      have hOther : ∀ d ∈ cells, d.1 ≠ c.1 := by
        intro d hd hSame
        apply (List.nodup_cons.mp hNodup).1
        rw [← hSame]
        exact List.mem_map_of_mem hd
      rcases free_spec hc with ⟨s₁, hFree, l₁⟩
      cases fuel with
      | zero => simp at hFuel
      | succ fuel =>
          let s₂ : ListState A α δ :=
            { s₁ with p_head := s.next c.1 }
          have hRest :
              Chain.Walk s₂.next s₂.p_head
                (cells.map Prod.fst) none := by
            apply Chain.walk_congr _ hWalk
            intro b hb
            rcases List.mem_map.mp hb with ⟨d, hd, rfl⟩
            exact (l₁.next d.1 (hOther d hd)).symm
          have hStored₂ :
              ∀ d ∈ cells, s₂.content d.1 = some d.2 := by
            intro d hd
            rw [← hStored d (by simp [hd])]
            exact l₁.content d.1 (hOther d hd)
          rcases ih hRest hStored₂
              (by simpa using hFuel) with
            ⟨s₃, hLoop, hNull, hLeft⟩
          refine ⟨s₃, ?_, hNull, ?_⟩
          · unfold flushLoop
            rw [hHead]
            simp only [heap_of_content hc,
              Option.bind_eq_bind, Option.bind_some, hFree]
            change (flushLoop fuel s₂).bind _ = _
            rw [hLoop]
            rfl
          · rw [hLeft]
            change s₁.allocated - _ = _
            rw [l₁.allocated, List.length_cons]
            omega

/- All elements are freed, and all objects deallocated. -/
theorem represents_flush
    {s : ListState A α δ}
    {cells : List (A × Obj α δ)}
    (hs : Represents s cells) :
    ∃ s', flush s =
        some (s', ⟨.success, none,
          cells.flatMap fun c => Obj.deallocCall c.2⟩) ∧
      Represents s' [] := by
  have hFuel : cells.length < s.allocated + 1 := by
    rw [hs.allocated]
    exact Nat.lt_succ_self _
  rcases flushLoop_spec hs.linked.forward hs.stored hFuel
    with ⟨s', hLoop, hHead, hLeft⟩
  refine ⟨{ s' with p_tail := none }, ?_, ?_, ?_, ?_⟩
  · unfold flush
    rw [hLoop]
    rfl
  · exact ⟨hHead, rfl⟩
  · intro c hc
    simp at hc
  · change s'.allocated = 0
    rw [hLeft, hs.allocated]
    omega

end LinkedList

end D2Common

------------------------------------------------------------
-- Searching
------------------------------------------------------------

namespace D2Common

namespace LinkedList

variable {A α δ : Type} [DecidableEq A]

/- The elements that a search leaves. -/
def searched
    (equal : α → Bool)
    (rm_if_found : Bool)
    (cells : List (A × Obj α δ)) : List (A × Obj α δ) :=
  if rm_if_found then cells.eraseP fun c => equal c.2.1
  else cells

omit [DecidableEq A] in
theorem map_searched
    (equal : α → Bool)
    (rm_if_found : Bool)
    (cells : List (A × Obj α δ)) :
    (searched equal rm_if_found cells).map Prod.snd =
      if rm_if_found then
        (cells.map Prod.snd).eraseP fun x => equal x.1
      else cells.map Prod.snd := by
  unfold searched
  cases rm_if_found with
  | true =>
      rw [if_pos rfl, if_pos rfl, List.eraseP_map]
      rfl
  | false => rfl

/- The element that the loop is at is the one it wants. -/
theorem searchLoop_found
    {s : ListState A α δ}
    {p q : List (A × Obj α δ)}
    {c : A × Obj α δ}
    (hs : Represents s (p ++ c :: q))
    {equal : α → Bool}
    (hEqual : equal c.2.1 = true)
    (data_p rm_if_found : Bool)
    (fuel : Nat) :
    ∃ s',
      searchLoop equal data_p rm_if_found (fuel + 1)
          (some c.1) s =
        some (s',
          ⟨.success, if data_p then some c.2.1 else none,
            if rm_if_found && !data_p then
              Obj.deallocCall c.2
            else []⟩) ∧
      Represents s'
        (if rm_if_found then p ++ q else p ++ c :: q) := by
  have hHeap :=
    heap_of_content (hs.stored c (by simp))
  unfold searchLoop
  rw [hHeap]
  simp only [Option.bind_eq_bind, Option.bind_some, hEqual,
    if_true]
  cases rm_if_found with
  | false => exact ⟨s, rfl, hs⟩
  | true =>
      rcases unlink_spec hs with
        ⟨s₁, s₂, hUnlink, hFree, hErased⟩
      refine ⟨s₂, ?_, represents_of_erased hs hErased⟩
      simp only [if_true, hUnlink, Option.bind_some, hFree]
      cases data_p <;> rfl

/-
  The loop from an element on: those before are none that
  it wants.
-/
theorem searchLoop_spec
    {s : ListState A α δ}
    {p q : List (A × Obj α δ)}
    (hs : Represents s (p ++ q))
    {equal : α → Bool}
    (hBefore : ∀ c ∈ p, equal c.2.1 = false)
    (data_p rm_if_found : Bool)
    {fuel : Nat}
    (hFuel : q.length < fuel) :
    ∃ s',
      searchLoop equal data_p rm_if_found fuel
          (q.head?.map Prod.fst) s =
        some (s',
          Seq.searchReply equal data_p rm_if_found
            (q.map Prod.snd)) ∧
      Represents s'
        (searched equal rm_if_found (p ++ q)) := by
  induction q generalizing p fuel with
  | nil =>
      have hNone :
          searched equal rm_if_found (p ++ []) = p ++ [] := by
        unfold searched
        cases rm_if_found with
        | false => rfl
        | true =>
            apply List.eraseP_of_forall_not
            intro c hc
            simpa using hBefore c (by simpa using hc)
      cases fuel with
      | zero => simp at hFuel
      | succ fuel =>
          refine ⟨s, rfl, ?_⟩
          rw [hNone]
          exact hs
  | cons c q ih =>
      cases fuel with
      | zero => simp at hFuel
      | succ fuel =>
          cases hEqual : equal c.2.1 with
          | true =>
              rcases searchLoop_found hs hEqual data_p
                rm_if_found fuel with ⟨s', hLoop, hAfter⟩
              refine ⟨s', ?_, ?_⟩
              · rw [List.head?_cons, Option.map_some, hLoop]
                simp [Seq.searchReply, Seq.find, hEqual]
              · have hErase :
                    (p ++ c :: q).eraseP
                      (fun c => equal c.2.1) = p ++ q := by
                  rw [List.eraseP_append_right _ (by
                    intro d hd
                    simpa using hBefore d hd)]
                  simp [hEqual]
                unfold searched
                rw [hErase]
                exact hAfter
          | false =>
              have hAssoc :
                  p ++ c :: q = (p ++ [c]) ++ q := by simp
              have hStored :=
                heap_of_content (hs.stored c (by simp))
              have hNext := next_of_represents hs
              rw [hAssoc] at hs ⊢
              have hPassed :
                  ∀ d ∈ p ++ [c], equal d.2.1 = false := by
                intro d hd
                rcases List.mem_append.mp hd with hd | hd
                · exact hBefore d hd
                · rw [List.mem_singleton.mp hd]
                  exact hEqual
              rcases ih hs hPassed (by simpa using hFuel) with
                ⟨s', hLoop, hAfter⟩
              refine ⟨s', ?_, hAfter⟩
              rw [List.head?_cons, Option.map_some]
              unfold searchLoop
              rw [hStored]
              simp only [Option.bind_eq_bind,
                Option.bind_some, hEqual, hNext, hLoop]
              simp [Seq.searchReply, Seq.find, hEqual]

/- A search finds the first match from the front. -/
theorem represents_search
    {s : ListState A α δ}
    {cells : List (A × Obj α δ)}
    (hs : Represents s cells)
    (hSome : cells ≠ [])
    (equal : α → Bool)
    (data_p rm_if_found : Bool) :
    ∃ s', search s equal data_p rm_if_found =
        some (s',
          Seq.searchReply equal data_p rm_if_found
            (cells.map Prod.snd)) ∧
      Represents s' (searched equal rm_if_found cells) := by
  have hFuel : cells.length < s.allocated + 1 := by
    rw [hs.allocated]
    exact Nat.lt_succ_self _
  have hNone :
      ∀ c ∈ ([] : List (A × Obj α δ)),
        equal c.2.1 = false := by
    simp
  rcases searchLoop_spec (p := []) hs hNone data_p
    rm_if_found hFuel with ⟨s', hLoop, hAfter⟩
  refine ⟨s', ?_, hAfter⟩
  unfold search
  rw [tail_of_represents hs, head_of_represents hs]
  cases hLast : cells.getLast? with
  | none =>
      exact absurd (List.getLast?_eq_none_iff.mp hLast) hSome
  | some c => exact hLoop

theorem search_of_empty
    {s : ListState A α δ}
    (hs : Represents s [])
    (equal : α → Bool)
    (data_p rm_if_found : Bool) :
    search s equal data_p rm_if_found =
      some (s, .of .unavailableResource) := by
  unfold search
  rw [tail_of_represents hs]
  rfl

end LinkedList

end D2Common
