import D2Common.Foundations.Slots
import D2Common.Foundations.Transducer

/-
  The adapters that the location API delivers to.

  Adapters are added to and removed from a table of a fixed
  size. Every delivery goes through the table from its start
  and ends at the first free slot, and so does the search
  for an adapter. The pointers to adapters are the elements
  of a type, and the event mask of an adapter is a constant
  of it.

  Key definitions include:
    * `addAdapter`
    * `removeAdapter`
    * `toAllAdapters`
    * `system`
    * `register`

  Key theorems include:
    * `toAllAdapters_eq_foldl`
    * `lists_addAdapter`
    * `lists_removeAdapter`
    * `transcript_eq_registry`
    * `registered_run`
    * `adapters_compact_set`
-/

------------------------------------------------------------
-- The Table and Its Loops
------------------------------------------------------------

namespace D2Common

namespace LocApiBase

/- `MAX_ADAPTERS`. -/
def maxAdapters : Nat := 10

/- `LOC_API_ADAPTER_EVENT_MASK_T`. -/
abbrev EventMask := BitVec 32

/- `mLocAdapters`. -/
abbrev Adapters (α : Type) := Vector (Option α) maxAdapters

/- A queued `LocOpenMsg` with its mask, and `close`. -/
inductive Output where
  | sendOpenMsg (mMask : EventMask)
  | close
deriving DecidableEq

variable {α σ : Type}

/- `TO_ALL_ADAPTERS`, from an index on. -/
def toAllFrom
    (call : σ → α → σ)
    (mLocAdapters : Adapters α)
    (s : σ)
    (i : Nat) : σ :=
  if hi : i < maxAdapters then
    match mLocAdapters[i] with
    | none => s
    | some adapter =>
        toAllFrom call mLocAdapters (call s adapter) (i + 1)
  else s
termination_by maxAdapters - i

/- `TO_ALL_ADAPTERS`. -/
def toAllAdapters
    (call : σ → α → σ)
    (mLocAdapters : Adapters α)
    (s : σ) : σ :=
  toAllFrom call mLocAdapters s 0

section Masks

variable (evtMask : α → EventMask)
variable (mExcludedMask : EventMask)

/- `LocApiBase::getEvtMask`. -/
def getEvtMask
    (mLocAdapters : Adapters α) : EventMask :=
  toAllAdapters
      (fun mask adapter => mask ||| evtMask adapter)
      mLocAdapters 0#32 &&&
    ~~~ mExcludedMask

variable [DecidableEq α]

/- The loop of `LocApiBase::addAdapter`. -/
def addFrom
    (adapter : α)
    (mLocAdapters : Adapters α)
    (i : Nat) : Adapters α × List Output :=
  if hi : i < maxAdapters then
    if mLocAdapters[i] = some adapter then (mLocAdapters, [])
    else
      match mLocAdapters[i] with
      | none =>
          (mLocAdapters.set i (some adapter),
            [.sendOpenMsg (evtMask adapter)])
      | some _ => addFrom adapter mLocAdapters (i + 1)
  else (mLocAdapters, [])
termination_by maxAdapters - i

/- `LocApiBase::addAdapter`. -/
def addAdapter
    (adapter : α)
    (mLocAdapters : Adapters α) :
    Adapters α × List Output :=
  addFrom evtMask adapter mLocAdapters 0

omit [DecidableEq α] in
/-
  The inner loop of `LocApiBase::removeAdapter`, which steps
  the index before it looks, and where the index is then.
-/
def scan
    (mLocAdapters : Adapters α)
    (i : Nat)
    (hi : i < maxAdapters) :
    { k : Nat // i < k ∧ k ≤ maxAdapters } :=
  if hNext : i + 1 < maxAdapters then
    match mLocAdapters[i + 1] with
    | none => ⟨i + 1, by omega⟩
    | some _ =>
        let k := scan mLocAdapters (i + 1) hNext
        ⟨k.val, by have := k.property; omega⟩
  else ⟨i + 1, by omega⟩
termination_by maxAdapters - i

/-
  The loop of `LocApiBase::removeAdapter`. After a removal
  it goes on behind the slot `last` to which the inner loop
  took its index.
-/
def removeFrom
    (adapter : α)
    (mLocAdapters : Adapters α)
    (i : Nat) : Adapters α × List Output :=
  if hi : i < maxAdapters then
    match mLocAdapters[i] with
    | none => (mLocAdapters, [])
    | some other =>
        if other = adapter then
          let emptied := mLocAdapters.set i none
          let k := scan emptied i hi
          let last := k.val - 1
          have hLast : i ≤ last ∧ last < maxAdapters := by
            have hBounds := k.property
            omega
          let moved := emptied.set i emptied[last]
          let closed := moved.set last none
          let output :=
            if last = 0 then Output.close
            else
              .sendOpenMsg
                (getEvtMask evtMask mExcludedMask closed)
          let rest := removeFrom adapter closed (last + 1)
          (rest.1, output :: rest.2)
        else removeFrom adapter mLocAdapters (i + 1)
  else (mLocAdapters, [])
termination_by maxAdapters - i
decreasing_by
  · change maxAdapters - (last + 1) < maxAdapters - i
    omega
  · omega

/- `LocApiBase::removeAdapter`. -/
def removeAdapter
    (adapter : α)
    (mLocAdapters : Adapters α) :
    Adapters α × List Output :=
  removeFrom evtMask mExcludedMask adapter mLocAdapters 0

/- The calls that change the table. -/
inductive Call (α : Type) where
  | addAdapter (adapter : α)
  | removeAdapter (adapter : α)

/- The table from its construction on. -/
def system :
    Transducer (Adapters α) (Call α) Output where
  init := Vector.replicate maxAdapters none
  step mLocAdapters
    | .addAdapter adapter =>
        addAdapter evtMask adapter mLocAdapters
    | .removeAdapter adapter =>
        removeAdapter evtMask mExcludedMask adapter mLocAdapters

end Masks

end LocApiBase

end D2Common

------------------------------------------------------------
-- The Loops on Compact Tables
------------------------------------------------------------

namespace D2Common

namespace LocApiBase

open Slots (Holds HasFree swapRemove)

variable {α σ : Type}
variable {mLocAdapters : Adapters α}
variable {l : List α}

theorem toAllFrom_eq
    (call : σ → α → σ)
    (hHolds : Holds mLocAdapters l)
    (s : σ)
    (i : Nat) :
    toAllFrom call mLocAdapters s i =
      (l.drop i).foldl call s := by
  induction s, i using toAllFrom.induct call mLocAdapters with
  | case1 s i hi hFree =>
      have hEnd := (hHolds.eq_none_iff hi).mp hFree
      rw [toAllFrom, dif_pos hi, hFree,
        List.drop_eq_nil_of_le hEnd]
      rfl
  | case2 s i hi adapter hUsed ih =>
      have hEntry := hHolds.entry i hi
      rw [hUsed] at hEntry
      rcases List.getElem?_eq_some_iff.mp hEntry.symm with
        ⟨hLt, hGet⟩
      rw [toAllFrom, dif_pos hi, hUsed,
        List.drop_eq_getElem_cons hLt, hGet]
      exact ih
  | case3 s i hi =>
      have hFits := hHolds.fits
      rw [toAllFrom, dif_neg hi,
        List.drop_eq_nil_of_le (by omega)]
      rfl

/- A delivery calls the adapters one after the other. -/
theorem toAllAdapters_eq_foldl
    (call : σ → α → σ)
    (hHolds : Holds mLocAdapters l)
    (s : σ) :
    toAllAdapters call mLocAdapters s = l.foldl call s :=
  toAllFrom_eq call hHolds s 0

/- Behind a used slot the scan finds where the list ends. -/
theorem scan_eq
    {t : Adapters α}
    {i : Nat}
    (hi : i < maxAdapters)
    (hUsed : i < l.length)
    (hFits : l.length ≤ maxAdapters)
    (hAfter :
      ∀ j (hj : j < maxAdapters), i < j → t[j] = l[j]?) :
    (scan t i hi).val = l.length := by
  induction t, i, hi using scan.induct with
  | case1 t i hi hNext hFree =>
      have hEntry := hAfter (i + 1) hNext (by omega)
      rw [hFree] at hEntry
      have hEnd := List.getElem?_eq_none_iff.mp hEntry.symm
      have hStop : (scan t i hi).val = i + 1 := by
        rw [scan, dif_pos hNext, hFree]
      omega
  | case2 t i hi hNext other hOther ih =>
      have hEntry := hAfter (i + 1) hNext (by omega)
      rw [hOther] at hEntry
      rcases List.getElem?_eq_some_iff.mp hEntry.symm with
        ⟨hLt, -⟩
      have hGo :
          (scan t i hi).val = (scan t (i + 1) hNext).val := by
        rw [scan, dif_pos hNext, hOther]
      rw [hGo]
      apply ih hLt
      intro j hj hij
      exact hAfter j hj (by omega)
  | case3 t i hi hNext =>
      have hStop : (scan t i hi).val = i + 1 := by
        rw [scan, dif_neg hNext]
      omega

section Masks

variable (evtMask : α → EventMask)
variable (mExcludedMask : EventMask)

/- The masks of some adapters, put together. -/
def orMasks (l : List α) : EventMask :=
  l.foldl (fun mask adapter => mask ||| evtMask adapter) 0#32

theorem orMasks_perm
    {k : List α}
    (hPerm : k.Perm l) :
    orMasks evtMask k = orMasks evtMask l := by
  apply hPerm.foldl_eq'
  intro x _ y _ mask
  rw [BitVec.or_assoc, BitVec.or_assoc,
    BitVec.or_comm (evtMask x)]

theorem getEvtMask_eq
    (hHolds : Holds mLocAdapters l) :
    getEvtMask evtMask mExcludedMask mLocAdapters =
      orMasks evtMask l &&& ~~~ mExcludedMask := by
  unfold getEvtMask orMasks
  rw [toAllAdapters_eq_foldl _ hHolds]

variable [DecidableEq α]
variable {adapter : α}

theorem addFrom_of_present
    (hHolds : Holds mLocAdapters l)
    (i : Nat)
    (hPresent :
      adapter ∈ l.drop i ∨ maxAdapters ≤ l.length) :
    addFrom evtMask adapter mLocAdapters i =
      (mLocAdapters, []) := by
  induction i using
      addFrom.induct adapter mLocAdapters with
  | case1 i hi hMatch =>
      rw [addFrom, dif_pos hi, if_pos hMatch]
  | case2 i hi hMatch hFree =>
      have hEnd := (hHolds.eq_none_iff hi).mp hFree
      rw [List.drop_eq_nil_of_le hEnd] at hPresent
      rcases hPresent with hMem | hFull
      · simp at hMem
      · omega
  | case3 i hi hMatch other hUsed ih =>
      rw [addFrom, dif_pos hi, if_neg hMatch, hUsed]
      apply ih
      rcases hPresent with hMem | hFull
      · left
        have hEntry := hHolds.entry i hi
        rw [hUsed] at hEntry
        rcases List.getElem?_eq_some_iff.mp hEntry.symm with
          ⟨hLt, hGet⟩
        rw [List.drop_eq_getElem_cons hLt, hGet] at hMem
        rcases List.mem_cons.mp hMem with hSame | hLater
        · exact absurd (hSame ▸ hUsed) hMatch
        · exact hLater
      · exact Or.inr hFull
  | case4 i hi =>
      rw [addFrom, dif_neg hi]

theorem addFrom_of_fresh
    (hHolds : Holds mLocAdapters l)
    (hRoom : l.length < maxAdapters)
    (i : Nat)
    (hStart : i ≤ l.length)
    (hFresh : adapter ∉ l.drop i) :
    addFrom evtMask adapter mLocAdapters i =
      (mLocAdapters.set l.length (some adapter),
        [.sendOpenMsg (evtMask adapter)]) := by
  induction i using
      addFrom.induct adapter mLocAdapters with
  | case1 i hi hMatch =>
      have hEntry := hHolds.entry i hi
      rw [hMatch] at hEntry
      rcases List.getElem?_eq_some_iff.mp hEntry.symm with
        ⟨hLt, hGet⟩
      rw [List.drop_eq_getElem_cons hLt, hGet] at hFresh
      simp at hFresh
  | case2 i hi hMatch hFree =>
      have hEnd := (hHolds.eq_none_iff hi).mp hFree
      have hSame : i = l.length := by omega
      subst hSame
      rw [addFrom, dif_pos hi, if_neg hMatch, hFree]
  | case3 i hi hMatch other hUsed ih =>
      have hEntry := hHolds.entry i hi
      rw [hUsed] at hEntry
      rcases List.getElem?_eq_some_iff.mp hEntry.symm with
        ⟨hLt, -⟩
      rw [addFrom, dif_pos hi, if_neg hMatch, hUsed]
      apply ih hLt
      rw [List.drop_eq_getElem_cons hLt] at hFresh
      intro hLater
      exact hFresh (List.mem_cons_of_mem _ hLater)
  | case4 i hi =>
      omega

theorem removeFrom_of_absent
    (hHolds : Holds mLocAdapters l)
    (i : Nat)
    (hAbsent : adapter ∉ l.drop i) :
    removeFrom evtMask mExcludedMask adapter mLocAdapters i =
      (mLocAdapters, []) := by
  rcases Nat.lt_or_ge i l.length with hLt | hEnd
  · have hFits := hHolds.fits
    rw [List.drop_eq_getElem_cons hLt] at hAbsent
    rw [removeFrom, dif_pos (by omega : i < maxAdapters),
      hHolds.of_lt (by omega) hLt]
    have hOther : l[i] ≠ adapter := by
      intro hSame
      rw [hSame] at hAbsent
      simp at hAbsent
    simp only [if_neg hOther]
    apply removeFrom_of_absent hHolds
    intro hLater
    exact hAbsent (List.mem_cons_of_mem _ hLater)
  · rw [removeFrom]
    split
    · next hi =>
        rw [(hHolds.eq_none_iff hi).mpr hEnd]
    · rfl
termination_by l.length - i

/-
  The hole at the adapter is filled with the last one, and
  the slot behind ends the outer loop.
-/
theorem removeFrom_here
    (hHolds : Holds mLocAdapters l)
    {k : Nat}
    (hk : k < l.length)
    (hAt : l[k] = adapter) :
    ∃ t,
      Holds t (swapRemove l k) ∧
        removeFrom evtMask mExcludedMask adapter
            mLocAdapters k =
          (t,
            [if l.length = 1 then .close
              else
                .sendOpenMsg
                  (orMasks evtMask (swapRemove l k) &&&
                    ~~~ mExcludedMask)]) := by
  have hFits := hHolds.fits
  have hi : k < maxAdapters := by omega
  have hScan :
      (scan (mLocAdapters.set k none) k hi).val =
        l.length := by
    apply scan_eq hi hk hFits
    intro j hj hkj
    rw [Vector.getElem_set_ne hi hj (by omega)]
    exact hHolds.entry j hj
  have hLast :
      (scan (mLocAdapters.set k none) k hi).val - 1 <
        maxAdapters := by
    omega
  have hClosed :=
    hHolds.fillHole hi hLast (by omega) (by omega)
  have hOnly :
      (scan (mLocAdapters.set k none) k hi).val - 1 = 0 ↔
        l.length = 1 := by
    omega
  have hRest :
      (swapRemove l k).drop
          ((scan (mLocAdapters.set k none) k hi).val - 1 + 1) =
        [] := by
    apply List.drop_eq_nil_of_le
    rw [Slots.length_swapRemove hk]
    omega
  refine ⟨_, hClosed, ?_⟩
  rw [removeFrom, dif_pos hi, hHolds.of_lt hi hk]
  simp only [if_pos hAt, hOnly]
  rw [removeFrom_of_absent evtMask mExcludedMask hClosed,
    getEvtMask_eq evtMask mExcludedMask hClosed]
  rw [hRest]
  exact List.not_mem_nil

theorem removeFrom_of_present
    (hHolds : Holds mLocAdapters l)
    (hNodup : l.Nodup)
    {k : Nat}
    (hk : k < l.length)
    (hAt : l[k] = adapter)
    (i : Nat)
    (hStart : i ≤ k) :
    ∃ t,
      Holds t (swapRemove l k) ∧
        removeFrom evtMask mExcludedMask adapter
            mLocAdapters i =
          (t,
            [if l.length = 1 then .close
              else
                .sendOpenMsg
                  (orMasks evtMask (swapRemove l k) &&&
                    ~~~ mExcludedMask)]) := by
  rcases Nat.lt_or_eq_of_le hStart with hBefore | rfl
  · have hFits := hHolds.fits
    have hOther : l[i] ≠ adapter := by
      rw [← hAt]
      intro hSame
      have hIndex := (hNodup.getElem_inj_iff).mp hSame
      omega
    rw [removeFrom, dif_pos (by omega : i < maxAdapters),
      hHolds.of_lt (by omega) (by omega)]
    simp only [if_neg hOther]
    exact removeFrom_of_present hHolds hNodup hk hAt (i + 1)
      hBefore
  · exact
      removeFrom_here evtMask mExcludedMask hHolds hk hAt
termination_by k - i

end Masks

end LocApiBase

end D2Common

------------------------------------------------------------
-- The Registry
------------------------------------------------------------

namespace D2Common

namespace LocApiBase

open Slots (Holds HasFree swapRemove)

section Registry

variable {α : Type}
variable [DecidableEq α]
variable (evtMask : α → EventMask)
variable (mExcludedMask : EventMask)

/- What a removal tells the modem, by who is left. -/
def removed (rest : List α) : Output :=
  if rest = [] then .close
  else
    .sendOpenMsg (orMasks evtMask rest &&& ~~~ mExcludedMask)

/-
  What the table is for: a bounded list of the registered
  adapters, without duplicates.
-/
def enlist
    (l : List α)
    (adapter : α) : List α × List Output :=
  if adapter ∈ l ∨ maxAdapters ≤ l.length then (l, [])
  else (l ++ [adapter], [.sendOpenMsg (evtMask adapter)])

/- The last adapter takes the place of the removed one. -/
def delist
    (l : List α)
    (adapter : α) : List α × List Output :=
  if adapter ∈ l then
    (swapRemove l (l.idxOf adapter),
      [removed evtMask mExcludedMask (l.erase adapter)])
  else (l, [])

def register
    (l : List α) :
    Call α → List α × List Output
| .addAdapter adapter => enlist evtMask l adapter
| .removeAdapter adapter =>
    delist evtMask mExcludedMask l adapter

/- The registry from its construction on. -/
def registry :
    Transducer (List α) (Call α) Output where
  init := []
  step := register evtMask mExcludedMask

/- The table holds the registered adapters, each once. -/
structure Lists
    (mLocAdapters : Adapters α)
    (l : List α) : Prop where
  holds : Holds mLocAdapters l
  nodup : l.Nodup

variable {mLocAdapters : Adapters α}
variable {l : List α}

theorem lists_addAdapter
    (hLists : Lists mLocAdapters l)
    (adapter : α) :
    Lists
        (addAdapter evtMask adapter mLocAdapters).1
        (enlist evtMask l adapter).1 ∧
      (addAdapter evtMask adapter mLocAdapters).2 =
        (enlist evtMask l adapter).2 := by
  unfold addAdapter enlist
  by_cases hKept : adapter ∈ l ∨ maxAdapters ≤ l.length
  · rw [addFrom_of_present evtMask hLists.holds 0 hKept,
      if_pos hKept]
    exact ⟨hLists, rfl⟩
  · rw [if_neg hKept]
    rcases not_or.mp hKept with ⟨hFresh, hRoom⟩
    have hRoom := Nat.lt_of_not_le hRoom
    rw [addFrom_of_fresh evtMask hLists.holds hRoom 0
      (Nat.zero_le _) hFresh]
    refine ⟨⟨hLists.holds.push hRoom adapter, ?_⟩, rfl⟩
    rw [List.nodup_append_comm]
    exact List.nodup_cons.mpr ⟨hFresh, hLists.nodup⟩

theorem lists_removeAdapter
    (hLists : Lists mLocAdapters l)
    (adapter : α) :
    Lists
        (removeAdapter evtMask mExcludedMask adapter
          mLocAdapters).1
        (delist evtMask mExcludedMask l adapter).1 ∧
      (removeAdapter evtMask mExcludedMask adapter
          mLocAdapters).2 =
        (delist evtMask mExcludedMask l adapter).2 := by
  unfold removeAdapter delist
  by_cases hMem : adapter ∈ l
  · have hk : l.idxOf adapter < l.length :=
      List.idxOf_lt_length_of_mem hMem
    have hAt : l[l.idxOf adapter] = adapter :=
      List.getElem_idxOf hk
    have hPerm :=
      Slots.swapRemove_perm_erase hk hLists.nodup
    rw [hAt] at hPerm
    have hOnly : l.erase adapter = [] ↔ l.length = 1 := by
      have hPositive := List.length_pos_of_mem hMem
      rw [← List.length_eq_zero_iff,
        List.length_erase_of_mem hMem]
      omega
    rcases
        removeFrom_of_present evtMask mExcludedMask
          hLists.holds hLists.nodup hk hAt 0 (Nat.zero_le _)
      with ⟨t, hHolds, hResult⟩
    rw [hResult, if_pos hMem, removed,
      ← orMasks_perm evtMask hPerm]
    simp only [hOnly, and_true]
    exact
      ⟨hHolds, Slots.nodup_swapRemove hk hLists.nodup⟩
  · rw [removeFrom_of_absent evtMask mExcludedMask
        hLists.holds 0 hMem, if_neg hMem]
    exact ⟨hLists, rfl⟩

/- The table refines the registry. -/
theorem lists_step
    (hLists : Lists mLocAdapters l)
    (c : Call α) :
    Lists
        ((system evtMask mExcludedMask).step
          mLocAdapters c).1
        (register evtMask mExcludedMask l c).1 ∧
      ((system evtMask mExcludedMask).step
          mLocAdapters c).2 =
        (register evtMask mExcludedMask l c).2 := by
  cases c with
  | addAdapter adapter =>
      exact
        lists_addAdapter evtMask hLists adapter
  | removeAdapter adapter =>
      exact
        lists_removeAdapter evtMask mExcludedMask hLists
          adapter

omit [DecidableEq α] in
theorem lists_init :
    Lists
      (Vector.replicate maxAdapters (none : Option α)) [] where
  holds := Slots.holds_nil
  nodup := List.nodup_nil

/- Every run tells the modem what the registry would. -/
theorem transcript_eq_registry
    (calls : List (Call α)) :
    (system evtMask mExcludedMask).transcript calls =
      (registry evtMask mExcludedMask).transcript calls := by
  refine
    ((system evtMask mExcludedMask).simulates
      (registry evtMask mExcludedMask)
      (C := fun _ => True) lists_init ?_ calls ?_).2
  · intro t l c hLists _
    exact lists_step evtMask mExcludedMask hLists c
  · intro before e after _
    trivial

end Registry

end LocApiBase

end D2Common

------------------------------------------------------------
-- Who Is Registered
------------------------------------------------------------

namespace D2Common

namespace LocApiBase

open Slots (Holds HasFree swapRemove)

section Runs

variable {α : Type}
variable [DecidableEq α]
variable (evtMask : α → EventMask)
variable (mExcludedMask : EventMask)

/- One call, as it was made. -/
abbrev Step (α : Type) :=
  Transducer.Event (Adapters α) (Call α) Output

/- An adapter is added while the table has a free slot. -/
def AddedWithRoom
    (adapter : α)
    (e : Step α) : Prop :=
  e.input = .addAdapter adapter ∧ HasFree e.before

/- An adapter is removed. -/
def Removed
    (adapter : α)
    (e : Step α) : Prop :=
  e.input = .removeAdapter adapter

/-
  One call registers an adapter that finds room, takes out
  the one it removes, and leaves all others as they were.
-/
theorem mem_register
    {mLocAdapters : Adapters α}
    {l : List α}
    (hLists : Lists mLocAdapters l)
    (c : Call α)
    (adapter : α) :
    adapter ∈ (register evtMask mExcludedMask l c).1 ↔
      (c = .addAdapter adapter ∧ HasFree mLocAdapters) ∨
        (adapter ∈ l ∧ c ≠ .removeAdapter adapter) := by
  rw [hLists.holds.hasFree_iff]
  cases c with
  | addAdapter other =>
      simp only [register, enlist, Call.addAdapter.injEq]
      split
      · next hKept =>
          rcases hKept with hPresent | hFull
          · constructor
            · intro hMem
              exact Or.inr ⟨hMem, nofun⟩
            · rintro (⟨rfl, -⟩ | ⟨hMem, -⟩)
              · exact hPresent
              · exact hMem
          · have hNoRoom : ¬ l.length < maxAdapters := by
              omega
            simp [hNoRoom]
      · next hNew =>
          have hRoom := Nat.lt_of_not_le (not_or.mp hNew).2
          simp only [List.mem_append, List.mem_singleton]
          constructor
          · rintro (hMem | rfl)
            · exact Or.inr ⟨hMem, nofun⟩
            · exact Or.inl ⟨rfl, hRoom⟩
          · rintro (⟨rfl, -⟩ | ⟨hMem, -⟩)
            · exact Or.inr rfl
            · exact Or.inl hMem
  | removeAdapter other =>
      simp only [register, delist, ne_eq,
        Call.removeAdapter.injEq]
      split
      · next hPresent =>
          have hk := List.idxOf_lt_length_of_mem hPresent
          rw [Slots.mem_swapRemove hk hLists.nodup,
            List.getElem_idxOf hk]
          simp [and_comm, eq_comm]
      · next hAbsent =>
          constructor
          · intro hMem
            refine Or.inr ⟨hMem, ?_⟩
            rintro rfl
            exact hAbsent hMem
          · rintro (⟨hAdd, -⟩ | ⟨hMem, -⟩)
            · simp at hAdd
            · exact hMem

/-
  After every run the table holds a list of adapters without
  duplicates, of exactly those that were added while there
  was room and have not been removed since.
-/
theorem registered_run
    (calls : List (Call α)) :
    ∃ l,
      Lists ((system evtMask mExcludedMask).run calls) l ∧
        ∀ adapter,
          adapter ∈ l ↔
            History.Open (AddedWithRoom adapter)
              (Removed adapter)
              ((system evtMask mExcludedMask).history
                calls) := by
  apply (system evtMask mExcludedMask).history_induction_of_all
    (I := fun h s =>
      ∃ l, Lists s l ∧
        ∀ adapter,
          adapter ∈ l ↔
            History.Open (AddedWithRoom adapter)
              (Removed adapter) h)
  · refine ⟨[], lists_init, ?_⟩
    intro adapter
    exact iff_of_false List.not_mem_nil History.not_open_nil
  · rintro h s c ⟨l, hLists, hOpen⟩
    refine ⟨_,
      (lists_step evtMask mExcludedMask hLists c).1, ?_⟩
    intro adapter
    rw [mem_register evtMask mExcludedMask hLists,
      History.open_concat, hOpen adapter]
    rfl

/-
  The table of adapters is a compact set, in every state
  that calls can lead to, and so is what every call does to
  it and tells the modem.
-/
theorem adapters_compact_set
    (calls : List (Call α)) :
    let M := system evtMask mExcludedMask
    let t := M.run calls
    ∃ l : List α,
      l.Nodup ∧
      l.length ≤ maxAdapters ∧
      (∀ i (hi : i < maxAdapters), t[i] = l[i]?) ∧
      (∀ adapter,
        adapter ∈ l ↔
          History.Open (AddedWithRoom adapter)
            (Removed adapter) (M.history calls)) ∧
      (∀ adapter,
        adapter ∈ l ∨ ¬ HasFree t →
          M.step t (.addAdapter adapter) = (t, [])) ∧
      (∀ adapter,
        adapter ∉ l →
          M.step t (.removeAdapter adapter) = (t, [])) ∧
      (∀ adapter,
        adapter ∈ l →
          (M.step t (.removeAdapter adapter)).2 =
            if l = [adapter] then [.close]
            else
              [.sendOpenMsg
                (orMasks evtMask (l.erase adapter) &&&
                  ~~~ mExcludedMask)]) ∧
      ∀ (σ : Type) (call : σ → α → σ) (s : σ),
        toAllAdapters call t s = l.foldl call s := by
  intro M t
  rcases registered_run evtMask mExcludedMask calls with
    ⟨l, hLists, hOpen⟩
  refine ⟨l, hLists.nodup, hLists.holds.fits,
    hLists.holds.entry, hOpen, ?_, ?_, ?_, ?_⟩
  · intro adapter hKept
    apply addFrom_of_present evtMask hLists.holds 0
    rcases hKept with hPresent | hFull
    · exact Or.inl hPresent
    · right
      rw [hLists.holds.hasFree_iff] at hFull
      omega
  · intro adapter hAbsent
    exact removeFrom_of_absent evtMask mExcludedMask
      hLists.holds 0 hAbsent
  · intro adapter hMem
    have hOut :=
      (lists_removeAdapter evtMask mExcludedMask hLists
        adapter).2
    have hOnly : l.erase adapter = [] ↔ l = [adapter] := by
      rw [List.erase_eq_nil_iff]
      constructor
      · rintro (rfl | hOnly)
        · simp at hMem
        · exact hOnly
      · exact Or.inr
    rw [show M.step t (.removeAdapter adapter) =
        removeAdapter evtMask mExcludedMask adapter t from rfl,
      hOut, delist, if_pos hMem, removed]
    simp only [hOnly]
    split <;> rfl
  · intro σ call s
    exact toAllAdapters_eq_foldl call hLists.holds s

end Runs

end LocApiBase

end D2Common
