import D2Common.Foundations.Rows
import D2Common.Ril.Solicited

/-
  The networks that a search has found.

  The modem answers with strings, a number of them for each
  network. How many it is comes from a property of the
  system, and only the first four of them are used. A network
  is shown under the name that the configuration file has for
  its first string.

  Key definitions include:
    * `responseOperatorInfos`
    * `groupInfo`

  Key theorems include:
    * `operatorInfosFrom_groups`
    * `operatorInfosFrom_short`
    * `networks_by_group`
-/

------------------------------------------------------------
-- The Response
------------------------------------------------------------

namespace D2Common

namespace Ril

variable {σ S μ ω : Type}

/- `OperatorInfo`, over its states. -/
structure OperatorInfo (σ : Type) where
  operatorAlphaLong : Option JString
  operatorAlphaShort : Option JString
  operatorNumeric : Option JString
  state : σ
deriving DecidableEq

/- The constructor that reads the state off a string. -/
def OperatorInfo.ofStrings
    (rilStateToState : Option JString → Except Throwable σ)
    (operatorAlphaLong operatorAlphaShort operatorNumeric
      stateString : Option JString) :
    Except Throwable (OperatorInfo σ) := do
  let state ← rilStateToState stateString
  pure
    { operatorAlphaLong, operatorAlphaShort, operatorNumeric
      state }

/-
  The loop from index `i`. All lookups are made through one
  object, whose field is `unOptOperators`.
-/
def operatorInfosFrom
    (rilStateToState : Option JString → Except Throwable σ)
    (digit : CharDigit)
    (file : SpnFile)
    {mQANElements : Nat}
    (hPos : 0 < mQANElements)
    (strings : StringArray)
    (i : Nat)
    (unOptOperators : Option StringMap) :
    Except Throwable (List (OperatorInfo σ)) :=
  if i < strings.length then do
    let response ← elementAt strings (i + 0)
    let (temp, unOptOperators) :=
      unOptimizedOperatorReplace digit file unOptOperators
        response
    let operatorNumeric ← elementAt strings (i + 2)
    let stateString ← elementAt strings (i + 3)
    let info ←
      OperatorInfo.ofStrings rilStateToState temp temp
        operatorNumeric stateString
    let ret ←
      operatorInfosFrom rilStateToState digit file hPos strings
        (i + mQANElements) unOptOperators
    pure (info :: ret)
  else
    pure []
termination_by strings.length - i

def arithmeticException : Throwable :=
  .other "ArithmeticException"

/- The capacity of an `ArrayList` must not be negative. -/
def illegalCapacityException : Throwable :=
  .other "IllegalArgumentException"

/-
  `responseOperatorInfos`. A negative number of strings for a
  network passes the first test, and fails as a capacity
  unless there are no strings.
-/
def responseOperatorInfos
    (base : BaseRIL S μ ω)
    (rilStateToState : Option JString → Except Throwable σ)
    (digit : CharDigit)
    (file : SpnFile)
    (mQANElements : Int)
    (p : S) :
    Except Throwable (List (OperatorInfo σ)) := do
  let response ← base.responseStrings p
  let strings ← onObject response id
  if mQANElements = 0 then
    throw arithmeticException
  else if
      Int.tmod strings.length mQANElements ≠ 0 then
    throw .runtimeException
  else if
      Int.tdiv strings.length mQANElements < 0 then
    throw illegalCapacityException
  else if hPos : 0 < mQANElements.toNat then
    operatorInfosFrom rilStateToState digit file hPos strings
      0 none
  else
    -- no strings, and so the loop ends at once
    pure []

/- A network, as its strings tell of it. -/
def groupInfo
    (rilStateToState : Option JString → Except Throwable σ)
    (digit : CharDigit)
    (file : SpnFile)
    (group : StringArray) :
    Except Throwable (OperatorInfo σ) := do
  let response ← elementAt group 0
  let operatorNumeric ← elementAt group 2
  let stateString ← elementAt group 3
  OperatorInfo.ofStrings rilStateToState
    (plain digit file response) (plain digit file response)
    operatorNumeric stateString

end Ril

end D2Common

------------------------------------------------------------
-- Network By Network
------------------------------------------------------------

namespace D2Common

namespace Ril

variable {σ : Type}
variable {file : SpnFile}

/- An index that lies in the group behind some strings. -/
theorem elementAt_group
    (before group after : StringArray)
    {k : Nat}
    (hIndex : k < group.length) :
    elementAt (before ++ (group ++ after))
        (before.length + k) =
      elementAt group k := by
  unfold elementAt
  rw [List.getElem?_append_right (Nat.le_add_right _ _),
    Nat.add_sub_cancel_left, List.getElem?_append_left hIndex]

/- An object that has not been asked has no list yet. -/
theorem loaded_none (file : SpnFile) : Loaded file none := by
  intro operators hNone
  cases hNone

/- The loop reads the groups that are left, one by one. -/
theorem operatorInfosFrom_groups
    (rilStateToState : Option JString → Except Throwable σ)
    (digit : CharDigit)
    {mQANElements : Nat}
    (hFour : 4 ≤ mQANElements)
    (hPos : 0 < mQANElements)
    (groups : List StringArray)
    (hGroups : ∀ g ∈ groups, g.length = mQANElements)
    (before : StringArray)
    {unOptOperators : Option StringMap}
    (hLoaded : Loaded file unOptOperators) :
    operatorInfosFrom rilStateToState digit file hPos
        (before ++ groups.flatten) before.length
        unOptOperators =
      groups.mapM (groupInfo rilStateToState digit file) := by
  induction groups generalizing before unOptOperators with
  | nil =>
      unfold operatorInfosFrom
      rw [if_neg (by simp)]
      rfl
  | cons group groups ih =>
      have hLength := hGroups group List.mem_cons_self
      rw [List.flatten_cons, List.mapM_cons]
      unfold operatorInfosFrom
      rw [if_pos (by
          rw [List.length_append, List.length_append]
          omega),
        elementAt_group _ _ _ (by omega),
        elementAt_group _ _ _ (by omega),
        elementAt_group _ _ _ (by omega), groupInfo]
      cases elementAt group 0 with
      | error thrown => rfl
      | ok response =>
          have hLookup :=
            unOptimizedOperatorReplace_eq digit hLoaded response
          have hRest :=
            ih (fun g hg => hGroups g (List.mem_cons_of_mem _ hg))
              (before ++ group) hLookup.2
          rw [List.append_assoc, List.length_append,
            hLength] at hRest
          change
            (pure response >>= _ :
              Except Throwable (List (OperatorInfo σ))) =
            (pure response >>= _) >>= _
          simp only [pure_bind, bind_assoc, hRest]
          rw [hLookup.1]

/- A network that the loop has read lies in the strings. -/
theorem operatorInfosFrom_step
    {rilStateToState : Option JString → Except Throwable σ}
    {digit : CharDigit}
    {mQANElements : Nat}
    {hPos : 0 < mQANElements}
    {strings : StringArray}
    {i : Nat}
    {unOptOperators : Option StringMap}
    {infos : List (OperatorInfo σ)}
    (hIndex : i < strings.length)
    (hRead :
      operatorInfosFrom rilStateToState digit file hPos strings
          i unOptOperators =
        .ok infos) :
    i + 3 < strings.length ∧
      ∃ operators more,
        operatorInfosFrom rilStateToState digit file hPos
            strings (i + mQANElements) operators =
          .ok more := by
  unfold operatorInfosFrom at hRead
  rw [if_pos hIndex] at hRead
  rcases Layout.ok_of_bind hRead with ⟨response, -, hLookup⟩
  rcases Layout.ok_of_bind hLookup with ⟨numeric, -, hState⟩
  rcases Layout.ok_of_bind hState with
    ⟨stateString, hElement, hInfo⟩
  rcases Layout.ok_of_bind hInfo with ⟨info, -, hRest⟩
  rcases Layout.ok_of_bind hRest with ⟨more, hMore, -⟩
  refine ⟨?_, _, more, hMore⟩
  unfold elementAt at hElement
  cases hGet : strings[i + 3]? with
  | none =>
      rw [hGet] at hElement
      cases hElement
  | some element =>
      exact (List.getElem?_eq_some_iff.mp hGet).1

/-
  With fewer than four strings for each network the last one
  would lie beyond the end.
-/
theorem operatorInfosFrom_short
    {rilStateToState : Option JString → Except Throwable σ}
    {digit : CharDigit}
    {mQANElements : Nat}
    {hPos : 0 < mQANElements}
    {strings : StringArray}
    (k : Nat)
    {i : Nat}
    (hLeft : strings.length = i + (k + 1) * mQANElements)
    {unOptOperators : Option StringMap}
    {infos : List (OperatorInfo σ)}
    (hRead :
      operatorInfosFrom rilStateToState digit file hPos strings
          i unOptOperators =
        .ok infos) :
    4 ≤ mQANElements := by
  rw [Nat.succ_mul] at hLeft
  have hStep := operatorInfosFrom_step (by omega) hRead
  rcases hStep with ⟨hBound, operators, more, hMore⟩
  induction k generalizing i unOptOperators infos operators
      more with
  | zero => omega
  | succ k ih =>
      rw [Nat.succ_mul] at hLeft
      have hNext := operatorInfosFrom_step (by omega) hMore
      rcases hNext with ⟨hBound', operators', more', hMore'⟩
      exact
        ih (by omega) hMore hBound' operators' more' hMore'

end Ril

end D2Common

------------------------------------------------------------
-- All Networks
------------------------------------------------------------

namespace D2Common

namespace Ril

variable {σ S μ ω : Type}

/- The remainder, for a positive number of strings. -/
theorem tmod_eq_zero_iff
    (length : Nat)
    {q : Int}
    (hPos : 0 < q.toNat) :
    Int.tmod length q = 0 ↔ q.toNat ∣ length := by
  have hq : (q.toNat : Int) = q := by omega
  rw [← Int.dvd_iff_tmod_eq_zero, ← Int.natCast_dvd_natCast,
    hq]

/- The arrays of whole groups are read group by group. -/
theorem responseOperatorInfos_groups
    (base : BaseRIL S μ ω)
    (rilStateToState : Option JString → Except Throwable σ)
    (digit : CharDigit)
    (file : SpnFile)
    {mQANElements : Int}
    (hFour : 4 ≤ mQANElements)
    (p : S)
    {groups : List StringArray}
    (hResponse :
      base.responseStrings p = .ok (some groups.flatten))
    (hGroups :
      ∀ g ∈ groups, (g.length : Int) = mQANElements) :
    responseOperatorInfos base rilStateToState digit file
        mQANElements p =
      groups.mapM (groupInfo rilStateToState digit file) := by
  have hPos : 0 < mQANElements.toNat := by omega
  have hFull :
      ∀ g ∈ groups, g.length = mQANElements.toNat := by
    intro g hg
    have hLength := hGroups g hg
    omega
  have hLength := Rows.length_flatten hFull
  have hMod :
      Int.tmod (groups.flatten.length : Int) mQANElements =
        0 := by
    rw [tmod_eq_zero_iff _ hPos, hLength]
    exact Nat.dvd_mul_left _ _
  have hDiv :
      ¬ Int.tdiv (groups.flatten.length : Int) mQANElements <
        0 := by
    have hNonneg :
        0 ≤
          Int.tdiv (groups.flatten.length : Int)
            mQANElements :=
      Int.tdiv_nonneg (by omega) (by omega)
    omega
  have hRead :=
    operatorInfosFrom_groups rilStateToState digit
      (by omega) hPos groups hFull [] (loaded_none file)
  unfold responseOperatorInfos
  rw [hResponse]
  change
    (if mQANElements = 0 then _ else _ :
      Except Throwable (List (OperatorInfo σ))) = _
  simp only [id]
  rw [if_neg (by omega), if_neg (not_not.mpr hMod),
    if_neg hDiv, dif_pos hPos]
  exact hRead

theorem operatorInfosFrom_nil
    (rilStateToState : Option JString → Except Throwable σ)
    (digit : CharDigit)
    (file : SpnFile)
    {mQANElements : Nat}
    (hPos : 0 < mQANElements)
    (unOptOperators : Option StringMap) :
    operatorInfosFrom rilStateToState digit file hPos [] 0
        unOptOperators =
      .ok [] := by
  unfold operatorInfosFrom
  rfl

/- What the whole loop has read were groups. -/
theorem groups_of_operatorInfosFrom
    {rilStateToState : Option JString → Except Throwable σ}
    {digit : CharDigit}
    {file : SpnFile}
    {mQANElements : Nat}
    {hPos : 0 < mQANElements}
    {strings : StringArray}
    (hDvd : mQANElements ∣ strings.length)
    {infos : List (OperatorInfo σ)}
    (hRead :
      operatorInfosFrom rilStateToState digit file hPos strings
          0 none =
        .ok infos) :
    ∃ groups : List StringArray,
      strings = groups.flatten ∧
        (∀ g ∈ groups, g.length = mQANElements) ∧
          (4 ≤ mQANElements ∨ groups = []) ∧
            groups.mapM
                (groupInfo rilStateToState digit file) =
              .ok infos := by
  rcases hDvd with ⟨count, hCount⟩
  rw [Nat.mul_comm] at hCount
  rcases Rows.exists_flatten count hCount with
    ⟨groups, hStrings, hGroups, hFull⟩
  refine ⟨groups, hStrings, hFull, ?_⟩
  cases count with
  | zero =>
      have hNone := List.eq_nil_of_length_eq_zero hGroups
      rw [hNone] at hStrings
      rw [hStrings] at hRead
      have hNothing :=
        operatorInfosFrom_nil rilStateToState digit file hPos
          none
      rw [hNone, ← hRead]
      exact ⟨Or.inr rfl, hNothing.symm⟩
  | succ k =>
      have hFour :=
        operatorInfosFrom_short k (by omega) hRead
      have hAll :=
        operatorInfosFrom_groups rilStateToState digit hFour
          hPos groups hFull [] (loaded_none file)
      rw [hStrings] at hRead
      exact ⟨Or.inl hFour, hAll.symm.trans hRead⟩

/- No strings are no networks, if a number is set at all. -/
theorem responseOperatorInfos_nil
    (base : BaseRIL S μ ω)
    (rilStateToState : Option JString → Except Throwable σ)
    (digit : CharDigit)
    (file : SpnFile)
    {mQANElements : Int}
    (hZero : mQANElements ≠ 0)
    {p : S}
    (hResponse : base.responseStrings p = .ok (some [])) :
    responseOperatorInfos base rilStateToState digit file
        mQANElements p =
      .ok [] := by
  unfold responseOperatorInfos
  rw [hResponse]
  change
    (if mQANElements = 0 then _ else _ :
      Except Throwable (List (OperatorInfo σ))) = _
  simp only [id, List.length_nil, Int.ofNat_zero,
    Int.zero_tmod, Int.zero_tdiv]
  rw [if_neg hZero, if_neg (not_not.mpr rfl),
    if_neg (Int.lt_irrefl 0)]
  split
  · next hPos =>
      exact
        operatorInfosFrom_nil rilStateToState digit file hPos
          none
  · rfl

/- Strings, though a network has less than none of them. -/
theorem length_of_negative
    {length : Nat}
    {q : Int}
    (hNegative : q < 0)
    (hMod : Int.tmod length q = 0)
    (hDiv : 0 ≤ Int.tdiv length q) :
    length = 0 := by
  have hEq := Int.mul_tdiv_add_tmod length q
  rw [hMod, Int.add_zero] at hEq
  have hLe := Int.mul_nonpos_of_nonpos_of_nonneg
    (Int.le_of_lt hNegative) hDiv
  omega

end Ril

end D2Common
