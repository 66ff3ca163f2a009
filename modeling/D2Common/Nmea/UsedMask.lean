import D2Common.Nmea.Fields
import D2Common.Nmea.SatellitesInView

/-
  The satellites of a mask.

  A position report makes a list of the mask in the cache
  and prints it in `$GPGSA`. The list has the satellites of
  the set bits in order, for every mask, and the sentence
  always has room for the first twelve of them.

  Key definitions include:
    * `satellites`
    * `gsaText`

  Key theorems include:
    * `svUsed_eq`
    * `generatePos_gsa`
    * `fields_gsaText`
-/

------------------------------------------------------------
-- The Mask
------------------------------------------------------------

namespace D2Common

namespace Nmea

/- The satellites in the lowest bits of a mask, in order. -/
def satellitesBelow
    (mask : BitVec 32)
    (k : Nat) : List Nat :=
  ((List.range k).filter fun j => mask.getLsbD j).map
    fun j => j + 1

/- The satellites of a mask. -/
def satellites (mask : BitVec 32) : List Nat :=
  satellitesBelow mask 32

theorem satellitesBelow_succ
    (mask : BitVec 32)
    (k : Nat) :
    satellitesBelow mask (k + 1) =
      if mask.getLsbD k then
        satellitesBelow mask k ++ [k + 1]
      else
        satellitesBelow mask k := by
  unfold satellitesBelow
  rw [List.range_succ, List.filter_append, List.map_append]
  cases hBit : mask.getLsbD k <;> simp [hBit]

theorem length_satellitesBelow_le
    (mask : BitVec 32)
    (k : Nat) :
    (satellitesBelow mask k).length ≤ k := by
  unfold satellitesBelow
  rw [List.length_map]
  have hFilter :=
    List.length_filter_le (fun j => mask.getLsbD j)
      (List.range k)
  rwa [List.length_range] at hFilter

/- The loop may stop when there is nothing left in a mask. -/
theorem satellitesBelow_of_shift_eq_zero
    {mask : BitVec 32}
    {k : Nat}
    (hEmpty : mask >>> k = 0)
    (j : Nat) :
    satellitesBelow mask (k + j) = satellitesBelow mask k := by
  induction j with
  | zero => rfl
  | succ j ih =>
      have hBit : mask.getLsbD (k + j) = false := by
        rw [← BitVec.getLsbD_ushiftRight, hEmpty]
        exact BitVec.getLsbD_zero
      rw [← Nat.add_assoc, satellitesBelow_succ, hBit, ih]
      rfl

theorem and_one_ne_zero_iff
    (mask : BitVec 32)
    (k : Nat) :
    mask >>> k &&& 1 ≠ 0 ↔ mask.getLsbD k = true := by
  have hLowest :
      mask >>> k &&& 1#32 =
        if mask.getLsbD k then 1#32 else 0#32 := by
    apply BitVec.eq_of_getLsbD_eq
    intro j hj
    rw [BitVec.getLsbD_and, BitVec.getLsbD_ushiftRight,
      BitVec.getLsbD_one]
    by_cases hZero : j = 0
    · subst hZero
      cases mask.getLsbD k <;> simp
    · cases mask.getLsbD k <;> simp [hZero]
  have hGoal : mask >>> k &&& 1#32 ≠ 0#32 ↔
      mask.getLsbD k = true := by
    rw [hLowest]
    cases mask.getLsbD k <;> simp
  exact hGoal

/-
  The loop from any satellite on: what it has found are the
  satellites below.
-/
theorem svUsed_shift
    (mask : BitVec 32)
    {k : Nat}
    (hk : k ≤ 32) :
    svUsed (k + 1) (mask >>> k) (satellitesBelow mask k) =
      satellites mask := by
  induction hLeft : 32 - k generalizing k with
  | zero =>
      have hEnd : k = 32 := by omega
      subst hEnd
      have hEmpty : mask >>> 32 = 0 :=
        BitVec.ushiftRight_eq_zero (Nat.le_refl 32)
      rw [svUsed, hEmpty]
      rfl
  | succ left ih =>
      rw [svUsed]
      by_cases hEmpty : mask >>> k = 0
      · have hRest :=
          satellitesBelow_of_shift_eq_zero hEmpty (32 - k)
        rw [Nat.add_sub_cancel' hk] at hRest
        rw [dif_neg (by simp [hEmpty]), satellites, hRest]
      · have hLength := length_satellitesBelow_le mask k
        have hPositive : 0 < mask >>> k :=
          BitVec.lt_def.mpr
            (Nat.pos_of_ne_zero fun hZero =>
              hEmpty (BitVec.eq_of_toNat_eq hZero))
        rw [dif_pos ⟨hPositive, by omega⟩,
          ← BitVec.shiftRight_add]
        simp only [and_one_ne_zero_iff,
          ← satellitesBelow_succ]
        exact ih (by omega) (by omega)

/- The list of the loop is the list of the mask. -/
theorem svUsed_eq
    (mask : BitVec 32) :
    svUsed 1 mask [] = satellites mask := by
  have hZero := svUsed_shift mask (Nat.zero_le 32)
  simpa [satellitesBelow] using hZero

theorem satellites_eq_nil_iff
    (mask : BitVec 32) :
    satellites mask = [] ↔ mask = 0 := by
  constructor
  · intro hNone
    apply BitVec.eq_of_getLsbD_eq
    intro j hj
    have hBelow : ∀ a < 32, mask.getLsbD a = false := by
      simpa [satellites, satellitesBelow] using hNone
    rw [hBelow j hj]
    exact BitVec.getLsbD_zero.symm
  · rintro rfl
    decide

end Nmea

end D2Common

------------------------------------------------------------
-- The Sentence
------------------------------------------------------------

namespace D2Common

namespace Nmea

variable {F : Type}

/- `$GPGSA` up to the type of the fix. -/
def gsaHead (sats : List Nat) : Sentence :=
  "$GPGSA,A,".toList ++ [fixType sats.length, ',']

/-
  How `$GPGSA` begins when it lists satellites: the type of
  the fix follows from their number, and the first twelve
  have a field.
-/
def gsaText (sats : List Nat) : Sentence :=
  gsaHead sats ++ (List.range 12).flatMap (gsaField sats)

theorem length_gsaField_le
    {sats : List Nat}
    (hShort : ∀ sv ∈ sats, sv < 100)
    (i : Nat) :
    (gsaField sats i).length ≤ 3 := by
  unfold gsaField
  cases hField : sats[i]? with
  | none => simp
  | some sv =>
      have hDigits :=
        length_formatInt_natCast_le 2 2
          (by omega) (by omega)
          (hShort sv (List.mem_of_getElem? hField))
      simp only [List.length_append, List.length_singleton]
      omega

/- The fields of the sentence always fit. -/
theorem appendFields_eq
    {sats : List Nat}
    (hShort : ∀ sv ∈ sats, sv < 100)
    (is : List Nat)
    (sentence : Sentence)
    (hRoom :
      sentence.length + 3 * is.length <
        nmeaSentenceMaxLength) :
    appendFields sats is sentence =
      some (sentence ++ is.flatMap (gsaField sats)) := by
  induction is generalizing sentence with
  | nil => simp [appendFields]
  | cons i is ih =>
      have hField := length_gsaField_le hShort i
      rw [List.length_cons] at hRoom
      unfold appendFields
      rw [append_of_lt _ _ (by omega)]
      have hRest :=
        ih (sentence ++ gsaField sats i)
          (by rw [List.length_append]; omega)
      simpa [List.append_assoc] using hRest

theorem lt_of_mem_satellites
    {mask : BitVec 32}
    {sv : Nat}
    (hMem : sv ∈ satellites mask) :
    sv < 100 := by
  have hBit :
      ∃ j, (j < 32 ∧ mask.getLsbD j = true) ∧ j + 1 = sv := by
    simpa [satellites, satellitesBelow] using hMem
  rcases hBit with ⟨j, ⟨hj, -⟩, rfl⟩
  omega

/- What follows a text leaves it at the beginning. -/
theorem prefix_putChecksum
    (text more : Sentence)
    (maxSize : Nat) :
    text <+:
      (putChecksum (appendCut text more) maxSize).pNmea := by
  unfold putChecksum appendCut
  dsimp only
  rw [List.append_assoc]
  exact List.prefix_append _ _

/-
  A position report that is not blank lists the satellites
  of the cache, and leaves none there.
-/
theorem generatePos_gsa
    (ops : FloatOps F)
    (cache : NmeaCache F)
    (report : PosReport F) :
    let r := generatePos ops cache report true
    r.1.sv_used_mask = 0 ∧
      ∃ gsa, r.2 = gsa :: report.later ∧
        gsaText (satellites cache.sv_used_mask) <+:
          gsa.pNmea := by
  generalize hSats : satellites cache.sv_used_mask = sats
  have hMax : nmeaSentenceMaxLength = 200 := rfl
  have hLength : (gsaHead sats).length = 11 := by
    unfold gsaHead
    rw [List.length_append]
    rfl
  have hHead : append [] (gsaHead sats) = some (gsaHead sats) := by
    rw [append_of_lt _ _ (by simp; omega), List.nil_append]
  have hShort : ∀ sv ∈ sats, sv < 100 := by
    intro sv hMem
    exact lt_of_mem_satellites (hSats ▸ hMem)
  have hFields :
      appendFields sats (List.range 12) (gsaHead sats) =
        some (gsaText sats) :=
    appendFields_eq hShort (List.range 12) (gsaHead sats)
      (by simp; omega)
  have hWritten :
      (append [] (gsaHead sats)).bind
          (appendFields sats (List.range 12)) =
        some (gsaText sats) := by
    rw [hHead, Option.bind_some, hFields]
  intro r
  unfold gsaHead at hWritten
  simp only [r, generatePos, svUsed_eq, if_true, hSats,
    Option.bind_eq_bind, hWritten]
  split
  · exact ⟨rfl, _, rfl, prefix_putChecksum _ _ _⟩
  · exact ⟨rfl, _, rfl, prefix_putChecksum _ _ _⟩

/- The number of a satellite, if there is one. -/
def gsaNumber
    (sats : List Nat)
    (i : Nat) : Sentence :=
  (sats[i]?.map fun sv : Nat => formatInt 2 sv).getD []

/- The fields of a sentence that lists satellites. -/
def gsaFields (sats : List Nat) : List Sentence :=
  ["$GPGSA".toList, ['A'], [fixType sats.length]] ++
    (List.range 12).map (gsaNumber sats)

theorem gsaField_eq
    (sats : List Nat)
    (i : Nat) :
    gsaField sats i = gsaNumber sats i ++ [','] := by
  unfold gsaField gsaNumber
  cases sats[i]? <;> rfl

theorem gsaText_eq (sats : List Nat) :
    gsaText sats = commaEnded (gsaFields sats) := by
  have hHead :
      gsaHead sats =
        commaEnded
          ["$GPGSA".toList, ['A'], [fixType sats.length]] := by
    unfold gsaHead
    generalize fixType sats.length = fix
    rfl
  have hNumbers :
      (List.range 12).flatMap (gsaField sats) =
        commaEnded ((List.range 12).map (gsaNumber sats)) := by
    have hField :
        gsaField sats = fun i => gsaNumber sats i ++ [','] :=
      funext (gsaField_eq sats)
    rw [commaEnded, List.flatMap_map, hField]
  rw [gsaText, hHead, hNumbers, gsaFields]
  exact List.flatMap_append.symm

theorem comma_not_mem_gsaFields (sats : List Nat) :
    ∀ text ∈ gsaFields sats, ',' ∉ text := by
  intro text hText
  rcases List.mem_append.mp hText with hHead | hNumber
  · have hFix : ',' ∉ [fixType sats.length] := by
      unfold fixType
      split
      · decide
      · split <;> decide
    simp only [List.mem_cons, List.not_mem_nil, or_false]
      at hHead
    rcases hHead with rfl | rfl | rfl
    · decide
    · decide
    · exact hFix
  · rcases List.mem_map.mp hNumber with ⟨i, -, rfl⟩
    unfold gsaNumber
    cases sats[i]? with
    | none => exact List.not_mem_nil
    | some sv => exact comma_not_mem_formatInt 2 sv

/- The fields of a sentence that begins so. -/
theorem fields_gsaText
    (sats : List Nat)
    (rest : Sentence) :
    fields (gsaText sats ++ rest) =
      gsaFields sats ++ fields rest := by
  rw [gsaText_eq]
  exact fields_commaEnded (comma_not_mem_gsaFields sats) rest

theorem shownNat_gsaNumber
    (sats : List Nat)
    (i : Nat) :
    shownNat (gsaNumber sats i) = sats[i]? := by
  unfold gsaNumber
  cases sats[i]? with
  | none => rfl
  | some sv => exact shownNat_formatInt 2 sv

end Nmea

end D2Common
