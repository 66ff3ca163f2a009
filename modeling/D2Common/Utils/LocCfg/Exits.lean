import D2Common.Utils.LocCfg.Buffers

/-
  The result of a call of `loc_read_conf_r`.

  The header of the function says that it returns 0 when the
  table has been filled, and 1 when there are no more
  parameters to read, so that a caller can repeat the call
  with the same file. It returns 0 at the end of the file
  as well.

  Key definitions include:
    * `ReturnsAsDocumented`
    * `repeatedCall`

  Key theorems include:
    * `conf_fp_repeatedCall`
    * `returnsAsDocumented_iff`
-/

------------------------------------------------------------
-- One Call
------------------------------------------------------------

namespace D2Common

namespace LocCfg

variable {P F : Type}

/- What the result of a call with an open file says. -/
structure ReturnsAsDocumented
    (table_length : Nat)
    (r : Reading P F) : Prop where
  filled : r.ret = 0 ↔ r.matched = table_length
  noMore : r.ended = true → r.ret = 1

instance
    (table_length : Nat)
    (r : Reading P F) :
    Decidable (ReturnsAsDocumented table_length r) :=
  decidable_of_iff
    ((r.ret = 0 ↔ r.matched = table_length) ∧
      (r.ended = true → r.ret = 1))
    ⟨fun h => ⟨h.1, h.2⟩, fun h => ⟨h.1, h.2⟩⟩

variable [Zero F]

/- The writes of more buffers are more writes. -/
theorem length_writes_take_le
    (atof : List Char → F)
    (table : List (LocParam P))
    (bufs : List (List Char))
    {j k : Nat}
    (hLe : j ≤ k) :
    (writes atof table (bufs.take j)).length ≤
      (writes atof table (bufs.take k)).length := by
  rw [← List.take_append_drop j (bufs.take k),
    List.take_take, min_eq_left hLe, writes_append,
    List.length_append]
  exact Nat.le_add_right _ _

/- Numbers of 32 bits that are the same as counters. -/
theorem ofNat_inj
    {a b : Nat}
    (ha : a < 2 ^ 32)
    (hb : b < 2 ^ 32) :
    BitVec.ofNat 32 a = BitVec.ofNat 32 b ↔ a = b := by
  constructor
  · intro hSame
    have hNat := congrArg BitVec.toNat hSame
    simp only [BitVec.toNat_ofNat] at hNat
    rwa [Nat.mod_eq_of_lt ha, Nat.mod_eq_of_lt hb] at hNat
  · rintro rfl
    rfl

omit [Zero F] in
/- A table with entries has something to count. -/
theorem num_params_ne_zero
    {table : List (LocParam P)}
    (hTable : table ≠ [])
    (hLength : table.length < 2 ^ 32) :
    BitVec.ofNat 32 table.length ≠ 0 := by
  intro hZero
  have hNat : BitVec.ofNat 32 table.length =
      BitVec.ofNat 32 0 := hZero
  rw [ofNat_inj hLength (by decide)] at hNat
  exact hTable (List.eq_nil_of_length_eq_zero hNat)

/-
  The count is met exactly if and only if it is met by what
  the loop has read: until then there are fewer matches.
-/
theorem matched_eq_iff
    (atof : List Char → F)
    {table : List (LocParam P)}
    (hLength : table.length < 2 ^ 32)
    (text : List Char) :
    (writes atof table (bufsRead atof table text)).length =
        table.length ↔
      ∃ k,
        (writes atof table
          ((Cfg.fgetsAll text).take k)).length =
            table.length := by
  constructor
  · intro hHere
    exact ⟨_, hHere⟩
  · rintro ⟨k, hk⟩
    have hLater : callCount atof table text ≤ k := by
      by_contra hEarlier
      exact readCount_goesOn atof table _ _
        (Nat.lt_of_not_le hEarlier) (by rw [hk])
    have hLe :=
      length_writes_take_le atof table (Cfg.fgetsAll text)
        hLater
    rw [hk] at hLe
    rcases readCount_stops atof table (Cfg.fgetsAll text)
      (BitVec.ofNat 32 table.length) with ⟨hAll, hStop⟩
    rcases Nat.lt_or_eq_of_le hAll with hLess | hEnd
    · -- the count has stopped the loop
      exact (ofNat_inj (lt_of_le_of_lt hLe hLength)
        hLength).mp (hStop hLess)
    · -- the whole file has been read
      have hWhole :
          bufsRead atof table text = Cfg.fgetsAll text := by
        unfold bufsRead callCount
        rw [hEnd, List.take_length]
      have hMore :=
        length_writes_take_le atof table (Cfg.fgetsAll text)
          (Nat.le_max_left k (Cfg.fgetsAll text).length)
      rw [List.take_of_length_le (Nat.le_max_right _ _), hk]
        at hMore
      change (writes atof table
        (bufsRead atof table text)).length ≤ _ at hLe
      rw [hWhole] at hLe ⊢
      omega

end LocCfg

end D2Common

------------------------------------------------------------
-- Repeated Calls
------------------------------------------------------------

namespace D2Common

namespace LocCfg

variable {P F : Type} [Zero F] [DecidableEq P]

/- The calls that a caller makes with the same file. -/
def repeatedCall
    (atof : List Char → F)
    (table : List (LocParam P))
    (text : List Char)
    (m : Memory P F) : Nat → Reading P F
| 0 => readConfR atof (some text) table m
| n + 1 =>
    let r := repeatedCall atof table text m n
    readConfR atof r.conf_fp table r.memory

omit [DecidableEq P] in
/- A table with entries allows for a buffer to be read. -/
theorem callCount_pos
    (atof : List Char → F)
    {table : List (LocParam P)}
    (hTable : table ≠ [])
    (hLength : table.length < 2 ^ 32)
    {text : List Char}
    (hText : Cfg.fgetsAll text ≠ []) :
    0 < callCount atof table text := by
  have hNum := num_params_ne_zero hTable hLength
  unfold callCount
  cases hBufs : Cfg.fgetsAll text with
  | nil => exact absurd hBufs hText
  | cons buf bufs =>
      rw [readCount, if_neg hNum]
      exact Nat.succ_pos _

/-
  Each call reads on where the one before has stopped, so
  that the calls come to the end of the file.
-/
theorem conf_fp_repeatedCall
    (atof : List Char → F)
    {table : List (LocParam P)}
    (hTable : table ≠ [])
    (hLength : table.length < 2 ^ 32)
    (text : List Char)
    (m : Memory P F)
    (n : Nat) :
    ∃ k,
      min (n + 1) (Cfg.fgetsAll text).length ≤ k ∧
        (repeatedCall atof table text m n).conf_fp =
          some ((Cfg.fgetsAll text).drop k).flatten := by
  induction n with
  | zero =>
      refine ⟨callCount atof table text, ?_, by
        rw [repeatedCall, readConfR_eq]⟩
      by_cases hText : Cfg.fgetsAll text = []
      · simp [hText]
      · have hPos := callCount_pos atof hTable hLength hText
        omega
  | succ n ih =>
      rcases ih with ⟨k, hk, hFp⟩
      rw [repeatedCall]
      simp only [hFp, readConfR_eq, fgetsAll_unread]
      refine
        ⟨k + callCount atof table
          ((Cfg.fgetsAll text).drop k).flatten, ?_, by
          rw [List.drop_drop]⟩
      by_cases hRest : (Cfg.fgetsAll text).drop k = []
      · have hAll := List.drop_eq_nil_iff.mp hRest
        omega
      · have hBufs :
            Cfg.fgetsAll
                ((Cfg.fgetsAll text).drop k).flatten ≠ [] := by
          rw [fgetsAll_unread]
          exact hRest
        have hPos := callCount_pos atof hTable hLength hBufs
        omega

/- Every call returns 0. -/
theorem ret_repeatedCall
    (atof : List Char → F)
    {table : List (LocParam P)}
    (hTable : table ≠ [])
    (hLength : table.length < 2 ^ 32)
    (text : List Char)
    (m : Memory P F)
    (n : Nat) :
    (repeatedCall atof table text m n).ret = 0 := by
  cases n with
  | zero => rw [repeatedCall, readConfR_eq]
  | succ n =>
      rcases conf_fp_repeatedCall atof hTable hLength text m n
        with ⟨k, -, hFp⟩
      rw [repeatedCall, hFp, readConfR_eq]

/- At the end of the file there is nothing to match. -/
theorem matched_repeatedCall
    (atof : List Char → F)
    {table : List (LocParam P)}
    (hTable : table ≠ [])
    (hLength : table.length < 2 ^ 32)
    (text : List Char)
    (m : Memory P F)
    {n : Nat}
    (hEnd : (Cfg.fgetsAll text).length ≤ n) :
    (repeatedCall atof table text m (n + 1)).matched = 0 ∧
      (repeatedCall atof table text m (n + 1)).ended =
        true := by
  rcases conf_fp_repeatedCall atof hTable hLength text m n
    with ⟨k, hk, hFp⟩
  have hNil : (Cfg.fgetsAll text).drop k = [] :=
    List.drop_eq_nil_of_le (by omega)
  have hNum := num_params_ne_zero hTable hLength
  rw [repeatedCall, hFp, hNil, readConfR_eq]
  simp only [List.flatten_nil, bufsRead, fgetsAll_nil,
    List.take_nil, writes_nil, List.length_nil]
  simpa using hNum

/-
  A call returns what the header says if and only if the
  table is filled before the file ends, and exactly. Calls
  that are repeated return 0 without end, also when nothing
  of the file is left.
-/
theorem returnsAsDocumented_iff
    (atof : List Char → F)
    (table : List (LocParam P))
    (hTable : table ≠ [])
    (hLength : table.length < 2 ^ 32)
    (text : List Char)
    (m : Memory P F) :
    (ReturnsAsDocumented table.length
        (readConfR atof (some text) table m) ↔
      ∃ k,
        (writes atof table
          ((Cfg.fgetsAll text).take k)).length =
            table.length) ∧
      (∀ n, (repeatedCall atof table text m n).ret = 0) ∧
        ∀ n, (Cfg.fgetsAll text).length < n →
          (repeatedCall atof table text m n).matched = 0 ∧
            (repeatedCall atof table text m n).ended =
              true := by
  refine ⟨?_, ret_repeatedCall atof hTable hLength text m, ?_⟩
  · rw [← matched_eq_iff atof hLength text, readConfR_eq]
    constructor
    · intro hReturns
      exact hReturns.filled.mp rfl
    · intro hMatched
      refine ⟨iff_of_true rfl hMatched, fun hEnded => ?_⟩
      simp [hMatched] at hEnded
  · intro n hn
    rcases n with _ | n
    · cases hn
    · exact matched_repeatedCall atof hTable hLength text m
        (Nat.le_of_lt_succ hn)

theorem returnsAsDocumented_iff_filled :
    (ReturnsAsDocumented 1
        (readConfR Cfg.wholeAtof (some "A=1\n".toList)
          [numberEntry "A" 0] zeros) ↔
      ∃ k,
        (writes Cfg.wholeAtof [numberEntry "A" 0]
          ((Cfg.fgetsAll "A=1\n".toList).take k)).length =
            1) ∧
      (∀ n,
        (repeatedCall Cfg.wholeAtof [numberEntry "A" 0]
          "A=1\n".toList zeros n).ret = 0) ∧
        ∀ n, (Cfg.fgetsAll "A=1\n".toList).length < n →
          (repeatedCall Cfg.wholeAtof [numberEntry "A" 0]
              "A=1\n".toList zeros n).matched = 0 ∧
            (repeatedCall Cfg.wholeAtof [numberEntry "A" 0]
              "A=1\n".toList zeros n).ended = true :=
  returnsAsDocumented_iff Cfg.wholeAtof [numberEntry "A" 0]
    (List.cons_ne_nil _ _) (by decide) "A=1\n".toList zeros

/- An empty file fills nothing, and the call returns 0. -/
theorem emptyFile_returns_zero :
    ¬ ReturnsAsDocumented 1
      (readConfR Cfg.wholeAtof (some [])
        [numberEntry "A" 0] zeros) := by
  decide

end LocCfg

end D2Common
