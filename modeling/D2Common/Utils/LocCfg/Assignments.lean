import Mathlib.Data.List.Forall2
import Mathlib.Data.List.Nodup
import D2Common.Utils.LocCfg.Comments

/-
  The assignments of a configuration file.

  A line with one equals sign has two operands, if there is
  something on both sides of it. The reader takes as many
  assignments to entries of its table as the table is long,
  and of those to one entry the last one stays.

  Key definitions include:
    * `operands`
    * `assignments`

  Key theorems include:
    * `parseLine_eq_operands`
    * `writes_of_assignments`
    * `val_readConfR`
-/

------------------------------------------------------------
-- Operands
------------------------------------------------------------

namespace D2Common

namespace LocCfg

open Cfg (strtok cString trimSpace)

/- What is on both sides of the equals sign of a line. -/
def operands
    (line : List Char) : Option (List Char × List Char) :=
  match (cString line).splitOn '=' with
  | [name, value] =>
      if name = [] ∨ value = [] then none
      else some (trimSpace name, trimSpace value)
  | _ => none

theorem ne_sign_of_not_mem
    {s : List Char}
    (hSign : '=' ∉ s) :
    ∀ c ∈ s, (c != '=') = true := by
  intro c hc
  have hNe : c ≠ '=' := by
    rintro rfl
    exact hSign hc
  simpa using hNe

theorem strtok_of_not_mem
    {s : List Char}
    (hSome : s ≠ [])
    (hSign : '=' ∉ s) :
    strtok s = some (s, []) := by
  have hAll := ne_sign_of_not_mem hSign
  rcases List.exists_cons_of_ne_nil hSome with ⟨c, rest, rfl⟩
  have hFirst : c ≠ '=' := by
    simpa using hAll c List.mem_cons_self
  unfold strtok
  rw [List.dropWhile_cons_of_neg (by simpa using hFirst)]
  simp only
  rw [List.takeWhile_eq_self_iff.mpr hAll,
    List.dropWhile_eq_nil_iff.mpr hAll]
  rfl

/- An equals sign ends a token. -/
theorem strtok_append
    {s : List Char}
    (hSome : s ≠ [])
    (hSign : '=' ∉ s)
    (rest : List Char) :
    strtok (s ++ '=' :: rest) = some (s, rest) := by
  have hAll := ne_sign_of_not_mem hSign
  rcases List.exists_cons_of_ne_nil hSome with ⟨c, s, rfl⟩
  have hFirst : c ≠ '=' := by
    simpa using hAll c List.mem_cons_self
  unfold strtok
  rw [List.cons_append,
    List.dropWhile_cons_of_neg (by simpa using hFirst)]
  simp only
  rw [← List.cons_append, List.takeWhile_append_of_pos hAll,
    List.dropWhile_append_of_pos hAll]
  simp

/- An equals sign in front of a token is passed. -/
theorem strtok_cons (s : List Char) :
    strtok ('=' :: s) = strtok s := by
  unfold strtok
  rw [List.dropWhile_cons_of_pos (by simp)]

/- A text with no more than one equals sign. -/
theorem sign_cases
    {text : List Char}
    (hOne : text.count '=' ≤ 1) :
    '=' ∉ text ∨
      ∃ name value,
        text = name ++ '=' :: value ∧
          '=' ∉ name ∧ '=' ∉ value := by
  by_cases hSign : '=' ∈ text
  · right
    rcases List.append_of_mem hSign with ⟨name, value, rfl⟩
    rw [List.count_append, List.count_cons_self] at hOne
    refine ⟨name, value, rfl, ?_, ?_⟩
    · exact List.count_eq_zero.mp (by omega)
    · exact List.count_eq_zero.mp (by omega)
  · exact Or.inl hSign

variable {F : Type} [Zero F]

/- With one equals sign the reader sees the operands. -/
theorem parseLine_eq_operands
    (atof : List Char → F)
    {line : List Char}
    (hOne : (cString line).count '=' ≤ 1) :
    Cfg.parseLine atof line =
      (operands line).map fun o =>
        Cfg.parseValue atof o.1 o.2 := by
  unfold Cfg.parseLine operands
  rcases sign_cases hOne with hNone |
    ⟨name, value, hText, hName, hValue⟩
  · rw [List.splitOn_eq_singleton hNone]
    by_cases hNil : cString line = []
    · rw [hNil]
      rfl
    · rw [strtok_of_not_mem hNil hNone]
      rfl
  · rw [hText, List.splitOn_append_cons_self_of_not_mem hName,
      List.splitOn_eq_singleton hValue]
    simp only
    by_cases hNameNil : name = []
    · rw [hNameNil, List.nil_append, strtok_cons]
      by_cases hValueNil : value = []
      · simp [hValueNil, strtok]
      · rw [strtok_of_not_mem hValueNil hValue]
        simp [strtok]
    · rw [strtok_append hNameNil hName]
      simp only
      by_cases hValueNil : value = []
      · simp [hValueNil, strtok]
      · rw [strtok_of_not_mem hValueNil hValue]
        simp [hNameNil, hValueNil]

end LocCfg

end D2Common

------------------------------------------------------------
-- Assignments
------------------------------------------------------------

namespace D2Common

namespace LocCfg

open Writes (lastAt lastAt_cons lastAt_singleton)

variable {P F : Type}

/- An entry with a place and a type that is known. -/
def LocParam.settable (e : LocParam P) : Bool :=
  e.param_ptr.isSome &&
    (e.param_type == 's' || e.param_type == 'n' ||
      e.param_type == 'f')

theorem isSome_taken
    (e : LocParam P)
    (v : Cfg.ConfigValue F) :
    (e.taken v).isSome =
      (e.param_type == 's' || e.param_type == 'n' ||
        e.param_type == 'f') := by
  unfold LocParam.taken
  by_cases hString : e.param_type = 's'
  · simp [hString]
  · by_cases hNumber : e.param_type = 'n'
    · simp [hNumber]
    · by_cases hFloat : e.param_type = 'f' <;>
        simp [hString, hNumber, hFloat]

/- A settable entry takes every value with its name. -/
theorem isSome_write
    (e : LocParam P)
    (v : Cfg.ConfigValue F) :
    (e.write v).isSome =
      (decide (e.param_name = v.param_name) &&
        e.settable) := by
  unfold LocParam.write LocParam.settable
  by_cases hName : e.param_name = v.param_name
  · have hTaken := isSome_taken e v
    rw [if_pos hName, ← hTaken]
    cases e.param_ptr <;> cases e.taken v <;> simp [hName]
  · simp [hName]

theorem write_eq_some_iff
    {e : LocParam P}
    {v : Cfg.ConfigValue F}
    {w : P × Value F} :
    e.write v = some w ↔
      e.param_name = v.param_name ∧
        e.param_ptr = some w.1 ∧ e.taken v = some w.2 := by
  unfold LocParam.write
  by_cases hName : e.param_name = v.param_name
  · rw [if_pos hName]
    cases e.param_ptr <;> cases e.taken v <;>
      simp [hName, Prod.ext_iff]
  · simp [hName]

/-
  The assignments of a file to a table: the operands of the
  lines that name an entry that can be set.
-/
def assignments
    (table : List (LocParam P))
    (text : List Char) : List (List Char × List Char) :=
  ((Cfg.lines text).filterMap operands).filter fun o =>
    table.any fun e => e.param_name == o.1 && e.settable

/- A write is that of an assignment to an entry. -/
def WriteOf
    [Zero F]
    (atof : List Char → F)
    (table : List (LocParam P))
    (o : List Char × List Char)
    (w : P × Value F) : Prop :=
  ∃ e ∈ table,
    e.write (Cfg.parseValue atof o.1 o.2) = some w

/- Names that differ let a value in at one entry at most. -/
theorem filterMap_write
    {table : List (LocParam P)}
    (hNames : (table.map LocParam.param_name).Nodup)
    (v : Cfg.ConfigValue F) :
    (table.filterMap fun e => e.write v) =
      ((table.find? fun e =>
        e.param_name == v.param_name && e.settable).bind
          fun e => e.write v).toList := by
  induction table with
  | nil => rfl
  | cons e table ih =>
      rw [List.map_cons, List.nodup_cons] at hNames
      have hSome := isSome_write e v
      rw [List.filterMap_cons, List.find?_cons]
      by_cases hName : e.param_name = v.param_name
      · cases hSet : e.settable with
        | true =>
            -- no other entry has the name
            have hOthers :
                (table.filterMap fun e => e.write v) = [] := by
              refine List.filterMap_eq_nil_iff.mpr
                fun e' he' => ?_
              cases hWrite : e'.write v with
              | none => rfl
              | some w =>
                  have hSame :=
                    (write_eq_some_iff.mp hWrite).1
                  exact absurd
                    (List.mem_map.mpr
                      ⟨e', he', hSame.trans hName.symm⟩)
                    hNames.1
            rw [hName, hSet] at hSome
            rcases Option.isSome_iff_exists.mp
              (by simpa using hSome) with ⟨w, hWrite⟩
            simp [hName, hWrite, hOthers]
        | false =>
            rw [hName, hSet] at hSome
            have hNone : e.write v = none := by
              simpa using hSome
            simp only [hNone, Bool.and_false]
            exact ih hNames.2
      · have hNone : e.write v = none := by
          simpa [hName] using hSome
        have hBeq : (e.param_name == v.param_name) = false := by
          simpa using hName
        simp only [hNone, hBeq, Bool.false_and]
        exact ih hNames.2

end LocCfg

end D2Common

------------------------------------------------------------
-- The Last Assignment
------------------------------------------------------------

namespace D2Common

namespace LocCfg

open Writes (lastAt lastAt_cons lastAt_singleton)

variable {P F : Type} [Zero F]

/- A line writes if it is an assignment, and once. -/
theorem lineWrites_eq
    (atof : List Char → F)
    {table : List (LocParam P)}
    (hNames : (table.map LocParam.param_name).Nodup)
    {line : List Char}
    (hOne : line.count '=' ≤ 1) :
    List.Forall₂ (WriteOf atof table)
      ((operands line).toList.filter fun o =>
        table.any fun e => e.param_name == o.1 && e.settable)
      (lineWrites atof table line) := by
  have hText : (Cfg.cString line).count '=' ≤ 1 :=
    le_trans
      ((List.takeWhile_sublist _).count_le '=') hOne
  unfold lineWrites
  rw [parseLine_eq_operands atof hText]
  cases operands line with
  | none => exact List.Forall₂.nil
  | some o =>
      simp only [Option.map_some, Option.toList_some]
      rw [filterMap_write hNames, param_name_parseValue]
      cases hFind : table.find? fun e =>
          e.param_name == o.1 && e.settable with
      | none =>
          have hAny :
              (table.any fun e =>
                e.param_name == o.1 && e.settable) = false := by
            rw [← List.isSome_find?, hFind]
            rfl
          simp [hAny]
      | some e =>
          have hMem := List.mem_of_find?_eq_some hFind
          have hFound := List.find?_some hFind
          have hAny :
              (table.any fun e =>
                e.param_name == o.1 && e.settable) = true :=
            List.any_eq_true.mpr ⟨e, hMem, hFound⟩
          have hSome :=
            isSome_write e (Cfg.parseValue atof o.1 o.2)
          rw [param_name_parseValue] at hSome
          simp only [Bool.and_eq_true, beq_iff_eq] at hFound
          rw [hFound.2, decide_eq_true hFound.1] at hSome
          rcases Option.isSome_iff_exists.mp hSome with
            ⟨w, hWrite⟩
          simp only [Option.bind_some, hWrite,
            Option.toList_some, List.filter_cons, hAny,
            if_true, List.filter_nil]
          exact List.Forall₂.cons ⟨e, hMem, hWrite⟩
            List.Forall₂.nil

theorem writes_of_assignments
    (atof : List Char → F)
    {table : List (LocParam P)}
    (hNames : (table.map LocParam.param_name).Nodup)
    {bufs : List (List Char)}
    (hOne : ∀ line ∈ bufs, line.count '=' ≤ 1) :
    List.Forall₂ (WriteOf atof table)
      ((bufs.filterMap operands).filter fun o =>
        table.any fun e => e.param_name == o.1 && e.settable)
      (writes atof table bufs) := by
  induction bufs with
  | nil => exact List.Forall₂.nil
  | cons line bufs ih =>
      have hLine :=
        lineWrites_eq atof hNames
          (hOne line List.mem_cons_self)
      have hRest :=
        ih fun l hl => hOne l (List.mem_cons_of_mem line hl)
      have hSplit :
          (line :: bufs).filterMap operands =
            (operands line).toList ++
              bufs.filterMap operands := by
        rw [List.filterMap_cons]
        cases operands line <;> rfl
      rw [hSplit, List.filter_append, writes_cons]
      exact List.rel_append hLine hRest

/- Where a buffer writes once at most, the count counts. -/
theorem writes_take_readCount
    (atof : List Char → F)
    {table : List (LocParam P)}
    {bufs : List (List Char)}
    (hOnce : ∀ buf ∈ bufs,
      (lineWrites atof table buf).length ≤ 1)
    (n : BitVec 32) :
    writes atof table
        (bufs.take (readCount atof table bufs n)) =
      (writes atof table bufs).take n.toNat := by
  induction bufs generalizing n with
  | nil => simp [readCount]
  | cons buf bufs ih =>
      have hRest :=
        ih fun b hb => hOnce b (List.mem_cons_of_mem buf hb)
      have hBuf := hOnce buf List.mem_cons_self
      rw [readCount]
      by_cases hZero : n = 0
      · simp [hZero]
      · rw [if_neg hZero, List.take_succ_cons, writes_cons,
          writes_cons, hRest]
        have hPos : 0 < n.toNat := by
          rw [Nat.pos_iff_ne_zero]
          intro hNat
          exact hZero (BitVec.eq_of_toNat_eq hNat)
        rcases hWrites : lineWrites atof table buf with
          _ | ⟨w, ws⟩
        · simp
        · have hNil : ws = [] := by
            rw [hWrites] at hBuf
            simpa using hBuf
          have hLess :
              (n - BitVec.ofNat 32 1).toNat = n.toNat - 1 := by
            have hRange := n.isLt
            rw [BitVec.toNat_sub]
            simp only [BitVec.toNat_ofNat]
            omega
          have hTake : n.toNat = (n.toNat - 1) + 1 := by
            omega
          rw [hNil, List.length_singleton, hLess, hTake,
            List.singleton_append, List.singleton_append,
            List.take_succ_cons, Nat.add_sub_cancel]

/- The last write is that of the last assignment. -/
theorem lastAt_writes
    [DecidableEq P]
    {atof : List Char → F}
    {table : List (LocParam P)}
    (hNames : (table.map LocParam.param_name).Nodup)
    {e : LocParam P}
    (he : e ∈ table)
    {p : P}
    (hPlace : e.param_ptr = some p)
    (hOwn : ∀ e' ∈ table, e'.param_ptr = some p → e' = e)
    {os : List (List Char × List Char)}
    {ws : List (P × Value F)}
    (hWrites : List.Forall₂ (WriteOf atof table) os ws) :
    lastAt p ws =
      (lastAt e.param_name os).bind fun value =>
        e.taken (Cfg.parseValue atof e.param_name value) := by
  induction hWrites with
  | nil => rfl
  | @cons o w os ws hWrite hWrites ih =>
      rcases hWrite with ⟨e', he', hWrite⟩
      rw [write_eq_some_iff, param_name_parseValue] at hWrite
      rcases hWrite with ⟨hName, hPtr, hTaken⟩
      rw [lastAt_cons, lastAt_cons e.param_name, ih,
        lastAt_singleton, lastAt_singleton]
      by_cases hHere : w.1 = p
      · rw [hHere] at hPtr
        have hSame := hOwn e' he' hPtr
        subst hSame
        rw [if_pos hHere, if_pos hName.symm]
        cases hLast : lastAt e'.param_name os with
        | none => simp [hName, hTaken]
        | some value =>
            -- the entry takes this value as it took that one
            have hSome :=
              isSome_taken e'
                (Cfg.parseValue atof e'.param_name value)
            rw [← isSome_taken e'
              (Cfg.parseValue atof o.1 o.2), hTaken] at hSome
            rcases Option.isSome_iff_exists.mp hSome with
              ⟨x, hx⟩
            simp [hx]
      · have hOther : o.1 ≠ e.param_name := by
          intro hSame
          have hEntry :=
            List.inj_on_of_nodup_map hNames he' he
              (hName.trans hSame)
          rw [hEntry, hPlace] at hPtr
          exact hHere (Option.some.inj hPtr).symm
        rw [if_neg hHere, if_neg hOther]
        simp

/-
  After a call an entry holds the value of the last of its
  assignments that the call has taken, and an entry without
  one holds what it held before.
-/
theorem val_readConfR
    [DecidableEq P]
    (atof : List Char → F)
    (table : List (LocParam P))
    (hNames : (table.map LocParam.param_name).Nodup)
    (hLength : table.length < 2 ^ 32)
    (text : List Char)
    (hShort : Cfg.ShortLines text)
    (hOne : ∀ line ∈ Cfg.lines text, line.count '=' ≤ 1)
    (e : LocParam P)
    (he : e ∈ table)
    (p : P)
    (hPlace : e.param_ptr = some p)
    (hOwn : ∀ e' ∈ table, e'.param_ptr = some p → e' = e)
    (m : Memory P F) :
    (readConfR atof (some text) table m).memory.val p =
      ((lastAt e.param_name
          ((assignments table text).take table.length)).bind
        fun value =>
          e.taken
            (Cfg.parseValue atof e.param_name value)).getD
        (m.val p) := by
  have hBufs := Cfg.fgetsAll_eq_lines hShort
  have hAll := writes_of_assignments atof hNames hOne
  have hOnce : ∀ buf ∈ Cfg.lines text,
      (lineWrites atof table buf).length ≤ 1 := by
    intro buf hBuf
    have hLine := lineWrites_eq atof hNames (hOne buf hBuf)
    rw [← hLine.length_eq]
    refine le_trans (List.length_filter_le _ _) ?_
    cases operands buf <;> simp
  -- the count is the length of the table
  have hCount :
      (BitVec.ofNat 32 table.length).toNat = table.length := by
    rw [BitVec.toNat_ofNat, Nat.mod_eq_of_lt hLength]
  have hRead :
      writes atof table (bufsRead atof table text) =
        (writes atof table (Cfg.lines text)).take
          table.length := by
    unfold bufsRead callCount
    rw [hBufs, writes_take_readCount atof hOnce, hCount]
  rw [readConfR_eq]
  simp only [Memory.after]
  rw [hRead, Writes.writeAll_apply,
    lastAt_writes hNames he hPlace hOwn
      (List.forall₂_take table.length hAll)]
  rfl

/- Two assignments to one of two entries. -/
def repeatedConf : List Char := "A=1\nB = 2\nA=3\n".toList

theorem val_readConfR_second :
    (readConfR Cfg.wholeAtof (some repeatedConf)
        [numberEntry "A" 0, numberEntry "B" 1]
        zeros).memory.val 1 =
      ((lastAt "B".toList
          ((assignments
            [numberEntry "A" 0, numberEntry "B" 1]
            repeatedConf).take 2)).bind
        fun value =>
          (numberEntry "B" 1).taken
            (Cfg.parseValue Cfg.wholeAtof "B".toList
              value)).getD
        (zeros.val 1) :=
  val_readConfR Cfg.wholeAtof
    [numberEntry "A" 0, numberEntry "B" 1] (by decide)
    (by decide) repeatedConf (by decide) (by decide)
    (numberEntry "B" 1) (by simp) 1 rfl
    (by simp [numberEntry]) zeros

/-
  The table is full before the last line of the file is
  read, and so its entry keeps what it held.
-/
theorem last_assignment_lost :
    ¬ ∀ text : List Char, Cfg.ShortLines text →
      (∀ line ∈ Cfg.lines text, line.count '=' ≤ 1) →
        (readConfR Cfg.wholeAtof (some text)
            [numberEntry "A" 0, numberEntry "B" 1]
            zeros).memory.val 1 =
          ((lastAt "B".toList
              ((Cfg.lines text).filterMap operands)).bind
            fun value =>
              (numberEntry "B" 1).taken
                (Cfg.parseValue Cfg.wholeAtof "B".toList
                  value)).getD
            (zeros.val 1) := by
  intro hAll
  have hHere :=
    hAll "A=1\nA=2\nB=3\n".toList (by decide) (by decide)
  exact absurd hHere (by decide)

end LocCfg

end D2Common
