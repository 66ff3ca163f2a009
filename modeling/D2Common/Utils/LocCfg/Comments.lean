import D2Common.Utils.LocCfg.Exits
import D2Common.Utils.MiscUtils

/-
  Comments in a configuration file.

  Nothing in the reader looks for comments. A line that
  starts with a number sign names no parameter, and so has
  no effect, unless it is too long for the buffer: what is
  left of it is then read as a line of its own.

  Key definitions include:
    * `Commented`

  Key theorems include:
    * `readLoop_of_silent`
    * `lineWrites_of_commented`
    * `comment_removable_iff`
-/

------------------------------------------------------------
-- Buffers Without Effect
------------------------------------------------------------

namespace D2Common

namespace LocCfg

open Cfg (fgetsAll)

variable {P F : Type} [Zero F]

/- Where nothing is written, no flag is set. -/
theorem lineFlags_of_lineWrites
    {atof : List Char → F}
    {table : List (LocParam P)}
    {buf : List Char}
    (hSilent : lineWrites atof table buf = []) :
    lineFlags atof table buf = [] := by
  unfold lineWrites at hSilent
  unfold lineFlags
  cases hParse : Cfg.parseLine atof buf with
  | none => rfl
  | some v =>
      rw [hParse] at hSilent
      rw [List.filterMap_eq_nil_iff] at hSilent ⊢
      intro e he
      simp [LocParam.flag, hSilent e he]

variable [DecidableEq P]

/- Buffers that write nothing might as well not be there. -/
theorem readLoop_of_silent
    {atof : List Char → F}
    {table : List (LocParam P)}
    {pieces : List (List Char)}
    (hSilent : ∀ piece ∈ pieces,
      lineWrites atof table piece = [])
    (bufs bufs' : List (List Char))
    (x : Filling P F) :
    (readLoop atof table (bufs ++ pieces ++ bufs') x).filling =
      (readLoop atof table (bufs ++ bufs') x).filling := by
  induction bufs generalizing x with
  | nil =>
      simp only [List.nil_append]
      induction pieces with
      | nil => rfl
      | cons piece pieces ih =>
          have hPiece := hSilent piece List.mem_cons_self
          rw [List.cons_append, readLoop_cons, hPiece,
            lineFlags_of_lineWrites hPiece, Filling.after_nil,
            ← ih fun p hp =>
              hSilent p (List.mem_cons_of_mem piece hp)]
          by_cases hZero : x.num_params = 0
          · rw [if_pos hZero]
            cases pieces ++ bufs' with
            | nil => rfl
            | cons buf bufs => rw [readLoop_cons, if_pos hZero]
          · rw [if_neg hZero]
  | cons buf bufs ih =>
      simp only [List.cons_append, readLoop_cons]
      split
      · rfl
      · exact ih _

omit [Zero F] [DecidableEq P] in
/- A line in a file is read by itself. -/
theorem fgetsAll_line
    {before line after : List Char}
    (hBefore : Ended before)
    (hAfter : Ended line ∨ after = []) :
    fgetsAll (before ++ line ++ after) =
      fgetsAll before ++ fgetsAll line ++ fgetsAll after := by
  rw [List.append_assoc, fgetsAll_append hBefore,
    List.append_assoc]
  congr 1
  rcases hAfter with hLine | hNil
  · exact fgetsAll_append hLine after
  · simp [hNil]

end LocCfg

end D2Common

------------------------------------------------------------
-- Comment Lines
------------------------------------------------------------

namespace D2Common

namespace LocCfg

open Cfg (fgetsAll)

/- A line that starts with a number sign. -/
def Commented (line : List Char) : Prop :=
  line.head? = some '#'

variable {P F : Type} [Zero F]

@[simp] theorem param_name_parseValue
    (atof : List Char → F)
    (name value : List Char) :
    (Cfg.parseValue atof name value).param_name = name := by
  unfold Cfg.parseValue
  split
  · split <;> rfl
  · rfl

/- The name in front of it starts with a number sign, too. -/
theorem commented_of_parseLine
    {atof : List Char → F}
    {buf : List Char}
    (hComment : Commented buf)
    {v : Cfg.ConfigValue F}
    (hParse : Cfg.parseLine atof buf = some v) :
    Commented v.param_name := by
  rcases List.head?_eq_some_iff.mp hComment with ⟨rest, rfl⟩
  have hText :
      Cfg.cString ('#' :: rest) = '#' :: Cfg.cString rest := by
    simp [Cfg.cString]
  have hToken :
      Cfg.strtok ('#' :: Cfg.cString rest) =
        some ('#' :: (Cfg.cString rest).takeWhile (· != '='),
          ((Cfg.cString rest).dropWhile (· != '=')).tail) := by
    simp [Cfg.strtok]
  unfold Cfg.parseLine at hParse
  simp only [hText, hToken] at hParse
  split at hParse
  · cases hParse
  · rw [← Option.some.inj hParse, param_name_parseValue,
      MiscUtils.trimSpace_of_nonspace
        ⟨'#', List.mem_cons_self, by decide⟩]
    unfold MiscUtils.stripped
    rw [List.dropWhile_cons_of_neg (by decide)]
    rcases MiscUtils.exists_rdropWhile_cons (c := '#')
      (by decide) ((Cfg.cString rest).takeWhile (· != '='))
      with ⟨kept, hKept⟩
    rw [hKept]
    rfl

/- Such a buffer has no effect. -/
theorem lineWrites_of_commented
    (atof : List Char → F)
    {table : List (LocParam P)}
    (hNames : ∀ e ∈ table, ¬ Commented e.param_name)
    {buf : List Char}
    (hComment : Commented buf) :
    lineWrites atof table buf = [] := by
  unfold lineWrites
  cases hParse : Cfg.parseLine atof buf with
  | none => rfl
  | some v =>
      have hName := commented_of_parseLine hComment hParse
      refine List.filterMap_eq_nil_iff.mpr fun e he => ?_
      unfold LocParam.write
      rw [if_neg]
      rintro hSame
      exact hNames e he (hSame ▸ hName)

/- A file whose buffers write nothing is read to its end. -/
theorem bufsRead_of_writes_nil
    (atof : List Char → F)
    {table : List (LocParam P)}
    (hTable : table ≠ [])
    (hLength : table.length < 2 ^ 32)
    {text : List Char}
    (hWrites :
      writes atof table (bufsRead atof table text) = []) :
    bufsRead atof table text = fgetsAll text := by
  rcases readCount_stops atof table (fgetsAll text)
    (BitVec.ofNat 32 table.length) with ⟨hLe, hStop⟩
  unfold bufsRead callCount at hWrites ⊢
  rcases Nat.lt_or_eq_of_le hLe with hLess | hEnd
  · -- the count is not used up
    have hZero := hStop hLess
    rw [hWrites] at hZero
    exact
      absurd hZero.symm (num_params_ne_zero hTable hLength)
  · rw [hEnd, List.take_length]

variable [DecidableEq P]

/- A call that changes no value has written nothing. -/
theorem writes_nil_of_unchanged
    (atof : List Char → F)
    (table : List (LocParam P))
    (text : List Char)
    (hSame : ∀ m,
      (readConfR atof (some text) table m).memory.val =
        m.val) :
    writes atof table (bufsRead atof table text) = [] := by
  rw [← Writes.writeAll_eq_self_iff]
  intro val
  have hMemory := hSame ⟨val, fun _ => false⟩
  rw [readConfR_eq] at hMemory
  exact hMemory

/-
  Removing a comment from any file changes nothing if and
  only if none of the buffers behind the first one, which
  are read as lines, writes anything.
-/
theorem comment_removable_iff
    (atof : List Char → F)
    (table : List (LocParam P))
    (hNames : ∀ e ∈ table, ¬ Commented e.param_name)
    (hLength : table.length < 2 ^ 32)
    (line : List Char)
    (hLine : IsLine line)
    (hComment : Commented line) :
    (∀ before after m,
      Ended before → (Ended line ∨ after = []) →
        (readConfR atof (some (before ++ line ++ after)) table
            m).memory =
          (readConfR atof (some (before ++ after)) table
            m).memory) ↔
      ∀ piece ∈ (fgetsAll line).tail,
        lineWrites atof table piece = [] := by
  rcases fgetsFrom_cons [] line hLine.1 with
    ⟨first, rest, hSome, hCut, hAll⟩
  have hHere : fgetsAll line = first :: fgetsAll rest := hAll
  have hFirst : Commented first := by
    rw [List.nil_append] at hCut
    rw [hCut] at hComment
    unfold Commented at hComment ⊢
    rwa [List.head?_append_of_ne_nil first hSome] at hComment
  have hFirstSilent :=
    lineWrites_of_commented atof hNames hFirst
  constructor
  · intro hSame
    -- a file that has nothing but the comment
    have hWrites :
        writes atof table (bufsRead atof table line) = [] := by
      refine writes_nil_of_unchanged atof table line ?_
      intro m
      have hMemory :=
        congrArg Memory.val
          (hSame [] [] m (Or.inl rfl) (Or.inr rfl))
      simpa [readConfR, Cfg.fgetsAll, Cfg.fgetsFrom, readLoop,
        clearValid] using hMemory
    intro piece hPiece
    by_cases hTable : table = []
    · subst hTable
      unfold lineWrites
      cases Cfg.parseLine atof piece <;> rfl
    · rw [bufsRead_of_writes_nil atof hTable hLength hWrites,
        writes, List.flatMap_eq_nil_iff] at hWrites
      exact hWrites piece (List.mem_of_mem_tail hPiece)
  · intro hSilent before after m hBefore hAfter
    have hPieces : ∀ piece ∈ fgetsAll line,
        lineWrites atof table piece = [] := by
      intro piece hPiece
      rw [hHere] at hPiece hSilent
      rcases List.mem_cons.mp hPiece with rfl | hPiece
      · exact hFirstSilent
      · exact hSilent piece hPiece
    unfold readConfR
    simp only [fgetsAll_line hBefore hAfter,
      fgetsAll_append hBefore]
    rw [readLoop_of_silent hPieces]

theorem comment_removable_iff_short :
    (∀ before after m,
      Ended before → (Ended "# x\n".toList ∨ after = []) →
        (readConfR Cfg.wholeAtof
            (some (before ++ "# x\n".toList ++ after))
            [numberEntry "A" 0] m).memory =
          (readConfR Cfg.wholeAtof (some (before ++ after))
            [numberEntry "A" 0] m).memory) ↔
      ∀ piece ∈ (fgetsAll "# x\n".toList).tail,
        lineWrites Cfg.wholeAtof [numberEntry "A" 0] piece =
          [] :=
  comment_removable_iff Cfg.wholeAtof [numberEntry "A" 0]
    (by simp [numberEntry, Commented]) (by decide)
    "# x\n".toList ⟨by decide, by decide⟩ rfl

/- A comment that fills the buffer, with text after it. -/
def longComment : List Char :=
  '#' :: List.replicate 158 ' ' ++ "A=1\n".toList

/- The text is read as a line. -/
theorem longComment_assigns :
    (∀ e ∈ [numberEntry "A" 0], ¬ Commented e.param_name) ∧
      IsLine longComment ∧ Commented longComment ∧
      (readConfR Cfg.wholeAtof (some longComment)
          [numberEntry "A" 0] zeros).memory.val 0 ≠
        (readConfR Cfg.wholeAtof (some [])
          [numberEntry "A" 0] zeros).memory.val 0 := by
  refine
    ⟨by simp [numberEntry, Commented],
      ⟨by decide +kernel, by decide +kernel⟩, rfl, ?_⟩
  decide +kernel

end LocCfg

end D2Common
