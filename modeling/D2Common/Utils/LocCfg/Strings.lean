import D2Common.Utils.LocCfg.Assignments

/-
  Strings in a configuration file.

  The value of a line `NAME=value` is cut at the end of the
  buffer, at the next equals sign, and at the length that a
  string may have. White space at its ends is taken away,
  unless there is nothing else.

  Key definitions include:
    * `ParamName`
    * `UrlValue`
    * `Reached`

  Key theorems include:
    * `parseLine_first`
    * `string_stored_iff`
    * `blank_value_never_empty`
    * `trimSpaceInPlace_strips_iff`
-/

------------------------------------------------------------
-- Values Without Equals Signs
------------------------------------------------------------

namespace D2Common

namespace LocCfg

open Cfg (strtok cString trimSpace fgetsAll isSpace
  maxParamLine maxParamString)

theorem sign_not_mem_strtok
    {s token rest : List Char}
    (hToken : strtok s = some (token, rest)) :
    '=' ∉ token := by
  unfold strtok at hToken
  split at hToken
  · cases hToken
  · have hSame := (Prod.mk.inj (Option.some.inj hToken)).1
    intro hSign
    rw [← hSame] at hSign
    simpa using List.mem_takeWhile_imp hSign

variable {P F : Type} [Zero F]

@[simp] theorem param_str_value_parseValue
    (atof : List Char → F)
    (name value : List Char) :
    (Cfg.parseValue atof name value).param_str_value =
      value := by
  unfold Cfg.parseValue
  split
  · split <;> rfl
  · rfl

/- A buffer without an equals sign has no value. -/
theorem parseLine_of_not_mem
    (atof : List Char → F)
    {buf : List Char}
    (hSign : '=' ∉ buf) :
    Cfg.parseLine atof buf = none := by
  have hText : '=' ∉ cString buf :=
    fun hIn => hSign ((List.takeWhile_sublist _).subset hIn)
  have hOne : (cString buf).count '=' ≤ 1 := by
    rw [List.count_eq_zero.mpr hText]
    exact Nat.zero_le 1
  rw [parseLine_eq_operands atof hOne, operands,
    List.splitOn_eq_singleton hText]
  rfl

/- What is stored of a value is short, and has no sign. -/
theorem storedString_of_parseLine
    {atof : List Char → F}
    {buf : List Char}
    {v : Cfg.ConfigValue F}
    (hParse : Cfg.parseLine atof buf = some v) :
    '=' ∉ Cfg.storedString v ∧
      (Cfg.storedString v).length ≤ maxParamString := by
  have hValue : '=' ∉ v.param_str_value := by
    unfold Cfg.parseLine at hParse
    split at hParse
    · cases hParse
    · split at hParse
      · cases hParse
      · next hToken =>
          rw [← Option.some.inj hParse,
            param_str_value_parseValue]
          exact fun hIn =>
            sign_not_mem_strtok hToken
              (MiscUtils.mem_of_mem_trimSpace hIn)
  unfold Cfg.storedString
  split
  · simp
  · exact
      ⟨fun hIn => hValue (List.mem_of_mem_take hIn),
        List.length_take_le _ _⟩

/- So is every string that a file has written. -/
theorem string_of_mem_writes
    {atof : List Char → F}
    {table : List (LocParam P)}
    {bufs : List (List Char)}
    {p : P}
    {s : List Char}
    (hMem : (p, Value.string s) ∈ writes atof table bufs) :
    '=' ∉ s ∧ s.length ≤ maxParamString := by
  rcases List.mem_flatMap.mp hMem with ⟨buf, -, hLine⟩
  unfold lineWrites at hLine
  cases hParse : Cfg.parseLine atof buf with
  | none =>
      rw [hParse] at hLine
      cases hLine
  | some v =>
      rw [hParse] at hLine
      rcases List.mem_filterMap.mp hLine with ⟨e, -, hWrite⟩
      have hTaken := (write_eq_some_iff.mp hWrite).2.2
      have hStored : s = Cfg.storedString v := by
        unfold LocParam.taken at hTaken
        split at hTaken
        · simpa using hTaken.symm
        · split at hTaken
          · simp at hTaken
          · split at hTaken <;> simp at hTaken
      rw [hStored]
      exact storedString_of_parseLine hParse

/- Buffers for other names do not write to a place. -/
theorem ne_of_mem_writes
    {atof : List Char → F}
    {table : List (LocParam P)}
    {e : LocParam P}
    {p : P}
    (hOwn : ∀ e' ∈ table, e'.param_ptr = some p → e' = e)
    {bufs : List (List Char)}
    (hOthers : ∀ buf ∈ bufs, ∀ v,
      Cfg.parseLine atof buf = some v →
        v.param_name ≠ e.param_name) :
    ∀ w ∈ writes atof table bufs, w.1 ≠ p := by
  intro w hMem hPlace
  rcases List.mem_flatMap.mp hMem with ⟨buf, hBuf, hLine⟩
  unfold lineWrites at hLine
  cases hParse : Cfg.parseLine atof buf with
  | none =>
      rw [hParse] at hLine
      cases hLine
  | some v =>
      rw [hParse] at hLine
      rcases List.mem_filterMap.mp hLine with
        ⟨e', he', hWrite⟩
      rcases write_eq_some_iff.mp hWrite with
        ⟨hName, hPtr, -⟩
      rw [hPlace] at hPtr
      rw [hOwn e' he' hPtr] at hName
      exact hOthers buf hBuf v hParse hName.symm

/- The value of a buffer for an entry gets to its place. -/
theorem lastAt_lineWrites
    [DecidableEq P]
    {atof : List Char → F}
    {table : List (LocParam P)}
    {e : LocParam P}
    (he : e ∈ table)
    {p : P}
    (hPlace : e.param_ptr = some p)
    (hOwn : ∀ e' ∈ table, e'.param_ptr = some p → e' = e)
    {buf : List Char}
    {v : Cfg.ConfigValue F}
    (hParse : Cfg.parseLine atof buf = some v)
    (hName : e.param_name = v.param_name)
    {x : Value F}
    (hTaken : e.taken v = some x) :
    Writes.lastAt p (lineWrites atof table buf) = some x := by
  unfold lineWrites
  rw [hParse]
  apply Writes.lastAt_eq_some
  · exact List.mem_filterMap.mpr
      ⟨e, he, write_eq_some_iff.mpr ⟨hName, hPlace, hTaken⟩⟩
  · intro w hMem hHere
    rcases List.mem_filterMap.mp hMem with ⟨e', he', hWrite⟩
    rcases write_eq_some_iff.mp hWrite with
      ⟨-, hPtr, hTaken'⟩
    rw [hHere] at hPtr
    rw [hOwn e' he' hPtr, hTaken] at hTaken'
    exact (Option.some.inj hTaken').symm

end LocCfg

end D2Common

------------------------------------------------------------
-- The Line of a String
------------------------------------------------------------

namespace D2Common

namespace LocCfg

open Cfg (cString trimSpace fgetsAll maxParamLine
  maxParamString)

/- `LOC_MAX_PARAM_NAME`, with the terminator. -/
def maxParamName : Nat := 80

/- A name of a table that a line can start with. -/
structure ParamName (name : List Char) : Prop where
  some : name ≠ []
  room : name.length < maxParamName
  sign : '=' ∉ name
  text : '\x00' ∉ name
  line : '\n' ∉ name
  trimmed : trimSpace name = name

theorem cString_of_not_mem
    {text : List Char}
    (hText : '\x00' ∉ text) :
    cString text = text := by
  refine List.takeWhile_eq_self_iff.mpr fun c hc => ?_
  have hNe : c ≠ '\x00' := by
    rintro rfl
    exact hText hc
  simpa using hNe

/- How much of a value the buffer has room for. -/
def valueRoom (name : List Char) : Nat :=
  maxParamLine - 2 - name.length

/- A name and its sign leave the rest to the value. -/
theorem room_configLine
    {name : List Char}
    (hName : ParamName name) :
    maxParamLine - 1 - name.length = valueRoom name + 1 := by
  have hRoom := hName.room
  unfold maxParamName at hRoom
  unfold valueRoom maxParamLine
  omega

/- A buffer that starts with a name cuts the value. -/
theorem take_configLine
    {name : List Char}
    (hName : ParamName name)
    (text : List Char) :
    (name ++ '=' :: text).take (maxParamLine - 1) =
      name ++ '=' :: text.take (valueRoom name) := by
  have hRoom := room_configLine hName
  rw [List.take_append, hRoom, List.take_succ_cons,
    List.take_of_length_le (by omega)]

theorem drop_configLine
    {name : List Char}
    (hName : ParamName name)
    (text : List Char) :
    (name ++ '=' :: text).drop (maxParamLine - 1) =
      text.drop (valueRoom name) := by
  have hRoom := room_configLine hName
  rw [List.drop_append, hRoom, List.drop_succ_cons,
    List.drop_eq_nil_of_le (by omega), List.nil_append]

variable {P F : Type} [Zero F]

/- The first buffer of the line of a name has its value. -/
theorem parseLine_first
    (atof : List Char → F)
    {name : List Char}
    (hName : ParamName name)
    {text : List Char}
    (hSign : '=' ∉ text)
    (hText : '\x00' ∉ text) :
    Cfg.parseLine atof
        ((name ++ '=' :: text).take (maxParamLine - 1)) =
      if text.take (valueRoom name) = [] then none
      else
        some
          (Cfg.parseValue atof name
            (trimSpace (text.take (valueRoom name)))) := by
  have hCutSign : '=' ∉ text.take (valueRoom name) :=
    fun hIn => hSign (List.mem_of_mem_take hIn)
  have hCutText : '\x00' ∉ text.take (valueRoom name) :=
    fun hIn => hText (List.mem_of_mem_take hIn)
  rw [take_configLine hName]
  generalize text.take (valueRoom name) = value at *
  have hLine :
      cString (name ++ '=' :: value) = name ++ '=' :: value :=
    cString_of_not_mem (by simp [hName.text, hCutText])
  have hOne :
      (cString (name ++ '=' :: value)).count '=' ≤ 1 := by
    rw [hLine, List.count_append, List.count_cons_self,
      List.count_eq_zero.mpr hName.sign,
      List.count_eq_zero.mpr hCutSign]
  rw [parseLine_eq_operands atof hOne, operands, hLine,
    List.splitOn_append_cons_self_of_not_mem hName.sign,
    List.splitOn_eq_singleton hCutSign]
  by_cases hNil : value = []
  · simp [hNil]
  · simp [hNil, hName.some, hName.trimmed]

/- Text without a name in front has no value. -/
theorem parseLine_pieces
    (atof : List Char → F)
    {name : List Char}
    (hName : ParamName name)
    {text : List Char}
    (hSign : '=' ∉ text) :
    ∀ piece ∈
        fgetsAll
          ((name ++ '=' :: text).drop (maxParamLine - 1)),
      Cfg.parseLine atof piece = none := by
  intro piece hPiece
  rw [drop_configLine hName] at hPiece
  refine parseLine_of_not_mem atof fun hIn => ?_
  exact hSign
    (List.mem_of_mem_drop (mem_of_mem_fgetsAll hPiece hIn))

/- The loop goes on through all of a text. -/
def Reached
    (atof : List Char → F)
    (table : List (LocParam P))
    (text : List Char) : Prop :=
  ∀ k,
    BitVec.ofNat 32
        (writes atof table ((fgetsAll text).take k)).length ≠
      BitVec.ofNat 32 table.length

/- What comes next is then read, too. -/
theorem bufsRead_of_reached
    {atof : List Char → F}
    {table : List (LocParam P)}
    {before : List Char}
    (hReached : Reached atof table before)
    {text first : List Char}
    {rest : List (List Char)}
    (hText : fgetsAll text = fgetsAll before ++ first :: rest) :
    ∃ k,
      bufsRead atof table text =
        fgetsAll before ++ first :: rest.take k := by
  have hMore :
      (fgetsAll before).length < callCount atof table text := by
    by_contra hLess
    have hLe := Nat.le_of_not_lt hLess
    rcases readCount_stops atof table (fgetsAll text)
      (BitVec.ofNat 32 table.length) with ⟨-, hStop⟩
    have hFewer :
        callCount atof table text < (fgetsAll text).length := by
      have hLength := congrArg List.length hText
      rw [List.length_append, List.length_cons] at hLength
      omega
    have hCount := hStop hFewer
    change BitVec.ofNat 32
      (writes atof table
        ((fgetsAll text).take
          (callCount atof table text))).length = _ at hCount
    rw [hText, List.take_append_of_le_length hLe] at hCount
    exact hReached _ hCount
  refine
    ⟨callCount atof table text - (fgetsAll before).length - 1,
      ?_⟩
  have hSplit :
      callCount atof table text - (fgetsAll before).length =
        callCount atof table text -
          (fgetsAll before).length - 1 + 1 := by
    omega
  unfold bufsRead
  rw [hText, List.take_append,
    List.take_of_length_le hMore.le, hSplit,
    List.take_succ_cons, Nat.add_sub_cancel]

end LocCfg

end D2Common

------------------------------------------------------------
-- What Is Stored
------------------------------------------------------------

namespace D2Common

namespace LocCfg

open Cfg (cString trimSpace fgetsAll isSpace maxParamLine
  maxParamString)
open Writes (lastAt lastAt_append)

/-
  An entry of a table for a string, at a place that is that
  of no other entry.
-/
structure StringEntry
    {P : Type}
    (table : List (LocParam P))
    (e : LocParam P)
    (p : P) : Prop where
  mem : e ∈ table
  name : ParamName e.param_name
  type : e.param_type = 's'
  place : e.param_ptr = some p
  own : ∀ e' ∈ table, e'.param_ptr = some p → e' = e

/- The string that is kept of a value. -/
def keptString (value : List Char) : List Char :=
  if value = "NULL".toList then []
  else value.take maxParamString

variable {P F : Type} [Zero F]

theorem taken_parseValue
    {e : LocParam P}
    (hType : e.param_type = 's')
    (atof : List Char → F)
    (name value : List Char) :
    e.taken (Cfg.parseValue atof name value) =
      some (.string (keptString value)) := by
  simp [LocParam.taken, hType, Cfg.storedString, keptString]

variable [DecidableEq P]

/- What a line leaves at the place of its entry. -/
theorem lastAt_configLine
    (atof : List Char → F)
    {table : List (LocParam P)}
    {e : LocParam P}
    {p : P}
    (hEntry : StringEntry table e p)
    {before text after : List Char}
    (hBefore : Ended before)
    (hLine : IsLine (e.param_name ++ '=' :: text))
    (hAfter :
      Ended (e.param_name ++ '=' :: text) ∨ after = [])
    (hReached : Reached atof table before)
    (hOthers : ∀ buf ∈ fgetsAll after, ∀ v,
      Cfg.parseLine atof buf = some v →
        v.param_name ≠ e.param_name)
    (hSign : '=' ∉ text)
    (hText : '\x00' ∉ text) :
    lastAt p
        (writes atof table
          (bufsRead atof table
            (before ++ (e.param_name ++ '=' :: text) ++
              after))) =
      if text.take (valueRoom e.param_name) = [] then
        lastAt p (writes atof table (fgetsAll before))
      else
        some
          (.string
            (keptString
              (trimSpace
                (text.take (valueRoom e.param_name))))) := by
  have hFirst := parseLine_first atof hEntry.name hSign hText
  have hPieces := parseLine_pieces atof hEntry.name hSign
  have hBufs := fgetsAll_line hBefore hAfter
  rw [fgetsAll_of_isLine hLine,
    List.append_assoc (fgetsAll before), List.cons_append]
    at hBufs
  rcases bufsRead_of_reached hReached hBufs with ⟨k, hRead⟩
  rw [hRead, writes_append, writes_cons, lastAt_append,
    lastAt_append]
  -- nothing that comes later writes to the place
  have hLater :
      lastAt p
          (writes atof table
            ((fgetsAll
                ((e.param_name ++ '=' :: text).drop
                  (maxParamLine - 1)) ++
              fgetsAll after).take k)) = none := by
    refine Writes.lastAt_eq_none_iff.mpr
      (ne_of_mem_writes hEntry.own fun buf hBuf v hParse => ?_)
    rcases List.mem_append.mp (List.mem_of_mem_take hBuf) with
      hPiece | hRest
    · rw [hPieces buf hPiece] at hParse
      cases hParse
    · exact hOthers buf hRest v hParse
  rw [hLater, Option.none_or]
  split
  · next hNil =>
      rw [if_pos hNil] at hFirst
      simp [lineWrites, hFirst]
  · next hSome =>
      rw [if_neg hSome] at hFirst
      rw [lastAt_lineWrites hEntry.mem hEntry.place
        hEntry.own hFirst (by simp)
        (taken_parseValue hEntry.type atof _ _)]
      rfl

/- The memory after a call, for all memories before it. -/
theorem forall_val_iff
    (atof : List Char → F)
    (table : List (LocParam P))
    (text : List Char)
    (p : P)
    (x : Value F) :
    (∀ m,
      (readConfR atof (some text) table m).memory.val p = x) ↔
      lastAt p
          (writes atof table (bufsRead atof table text)) =
        some x := by
  rw [← Writes.forall_writeAll_iff]
  constructor
  · intro hAll val
    have hHeld := hAll ⟨val, fun _ => false⟩
    rw [readConfR_eq] at hHeld
    exact hHeld
  · intro hAll m
    rw [readConfR_eq]
    exact hAll m.val

end LocCfg

end D2Common

------------------------------------------------------------
-- Strings as Written
------------------------------------------------------------

namespace D2Common

namespace LocCfg

open Cfg (trimSpace fgetsAll isSpace maxParamLine
  maxParamString)

/- `MAX_XTRA_SERVER_URL_LENGTH`. -/
def maxXtraServerUrlLength : Nat := 256

/- A string that fits into its destination. -/
structure UrlValue (v : List Char) : Prop where
  some : v ≠ []
  black : ∀ c ∈ v, isSpace c = false
  text : '\x00' ∉ v
  word : v ≠ "NULL".toList
  shorter : v.length < maxXtraServerUrlLength

theorem black_of_all
    {v : List Char}
    (hAll : (v.all fun c => !isSpace c) = true) :
    ∀ c ∈ v, isSpace c = false := by
  simpa using hAll

/- How a line ends before the rest of the file. -/
def LineEnd (ending after : List Char) : Prop :=
  ending = ['\n'] ∨ ending = [] ∧ after = []

theorem isLine_configLine
    {name value ending after : List Char}
    (hName : ParamName name)
    (hValue : '\n' ∉ value)
    (hEnd : LineEnd ending after) :
    IsLine (name ++ '=' :: (value ++ ending)) := by
  refine ⟨by simp, ?_⟩
  have hBody : '\n' ∉ name ++ '=' :: value := by
    simp [hName.line, hValue]
  rcases hEnd with rfl | ⟨rfl, -⟩
  · rw [← List.cons_append, ← List.append_assoc,
      List.dropLast_concat]
    exact hBody
  · rw [List.append_nil]
    exact fun hIn =>
      hBody ((List.dropLast_sublist _).subset hIn)

theorem ended_configLine
    {ending after : List Char}
    (name value : List Char)
    (hEnd : LineEnd ending after) :
    Ended (name ++ '=' :: (value ++ ending)) ∨ after = [] := by
  rcases hEnd with rfl | ⟨-, hAfter⟩
  · exact Or.inl (Or.inr ⟨name ++ '=' :: value, by simp⟩)
  · exact Or.inr hAfter

/- White space after a value is taken away. -/
theorem trimSpace_value
    {v ending after : List Char}
    (hSome : v ≠ [])
    (hBlack : ∀ c ∈ v, isSpace c = false)
    (hEnd : LineEnd ending after)
    (n : Nat) :
    trimSpace (v ++ ending.take n) = v := by
  rcases List.exists_cons_of_ne_nil hSome with ⟨c, rest, rfl⟩
  have hFirst := hBlack c List.mem_cons_self
  have hKept :
      (c :: rest).rdropWhile isSpace = c :: rest := by
    rw [List.rdropWhile_eq_self_iff]
    intro hNe
    rw [hBlack _ (List.getLast_mem hNe)]
    simp
  have hTail :
      ((c :: rest) ++ ending.take n).rdropWhile isSpace =
        c :: rest := by
    rcases hEnd with rfl | ⟨rfl, -⟩
    · cases n with
      | zero => simpa using hKept
      | succ n =>
          rw [List.take_succ_cons, List.take_nil,
            List.rdropWhile_concat_pos _ _ _ (by decide),
            hKept]
    · simpa using hKept
  rw [MiscUtils.trimSpace_of_nonspace
    ⟨c, by simp, hFirst⟩, MiscUtils.stripped,
    List.cons_append,
    List.dropWhile_cons_of_neg (by simp [hFirst]),
    ← List.cons_append, hTail]

/- What is kept of a cut value is the value if it is whole. -/
theorem keptString_take_iff
    {v : List Char}
    (hValue : UrlValue v)
    (room : Nat) :
    keptString (v.take room) = v ↔
      v.length ≤ room ∧ v.length ≤ maxParamString := by
  unfold keptString
  by_cases hRoom : v.length ≤ room
  · have hTake :
        v.take maxParamString = v ↔
          v.length ≤ maxParamString := by
      constructor
      · intro hSame
        rw [← hSame]
        exact List.length_take_le _ _
      · exact List.take_of_length_le
    rw [List.take_of_length_le hRoom, if_neg hValue.word,
      hTake]
    simp [hRoom]
  · refine iff_of_false (fun hSame => ?_) (fun h => hRoom h.1)
    split at hSame
    · exact hValue.some hSame.symm
    · have hLength := congrArg List.length hSame
      rw [List.length_take, List.length_take] at hLength
      omega

variable {P F : Type} [Zero F] [DecidableEq P]

/-
  A line leaves its value as it is written, whatever was
  there before, if and only if the value has no equals sign,
  is not longer than a string may be, and ends in the buffer
  that it starts in.
-/
theorem string_stored_iff
    (atof : List Char → F)
    (table : List (LocParam P))
    (e : LocParam P)
    (p : P)
    (hEntry : StringEntry table e p)
    (v : List Char)
    (hValue : UrlValue v)
    (before ending after : List Char)
    (hBefore : Ended before)
    (hEnd : LineEnd ending after)
    (hReached : Reached atof table before)
    (hOthers : ∀ buf ∈ fgetsAll after, ∀ w,
      Cfg.parseLine atof buf = some w →
        w.param_name ≠ e.param_name) :
    (∀ m,
      (readConfR atof
          (some
            (before ++
              (e.param_name ++ '=' :: (v ++ ending)) ++
              after))
          table m).memory.val p = .string v) ↔
      '=' ∉ v ∧ v.length ≤ maxParamString ∧
        e.param_name.length + 1 + v.length < maxParamLine := by
  have hRoom := hEntry.name.room
  have hNewline : '\n' ∉ v := fun hIn =>
    absurd (hValue.black _ hIn) (by decide)
  rw [forall_val_iff]
  by_cases hSign : '=' ∈ v
  · -- no value that is stored has an equals sign
    refine iff_of_false (fun hLast => ?_) (fun h => h.1 hSign)
    exact
      (string_of_mem_writes (Writes.mem_of_lastAt hLast)).1
        hSign
  · have hTextSign : '=' ∉ v ++ ending := by
      rcases hEnd with rfl | ⟨rfl, -⟩ <;> simpa using hSign
    have hText : '\x00' ∉ v ++ ending := by
      rcases hEnd with rfl | ⟨rfl, -⟩ <;>
        simpa using hValue.text
    have hPos : valueRoom e.param_name ≠ 0 := by
      unfold valueRoom maxParamLine
      unfold maxParamName at hRoom
      omega
    have hCutSome : v.take (valueRoom e.param_name) ≠ [] := by
      simpa [List.take_eq_nil_iff, hPos] using hValue.some
    have hTrim :
        trimSpace
            ((v ++ ending).take (valueRoom e.param_name)) =
          v.take (valueRoom e.param_name) := by
      rw [List.take_append]
      exact trimSpace_value hCutSome
        (fun c hc =>
          hValue.black c (List.mem_of_mem_take hc)) hEnd _
    rw [lastAt_configLine atof hEntry hBefore
      (isLine_configLine hEntry.name hNewline hEnd)
      (ended_configLine _ _ hEnd) hReached hOthers hTextSign
      hText]
    rw [if_neg (by
      rw [List.take_append]
      exact fun hNil => hCutSome (List.append_eq_nil_iff.mp hNil).1)]
    rw [hTrim, Option.some_inj, Value.string.injEq,
      keptString_take_iff hValue]
    unfold valueRoom maxParamLine
    unfold maxParamName at hRoom
    constructor
    · rintro ⟨hCut, hLong⟩
      exact ⟨hSign, hLong, by omega⟩
    · rintro ⟨-, hLong, hLine⟩
      exact ⟨by omega, hLong⟩

/- An entry for the address of a server. -/
def serverEntry : LocParam Nat :=
  ⟨"XTRA_SERVER_1".toList, some 0, none, 's'⟩

theorem stringEntry_serverEntry :
    StringEntry [serverEntry] serverEntry 0 :=
  { mem := List.mem_cons_self
    name :=
      { some := by decide
        room := by decide
        sign := by decide
        text := by decide
        line := by decide
        trimmed := by decide }
    type := rfl
    place := rfl
    own := by simp }

theorem string_stored_iff_short :
    (∀ m,
      (readConfR Cfg.wholeAtof
          (some
            ([] ++
              (serverEntry.param_name ++
                '=' :: ("http://x/y".toList ++ ['\n'])) ++
              []))
          [serverEntry] m).memory.val 0 =
        .string "http://x/y".toList) ↔
      '=' ∉ "http://x/y".toList ∧
        "http://x/y".toList.length ≤ maxParamString ∧
          serverEntry.param_name.length + 1 +
              "http://x/y".toList.length < maxParamLine :=
  string_stored_iff Cfg.wholeAtof [serverEntry] serverEntry 0
    stringEntry_serverEntry "http://x/y".toList
    ⟨by decide, black_of_all (by decide), by decide,
      by decide, by decide⟩
    [] ['\n'] [] (Or.inl rfl) (Or.inl rfl)
    (fun k => by simp) (by simp)

/- The query part of an address is lost. -/
theorem query_part_lost :
    UrlValue "http://x/y?a=b".toList ∧
      (readConfR Cfg.wholeAtof
          (some "XTRA_SERVER_1=http://x/y?a=b\n".toList)
          [serverEntry] zeros).memory.val 0 ≠
        .string "http://x/y?a=b".toList := by
  refine
    ⟨⟨by decide, black_of_all (by decide), by decide,
      by decide, by decide⟩, ?_⟩
  decide

end LocCfg

end D2Common

------------------------------------------------------------
-- Blank Values
------------------------------------------------------------

namespace D2Common

namespace LocCfg

open Cfg (cString trimSpace isSpace maxParamString)
open MiscUtils (HoldsString stripped trimSpaceInPlace)

variable {P F : Type} [Zero F] [DecidableEq P]

/- A blank value that is kept is kept with its spaces. -/
theorem keptString_blank
    {value : List Char}
    (hBlank : ∀ c ∈ value, isSpace c = true)
    (hSome : value ≠ []) :
    keptString (trimSpace value) ≠ [] := by
  have hWord : value ≠ "NULL".toList := by
    rintro rfl
    exact absurd (hBlank 'N' (by decide)) (by decide)
  rw [MiscUtils.trimSpace_of_blank hBlank, keptString,
    if_neg hWord]
  simp [hSome, maxParamString]

/-
  A line with nothing but white space for a value does not
  make the string of its entry empty: the entry gets white
  space, or what it has is left.
-/
theorem blank_value_never_empty
    (atof : List Char → F)
    {table : List (LocParam P)}
    {e : LocParam P}
    {p : P}
    (hEntry : StringEntry table e p)
    (hLength : table.length < 2 ^ 32)
    {blank ending : List Char}
    (hBlank : ∀ c ∈ blank, isSpace c = true)
    (hNewline : '\n' ∉ blank)
    (hEnd : LineEnd ending []) :
    ¬ ∀ m,
      (readConfR atof
          (some (e.param_name ++ '=' :: (blank ++ ending)))
          table m).memory.val p = .string [] := by
  have hText : ∀ c ∈ blank ++ ending, isSpace c = true := by
    intro c hc
    rcases List.mem_append.mp hc with hc | hc
    · exact hBlank c hc
    · rcases hEnd with rfl | ⟨rfl, -⟩
      · rw [List.mem_singleton.mp hc]
        decide
      · cases hc
  have hTable : table ≠ [] := List.ne_nil_of_mem hEntry.mem
  have hReached : Reached atof table [] := by
    intro k
    simpa using
      Ne.symm (num_params_ne_zero hTable hLength)
  have hStart : Ended [] := Or.inl rfl
  have hLine :=
    lastAt_configLine atof hEntry hStart
      (isLine_configLine hEntry.name hNewline hEnd)
      (ended_configLine _ _ hEnd) hReached (by simp)
      (fun hIn => absurd (hText _ hIn) (by decide))
      (fun hIn => absurd (hText _ hIn) (by decide))
  rw [List.nil_append, List.append_nil] at hLine
  rw [forall_val_iff, hLine]
  split
  · simp
  · next hSome =>
      have hKept :=
        keptString_blank
          (fun c hc => hText c (List.mem_of_mem_take hc)) hSome
      simpa using hKept

/-
  What is left in place is the stripped string if and only
  if the string is empty or has something but white space in
  it. Doing it again changes nothing, and blank values in a
  configuration file never are the empty string.
-/
theorem trimSpaceInPlace_strips_iff
    (atof : List Char → F)
    (text rest : List Char)
    (hText : '\x00' ∉ text) :
    (HoldsString (trimSpaceInPlace (text ++ '\x00' :: rest))
        (stripped text) ↔
      text = [] ∨ ∃ c ∈ text, isSpace c = false) ∧
      cString
          (trimSpaceInPlace
            (trimSpaceInPlace (text ++ '\x00' :: rest))) =
        cString (trimSpaceInPlace (text ++ '\x00' :: rest)) ∧
      ∀ (table : List (LocParam P)) e p,
        StringEntry table e p → table.length < 2 ^ 32 →
          ∀ blank ending, (∀ c ∈ blank, isSpace c = true) →
            '\n' ∉ blank → LineEnd ending [] →
              ¬ ∀ m,
                (readConfR atof
                    (some
                      (e.param_name ++
                        '=' :: (blank ++ ending)))
                    table m).memory.val p = .string [] := by
  rcases MiscUtils.trimSpaceInPlace_refines hText rest with
    ⟨tail, hTrim⟩
  have hTrimText : '\x00' ∉ trimSpace text :=
    fun hIn => hText (MiscUtils.mem_of_mem_trimSpace hIn)
  have hStripText : '\x00' ∉ stripped text := by
    intro hIn
    exact hText
      ((List.dropWhile_suffix isSpace).subset
        ((List.rdropWhile_prefix isSpace _).subset hIn))
  refine ⟨?_, ?_, ?_⟩
  · rw [hTrim,
      MiscUtils.holdsString_append_iff hTrimText hStripText]
    exact MiscUtils.trimSpace_eq_stripped_iff text
  · rcases MiscUtils.trimSpaceInPlace_refines hTrimText tail
      with ⟨tail', hAgain⟩
    rw [hTrim, hAgain, MiscUtils.trimSpace_trimSpace,
      MiscUtils.cString_append hTrimText,
      MiscUtils.cString_append hTrimText]
  · intro table e p hEntry hLength blank ending hBlank
      hNewline hEnd
    exact blank_value_never_empty atof hEntry hLength hBlank
      hNewline hEnd

theorem trimSpaceInPlace_strips_iff_inner :
    (HoldsString (trimSpaceInPlace " a b \x00".toList)
        (stripped " a b ".toList) ↔
      " a b ".toList = [] ∨
        ∃ c ∈ " a b ".toList, isSpace c = false) ∧
      cString
          (trimSpaceInPlace
            (trimSpaceInPlace " a b \x00".toList)) =
        cString (trimSpaceInPlace " a b \x00".toList) ∧
      ∀ (table : List (LocParam Nat)) e p,
        StringEntry table e p → table.length < 2 ^ 32 →
          ∀ blank ending, (∀ c ∈ blank, isSpace c = true) →
            '\n' ∉ blank → LineEnd ending [] →
              ¬ ∀ m,
                (readConfR Cfg.wholeAtof
                    (some
                      (e.param_name ++
                        '=' :: (blank ++ ending)))
                    table m).memory.val p = .string [] :=
  trimSpaceInPlace_strips_iff Cfg.wholeAtof " a b ".toList []
    (by decide)

/- Two spaces are left as they are. -/
theorem blank_not_stripped :
    '\x00' ∉ "  ".toList ∧
      ¬ HoldsString (trimSpaceInPlace "  \x00".toList)
        (stripped "  ".toList) := by
  decide

end LocCfg

end D2Common
