import Mathlib.Algebra.Order.Ring.Int
import Mathlib.Data.List.DropRight
import D2Common.Cfg.Params

/-
  Reading a configuration file.

  A file is read line by line into a buffer of fixed size.
  A line assigns a value to a name when it has two operands
  around an equals sign, and the value is stored in every
  entry of the table with that name. Reading decimals as
  doubles is a parameter.

  Every file is read once more for the two parameters of the
  logger, which are not in the store.

  Key definitions include:
    * `fgetsAll`
    * `parseLine`
    * `setConfigEntry`
    * `readConfR`
    * `readConfig`

  Key theorems include:
    * `fgetsAll_eq_lines`
-/

------------------------------------------------------------
-- Lines
------------------------------------------------------------

namespace D2Common

namespace Cfg

/- `LOC_MAX_PARAM_LINE`, the size of the buffer. -/
def maxParamLine : Nat := 160

/-
  What successive calls of `fgets` put into the buffer. The
  first argument is what the current call has read already:
  it ends with a newline, or when the buffer is full but for
  the terminator.
-/
def fgetsFrom :
    List Char → List Char → List (List Char)
| buf, [] => if buf = [] then [] else [buf]
| buf, c :: text =>
    if c = '\n' ∨ buf.length + 2 = maxParamLine
    then (buf ++ [c]) :: fgetsFrom [] text
    else fgetsFrom (buf ++ [c]) text

/- The buffers that a text is read into. -/
def fgetsAll (text : List Char) : List (List Char) :=
  fgetsFrom [] text

/- The same without a limit. -/
def linesFrom :
    List Char → List Char → List (List Char)
| line, [] => if line = [] then [] else [line]
| line, c :: text =>
    if c = '\n'
    then (line ++ [c]) :: linesFrom [] text
    else linesFrom (line ++ [c]) text

/- The lines of a text, each with its newline. -/
def lines (text : List Char) : List (List Char) :=
  linesFrom [] text

/- All lines are shorter than the buffer. -/
def ShortLines (text : List Char) : Prop :=
  ∀ line ∈ lines text, line.length < maxParamLine

/- A line is at least what has been read of it. -/
theorem length_le_of_linesFrom
    {line : List Char}
    (hLine : line ≠ [])
    (text : List Char) :
    ∃ l ∈ linesFrom line text, line.length ≤ l.length := by
  induction text generalizing line with
  | nil => exact ⟨line, by simp [linesFrom, hLine], le_rfl⟩
  | cons c text ih =>
      unfold linesFrom
      split
      · exact ⟨line ++ [c], by simp, by simp⟩
      · have hNext : line ++ [c] ≠ [] := by simp
        rcases ih hNext with ⟨l, hl, hLength⟩
        rw [List.length_append] at hLength
        exact ⟨l, hl, by omega⟩

/- One more character makes the line longer. -/
theorem length_lt_of_linesFrom
    (line : List Char)
    (c : Char)
    (text : List Char) :
    ∃ l ∈ linesFrom line (c :: text),
      line.length < l.length := by
  unfold linesFrom
  split
  · exact ⟨line ++ [c], by simp, by simp⟩
  · have hNext : line ++ [c] ≠ [] := by simp
    rcases length_le_of_linesFrom hNext text with
      ⟨l, hl, hLength⟩
    rw [List.length_append] at hLength
    exact ⟨l, hl, hLength⟩

theorem fgetsFrom_eq_linesFrom
    (line text : List Char)
    (hShort :
      ∀ l ∈ linesFrom line text, l.length < maxParamLine) :
    fgetsFrom line text = linesFrom line text := by
  induction text generalizing line with
  | nil => rfl
  | cons c text ih =>
      unfold fgetsFrom
      unfold linesFrom at hShort ⊢
      by_cases hNewline : c = '\n'
      · rw [if_pos hNewline] at hShort ⊢
        rw [if_pos (Or.inl hNewline)]
        rw [ih [] fun l hl => hShort l (by simp [hl])]
      · rw [if_neg hNewline] at hShort ⊢
        by_cases hFull : line.length + 2 = maxParamLine
        · -- The buffer is full, so the text ends here.
          rw [if_pos (Or.inr hFull)]
          cases text with
          | nil => simp [fgetsFrom, linesFrom]
          | cons c' text =>
              rcases length_lt_of_linesFrom (line ++ [c]) c'
                text with ⟨l, hl, hLonger⟩
              have hLess := hShort l hl
              rw [List.length_append,
                List.length_singleton] at hLonger
              omega
        · rw [if_neg (by simp [hNewline, hFull])]
          exact ih (line ++ [c]) hShort

/- Short lines are read one at a time. -/
theorem fgetsAll_eq_lines
    {text : List Char}
    (hShort : ShortLines text) :
    fgetsAll text = lines text :=
  fgetsFrom_eq_linesFrom [] text hShort

end Cfg

end D2Common

------------------------------------------------------------
-- Values
------------------------------------------------------------

namespace D2Common

namespace Cfg

/- `isspace` in the C locale. -/
def isSpace (c : Char) : Bool :=
  c == ' ' || (9 ≤ c.toNat && c.toNat ≤ 13)

/- The value of a digit in a base, if it is one. -/
def digitOf
    (base : Nat)
    (c : Char) : Option Nat :=
  let d :=
    if '0' ≤ c ∧ c ≤ '9' then c.toNat - '0'.toNat
    else if 'a' ≤ c ∧ c ≤ 'z' then c.toNat - 'a'.toNat + 10
    else if 'A' ≤ c ∧ c ≤ 'Z' then c.toNat - 'A'.toNat + 10
    else base
  if d < base then some d else none

/- The number that the digits at the front make. -/
def digitsValue
    (base : Nat) :
    Nat → List Char → Nat
| n, [] => n
| n, c :: s =>
    match digitOf base c with
    | some d => digitsValue base (base * n + d) s
    | none => n

/- A sign in front of a number. -/
def takeSign : List Char → Bool × List Char
| '-' :: s => (true, s)
| '+' :: s => (false, s)
| s => (false, s)

/- The prefix of a hexadecimal number may be there. -/
def skipHexPrefix : List Char → List Char
| '0' :: 'x' :: s => s
| '0' :: 'X' :: s => s
| s => s

/- `strtol`, where a `long` has 32 bits. -/
def strtol
    (s : List Char)
    (base : Nat) : Int :=
  let (negative, s) := takeSign (s.dropWhile isSpace)
  let s := if base = 16 then skipHexPrefix s else s
  let n : Int := digitsValue base 0 s
  if negative then max (-n) (-2 ^ 31) else min n (2 ^ 31 - 1)

/- `atoi`. -/
def atoi (s : List Char) : BitVec 32 :=
  BitVec.ofInt 32 (strtol s 10)

/- `strtok_r` with an equals sign: a token and the rest. -/
def strtok (s : List Char) : Option (List Char × List Char) :=
  match s.dropWhile (· == '=') with
  | [] => none
  | c :: s =>
      some ((c :: s).takeWhile (· != '='),
        ((c :: s).dropWhile (· != '=')).tail)

/- `loc_util_trim_space`; a string of spaces is left. -/
def trimSpace (s : List Char) : List Char :=
  if s.all isSpace then s
  else (s.dropWhile isSpace).rdropWhile isSpace

/- The characters up to the terminator. -/
def cString (buf : List Char) : List Char :=
  buf.takeWhile (· != '\x00')

/- `loc_param_v_type`. -/
structure ConfigValue (F : Type) where
  param_name : List Char
  param_str_value : List Char
  param_int_value : BitVec 32
  param_double_value : F
deriving DecidableEq

variable {F : Type}

/- The numbers of a value: hexadecimal, or decimal. -/
def parseValue
    [Zero F]
    (atof : List Char → F)
    (name value : List Char) : ConfigValue F :=
  match value with
  | '0' :: x :: c :: s =>
      if x = 'x' ∨ x = 'X' then
        ⟨name, value, BitVec.ofInt 32 (strtol (c :: s) 16), 0⟩
      else ⟨name, value, atoi value, atof value⟩
  | _ => ⟨name, value, atoi value, atof value⟩

/- A line that has two operands. -/
def parseLine
    [Zero F]
    (atof : List Char → F)
    (buf : List Char) : Option (ConfigValue F) :=
  match strtok (cString buf) with
  | none => none
  | some (name, rest) =>
      match strtok rest with
      | none => none
      | some (value, _) =>
          some (parseValue atof (trimSpace name)
            (trimSpace value))

end Cfg

end D2Common

------------------------------------------------------------
-- Filling The Table
------------------------------------------------------------

namespace D2Common

namespace Cfg

variable {F : Type}

/- `LOC_MAX_PARAM_STRING`. -/
def maxParamString : Nat := 80

/- Whether a value is one for an entry. -/
def Entry.named
    (e : Entry)
    (v : ConfigValue F) : Bool :=
  e.param_name.toList == v.param_name

/-
  `loc_set_config_entry`; `none` is a result other than 0.
-/
def setConfigEntry
    (e : Entry)
    (v : ConfigValue F)
    (c : Store F) : Option (Store F) :=
  if e.named v then
    let c :=
      match e.param_type with
      | .string =>
          c.setStr e.param
            (if v.param_str_value = "NULL".toList then []
            else v.param_str_value.take maxParamString)
      | .number => c.setNum e.param v.param_int_value
      | .float => c.setDbl e.param v.param_double_value
    some (if e.hasParamSet then c.setValid e.param true else c)
  else none

/-
  One value for the whole table. The names of a table
  differ, so that `num_params` does not wrap around.
-/
def setConfigEntries :
    List Entry → ConfigValue F → Nat × Store F →
      Nat × Store F
| [], _, x => x
| e :: table, v, (num_params, c) =>
    match setConfigEntry e v c with
    | some c => setConfigEntries table v (num_params - 1, c)
    | none => setConfigEntries table v (num_params, c)

/- The loop of `loc_read_conf_r`. -/
def readLines
    [Zero F]
    (atof : List Char → F)
    (table : List Entry) :
    List (List Char) → Nat × Store F → Store F
| [], (_, c) => c
| _ :: _, (0, c) => c
| buf :: bufs, (num_params + 1, c) =>
    match parseLine atof buf with
    | none => readLines atof table bufs (num_params + 1, c)
    | some v =>
        readLines atof table bufs
          (setConfigEntries table v (num_params + 1, c))

/- Clear all validity bits. -/
def clearValid
    (table : List Entry)
    (c : Store F) : Store F :=
  table.foldl
    (fun c e =>
      if e.hasParamSet then c.setValid e.param false else c)
    c

/- `loc_read_conf_r`; a `Char` stands for one byte. -/
def readConfR
    [Zero F]
    (atof : List Char → F)
    (table : List Entry)
    (text : List Char)
    (c : Store F) : Store F :=
  readLines atof table (fgetsAll text)
    (table.length, clearValid table c)

/- `loc_read_conf`, of a file that may be missing. -/
def readConf
    [Zero F]
    (atof : List Char → F)
    (file : Option (List Char))
    (table : List Entry)
    (c : Store F) : Store F :=
  match file with
  | some text =>
      if table.length ≠ 0 then readConfR atof table text c
      else c
  | none => c

/- What `loc_eng_read_config` works on. -/
structure Config (F : Type) where
  configAlreadyRead : Bool
  conf : Store F

/- `loc_eng_read_config`. -/
def readConfig
    [Zero F]
    (atof : List Char → F)
    (gpsConf sapConf : Option (List Char))
    (s : Config F) : Config F :=
  if s.configAlreadyRead then s
  else
    { configAlreadyRead := true
      conf :=
        readConf atof sapConf parameterTable
          (readConf atof gpsConf parameterTable
            (defaultParameters s.conf)) }

end Cfg

end D2Common
