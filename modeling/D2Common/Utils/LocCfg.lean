import D2Common.Foundations.Writes
import D2Common.Cfg.Validity

/-
  Reading a configuration file for any table.

  `loc_read_conf_r` is given an open file and a table, whose
  entries point to places in memory, and may be called again
  with the same file. What the loop does to the memory is a
  sequence of writes, which the buffers that it reads
  determine and the memory does not.

  Key definitions include:
    * `LocParam`
    * `setConfigEntry`
    * `readLoop`
    * `readConfR`
    * `lineWrites`
    * `readCount`

  Key theorems include:
    * `setConfigEntries_eq`
    * `readLoop_eq`
    * `readConfR_eq`
-/

------------------------------------------------------------
-- Tables and Memory
------------------------------------------------------------

namespace D2Common

namespace LocCfg

open Cfg (ConfigValue)

/- What a place in memory holds. -/
inductive Value (F : Type) where
  | number (n : BitVec 32)
  | string (s : List Char)
  | float (x : F)
deriving DecidableEq

instance {F : Type} : Nontrivial (Value F) :=
  ⟨.number 0, .number 1, by simp⟩

/-
  `loc_param_s_type`. A pointer that is NULL is no place,
  and a type is any character.
-/
structure LocParam (P : Type) where
  param_name : List Char
  param_ptr : Option P
  param_set : Option P
  param_type : Char
deriving DecidableEq

/- The values at the places, and the validity flags. -/
structure Memory (P F : Type) where
  val : P → Value F
  set : P → Bool

variable {P F : Type}

/- What an entry of a type takes of a value. -/
def LocParam.taken
    (config_entry : LocParam P)
    (config_value : ConfigValue F) : Option (Value F) :=
  if config_entry.param_type = 's' then
    some (.string (Cfg.storedString config_value))
  else if config_entry.param_type = 'n' then
    some (.number config_value.param_int_value)
  else if config_entry.param_type = 'f' then
    some (.float config_value.param_double_value)
  else none

variable [DecidableEq P]

/-
  `loc_set_config_entry`; `none` is a result other than 0.
-/
def setConfigEntry
    (config_entry : LocParam P)
    (config_value : ConfigValue F)
    (m : Memory P F) : Option (Memory P F) :=
  if config_entry.param_name = config_value.param_name then
    match config_entry.param_ptr,
        config_entry.taken config_value with
    | some param_ptr, some x =>
        some
          { val := Function.update m.val param_ptr x
            set :=
              match config_entry.param_set with
              | some param_set =>
                  Function.update m.set param_set true
              | none => m.set }
    | _, _ => none
  else none

/-
  What the loop works on, and how many parameters it has
  matched.
-/
structure Filling (P F : Type) where
  num_params : BitVec 32
  matched : Nat
  memory : Memory P F

/- One value for the whole table. -/
def setConfigEntries
    (config_table : List (LocParam P))
    (config_value : ConfigValue F)
    (x : Filling P F) : Filling P F :=
  config_table.foldl
    (fun x config_entry =>
      match setConfigEntry config_entry config_value
          x.memory with
      | some memory =>
          ⟨x.num_params - 1, x.matched + 1, memory⟩
      | none => x)
    x

/-
  How the loop ends: whether `fgets` has returned NULL, and
  the buffers that have not been read.
-/
structure Exit (P F : Type) where
  ended : Bool
  unread : List (List Char)
  filling : Filling P F

variable [Zero F]

/- The `while` loop of `loc_read_conf_r`. -/
def readLoop
    (atof : List Char → F)
    (config_table : List (LocParam P)) :
    List (List Char) → Filling P F → Exit P F
| [], x => ⟨x.num_params != 0, [], x⟩
| buf :: bufs, x =>
    if x.num_params = 0 then ⟨false, buf :: bufs, x⟩
    else
      match Cfg.parseLine atof buf with
      | none => readLoop atof config_table bufs x
      | some config_value =>
          readLoop atof config_table bufs
            (setConfigEntries config_table config_value x)

/- Clear all validity bits. -/
def clearValid
    (config_table : List (LocParam P))
    (m : Memory P F) : Memory P F :=
  { m with
    set :=
      config_table.foldl
        (fun set config_entry =>
          match config_entry.param_set with
          | some param_set =>
              Function.update set param_set false
          | none => set)
        m.set }

/-
  The result of a call, the file and the memory after it,
  how many parameters it has matched, and whether it has
  come to the end of the file.
-/
structure Reading (P F : Type) where
  ret : Int
  conf_fp : Option (List Char)
  memory : Memory P F
  matched : Nat
  ended : Bool

/-
  `loc_read_conf_r`. The file is the text that is left of
  it, in which a `Char` stands for one byte, and
  `table_length` the length of the table.
-/
def readConfR
    (atof : List Char → F)
    (conf_fp : Option (List Char))
    (config_table : List (LocParam P))
    (m : Memory P F) : Reading P F :=
  match conf_fp with
  | none => ⟨-1, none, m, 0, false⟩
  | some text =>
      let r :=
        readLoop atof config_table (Cfg.fgetsAll text)
          ⟨BitVec.ofNat 32 config_table.length, 0,
            clearValid config_table m⟩
      ⟨0, some r.unread.flatten, r.filling.memory,
        r.filling.matched, r.ended⟩

end LocCfg

end D2Common

------------------------------------------------------------
-- Writes of a Line
------------------------------------------------------------

namespace D2Common

namespace LocCfg

open Cfg (ConfigValue)
open Writes (writeAll writeAll_append writeAll_cons)

variable {P F : Type}

/- What a value writes to the place of an entry. -/
def LocParam.write
    (e : LocParam P)
    (v : ConfigValue F) : Option (P × Value F) :=
  if e.param_name = v.param_name then
    match e.param_ptr, e.taken v with
    | some p, some x => some (p, x)
    | _, _ => none
  else none

/- The flag that it sets with it. -/
def LocParam.flag
    (e : LocParam P)
    (v : ConfigValue F) : Option (P × Bool) :=
  if (e.write v).isSome then
    e.param_set.map fun q => (q, true)
  else none

variable [Zero F]

/- What a buffer writes to the places of a table. -/
def lineWrites
    (atof : List Char → F)
    (table : List (LocParam P))
    (buf : List Char) : List (P × Value F) :=
  match Cfg.parseLine atof buf with
  | some v => table.filterMap fun e => e.write v
  | none => []

/- The flags that a buffer sets. -/
def lineFlags
    (atof : List Char → F)
    (table : List (LocParam P))
    (buf : List Char) : List (P × Bool) :=
  match Cfg.parseLine atof buf with
  | some v => table.filterMap fun e => e.flag v
  | none => []

variable [DecidableEq P]

/- A memory after writes to its values and flags. -/
def Memory.after
    (m : Memory P F)
    (ws : List (P × Value F))
    (fs : List (P × Bool)) : Memory P F :=
  ⟨writeAll ws m.val, writeAll fs m.set⟩

omit [Zero F] in
theorem Memory.after_after
    (m : Memory P F)
    (ws ws' : List (P × Value F))
    (fs fs' : List (P × Bool)) :
    (m.after ws fs).after ws' fs' =
      m.after (ws ++ ws') (fs ++ fs') := by
  simp [Memory.after, writeAll_append]

/- The loop variables after writes. -/
def Filling.after
    (x : Filling P F)
    (ws : List (P × Value F))
    (fs : List (P × Bool)) : Filling P F :=
  ⟨x.num_params - BitVec.ofNat 32 ws.length,
    x.matched + ws.length, x.memory.after ws fs⟩

omit [Zero F] in
@[simp] theorem Filling.after_nil (x : Filling P F) :
    x.after [] [] = x := by
  simp [Filling.after, Memory.after]

omit [Zero F] in
theorem Filling.after_after
    (x : Filling P F)
    (ws ws' : List (P × Value F))
    (fs fs' : List (P × Bool)) :
    (x.after ws fs).after ws' fs' =
      x.after (ws ++ ws') (fs ++ fs') := by
  have hNum :
      x.num_params - BitVec.ofNat 32 ws.length -
          BitVec.ofNat 32 ws'.length =
        x.num_params -
          BitVec.ofNat 32 (ws.length + ws'.length) := by
    rw [BitVec.ofNat_add]
    bv_omega
  simp [Filling.after, Memory.after_after, hNum,
    Nat.add_assoc]

omit [Zero F] in
/- An entry is set if and only if there is a write. -/
theorem setConfigEntry_eq
    (e : LocParam P)
    (v : ConfigValue F)
    (m : Memory P F) :
    setConfigEntry e v m =
      (e.write v).map fun w =>
        m.after [w] (e.flag v).toList := by
  unfold setConfigEntry LocParam.flag LocParam.write
  by_cases hName : e.param_name = v.param_name
  · rw [if_pos hName, if_pos hName]
    cases e.param_ptr <;> cases e.taken v <;>
      cases e.param_set <;>
        simp [Memory.after, writeAll]
  · rw [if_neg hName, if_neg hName]
    rfl

omit [Zero F] in
theorem setConfigEntries_eq
    (table : List (LocParam P))
    (v : ConfigValue F)
    (x : Filling P F) :
    setConfigEntries table v x =
      x.after (table.filterMap fun e => e.write v)
        (table.filterMap fun e => e.flag v) := by
  unfold setConfigEntries
  induction table generalizing x with
  | nil => simp
  | cons e table ih =>
      rw [List.foldl_cons, setConfigEntry_eq]
      cases hWrite : e.write v with
      | none =>
          have hFlag : e.flag v = none := by
            simp [LocParam.flag, hWrite]
          rw [List.filterMap_cons, List.filterMap_cons]
          simp only [hWrite, hFlag]
          exact ih x
      | some w =>
          have hStep :
              (⟨x.num_params - 1, x.matched + 1,
                  x.memory.after [w] (e.flag v).toList⟩ :
                Filling P F) =
                x.after [w] (e.flag v).toList := rfl
          simp only [Option.map_some]
          rw [hStep, ih, Filling.after_after,
            List.filterMap_cons, List.filterMap_cons]
          cases hFlag : e.flag v <;> simp [hWrite]

end LocCfg

end D2Common

------------------------------------------------------------
-- What Is Read
------------------------------------------------------------

namespace D2Common

namespace LocCfg

variable {P F : Type} [Zero F]

/- How many buffers the loop reads. -/
def readCount
    (atof : List Char → F)
    (table : List (LocParam P)) :
    List (List Char) → BitVec 32 → Nat
| [], _ => 0
| buf :: bufs, num_params =>
    if num_params = 0 then 0
    else
      readCount atof table bufs
          (num_params -
            BitVec.ofNat 32
              (lineWrites atof table buf).length) + 1

/- What buffers write, one after the other. -/
def writes
    (atof : List Char → F)
    (table : List (LocParam P))
    (bufs : List (List Char)) : List (P × Value F) :=
  bufs.flatMap (lineWrites atof table)

/- The flags that they set. -/
def flags
    (atof : List Char → F)
    (table : List (LocParam P))
    (bufs : List (List Char)) : List (P × Bool) :=
  bufs.flatMap (lineFlags atof table)

@[simp] theorem writes_nil
    (atof : List Char → F)
    (table : List (LocParam P)) :
    writes atof table [] = [] := rfl

@[simp] theorem writes_cons
    (atof : List Char → F)
    (table : List (LocParam P))
    (buf : List Char)
    (bufs : List (List Char)) :
    writes atof table (buf :: bufs) =
      lineWrites atof table buf ++ writes atof table bufs :=
  rfl

@[simp] theorem flags_nil
    (atof : List Char → F)
    (table : List (LocParam P)) :
    flags atof table [] = [] := rfl

@[simp] theorem flags_cons
    (atof : List Char → F)
    (table : List (LocParam P))
    (buf : List Char)
    (bufs : List (List Char)) :
    flags atof table (buf :: bufs) =
      lineFlags atof table buf ++ flags atof table bufs :=
  rfl

@[simp] theorem writes_append
    (atof : List Char → F)
    (table : List (LocParam P))
    (bufs bufs' : List (List Char)) :
    writes atof table (bufs ++ bufs') =
      writes atof table bufs ++ writes atof table bufs' :=
  List.flatMap_append

/- The loop stops because all is read, or by the count. -/
theorem readCount_stops
    (atof : List Char → F)
    (table : List (LocParam P))
    (bufs : List (List Char))
    (n : BitVec 32) :
    readCount atof table bufs n ≤ bufs.length ∧
      (readCount atof table bufs n < bufs.length →
        BitVec.ofNat 32
            (writes atof table
              (bufs.take (readCount atof table bufs n))).length =
          n) := by
  induction bufs generalizing n with
  | nil => simp [readCount]
  | cons buf bufs ih =>
      unfold readCount
      by_cases hZero : n = 0
      · simp [hZero]
      · rw [if_neg hZero]
        rcases ih (n - BitVec.ofNat 32
          (lineWrites atof table buf).length) with
          ⟨hLe, hCount⟩
        refine ⟨by simpa using hLe, fun hLess => ?_⟩
        have hRest :=
          hCount (by simpa using hLess)
        rw [List.take_succ_cons, writes_cons,
          List.length_append, BitVec.ofNat_add, hRest]
        bv_omega

/- As long as it goes on, the count is not used up. -/
theorem readCount_goesOn
    (atof : List Char → F)
    (table : List (LocParam P))
    (bufs : List (List Char))
    (n : BitVec 32)
    {k : Nat}
    (hk : k < readCount atof table bufs n) :
    BitVec.ofNat 32
        (writes atof table (bufs.take k)).length ≠ n := by
  induction bufs generalizing n k with
  | nil => simp [readCount] at hk
  | cons buf bufs ih =>
      unfold readCount at hk
      by_cases hZero : n = 0
      · simp [hZero] at hk
      · rw [if_neg hZero] at hk
        rcases k with _ | k
        · simpa using Ne.symm hZero
        · have hRest :=
            ih (n - BitVec.ofNat 32
              (lineWrites atof table buf).length)
              (Nat.lt_of_succ_lt_succ hk)
          rw [List.take_succ_cons, writes_cons,
            List.length_append, BitVec.ofNat_add]
          intro hSame
          apply hRest
          rw [← hSame]
          bv_omega

variable [DecidableEq P]

/- One buffer, if the count allows for it. -/
theorem readLoop_cons
    (atof : List Char → F)
    (table : List (LocParam P))
    (buf : List Char)
    (bufs : List (List Char))
    (x : Filling P F) :
    readLoop atof table (buf :: bufs) x =
      if x.num_params = 0 then ⟨false, buf :: bufs, x⟩
      else
        readLoop atof table bufs
          (x.after (lineWrites atof table buf)
            (lineFlags atof table buf)) := by
  rw [readLoop]
  unfold lineWrites lineFlags
  cases Cfg.parseLine atof buf with
  | none => simp
  | some v => simp only [setConfigEntries_eq]

/-
  The loop reads buffers as far as the count allows, and
  writes what they say.
-/
theorem readLoop_eq
    (atof : List Char → F)
    (table : List (LocParam P))
    (bufs : List (List Char))
    (x : Filling P F) :
    let k := readCount atof table bufs x.num_params
    let y :=
      x.after (writes atof table (bufs.take k))
        (flags atof table (bufs.take k))
    readLoop atof table bufs x =
      ⟨y.num_params != 0, bufs.drop k, y⟩ := by
  intro k y
  induction bufs generalizing x with
  | nil => simp [readLoop, readCount, k, y]
  | cons buf bufs ih =>
      rw [readLoop_cons]
      by_cases hZero : x.num_params = 0
      · simp [hZero, readCount, k, y]
      · rw [if_neg hZero]
        have hk :
            k =
              readCount atof table bufs
                (x.num_params -
                  BitVec.ofNat 32
                    (lineWrites atof table buf).length) + 1 := by
          simp only [k, readCount, if_neg hZero]
        have hRest :=
          ih (x.after (lineWrites atof table buf)
            (lineFlags atof table buf))
        simp only [Filling.after_after] at hRest
        rw [hRest]
        simp only [y, hk, List.take_succ_cons,
          List.drop_succ_cons, writes_cons, flags_cons]
        rfl

/- How many buffers of a text a call reads. -/
def callCount
    (atof : List Char → F)
    (table : List (LocParam P))
    (text : List Char) : Nat :=
  readCount atof table (Cfg.fgetsAll text)
    (BitVec.ofNat 32 table.length)

/- The buffers that a call reads. -/
def bufsRead
    (atof : List Char → F)
    (table : List (LocParam P))
    (text : List Char) : List (List Char) :=
  (Cfg.fgetsAll text).take (callCount atof table text)

/- What a call does, by the buffers that it reads. -/
theorem readConfR_eq
    (atof : List Char → F)
    (table : List (LocParam P))
    (text : List Char)
    (m : Memory P F) :
    let bufs := bufsRead atof table text
    readConfR atof (some text) table m =
      { ret := 0
        conf_fp :=
          some
            ((Cfg.fgetsAll text).drop
              (callCount atof table text)).flatten
        memory :=
          (clearValid table m).after
            (writes atof table bufs) (flags atof table bufs)
        matched := (writes atof table bufs).length
        ended :=
          BitVec.ofNat 32 table.length -
            BitVec.ofNat 32 (writes atof table bufs).length !=
              0 } := by
  simp only [readConfR, readLoop_eq, Filling.after, bufsRead,
    callCount, Nat.zero_add]

/- An entry for a number, without a flag. -/
def numberEntry
    (param_name : String)
    (param_ptr : Nat) : LocParam Nat :=
  ⟨param_name.toList, some param_ptr, none, 'n'⟩

/- A memory of zeros. -/
def zeros : Memory Nat Int :=
  ⟨fun _ => .number 0, fun _ => false⟩

end LocCfg

end D2Common
