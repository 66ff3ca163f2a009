import Mathlib.Data.List.Nodup
import D2Common.Utils.LocCfg

/-
  The parameters of the engine, read as those of any table.

  `loc_parameter_table` is one of the tables that
  `loc_read_conf_r` is called with: its places are those of
  the two global records. What a file does to the store of
  the engine is what it does to a memory with these places.

  Key definitions include:
    * `paramEntry`
    * `Holds`
    * `Agrees`

  Key theorems include:
    * `holds_setConfigEntry`
    * `readConfR_holds`
    * `parameterTable_holds`
-/

------------------------------------------------------------
-- The Store in Memory
------------------------------------------------------------

namespace D2Common

namespace LocCfg

open Cfg (ConfigValue Entry Param ParamType Slot Store)

/- `param_type` as it stands in the table. -/
def typeChar : ParamType → Char
| .number => 'n'
| .string => 's'
| .float => 'f'

/- An entry for a parameter, with its places. -/
def paramEntry (e : Entry) : LocParam Param where
  param_name := e.param_name.toList
  param_ptr := some e.param
  param_set := if e.hasParamSet then some e.param else none
  param_type := typeChar e.param_type

variable {F : Type}

/- What an entry points to, in the slot of its parameter. -/
def slotValue
    (e : Entry)
    (x : Slot F) : Value F :=
  match e.param_type with
  | .number => .number x.num
  | .string => .string x.str
  | .float => .float x.dbl

/- A memory with the store in the places of a table. -/
structure Holds
    (table : List Entry)
    (c : Store F)
    (m : Memory Param F) : Prop where
  val :
    ∀ e ∈ table, m.val e.param = slotValue e (c.slot e.param)
  set : ∀ p, m.set p = (c.slot p).valid

theorem paramEntry_name_iff
    (e : Entry)
    (v : ConfigValue F) :
    (paramEntry e).param_name = v.param_name ↔
      e.named v = true := by
  simp [paramEntry, Entry.named]

/- An entry of every type takes what is written to it. -/
theorem taken_paramEntry
    (e : Entry)
    (v : ConfigValue F)
    (x : Slot F) :
    (paramEntry e).taken v =
      some (slotValue e (e.write v x)) := by
  cases hType : e.param_type <;>
    simp [LocParam.taken, paramEntry, typeChar, slotValue,
      Entry.write, hType]

theorem paramEntry_setConfigEntry
    {e : Entry}
    {v : ConfigValue F}
    (hNamed : e.named v = true)
    (m : Memory Param F)
    (x : Slot F) :
    setConfigEntry (paramEntry e) v m =
      some
        { val :=
            Function.update m.val e.param
              (slotValue e (e.write v x))
          set := fun p =>
            if p = e.param then e.hasParamSet || m.set p
            else m.set p } := by
  unfold setConfigEntry
  rw [if_pos ((paramEntry_name_iff e v).mpr hNamed),
    taken_paramEntry e v x]
  cases hSet : e.hasParamSet with
  | false => simp [paramEntry, hSet]
  | true =>
      simp only [paramEntry, hSet, if_true, Option.some_inj,
        Memory.mk.injEq, true_and]
      funext p
      simp [Function.update_apply]

/- One entry is set in both, or in neither. -/
theorem holds_setConfigEntry
    {table : List Entry}
    (hParams : (table.map Entry.param).Nodup)
    {e : Entry}
    (he : e ∈ table)
    {c : Store F}
    {m : Memory Param F}
    (hHolds : Holds table c m)
    (v : ConfigValue F) :
    Option.Rel (Holds table) (Cfg.setConfigEntry e v c)
      (setConfigEntry (paramEntry e) v m) := by
  cases hNamed : e.named v with
  | false =>
      have hName :
          ¬ (paramEntry e).param_name = v.param_name := by
        simp [paramEntry_name_iff, hNamed]
      rw [Cfg.setConfigEntry_of_not_named hNamed,
        setConfigEntry, if_neg hName]
      exact Option.Rel.none
  | true =>
      rcases Cfg.setConfigEntry_of_named hNamed c with
        ⟨c', hSet, hSlot⟩
      rw [hSet, paramEntry_setConfigEntry hNamed m
        (c.slot e.param)]
      refine Option.Rel.some ⟨fun e' he' => ?_, fun p => ?_⟩
      · by_cases hSame : e'.param = e.param
        · have hEntry : e' = e :=
            List.inj_on_of_nodup_map hParams he' he hSame
          rw [hEntry, hSlot, if_pos rfl]
          exact Function.update_self _ _ _
        · rw [hSlot, if_neg hSame, ← hHolds.val e' he']
          exact Function.update_of_ne hSame _ _
      · rw [hSlot]
        by_cases hp : p = e.param
        · rw [if_pos hp]
          simp only [if_pos hp, hHolds.set p, Entry.write]
        · rw [if_neg hp]
          simp only [if_neg hp, hHolds.set p]

end LocCfg

end D2Common

------------------------------------------------------------
-- The Loop
------------------------------------------------------------

namespace D2Common

namespace LocCfg

open Cfg (ConfigValue Entry Param Store)

variable {F : Type}

/-
  The loop variables of both: the count does not wrap around
  as long as the natural number is not used up.
-/
structure Agrees
    (table : List Entry)
    (x : Nat × Store F)
    (y : Filling Param F) : Prop where
  small : x.1 < 2 ^ 32
  count : y.num_params = BitVec.ofNat 32 x.1
  holds : Holds table x.2 y.memory

theorem Agrees.num_params_eq_zero_iff
    {table : List Entry}
    {x : Nat × Store F}
    {y : Filling Param F}
    (hAgrees : Agrees table x y) :
    y.num_params = 0 ↔ x.1 = 0 := by
  have hSmall := hAgrees.small
  rw [hAgrees.count]
  constructor
  · intro hZero
    have hToNat := congrArg BitVec.toNat hZero
    rw [BitVec.toNat_ofNat, Nat.mod_eq_of_lt hSmall]
      at hToNat
    exact hToNat
  · intro hZero
    rw [hZero]
    rfl

/- One value for some entries, with a count that suffices. -/
theorem agrees_setConfigEntries
    {table : List Entry}
    (hParams : (table.map Entry.param).Nodup)
    {entries : List Entry}
    (hEntries : ∀ e ∈ entries, e ∈ table)
    (v : ConfigValue F)
    {x : Nat × Store F}
    {y : Filling Param F}
    (hCount : entries.countP (fun e => e.named v) ≤ x.1)
    (hAgrees : Agrees table x y) :
    Agrees table (Cfg.setConfigEntries entries v x)
      (setConfigEntries (entries.map paramEntry) v y) := by
  induction entries generalizing x y with
  | nil => exact hAgrees
  | cons e entries ih =>
      rcases x with ⟨n, c⟩
      rw [List.forall_mem_cons] at hEntries
      rw [List.countP_cons] at hCount
      have hRel :=
        holds_setConfigEntry hParams hEntries.1
          hAgrees.holds v
      unfold setConfigEntries at ih ⊢
      rw [List.map_cons, List.foldl_cons,
        Cfg.setConfigEntries]
      cases hNamed : e.named v with
      | false =>
          have hStore :=
            Cfg.setConfigEntry_of_not_named hNamed c
          rw [hStore] at hRel ⊢
          cases hMemory :
              setConfigEntry (paramEntry e) v y.memory with
          | some m => rw [hMemory] at hRel; cases hRel
          | none =>
              exact ih hEntries.2 (by omega) hAgrees
      | true =>
          rcases Cfg.setConfigEntry_of_named hNamed c with
            ⟨c', hStore, -⟩
          rw [if_pos hNamed] at hCount
          rw [hStore] at hRel ⊢
          cases hMemory :
              setConfigEntry (paramEntry e) v y.memory with
          | none => rw [hMemory] at hRel; cases hRel
          | some m =>
              rw [hMemory] at hRel
              have hSmall := hAgrees.small
              have hOne : (1 : BitVec 32) = BitVec.ofNat 32 1 :=
                rfl
              apply ih hEntries.2
              · dsimp only at hCount ⊢
                omega
              · refine ⟨?_, ?_, ?_⟩
                · dsimp only at hSmall ⊢
                  omega
                · dsimp only at hCount ⊢
                  rw [hAgrees.count, hOne,
                    ← BitVec.ofNat_sub_ofNat_of_le]
                  all_goals omega
                · cases hRel with
                  | some hHolds => exact hHolds

/- A value is for one entry at most, if the names differ. -/
theorem countP_named_le_one
    {table : List Entry}
    (hNames : (table.map Entry.param_name).Nodup)
    (v : ConfigValue F) :
    table.countP (fun e => e.named v) ≤ 1 := by
  have hTexts :
      ((table.map Entry.param_name).map
        String.toList).Nodup :=
    hNames.map fun _ _ hSame => String.toList_inj.mp hSame
  have hCount :=
    List.nodup_iff_count_le_one.mp hTexts v.param_name
  rw [List.map_map, List.count, List.countP_map] at hCount
  exact hCount

/- Buffers are read alike. -/
theorem agrees_readLines
    [Zero F]
    {table : List Entry}
    (hParams : (table.map Entry.param).Nodup)
    (hNames : (table.map Entry.param_name).Nodup)
    (atof : List Char → F)
    (bufs : List (List Char))
    {x : Nat × Store F}
    {y : Filling Param F}
    (hAgrees : Agrees table x y) :
    Holds table (Cfg.readLines atof table bufs x)
      (readLoop atof (table.map paramEntry) bufs
        y).filling.memory := by
  induction bufs generalizing x y with
  | nil => exact hAgrees.holds
  | cons buf bufs ih =>
      rcases x with ⟨n, c⟩
      have hZero := hAgrees.num_params_eq_zero_iff
      rw [readLoop]
      cases n with
      | zero =>
          rw [if_pos (hZero.mpr rfl)]
          exact hAgrees.holds
      | succ n =>
          rw [if_neg fun h => Nat.succ_ne_zero n (hZero.mp h)]
          unfold Cfg.readLines
          cases Cfg.parseLine atof buf with
          | none => exact ih hAgrees
          | some v =>
              have hOne := countP_named_le_one hNames v
              apply ih
              apply
                agrees_setConfigEntries hParams
                  (fun _ he => he) v _ hAgrees
              exact hOne.trans (Nat.le_add_left 1 n)

theorem holds_clearValid
    {table : List Entry}
    {c : Store F}
    {m : Memory Param F}
    (hHolds : Holds table c m)
    (cleared : List Entry) :
    Holds table (Cfg.clearValid cleared c)
      (clearValid (cleared.map paramEntry) m) := by
  induction cleared generalizing c m with
  | nil => exact hHolds
  | cons e cleared ih =>
      unfold Cfg.clearValid clearValid at ih ⊢
      rw [List.foldl_cons, List.map_cons, List.foldl_cons]
      cases hSet : e.hasParamSet with
      | false =>
          simp only [paramEntry, hSet]
          exact ih hHolds
      | true =>
          simp only [paramEntry, hSet, if_true]
          apply ih
            (m := ⟨m.val, Function.update m.set e.param false⟩)
          refine ⟨hHolds.val, fun p => ?_⟩
          by_cases hp : p = e.param
          · simp [hp, Store.slot, Store.setValid]
          · simp [hp, Store.slot, Store.setValid,
              hHolds.set p]

/- A file does the same to the store and to the memory. -/
theorem readConfR_holds
    [Zero F]
    {table : List Entry}
    (hParams : (table.map Entry.param).Nodup)
    (hNames : (table.map Entry.param_name).Nodup)
    (hLength : table.length < 2 ^ 32)
    (atof : List Char → F)
    (text : List Char)
    {c : Store F}
    {m : Memory Param F}
    (hHolds : Holds table c m) :
    Holds table (Cfg.readConfR atof table text c)
      (readConfR atof (some text) (table.map paramEntry)
        m).memory := by
  apply agrees_readLines hParams hNames
  refine ⟨hLength, ?_, holds_clearValid hHolds table⟩
  rw [List.length_map]

/- The places of the two records, with what they hold. -/
def storeMemory
    (table : List Entry)
    (c : Store F) : Memory Param F where
  val p :=
    match table.find? fun e => e.param = p with
    | some e => slotValue e (c.slot p)
    | none => .number (c.num p)
  set := c.valid

theorem holds_storeMemory
    {table : List Entry}
    (hParams : (table.map Entry.param).Nodup)
    (c : Store F) :
    Holds table c (storeMemory table c) := by
  refine ⟨fun e he => ?_, fun p => rfl⟩
  cases hFind : table.find? fun e' => e'.param = e.param with
  | none =>
      have hOther := List.find?_eq_none.mp hFind e he
      simp at hOther
  | some e' =>
      have hSame : e'.param = e.param := by
        simpa using List.find?_some hFind
      have hEntry : e' = e :=
        List.inj_on_of_nodup_map hParams
          (List.mem_of_find?_eq_some hFind) he hSame
      simp only [storeMemory, hFind, hEntry]

theorem nodup_names :
    (Cfg.parameterTable.map Entry.param_name).Nodup := by
  decide

/-
  `loc_read_conf_r` for the engine's table, from its store
  in memory to its store in memory.
-/
theorem parameterTable_holds
    [Zero F]
    (atof : List Char → F)
    (text : List Char)
    (c : Store F) :
    Holds Cfg.parameterTable
      (Cfg.readConfR atof Cfg.parameterTable text c)
      (readConfR atof (some text)
        (Cfg.parameterTable.map paramEntry)
        (storeMemory Cfg.parameterTable c)).memory :=
  readConfR_holds Cfg.nodup_params nodup_names
    (by decide) atof text
    (holds_storeMemory Cfg.nodup_params c)

end LocCfg

end D2Common
