import D2Common.Foundations.Search
import D2Common.Cfg.ReadConf

/-
  The flags beside the parameters.

  Each parameter has a slot in the store, and reading a file
  first clears the flags and then writes to the slots that
  the file assigns. Reading a second file therefore forgets
  which flags the first one has set, but not its values.

  Key definitions include:
    * `Slot`
    * `assigned`
    * `Reflects`

  Key theorems include:
    * `slot_readLines`
    * `slot_readConf`
    * `reflects_iff`
    * `flags_reflect_iff`
-/

------------------------------------------------------------
-- Slots
------------------------------------------------------------

namespace D2Common

namespace Cfg

/- All that the store keeps for one parameter. -/
structure Slot (F : Type) where
  num : BitVec 32
  dbl : F
  str : List Char
  valid : Bool

variable {F : Type}

/- The slot of a parameter. -/
def Store.slot
    (c : Store F)
    (p : Param) : Slot F :=
  ⟨c.num p, c.dbl p, c.str p, c.valid p⟩

/- The text that an entry keeps of a string value. -/
def storedString (v : ConfigValue F) : List Char :=
  if v.param_str_value = "NULL".toList then []
  else v.param_str_value.take maxParamString

/- What a value for an entry does to its slot. -/
def Entry.write
    (e : Entry)
    (v : ConfigValue F)
    (x : Slot F) : Slot F :=
  { num :=
      if e.param_type = .number then v.param_int_value
      else x.num
    dbl :=
      if e.param_type = .float then v.param_double_value
      else x.dbl
    str :=
      if e.param_type = .string then storedString v
      else x.str
    valid := e.hasParamSet || x.valid }

/- A value is written to its own slot only. -/
theorem setConfigEntry_of_named
    {e : Entry}
    {v : ConfigValue F}
    (hNamed : e.named v = true)
    (c : Store F) :
    ∃ c', setConfigEntry e v c = some c' ∧
      ∀ p, c'.slot p =
        if p = e.param then e.write v (c.slot p)
        else c.slot p := by
  unfold setConfigEntry
  rw [if_pos hNamed]
  refine ⟨_, rfl, ?_⟩
  intro p
  by_cases hp : p = e.param
  · rw [if_pos hp]
    cases hType : e.param_type <;>
      cases hSet : e.hasParamSet <;>
        simp [Store.slot, Entry.write, storedString,
          Store.setNum, Store.setDbl, Store.setStr,
          Store.setValid, hType, hSet, hp]
  · rw [if_neg hp]
    cases e.param_type <;> cases e.hasParamSet <;>
      simp [Store.slot, Store.setNum, Store.setDbl,
        Store.setStr, Store.setValid, hp]

theorem setConfigEntry_of_not_named
    {e : Entry}
    {v : ConfigValue F}
    (hNamed : e.named v = false)
    (c : Store F) :
    setConfigEntry e v c = none := by
  simp [setConfigEntry, hNamed]

/- Slots of parameters that are not in the table stay. -/
theorem slot_setConfigEntries_of_not_mem
    {table : List Entry}
    {p : Param}
    (hp : p ∉ table.map Entry.param)
    (v : ConfigValue F)
    (x : Nat × Store F) :
    (setConfigEntries table v x).2.slot p = x.2.slot p := by
  induction table generalizing x with
  | nil => rfl
  | cons e table ih =>
      rcases x with ⟨n, c⟩
      simp only [List.map_cons, List.mem_cons,
        not_or] at hp
      cases hNamed : e.named v with
      | true =>
          rcases setConfigEntry_of_named hNamed c with
            ⟨c', hSet, hSlot⟩
          simp only [setConfigEntries, hSet]
          rw [ih hp.2, hSlot p, if_neg hp.1]
      | false =>
          simp only [setConfigEntries,
            setConfigEntry_of_not_named hNamed]
          exact ih hp.2 (n, c)

/- One value, as a slot of the table sees it. -/
theorem slot_setConfigEntries
    {table : List Entry}
    (hParams : (table.map Entry.param).Nodup)
    {e : Entry}
    (he : e ∈ table)
    (v : ConfigValue F)
    (x : Nat × Store F) :
    (setConfigEntries table v x).2.slot e.param =
      if e.named v then e.write v (x.2.slot e.param)
      else x.2.slot e.param := by
  induction table generalizing x with
  | nil => simp at he
  | cons e' table ih =>
      rcases x with ⟨n, c⟩
      rw [List.map_cons, List.nodup_cons] at hParams
      rcases List.mem_cons.mp he with rfl | he
      · cases hNamed : e.named v with
        | true =>
            rcases setConfigEntry_of_named hNamed c with
              ⟨c', hSet, hSlot⟩
            simp only [setConfigEntries, hSet]
            rw [slot_setConfigEntries_of_not_mem hParams.1,
              hSlot e.param]
            simp
        | false =>
            simp only [setConfigEntries,
              setConfigEntry_of_not_named hNamed]
            rw [slot_setConfigEntries_of_not_mem hParams.1]
            simp
      · have hOther : e.param ≠ e'.param := by
          intro hSame
          exact hParams.1
            (hSame ▸ List.mem_map_of_mem he)
        cases hNamed : e'.named v with
        | true =>
            rcases setConfigEntry_of_named hNamed c with
              ⟨c', hSet, hSlot⟩
            simp only [setConfigEntries, hSet]
            rw [ih hParams.2 he, hSlot e.param,
              if_neg hOther]
        | false =>
            simp only [setConfigEntries,
              setConfigEntry_of_not_named hNamed]
            exact ih hParams.2 he (n, c)

/- The count goes down by one for every entry set. -/
theorem fst_setConfigEntries
    (table : List Entry)
    (v : ConfigValue F)
    (x : Nat × Store F) :
    (setConfigEntries table v x).1 =
      x.1 - table.countP fun e => e.named v := by
  induction table generalizing x with
  | nil => rfl
  | cons e table ih =>
      rcases x with ⟨n, c⟩
      rw [List.countP_cons]
      cases hNamed : e.named v with
      | true =>
          rcases setConfigEntry_of_named hNamed c with
            ⟨c', hSet, -⟩
          simp only [setConfigEntries, hSet, ih, if_true]
          omega
      | false =>
          simp only [setConfigEntries,
            setConfigEntry_of_not_named hNamed, ih]
          simp

/- Clearing the flags leaves the values. -/
theorem slot_clearValid
    (table : List Entry)
    (c : Store F)
    (p : Param) :
    (clearValid table c).slot p =
      { c.slot p with
        valid :=
          c.valid p && !table.any fun e =>
            e.hasParamSet && e.param == p } := by
  induction table generalizing c with
  | nil => simp [clearValid, Store.slot]
  | cons e table ih =>
      unfold clearValid at ih ⊢
      rw [List.foldl_cons, ih, List.any_cons]
      cases hSet : e.hasParamSet with
      | false => simp
      | true =>
          by_cases hp : p = e.param
          · simp [Store.slot, Store.setValid, hp]
          · have hBeq : (e.param == p) = false := by
              simpa using Ne.symm hp
            simp [Store.slot, Store.setValid, hp, hBeq]

theorem slot_clearValid_of_mem
    {table : List Entry}
    {e : Entry}
    (he : e ∈ table)
    (hSet : e.hasParamSet = true)
    (c : Store F) :
    (clearValid table c).slot e.param =
      { c.slot e.param with valid := false } := by
  have hAny :
      table.any
        (fun e' => e'.hasParamSet && e'.param == e.param) =
          true :=
    List.any_eq_true.mpr ⟨e, he, by simp [hSet]⟩
  rw [slot_clearValid, hAny]
  simp

end Cfg

end D2Common

------------------------------------------------------------
-- The Loop
------------------------------------------------------------

namespace D2Common

namespace Cfg

variable {F : Type}

/- How often the entries of a table are still assigned. -/
def assignments
    (table : List Entry)
    (vs : List (ConfigValue F)) : Nat :=
  (table.map fun e => vs.countP e.named).sum

theorem assignments_cons
    (table : List Entry)
    (v : ConfigValue F)
    (vs : List (ConfigValue F)) :
    assignments table (v :: vs) =
      assignments table vs +
        table.countP fun e => e.named v := by
  induction table with
  | nil => rfl
  | cons e table ih =>
      unfold assignments at ih ⊢
      rw [List.map_cons, List.map_cons, List.sum_cons,
        List.sum_cons, ih, List.countP_cons,
        List.countP_cons]
      omega

/- Without repetitions there are not more than entries. -/
theorem assignments_le_length
    {table : List Entry}
    {vs : List (ConfigValue F)}
    (hOnce : ∀ e ∈ table, vs.countP e.named ≤ 1) :
    assignments table vs ≤ table.length := by
  induction table with
  | nil => exact le_rfl
  | cons e table ih =>
      have hFirst := hOnce e (by simp)
      have hRest := ih fun e' he' => hOnce e' (by simp [he'])
      unfold assignments at hRest ⊢
      rw [List.map_cons, List.sum_cons, List.length_cons]
      omega

/- One value, as one entry sees it. -/
def Entry.receive
    (e : Entry)
    (x : Slot F)
    (v : ConfigValue F) : Slot F :=
  if e.named v then e.write v x else x

/- Values for other entries are nothing to an entry. -/
theorem foldl_receive_of_not_named
    {e : Entry}
    {vs : List (ConfigValue F)}
    (hNone : ∀ v ∈ vs, e.named v = false)
    (x : Slot F) :
    vs.foldl e.receive x = x := by
  induction vs with
  | nil => rfl
  | cons v vs ih =>
      rw [List.foldl_cons, Entry.receive,
        hNone v (by simp)]
      exact ih fun w hw => hNone w (by simp [hw])

/-
  The count allows for all the assignments to come, so the
  loop ends with the file or when nothing is left to assign.
-/
theorem slot_readLines
    [Zero F]
    (atof : List Char → F)
    {table : List Entry}
    (hParams : (table.map Entry.param).Nodup)
    {e : Entry}
    (he : e ∈ table)
    (bufs : List (List Char))
    (x : Nat × Store F)
    (hEnough :
      assignments table (bufs.filterMap (parseLine atof)) ≤
        x.1) :
    (readLines atof table bufs x).slot e.param =
      (bufs.filterMap (parseLine atof)).foldl e.receive
        (x.2.slot e.param) := by
  induction bufs generalizing x with
  | nil => rfl
  | cons buf bufs ih =>
      rcases x with ⟨_ | n, c⟩
      · -- Nothing is left to assign.
        have hZero := Nat.le_zero.mp hEnough
        have hCount :
            ((buf :: bufs).filterMap
              (parseLine atof)).countP e.named = 0 :=
          List.sum_eq_zero_iff_forall_eq_nat.mp hZero _
            (List.mem_map_of_mem he)
        rw [foldl_receive_of_not_named]
        · rfl
        · intro v hv
          simpa using List.countP_eq_zero.mp hCount v hv
      · cases hParse : parseLine atof buf with
        | none =>
            simp only [readLines, hParse]
            rw [List.filterMap_cons_none hParse]
              at hEnough ⊢
            exact ih (n + 1, c) hEnough
        | some v =>
            simp only [readLines, hParse]
            rw [List.filterMap_cons_some hParse]
              at hEnough ⊢
            rw [assignments_cons] at hEnough
            have hRest :
                assignments table
                    (bufs.filterMap (parseLine atof)) ≤
                  (setConfigEntries table v (n + 1, c)).1 := by
              rw [fst_setConfigEntries]
              dsimp only at hEnough ⊢
              omega
            rw [ih _ hRest, slot_setConfigEntries hParams he,
              List.foldl_cons]
            rfl

/- At most one value for an entry is its first one. -/
theorem foldl_receive_of_once
    {e : Entry}
    {vs : List (ConfigValue F)}
    (hOnce : vs.countP e.named ≤ 1)
    (x : Slot F) :
    vs.foldl e.receive x =
      match vs.find? e.named with
      | some v => e.write v x
      | none => x := by
  induction vs with
  | nil => rfl
  | cons v vs ih =>
      rw [List.countP_cons] at hOnce
      rw [List.foldl_cons, List.find?_cons, Entry.receive]
      cases hNamed : e.named v with
      | true =>
          rw [hNamed] at hOnce
          have hNone : vs.countP e.named = 0 := by
            simpa using hOnce
          rw [foldl_receive_of_not_named]
          · rfl
          · intro w hw
            simpa using List.countP_eq_zero.mp hNone w hw
      | false =>
          exact ih (by simpa [hNamed] using hOnce)

end Cfg

end D2Common

------------------------------------------------------------
-- Files
------------------------------------------------------------

namespace D2Common

namespace Cfg

variable {F : Type} [Zero F]

/- The values that the lines of a file have. -/
def values
    (atof : List Char → F)
    (text : List Char) : List (ConfigValue F) :=
  (lines text).filterMap (parseLine atof)

/- No parameter of the table is assigned twice. -/
def Unrepeated
    (atof : List Char → F)
    (text : List Char) : Prop :=
  ∀ e ∈ parameterTable,
    (values atof text).countP e.named ≤ 1

/- The value that a file assigns to an entry. -/
def assigned
    (atof : List Char → F)
    (text : List Char)
    (e : Entry) : Option (ConfigValue F) :=
  (values atof text).find? e.named

/- A file that is read line by line, each name once. -/
structure Readable
    (atof : List Char → F)
    (text : List Char) : Prop where
  short : ShortLines text
  once : Unrepeated atof text

theorem nodup_params :
    (parameterTable.map Entry.param).Nodup := by
  decide

/- What reading a file does to the slot of a parameter. -/
theorem slot_readConf
    {atof : List Char → F}
    {text : List Char}
    (hText : Readable atof text)
    {e : Entry}
    (he : e ∈ parameterTable)
    (hSet : e.hasParamSet = true)
    (c : Store F) :
    (readConf atof (some text) parameterTable c).slot
        e.param =
      match assigned atof text e with
      | some v => e.write v (c.slot e.param)
      | none => { c.slot e.param with valid := false } := by
  have hRead :
      readConf atof (some text) parameterTable c =
        readLines atof parameterTable (lines text)
          (parameterTable.length,
            clearValid parameterTable c) := by
    unfold readConf readConfR
    dsimp only
    rw [fgetsAll_eq_lines hText.short]
    rfl
  rw [hRead, slot_readLines atof nodup_params he]
  · change (values atof text).foldl _ _ = _
    rw [foldl_receive_of_once (hText.once e he)]
    unfold assigned
    cases (values atof text).find? e.named with
    | none => exact slot_clearValid_of_mem he hSet c
    | some v =>
        dsimp only
        rw [slot_clearValid_of_mem he hSet]
        simp [Entry.write, hSet]
  · exact assignments_le_length hText.once

end Cfg

end D2Common

------------------------------------------------------------
-- Both Files
------------------------------------------------------------

namespace D2Common

namespace Cfg

variable {F : Type}

/- The place for a value of an entry's type holds it. -/
def Stored
    (e : Entry)
    (v : ConfigValue F)
    (c : Store F) : Prop :=
  match e.param_type with
  | .number => c.num e.param = v.param_int_value
  | .float => c.dbl e.param = v.param_double_value
  | .string => c.str e.param = storedString v

theorem stored_of_slot
    {e : Entry}
    {v : ConfigValue F}
    {x : Slot F}
    {c : Store F}
    (hSlot : c.slot e.param = e.write v x) :
    Stored e v c := by
  have hNum := congrArg Slot.num hSlot
  have hDbl := congrArg Slot.dbl hSlot
  have hStr := congrArg Slot.str hSlot
  unfold Stored
  cases hType : e.param_type with
  | number => simpa [Store.slot, Entry.write, hType] using hNum
  | float => simpa [Store.slot, Entry.write, hType] using hDbl
  | string => simpa [Store.slot, Entry.write, hType] using hStr

variable [Zero F]

/-
  The law: the flag of a parameter is set if and only if one
  of the files assigns it, and then its value is that of the
  last file that does.
-/
structure Reflects
    (atof : List Char → F)
    (gpsConf sapConf : List Char)
    (e : Entry)
    (c : Store F) : Prop where
  flag :
    c.valid e.param = true ↔
      (assigned atof gpsConf e).isSome = true ∨
        (assigned atof sapConf e).isSome = true
  value :
    ∀ v,
      (assigned atof sapConf e).or
          (assigned atof gpsConf e) = some v →
        Stored e v c

/- The value that reading both files leaves in a slot. -/
theorem reflects_iff
    {atof : List Char → F}
    {gpsConf sapConf : List Char}
    (hGps : Readable atof gpsConf)
    (hSap : Readable atof sapConf)
    {e : Entry}
    (he : e ∈ parameterTable)
    (hSet : e.hasParamSet = true)
    (c : Store F) :
    Reflects atof gpsConf sapConf e
        (readConf atof (some sapConf) parameterTable
          (readConf atof (some gpsConf) parameterTable c)) ↔
      ((assigned atof gpsConf e).isSome = true →
        (assigned atof sapConf e).isSome = true) := by
  have hFirst := slot_readConf hGps he hSet c
  have hSecond :=
    slot_readConf hSap he hSet
      (readConf atof (some gpsConf) parameterTable c)
  cases hs : assigned atof sapConf e with
  | some v =>
      rw [hs] at hSecond
      have hValid := congrArg Slot.valid hSecond
      refine iff_of_true ⟨?_, ?_⟩ (by simp)
      · simpa [hs, Store.slot, Entry.write, hSet] using hValid
      · intro w hw
        rw [hs, Option.some_or] at hw
        rw [← Option.some.inj hw]
        exact stored_of_slot hSecond
  | none =>
      rw [hs] at hSecond
      have hValid := congrArg Slot.valid hSecond
      cases hg : assigned atof gpsConf e with
      | none =>
          refine iff_of_true ⟨?_, ?_⟩ (by simp)
          · simpa [hs, hg, Store.slot] using hValid
          · intro w hw
            simp [hs, hg] at hw
      | some v =>
          -- The flag that the first file set is lost.
          refine iff_of_false ?_ (by simp)
          intro hReflects
          have hFlag := hReflects.flag.mpr (Or.inl (by simp [hg]))
          simp [Store.slot, hFlag] at hValid

/-
  All flags reflect both files if and only if the second
  file assigns every flagged parameter that the first does.
-/
theorem flags_reflect_iff
    (atof : List Char → F)
    (gpsConf sapConf : List Char)
    (hGps : Readable atof gpsConf)
    (hSap : Readable atof sapConf)
    (s : Config F)
    (hFirst : s.configAlreadyRead = false) :
    (∀ e ∈ parameterTable, e.hasParamSet = true →
      Reflects atof gpsConf sapConf e
        (readConfig atof (some gpsConf) (some sapConf)
          s).conf) ↔
      ∀ e ∈ parameterTable, e.hasParamSet = true →
        (assigned atof gpsConf e).isSome = true →
          (assigned atof sapConf e).isSome = true := by
  have hRead :
      (readConfig atof (some gpsConf) (some sapConf) s).conf =
        readConf atof (some sapConf) parameterTable
          (readConf atof (some gpsConf) parameterTable
            (defaultParameters s.conf)) := by
    simp [readConfig, hFirst]
  rw [hRead]
  constructor
  · intro hAll e he hSet
    exact (reflects_iff hGps hSap he hSet _).mp
      (hAll e he hSet)
  · intro hBoth e he hSet
    exact (reflects_iff hGps hSap he hSet _).mpr
      (hBoth e he hSet)

/- Later calls leave the configuration as it is. -/
theorem readConfig_readConfig
    (atof : List Char → F)
    (gpsConf sapConf gpsConf' sapConf' : Option (List Char))
    (s : Config F) :
    readConfig atof gpsConf' sapConf'
        (readConfig atof gpsConf sapConf s) =
      readConfig atof gpsConf sapConf s := by
  unfold readConfig
  cases hRead : s.configAlreadyRead <;> simp [hRead]

instance (text : List Char) : Decidable (ShortLines text) :=
  inferInstanceAs
    (Decidable
      (∀ line ∈ lines text, line.length < maxParamLine))

instance
    (atof : List Char → F)
    (text : List Char) : Decidable (Unrepeated atof text) :=
  inferInstanceAs
    (Decidable
      (∀ e ∈ parameterTable,
        (values atof text).countP e.named ≤ 1))

/- A file with one value repeats none. -/
theorem unrepeated_of_length_le_one
    {atof : List Char → F}
    {text : List Char}
    (hOne : (values atof text).length ≤ 1) :
    Unrepeated atof text :=
  fun _ _ => List.countP_le_length.trans hOne

/- A file that assigns one of the flagged parameters. -/
def walkConf : List Char :=
  "GYRO_BIAS_RANDOM_WALK=2\n".toList

/- Decimals without a fraction. -/
def wholeAtof (s : List Char) : Int := strtol s 10

/- The entry of that parameter. -/
def walkEntry : Entry :=
  ⟨.gyroBiasRandomWalk, "GYRO_BIAS_RANDOM_WALK", true, .float⟩

/- A store before anything has been read. -/
def unread : Config Int :=
  ⟨false, fun _ => 0, fun _ => 0, fun _ => [], fun _ => false⟩

theorem readable_walkConf : Readable wholeAtof walkConf :=
  ⟨by decide, unrepeated_of_length_le_one (by decide)⟩

theorem readable_nil : Readable wholeAtof [] :=
  ⟨by decide, unrepeated_of_length_le_one (by decide)⟩

theorem flags_reflect_iff_sapConf :
    (∀ e ∈ parameterTable, e.hasParamSet = true →
      Reflects wholeAtof [] walkConf e
        (readConfig wholeAtof (some []) (some walkConf)
          unread).conf) ↔
      ∀ e ∈ parameterTable, e.hasParamSet = true →
        (assigned wholeAtof [] e).isSome = true →
          (assigned wholeAtof walkConf e).isSome = true :=
  flags_reflect_iff wholeAtof [] walkConf readable_nil
    readable_walkConf unread rfl

theorem gpsConf_flag_lost :
    ¬ (Readable wholeAtof walkConf →
        Readable wholeAtof [] →
          ∀ e ∈ parameterTable, e.hasParamSet = true →
            Reflects wholeAtof walkConf [] e
              (readConfig wholeAtof (some walkConf) (some [])
                unread).conf) := by
  intro hAll
  have hReflects :=
    hAll readable_walkConf readable_nil walkEntry
      (by simp [parameterTable, walkEntry]) rfl
  have hFlag :=
    hReflects.flag.mpr (Or.inl (by decide))
  exact absurd hFlag (by decide)

end Cfg

end D2Common
