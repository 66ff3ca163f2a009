import Mathlib.Data.List.Basic
import Mathlib.Data.List.DropRight
import D2Common.Cfg.ReadConf

/-
  Strings that are worked on in place.

  `loc_util_split_string` puts terminators in the place of
  delimiters and writes pointers to the fields between them.
  `loc_util_trim_space` moves a string to the left over the
  white space in front of it. The memory behind a pointer is
  a list of characters, and pointers are positions in it. An
  `int` counts every object of the target.

  Key definitions include:
    * `HoldsString`
    * `splitString`
    * `trimSpaceInPlace`

  Key theorems include:
    * `splitString_fields`
    * `trimSpaceInPlace_eq`
    * `trimSpaceInPlace_refines`
-/

------------------------------------------------------------
-- Splitting a String
------------------------------------------------------------

namespace D2Common

namespace MiscUtils

/- Memory that starts with a string and its terminator. -/
def HoldsString (mem text : List Char) : Prop :=
  '\x00' ∉ text ∧ text ++ ['\x00'] <+: mem

instance (mem text : List Char) :
    Decidable (HoldsString mem text) :=
  inferInstanceAs
    (Decidable ('\x00' ∉ text ∧ text ++ ['\x00'] <+: mem))

/-
  What `loc_util_split_string` works on: the string, how
  many fields have ended, and each write to the array of
  pointers, as its index and the pointer.
-/
structure Split where
  raw_string : List Char
  num_split_strings : Nat
  split_strings_ptr : List (Nat × Nat)
deriving DecidableEq

/-
  The `for` loop, with the number of turns left: the index
  ends at `raw_string_length`.
-/
def splitLoop
    (max_num_substrings : Int)
    (delimiter : Char)
    (raw_string_length : Nat) :
    Nat → Nat → Split → Split
| 0, _, x => x
| left + 1, raw_string_index, x =>
    let c := x.raw_string.getD raw_string_index '\x00'
    if c = '\x00' ∨ c = delimiter then
      let num_split_strings := x.num_split_strings + 1
      let ended :=
        { x with
          raw_string := x.raw_string.set raw_string_index '\x00'
          num_split_strings := num_split_strings }
      if raw_string_index + 1 < raw_string_length ∧
          num_split_strings < max_num_substrings then
        let next :=
          { ended with
            split_strings_ptr :=
              x.split_strings_ptr ++
                [(num_split_strings, raw_string_index + 1)] }
        if c = '\x00' then next
        else
          splitLoop max_num_substrings delimiter
            raw_string_length left (raw_string_index + 1) next
      else ended
    else
      splitLoop max_num_substrings delimiter
        raw_string_length left (raw_string_index + 1) x

/- `loc_util_split_string`, whose result is the count. -/
def splitString
    (raw_string : List Char)
    (max_num_substrings : Int)
    (delimiter : Char) : Split :=
  let raw_string_length := (Cfg.cString raw_string).length + 1
  splitLoop max_num_substrings delimiter raw_string_length
    raw_string_length 0 ⟨raw_string, 0, [(0, 0)]⟩

end MiscUtils

end D2Common

------------------------------------------------------------
-- Fields Between Delimiters
------------------------------------------------------------

namespace D2Common

namespace MiscUtils

/- Pointers to fields that follow each other in memory. -/
def pointers :
    Nat → Nat → List (List Char) → List (Nat × Nat)
| _, _, [] => []
| index, ptr, field :: fields =>
    (index, ptr) ::
      pointers (index + 1) (ptr + field.length + 1) fields

@[simp] theorem map_fst_pointers
    (index ptr : Nat)
    (fields : List (List Char)) :
    (pointers index ptr fields).map Prod.fst =
      List.range' index fields.length := by
  induction fields generalizing index ptr with
  | nil => rfl
  | cons field fields ih =>
      simp [pointers, ih, List.range'_succ]

/- Fields with a terminator each, one after the other. -/
def terminated (fields : List (List Char)) : List Char :=
  fields.flatMap (· ++ ['\x00'])

/- Every pointer is one to its own field. -/
theorem prefix_of_mem_pointers
    {fields : List (List Char)}
    (before tail : List Char)
    {first index ptr : Nat}
    (hMem :
      (index, ptr) ∈ pointers first before.length fields) :
    first ≤ index ∧
      ∃ field, fields[index - first]? = some field ∧
        field ++ ['\x00'] <+:
          (before ++ terminated fields ++ tail).drop ptr := by
  induction fields generalizing before first with
  | nil => cases hMem
  | cons field fields ih =>
      rcases List.mem_cons.mp hMem with hHere | hLater
      · cases hHere
        refine ⟨le_rfl, field, by simp, ?_⟩
        rw [List.append_assoc, List.drop_left]
        exact ⟨terminated fields ++ tail, by
          simp [terminated]⟩
      · have hNext :
            before.length + field.length + 1 =
              (before ++ field ++ ['\x00']).length := by
          simp
          omega
        rw [hNext] at hLater
        rcases ih (before ++ field ++ ['\x00']) hLater with
          ⟨hIndex, field', hField, hPrefix⟩
        refine ⟨by omega, field', ?_, ?_⟩
        · rw [show index - first = index - (first + 1) + 1 by
            omega]
          simpa using hField
        · simpa [terminated] using hPrefix

/- The loop passes what is no delimiter. -/
theorem splitLoop_skip
    {max_num_substrings : Int}
    {delimiter : Char}
    {field : List Char}
    (hDelimiter : delimiter ∉ field)
    (hText : '\x00' ∉ field)
    (raw_string_length left : Nat)
    (before tail : List Char)
    (x : Split)
    (hRaw : x.raw_string = before ++ (field ++ tail)) :
    splitLoop max_num_substrings delimiter raw_string_length
        (field.length + left) before.length x =
      splitLoop max_num_substrings delimiter
        raw_string_length left
        (before ++ field).length x := by
  induction field generalizing before with
  | nil => simp
  | cons c field ih =>
      simp only [List.mem_cons, not_or] at hDelimiter hText
      have hAt :
          x.raw_string.getD before.length '\x00' = c := by
        rw [hRaw]
        simp
      have hNext :
          x.raw_string = before ++ [c] ++ (field ++ tail) := by
        rw [hRaw]
        simp
      rw [List.length_cons, Nat.add_right_comm]
      simp only [splitLoop, hAt]
      rw [if_neg (by
        rintro (rfl | rfl)
        · exact hText.1 rfl
        · exact hDelimiter.1 rfl)]
      have hRest :=
        ih hDelimiter.2 hText.2 (before ++ [c]) hNext
      rw [List.length_append, List.length_singleton] at hRest
      rw [hRest]
      simp

/- A delimiter ends a field, and may start the next one. -/
theorem splitLoop_delimiter
    {max_num_substrings : Int}
    {delimiter : Char}
    (hNul : delimiter ≠ '\x00')
    (raw_string_length left num : Nat)
    (before tail : List Char)
    (written : List (Nat × Nat))
    (hInside : before.length + 1 < raw_string_length) :
    splitLoop max_num_substrings delimiter raw_string_length
        (left + 1) before.length
        ⟨before ++ delimiter :: tail, num, written⟩ =
      if ((num + 1 : Nat) : Int) < max_num_substrings then
        splitLoop max_num_substrings delimiter
          raw_string_length left
          (before ++ ['\x00']).length
          ⟨before ++ ['\x00'] ++ tail, num + 1,
            written ++
              [(num + 1, (before ++ ['\x00']).length)]⟩
      else
        ⟨before ++ ['\x00'] ++ tail, num + 1, written⟩ := by
  have hAt :
      (before ++ delimiter :: tail).getD before.length
        '\x00' = delimiter := by
    simp
  have hSet :
      (before ++ delimiter :: tail).set before.length '\x00' =
        before ++ ['\x00'] ++ tail := by
    simp
  simp only [splitLoop, hAt, hSet]
  rw [if_pos (Or.inr trivial), if_neg hNul]
  by_cases hRoom : ((num + 1 : Nat) : Int) < max_num_substrings
  · rw [if_pos ⟨hInside, hRoom⟩, if_pos hRoom,
      List.length_append, List.length_singleton]
  · rw [if_neg (fun h => hRoom h.2), if_neg hRoom]

/- From the start of a field to that of the next one. -/
theorem splitLoop_field
    {max_num_substrings : Int}
    {delimiter : Char}
    (hNul : delimiter ≠ '\x00')
    {field : List Char}
    (hDelimiter : delimiter ∉ field)
    (hText : '\x00' ∉ field)
    (raw_string_length left num : Nat)
    (before tail : List Char)
    (written : List (Nat × Nat))
    (hInside :
      (before ++ field).length + 1 < raw_string_length) :
    splitLoop max_num_substrings delimiter raw_string_length
        (field.length + (left + 1)) before.length
        ⟨before ++ (field ++ delimiter :: tail), num,
          written⟩ =
      if ((num + 1 : Nat) : Int) < max_num_substrings then
        splitLoop max_num_substrings delimiter
          raw_string_length left
          (before ++ field ++ ['\x00']).length
          ⟨before ++ field ++ ['\x00'] ++ tail, num + 1,
            written ++
              [(num + 1,
                (before ++ field ++ ['\x00']).length)]⟩
      else
        ⟨before ++ field ++ ['\x00'] ++ tail, num + 1,
          written⟩ := by
  rw [splitLoop_skip hDelimiter hText _ _ before
      (delimiter :: tail) _ rfl,
    ← splitLoop_delimiter hNul _ left num (before ++ field)
      tail written hInside,
    List.append_assoc before field]

/-
  From the start of a field on, with its pointer written:
  the fields are ended one by one, as far as there is room
  for their pointers.
-/
theorem splitLoop_fields
    {max_num_substrings : Int}
    {delimiter : Char}
    (hNul : delimiter ≠ '\x00')
    {fields : List (List Char)}
    (hSome : fields ≠ [])
    (hFields :
      ∀ field ∈ fields, delimiter ∉ field ∧ '\x00' ∉ field)
    (before rest : List Char)
    (num : Nat)
    (written : List (Nat × Nat))
    (hRoom : (num : Int) < max_num_substrings) :
    let text := [delimiter].intercalate fields
    let count :=
      min (max_num_substrings - num).toNat fields.length
    let r :=
      splitLoop max_num_substrings delimiter
        (before.length + text.length + 1) (text.length + 1)
        before.length
        ⟨before ++ (text ++ '\x00' :: rest), num,
          written ++ [(num, before.length)]⟩
    (∃ tail,
      r.raw_string =
        before ++ terminated (fields.take count) ++ tail) ∧
      r.num_split_strings = num + count ∧
        r.split_strings_ptr =
          written ++
            pointers num before.length
              (fields.take count) := by
  induction fields generalizing before num written with
  | nil => exact absurd rfl hSome
  | cons field fields ih =>
      rcases hFields field List.mem_cons_self with
        ⟨hDelimiter, hText⟩
      cases fields with
      | nil =>
          -- the terminator of the string ends the last field
          have hOne :
              min (max_num_substrings - num).toNat
                [field].length = 1 := by
            simp only [List.length_singleton]
            omega
          simp only [hOne, List.intercalate_singleton]
          rw [splitLoop_skip hDelimiter hText _ 1 before
            ('\x00' :: rest) _ rfl]
          simp only [splitLoop]
          rw [if_pos (by simp), if_neg (by simp)]
          simp [terminated, pointers]
      | cons next fields =>
          have hRest :
              ∀ f ∈ next :: fields,
                delimiter ∉ f ∧ '\x00' ∉ f :=
            fun f hf => hFields f (List.mem_cons_of_mem _ hf)
          simp only [List.intercalate_cons_cons,
            List.append_assoc, List.singleton_append]
          have hTail :=
            ih (List.cons_ne_nil next fields) hRest
              (before ++ field ++ ['\x00']) (num + 1)
              (written ++ [(num, before.length)])
          generalize
            [delimiter].intercalate (next :: fields) = text
              at hTail ⊢
          have hLeft :
              (field ++ delimiter :: text).length + 1 =
                field.length + (text.length + 1 + 1) := by
            simp
            omega
          have hLength :
              before.length +
                  (field ++ delimiter :: text).length + 1 =
                (before ++ field ++ ['\x00']).length +
                  text.length + 1 := by
            simp
            omega
          rw [hLeft, hLength, List.cons_append,
            splitLoop_field hNul hDelimiter hText _ _ num
              before (text ++ '\x00' :: rest) _
              (by simp; omega)]
          by_cases hNext :
              ((num + 1 : Nat) : Int) < max_num_substrings
          · rw [if_pos hNext]
            rcases hTail hNext with
              ⟨⟨tail, hRaw⟩, hNum, hPtr⟩
            have hCount :
                min (max_num_substrings - num).toNat
                    (field :: next :: fields).length =
                  min (max_num_substrings -
                      (num + 1 : Nat)).toNat
                    (next :: fields).length + 1 := by
              simp only [List.length_cons]
              omega
            rw [hRaw, hNum, hPtr, hCount, List.take_succ_cons]
            refine ⟨⟨tail, by simp [terminated]⟩, by omega, ?_⟩
            simp [pointers, Nat.add_assoc]
          · rw [if_neg hNext]
            have hCount :
                min (max_num_substrings - num).toNat
                  (field :: next :: fields).length = 1 := by
              simp only [List.length_cons]
              omega
            rw [hCount]
            exact
              ⟨⟨text ++ '\x00' :: rest, by simp [terminated]⟩,
                rfl, by simp [pointers]⟩

/- The string at the start of a memory that holds it. -/
theorem cString_append
    {text : List Char}
    (hText : '\x00' ∉ text)
    (rest : List Char) :
    Cfg.cString (text ++ '\x00' :: rest) = text := by
  unfold Cfg.cString
  rw [List.takeWhile_append_of_pos]
  · simp
  · intro c hc
    have hNe : c ≠ '\x00' := by
      rintro rfl
      exact hText hc
    simpa using hNe

/- A field has no delimiter, and only text of the whole. -/
theorem field_of_mem_splitOn
    (delimiter : Char)
    (text : List Char) :
    ∀ field ∈ text.splitOn delimiter,
      delimiter ∉ field ∧ ∀ c ∈ field, c ∈ text := by
  induction text with
  | nil => simp
  | cons c text ih =>
      rw [List.splitOn_cons_eq_if_modifyHead]
      split
      · intro field hField
        rcases List.mem_cons.mp hField with rfl | hField
        · simp
        · rcases ih field hField with ⟨hNot, hSub⟩
          exact
            ⟨hNot, fun a ha => List.mem_cons_of_mem c (hSub a ha)⟩
      · next hOther =>
          have hNe : delimiter ≠ c := by
            rintro rfl
            exact hOther (by simp)
          cases hFields : text.splitOn delimiter with
          | nil =>
              exact absurd hFields
                (List.splitOn_ne_nil delimiter text)
          | cons first fields =>
              rw [hFields] at ih
              intro field hField
              rcases List.mem_cons.mp hField with rfl | hField
              · rcases ih first List.mem_cons_self with
                  ⟨hNot, hSub⟩
                constructor
                · simp [hNe, hNot]
                · intro a ha
                  rcases List.mem_cons.mp ha with rfl | ha
                  · exact List.mem_cons_self
                  · exact List.mem_cons_of_mem c (hSub a ha)
              · rcases ih field (List.mem_cons_of_mem _ hField)
                  with ⟨hNot, hSub⟩
                exact
                  ⟨hNot, fun a ha =>
                    List.mem_cons_of_mem c (hSub a ha)⟩

theorem length_splitOn
    (delimiter : Char)
    (text : List Char) :
    (text.splitOn delimiter).length =
      text.count delimiter + 1 := by
  induction text with
  | nil => rfl
  | cons c text ih =>
      rw [List.splitOn_cons_eq_if_modifyHead, List.count_cons]
      split
      · simp [ih]
      · simp [ih]

/-
  Every string is split into its fields: as many as there
  are, or as the caller has room for, each with a pointer to
  it and a terminator behind it.
-/
theorem splitString_fields
    (text rest : List Char)
    (delimiter : Char)
    (max_num_substrings : Int)
    (hText : '\x00' ∉ text)
    (hNul : delimiter ≠ '\x00')
    (hMax : 1 ≤ max_num_substrings) :
    let r :=
      splitString (text ++ '\x00' :: rest) max_num_substrings
        delimiter
    (r.num_split_strings : Int) =
        min max_num_substrings (text.count delimiter + 1) ∧
      r.split_strings_ptr.map Prod.fst =
        List.range r.num_split_strings ∧
      ∀ index ptr, (index, ptr) ∈ r.split_strings_ptr →
        ∃ field,
          (text.splitOn delimiter)[index]? = some field ∧
            HoldsString (r.raw_string.drop ptr) field := by
  intro r
  have hRoom : ((0 : Nat) : Int) < max_num_substrings := by
    omega
  have hRun :=
    splitLoop_fields hNul (List.splitOn_ne_nil delimiter text)
      (fun field hField =>
        have hOf := field_of_mem_splitOn delimiter text field
          hField
        ⟨hOf.1, fun hIn => hText (hOf.2 _ hIn)⟩)
      [] rest 0 [] hRoom
  rw [List.intercalate_splitOn] at hRun
  simp only [List.length_nil, Nat.zero_add,
    List.nil_append] at hRun
  have hr : r =
      splitLoop max_num_substrings delimiter
        (text.length + 1) (text.length + 1) 0
        ⟨text ++ '\x00' :: rest, 0, [(0, 0)]⟩ := by
    simp only [r, splitString, cString_append hText]
  rw [← hr] at hRun
  rcases hRun with ⟨⟨tail, hRaw⟩, hNum, hPtr⟩
  have hLength := length_splitOn delimiter text
  have hFields := field_of_mem_splitOn delimiter text
  generalize text.splitOn delimiter = fields at *
  refine ⟨?_, ?_, ?_⟩
  · rw [hNum]
    push_cast
    omega
  · rw [hPtr, map_fst_pointers, hNum, List.length_take,
      List.range_eq_range']
    congr 1
    omega
  · intro index ptr hMem
    rw [hPtr] at hMem
    rcases prefix_of_mem_pointers [] tail hMem with
      ⟨-, field, hField, hPrefix⟩
    have hHere : fields[index]? = some field := by
      rw [Nat.sub_zero, List.getElem?_take] at hField
      split at hField
      · exact hField
      · cases hField
    have hMemField := List.mem_of_getElem? hHere
    refine ⟨field, hHere, ?_, ?_⟩
    · intro hIn
      exact hText ((hFields field hMemField).2 _ hIn)
    · rw [hRaw]
      exact hPrefix

/- An empty field between two others, with room for two. -/
theorem splitString_fields_twoOfThree :
    let r := splitString "a,,b\x00".toList 2 ','
    (r.num_split_strings : Int) =
        min 2 ("a,,b".toList.count ',' + 1) ∧
      r.split_strings_ptr.map Prod.fst =
        List.range r.num_split_strings ∧
      ∀ index ptr, (index, ptr) ∈ r.split_strings_ptr →
        ∃ field,
          ("a,,b".toList.splitOn ',')[index]? = some field ∧
            HoldsString (r.raw_string.drop ptr) field :=
  splitString_fields "a,,b".toList [] ',' 2 (by decide)
    (by decide) (by decide)

end MiscUtils

end D2Common

------------------------------------------------------------
-- Trimming a String
------------------------------------------------------------

namespace D2Common

namespace MiscUtils

open Cfg (isSpace)

/- The string and the four cursors that go over it. -/
structure Cursors where
  org_string : List Char
  scan_ptr : Nat
  write_ptr : Nat
  first_nonspace : Option Nat
  last_nonspace : Option Nat
deriving DecidableEq

/- One turn of the `while` loop. -/
def scanStep (x : Cursors) : Cursors :=
  let c := x.org_string.getD x.scan_ptr '\x00'
  let x :=
    if isSpace c = false ∧ x.first_nonspace = none then
      { x with first_nonspace := some x.scan_ptr }
    else x
  let x :=
    if x.first_nonspace ≠ none then
      let x :=
        { x with
          org_string := x.org_string.set x.write_ptr c
          write_ptr := x.write_ptr + 1 }
      if isSpace c = false then
        { x with last_nonspace := some x.write_ptr }
      else x
    else x
  { x with scan_ptr := x.scan_ptr + 1 }

/- The `while` loop, in no more turns than there is memory. -/
def scanLoop : Nat → Cursors → Cursors
| 0, x => x
| fuel + 1, x =>
    if x.org_string.getD x.scan_ptr '\x00' = '\x00' then x
    else scanLoop fuel (scanStep x)

/- `loc_util_trim_space`. -/
def trimSpaceInPlace (org_string : List Char) : List Char :=
  let x :=
    scanLoop org_string.length ⟨org_string, 0, 0, none, none⟩
  match x.last_nonspace with
  | some last_nonspace =>
      x.org_string.set last_nonspace '\x00'
  | none => x.org_string

/- The string without the white space at both ends. -/
def stripped (text : List Char) : List Char :=
  (text.dropWhile isSpace).rdropWhile isSpace

/-
  The memory while a string is moved: what has been written,
  a gap that is as wide as the white space in front was, and
  what is to be scanned.
-/
def scanned
    (moved gap todo : List Char)
    (first_nonspace : Nat) : Cursors :=
  { org_string := moved ++ (gap ++ todo)
    scan_ptr := moved.length + gap.length
    write_ptr := moved.length
    first_nonspace := some first_nonspace
    last_nonspace := some (moved.rdropWhile isSpace).length }

theorem scanned_getD
    (moved gap : List Char)
    (c : Char)
    (todo : List Char)
    (first_nonspace : Nat) :
    (scanned moved gap (c :: todo) first_nonspace).org_string.getD
        (scanned moved gap (c :: todo) first_nonspace).scan_ptr
        '\x00' = c := by
  simp [scanned]

/- A character is moved over the gap. -/
theorem set_moved
    (moved gap : List Char)
    (c : Char)
    (todo : List Char) :
    (moved ++ (gap ++ c :: todo)).set moved.length c =
      (moved ++ [c]) ++ ((gap ++ [c]).tail ++ todo) := by
  cases gap with
  | nil => simp
  | cons g gap => simp

theorem scanStep_scanned
    (moved gap : List Char)
    (c : Char)
    (todo : List Char)
    (first_nonspace : Nat) :
    scanStep (scanned moved gap (c :: todo) first_nonspace) =
      scanned (moved ++ [c]) (gap ++ [c]).tail todo
        first_nonspace := by
  have hAt := scanned_getD moved gap c todo first_nonspace
  unfold scanStep
  rw [hAt]
  simp only [scanned, reduceCtorEq, and_false, if_false,
    ne_eq, not_false_eq_true, if_true, set_moved]
  cases hSpace : isSpace c with
  | true =>
      simp [hSpace]
      omega
  | false =>
      simp [hSpace]
      omega

/- The loop moves all that is left to the left. -/
theorem scanLoop_scanned
    {todo : List Char}
    (hText : '\x00' ∉ todo)
    (fuel : Nat)
    (hFuel : todo.length < fuel)
    (moved gap rest : List Char)
    (first_nonspace : Nat) :
    ∃ gap',
      scanLoop fuel
          (scanned moved gap (todo ++ '\x00' :: rest)
            first_nonspace) =
        scanned (moved ++ todo) gap' ('\x00' :: rest)
          first_nonspace := by
  induction todo generalizing fuel moved gap with
  | nil =>
      rcases fuel with _ | fuel
      · cases hFuel
      · refine ⟨gap, ?_⟩
        rw [List.nil_append, List.append_nil, scanLoop,
          scanned_getD, if_pos rfl]
  | cons c todo ih =>
      rcases fuel with _ | fuel
      · cases hFuel
      · simp only [List.mem_cons, not_or] at hText
        simp only [List.length_cons] at hFuel
        rw [List.cons_append, scanLoop, scanned_getD,
          if_neg (Ne.symm hText.1), scanStep_scanned]
        rcases ih hText.2 fuel (by omega) (moved ++ [c])
          (gap ++ [c]).tail with ⟨gap', hLoop⟩
        refine ⟨gap', ?_⟩
        rw [hLoop]
        simp

/- Before the text nothing is written. -/
theorem scanLoop_blank
    {blank : List Char}
    (hBlank : ∀ c ∈ blank, isSpace c = true)
    (fuel : Nat)
    (before todo : List Char) :
    scanLoop (blank.length + fuel)
        ⟨before ++ (blank ++ todo), before.length, 0, none,
          none⟩ =
      scanLoop fuel
        ⟨before ++ (blank ++ todo), (before ++ blank).length,
          0, none, none⟩ := by
  induction blank generalizing before with
  | nil => simp
  | cons c blank ih =>
      have hSpace : isSpace c = true :=
        hBlank c List.mem_cons_self
      have hAt :
          (before ++ (c :: blank ++ todo)).getD before.length
            '\x00' = c := by
        simp
      have hNe : c ≠ '\x00' := by
        rintro rfl
        exact absurd hSpace (by decide)
      have hRest :=
        ih (fun d hd => hBlank d (List.mem_cons_of_mem c hd))
          (before ++ [c])
      rw [List.length_cons, Nat.add_right_comm, scanLoop]
      simp only [hAt, if_neg hNe, scanStep, hSpace]
      simpa using hRest

/- A string that is blank stays as it is. -/
theorem trimSpaceInPlace_blank
    {text : List Char}
    (hBlank : ∀ c ∈ text, isSpace c = true)
    (rest : List Char) :
    trimSpaceInPlace (text ++ '\x00' :: rest) =
      text ++ '\x00' :: rest := by
  have hLoop :=
    scanLoop_blank hBlank (rest.length + 1) [] ('\x00' :: rest)
  have hFuel :
      (text ++ '\x00' :: rest).length =
        text.length + (rest.length + 1) := by
    simp
  simp only [List.nil_append, List.length_nil] at hLoop
  unfold trimSpaceInPlace
  rw [hFuel, hLoop]
  simp [scanLoop]

/- The first character of the text starts the moving. -/
theorem scanStep_first
    {c : Char}
    (hSpace : isSpace c = false)
    (gap todo : List Char) :
    scanStep
        ⟨gap ++ c :: todo, gap.length, 0, none, none⟩ =
      scanStep (scanned [] gap (c :: todo) gap.length) := by
  simp [scanStep, scanned, hSpace]

/- The loop, on white space and a text behind it. -/
theorem scanLoop_text
    {blank : List Char}
    (hBlank : ∀ c ∈ blank, isSpace c = true)
    {c : Char}
    (hSpace : isSpace c = false)
    {kept : List Char}
    (hKept : '\x00' ∉ c :: kept)
    (rest : List Char) :
    ∃ gap,
      scanLoop (blank ++ (c :: kept ++ '\x00' :: rest)).length
          ⟨blank ++ (c :: kept ++ '\x00' :: rest), 0, 0, none,
            none⟩ =
        scanned (c :: kept) gap ('\x00' :: rest)
          blank.length := by
  have hNe : c ≠ '\x00' :=
    fun hNul => hKept (hNul ▸ List.mem_cons_self)
  have hFuel :
      (blank ++ (c :: kept ++ '\x00' :: rest)).length =
        blank.length +
          ((c :: kept).length + (rest.length + 1)) := by
    simp
    omega
  -- the white space in front is passed
  have hSkip :=
    scanLoop_blank hBlank
      ((c :: kept).length + (rest.length + 1)) []
      (c :: kept ++ '\x00' :: rest)
  -- and from there on everything is moved
  rcases
    scanLoop_scanned hKept
      ((c :: kept).length + (rest.length + 1)) (by omega)
      [] blank rest blank.length with ⟨gap, hMove⟩
  rw [List.nil_append] at hMove
  refine ⟨gap, ?_⟩
  simp only [List.nil_append, List.length_nil] at hSkip
  rw [hFuel, hSkip, ← hMove, List.length_cons,
    Nat.add_right_comm, List.cons_append, scanLoop, scanLoop,
    scanned_getD, if_neg hNe, ← scanStep_first hSpace]
  simp [hNe]

/- The terminator stands after the last character. -/
theorem set_last_nonspace
    (moved gap rest : List Char) :
    ∃ tail,
      (moved ++ (gap ++ '\x00' :: rest)).set
          (moved.rdropWhile isSpace).length '\x00' =
        moved.rdropWhile isSpace ++ '\x00' :: tail := by
  rcases List.rdropWhile_prefix isSpace moved with
    ⟨spaces, hSpaces⟩
  refine ⟨(spaces ++ (gap ++ '\x00' :: rest)).tail, ?_⟩
  generalize moved.rdropWhile isSpace = shown at *
  rw [← hSpaces, List.append_assoc,
    List.set_append_right _ _ le_rfl, Nat.sub_self]
  cases spaces with
  | nil =>
      cases gap with
      | nil => simp
      | cons g gap => simp
  | cons s spaces => simp

/- A string that is not blank is stripped in place. -/
theorem trimSpaceInPlace_eq
    {text : List Char}
    (hText : '\x00' ∉ text)
    (hNonspace : ∃ c ∈ text, isSpace c = false)
    (rest : List Char) :
    ∃ tail,
      trimSpaceInPlace (text ++ '\x00' :: rest) =
        stripped text ++ '\x00' :: tail := by
  have hSplit :
      text.takeWhile isSpace ++ text.dropWhile isSpace =
        text :=
    List.takeWhile_append_dropWhile
  have hBlank : ∀ c ∈ text.takeWhile isSpace,
      isSpace c = true :=
    fun c hc => List.mem_takeWhile_imp hc
  have hFirst := List.head?_dropWhile_not isSpace text
  unfold stripped
  generalize text.takeWhile isSpace = blank at *
  generalize text.dropWhile isSpace = kept at *
  subst hSplit
  cases kept with
  | nil =>
      rcases hNonspace with ⟨c, hc, hSpace⟩
      rw [List.append_nil] at hc
      rw [hBlank c hc] at hSpace
      cases hSpace
  | cons c kept =>
      have hSpace : isSpace c = false := by
        simpa using hFirst
      have hKept : '\x00' ∉ c :: kept :=
        fun hIn => hText (List.mem_append_right blank hIn)
      rcases scanLoop_text hBlank hSpace hKept rest with
        ⟨gap, hLoop⟩
      unfold trimSpaceInPlace
      rw [List.append_assoc, hLoop]
      exact set_last_nonspace (c :: kept) gap rest

end MiscUtils

end D2Common

------------------------------------------------------------
-- The String That Is Left
------------------------------------------------------------

namespace D2Common

namespace MiscUtils

open Cfg (isSpace trimSpace)

theorem all_isSpace_eq_false
    {text : List Char}
    (hNonspace : ∃ c ∈ text, isSpace c = false) :
    text.all isSpace = false := by
  simpa using hNonspace

theorem trimSpace_of_nonspace
    {text : List Char}
    (hNonspace : ∃ c ∈ text, isSpace c = false) :
    trimSpace text = stripped text := by
  unfold trimSpace stripped
  rw [all_isSpace_eq_false hNonspace, if_neg (by simp)]

theorem trimSpace_of_blank
    {text : List Char}
    (hBlank : ∀ c ∈ text, isSpace c = true) :
    trimSpace text = text := by
  unfold trimSpace
  rw [if_pos (List.all_eq_true.mpr hBlank)]

/- A string is blank, or it has a first character. -/
theorem blank_or_nonspace (text : List Char) :
    (∀ c ∈ text, isSpace c = true) ∨
      ∃ c ∈ text, isSpace c = false := by
  by_cases hBlank : ∀ c ∈ text, isSpace c = true
  · exact Or.inl hBlank
  · right
    push Not at hBlank
    simpa using hBlank

/-
  What works in place leaves the string that the reader of
  configuration files is said to trim its operands to.
-/
theorem trimSpaceInPlace_refines
    {text : List Char}
    (hText : '\x00' ∉ text)
    (rest : List Char) :
    ∃ tail,
      trimSpaceInPlace (text ++ '\x00' :: rest) =
        trimSpace text ++ '\x00' :: tail := by
  rcases blank_or_nonspace text with hBlank | hNonspace
  · rw [trimSpaceInPlace_blank hBlank,
      trimSpace_of_blank hBlank]
    exact ⟨rest, rfl⟩
  · rw [trimSpace_of_nonspace hNonspace]
    exact trimSpaceInPlace_eq hText hNonspace rest

theorem stripped_of_blank
    {text : List Char}
    (hBlank : ∀ c ∈ text, isSpace c = true) :
    stripped text = [] := by
  unfold stripped
  rw [List.dropWhile_eq_nil_iff.mpr hBlank,
    List.rdropWhile_nil]

/- What is kept of a text that starts with no space. -/
theorem exists_rdropWhile_cons
    {c : Char}
    (hSpace : isSpace c = false)
    (text : List Char) :
    ∃ kept, (c :: text).rdropWhile isSpace = c :: kept := by
  have hPrefix := List.rdropWhile_prefix isSpace (c :: text)
  cases hShown : (c :: text).rdropWhile isSpace with
  | nil =>
      have hAll := List.rdropWhile_eq_nil_iff.mp hShown
      rw [hAll c List.mem_cons_self] at hSpace
      cases hSpace
  | cons d kept =>
      rw [hShown] at hPrefix
      exact ⟨kept, by rw [(List.cons_prefix_cons.mp hPrefix).1]⟩

/- What is left of a text starts with no space. -/
theorem stripped_eq_cons
    {text : List Char}
    (hNonspace : ∃ c ∈ text, isSpace c = false) :
    ∃ c kept,
      stripped text = c :: kept ∧ isSpace c = false := by
  have hFirst := List.head?_dropWhile_not isSpace text
  unfold stripped
  cases hKept : text.dropWhile isSpace with
  | nil =>
      rcases hNonspace with ⟨c, hc, hSpace⟩
      have hAll := List.dropWhile_eq_nil_iff.mp hKept c hc
      rw [hAll] at hSpace
      cases hSpace
  | cons c kept =>
      rw [hKept] at hFirst
      have hSpace : isSpace c = false := by
        simpa using hFirst
      rcases exists_rdropWhile_cons hSpace kept with
        ⟨shown, hShown⟩
      exact ⟨c, shown, hShown, hSpace⟩

theorem stripped_stripped
    {text : List Char}
    (hNonspace : ∃ c ∈ text, isSpace c = false) :
    stripped (stripped text) = stripped text := by
  rcases stripped_eq_cons hNonspace with
    ⟨c, kept, hKept, hSpace⟩
  have hDrop :
      (stripped text).dropWhile isSpace = stripped text := by
    rw [hKept, List.dropWhile_cons, hSpace]
    rfl
  conv_lhs => rw [stripped, hDrop]
  exact List.rdropWhile_idempotent isSpace _

theorem trimSpace_trimSpace (text : List Char) :
    trimSpace (trimSpace text) = trimSpace text := by
  rcases blank_or_nonspace text with hBlank | hNonspace
  · rw [trimSpace_of_blank hBlank, trimSpace_of_blank hBlank]
  · rw [trimSpace_of_nonspace hNonspace]
    rcases stripped_eq_cons hNonspace with
      ⟨c, kept, hKept, hSpace⟩
    rw [trimSpace_of_nonspace
        ⟨c, by rw [hKept]; exact List.mem_cons_self, hSpace⟩,
      stripped_stripped hNonspace]

theorem mem_of_mem_trimSpace
    {text : List Char}
    {c : Char}
    (hc : c ∈ trimSpace text) :
    c ∈ text := by
  unfold trimSpace at hc
  split at hc
  · exact hc
  · exact (List.dropWhile_suffix isSpace).subset
      ((List.rdropWhile_prefix isSpace _).subset hc)

/-
  The string that is left is the stripped one unless there
  is nothing but white space.
-/
theorem trimSpace_eq_stripped_iff (text : List Char) :
    trimSpace text = stripped text ↔
      text = [] ∨ ∃ c ∈ text, isSpace c = false := by
  rcases blank_or_nonspace text with hBlank | hNonspace
  · rw [trimSpace_of_blank hBlank, stripped_of_blank hBlank]
    constructor
    · exact Or.inl
    · rintro (hNil | ⟨c, hc, hSpace⟩)
      · exact hNil
      · rw [hBlank c hc] at hSpace
        cases hSpace
  · exact iff_of_true (trimSpace_of_nonspace hNonspace)
      (Or.inr hNonspace)

/- The string in a memory that holds one is no other. -/
theorem holdsString_append_iff
    {text other : List Char}
    (hText : '\x00' ∉ text)
    (hOther : '\x00' ∉ other)
    (tail : List Char) :
    HoldsString (text ++ '\x00' :: tail) other ↔
      text = other := by
  constructor
  · rintro ⟨-, rest, hRest⟩
    have hEq := congrArg Cfg.cString hRest
    rw [List.append_assoc, List.singleton_append,
      cString_append hOther, cString_append hText] at hEq
    exact hEq.symm
  · rintro rfl
    exact ⟨hText, tail, by simp⟩

end MiscUtils

end D2Common
