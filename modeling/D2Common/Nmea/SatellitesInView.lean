import D2Common.Nmea.Fields
import D2Common.Nmea.Sentences

/-
  The sentences of satellites in view.

  One index runs over all satellites of a report while the
  sentences of a system count only its own. The file shows
  that the sentences of each system are what is left when
  the satellites of the system are taken from the report in
  groups of four.

  Key definitions include:
    * `svText`
    * `quads`
    * `Partition`

  Key theorems include:
    * `appendSvs_eq`
    * `gsvLoop_eq`
    * `shows_gsvText`
    * `partition_gsv`
    * `generateSv_eq`
    * `generateSv_partitions`
-/

------------------------------------------------------------
-- Groups of Four
------------------------------------------------------------

namespace D2Common

namespace Nmea

variable {α F : Type}

/- The first groups of four of a list. -/
def quads
    (l : List α)
    (m : Nat) : List (List α) :=
  (List.range m).map fun k => (l.drop (4 * k)).take 4

theorem quads_succ
    (l : List α)
    (m : Nat) :
    quads l (m + 1) = l.take 4 :: quads (l.drop 4) m := by
  unfold quads
  rw [List.range_succ_eq_map, List.map_cons, List.map_map]
  congr 1
  apply List.map_congr_left
  intro k _
  simp only [Function.comp_apply, List.drop_drop]
  rw [show 4 * k.succ = 4 + 4 * k by omega]

@[simp] theorem length_quads
    (l : List α)
    (m : Nat) :
    (quads l m).length = m := by
  simp [quads]

/- Enough groups of four are the whole list. -/
theorem flatten_quads
    (l : List α)
    (m : Nat)
    (hEnough : l.length ≤ 4 * m) :
    (quads l m).flatten = l := by
  induction m generalizing l with
  | zero =>
      have hNil : l = [] :=
        List.eq_nil_of_length_eq_zero (by omega)
      simp [quads, hNil]
  | succ m ih =>
      rw [quads_succ, List.flatten_cons, ih]
      · exact List.take_append_drop 4 l
      · rw [List.length_drop]
        omega

theorem getElem_quads
    (l : List α)
    (m k : Nat)
    (hk : k < (quads l m).length) :
    (quads l m)[k] = (l.drop (4 * k)).take 4 := by
  simp [quads]

/- Rounded up, as the code computes it. -/
theorem ceil_quarter
    (n : Nat) :
    n / 4 + (if n % 4 ≠ 0 then 1 else 0) = (n + 3) / 4 := by
  split <;> omega

end Nmea

end D2Common

------------------------------------------------------------
-- One Sentence
------------------------------------------------------------

namespace D2Common

namespace Nmea

variable {F : Type}

/- `",%02d,%02d,%03d,"`, and `"%02d"` if there is an SNR. -/
def svText
    (ops : FloatOps F)
    (sv : SvInfo F) : Sentence :=
  [','] ++ formatInt 2 sv.prn.toInt ++
    [','] ++ formatInt 2 (ops.round sv.elevation).toInt ++
    [','] ++ formatInt 3 (ops.round sv.azimuth).toInt ++
    [','] ++
    (if ops.positive sv.snr then
      formatInt 2 (ops.round sv.snr).toInt
    else [])

theorem length_svText_le
    (ops : FloatOps F)
    {c : Constellation}
    (hShort : c.Short)
    {sv : SvInfo F}
    (hOwns : c.owns sv = true) :
    (svText ops sv).length ≤ 39 := by
  have hPrn := length_formatInt_prn_le hShort hOwns
  have hElevation :=
    length_formatInt_toInt_le 2 (by omega)
      (ops.round sv.elevation)
  have hAzimuth :=
    length_formatInt_toInt_le 3 (by omega)
      (ops.round sv.azimuth)
  have hSnr :=
    length_formatInt_toInt_le 2 (by omega)
      (ops.round sv.snr)
  unfold svText
  split <;> simp <;> omega

theorem appendSv_eq
    (ops : FloatOps F)
    {sv : SvInfo F}
    (sentence : Sentence)
    (hRoom :
      sentence.length + (svText ops sv).length <
        nmeaSentenceMaxLength) :
    appendSv ops sentence sv =
      some (sentence ++ svText ops sv) := by
  unfold svText at hRoom ⊢
  unfold appendSv
  split at hRoom
  · next hSnr =>
      simp only [List.length_append, List.length_singleton]
        at hRoom
      rw [append_of_lt _ _ (by simp; omega)]
      dsimp only [Option.bind_eq_bind, Option.bind_some]
      rw [if_pos hSnr, append_of_lt _ _ (by simp; omega),
        if_pos hSnr]
      simp
  · next hSnr =>
      simp only [List.length_append, List.length_singleton]
        at hRoom
      rw [append_of_lt _ _ (by simp; omega)]
      dsimp only [Option.bind_eq_bind, Option.bind_some]
      rw [if_neg hSnr, if_neg hSnr]
      simp

/-
  The loop of a sentence takes the next satellites of the
  system, up to four, and leaves all that it has not looked
  at.
-/
theorem appendSvs_eq
    (ops : FloatOps F)
    {c : Constellation}
    (hShort : c.Short)
    (svs : List (SvInfo F))
    (i : Nat)
    (sentence : Sentence)
    (hRoom :
      sentence.length + 39 * (4 - i) <
        nmeaSentenceMaxLength) :
    ∃ rest,
      appendSvs ops c svs i sentence =
          some
            (sentence ++
              ((svs.filter c.owns).take (4 - i)).flatMap
                (svText ops),
              rest) ∧
        rest.filter c.owns =
          (svs.filter c.owns).drop (4 - i) := by
  induction svs generalizing i sentence with
  | nil => exact ⟨[], by simp [appendSvs]⟩
  | cons sv svs ih =>
      unfold appendSvs
      by_cases hFour : 4 ≤ i
      · rw [if_pos hFour, show 4 - i = 0 by omega]
        exact ⟨sv :: svs, by simp⟩
      · rw [if_neg hFour]
        have hLeft : 4 - i = (4 - (i + 1)) + 1 := by omega
        by_cases hOwns : c.owns sv = true
        · have hLength := length_svText_le ops hShort hOwns
          rw [if_pos hOwns, appendSv_eq ops sentence (by omega),
            List.filter_cons_of_pos hOwns, hLeft,
            List.take_succ_cons, List.drop_succ_cons,
            List.flatMap_cons, ← List.append_assoc]
          apply ih (i + 1)
          rw [List.length_append]
          omega
        · rw [if_neg hOwns, List.filter_cons_of_neg hOwns]
          exact ih i sentence hRoom

end Nmea

end D2Common

------------------------------------------------------------
-- The Sentences of a System
------------------------------------------------------------

namespace D2Common

namespace Nmea

variable {F : Type}

/- A header and the satellites of one group. -/
def gsvText
    (ops : FloatOps F)
    (c : Constellation)
    (sentenceCount sentenceNumber count : Nat)
    (group : List (SvInfo F)) : Sentence :=
  gsvHeader c sentenceCount sentenceNumber count ++
    group.flatMap (svText ops)

theorem length_flatMap_svText_le
    (ops : FloatOps F)
    {c : Constellation}
    (hShort : c.Short)
    {group : List (SvInfo F)}
    (hOwned : ∀ sv ∈ group, c.owns sv = true) :
    (group.flatMap (svText ops)).length ≤
      39 * group.length := by
  induction group with
  | nil => simp
  | cons sv group ih =>
      have hFirst :=
        length_svText_le ops hShort (hOwned sv (by simp))
      have hRest := ih (fun t ht => hOwned t (by simp [ht]))
      rw [List.flatMap_cons, List.length_append,
        List.length_cons]
      omega

/- A group of four has room in its sentence. -/
theorem gsvText_fits
    (ops : FloatOps F)
    {c : Constellation}
    (hShort : c.Short)
    {sentenceCount sentenceNumber count : Nat}
    (hSentences : sentenceCount < 100)
    (hNumber : sentenceNumber < 100)
    (hCount : count < 100)
    {group : List (SvInfo F)}
    (hOwned : ∀ sv ∈ group, c.owns sv = true)
    (hFour : group.length ≤ 4) :
    (gsvText ops c sentenceCount sentenceNumber count
        group).length + 5 <
      nmeaSentenceMaxLength := by
  have hHeader :=
    length_gsvHeader_le hShort hSentences hNumber hCount
  have hTexts := length_flatMap_svText_le ops hShort hOwned
  have hLength : nmeaSentenceMaxLength = 200 := rfl
  rw [gsvText, List.length_append]
  omega

/-
  The loop over the sentences gives each the next group. A
  satellite is neither skipped nor repeated in between, as
  what a sentence leaves begins behind its last satellite.
-/
theorem gsvLoop_eq
    (ops : FloatOps F)
    {c : Constellation}
    (hShort : c.Short)
    {sentenceCount count : Nat}
    (hSentenceCount : sentenceCount < 100)
    (hCount : count < 100)
    (left : Nat)
    {sentenceNumber : Nat}
    (hLeft : sentenceNumber + left ≤ 100)
    (svs : List (SvInfo F)) :
    gsvLoop ops c sentenceCount count left sentenceNumber
        svs =
      ((quads (svs.filter c.owns) left).mapIdx
        fun k group =>
          putChecksum
            (gsvText ops c sentenceCount (sentenceNumber + k)
              count group)
            nmeaSentenceMaxLength,
        true) := by
  induction left generalizing sentenceNumber svs with
  | zero => rfl
  | succ left ih =>
      have hHeader :=
        length_gsvHeader_le hShort hSentenceCount
          (by omega : sentenceNumber < 100) hCount
      have hMax : nmeaSentenceMaxLength = 200 := rfl
      have hAppend :=
        append_of_lt []
          (gsvHeader c sentenceCount sentenceNumber count)
          (by simp; omega)
      rw [List.nil_append] at hAppend
      rcases
        appendSvs_eq ops hShort svs 0
          (gsvHeader c sentenceCount sentenceNumber count)
          (by omega) with
        ⟨rest, hSvs, hRest⟩
      have hNext :
          (fun k (group : List (SvInfo F)) =>
            putChecksum
              (gsvText ops c sentenceCount
                (sentenceNumber + 1 + k) count group)
              nmeaSentenceMaxLength) =
            fun k group =>
              putChecksum
                (gsvText ops c sentenceCount
                  (sentenceNumber + (k + 1)) count group)
                nmeaSentenceMaxLength := by
        funext k group
        rw [show sentenceNumber + 1 + k =
          sentenceNumber + (k + 1) by omega]
      unfold gsvLoop
      simp only [hAppend, Option.bind_eq_bind,
        Option.bind_some, hSvs]
      rw [ih (by omega) rest, hRest, quads_succ,
        List.mapIdx_cons, hNext]
      rfl

/- The satellites with numbers in a range, in order. -/
def inView
    (prnStart prnEnd : Int)
    (svs : List (SvInfo F)) : List (SvInfo F) :=
  svs.filter fun sv =>
    decide
      (prnStart ≤ sv.prn.toInt ∧ sv.prn.toInt ≤ prnEnd)

theorem filter_owns
    (c : Constellation)
    (svs : List (SvInfo F)) :
    svs.filter c.owns = inView c.prnStart c.prnEnd svs := by
  apply List.filter_congr
  intro sv _
  rw [Bool.eq_iff_iff, c.owns_iff, decide_eq_true_iff]

end Nmea

end D2Common

------------------------------------------------------------
-- What a Sentence Shows
------------------------------------------------------------

namespace D2Common

namespace Nmea

variable {F : Type}

/- The numbers of one satellite; there may be no SNR. -/
def shownSv
    (ops : FloatOps F)
    (sv : SvInfo F) : List (Option Int) :=
  [some sv.prn.toInt,
    some (ops.round sv.elevation).toInt,
    some (ops.round sv.azimuth).toInt,
    if ops.positive sv.snr then
      some (ops.round sv.snr).toInt
    else none]

/-
  What a sentence shows, read from its text: the system, how
  many sentences there are, which of them it is, how many
  satellites there are, and the satellites of a group. Its
  checksum ends it, so that nothing is cut.
-/
structure Shows
    (ops : FloatOps F)
    (c : Constellation)
    (sentenceCount sentenceNumber count : Nat)
    (group : List (SvInfo F))
    (sent : Sent) : Prop where
  talker :
    (fields (bodyOf sent.pNmea)).head? = some c.talker
  numbers :
    (fields (bodyOf sent.pNmea)).tail.map shownInt =
      [some (sentenceCount : Int), some (sentenceNumber : Int),
          some (count : Int)] ++
        group.flatMap (shownSv ops)
  ended :
    ∃ high low,
      sent.pNmea =
        bodyOf sent.pNmea ++ ['*', high, low, '\r', '\n']
  fits : sent.pNmea.length < nmeaSentenceMaxLength

/- The fields of one satellite. -/
def svFields
    (ops : FloatOps F)
    (sv : SvInfo F) : List Sentence :=
  [formatInt 2 sv.prn.toInt,
    formatInt 2 (ops.round sv.elevation).toInt,
    formatInt 3 (ops.round sv.azimuth).toInt,
    if ops.positive sv.snr then
      formatInt 2 (ops.round sv.snr).toInt
    else []]

/- All fields behind the name of the system. -/
def gsvFields
    (ops : FloatOps F)
    (sentenceCount sentenceNumber count : Nat)
    (group : List (SvInfo F)) : List Sentence :=
  [formatInt 0 sentenceCount, formatInt 0 sentenceNumber,
      formatInt 2 count] ++
    group.flatMap (svFields ops)

theorem commaLed_append
    (texts texts' : List Sentence) :
    commaLed (texts ++ texts') =
      commaLed texts ++ commaLed texts' :=
  List.flatMap_append

theorem flatMap_svText
    (ops : FloatOps F)
    (group : List (SvInfo F)) :
    group.flatMap (svText ops) =
      commaLed (group.flatMap (svFields ops)) := by
  induction group with
  | nil => rfl
  | cons sv group ih =>
      rw [List.flatMap_cons, List.flatMap_cons,
        commaLed_append, ih]
      congr 1
      simp [svText, svFields, commaLed]

section Group

variable (ops : FloatOps F)
variable (c : Constellation)
variable (sentenceCount sentenceNumber count : Nat)
variable (group : List (SvInfo F))

/- The text of a sentence, field by field. -/
theorem gsvText_eq :
    gsvText ops c sentenceCount sentenceNumber count group =
      c.talker ++
        commaLed
          (gsvFields ops sentenceCount sentenceNumber count
            group) := by
  rw [gsvText, gsvFields, commaLed_append, ← flatMap_svText]
  simp [gsvHeader, commaLed]

/- A field is a number in print, or empty. -/
theorem mem_gsvFields
    {text : Sentence}
    (hText :
      text ∈
        gsvFields ops sentenceCount sentenceNumber count
          group) :
    text = [] ∨ ∃ width n, text = formatInt width n := by
  rcases List.mem_append.mp hText with hHeader | hSv
  · simp only [List.mem_cons, List.not_mem_nil, or_false]
      at hHeader
    rcases hHeader with rfl | rfl | rfl
    · exact Or.inr ⟨_, _, rfl⟩
    · exact Or.inr ⟨_, _, rfl⟩
    · exact Or.inr ⟨_, _, rfl⟩
  · rcases List.mem_flatMap.mp hSv with ⟨sv, -, hField⟩
    simp only [svFields, List.mem_cons, List.not_mem_nil,
      or_false] at hField
    rcases hField with rfl | rfl | rfl | rfl
    · exact Or.inr ⟨_, _, rfl⟩
    · exact Or.inr ⟨_, _, rfl⟩
    · exact Or.inr ⟨_, _, rfl⟩
    · split
      · exact Or.inr ⟨_, _, rfl⟩
      · exact Or.inl rfl

theorem not_mem_gsvFields
    {x : Char}
    (hOther : x.isDigit = false)
    (hMinus : x ≠ '-') :
    ∀ text ∈
      gsvFields ops sentenceCount sentenceNumber count group,
      x ∉ text := by
  intro text hText
  rcases mem_gsvFields ops sentenceCount sentenceNumber count
    group hText with rfl | ⟨width, n, rfl⟩
  · exact List.not_mem_nil
  · exact not_mem_formatInt hOther hMinus width n

theorem map_shownInt_gsvFields :
    (gsvFields ops sentenceCount sentenceNumber count
        group).map shownInt =
      [some (sentenceCount : Int), some (sentenceNumber : Int),
          some (count : Int)] ++
        group.flatMap (shownSv ops) := by
  have hSv (sv : SvInfo F) :
      (svFields ops sv).map shownInt = shownSv ops sv := by
    unfold svFields shownSv
    by_cases hSnr : ops.positive sv.snr = true
    · simp [hSnr, shownInt_formatInt]
    · simp [hSnr, shownInt_formatInt, shownInt_nil]
  rw [gsvFields, List.map_append, List.map_flatMap]
  simp only [hSv]
  simp [shownInt_formatInt]

variable {ops c sentenceCount sentenceNumber count group}

/- What is written can be read back. -/
theorem shows_gsvText
    (hShort : c.Short)
    (hFits :
      (gsvText ops c sentenceCount sentenceNumber count
          group).length + 5 <
        nmeaSentenceMaxLength) :
    Shows ops c sentenceCount sentenceNumber count group
      (putChecksum
        (gsvText ops c sentenceCount sentenceNumber count
          group)
        nmeaSentenceMaxLength) := by
  have hText :=
    gsvText_eq ops c sentenceCount sentenceNumber count group
  have hCommas :=
    not_mem_gsvFields ops sentenceCount sentenceNumber count
      group (x := ',') (by decide) (by decide)
  have hStars :=
    not_mem_gsvFields ops sentenceCount sentenceNumber count
      group (x := '*') (by decide) (by decide)
  have hStar :
      '*' ∉
        gsvText ops c sentenceCount sentenceNumber count
          group := by
    rw [hText, List.mem_append, not_or]
    refine ⟨hShort.no_checksum, ?_⟩
    intro hMem
    rcases List.mem_flatMap.mp hMem with ⟨text, hIn, hStar⟩
    rcases List.mem_cons.mp hStar with hComma | hStar
    · exact absurd hComma (by decide)
    · exact hStars text hIn hStar
  have hBody := bodyOf_putChecksum hStar hFits
  have hFields :=
    fields_commaLed hShort.one_field hCommas
  rw [← hText] at hFields
  have hEnded := putChecksum_pNmea hFits
  refine ⟨?_, ?_, ?_, ?_⟩
  · rw [hBody, hFields]
    rfl
  · rw [hBody, hFields, List.tail_cons,
      map_shownInt_gsvFields]
  · rwa [hBody]
  · rcases hEnded with ⟨high, low, hEnd⟩
    rw [hEnd, List.length_append]
    exact hFits

end Group

end Nmea

end D2Common

------------------------------------------------------------
-- The Partition
------------------------------------------------------------

namespace D2Common

namespace Nmea

variable {F : Type}

/-
  The sentences of a system, as they are to be: the
  satellites of the system in report order, in groups of
  four, of which only the last may be smaller, and every
  group in a sentence of its own. The sentences show that
  they are so many, which of them they are, how many
  satellites there are in all, and the group.
-/
structure Partition
    (ops : FloatOps F)
    (c : Constellation)
    (svs : List (SvInfo F))
    (groups : List (List (SvInfo F)))
    (sent : List Sent) : Prop where
  count : groups.length = (svs.length + 3) / 4
  whole : groups.flatten = svs
  full :
    ∀ k (hk : k + 1 < groups.length),
      (groups.get ⟨k, by omega⟩).length = 4
  sizes : ∀ group ∈ groups, 0 < group.length ∧ group.length ≤ 4
  one_each : sent.length = groups.length
  texts :
    sent =
      groups.mapIdx fun k group =>
        putChecksum
          (gsvText ops c groups.length (k + 1) svs.length
            group)
          nmeaSentenceMaxLength
  shown :
    ∀ k group,
      groups[k]? = some group →
        ∃ s, sent[k]? = some s ∧
          Shows ops c groups.length (k + 1) svs.length group s

theorem partition_gsv
    (ops : FloatOps F)
    {c : Constellation}
    (hShort : c.Short)
    (svs : List (SvInfo F))
    (hSvs : svs.length ≤ gpsMaxSvs)
    (hSome : svs.filter c.owns ≠ []) :
    ∃ groups,
      Partition ops c (svs.filter c.owns) groups
          (gsv ops c (svs.filter c.owns).length svs).1 ∧
        (gsv ops c (svs.filter c.owns).length svs).2 =
          true := by
  have hMax : gpsMaxSvs = 32 := rfl
  have hOwned := List.length_filter_le c.owns svs
  have hPositive := List.length_pos_iff.mpr hSome
  have hMembers :
      ∀ sv ∈ svs.filter c.owns, c.owns sv = true :=
    fun sv hSv => (List.mem_filter.mp hSv).2
  have hGsv :
      gsv ops c (svs.filter c.owns).length svs =
        gsvLoop ops c (((svs.filter c.owns).length + 3) / 4)
          (svs.filter c.owns).length
          (((svs.filter c.owns).length + 3) / 4) 1 svs := by
    unfold gsv
    rw [if_neg (by omega), ceil_quarter]
  generalize hn : (svs.filter c.owns).length = n at *
  have hLoop :=
    gsvLoop_eq ops hShort
      (by omega : (n + 3) / 4 < 100)
      (by omega : n < 100) ((n + 3) / 4)
      (by omega : 1 + (n + 3) / 4 ≤ 100) svs
  have hTexts :
      (gsv ops c n svs).1 =
        (quads (svs.filter c.owns) ((n + 3) / 4)).mapIdx
          fun k group =>
            putChecksum
              (gsvText ops c ((n + 3) / 4) (k + 1) n group)
              nmeaSentenceMaxLength := by
    rw [hGsv, hLoop]
    simp only [Nat.add_comm 1]
  refine
    ⟨quads (svs.filter c.owns) ((n + 3) / 4),
      ⟨?_, ?_, ?_, ?_, ?_, ?_, ?_⟩, ?_⟩
  · rw [length_quads, hn]
  · exact flatten_quads _ _ (by omega)
  · intro k hk
    rw [length_quads] at hk
    rw [List.get_eq_getElem, getElem_quads, List.length_take,
      List.length_drop]
    dsimp only
    omega
  · intro group hGroup
    rcases List.getElem_of_mem hGroup with ⟨k, hk, rfl⟩
    rw [length_quads] at hk
    rw [getElem_quads, List.length_take, List.length_drop, hn]
    omega
  · rw [hTexts, List.length_mapIdx]
  · rw [hTexts, length_quads, hn]
  · intro k group hGroup
    rcases List.getElem?_eq_some_iff.mp hGroup with
      ⟨hk, hSome⟩
    rw [getElem_quads] at hSome
    rw [length_quads] at hk
    rw [hTexts, List.getElem?_mapIdx, hGroup, length_quads,
      hn]
    refine ⟨_, rfl, shows_gsvText hShort ?_⟩
    apply gsvText_fits ops hShort (by omega) (by omega)
      (by omega)
    · intro sv hSv
      rw [← hSome] at hSv
      exact hMembers sv
        (List.mem_of_mem_drop (List.mem_of_mem_take hSv))
    · rw [← hSome, List.length_take]
      omega
  · rw [hGsv, hLoop]

end Nmea

end D2Common

------------------------------------------------------------
-- A Report
------------------------------------------------------------

namespace D2Common

namespace Nmea

variable {F : Type}

theorem not_owns_both
    (sv : SvInfo F)
    (hGps : gps.owns sv = true) :
    glonass.owns sv = false := by
  by_contra hOwns
  have hGlonass := Bool.eq_true_of_not_eq_false hOwns
  have hBelow : sv.prn.toInt ≤ 32 :=
    ((gps.owns_iff sv).mp hGps).2
  have hAbove : 65 ≤ sv.prn.toInt :=
    ((glonass.owns_iff sv).mp hGlonass).1
  omega

/- The counts are those of the satellites of each system. -/
theorem counts_eq
    (svs : List (SvInfo F)) :
    counts svs =
      ((svs.filter gps.owns).length,
        (svs.filter glonass.owns).length) := by
  induction svs with
  | nil => rfl
  | cons sv svs ih =>
      rw [counts, ih]
      by_cases hGps : gps.owns sv = true
      · simp [hGps, not_owns_both sv hGps]
      · by_cases hGlonass : glonass.owns sv = true
        · simp [hGps, hGlonass]
        · simp [hGps, hGlonass]

/-
  The sentences of one system in a report: a partition of
  its satellites, or one that says that there are none.
-/
def Listed
    (ops : FloatOps F)
    (c : Constellation)
    (svs : List (SvInfo F))
    (sent : List Sent) : Prop :=
  let own := inView c.prnStart c.prnEnd svs
  if own = [] then
    sent =
      [putChecksum (c.talker ++ ",1,1,0,".toList)
        nmeaSentenceMaxLength]
  else
    ∃ groups, Partition ops c own groups sent

theorem listed_gsv
    (ops : FloatOps F)
    {c : Constellation}
    (hShort : c.Short)
    (svs : List (SvInfo F))
    (hSvs : svs.length ≤ gpsMaxSvs) :
    Listed ops c svs
        (gsv ops c (svs.filter c.owns).length svs).1 ∧
      (gsv ops c (svs.filter c.owns).length svs).2 = true := by
  unfold Listed
  rw [← filter_owns]
  dsimp only
  split
  · next hNone =>
      rw [hNone]
      exact ⟨rfl, rfl⟩
  · next hSome =>
      rcases partition_gsv ops hShort svs hSvs hSome with
        ⟨groups, hPartition, hComplete⟩
      exact ⟨⟨groups, hPartition⟩, hComplete⟩

/- Each system of a report counts its own satellites. -/
theorem listed_report
    (ops : FloatOps F)
    (svs : List (SvInfo F))
    (hSvs : svs.length ≤ gpsMaxSvs) :
    (Listed ops gps svs
        (gsv ops gps (counts svs).1 svs).1 ∧
      (gsv ops gps (counts svs).1 svs).2 = true) ∧
    Listed ops glonass svs
        (gsv ops glonass (counts svs).2 svs).1 ∧
      (gsv ops glonass (counts svs).2 svs).2 = true := by
  rw [counts_eq]
  exact
    ⟨listed_gsv ops gps_short svs hSvs,
      listed_gsv ops glonass_short svs hSvs⟩

/-
  A report without its error returns: what it leaves in the
  cache, and what it sends.
-/
theorem generateSv_eq
    (ops : FloatOps F)
    (cache : NmeaCache F)
    (svStatus : SvStatus F)
    (locationExtended : LocationExtended F) :
    generateSv ops cache svStatus locationExtended =
      (if svStatus.used_in_fix_mask = 0 then cache
        else if locationExtended.flags &&& hasDop ≠ 0 then
          ⟨svStatus.used_in_fix_mask, locationExtended.pdop,
            locationExtended.hdop, locationExtended.vdop⟩
        else
          { cache with
            sv_used_mask :=
              svStatus.used_in_fix_mask }.clearDop ops,
        (gsv ops gps (counts svStatus.sv_list).1
            svStatus.sv_list).1 ++
          (gsv ops glonass (counts svStatus.sv_list).2
            svStatus.sv_list).1 ++
          (if svStatus.used_in_fix_mask = 0 then
            blankSentences
          else [])) := by
  have hReport :=
    listed_report ops svStatus.sv_list svStatus.num_svs_le
  have hGps := hReport.1.2
  have hGlonass := hReport.2.2
  unfold generateSv
  dsimp only
  generalize gsv ops gps _ _ = gpsRun at hGps ⊢
  generalize gsv ops glonass _ _ = glnRun at hGlonass ⊢
  rcases gpsRun with ⟨gpsSent, gpsComplete⟩
  rcases glnRun with ⟨glnSent, glnComplete⟩
  subst hGps hGlonass
  dsimp only
  split
  · rfl
  · split <;> simp

/- What a report leaves in the cache of used satellites. -/
theorem generateSv_mask
    (ops : FloatOps F)
    (cache : NmeaCache F)
    (svStatus : SvStatus F)
    (locationExtended : LocationExtended F) :
    (generateSv ops cache svStatus
        locationExtended).1.sv_used_mask =
      if svStatus.used_in_fix_mask = 0 then
        cache.sv_used_mask
      else
        svStatus.used_in_fix_mask := by
  rw [generateSv_eq]
  dsimp only
  split
  · rfl
  · split <;> rfl

/-
  A report sends the sentences of both systems, each a
  partition of its own satellites, and nothing of any other.
  The returns for errors are never taken.
-/
theorem generateSv_partitions
    (ops : FloatOps F)
    (cache : NmeaCache F)
    (svStatus : SvStatus F)
    (locationExtended : LocationExtended F) :
    let svs := svStatus.sv_list
    let gpsRun := gsv ops gps (counts svs).1 svs
    let glnRun := gsv ops glonass (counts svs).2 svs
    (generateSv ops cache svStatus locationExtended).2 =
        gpsRun.1 ++ glnRun.1 ++
          (if svStatus.used_in_fix_mask = 0 then
            blankSentences
          else []) ∧
      Listed ops gps svs gpsRun.1 ∧
      Listed ops glonass svs glnRun.1 ∧
      gpsRun.2 = true ∧
      glnRun.2 = true := by
  intro svs gpsRun glnRun
  have hReport := listed_report ops svs svStatus.num_svs_le
  refine
    ⟨?_, hReport.1.1, hReport.2.1, hReport.1.2,
      hReport.2.2⟩
  rw [generateSv_eq]

end Nmea

end D2Common
