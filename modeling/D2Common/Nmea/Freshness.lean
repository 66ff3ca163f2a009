import D2Common.Foundations.Transducer
import D2Common.Nmea.Position

/-
  Which satellites a position report names.

  The satellites that `$GPGSA` lists and `$GPGGA` counts
  should be those of the last satellite report, and each
  report should be used once. The cache is emptied by a
  position report, but a satellite report without satellites
  in use does not touch it: the mask of an earlier report
  stays there for the next position.

  Key definitions include:
    * `freshMask`
    * `GsaLists`
    * `GgaCounts`
    * `ListsFresh`
    * `Stale`

  Key theorems include:
    * `gsaLists_gsaText`
    * `ggaCounts_later`
    * `cacheInv_step`
    * `listsFresh_iff`
-/

------------------------------------------------------------
-- What the Sentences Show
------------------------------------------------------------

namespace D2Common

namespace Nmea

open Eng (LocPositionMode)

variable {F D : Type}

/- No fix, a fix in two dimensions, or in three. -/
def fixField (svUsedCount : Nat) : Sentence :=
  if svUsedCount = 0 then "1".toList
  else if svUsedCount ≤ 3 then "2".toList
  else "3".toList

/-
  A `$GPGSA` with the type of the fix that follows from the
  number of satellites, and a field for each of the first
  twelve.
-/
structure GsaLists
    (sats : List Nat)
    (sentence : Sentence) : Prop where
  fix :
    (fields sentence).take 3 =
      ["$GPGSA".toList, "A".toList, fixField sats.length]
  first_twelve :
    (((fields sentence).drop 3).take 12).map shownNat =
      (List.range 12).map fun i => sats[i]?

/- A sentence counts the satellites, if it is a `$GPGGA`. -/
def GgaCounts
    (sats : List Nat)
    (sentence : Sentence) : Prop :=
  (fields sentence).head? = some "$GPGGA".toList →
    (fields sentence)[7]?.bind shownNat = some sats.length

theorem fixField_eq (svUsedCount : Nat) :
    fixField svUsedCount = [fixType svUsedCount] := by
  unfold fixField fixType
  split
  · rfl
  · split <;> rfl

theorem fixField_eq_one_iff (svUsedCount : Nat) :
    fixField svUsedCount = fixField 0 ↔ svUsedCount = 0 := by
  unfold fixField
  split
  · simp [*]
  · split <;> simp [*]

theorem gsaLists_gsaText
    (sats : List Nat)
    {sentence : Sentence}
    (hPrefix : gsaText sats <+: sentence) :
    GsaLists sats sentence := by
  rcases hPrefix with ⟨rest, rfl⟩
  have hFields :
      fields (gsaText sats ++ rest) =
        "$GPGSA".toList :: "A".toList ::
          fixField sats.length ::
            ((List.range 12).map (gsaNumber sats) ++
              fields rest) := by
    rw [fields_gsaText, fixField_eq]
    rfl
  have hTwelve :
      ((List.range 12).map (gsaNumber sats)).length = 12 := by
    simp
  constructor
  · rw [hFields]
    rfl
  · rw [hFields]
    change (List.take 12 (_ ++ _)).map shownNat = _
    rw [List.take_left' hTwelve, List.map_map]
    apply List.map_congr_left
    intro i _
    exact shownNat_gsaNumber sats i

/- A sentence has one type of fix. -/
theorem GsaLists.eq_nil
    {sats : List Nat}
    {sentence : Sentence}
    (hLists : GsaLists sats sentence)
    (hNone : GsaLists [] sentence) :
    sats = [] := by
  have hSame := hLists.fix.symm.trans hNone.fix
  have hFix : fixField sats.length = fixField 0 := by
    simpa using hSame
  exact
    List.length_eq_zero_iff.mp
      ((fixField_eq_one_iff sats.length).mp hFix)

section Sentences

variable (fops : FloatOps F)
variable (ops : PositionOps F D)
variable (cache : NmeaCache F)
variable (location : GpsLocation F D)
variable (locationExtended : PositionExtended F)
variable (mode : LocPositionMode)

/- A position is four fields, known or not. -/
theorem latLongText_fields
    (hMinutes : ∀ x, ',' ∉ ops.minutesText x) :
    ∃ texts,
      texts.length = 4 ∧
        (∀ text ∈ texts, ',' ∉ text) ∧
          latLongText ops location = commaEnded texts := by
  have hText (width n : Nat) (x : D) :
      ',' ∉ formatInt width n ++ ops.minutesText x := by
    rw [List.mem_append, not_or]
    exact ⟨comma_not_mem_formatInt width n, hMinutes x⟩
  have hKnown
      (lat lon : D) (latHemisphere lonHemisphere : Char)
      (hLat : ',' ∉ [latHemisphere])
      (hLon : ',' ∉ [lonHemisphere]) :
      ∃ texts,
        texts.length = 4 ∧
          (∀ text ∈ texts, ',' ∉ text) ∧
            formatInt 2 (ops.degrees lat).toNat ++
                ops.minutesText (ops.minutes lat) ++
                [',', latHemisphere, ','] ++
                formatInt 3 (ops.degrees lon).toNat ++
                ops.minutesText (ops.minutes lon) ++
                [',', lonHemisphere, ','] =
              commaEnded texts := by
    refine
      ⟨[formatInt 2 (ops.degrees lat).toNat ++
            ops.minutesText (ops.minutes lat),
          [latHemisphere],
          formatInt 3 (ops.degrees lon).toNat ++
            ops.minutesText (ops.minutes lon),
          [lonHemisphere]], rfl, ?_, by simp [commaEnded]⟩
    simp only [List.forall_mem_cons]
    exact ⟨hText 2 _ _, hLat, hText 3 _ _, hLon, by simp⟩
  unfold latLongText
  split
  · by_cases hNorth : ops.positiveD location.latitude = true
    · by_cases hWest : ops.negativeD location.longitude = true
      · simp only [hNorth, hWest, if_true]
        exact hKnown _ _ 'N' 'W' (by decide) (by decide)
      · simp only [hNorth, hWest, if_true]
        exact hKnown _ _ 'N' 'E' (by decide) (by decide)
    · by_cases hWest : ops.negativeD location.longitude = true
      · simp only [hNorth, hWest, if_true]
        exact hKnown _ _ 'S' 'W' (by decide) (by decide)
      · simp only [hNorth, hWest]
        exact hKnown _ _ 'S' 'E' (by decide) (by decide)
  · exact ⟨[[], [], [], []], rfl, by simp, rfl⟩

/- What `$GPGGA` counts are the satellites of the mask. -/
theorem fields_gga
    (hMinutes : ∀ x, ',' ∉ ops.minutesText x)
    {sent : Sent}
    (hWrite :
      (gga fops ops cache location locationExtended
        mode).write = some sent) :
    (fields sent.pNmea)[7]? =
      some
        (formatInt 2
          (satellites cache.sv_used_mask).length) := by
  rcases write_prefix hWrite with ⟨tail, hSent⟩
  rcases latLongText_fields ops location hMinutes with
    ⟨texts, hLength, hTexts, hLatLong⟩
  have hTime := comma_not_mem_timeText ops location
  have hFix : ',' ∉ [gpsQuality location mode] := by
    unfold gpsQuality
    split
    · decide
    · split <;> decide
  have hSats :
      svUsedCount cache =
        (satellites cache.sv_used_mask).length := by
    rw [svUsedCount, svUsed_eq]
  have hQuality :
      ∃ hdop,
        qualityText ops location locationExtended fops cache
            (satellites cache.sv_used_mask).length mode =
          [gpsQuality location mode, ','] ++
            formatInt 2
              (satellites cache.sv_used_mask).length ++
            [','] ++ hdop ++ [','] :=
    ⟨_, rfl⟩
  have hCount :=
    comma_not_mem_formatInt 2
      (satellites cache.sv_used_mask).length
  have hShape :
      ∃ rest,
        sent.pNmea =
          commaEnded
              (["$GPGGA".toList, timeText ops location] ++
                texts ++
                [[gpsQuality location mode],
                  formatInt 2
                    (satellites cache.sv_used_mask).length]) ++
            rest := by
    rcases hQuality with ⟨hdop, hQuality⟩
    refine
      ⟨hdop ++ [','] ++ altitudeText ops locationExtended ++
        tail, ?_⟩
    rw [hSent]
    simp [gga, hLatLong, hQuality, hSats, commaEnded]
  rcases hShape with ⟨rest, hShape⟩
  rw [hShape, fields_commaEnded]
  · rw [List.append_assoc, List.append_assoc,
      List.getElem?_append_right (by simp),
      List.getElem?_append_right (by simp [hLength])]
    simp [hLength]
  · simp only [List.forall_mem_append, List.forall_mem_cons]
    exact
      ⟨⟨⟨by decide, hTime, by simp⟩, hTexts⟩, hFix, hCount,
        by simp⟩

/- The names of the sentences behind `$GPGSA`. -/
theorem gga_of_mem_later
    {sent : Sent}
    (hSent :
      sent ∈
        (posReport fops ops cache location locationExtended
          mode).later)
    (hName :
      (fields sent.pNmea).head? = some "$GPGGA".toList) :
    (gga fops ops cache location locationExtended
      mode).write = some sent := by
  have hLater :
      sent ∈
        (sendLayouts
          [vtg ops location locationExtended mode,
            rmc ops location locationExtended mode,
            gga fops ops cache location locationExtended
              mode]).1 :=
    hSent
  have hOther
      {p : Layout} {name rest : Sentence}
      (hWrite : p.write = some sent)
      (hChecked : p.checked.flatten = name ++ ',' :: rest)
      (hComma : ',' ∉ name) :
      name = "$GPGGA".toList := by
    rcases write_prefix hWrite with ⟨tail, hText⟩
    rw [hText, hChecked, List.append_assoc, fields,
      List.cons_append,
      List.splitOn_append_cons_self_of_not_mem hComma] at hName
    exact Option.some.inj hName
  rcases mem_sendLayouts hLater with ⟨p, hp, hWrite⟩
  simp only [List.mem_cons, List.not_mem_nil, or_false] at hp
  rcases hp with rfl | rfl | rfl
  · have hVtg :
        ∃ rest,
          (vtg ops location locationExtended
              mode).checked.flatten =
            "$GPVTG".toList ++ ',' :: rest := by
      simp only [vtg, tracksText, List.flatten_cons]
      split
      · exact ⟨_, by simp; rfl⟩
      · exact ⟨_, by simp; rfl⟩
    rcases hVtg with ⟨rest, hVtg⟩
    have hSame := hOther hWrite hVtg (by decide)
    exact absurd hSame (by decide)
  · have hSame : "$GPRMC".toList = "$GPGGA".toList :=
      hOther hWrite (by simp [rmc]; rfl) (by decide)
    exact absurd hSame (by decide)
  · exact hWrite

/- What is counted, where a sentence counts. -/
theorem ggaCounts_later
    (hMinutes : ∀ x, ',' ∉ ops.minutesText x)
    {sent : Sent}
    (hSent :
      sent ∈
        (posReport fops ops cache location locationExtended
          mode).later) :
    GgaCounts (satellites cache.sv_used_mask) sent.pNmea := by
  intro hName
  have hWrite :=
    gga_of_mem_later fops ops cache location
      locationExtended mode hSent hName
  have hField :=
    fields_gga fops ops cache location locationExtended mode
      hMinutes hWrite
  rw [hField, Option.bind_some, shownNat_formatInt]

/-
  A position report that is not blank names the satellites
  of the cache.
-/
theorem generatePosition_names
    (hMinutes : ∀ x, ',' ∉ ops.minutesText x) :
    let sats := satellites cache.sv_used_mask
    ∃ gsa later,
      (generatePosition fops ops cache location
          locationExtended mode true).2 = gsa :: later ∧
        GsaLists sats gsa.pNmea ∧
          ∀ sent ∈ later, GgaCounts sats sent.pNmea := by
  intro sats
  rcases
    (generatePos_gsa fops cache
      (posReport fops ops cache location locationExtended
        mode)).2 with ⟨gsa, hOutput, hPrefix⟩
  refine ⟨gsa, _, hOutput, gsaLists_gsaText sats hPrefix, ?_⟩
  intro sent hSent
  exact
    ggaCounts_later fops ops cache location locationExtended
      mode hMinutes hSent

end Sentences

end Nmea

end D2Common

------------------------------------------------------------
-- Runs
------------------------------------------------------------

namespace D2Common

namespace Nmea

open Eng (LocPositionMode)

variable {F D : Type}

/- The calls of the two functions. -/
inductive Report (F D : Type) where
  | sv
      (svStatus : SvStatus F)
      (locationExtended : LocationExtended F)
  | pos
      (location : GpsLocation F D)
      (locationExtended : PositionExtended F)
      (mode : LocPositionMode)
      (generate_nmea : Bool)

/- The cache, as `loc_eng_init` has cleared it. -/
def nmea
    (fops : FloatOps F)
    (ops : PositionOps F D) :
    Transducer (NmeaCache F) (Report F D) Sent where
  init := ⟨0, fops.zero, fops.zero, fops.zero⟩
  step cache i :=
    match i with
    | .sv svStatus locationExtended =>
        generateSv fops cache svStatus locationExtended
    | .pos location locationExtended mode generate_nmea =>
        generatePosition fops ops cache location
          locationExtended mode generate_nmea

/- A satellite report with satellites in use. -/
def Report.Uses : Report F D → Prop
| .sv svStatus _ => svStatus.used_in_fix_mask ≠ 0
| .pos _ _ _ _ => False

/- A satellite report without. -/
def Report.UsesNone : Report F D → Prop
| .sv svStatus _ => svStatus.used_in_fix_mask = 0
| .pos _ _ _ _ => False

/- A position report that is not blank. -/
def Report.Lists : Report F D → Prop
| .sv _ _ => False
| .pos _ _ _ generate_nmea => generate_nmea = true

/-
  The mask of the last satellite report, or none when a
  position report has been generated from it.
-/
def freshMask (is : List (Report F D)) : BitVec 32 :=
  is.foldl
    (fun mask i =>
      match i with
      | .sv svStatus _ => svStatus.used_in_fix_mask
      | .pos _ _ _ true => 0
      | .pos _ _ _ false => mask)
    0

/-
  A position report that is not blank first sends a `$GPGSA`
  that lists the satellites of the last satellite report, if
  no position report has been generated from it, else none.
  If it comes to send a `$GPGGA`, this counts the same.
-/
def ListsFresh
    (before :
      List
        (Transducer.Event (NmeaCache F) (Report F D) Sent))
    (e : Transducer.Event (NmeaCache F) (Report F D) Sent) :
    Prop :=
  let sats :=
    satellites
      (freshMask (before.map Transducer.Event.input))
  e.input.Lists →
    ∃ gsa later, e.output = gsa :: later ∧
      GsaLists sats gsa.pNmea ∧
        ∀ sent ∈ later, GgaCounts sats sent.pNmea

/-
  There have been satellites in use since the last position
  report that was not blank, and later a satellite report
  without.
-/
def Stale (is : List (Report F D)) : Prop :=
  History.Open Report.Uses Report.Lists is ∧
    History.Open Report.UsesNone Report.Uses is

/- The cache holds the mask of some report, or nothing. -/
structure CacheInv
    (is : List (Report F D))
    (cache : NmeaCache F) : Prop where
  used :
    cache.sv_used_mask ≠ 0 ↔
      History.Open Report.Uses Report.Lists is
  none :
    History.Open Report.UsesNone Report.Uses is →
      freshMask is = 0
  some :
    ¬ History.Open Report.UsesNone Report.Uses is →
      freshMask is = cache.sv_used_mask

theorem freshMask_concat
    (is : List (Report F D))
    (i : Report F D) :
    freshMask (is ++ [i]) =
      match i with
      | .sv svStatus _ => svStatus.used_in_fix_mask
      | .pos _ _ _ true => 0
      | .pos _ _ _ false => freshMask is := by
  rw [freshMask, List.foldl_append]
  rfl

/- A call keeps what the cache has to do with the reports. -/
theorem cacheInv_step
    (fops : FloatOps F)
    (ops : PositionOps F D)
    {is : List (Report F D)}
    {cache : NmeaCache F}
    (hInv : CacheInv is cache)
    (i : Report F D) :
    CacheInv (is ++ [i]) ((nmea fops ops).step cache i).1 := by
  have hFresh := freshMask_concat is i
  have hUsed :=
    History.open_concat (p := Report.Uses) (q := Report.Lists)
      is i
  have hNone :=
    History.open_concat (p := Report.UsesNone)
      (q := Report.Uses) is i
  cases i with
  | sv svStatus locationExtended =>
      have hMask :=
        generateSv_mask fops cache svStatus locationExtended
      simp only [Report.Uses, Report.UsesNone, Report.Lists,
        not_false_eq_true, and_true] at hUsed hNone
      by_cases hZero : svStatus.used_in_fix_mask = 0
      · -- the cache is left as it is
        simp only [hZero, if_true] at hMask
        refine ⟨?_, ?_, ?_⟩
        · rw [hUsed, nmea, hMask, hInv.used]
          simp [hZero]
        · intro _
          exact hFresh.trans hZero
        · intro hNot
          exact absurd (hNone.mpr (Or.inl hZero)) hNot
      · simp only [hZero, if_false] at hMask
        refine ⟨?_, ?_, ?_⟩
        · rw [hUsed, nmea, hMask]
          exact iff_of_true hZero (Or.inl hZero)
        · intro hOpen
          rcases hNone.mp hOpen with hNow | ⟨-, hNow⟩
          · exact absurd hNow hZero
          · exact absurd hZero hNow
        · intro _
          exact hFresh.trans hMask.symm
  | pos location locationExtended mode generate_nmea =>
      simp only [Report.Uses, Report.UsesNone, Report.Lists,
        false_or, not_false_eq_true, and_true] at hUsed hNone
      cases generate_nmea with
      | true =>
          have hMask :
              ((nmea fops ops).step cache
                (.pos location locationExtended mode
                  true)).1.sv_used_mask = 0 :=
            (generatePos_gsa fops cache _).1
          refine ⟨?_, ?_, ?_⟩
          · rw [hUsed, hMask]
            simp
          · intro _
            exact hFresh
          · intro _
            exact hFresh.trans hMask.symm
      | false =>
          have hMask :
              ((nmea fops ops).step cache
                (.pos location locationExtended mode
                  false)).1.sv_used_mask =
                cache.sv_used_mask := rfl
          refine ⟨?_, ?_, ?_⟩
          · rw [hUsed, hMask, hInv.used]
            simp
          · intro hOpen
            exact hFresh.trans (hInv.none (hNone.mp hOpen))
          · intro hNot
            rw [hMask]
            exact
              hFresh.trans
                (hInv.some fun hOpen =>
                  hNot (hNone.mpr hOpen))

theorem cacheInv_init
    (fops : FloatOps F)
    (ops : PositionOps F D) :
    CacheInv ([] : List (Report F D)) (nmea fops ops).init := by
  refine ⟨?_, ?_, ?_⟩
  · simp [nmea, History.not_open_nil]
  · intro hOpen
    exact absurd hOpen History.not_open_nil
  · intro _
    rfl

/- One position report, from a cache of the reports. -/
theorem listsFresh_event_iff
    (fops : FloatOps F)
    (ops : PositionOps F D)
    (hMinutes : ∀ x, ',' ∉ ops.minutesText x)
    {before :
      List
        (Transducer.Event (NmeaCache F) (Report F D) Sent)}
    {cache : NmeaCache F}
    (hInv :
      CacheInv (before.map Transducer.Event.input) cache)
    (i : Report F D) :
    ListsFresh before ((nmea fops ops).event cache i) ↔
      (i.Lists →
        ¬ Stale (before.map Transducer.Event.input)) := by
  unfold ListsFresh
  apply forall_congr'
  intro hLists
  cases i with
  | sv svStatus locationExtended => exact hLists.elim
  | pos location locationExtended mode generate_nmea =>
      have hTrue : generate_nmea = true := hLists
      subst hTrue
      rcases
        generatePosition_names fops ops cache location
          locationExtended mode hMinutes with
        ⟨gsa, later, hOutput, hGsa, hGga⟩
      constructor
      · rintro ⟨gsa', later', hOutput', hFresh, -⟩
          ⟨hUses, hUsesNone⟩
        -- the types of the two fixes differ
        have hSame : gsa' = gsa :=
          (List.cons.inj (hOutput'.symm.trans hOutput)).1
        rw [hSame, hInv.none hUsesNone] at hFresh
        have hNone : satellites 0 = [] :=
          (satellites_eq_nil_iff 0).mpr rfl
        rw [hNone] at hFresh
        exact
          hInv.used.mpr hUses
            ((satellites_eq_nil_iff _).mp
              (hGsa.eq_nil hFresh))
      · intro hNotStale
        have hMask :
            freshMask (before.map Transducer.Event.input) =
              cache.sv_used_mask := by
          by_cases hNone :
              History.Open Report.UsesNone Report.Uses
                (before.map Transducer.Event.input)
          · have hEmpty : cache.sv_used_mask = 0 := by
              by_contra hSome
              exact
                hNotStale ⟨hInv.used.mp hSome, hNone⟩
            rw [hInv.none hNone, hEmpty]
          · exact hInv.some hNone
        rw [hMask]
        exact ⟨gsa, later, hOutput, hGsa, hGga⟩

/-
  All position reports of a run name fresh satellites
  exactly when no report that is not blank arrives while the
  cache is stale. There is no comma in the minutes of a
  coordinate, which are printed in front of the count.
-/
theorem listsFresh_iff
    (fops : FloatOps F)
    (ops : PositionOps F D)
    (hMinutes : ∀ x, ',' ∉ ops.minutesText x)
    (is : List (Report F D)) :
    History.Along ListsFresh ((nmea fops ops).history is) ↔
      History.Along
        (fun before e =>
          e.input.Lists →
            ¬ Stale (before.map Transducer.Event.input))
        ((nmea fops ops).history is) := by
  apply (nmea fops ops).along_congr (A := fun _ => True)
    (I := fun h cache =>
      CacheInv (h.map Transducer.Event.input) cache)
  · exact cacheInv_init fops ops
  · intro h cache i hInv _
    rw [List.map_append]
    exact cacheInv_step fops ops hInv i
  · intro h cache i hInv _
    exact listsFresh_event_iff fops ops hMinutes hInv i
  · simp

theorem comma_not_mem_wholeMinutes (n : Int) :
    ',' ∉ wholePositionOps.minutesText n := by
  change ',' ∉ formatInt 2 n ++ ".000000".toList
  rw [List.mem_append, not_or]
  exact ⟨comma_not_mem_formatInt 2 n, by decide⟩

/- No satellite in view, and a mask of those in use. -/
def maskOnly (mask : BitVec 32) : Report Int Int :=
  .sv ⟨[], Nat.zero_le _, mask⟩ seaLevel.toLocationExtended

/- A final fix. -/
def finalFix : Report Int Int :=
  .pos (highLocation 0) seaLevel .standalone true

/- Satellites 1 and 3 are used, once. -/
theorem listsFresh_iff_once :
    History.Along ListsFresh
      ((nmea wholeOps wholePositionOps).history
        [maskOnly 5, finalFix, finalFix]) := by
  apply
    (listsFresh_iff wholeOps wholePositionOps
      comma_not_mem_wholeMinutes _).mpr
  intro before e after hSplit _ hStale
  have hInputs :
      (before.map Transducer.Event.input) ++
          e.input :: after.map Transducer.Event.input =
        [maskOnly 5, finalFix, finalFix] := by
    have hMap := congrArg (List.map Transducer.Event.input) hSplit
    rw [List.map_append, List.map_cons] at hMap
    exact hMap.symm
  apply History.not_open_of_forall_not ?_ hStale.2
  intro i hi
  have hMem :
      i ∈ [maskOnly 5, finalFix, finalFix] := by
    rw [← hInputs]
    exact List.mem_append_left _ hi
  simp only [List.mem_cons, List.not_mem_nil, or_false,
    or_self] at hMem
  rcases hMem with rfl | rfl
  · simp [Report.UsesNone, maskOnly]
  · simp [Report.UsesNone, finalFix]

/-
  Satellite 1 is used, then none, and then a position is
  reported with satellite 1.
-/
theorem stale_satellite :
    ¬ History.Along ListsFresh
        ((nmea wholeOps wholePositionOps).history
          ([maskOnly 1, maskOnly 0] ++ [finalFix])) := by
  rw [Transducer.history_concat, History.along_concat]
  rintro ⟨-, hLast⟩
  have hInputs :
      ((nmea wholeOps wholePositionOps).history
          [maskOnly 1, maskOnly 0]).map
        Transducer.Event.input =
        [maskOnly 1, maskOnly 0] := rfl
  have hInv :
      CacheInv [maskOnly 1, maskOnly 0]
        ((nmea wholeOps wholePositionOps).run
          [maskOnly 1, maskOnly 0]) := by
    have hOne :=
      cacheInv_step wholeOps wholePositionOps
        (cacheInv_init wholeOps wholePositionOps)
        (maskOnly 1)
    exact
      cacheInv_step wholeOps wholePositionOps hOne
        (maskOnly 0)
  rw [← hInputs] at hInv
  apply
    (listsFresh_event_iff wholeOps wholePositionOps
      comma_not_mem_wholeMinutes hInv _).mp hLast rfl
  rw [hInputs]
  constructor
  · refine ⟨[], maskOnly 1, [maskOnly 0], rfl, ?_, ?_⟩
    · simp [Report.Uses, maskOnly]
    · simp [Report.Lists, maskOnly]
  · refine ⟨[maskOnly 1], maskOnly 0, [], rfl, ?_, ?_⟩
    · simp [Report.UsesNone, maskOnly]
    · simp

end Nmea

end D2Common
