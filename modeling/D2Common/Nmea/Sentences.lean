import D2Common.Nmea.Format

/-
  The sentences of satellite and position reports.

  A satellite report lists the satellites in view, for GPS
  and for GLONASS, and leaves the mask of those that were
  used in a cache. The next position report lists these in
  `$GPGSA` and empties the cache. A blank position report
  lists none and leaves the mask alone.

  Floating-point numbers are a parameter. So are here the
  sentences of a position report behind `$GPGSA`: they are
  made of the location and, as to the satellites in use and
  the dilution of precision in `$GPGGA`, of the cache.

  Key definitions include:
    * `NmeaCache`
    * `generateSv`
    * `generatePos`

  Key theorems include:
    * `length_formatInt_prn_le`
    * `length_gsvHeader_le`
-/

------------------------------------------------------------
-- Reports
------------------------------------------------------------

namespace D2Common

namespace Nmea

/- What the code does with floating-point numbers. -/
structure FloatOps (F : Type) where
  zero : F
  -- `x > 0`
  positive : F → Bool
  -- `(int)(0.5 + x)`
  round : F → BitVec 32
  -- `"%.1f,%.1f,%.1f"`
  dopText : F → F → F → Sentence

/- `GpsSvInfo`. -/
structure SvInfo (F : Type) where
  prn : BitVec 32
  snr : F
  elevation : F
  azimuth : F

/- `GPS_MAX_SVS`. -/
def gpsMaxSvs : Nat := 32

/- `GpsSvStatus`, with the first `num_svs` of its list. -/
structure SvStatus (F : Type) where
  sv_list : List (SvInfo F)
  num_svs_le : sv_list.length ≤ gpsMaxSvs
  used_in_fix_mask : BitVec 32

/- What is read of `GpsLocationExtended` for `$GPGSA`. -/
structure LocationExtended (F : Type) where
  flags : BitVec 16
  pdop : F
  hdop : F
  vdop : F

/- `GPS_LOCATION_EXTENDED_HAS_DOP`. -/
def hasDop : BitVec 16 := 0x0001

/-
  A position report: `later` are the sentences that are sent
  behind `$GPGSA`, and `complete` tells whether none of them
  has met an error.
-/
structure PosReport (F : Type) where
  locationExtended : LocationExtended F
  later : List Sent
  complete : Bool

/- What the two functions keep in `loc_eng_data`. -/
structure NmeaCache (F : Type) where
  sv_used_mask : BitVec 32
  pdop : F
  hdop : F
  vdop : F

variable {F : Type}

/- The sentences for no fix. -/
def blankSentences : List Sent :=
  [putChecksum "$GPGSA,A,1,,,,,,,,,,,,,,,".toList
      nmeaSentenceMaxLength,
    putChecksum "$GPVTG,,T,,M,,N,,K,N".toList
      nmeaSentenceMaxLength,
    putChecksum "$GPRMC,,V,,,,,,,,,,N".toList
      nmeaSentenceMaxLength,
    putChecksum "$GPGGA,,,,,,0,,,,,,,,".toList
      nmeaSentenceMaxLength]

/- `pdop`, `hdop` and `vdop` as they are reset. -/
def NmeaCache.clearDop
    (ops : FloatOps F)
    (cache : NmeaCache F) : NmeaCache F :=
  { cache with
    pdop := ops.zero
    hdop := ops.zero
    vdop := ops.zero }

end Nmea

end D2Common

------------------------------------------------------------
-- Satellite Reports
------------------------------------------------------------

namespace D2Common

namespace Nmea

variable {F : Type}

/- A system of satellites, and the numbers of its own. -/
structure Constellation where
  talker : Sentence
  prnStart : Int
  prnEnd : Int

/- `$GPGSV`, from `GPS_PRN_START` to `GPS_PRN_END`. -/
def gps : Constellation := ⟨"$GPGSV".toList, 1, 32⟩

/- `$GLGSV`, for GLONASS. -/
def glonass : Constellation := ⟨"$GLGSV".toList, 65, 96⟩

def Constellation.owns
    (c : Constellation)
    (sv : SvInfo F) : Bool :=
  c.prnStart ≤ sv.prn.toInt && sv.prn.toInt ≤ c.prnEnd

theorem Constellation.owns_iff
    (c : Constellation)
    (sv : SvInfo F) :
    c.owns sv = true ↔
      c.prnStart ≤ sv.prn.toInt ∧
        sv.prn.toInt ≤ c.prnEnd := by
  simp [Constellation.owns]

/- `gpsCount` and `glnCount`. -/
def counts : List (SvInfo F) → Nat × Nat
| [] => (0, 0)
| sv :: svs =>
    let (gpsCount, glnCount) := counts svs
    if gps.owns sv then (gpsCount + 1, glnCount)
    else if glonass.owns sv then (gpsCount, glnCount + 1)
    else (gpsCount, glnCount)

/- One satellite, at the end of a sentence. -/
def appendSv
    (ops : FloatOps F)
    (sentence : Sentence)
    (sv : SvInfo F) : Option Sentence := do
  let sentence ←
    append sentence
      ([','] ++ formatInt 2 sv.prn.toInt ++
        [','] ++ formatInt 2 (ops.round sv.elevation).toInt ++
        [','] ++ formatInt 3 (ops.round sv.azimuth).toInt ++
        [','])
  if ops.positive sv.snr then
    append sentence (formatInt 2 (ops.round sv.snr).toInt)
  else
    some sentence

/-
  The `for` loop of one sentence, for four satellites of a
  system at most. It also returns those not looked at.
-/
def appendSvs
    (ops : FloatOps F)
    (c : Constellation) :
    List (SvInfo F) → Nat → Sentence →
      Option (Sentence × List (SvInfo F))
| [], _, sentence => some (sentence, [])
| sv :: svs, i, sentence =>
    if 4 ≤ i then
      some (sentence, sv :: svs)
    else if c.owns sv then do
      let sentence ← appendSv ops sentence sv
      appendSvs ops c svs (i + 1) sentence
    else
      appendSvs ops c svs i sentence

/- `"$GPGSV,%d,%d,%02d"`. -/
def gsvHeader
    (c : Constellation)
    (sentenceCount sentenceNumber count : Nat) : Sentence :=
  c.talker ++
    [','] ++ formatInt 0 sentenceCount ++
    [','] ++ formatInt 0 sentenceNumber ++
    [','] ++ formatInt 2 count

/-
  The `while` loop over the sentences of a system, with the
  number of those that are left. An error ends it, and all
  that would follow.
-/
def gsvLoop
    (ops : FloatOps F)
    (c : Constellation)
    (sentenceCount count : Nat) :
    Nat → Nat → List (SvInfo F) → List Sent × Bool
| 0, _, _ => ([], true)
| left + 1, sentenceNumber, svs =>
    let written := do
      let sentence ←
        append []
          (gsvHeader c sentenceCount sentenceNumber count)
      appendSvs ops c svs 0 sentence
    match written with
    | none => ([], false)
    | some (sentence, svs) =>
        let (sent, complete) :=
          gsvLoop ops c sentenceCount count left
            (sentenceNumber + 1) svs
        (putChecksum sentence nmeaSentenceMaxLength :: sent,
          complete)

/- The part of a report on one system. -/
def gsv
    (ops : FloatOps F)
    (c : Constellation)
    (count : Nat)
    (svs : List (SvInfo F)) : List Sent × Bool :=
  if count = 0 then
    ([putChecksum (c.talker ++ ",1,1,0,".toList)
        nmeaSentenceMaxLength],
      true)
  else
    let sentenceCount :=
      count / 4 + (if count % 4 ≠ 0 then 1 else 0)
    gsvLoop ops c sentenceCount count sentenceCount 1 svs

/- `loc_eng_nmea_generate_sv`. -/
def generateSv
    (ops : FloatOps F)
    (cache : NmeaCache F)
    (svStatus : SvStatus F)
    (locationExtended : LocationExtended F) :
    NmeaCache F × List Sent :=
  let (gpsCount, glnCount) := counts svStatus.sv_list
  match gsv ops gps gpsCount svStatus.sv_list with
  | (gpsSent, false) => (cache, gpsSent)
  | (gpsSent, true) =>
      match gsv ops glonass glnCount svStatus.sv_list with
      | (glnSent, false) => (cache, gpsSent ++ glnSent)
      | (glnSent, true) =>
          let sent := gpsSent ++ glnSent
          if svStatus.used_in_fix_mask = 0 then
            (cache, sent ++ blankSentences)
          else
            let cache :=
              { cache with
                sv_used_mask := svStatus.used_in_fix_mask }
            if locationExtended.flags &&& hasDop ≠ 0 then
              (⟨cache.sv_used_mask, locationExtended.pdop,
                locationExtended.hdop,
                locationExtended.vdop⟩, sent)
            else
              (cache.clearDop ops, sent)

end Nmea

end D2Common

------------------------------------------------------------
-- Position Reports
------------------------------------------------------------

namespace D2Common

namespace Nmea

variable {F : Type}

/-
  The `for` loop that makes a list of the mask: `i` is the
  number of the satellite in the lowest bit.
-/
def svUsed
    (i : Nat)
    (mask : BitVec 32)
    (svUsedList : List Nat) : List Nat :=
  if _h : 0 < mask ∧ svUsedList.length < 32 then
    svUsed (i + 1) (mask >>> 1)
      (if mask &&& 1 ≠ 0 then svUsedList ++ [i]
      else svUsedList)
  else
    svUsedList
termination_by mask.toNat
decreasing_by
  have hPositive : 0 < mask.toNat := BitVec.lt_def.mp _h.1
  rw [BitVec.toNat_ushiftRight, Nat.shiftRight_eq_div_pow]
  omega

/- No fix, a fix in two dimensions, or in three. -/
def fixType (svUsedCount : Nat) : Char :=
  if svUsedCount = 0 then '1'
  else if svUsedCount ≤ 3 then '2'
  else '3'

/- `"%02d,"` for a satellite that is used, else `","`. -/
def gsaField
    (svUsedList : List Nat)
    (i : Nat) : Sentence :=
  match svUsedList[i]? with
  | some sv => formatInt 2 sv ++ [',']
  | none => [',']

/- The `for` loop over the fields of `$GPGSA`. -/
def appendFields
    (svUsedList : List Nat) :
    List Nat → Sentence → Option Sentence
| [], sentence => some sentence
| i :: is, sentence => do
    let sentence ← append sentence (gsaField svUsedList i)
    appendFields svUsedList is sentence

/- The last field, for which there are two sources. -/
def dopField
    (ops : FloatOps F)
    (cache : NmeaCache F)
    (locationExtended : LocationExtended F) : Sentence :=
  if locationExtended.flags &&& hasDop ≠ 0 then
    ops.dopText locationExtended.pdop locationExtended.hdop
      locationExtended.vdop
  else if
    ops.positive cache.pdop && ops.positive cache.hdop &&
      ops.positive cache.vdop then
    ops.dopText cache.pdop cache.hdop cache.vdop
  else
    ",,".toList

/- `loc_eng_nmea_generate_pos`. -/
def generatePos
    (ops : FloatOps F)
    (cache : NmeaCache F)
    (report : PosReport F)
    (generate_nmea : Bool) : NmeaCache F × List Sent :=
  if generate_nmea then
    let svUsedList := svUsed 1 cache.sv_used_mask []
    let cache := { cache with sv_used_mask := 0 }
    let written := do
      let sentence ←
        append []
          ("$GPGSA,A,".toList ++
            [fixType svUsedList.length, ','])
      -- only the first 12 go into the sentence
      appendFields svUsedList (List.range 12) sentence
    match written with
    | none => (cache, [])
    | some sentence =>
        let sentence :=
          appendCut sentence
            (dopField ops cache report.locationExtended)
        let gsa := putChecksum sentence nmeaSentenceMaxLength
        if report.complete then
          (cache.clearDop ops, gsa :: report.later)
        else
          (cache, gsa :: report.later)
  else
    (cache.clearDop ops, blankSentences)

end Nmea

end D2Common

------------------------------------------------------------
-- The Lengths of the Fields
------------------------------------------------------------

namespace D2Common

namespace Nmea

variable {F : Type}

/-
  A system whose numbers have two digits at most, and whose
  name is one field.
-/
structure Constellation.Short (c : Constellation) : Prop where
  talker : c.talker.length = 6
  one_field : ',' ∉ c.talker
  no_checksum : '*' ∉ c.talker
  prnStart : 0 ≤ c.prnStart
  prnEnd : c.prnEnd < 100

theorem gps_short : gps.Short :=
  ⟨by decide, by decide, by decide, by decide, by decide⟩

theorem glonass_short : glonass.Short :=
  ⟨by decide, by decide, by decide, by decide, by decide⟩

theorem length_formatInt_prn_le
    {c : Constellation}
    (hShort : c.Short)
    {sv : SvInfo F}
    (hOwns : c.owns sv = true) :
    (formatInt 2 sv.prn.toInt).length ≤ 2 := by
  have hStart := hShort.prnStart
  have hEnd := hShort.prnEnd
  have hRange := (c.owns_iff sv).mp hOwns
  obtain ⟨m, hm⟩ :=
    Int.eq_ofNat_of_zero_le (by omega : 0 ≤ sv.prn.toInt)
  rw [hm]
  exact
    length_formatInt_natCast_le 2 2 (by omega) (by omega)
      (by omega)

theorem length_gsvHeader_le
    {c : Constellation}
    (hShort : c.Short)
    {sentenceCount sentenceNumber count : Nat}
    (hSentenceCount : sentenceCount < 100)
    (hSentenceNumber : sentenceNumber < 100)
    (hCount : count < 100) :
    (gsvHeader c sentenceCount sentenceNumber count).length ≤
      15 := by
  have hFirst :=
    length_formatInt_natCast_le 0 2
      (by omega) (by omega) hSentenceCount
  have hSecond :=
    length_formatInt_natCast_le 0 2
      (by omega) (by omega) hSentenceNumber
  have hThird :=
    length_formatInt_natCast_le 2 2
      (by omega) (by omega) hCount
  have hTalker := hShort.talker
  simp only [gsvHeader, List.length_append,
    List.length_singleton]
  omega

end Nmea

end D2Common
