import D2Common.Eng.Adapter
import D2Common.Nmea.Layout
import D2Common.Nmea.UsedMask

/-
  The sentences of a position report.

  Behind `$GPGSA` a report on a final fix has `$GPVTG`,
  `$GPRMC` and `$GPGGA`, made of the location, the broken-down
  time and the mode of the session; `$GPGGA` also counts the
  satellites in the cache. Floating-point numbers of both
  widths are parameters, with what the code computes of them
  and the texts that they are printed as.

  Key definitions include:
    * `PositionOps`
    * `vtg`
    * `rmc`
    * `gga`
    * `generatePosition`

  Key theorems include:
    * `generatePosition_sent`
    * `only_whole_sentences_iff`
-/

------------------------------------------------------------
-- Locations
------------------------------------------------------------

namespace D2Common

namespace Nmea

open Eng (LocPositionMode)

/- What is read of `tm`. -/
structure Tm where
  tm_year : BitVec 32
  tm_mon : BitVec 32
  tm_mday : BitVec 32
  tm_hour : BitVec 32
  tm_min : BitVec 32
  tm_sec : BitVec 32

/-
  What the code does with numbers of type `float`, which are
  the `F`, and of type `double`, which are the `D`.
-/
structure PositionOps (F D : Type) where
  -- `gmtime` of a number of milliseconds
  gmtime : BitVec 64 → Tm
  -- `x < 0.0`, `x > 360.0`
  negative : F → Bool
  above360 : F → Bool
  -- `x - y`, `x + 360.0`, `x - 360.0`, `x * -1.0`
  sub : F → F → F
  add360 : F → F
  sub360 : F → F
  negate : F → F
  -- `x * (3600.0/1852.0)`, `x * 3.6`
  knots : F → F
  kmPerHour : F → F
  -- `"%.1lf"`
  tenths : F → Sentence
  -- the same for `double`
  positiveD : D → Bool
  negativeD : D → Bool
  negateD : D → D
  tenthsD : D → Sentence
  -- `x - y` for a `double` and a `float`
  subD : D → F → D
  -- `(uint8_t)floor(x)`, `fmod(x * 60.0, 60.0)`
  degrees : D → BitVec 8
  minutes : D → D
  -- `"%09.6lf"`
  minutesText : D → Sentence

/- What is read of `GpsLocation`. -/
structure GpsLocation (F D : Type) where
  flags : BitVec 16
  latitude : D
  longitude : D
  altitude : D
  speed : F
  bearing : F
  timestamp : BitVec 64

/- What is read of `GpsLocationExtended`. -/
structure PositionExtended (F : Type)
    extends LocationExtended F where
  altitudeMeanSeaLevel : F
  magneticDeviation : F

/- `GPS_LOCATION_HAS_LAT_LONG`. -/
def hasLatLong : BitVec 16 := 0x0001

/- `GPS_LOCATION_HAS_ALTITUDE`. -/
def hasAltitude : BitVec 16 := 0x0002

/- `GPS_LOCATION_HAS_SPEED`. -/
def hasSpeed : BitVec 16 := 0x0004

/- `GPS_LOCATION_HAS_BEARING`. -/
def hasBearing : BitVec 16 := 0x0008

/- `GPS_LOCATION_EXTENDED_HAS_ALTITUDE_MEAN_SEA_LEVEL`. -/
def hasAltitudeMeanSeaLevel : BitVec 16 := 0x0002

/- `GPS_LOCATION_EXTENDED_HAS_MAG_DEV`. -/
def hasMagDev : BitVec 16 := 0x0004

/- The conversion `%w.pd` where `w` is no more than `p`. -/
def formatPrecision
    (precision : Nat)
    (n : Int) : Sentence :=
  let digits := zeroPadded precision (Nat.toDigits 10 n.natAbs)
  if n < 0 then '-' :: digits else digits

end Nmea

end D2Common

------------------------------------------------------------
-- Fields
------------------------------------------------------------

namespace D2Common

namespace Nmea

open Eng (LocPositionMode)

variable {F D : Type}

section Fields

variable (ops : PositionOps F D)
variable (location : GpsLocation F D)
variable (locationExtended : PositionExtended F)

/- `"%02d%02d%02d"` of the time of day. -/
def timeText : Sentence :=
  let pTm := ops.gmtime location.timestamp
  formatInt 2 pTm.tm_hour.toInt ++
    formatInt 2 pTm.tm_min.toInt ++
    formatInt 2 pTm.tm_sec.toInt

theorem comma_not_mem_timeText :
    ',' ∉ timeText ops location := by
  unfold timeText
  simp only [List.mem_append, not_or]
  exact
    ⟨⟨comma_not_mem_formatInt _ _,
      comma_not_mem_formatInt _ _⟩,
        comma_not_mem_formatInt _ _⟩

/- `"%2.2d%2.2d%2.2d,"` of the date. -/
def dateText : Sentence :=
  let pTm := ops.gmtime location.timestamp
  let utcYear := pTm.tm_year.srem 100
  let utcMonth := pTm.tm_mon + 1
  formatPrecision 2 pTm.tm_mday.toInt ++
    formatPrecision 2 utcMonth.toInt ++
    formatPrecision 2 utcYear.toInt ++ [',']

/- `"%02d%09.6lf,%c,%03d%09.6lf,%c,"`, if it is known. -/
def latLongText : Sentence :=
  if location.flags &&& hasLatLong ≠ 0 then
    let (latitude, latHemisphere) :=
      if ops.positiveD location.latitude then
        (location.latitude, 'N')
      else
        (ops.negateD location.latitude, 'S')
    let (longitude, lonHemisphere) :=
      if ops.negativeD location.longitude then
        (ops.negateD location.longitude, 'W')
      else
        (location.longitude, 'E')
    formatInt 2 (ops.degrees latitude).toNat ++
      ops.minutesText (ops.minutes latitude) ++
      [',', latHemisphere, ','] ++
      formatInt 3 (ops.degrees longitude).toNat ++
      ops.minutesText (ops.minutes longitude) ++
      [',', lonHemisphere, ',']
  else
    ",,,,".toList

/-
  The magnetic track. The corrected value is that of another
  variable of the same name, in an inner block, and is lost
  where this block ends.
-/
def magTrack : F :=
  let magTrack := location.bearing
  if locationExtended.flags &&& hasMagDev ≠ 0 then
    let _inner :=
      let difference :=
        ops.sub location.bearing
          locationExtended.magneticDeviation
      if ops.negative difference then ops.add360 difference
      else if ops.above360 difference then
        ops.sub360 difference
      else difference
    magTrack
  else magTrack

/- The first text of `$GPVTG`. -/
def tracksText : Sentence :=
  if location.flags &&& hasBearing ≠ 0 then
    "$GPVTG,".toList ++ ops.tenths location.bearing ++
      ",T,".toList ++
      ops.tenths (magTrack ops location locationExtended) ++
      ",M,".toList
  else
    "$GPVTG,,T,,M,".toList

/- The speed in `$GPVTG`. -/
def speedsText : Sentence :=
  if location.flags &&& hasSpeed ≠ 0 then
    ops.tenths (ops.knots location.speed) ++ ",N,".toList ++
      ops.tenths (ops.kmPerHour location.speed) ++
      ",K,".toList
  else
    ",N,,K,".toList

/- The speed in `$GPRMC`. -/
def speedText : Sentence :=
  if location.flags &&& hasSpeed ≠ 0 then
    ops.tenths (ops.knots location.speed) ++ [',']
  else
    [',']

/- The bearing in `$GPRMC`. -/
def bearingText : Sentence :=
  if location.flags &&& hasBearing ≠ 0 then
    ops.tenths location.bearing ++ [',']
  else
    [',']

/- The magnetic variation in `$GPRMC`. -/
def variationText : Sentence :=
  if locationExtended.flags &&& hasMagDev ≠ 0 then
    let magneticVariation := locationExtended.magneticDeviation
    let (magneticVariation, direction) :=
      if ops.negative magneticVariation then
        (ops.negate magneticVariation, 'W')
      else
        (magneticVariation, 'E')
    ops.tenths magneticVariation ++ [',', direction, ',']
  else
    ",,".toList

/- The altitude in `$GPGGA`. -/
def altitudeText : Sentence :=
  if locationExtended.flags &&&
      hasAltitudeMeanSeaLevel ≠ 0 then
    ops.tenths locationExtended.altitudeMeanSeaLevel ++
      ",M,".toList
  else
    ",,".toList

/- The height of the geoid in `$GPGGA`. -/
def separationText : Sentence :=
  if location.flags &&& hasAltitude ≠ 0 ∧
      locationExtended.flags &&&
        hasAltitudeMeanSeaLevel ≠ 0 then
    ops.tenthsD
        (ops.subD location.altitude
          locationExtended.altitudeMeanSeaLevel) ++
      ",M,,".toList
  else
    ",,,".toList

/- `N`, `A` or `D`: no fix, autonomous, differential. -/
def modeIndicator (mode : LocPositionMode) : Char :=
  if location.flags &&& hasLatLong = 0 then 'N'
  else if mode = .standalone then 'A'
  else 'D'

/- `0`, `1` or `2`: no fix, GPS fix, DGPS fix. -/
def gpsQuality (mode : LocPositionMode) : Char :=
  if location.flags &&& hasLatLong = 0 then '0'
  else if mode = .standalone then '1'
  else '2'

/- `"%c,%02d,%.1f,"`, with one of the two sources of HDOP. -/
def qualityText
    (fops : FloatOps F)
    (cache : NmeaCache F)
    (svUsedCount : Nat)
    (mode : LocPositionMode) : Sentence :=
  let hdop :=
    if locationExtended.flags &&& hasDop ≠ 0 then
      ops.tenths locationExtended.hdop
    else if
      fops.positive cache.pdop && fops.positive cache.hdop &&
        fops.positive cache.vdop then
      ops.tenths cache.hdop
    else
      []
  [gpsQuality location mode, ','] ++
    formatInt 2 svUsedCount ++ [','] ++ hdop ++ [',']

end Fields

end Nmea

end D2Common

------------------------------------------------------------
-- Reports
------------------------------------------------------------

namespace D2Common

namespace Nmea

open Eng (LocPositionMode)

variable {F D : Type}

section Report

variable (fops : FloatOps F)
variable (ops : PositionOps F D)
variable (cache : NmeaCache F)
variable (location : GpsLocation F D)
variable (locationExtended : PositionExtended F)
variable (mode : LocPositionMode)

/- `svUsedCount`. -/
def svUsedCount : Nat :=
  (svUsed 1 cache.sv_used_mask []).length

/- `$GPGSA`. -/
def gsa : Layout where
  checked :=
    ("$GPGSA,A,".toList ++
        [fixType (svUsedCount cache), ',']) ::
      (List.range 12).map
        (gsaField (svUsed 1 cache.sv_used_mask []))
  last :=
    dopField fops cache locationExtended.toLocationExtended

/- `$GPVTG`. -/
def vtg : Layout where
  checked :=
    [tracksText ops location locationExtended,
      speedsText ops location]
  last := [modeIndicator location mode]

/- `$GPRMC`. -/
def rmc : Layout where
  checked :=
    ["$GPRMC,".toList ++ timeText ops location ++
        ",A,".toList,
      latLongText ops location,
      speedText ops location,
      bearingText ops location,
      dateText ops location,
      variationText ops locationExtended]
  last := [modeIndicator location mode]

/- `$GPGGA`. -/
def gga : Layout where
  checked :=
    ["$GPGGA,".toList ++ timeText ops location ++ [','],
      latLongText ops location,
      qualityText ops location locationExtended fops cache
        (svUsedCount cache) mode,
      altitudeText ops locationExtended]
  last := separationText ops location locationExtended

/- What a report has behind `$GPGSA`. -/
def posReport : PosReport F :=
  let (later, complete) :=
    sendLayouts
      [vtg ops location locationExtended mode,
        rmc ops location locationExtended mode,
        gga fops ops cache location locationExtended mode]
  ⟨locationExtended.toLocationExtended, later, complete⟩

/- `loc_eng_nmea_generate_pos`, with all its sentences. -/
def generatePosition
    (generate_nmea : Bool) : NmeaCache F × List Sent :=
  generatePos fops cache
    (posReport fops ops cache location locationExtended mode)
    generate_nmea

/- The sentences for no fix, as `strlcpy` leaves them. -/
def blankLayouts : List Layout :=
  ["$GPGSA,A,1,,,,,,,,,,,,,,,", "$GPVTG,,T,,M,,N,,K,N",
    "$GPRMC,,V,,,,,,,,,,N", "$GPGGA,,,,,,0,,,,,,,,"].map
      fun text => ⟨[], text.toList⟩

/- The sentences of a report, in order. -/
def reportLayouts (generate_nmea : Bool) : List Layout :=
  if generate_nmea then
    [gsa fops cache locationExtended,
      vtg ops location locationExtended mode,
      rmc ops location locationExtended mode,
      gga fops ops cache location locationExtended mode]
  else
    blankLayouts

end Report

end Nmea

end D2Common

------------------------------------------------------------
-- What a Report Sends
------------------------------------------------------------

namespace D2Common

namespace Nmea

open Eng (LocPositionMode)

variable {F D : Type}

/- The fields of `$GPGSA` are appended like all others. -/
theorem appendFields_eq_appendAll
    (svUsedList : List Nat)
    (is : List Nat)
    (sentence : Sentence) :
    appendFields svUsedList is sentence =
      appendAll (is.map (gsaField svUsedList)) sentence := by
  induction is generalizing sentence with
  | nil => rfl
  | cons i is ih =>
      simp only [appendFields, List.map_cons, appendAll, ih]

/- A text that `strlcpy` does not cut. -/
theorem write_copied
    {text : Sentence}
    (hFits : text.length < nmeaSentenceMaxLength) :
    Layout.write ⟨[], text⟩ =
      some (putChecksum text nmeaSentenceMaxLength) := by
  have hWhole : text.take (nmeaSentenceMaxLength - 1) = text := by
    apply List.take_of_length_le
    omega
  simp only [Layout.write, appendAll, Option.bind_eq_bind,
    Option.bind_some, appendCut, lengthRemaining,
    List.length_nil, Nat.sub_zero, List.nil_append, hWhole]

theorem sendLayouts_blank :
    sendLayouts blankLayouts = (blankSentences, true) := by
  have hCopied (text : Sentence)
      (hFits : text.length < nmeaSentenceMaxLength) :=
    write_copied hFits
  simp only [blankLayouts, List.map_cons, List.map_nil,
    sendLayouts]
  rw [hCopied _ (by decide), hCopied _ (by decide),
    hCopied _ (by decide), hCopied _ (by decide)]
  rfl

section Report

variable (fops : FloatOps F)
variable (ops : PositionOps F D)
variable (cache : NmeaCache F)
variable (location : GpsLocation F D)
variable (locationExtended : PositionExtended F)
variable (mode : LocPositionMode)

/- The part on `$GPGSA`, and what follows it. -/
theorem generatePos_eq
    (report : PosReport F)
    (hExtended :
      report.locationExtended =
        locationExtended.toLocationExtended) :
    (generatePos fops cache report true).2 =
      match (gsa fops cache locationExtended).write with
      | none => []
      | some sent => sent :: report.later := by
  unfold generatePos Layout.write gsa
  simp only [if_true, appendAll, ← appendFields_eq_appendAll,
    hExtended, svUsedCount]
  cases append []
      ("$GPGSA,A,".toList ++
        [fixType (svUsed 1 cache.sv_used_mask []).length,
          ',']) with
  | none => rfl
  | some sentence =>
      simp only [Option.bind_eq_bind, Option.bind_some]
      cases appendFields (svUsed 1 cache.sv_used_mask [])
          (List.range 12) sentence with
      | none => rfl
      | some sentence =>
          simp only [Option.bind_some]
          split <;> rfl

/- A report sends its layouts, up to a check that fails. -/
theorem generatePosition_sent
    (generate_nmea : Bool) :
    (generatePosition fops ops cache location
        locationExtended mode generate_nmea).2 =
      (sendLayouts
        (reportLayouts fops ops cache location
          locationExtended mode generate_nmea)).1 := by
  cases generate_nmea with
  | false =>
      have hBlank := congrArg Prod.fst sendLayouts_blank
      exact hBlank.symm
  | true =>
      unfold generatePosition
      rw [generatePos_eq fops cache locationExtended _ rfl]
      simp only [reportLayouts, if_true, sendLayouts,
        posReport]
      cases (gsa fops cache locationExtended).write <;> rfl

/-
  Every sentence that a report sends is whole if and only if
  each has room for its last text and its checksum when the
  checks of its other texts, and of all sentences before it,
  pass.
-/
theorem only_whole_sentences_iff
    (generate_nmea : Bool) :
    let sent :=
      (generatePosition fops ops cache location
        locationExtended mode generate_nmea).2
    let layouts :=
      reportLayouts fops ops cache location
        locationExtended mode generate_nmea
    List.Forall₂ Whole (layouts.take sent.length) sent ↔
      Room layouts := by
  intro sent layouts
  have hSent : sent = (sendLayouts layouts).1 :=
    generatePosition_sent fops ops cache location
      locationExtended mode generate_nmea
  rw [hSent]
  exact whole_sendLayouts_iff layouts

end Report

end Nmea

end D2Common

------------------------------------------------------------
-- A Height of Two Hundred Digits
------------------------------------------------------------

namespace D2Common

namespace Nmea

/- Numbers that are whole, with one digit behind the point. -/
def wholeTenths (n : Int) : Sentence :=
  formatInt 0 n ++ ".0".toList

/- The operations of `$GPGSA` on whole numbers. -/
def wholeOps : FloatOps Int where
  zero := 0
  positive n := 0 < n
  round n := BitVec.ofInt 32 n
  dopText pdop hdop vdop :=
    wholeTenths pdop ++ [','] ++ wholeTenths hdop ++ [','] ++
      wholeTenths vdop

/- The operations of all the others, at midnight. -/
def wholePositionOps : PositionOps Int Int where
  gmtime _ := ⟨70, 0, 1, 0, 0, 0⟩
  negative n := n < 0
  above360 n := 360 < n
  sub n m := n - m
  add360 n := n + 360
  sub360 n := n - 360
  negate n := -n
  knots n := n * 3600 / 1852
  kmPerHour n := n * 18 / 5
  tenths := wholeTenths
  positiveD n := 0 < n
  negativeD n := n < 0
  negateD n := -n
  tenthsD := wholeTenths
  subD n m := n - m
  degrees n := BitVec.ofInt 8 n
  minutes n := n * 60 % 60
  minutesText n := formatInt 2 n ++ ".000000".toList

/- A location with a position and an altitude. -/
def highLocation (altitude : Int) : GpsLocation Int Int where
  flags := hasLatLong ||| hasAltitude
  latitude := 0
  longitude := 0
  altitude := altitude
  speed := 0
  bearing := 0
  timestamp := 0

/- An altitude above the sea, which is at zero. -/
def seaLevel : PositionExtended Int where
  flags := hasAltitudeMeanSeaLevel
  pdop := 0
  hdop := 0
  vdop := 0
  altitudeMeanSeaLevel := 0
  magneticDeviation := 0

/- A power of ten has one digit more than its exponent. -/
theorem lt_length_formatInt_pow (n : Nat) :
    n < (formatInt 0 ((10 : Int) ^ n)).length := by
  have hDigits :
      ¬ (Nat.toDigits 10 (10 ^ n)).length ≤ n := by
    cases n with
    | zero => decide
    | succ n =>
        rw [Nat.length_toDigits_le_iff (by omega) (by omega)]
        exact lt_irrefl _
  have hNumber :=
    length_toDigits_le_formatInt 0 ((10 : Int) ^ n)
  have hNatAbs : ((10 : Int) ^ n).natAbs = 10 ^ n := by
    rw [Int.natAbs_pow]
    rfl
  rw [hNatAbs] at hNumber
  omega

/- The last field of `$GPGGA` starts with the height. -/
theorem last_gga_highLocation
    (cache : NmeaCache Int)
    (altitude : Int) :
    (gga wholeOps wholePositionOps cache
        (highLocation altitude) seaLevel .standalone).last =
      formatInt 0 altitude ++ ".0".toList ++
        ",M,,".toList := by
  simp [gga, separationText, highLocation, seaLevel,
    hasLatLong, hasAltitude, hasAltitudeMeanSeaLevel,
    wholePositionOps, wholeTenths]

/-
  At an altitude of 10^200 the last field of `$GPGGA` does not
  fit. Its append is not checked, and the sentence is sent.
-/
theorem highLocation_cut :
    let generate :=
      generatePosition wholeOps wholePositionOps ⟨0, 0, 0, 0⟩
        (highLocation (10 ^ 200)) seaLevel .standalone true
    ¬ List.Forall₂ Whole
      ((reportLayouts wholeOps wholePositionOps ⟨0, 0, 0, 0⟩
        (highLocation (10 ^ 200)) seaLevel .standalone
        true).take generate.2.length)
      generate.2 := by
  intro generate
  have hSent : generate.2 = _ :=
    generatePosition_sent wholeOps wholePositionOps
      ⟨0, 0, 0, 0⟩ (highLocation (10 ^ 200)) seaLevel
      .standalone true
  rw [hSent, whole_sendLayouts_iff]
  intro hRoom
  have hNone : svUsed 1 0 [] = [] := by
    rw [svUsed_eq]
    decide
  have hFits := hRoom
    [gsa wholeOps ⟨0, 0, 0, 0⟩ seaLevel,
      vtg wholePositionOps (highLocation (10 ^ 200))
        seaLevel .standalone,
      rmc wholePositionOps (highLocation (10 ^ 200))
        seaLevel .standalone]
    (gga wholeOps wholePositionOps ⟨0, 0, 0, 0⟩
      (highLocation (10 ^ 200)) seaLevel .standalone)
    [] rfl ?_
  · have hDigits := lt_length_formatInt_pow 200
    unfold Layout.Fits Layout.text at hFits
    rw [last_gga_highLocation] at hFits
    simp only [List.length_append] at hFits
    have hMax : nmeaSentenceMaxLength = 200 := rfl
    omega
  · simp only [gsa, vtg, rmc, gga, svUsedCount, hNone]
    decide

end Nmea

end D2Common
