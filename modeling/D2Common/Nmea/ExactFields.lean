import D2Common.Foundations.FixedPoint
import D2Common.Nmea.Fields
import D2Common.Nmea.Position

/-
  Sentences of exact numbers.

  The file reads the fields of sentences for numbers that
  are exact and are printed by rounding to the nearest: the
  coordinates in `$GPRMC` and `$GPGGA`, and the tracks in
  `$GPVTG`.

  Key definitions include:
    * `exactOps`
    * `Decodes`
    * `CoordinatesDecode`
    * `expectedTrack`

  Key theorems include:
    * `decodes_coordinateText_iff`
    * `coordinates_decode_iff`
    * `magneticTrack_iff`
-/

------------------------------------------------------------
-- Exact Numbers
------------------------------------------------------------

namespace D2Common

namespace Nmea

open Eng (LocPositionMode)
open FixedPoint (decimalText decimalValue roundHalfEven
  scaled)

/- A number without its digits behind the point. -/
def truncate (x : ℚ) : ℤ :=
  if x < 0 then ⌈x⌉ else ⌊x⌋

/- `fmod`. -/
def fmod (x y : ℚ) : ℚ :=
  x - y * truncate (x / y)

/-
  The operations on exact numbers. There is one zero only:
  the negative zero of floating-point numbers, which is
  printed with a sign, is lost.
-/
def exactOps (gmtime : BitVec 64 → Tm) :
    PositionOps ℚ ℚ where
  gmtime := gmtime
  negative x := x < 0
  above360 x := 360 < x
  sub x y := x - y
  add360 x := x + 360
  sub360 x := x - 360
  negate x := x * -1
  knots x := x * (3600 / 1852)
  kmPerHour x := x * 18 / 5
  tenths := decimalText 0 1
  positiveD x := 0 < x
  negativeD x := x < 0
  negateD x := x * -1
  tenthsD := decimalText 0 1
  subD x y := x - y
  degrees x := BitVec.ofInt 8 ⌊x⌋
  minutes x := fmod (x * 60) 60
  minutesText := decimalText 9 6

/- The minutes of a coordinate. -/
def minutesOf (coordinate : ℚ) : ℚ :=
  fmod (|coordinate| * 60) 60

theorem minutesOf_eq (coordinate : ℚ) :
    minutesOf coordinate =
      60 * (|coordinate| - ⌊|coordinate|⌋) := by
  have hNonneg : (0 : ℚ) ≤ |coordinate| := abs_nonneg _
  unfold minutesOf fmod truncate
  rw [mul_div_cancel_right₀ _ (by norm_num : (60 : ℚ) ≠ 0),
    if_neg (not_lt.mpr hNonneg)]
  ring

theorem minutesOf_nonneg (coordinate : ℚ) :
    0 ≤ minutesOf coordinate := by
  rw [minutesOf_eq]
  have hFloor := Int.floor_le |coordinate|
  linarith

theorem comma_not_mem_decimalText
    (width precision : Nat)
    (x : ℚ) :
    ',' ∉ decimalText width precision x :=
  FixedPoint.not_mem_decimalText width precision x
    (by decide) (by decide) (by decide)

end Nmea

end D2Common

------------------------------------------------------------
-- Coordinates
------------------------------------------------------------

namespace D2Common

namespace Nmea

open Eng (LocPositionMode)
open FixedPoint (decimalText decimalValue roundHalfEven
  scaled)

/- The sign that a field for a hemisphere stands for. -/
def hemisphereSign (hemisphere : Sentence) : ℚ :=
  if hemisphere = ['N'] ∨ hemisphere = ['E'] then 1
  else if hemisphere = ['S'] ∨ hemisphere = ['W'] then -1
  else 0

/- The degrees in a field, which are its first digits. -/
def decodedDegrees
    (width : Nat)
    (field : Sentence) : Nat :=
  Nat.ofDigitChars 10 (field.take width) 0

/- The minutes, which are the rest of it. -/
def decodedMinutes
    (width : Nat)
    (field : Sentence) : ℚ :=
  decimalValue (field.drop width)

/- Two fields are those of a coordinate. -/
structure Decodes
    (width : Nat)
    (field hemisphere : Sentence)
    (coordinate : ℚ) : Prop where
  nonneg : 0 ≤ decodedMinutes width field
  below : decodedMinutes width field < 60
  near :
    |hemisphereSign hemisphere *
        (decodedDegrees width field +
          decodedMinutes width field / 60) -
        coordinate| ≤ 1 / 2 / 10 ^ 6 / 60

/- The fields of both coordinates, in order. -/
def CoordinatesDecode
    (latitude longitude : ℚ) : List Sentence → Prop
| lat :: latHemisphere :: lon :: lonHemisphere :: _ =>
    Decodes 2 lat latHemisphere latitude ∧
      Decodes 3 lon lonHemisphere longitude
| _ => False

/- The field that is written for a coordinate. -/
def coordinateText
    (width : Nat)
    (coordinate : ℚ) : Sentence :=
  formatInt width (BitVec.ofInt 8 ⌊|coordinate|⌋).toNat ++
    decimalText 9 6 (minutesOf coordinate)

/- `(uint8_t)floor(x)` of what is no more than a byte. -/
theorem toNat_degrees
    {x : ℚ}
    (hNonneg : 0 ≤ x)
    (hByte : x < 256) :
    (((BitVec.ofInt 8 ⌊x⌋).toNat : ℤ)) = ⌊x⌋ := by
  have hLower : 0 ≤ ⌊x⌋ := Int.floor_nonneg.mpr hNonneg
  have hUpper : ⌊x⌋ < 256 := by
    rw [Int.floor_lt]
    exact_mod_cast hByte
  rw [BitVec.toNat_ofInt]
  omega

/- The minutes are printed as less than 60 up to a half. -/
theorem scaled_minutes_lt_iff (coordinate : ℚ) :
    (scaled 6 (minutesOf coordinate) : ℚ) / 10 ^ 6 < 60 ↔
      minutesOf coordinate < 599999995 / 10 ^ 7 := by
  have hRound :=
    FixedPoint.scaled_cast (minutesOf_nonneg coordinate) 6
  have hEven :=
    FixedPoint.roundHalfEven_lt_iff
      (n := 60000000) (by decide)
      (minutesOf coordinate * 10 ^ 6)
  rw [← hRound] at hEven
  rw [div_lt_iff₀ (by norm_num)]
  constructor
  · intro hLess
    have hInt :
        (scaled 6 (minutesOf coordinate) : ℤ) < 60000000 := by
      have hCast :
          (scaled 6 (minutesOf coordinate) : ℚ) <
            (60000000 : ℕ) := by
        push_cast
        linarith
      exact_mod_cast hCast
    have hBelow := hEven.mp hInt
    push_cast at hBelow
    linarith
  · intro hLess
    have hInt := hEven.mpr (by
      push_cast
      linarith)
    have hCast :
        ((scaled 6 (minutesOf coordinate) : ℤ) : ℚ) <
          (60000000 : ℤ) := by
      exact_mod_cast hInt
    push_cast at hCast
    linarith

section Decode

variable {width : Nat}
variable {coordinate : ℚ}

/- The degrees fill the first digits of the field. -/
theorem length_degreesText
    (hWidth : 0 < width)
    (hByte : |coordinate| < 256)
    (hDigits : |coordinate| < 10 ^ width) :
    (formatInt width
      (BitVec.ofInt 8 ⌊|coordinate|⌋).toNat).length =
        width := by
  have hDegrees := toNat_degrees (abs_nonneg coordinate) hByte
  rw [formatInt_natCast]
  apply FixedPoint.length_leftpad_toDigits hWidth
  have hFloor : ⌊|coordinate|⌋ < 10 ^ width := by
    rw [Int.floor_lt]
    exact_mod_cast hDigits
  rw [← hDegrees] at hFloor
  exact_mod_cast hFloor

theorem decodedDegrees_coordinateText
    (hWidth : 0 < width)
    (hByte : |coordinate| < 256)
    (hDigits : |coordinate| < 10 ^ width) :
    (decodedDegrees width
      (coordinateText width coordinate) : ℚ) =
        ⌊|coordinate|⌋ := by
  have hDegrees := toNat_degrees (abs_nonneg coordinate) hByte
  unfold decodedDegrees coordinateText
  rw [List.take_left' (length_degreesText hWidth hByte hDigits),
    formatInt_natCast, FixedPoint.ofDigitChars_leftpad]
  exact_mod_cast congrArg (Int.cast : ℤ → ℚ) hDegrees

theorem decodedMinutes_coordinateText
    (hWidth : 0 < width)
    (hByte : |coordinate| < 256)
    (hDigits : |coordinate| < 10 ^ width) :
    decodedMinutes width (coordinateText width coordinate) =
      scaled 6 (minutesOf coordinate) / 10 ^ 6 := by
  unfold decodedMinutes coordinateText
  rw [List.drop_left' (length_degreesText hWidth hByte hDigits)]
  exact
    FixedPoint.decimalValue_decimalText
      (minutesOf_nonneg coordinate) 9 (by decide : 0 < 6)

/- The degrees are exact, and the minutes are rounded. -/
theorem abs_decoded_sub_le
    {sign : ℚ}
    (hSign : sign * |coordinate| = coordinate)
    (hUnit : |sign| = 1) :
    |sign *
          (⌊|coordinate|⌋ +
            scaled 6 (minutesOf coordinate) / 10 ^ 6 / 60) -
        coordinate| ≤ 1 / 2 / 10 ^ 6 / 60 := by
  have hRound :=
    FixedPoint.scaled_cast (minutesOf_nonneg coordinate) 6
  have hNear :=
    FixedPoint.abs_roundHalfEven_sub_le
      (minutesOf coordinate * 10 ^ 6)
  rw [← hRound] at hNear
  push_cast at hNear
  have hSplit :
      sign *
            (⌊|coordinate|⌋ +
              scaled 6 (minutesOf coordinate) / 10 ^ 6 / 60) -
          coordinate =
        sign *
          ((scaled 6 (minutesOf coordinate) -
              minutesOf coordinate * 10 ^ 6) /
            10 ^ 6 / 60) := by
    conv_lhs => rhs; rw [← hSign]
    rw [minutesOf_eq coordinate]
    ring
  rw [hSplit, abs_mul, hUnit, one_mul, abs_div, abs_div,
    abs_of_pos (by norm_num : (0 : ℚ) < 10 ^ 6),
    abs_of_pos (by norm_num : (0 : ℚ) < 60)]
  gcongr

/-
  A coordinate decodes if and only if its minutes are not
  rounded up to 60.
-/
theorem decodes_coordinateText_iff
    (hWidth : 0 < width)
    (hByte : |coordinate| < 256)
    (hDigits : |coordinate| < 10 ^ width)
    {hemisphere : Sentence}
    (hSign :
      hemisphereSign hemisphere * |coordinate| = coordinate)
    (hUnit : |hemisphereSign hemisphere| = 1) :
    Decodes width (coordinateText width coordinate)
        hemisphere coordinate ↔
      minutesOf coordinate < 599999995 / 10 ^ 7 := by
  have hDegrees :=
    decodedDegrees_coordinateText hWidth hByte hDigits
  have hMinutes :=
    decodedMinutes_coordinateText hWidth hByte hDigits
  have hLess := scaled_minutes_lt_iff coordinate
  constructor
  · intro hDecodes
    have hBelow := hDecodes.below
    rw [hMinutes] at hBelow
    exact hLess.mp hBelow
  · intro hBelow
    refine ⟨?_, ?_, ?_⟩
    · rw [hMinutes]
      positivity
    · rw [hMinutes]
      exact hLess.mpr hBelow
    · rw [hDegrees, hMinutes]
      exact abs_decoded_sub_le hSign hUnit

end Decode

/- The hemisphere of a latitude. -/
def latHemisphere (latitude : ℚ) : Char :=
  if 0 < latitude then 'N' else 'S'

/- The hemisphere of a longitude. -/
def lonHemisphere (longitude : ℚ) : Char :=
  if longitude < 0 then 'W' else 'E'

theorem latHemisphere_sign (latitude : ℚ) :
    hemisphereSign [latHemisphere latitude] * |latitude| =
        latitude ∧
      |hemisphereSign [latHemisphere latitude]| = 1 := by
  unfold latHemisphere
  by_cases hNorth : 0 < latitude
  · rw [if_pos hNorth, abs_of_pos hNorth]
    simp [hemisphereSign]
  · rw [if_neg hNorth, abs_of_nonpos (not_lt.mp hNorth)]
    simp [hemisphereSign]

theorem lonHemisphere_sign (longitude : ℚ) :
    hemisphereSign [lonHemisphere longitude] * |longitude| =
        longitude ∧
      |hemisphereSign [lonHemisphere longitude]| = 1 := by
  unfold lonHemisphere
  by_cases hWest : longitude < 0
  · rw [if_pos hWest, abs_of_neg hWest]
    simp [hemisphereSign]
  · rw [if_neg hWest, abs_of_nonneg (not_lt.mp hWest)]
    simp [hemisphereSign]

/- The fields of the position. -/
def coordinateFields
    (latitude longitude : ℚ) : List Sentence :=
  [coordinateText 2 latitude, [latHemisphere latitude],
    coordinateText 3 longitude, [lonHemisphere longitude]]

/- What both sentences say of it. -/
theorem latLongText_exact
    (gmtime : BitVec 64 → Tm)
    (location : GpsLocation ℚ ℚ)
    (hLatLong : location.flags &&& hasLatLong ≠ 0) :
    latLongText (exactOps gmtime) location =
      commaEnded
        (coordinateFields location.latitude
          location.longitude) := by
  have hLat :
      |location.latitude| =
        if 0 < location.latitude then location.latitude
        else location.latitude * -1 := by
    split
    · next hNorth => exact abs_of_pos hNorth
    · next hSouth =>
        rw [abs_of_nonpos (not_lt.mp hSouth), mul_neg_one]
  have hLon :
      |location.longitude| =
        if location.longitude < 0 then location.longitude * -1
        else location.longitude := by
    split
    · next hWest => rw [abs_of_neg hWest, mul_neg_one]
    · next hEast => exact abs_of_nonneg (not_lt.mp hEast)
  unfold latLongText coordinateFields coordinateText
    minutesOf latHemisphere lonHemisphere
  rw [if_pos hLatLong, hLat, hLon]
  by_cases hNorth : 0 < location.latitude <;>
    by_cases hWest : location.longitude < 0 <;>
      simp [exactOps, commaEnded, hNorth, hWest]

theorem comma_not_mem_coordinateFields
    (latitude longitude : ℚ) :
    ∀ text ∈ coordinateFields latitude longitude,
      ',' ∉ text := by
  have hText (width : Nat) (x : ℚ) :
      ',' ∉ coordinateText width x := by
    unfold coordinateText
    rw [List.mem_append, not_or]
    exact
      ⟨comma_not_mem_formatInt _ _,
        comma_not_mem_decimalText _ _ _⟩
  have hLat : ',' ∉ [latHemisphere latitude] := by
    unfold latHemisphere
    split <;> simp
  have hLon : ',' ∉ [lonHemisphere longitude] := by
    unfold lonHemisphere
    split <;> simp
  simp only [coordinateFields, List.forall_mem_cons]
  exact ⟨hText 2 latitude, hLat, hText 3 longitude, hLon,
    by simp⟩

variable (gmtime : BitVec 64 → Tm)
variable (location : GpsLocation ℚ ℚ)

/-
  The position in a text that starts as a sentence does,
  with some fields before it.
-/
theorem fields_position
    {header : List Sentence}
    (hHeader : ∀ text ∈ header, ',' ∉ text)
    (hLatLong : location.flags &&& hasLatLong ≠ 0)
    (rest : Sentence) :
    (fields
        (commaEnded header ++
          latLongText (exactOps gmtime) location ++
            rest)).drop header.length =
      coordinateFields location.latitude
          location.longitude ++ fields rest := by
  rw [latLongText_exact gmtime location hLatLong,
    List.append_assoc, fields_commaEnded hHeader,
    fields_commaEnded (comma_not_mem_coordinateFields _ _),
    List.drop_left]

section Sentences

variable (fops : FloatOps ℚ)
variable (cache : NmeaCache ℚ)
variable (locationExtended : PositionExtended ℚ)
variable (mode : LocPositionMode)

/-
  A sentence with the position behind so many fields:
  `$GPRMC` or `$GPGGA`.
-/
def HasPosition (p : Layout) (before : Nat) : Prop :=
  p = rmc (exactOps gmtime) location locationExtended mode ∧
      before = 3 ∨
    p =
        gga fops (exactOps gmtime) cache location
          locationExtended mode ∧
      before = 2

variable {gmtime location fops cache locationExtended mode}

theorem HasPosition.checked
    {p : Layout}
    {before : Nat}
    (hPosition :
      HasPosition gmtime location fops cache locationExtended
        mode p before) :
    ∃ header more,
      header.length = before ∧
        (∀ text ∈ header, ',' ∉ text) ∧
          p.checked.flatten =
            commaEnded header ++
              latLongText (exactOps gmtime) location ++
                more := by
  have hTime :=
    comma_not_mem_timeText (exactOps gmtime) location
  rcases hPosition with ⟨rfl, rfl⟩ | ⟨rfl, rfl⟩
  · refine
      ⟨["$GPRMC".toList, timeText (exactOps gmtime) location,
        ['A']],
        ((rmc (exactOps gmtime) location locationExtended
          mode).checked.drop 2).flatten,
        rfl, by simp [hTime], ?_⟩
    simp [rmc, commaEnded]
  · refine
      ⟨["$GPGGA".toList, timeText (exactOps gmtime) location],
        ((gga fops (exactOps gmtime) cache location
          locationExtended mode).checked.drop 2).flatten,
        rfl, by simp [hTime], ?_⟩
    simp [gga, commaEnded]

theorem HasPosition.fields_eq
    {p : Layout}
    {before : Nat}
    (hPosition :
      HasPosition gmtime location fops cache locationExtended
        mode p before)
    (hLatLong : location.flags &&& hasLatLong ≠ 0)
    (tail : Sentence) :
    ∃ rest,
      (fields (p.checked.flatten ++ tail)).drop before =
        coordinateFields location.latitude
            location.longitude ++ rest := by
  rcases hPosition.checked with
    ⟨header, more, rfl, hHeader, hChecked⟩
  refine ⟨fields (more ++ tail), ?_⟩
  rw [hChecked, List.append_assoc]
  exact fields_position gmtime location hHeader hLatLong _

/- The fields of a position, read back. -/
theorem coordinatesDecode_iff
    {latitude longitude : ℚ}
    (hLatitude : |latitude| ≤ 90)
    (hLongitude : |longitude| ≤ 180)
    (rest : List Sentence) :
    CoordinatesDecode latitude longitude
        (coordinateFields latitude longitude ++ rest) ↔
      minutesOf latitude < 599999995 / 10 ^ 7 ∧
        minutesOf longitude < 599999995 / 10 ^ 7 := by
  have hLat := latHemisphere_sign latitude
  have hLon := lonHemisphere_sign longitude
  exact
    and_congr
      (decodes_coordinateText_iff (by decide) (by linarith)
        (by linarith) hLat.1 hLat.2)
      (decodes_coordinateText_iff (by decide) (by linarith)
        (by linarith) hLon.1 hLon.2)

variable (gmtime location fops cache locationExtended mode)

/-
  The position in both sentences decodes if and only if
  neither of its minutes is rounded up to 60. A sentence that
  is sent has these fields.
-/
theorem coordinates_decode_iff
    (hLatLong : location.flags &&& hasLatLong ≠ 0)
    (hLatitude : |location.latitude| ≤ 90)
    (hLongitude : |location.longitude| ≤ 180)
    (p : Layout)
    (before : Nat)
    (hPosition :
      HasPosition gmtime location fops cache locationExtended
        mode p before) :
    (CoordinatesDecode location.latitude location.longitude
        ((fields p.text).drop before) ↔
      minutesOf location.latitude < 599999995 / 10 ^ 7 ∧
        minutesOf location.longitude < 599999995 / 10 ^ 7) ∧
      ∀ sent, p.write = some sent →
        ((fields sent.pNmea).drop before).take 4 =
          ((fields p.text).drop before).take 4 := by
  rcases hPosition.fields_eq hLatLong p.last with ⟨rest, hText⟩
  constructor
  · rw [Layout.text, hText]
    exact coordinatesDecode_iff hLatitude hLongitude rest
  · intro sent hWrite
    rcases write_prefix hWrite with ⟨tail, hSent⟩
    rcases hPosition.fields_eq hLatLong tail with ⟨rest', hTail⟩
    rw [hSent, Layout.text, hText, hTail]
    rfl

end Sentences

/- The operations of the other sentences. -/
def exactFloatOps : FloatOps ℚ where
  zero := 0
  positive x := 0 < x
  round x := BitVec.ofInt 32 (truncate (1 / 2 + x))
  dopText pdop hdop vdop :=
    decimalText 0 1 pdop ++ [','] ++ decimalText 0 1 hdop ++
      [','] ++ decimalText 0 1 vdop

/- The first second of the clock. -/
def midnight : Tm := ⟨70, 0, 1, 0, 0, 0⟩

/- A location on the zero meridian, with a bearing. -/
def locationAt (latitude bearing : ℚ) : GpsLocation ℚ ℚ where
  flags := hasLatLong ||| hasBearing
  latitude := latitude
  longitude := 0
  altitude := 0
  speed := 0
  bearing := bearing
  timestamp := 0

/- A deviation of the magnetic north. -/
def deviation (magneticDeviation : ℚ) :
    PositionExtended ℚ where
  flags := hasMagDev
  pdop := 0
  hdop := 0
  vdop := 0
  altitudeMeanSeaLevel := 0
  magneticDeviation := magneticDeviation

theorem coordinates_decode_iff_half :
    let p :=
      rmc (exactOps fun _ => midnight) (locationAt (1 / 2) 0)
        (deviation 0) .standalone
    (CoordinatesDecode (1 / 2) 0 ((fields p.text).drop 3) ↔
      minutesOf (1 / 2) < 599999995 / 10 ^ 7 ∧
        minutesOf 0 < 599999995 / 10 ^ 7) ∧
      ∀ sent, p.write = some sent →
        ((fields sent.pNmea).drop 3).take 4 =
          ((fields p.text).drop 3).take 4 :=
  coordinates_decode_iff (fun _ => midnight)
    (locationAt (1 / 2) 0) exactFloatOps ⟨0, 0, 0, 0⟩
    (deviation 0) .standalone (by decide)
    (by norm_num [locationAt, abs_le]) (by norm_num [locationAt])
    _ 3 (Or.inl ⟨rfl, rfl⟩)

/- Minutes that are rounded up to 60 are not read back. -/
theorem not_decode_of_rounded_up
    {latitude : ℚ}
    (hLatitude : |latitude| ≤ 90)
    (hMinutes : ¬ minutesOf latitude < 599999995 / 10 ^ 7) :
    ¬ CoordinatesDecode latitude 0
      ((fields
        (rmc (exactOps fun _ => midnight)
          (locationAt latitude 0) (deviation 0)
          .standalone).text).drop 3) := by
  have hPosition :
      HasPosition (fun _ => midnight) (locationAt latitude 0)
        exactFloatOps ⟨0, 0, 0, 0⟩ (deviation 0) .standalone
        (rmc (exactOps fun _ => midnight)
          (locationAt latitude 0) (deviation 0) .standalone)
        3 :=
    Or.inl ⟨rfl, rfl⟩
  have hFlags :
      (locationAt latitude 0).flags &&& hasLatLong ≠ 0 := by
    change (hasLatLong ||| hasBearing) &&& hasLatLong ≠ 0
    decide
  rcases hPosition.fields_eq hFlags
    (rmc (exactOps fun _ => midnight) (locationAt latitude 0)
      (deviation 0) .standalone).last with ⟨rest, hText⟩
  rw [Layout.text, hText]
  intro hDecodes
  exact hMinutes
    ((coordinatesDecode_iff hLatitude (by simp) rest).mp
      hDecodes).1

/- Just below one degree the minutes are printed as 60. -/
theorem sixty_minutes :
    ¬ CoordinatesDecode (9999999999 / 10 ^ 10) 0
      ((fields
        (rmc (exactOps fun _ => midnight)
          (locationAt (9999999999 / 10 ^ 10) 0) (deviation 0)
          .standalone).text).drop 3) := by
  have hPositive : (0 : ℚ) < 9999999999 / 10 ^ 10 := by
    norm_num
  have hFloor : ⌊(9999999999 / 10 ^ 10 : ℚ)⌋ = 0 := by
    rw [Int.floor_eq_iff]
    norm_num
  apply not_decode_of_rounded_up
  · rw [abs_of_pos hPositive]
    norm_num
  · rw [minutesOf_eq, abs_of_pos hPositive, hFloor]
    norm_num

end Nmea

end D2Common

------------------------------------------------------------
-- Tracks
------------------------------------------------------------

namespace D2Common

namespace Nmea

open Eng (LocPositionMode)
open FixedPoint (decimalText roundHalfEven scaled)

/- An angle that is brought onto the circle. -/
def intoCircle (angle : ℚ) : ℚ :=
  if angle < 0 then angle + 360
  else if 360 < angle then angle - 360
  else angle

/- The track towards the magnetic north. -/
def expectedTrack
    (location : GpsLocation ℚ ℚ)
    (locationExtended : PositionExtended ℚ) : ℚ :=
  if locationExtended.flags &&& hasMagDev ≠ 0 then
    intoCircle
      (location.bearing - locationExtended.magneticDeviation)
  else location.bearing

/- The corrected track is lost, whatever it is. -/
theorem magTrack_eq
    {F D : Type}
    (ops : PositionOps F D)
    (location : GpsLocation F D)
    (locationExtended : PositionExtended F) :
    magTrack ops location locationExtended =
      location.bearing := by
  unfold magTrack
  split <;> rfl

/- The same tenth is printed for both. -/
theorem tenths_eq_iff
    {x y : ℚ}
    (hx : 0 ≤ x)
    (hy : 0 ≤ y) :
    decimalText 0 1 x = decimalText 0 1 y ↔
      roundHalfEven (x * 10) = roundHalfEven (y * 10) := by
  have hScaledX := FixedPoint.scaled_cast hx 1
  have hScaledY := FixedPoint.scaled_cast hy 1
  rw [pow_one] at hScaledX hScaledY
  rw [FixedPoint.decimalText_inj hx hy 0 (by decide),
    ← hScaledX, ← hScaledY]
  exact Int.natCast_inj.symm

/-
  A bearing and what is left of it are printed alike only if
  nothing has been added or subtracted to stay on the circle.
-/
theorem tenths_intoCircle_iff
    {bearing d : ℚ}
    (hNonneg : 0 ≤ bearing)
    (hDeviation : |d| ≤ 180) :
    decimalText 0 1 bearing =
        decimalText 0 1 (intoCircle (bearing - d)) ↔
      0 ≤ bearing - d ∧ bearing - d ≤ 360 ∧
        roundHalfEven ((bearing - d) * 10) =
          roundHalfEven (bearing * 10) := by
  rcases abs_le.mp hDeviation with ⟨hLower, hUpper⟩
  unfold intoCircle
  by_cases hNegative : bearing - d < 0
  · -- the printed track is half a circle further
    rw [if_pos hNegative, tenths_eq_iff hNonneg (by linarith)]
    refine iff_of_false ?_ (fun h => absurd h.1 (by linarith))
    exact FixedPoint.roundHalfEven_ne_of_lt (by linarith)
  · rw [if_neg hNegative]
    by_cases hAbove : 360 < bearing - d
    · rw [if_pos hAbove, tenths_eq_iff hNonneg (by linarith)]
      refine iff_of_false ?_
        (fun h => absurd h.2.1 (by linarith))
      exact
        (FixedPoint.roundHalfEven_ne_of_lt
          (by linarith)).symm
    · rw [if_neg hAbove,
        tenths_eq_iff hNonneg (not_lt.mp hNegative)]
      constructor
      · intro hSame
        exact ⟨not_lt.mp hNegative, not_lt.mp hAbove,
          hSame.symm⟩
      · rintro ⟨-, -, hSame⟩
        exact hSame.symm

variable (gmtime : BitVec 64 → Tm)
variable (location : GpsLocation ℚ ℚ)
variable (locationExtended : PositionExtended ℚ)
variable (mode : LocPositionMode)

/- The magnetic track in a text that starts as `$GPVTG`. -/
theorem fields_vtg
    (hBearing : location.flags &&& hasBearing ≠ 0)
    (tail : Sentence) :
    (fields
        ((vtg (exactOps gmtime) location locationExtended
          mode).checked.flatten ++ tail))[3]? =
      some (decimalText 0 1 location.bearing) := by
  have hTenths := comma_not_mem_decimalText 0 1
  have hShape :
      (vtg (exactOps gmtime) location locationExtended
          mode).checked.flatten ++ tail =
        commaEnded
            ["$GPVTG".toList,
              decimalText 0 1 location.bearing, ['T'],
              decimalText 0 1 location.bearing, ['M']] ++
          (speedsText (exactOps gmtime) location ++ tail) := by
    simp only [vtg, tracksText, if_pos hBearing, magTrack_eq]
    simp [exactOps, commaEnded]
  rw [hShape, fields_commaEnded (by simp [hTenths])]
  rfl

/-
  The magnetic track in `$GPVTG` is right if and only if
  there is no deviation, or one that does not show: it is
  the bearing that is printed. A sentence that is sent has
  this field.
-/
theorem magneticTrack_iff
    (hBearing : location.flags &&& hasBearing ≠ 0)
    (hNonneg : 0 ≤ location.bearing)
    (hDeviation :
      locationExtended.flags &&& hasMagDev ≠ 0 →
        |locationExtended.magneticDeviation| ≤ 180) :
    let p :=
      vtg (exactOps gmtime) location locationExtended mode
    let track :=
      location.bearing - locationExtended.magneticDeviation
    ((fields p.text)[3]? =
        some
          (decimalText 0 1
            (expectedTrack location locationExtended)) ↔
      locationExtended.flags &&& hasMagDev = 0 ∨
        0 ≤ track ∧ track ≤ 360 ∧
          roundHalfEven (track * 10) =
            roundHalfEven (location.bearing * 10)) ∧
      ∀ sent, p.write = some sent →
        (fields sent.pNmea)[3]? = (fields p.text)[3]? := by
  intro p track
  have hFields (tail : Sentence) :
      (fields (p.checked.flatten ++ tail))[3]? =
        some (decimalText 0 1 location.bearing) :=
    fields_vtg gmtime location locationExtended mode hBearing
      tail
  constructor
  · rw [Layout.text, hFields, Option.some_inj, expectedTrack]
    by_cases hValid :
        locationExtended.flags &&& hasMagDev ≠ 0
    · rw [if_pos hValid,
        tenths_intoCircle_iff hNonneg (hDeviation hValid)]
      exact (or_iff_right hValid).symm
    · rw [if_neg hValid]
      simp only [ne_eq, not_not] at hValid
      simp [hValid]
  · intro sent hWrite
    rcases write_prefix hWrite with ⟨tail, hSent⟩
    rw [hSent, Layout.text, hFields, hFields]

theorem magneticTrack_iff_tenth :
    let p :=
      vtg (exactOps fun _ => midnight) (locationAt 0 90)
        (deviation (1 / 100)) .standalone
    let track : ℚ := 90 - 1 / 100
    ((fields p.text)[3]? =
        some
          (decimalText 0 1
            (expectedTrack (locationAt 0 90)
              (deviation (1 / 100)))) ↔
      hasMagDev &&& hasMagDev = 0 ∨
        0 ≤ track ∧ track ≤ 360 ∧
          roundHalfEven (track * 10) =
            roundHalfEven (90 * 10)) ∧
      ∀ sent, p.write = some sent →
        (fields sent.pNmea)[3]? = (fields p.text)[3]? :=
  magneticTrack_iff (fun _ => midnight) (locationAt 0 90)
    (deviation (1 / 100)) .standalone (by decide)
    (by norm_num [locationAt])
    (fun _ => by norm_num [deviation, abs_le])

/- To the east, the magnetic north is ten degrees away. -/
theorem deviation_ignored :
    (fields
        (vtg (exactOps fun _ => midnight) (locationAt 0 90)
          (deviation 10) .standalone).text)[3]? ≠
      some
        (decimalText 0 1
          (expectedTrack (locationAt 0 90)
            (deviation 10))) := by
  have hFlags :
      (locationAt 0 90).flags &&& hasBearing ≠ 0 := by
    decide
  rw [Layout.text,
    fields_vtg (fun _ => midnight) (locationAt 0 90)
      (deviation 10) .standalone hFlags]
  have hTrack :
      expectedTrack (locationAt 0 90) (deviation 10) =
        80 := by
    have hValid :
        (deviation 10).flags &&& hasMagDev ≠ 0 := by
      decide
    rw [expectedTrack, if_pos hValid]
    norm_num [intoCircle, locationAt, deviation]
  have hBearing : (locationAt 0 90).bearing = 90 := rfl
  rw [hTrack, hBearing, Ne, Option.some_inj,
    tenths_eq_iff (by norm_num) (by norm_num)]
  exact
    (FixedPoint.roundHalfEven_ne_of_lt (by norm_num)).symm

end Nmea

end D2Common
