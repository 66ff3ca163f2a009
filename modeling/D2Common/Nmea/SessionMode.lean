import D2Common.Eng.Engine
import D2Common.Nmea.Position

/-
  The mode in the sentences of a position report.

  A report that has been handed on ends a session for a
  single shot, and with it the mode of the session is taken
  from the fix criteria. The sentences are made afterwards,
  of the mode that is there then.

  Key definitions include:
    * `FixReport`
    * `procReport`
    * `procLayouts`
    * `ModeReflects`

  Key theorems include:
    * `procReport_eq`
    * `nmea_procReport`
    * `mode_reflects_iff`
-/

------------------------------------------------------------
-- Reports with Their Sentences
------------------------------------------------------------

namespace D2Common

namespace Nmea

open Eng (Bytes Done Effect LocEngAdapter LocEngData
  LocPositionMode Platform PositionReport SessStatus
  accepted endSingleShot fixTechMask fromGnss locationCall
  recurrenceSingle reportPosition sendNmea)

/- `LocEngReportPosition`, with what its sentences read. -/
structure FixReport (F D : Type) where
  mLocation : Bytes
  location : GpsLocation F D
  mLocationExtended : PositionExtended F
  accuracyExceeds : Nat → Bool
  position_source : UInt16
  mStatus : SessStatus
  mTechMask : UInt32

variable {ρ C F D : Type}

/- The part of it that the engine looks at. -/
def FixReport.report (r : FixReport F D) : PositionReport where
  mLocation := r.mLocation
  flags := UInt16.ofBitVec r.location.flags
  accuracyExceeds := r.accuracyExceeds
  position_source := r.position_source
  mStatus := r.mStatus
  mTechMask := r.mTechMask

/- `adapter->getPositionMode().mode`. -/
def positionMode
    {ν : Type}
    (d : LocEngData ρ ν) : LocPositionMode :=
  match d.adapter with
  | some a => a.mFixCriteria.mode
  | none => .invalid

/- A sentence as the callback gets it. -/
def sentBytes (sent : Sent) : Bytes :=
  sent.pNmea.map fun c => UInt8.ofNat c.toNat

section Proc

variable (P : Platform (NmeaCache F) C)
variable (fops : FloatOps F)
variable (ops : PositionOps F D)
variable (r : FixReport F D)

/- `loc_eng_nmea_generate_pos`, called for a report. -/
def generateFor
    (generate_nmea : Bool)
    (d : LocEngData ρ (NmeaCache F)) :
    Done ρ (NmeaCache F) C :=
  let x :=
    generatePosition fops ops d.nmea r.location
      r.mLocationExtended (positionMode d) generate_nmea
  sendNmea d (x.2.map sentBytes, x.1)

/- Whether a report is one that has sentences. -/
def hasSentences (d : LocEngData ρ (NmeaCache F)) : Bool :=
  d.generateNmea && r.position_source == fromGnss &&
    r.mTechMask &&& fixTechMask != 0

/- What the report does before its sentences. -/
def reportFix
    (a : LocEngAdapter)
    (d : LocEngData ρ (NmeaCache F)) :
    Done ρ (NmeaCache F) C :=
  let call := locationCall P d r.report
  Done.andThen (d, (call.map .location_cb).toList)
    (endSingleShot r.report a call.isSome)

/- `generate_nmea`: the report is one of a final fix. -/
def generateNmea (d : LocEngData ρ (NmeaCache F)) : Bool :=
  (locationCall P d r.report).isSome && r.mStatus != .failure

/- `LocEngReportPosition::proc`. -/
def procReport
    (a : LocEngAdapter)
    (d : LocEngData ρ (NmeaCache F)) :
    Done ρ (NmeaCache F) C :=
  if d.mute_session_state = .inSession then (d, [])
  else
    Done.andThen (reportFix P r a d) fun d' =>
      if hasSentences r d' then
        generateFor fops ops r (generateNmea P r d) d'
      else (d', [])

/- The layouts of the sentences that a report makes. -/
def procLayouts
    (a : LocEngAdapter)
    (d : LocEngData ρ (NmeaCache F)) : List Layout :=
  let d' : LocEngData ρ (NmeaCache F) := (reportFix P r a d).1
  if d.mute_session_state = .inSession then []
  else if hasSentences r d' then
    reportLayouts fops ops d'.nmea r.location
      r.mLocationExtended (positionMode d')
      (generateNmea P r d)
  else []

end Proc

/- The sentences among what has been done. -/
def nmeaOf (effects : List (Effect ρ C)) : List Bytes :=
  effects.filterMap fun effect =>
    match effect with
    | .nmea_cb nmea => some nmea
    | _ => none

end Nmea

end D2Common

------------------------------------------------------------
-- The Mode
------------------------------------------------------------

namespace D2Common

namespace Nmea

open Eng (Bytes Done Effect LocEngAdapter LocEngData
  LocPositionMode Platform SessStatus endSingleShot
  fixTechMask fromGnss locationCall recurrenceSingle
  reportPosition sendNmea)

/- The mode indicator for a session of a mode. -/
def sessionIndicator (mode : LocPositionMode) : Char :=
  if mode = .standalone then 'A' else 'D'

/- The quality of a fix in it. -/
def sessionQuality (mode : LocPositionMode) : Char :=
  if mode = .standalone then '1' else '2'

/-
  The sentences of a report say the mode: `$GPVTG` and
  `$GPRMC` end with it, and `$GPGGA` has the quality behind
  the position.
-/
def ModeReflects (mode : LocPositionMode) :
    List Layout → Prop
| [_, vtg, rmc, gga] =>
    vtg.text.getLast? = some (sessionIndicator mode) ∧
      rmc.text.getLast? = some (sessionIndicator mode) ∧
        (gga.checked[2]?.bind List.head?) =
          some (sessionQuality mode)
| _ => False

variable {ρ C F D : Type}

/- What is left by a report that may end its session. -/
theorem endSingleShot_eq
    {ν : Type}
    (r : Eng.PositionReport)
    (a : LocEngAdapter)
    (reported : Bool)
    (d : LocEngData ρ ν) :
    (endSingleShot r a reported d : Done ρ ν C).1 =
        (if reported &&
            a.mFixCriteria.recurrence == recurrenceSingle then
          { d with
            adapter := some (a.setInSession false).1 }
        else d) ∧
      nmeaOf (endSingleShot r a reported d :
        Done ρ ν C).2 = [] := by
  unfold endSingleShot
  split
  · refine ⟨rfl, ?_⟩
    by_cases hIntermediate : r.mStatus = .intermediate <;>
      simp [hIntermediate, Done.andThen, Eng.setInSession,
        nmeaOf]
  · exact ⟨rfl, rfl⟩

section Proc

variable (P : Platform (NmeaCache F) C)
variable (fops : FloatOps F)
variable (ops : PositionOps F D)
variable (r : FixReport F D)
variable (a : LocEngAdapter)
variable (d : LocEngData ρ (NmeaCache F))

/-
  The report is that of the engine, whose generator of
  sentences is given the mode that is left.
-/
theorem procReport_eq :
    (procReport P fops ops r a d : Done ρ (NmeaCache F) C) =
      reportPosition
        { P with
          generatePos := fun _ generate_nmea nmea =>
            let d' : LocEngData ρ (NmeaCache F) :=
              (reportFix P r a d).1
            let x :=
              generatePosition fops ops nmea r.location
                r.mLocationExtended (positionMode d')
                generate_nmea
            (x.2.map sentBytes, x.1) }
        r.report a d := by
  unfold procReport reportPosition
  split
  · rfl
  · simp only [Done.andThen]
    rfl

theorem reportFix_eq :
    (reportFix P r a d : Done ρ (NmeaCache F) C).1 =
        (if (locationCall P d r.report).isSome &&
            a.mFixCriteria.recurrence == recurrenceSingle then
          { d with
            adapter := some (a.setInSession false).1 }
        else d) ∧
      nmeaOf (reportFix P r a d :
        Done ρ (NmeaCache F) C).2 = [] := by
  have hEnd :=
    endSingleShot_eq (C := C) r.report a
      (locationCall P d r.report).isSome d
  unfold reportFix
  refine ⟨hEnd.1, ?_⟩
  cases hCall : locationCall P d r.report with
  | none =>
      rw [hCall] at hEnd
      exact hEnd.2
  | some location =>
      rw [hCall] at hEnd
      exact hEnd.2

/- Only the adapter may be another one. -/
theorem reportFix_frame :
    ∃ adapter,
      (reportFix P r a d : Done ρ (NmeaCache F) C).1 =
        { d with adapter := adapter } := by
  rw [(reportFix_eq P r a d).1]
  split
  · exact ⟨_, rfl⟩
  · exact ⟨d.adapter, rfl⟩

/- What the callback gets are the sentences of the layouts. -/
theorem nmea_procReport :
    nmeaOf (procReport P fops ops r a d :
        Done ρ (NmeaCache F) C).2 =
      if d.callbacks.nmea_cb then
        (sendLayouts
          (procLayouts P fops ops r a d)).1.map sentBytes
      else [] := by
  have hFix := reportFix_eq (ρ := ρ) P r a d
  have hCallbacks :
      (reportFix P r a d :
          Done ρ (NmeaCache F) C).1.callbacks =
        d.callbacks := by
    rcases reportFix_frame (ρ := ρ) P r a d with ⟨_, hFrame⟩
    rw [hFrame]
  unfold procReport procLayouts
  by_cases hMuted : d.mute_session_state = .inSession
  · rw [if_pos hMuted, if_pos hMuted]
    split <;> rfl
  · rw [if_neg hMuted, if_neg hMuted]
    have hSplit (f : LocEngData ρ (NmeaCache F) →
        Done ρ (NmeaCache F) C) :
        nmeaOf (Done.andThen (reportFix P r a d) f).2 =
          nmeaOf (f (reportFix P r a d :
            Done ρ (NmeaCache F) C).1).2 := by
      simp only [Done.andThen, nmeaOf, List.filterMap_append]
      change nmeaOf _ ++ _ = _
      rw [hFix.2]
      rfl
    rw [hSplit]
    by_cases hHas :
        hasSentences r
          (reportFix P r a d :
            Done ρ (NmeaCache F) C).1 = true
    · rw [if_pos hHas, if_pos hHas]
      unfold generateFor sendNmea
      simp only [hCallbacks, generatePosition_sent]
      split
      · simp [nmeaOf, List.filterMap_map, Function.comp_def]
      · rfl
    · rw [if_neg hHas, if_neg hHas]
      split <;> rfl

/- Whether the sentences of the report are made of the fix. -/
def madeOfFix : Bool :=
  d.mute_session_state != .inSession && hasSentences r d &&
    generateNmea P r d

/- The report leaves the mode, unless it ends the session. -/
theorem positionMode_reportFix
    (hAdapter : d.adapter = some a) :
    positionMode (reportFix P r a d :
        Done ρ (NmeaCache F) C).1 =
      if (locationCall P d r.report).isSome &&
          a.mFixCriteria.recurrence == recurrenceSingle then
        .invalid
      else a.mFixCriteria.mode := by
  rw [(reportFix_eq P r a d).1]
  split
  · rfl
  · rw [positionMode, hAdapter]

/- The layouts are made after the session may have ended. -/
theorem procLayouts_eq :
    procLayouts P fops ops r a d =
      if d.mute_session_state = .inSession ∨
          hasSentences r d = false then
        []
      else
        reportLayouts fops ops d.nmea r.location
          r.mLocationExtended
          (positionMode (reportFix P r a d :
            Done ρ (NmeaCache F) C).1)
          (generateNmea P r d) := by
  rcases reportFix_frame (ρ := ρ) P r a d with ⟨_, hFrame⟩
  have hNmea :
      (reportFix P r a d :
        Done ρ (NmeaCache F) C).1.nmea = d.nmea := by
    rw [hFrame]
  have hHas :
      hasSentences r (reportFix P r a d :
        Done ρ (NmeaCache F) C).1 = hasSentences r d := by
    rw [hFrame]
    rfl
  unfold procLayouts
  simp only [hHas, hNmea]
  by_cases hMuted : d.mute_session_state = .inSession
  · rw [if_pos hMuted, if_pos (Or.inl hMuted)]
  · rw [if_neg hMuted]
    cases hSentences : hasSentences r d with
    | false => rw [if_pos (Or.inr rfl)]; rfl
    | true => rw [if_pos rfl, if_neg (by simp [hMuted])]

end Proc

/- The sentences of a fix say the mode they are made of. -/
theorem modeReflects_reportLayouts_iff
    (fops : FloatOps F)
    (ops : PositionOps F D)
    (cache : NmeaCache F)
    {location : GpsLocation F D}
    (hLatLong : location.flags &&& hasLatLong ≠ 0)
    (locationExtended : PositionExtended F)
    (mode session : LocPositionMode) :
    ModeReflects session
        (reportLayouts fops ops cache location
          locationExtended mode true) ↔
      (mode = .standalone ↔ session = .standalone) := by
  have hIndicator :
      modeIndicator location mode = sessionIndicator mode := by
    rw [modeIndicator, if_neg hLatLong, sessionIndicator]
  have hQuality :
      gpsQuality location mode = sessionQuality mode := by
    rw [gpsQuality, if_neg hLatLong, sessionQuality]
  have hLast (checked : List Sentence) (c : Char) :
      (Layout.text ⟨checked, [c]⟩).getLast? = some c := by
    rw [Layout.text, List.getLast?_append]
    rfl
  simp only [reportLayouts, if_true, ModeReflects, vtg, rmc,
    gga, hLast, hIndicator]
  change _ ∧ _ ∧ some (gpsQuality location mode) = _ ↔ _
  rw [hQuality]
  by_cases hMode : mode = .standalone <;>
    by_cases hSession : session = .standalone <;>
      simp [sessionIndicator, sessionQuality, hMode, hSession]

section Proc

variable (P : Platform (NmeaCache F) C)
variable (fops : FloatOps F)
variable (ops : PositionOps F D)
variable (r : FixReport F D)
variable (a : LocEngAdapter)
variable (d : LocEngData ρ (NmeaCache F))

/-
  The callback gets the sentences of the layouts. Those of a
  fix say the mode of its session if and only if this is not
  a single shot in standalone mode. Those that are not made
  of the fix are blank, or there are none.
-/
theorem mode_reflects_iff
    (hAdapter : d.adapter = some a)
    (hLatLong : r.location.flags &&& hasLatLong ≠ 0) :
    let layouts := procLayouts P fops ops r a d
    let sentences :=
      nmeaOf (procReport P fops ops r a d :
        Done ρ (NmeaCache F) C).2
    sentences =
        (if d.callbacks.nmea_cb then
          (sendLayouts layouts).1.map sentBytes
        else []) ∧
      (madeOfFix P r d = true →
        (ModeReflects a.mFixCriteria.mode layouts ↔
          ¬ (a.mFixCriteria.recurrence = recurrenceSingle ∧
            a.mFixCriteria.mode = .standalone))) ∧
      (madeOfFix P r d = false →
        layouts = [] ∨ layouts = blankLayouts) := by
  intro layouts sentences
  have hLayouts :
      layouts = _ := procLayouts_eq P fops ops r a d
  have hMode := positionMode_reportFix P r a d hAdapter
  refine
    ⟨nmea_procReport P fops ops r a d, fun hFix => ?_,
      fun hFix => ?_⟩
  · simp only [madeOfFix, Bool.and_eq_true, bne_iff_ne,
      ne_eq] at hFix
    rcases hFix with ⟨⟨hMuted, hHas⟩, hGenerate⟩
    have hReported :
        (locationCall P d r.report).isSome = true :=
      (Bool.and_eq_true_iff.mp hGenerate).1
    rw [hLayouts, if_neg (by simp [hMuted, hHas]), hGenerate,
      modeReflects_reportLayouts_iff _ _ _ hLatLong, hMode,
      hReported]
    -- a single shot has lost its mode by now
    by_cases hSingle :
        a.mFixCriteria.recurrence = recurrenceSingle <;>
      simp [hSingle]
  · rw [hLayouts]
    split
    · exact Or.inl rfl
    · next hMade =>
        rw [not_or, Bool.not_eq_false] at hMade
        have hBlank : generateNmea P r d = false := by
          simpa [madeOfFix, hMade] using hFix
        rw [hBlank]
        exact Or.inr rfl

end Proc

end Nmea

end D2Common

------------------------------------------------------------
-- A Single Shot
------------------------------------------------------------

namespace D2Common

namespace Nmea

open Eng (LocEngAdapter LocEngData LocPositionMode Platform
  fromGnss recurrenceSingle)

/- A platform whose numbers are whole. -/
def wholePlatform : Platform (NmeaCache Int) Unit where
  conf := Eng.barePlatform.conf
  resolve := Eng.barePlatform.resolve
  hasAgnss := true
  supportsAgpsRequests := true
  nmeaZero := ⟨0, 0, 0, 0⟩
  generatePos := fun _ _ nmea => ([], nmea)
  generateSv := fun _ nmea => ([], nmea)

/- A session in standalone mode has been started. -/
def standaloneSession
    (recurrence : UInt32) : LocEngData Unit (NmeaCache Int) :=
  (Eng.system wholePlatform).run
    [.init ⟨true, true, true, true⟩ false true,
      .positionMode
        ⟨.standalone, recurrence, 1000, 50, 0, [], []⟩,
      .startFix .success]

/- The adapter in it. -/
def standaloneAdapter (recurrence : UInt32) : LocEngAdapter :=
  ⟨⟨.standalone, recurrence, 1000, 50, 0, [], []⟩, true⟩

/- A final fix by satellite, at the sea. -/
def satelliteFix : FixReport Int Int where
  mLocation := []
  location := highLocation 0
  mLocationExtended := seaLevel
  accuracyExceeds := fun _ => false
  position_source := fromGnss
  mStatus := .success
  mTechMask := 1

/- A session that goes on says its mode. -/
theorem mode_reflects_iff_periodic :
    ModeReflects .standalone
      (procLayouts wholePlatform wholeOps wholePositionOps
        satelliteFix (standaloneAdapter 0)
        (standaloneSession 0)) :=
  ((mode_reflects_iff wholePlatform wholeOps wholePositionOps
    satelliteFix (standaloneAdapter 0) (standaloneSession 0)
    (by decide) (by decide)).2.1 (by decide)).mpr
      (by decide)

/- A single shot has lost it when its sentences are made. -/
theorem single_shot_mode_lost :
    (standaloneSession recurrenceSingle).adapter =
        some (standaloneAdapter recurrenceSingle) ∧
      (standaloneAdapter recurrenceSingle).mNavigating =
        true ∧
      madeOfFix wholePlatform satelliteFix
        (standaloneSession recurrenceSingle) = true ∧
      ¬ ModeReflects .standalone
        (procLayouts wholePlatform wholeOps wholePositionOps
          satelliteFix (standaloneAdapter recurrenceSingle)
          (standaloneSession recurrenceSingle)) := by
  refine ⟨by decide, rfl, by decide, ?_⟩
  rw [procLayouts_eq, if_neg (by decide)]
  have hMode := positionMode_reportFix wholePlatform
    satelliteFix (standaloneAdapter recurrenceSingle)
    (standaloneSession recurrenceSingle) (by decide)
  have hGenerate :
      generateNmea wholePlatform satelliteFix
        (standaloneSession recurrenceSingle) = true := by
    decide
  rw [hMode, if_pos (by decide), hGenerate,
    modeReflects_reportLayouts_iff _ _ _ (by decide)]
  decide

end Nmea

end D2Common
