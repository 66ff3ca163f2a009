import D2Common.Foundations.Transducer
import D2Common.Ni.Runs
import D2Common.Eng.Server

/-
  The engine and the messages it processes.

  The module record `loc_eng_data_s_type` without the AGPS
  machines. A run is any order of calls from the framework,
  of messages from the modem and of the steps of the
  network-initiated module. What cannot be read here is a
  parameter: the configuration, the resolver, and the text
  of the NMEA sentences.

  Key definitions include:
    * `LocEngData`
    * `Platform`
    * `reportStatus`
    * `handleEngineUp`
    * `system`
-/

------------------------------------------------------------
-- The Module Record
------------------------------------------------------------

namespace D2Common

namespace Eng

/- `GpsStatusValue`. -/
inductive GpsStatusValue where
  | none
  | sessionBegin
  | sessionEnd
  | engineOn
  | engineOff
  | other (value : UInt16)
deriving DecidableEq

/- `loc_mute_session_e_type`. -/
inductive MuteSession where
  | none
  | wait
  | inSession
deriving DecidableEq

/- `loc_sess_status`. -/
inductive SessStatus where
  | success
  | intermediate
  | failure
deriving DecidableEq

/- `LOC_SESS_INTERMEDIATE` as a number. -/
def sessIntermediate : UInt8 := 1

/- Which of the callbacks of `LocCallbacks` are set. -/
structure Callbacks where
  location_cb : Bool
  status_cb : Bool
  sv_status_cb : Bool
  nmea_cb : Bool
deriving DecidableEq

/- A sentence or a record as it is handed on. -/
abbrev Bytes := List UInt8

/-
  `LocEngReportPosition`. `accuracyExceeds` compares the
  accuracy, which is a `float`, with a whole number.
-/
structure PositionReport where
  mLocation : Bytes
  flags : UInt16
  accuracyExceeds : Nat → Bool
  position_source : UInt16
  mStatus : SessStatus
  mTechMask : UInt32

/- `loc_eng_data_s_type`; `ν` is the cache of the NMEA
generator. -/
structure LocEngData (ρ ν : Type) where
  adapter : Option LocEngAdapter
  callbacks : Callbacks
  agps_status_cb : Bool
  intermediateFix : UInt8
  loc_eng_ni_data : Ni.NiData ρ
  engine_status : GpsStatusValue
  fix_session_status : GpsStatusValue
  aiding_data_for_deletion : UInt16
  mute_session_state : MuteSession
  generateNmea : Bool
  nmea : ν
  supl_host : HostBuf
  c2k_host : HostBuf
  agpsStatus : Bool

/-
  What the engine is built upon. `hasAgnss` says whether the
  target is one with a machine for AGNSS.
-/
structure Platform (ν F : Type) where
  conf : Cfg.Store F
  resolve : Resolver
  hasAgnss : Bool
  supportsAgpsRequests : Bool
  nmeaZero : ν
  generatePos : PositionReport → Bool → ν → List Bytes × ν
  generateSv : Bytes → ν → List Bytes × ν

/- What the engine does towards the outside. -/
inductive Effect (ρ F : Type) where
  | sendMsg (msg : AdapterMsg F)
  | api (call : ApiCall)
  | location_cb (location : Option Bytes)
  | sv_status_cb (svStatus : Bytes)
  | nmea_cb (nmea : Bytes)
  | status_cb (status : GpsStatusValue)
  | set_capabilities_cb (capabilities : BitVec 32)
  | ni (f : Ni.Effect ρ)
deriving DecidableEq

variable {ρ ν F : Type}

/- The record and what has been done so far. -/
abbrev Done (ρ ν F : Type) :=
  LocEngData ρ ν × List (Effect ρ F)

/- One part of a function after another. -/
def Done.andThen
    (x : Done ρ ν F)
    (f : LocEngData ρ ν → Done ρ ν F) : Done ρ ν F :=
  ((f x.1).1, x.2 ++ (f x.1).2)

/- The record before anything has been called. -/
def LocEngData.zero (nmeaZero : ν) : LocEngData ρ ν where
  adapter := none
  callbacks := ⟨false, false, false, false⟩
  agps_status_cb := false
  intermediateFix := 0
  loc_eng_ni_data := Ni.NiData.zero
  engine_status := .none
  fix_session_status := .none
  aiding_data_for_deletion := 0
  mute_session_state := .none
  generateNmea := false
  nmea := nmeaZero
  supl_host := HostBuf.zero
  c2k_host := HostBuf.zero
  agpsStatus := false

end Eng

end D2Common

------------------------------------------------------------
-- Calls From The Framework
------------------------------------------------------------

namespace D2Common

namespace Eng

variable {ρ ν F : Type}

/-
  The `memset` of `loc_eng_init`. Threads and the count of
  handler calls are not part of the record, and neither is
  the global `agpsStatus`.
-/
def cleared
    (P : Platform ν F)
    (d : LocEngData ρ ν) : LocEngData ρ ν :=
  let zero : LocEngData ρ ν := LocEngData.zero P.nmeaZero
  { zero with
    loc_eng_ni_data :=
      { zero.loc_eng_ni_data with
        threads := d.loc_eng_ni_data.threads
        calls := d.loc_eng_ni_data.calls }
    agpsStatus := d.agpsStatus }

/- `NMEA_PROVIDER == NMEA_PROVIDER_AP`, as a `uint8_t`. -/
def nmeaByAp (conf : Cfg.Store F) : Bool :=
  (conf.num .nmeaProvider).toNat % 256 == 0

/-
  `loc_eng_init` with callbacks and an event mask;
  `nmea1Hz` is whether the mask asks for modem NMEA.
-/
def locEngInit
    (P : Platform ν F)
    (d : LocEngData ρ ν)
    (callbacks : Callbacks)
    (setCapabilities : Bool)
    (nmea1Hz : Bool) : Done ρ ν F :=
  match d.adapter with
  | some _ => (d, [.sendMsg (.secPrivacyLock 1)])
  | none =>
      ({ cleared P d with
          callbacks := callbacks
          intermediateFix :=
            UInt8.ofNat (P.conf.num .intermediatePos).toNat
          generateNmea := nmea1Hz && nmeaByAp P.conf
          adapter := some LocEngAdapter.new },
        (if setCapabilities then
          [.set_capabilities_cb (P.conf.num .capabilities)]
        else []) ++
          [.sendMsg .init, .sendMsg (.secPrivacyLock 1)])

/-
  `loc_eng_agps_init`; the argument is `NULL` or says
  whether `status_cb` is set.
-/
def agpsInit
    (P : Platform ν F)
    (d : LocEngData ρ ν)
    (callbacks : Option Bool) : Done ρ ν F :=
  match d.adapter, d.agps_status_cb, callbacks with
  | some _, false, some status_cb =>
      let d := { d with agps_status_cb := status_cb }
      if P.hasAgnss then
        (d,
          (if P.supportsAgpsRequests then
            [.sendMsg .dataClientInit] else []) ++
          (agpsReinit P.resolve d.supl_host
            d.c2k_host).map .sendMsg)
      else (d, [])
  | _, _, _ => (d, [])

/- `loc_eng_set_server_proxy`. -/
def setServerProxy
    (P : Platform ν F)
    (d : LocEngData ρ ν)
    (type : LocServerType)
    (hostname : CString)
    (port : BitVec 32) : Done ρ ν F :=
  match d.adapter with
  | some _ =>
      (d, (setServer P.resolve type hostname port).map
        .sendMsg)
  | none =>
      match type with
      | .supl =>
          ({ d with supl_host := HostBuf.saved hostname port },
            [])
      | .cdmaPde =>
          ({ d with c2k_host := HostBuf.saved hostname port },
            [])
      | _ => (d, [])

/- `MAX_APN_LEN`. -/
def maxApnLen : Nat := 100

/- `loc_eng_agps_ril_update_network_availability`. -/
def updateNetworkAvailability
    (d : LocEngData ρ ν)
    (available : Bool)
    (apn : Option CString) : Done ρ ν F :=
  let d := { d with agpsStatus := available }
  match d.adapter, apn with
  | some _, some apn =>
      (d,
        [.sendMsg
          (.enableData (some (apn.take maxApnLen))
            available)])
  | _, _ => (d, [])

end Eng

end D2Common

------------------------------------------------------------
-- Sessions
------------------------------------------------------------

namespace D2Common

namespace Eng

variable {ρ ν F : Type}

/- `loc_inform_gps_status`. -/
def informGpsStatus
    (d : LocEngData ρ ν)
    (status : GpsStatusValue) : Done ρ ν F :=
  (d, if d.callbacks.status_cb then [.status_cb status] else [])

/- `adapter->setInSession`. -/
def setInSession
    (a : LocEngAdapter)
    (inSession : Bool)
    (d : LocEngData ρ ν) : Done ρ ν F :=
  let (a, call) := a.setInSession inSession
  ({ d with adapter := some a }, [.api call])

/- The results of `startFix` that begin a session. -/
def beginsSession : ApiErr → Bool
| .success => true
| .phoneOffline => true
| .internal => true
| _ => false

/-
  `loc_eng_start_handler` with the result of `startFix`. The
  code for an engine that is down is that of a phone that is
  offline.
-/
def startHandler
    (result : ApiErr)
    (a : LocEngAdapter)
    (d : LocEngData ρ ν) : Done ρ ν F :=
  if a.mNavigating then (d, [])
  else
    Done.andThen (d, [.api a.startFix]) fun d =>
      if beginsSession result then
        (setInSession a true d).andThen
          (informGpsStatus · .sessionBegin)
      else (d, [])

/- `loc_eng_stop_handler` with the result of `stopFix`. -/
def stopHandler
    (result : ApiErr)
    (a : LocEngAdapter)
    (d : LocEngData ρ ν) : Done ρ ν F :=
  if a.mNavigating then
    Done.andThen (d, [.api .stopFix]) fun d =>
      Done.andThen
        (if result = .success then
          informGpsStatus d .sessionEnd
        else (d, []))
        (setInSession a false)
  else (d, [])

/- `update_aiding_data_for_deletion`. -/
def updateAidingData (d : LocEngData ρ ν) : Done ρ ν F :=
  if d.engine_status != .engineOn &&
      d.aiding_data_for_deletion != 0 then
    ({ d with aiding_data_for_deletion := 0 },
      [.api (.deleteAidingData d.aiding_data_for_deletion)])
  else (d, [])

/- Muting, as far as `loc_eng_report_status` changes it. -/
def muteAfter
    (status : GpsStatusValue)
    (mute : MuteSession) : MuteSession :=
  let mute :=
    if (status = .sessionBegin || status = .engineOn) &&
        mute = .wait then .inSession else mute
  if mute = .inSession &&
      (status = .sessionEnd || status = .engineOff) then
    .none
  else mute

/- Whether a status is reported, given who navigates. -/
def reportable
    (status : GpsStatusValue)
    (navigating : Bool) : Bool :=
  status != .none &&
    !(status == .sessionEnd && navigating) &&
    !(status == .sessionBegin && !navigating)

/- The fields that keep the last status of either kind. -/
def keepStatus
    (status : GpsStatusValue)
    (d : LocEngData ρ ν) : Done ρ ν F :=
  ({ d with
      engine_status :=
        if status = .engineOn || status = .engineOff
        then status else d.engine_status
      fix_session_status :=
        if status = .sessionBegin || status = .sessionEnd
        then status else d.fix_session_status },
    [])

/- `loc_eng_report_status`. -/
def reportStatus
    (status : GpsStatusValue)
    (a : LocEngAdapter)
    (d : LocEngData ρ ν) : Done ρ ν F :=
  let d :=
    { d with
      mute_session_state :=
        muteAfter status d.mute_session_state }
  Done.andThen
    (if reportable status a.mNavigating &&
        d.mute_session_state != .inSession then
      informGpsStatus d status
    else (d, []))
    (keepStatus status)

end Eng

end D2Common

------------------------------------------------------------
-- Reports
------------------------------------------------------------

namespace D2Common

namespace Eng

variable {ρ ν F : Type}

/- `ULP_LOCATION_IS_FROM_GNSS`. -/
def fromGnss : UInt16 := 0x0002

/- `GPS_LOCATION_HAS_ACCURACY`. -/
def hasAccuracy : UInt16 := 0x0010

/- The satellite, sensor and hybrid technologies. -/
def fixTechMask : UInt32 :=
  0x00000001 ||| 0x00000008 ||| 0x00000080

/- The NMEA sentences reach the callback when it is set. -/
def sendNmea
    (d : LocEngData ρ ν)
    (x : List Bytes × ν) : Done ρ ν F :=
  ({ d with nmea := x.2 },
    if d.callbacks.nmea_cb then x.1.map .nmea_cb else [])

/- Whether a fix is final, or good enough between. -/
def accepted
    (P : Platform ν F)
    (d : LocEngData ρ ν)
    (r : PositionReport) : Bool :=
  let thres := (P.conf.num .accuracyThres).toNat
  (r.mStatus == .success &&
      r.mTechMask &&& fixTechMask != 0) ||
    (sessIntermediate == d.intermediateFix &&
      !(r.flags &&& hasAccuracy != 0 && thres != 0 &&
        r.accuracyExceeds thres))

/- The call of `location_cb` for a report, if any. -/
def locationCall
    (P : Platform ν F)
    (d : LocEngData ρ ν)
    (r : PositionReport) : Option (Option Bytes) :=
  if d.callbacks.location_cb then
    if r.mStatus = .failure then some none
    else if accepted P d r then some (some r.mLocation)
    else none
  else none

/- A single shot that has been reported ends its session. -/
def endSingleShot
    (r : PositionReport)
    (a : LocEngAdapter)
    (reported : Bool)
    (d : LocEngData ρ ν) : Done ρ ν F :=
  if reported &&
      a.mFixCriteria.recurrence == recurrenceSingle then
    Done.andThen
      (d, if r.mStatus = .intermediate
        then [.api .stopFix] else [])
      (setInSession a false)
  else (d, [])

/- `LocEngReportPosition::proc`. -/
def reportPosition
    (P : Platform ν F)
    (r : PositionReport)
    (a : LocEngAdapter)
    (d : LocEngData ρ ν) : Done ρ ν F :=
  if d.mute_session_state = .inSession then (d, [])
  else
    let call := locationCall P d r
    Done.andThen
      (Done.andThen (d, (call.map .location_cb).toList)
        (endSingleShot r a call.isSome))
      fun d =>
        if d.generateNmea &&
            r.position_source == fromGnss &&
            r.mTechMask &&& fixTechMask != 0 then
          sendNmea d
            (P.generatePos r
              (call.isSome && r.mStatus != .failure) d.nmea)
        else (d, [])

/- `LocEngReportSv::proc`. -/
def reportSv
    (P : Platform ν F)
    (svStatus : Bytes)
    (d : LocEngData ρ ν) : Done ρ ν F :=
  if d.mute_session_state = .inSession then (d, [])
  else
    Done.andThen
      (d, if d.callbacks.sv_status_cb
        then [.sv_status_cb svStatus] else [])
      fun d =>
        if d.generateNmea then
          sendNmea d (P.generateSv svStatus d.nmea)
        else (d, [])

/- `LocEngReportNmea::proc`. -/
def reportNmea
    (nmea : Bytes)
    (d : LocEngData ρ ν) : Done ρ ν F :=
  (d, if d.callbacks.nmea_cb then [.nmea_cb nmea] else [])

end Eng

end D2Common

------------------------------------------------------------
-- The Modem Goes Down And Comes Up
------------------------------------------------------------

namespace D2Common

namespace Eng

variable {ρ ν F : Type}

/-
  A step of the network-initiated module. A request with a
  privacy override mutes the next session.
-/
def niStep
    (i : Ni.Input ρ)
    (d : LocEngData ρ ν) : Done ρ ν F :=
  let (ni, out) := Ni.step d.loc_eng_ni_data i
  ({ d with
      loc_eng_ni_data := ni
      mute_session_state :=
        if out.any (fun f => match f with
          | .muteOneSession => true
          | _ => false)
        then .wait else d.mute_session_state },
    out.map .ni)

/- `loc_eng_handle_engine_down`. -/
def handleEngineDown
    (a : LocEngAdapter)
    (d : LocEngData ρ ν) : Done ρ ν F :=
  (niStep .reset d).andThen (reportStatus .engineOff a)

/-
  The last part of `loc_eng_handle_engine_up`: a session
  that was running is started again.
-/
def restartSession
    (result : ApiErr)
    (a : LocEngAdapter)
    (d : LocEngData ρ ν) : Done ρ ν F :=
  if a.mNavigating then
    let x := a.setPositionMode none
    let y := x.1.setInSession false
    Done.andThen
      ({ d with adapter := some y.1 },
        [.api x.2, .api y.2])
      (startHandler result y.1)
  else (d, [])

/- `loc_eng_handle_engine_up`, without the AGPS machines. -/
def handleEngineUp
    (P : Platform ν F)
    (result : ApiErr)
    (a : LocEngAdapter)
    (d : LocEngData ρ ν) : Done ρ ν F :=
  Done.andThen
    (Done.andThen
      (d, (reinit P.conf d.agpsStatus ++
        if d.agps_status_cb then
          agpsReinit P.resolve d.supl_host d.c2k_host
        else []).map .sendMsg)
      (reportStatus .engineOn a))
    (restartSession result a)

/-
  Calls and messages. Results of the location API are part
  of the input.
-/
inductive Input (ρ : Type) where
  | init
      (callbacks : Callbacks)
      (setCapabilities : Bool)
      (nmea1Hz : Bool)
  | agpsInit (callbacks : Option Bool)
  | setServerProxy
      (type : LocServerType)
      (hostname : CString)
      (port : BitVec 32)
  | updateNetworkAvailability
      (available : Bool)
      (apn : Option CString)
  | delAidData (f : UInt16)
  | positionMode (posMode : LocPosMode)
  | startFix (result : ApiErr)
  | stopFix (result : ApiErr)
  | reportPosition (r : PositionReport)
  | reportSv (svStatus : Bytes)
  | reportStatus (status : GpsStatusValue)
  | reportNmea (nmea : Bytes)
  | niInit
  | requestNi
      (notif : Ni.Notification)
      (passThrough : Option ρ)
      (created : Bool)
  | niRespond (notif_id user_response : Ni.CInt)
  | niThread (t : Nat) (turn : Ni.Turn)
  | engineDown
  | engineUp (result : ApiErr)

/- A message that only an adapter can have delivered. -/
def withAdapter
    (d : LocEngData ρ ν)
    (f : LocEngAdapter → LocEngData ρ ν → Done ρ ν F) :
    Done ρ ν F :=
  match d.adapter with
  | some a => f a d
  | none => (d, [])

def step
    (P : Platform ν F)
    (d : LocEngData ρ ν) :
    Input ρ → Done ρ ν F
| .init callbacks setCapabilities nmea1Hz =>
    locEngInit P d callbacks setCapabilities nmea1Hz
| .agpsInit callbacks => agpsInit P d callbacks
| .setServerProxy type hostname port =>
    setServerProxy P d type hostname port
| .updateNetworkAvailability available apn =>
    updateNetworkAvailability d available apn
| .delAidData f =>
    withAdapter d fun _ d =>
      updateAidingData { d with aiding_data_for_deletion := f }
| .positionMode posMode =>
    withAdapter d fun a d =>
      let x := a.setPositionMode (some posMode)
      ({ d with adapter := some x.1 }, [.api x.2])
| .startFix result => withAdapter d (startHandler result)
| .stopFix result => withAdapter d (stopHandler result)
| .reportPosition r => withAdapter d (reportPosition P r)
| .reportSv svStatus =>
    withAdapter d fun _ => reportSv P svStatus
| .reportStatus status =>
    withAdapter d fun a d =>
      (reportStatus status a d).andThen updateAidingData
| .reportNmea nmea =>
    withAdapter d fun _ => reportNmea nmea
| .niInit => niStep .init d
| .requestNi notif passThrough created =>
    withAdapter d fun _ =>
      niStep (.request notif passThrough created)
| .niRespond notif_id user_response =>
    niStep (.respond notif_id user_response) d
| .niThread t turn => niStep (.thread t turn) d
| .engineDown => withAdapter d handleEngineDown
| .engineUp result => withAdapter d (handleEngineUp P result)

/- The engine from its zeroed record on. -/
def system (P : Platform ν F) :
    Transducer (LocEngData ρ ν) (Input ρ) (Effect ρ F) where
  init := LocEngData.zero P.nmeaZero
  step := step P

/- A target with AGNSS whose configuration is all zero. -/
def barePlatform : Platform Unit Unit where
  conf :=
    ⟨fun _ => 0, fun _ => (), fun _ => [], fun _ => false⟩
  resolve := fun _ => some 0
  hasAgnss := true
  supportsAgpsRequests := true
  nmeaZero := ()
  generatePos := fun _ _ _ => ([], ())
  generateSv := fun _ _ => ([], ())

end Eng

end D2Common
