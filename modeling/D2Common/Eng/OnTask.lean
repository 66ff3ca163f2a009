import D2Common.Core.MsgTask.Served
import D2Common.Core.LocApiBase
import D2Common.Eng.ServerSettings

/-
  The engine behind its message task.

  The framework and the location API call from threads of
  their own. Most of these calls only put a message into the
  queue of the adapter, and so does the engine itself, whose
  settings go to the modem as messages to the same queue.
  When the modem comes up again, the location API queues the
  message that opens it anew and then lets the adapter queue
  its own.

  Key definitions include:
    * `Msg`
    * `Call`
    * `program`
    * `Configured`

  Key theorems include:
    * `configured_kept`
    * `settings_in_order`
-/

------------------------------------------------------------
-- Messages And Calls
------------------------------------------------------------

namespace D2Common

namespace Eng

/- The calls by which a message configures the modem. -/
inductive ConfigCall (F : Type) where
  | setGpsLock (lock : Int)
  | initDataServiceClient
  | setSUPLVersion (version : BitVec 32)
  | setLPPConfig (profile : BitVec 32)
  | setSensorControlConfig (usage provider : BitVec 32)
  | setAGLONASSProtocol (protocol : BitVec 32)
  | setSensorProperties (properties : List (Bool × F))
  | setSensorPerfControlConfig (values : List (BitVec 32))
  | enableData (enable : Bool)
  | setAPN (apn : List Char)
  | setServerUrl (url : List Char) (len : Nat)
  | setServerIpv4
      (ip : BitVec 32)
      (port : BitVec 32)
      (type : LocServerType)
deriving DecidableEq

/- `proc` of a message that only calls the location API. -/
def AdapterMsg.calls
    {F : Type} : AdapterMsg F → List (ConfigCall F)
| .init => []
| .secPrivacyLock mPrivacySetting =>
    [.setGpsLock mPrivacySetting]
| .dataClientInit => [.initDataServiceClient]
| .suplVer ver => [.setSUPLVersion ver]
| .lppConfig profile => [.setLPPConfig profile]
| .sensorControlConfig usage provider =>
    [.setSensorControlConfig usage provider]
| .aGlonassProtocol protocol =>
    [.setAGLONASSProtocol protocol]
| .sensorProperties properties =>
    [.setSensorProperties properties]
| .sensorPerfControlConfig values =>
    [.setSensorPerfControlConfig values]
| .enableData apn enable =>
    .enableData enable :: (apn.map .setAPN).toList
| .setServerUrl url len => [.setServerUrl url len]
| .setServerIpv4 ip port type =>
    [.setServerIpv4 ip port type]

/- The messages that calls from outside put into the queue. -/
inductive EngMsg (ρ : Type) where
  | delAidData (f : UInt16)
  | positionMode (posMode : LocPosMode)
  | startFix (result : ApiErr)
  | stopFix (result : ApiErr)
  | reportPosition (r : PositionReport)
  | reportSv (svStatus : Bytes)
  | reportStatus (status : GpsStatusValue)
  | reportNmea (nmea : Bytes)
  | requestNi
      (notif : Ni.Notification)
      (passThrough : Option ρ)
      (created : Bool)
  | engineDown

/- What such a message is for the engine. -/
def EngMsg.input {ρ : Type} : EngMsg ρ → Input ρ
| .delAidData f => .delAidData f
| .positionMode posMode => .positionMode posMode
| .startFix result => .startFix result
| .stopFix result => .stopFix result
| .reportPosition r => .reportPosition r
| .reportSv svStatus => .reportSv svStatus
| .reportStatus status => .reportStatus status
| .reportNmea nmea => .reportNmea nmea
| .requestNi notif passThrough created =>
    .requestNi notif passThrough created
| .engineDown => .engineDown

/-
  The messages of the queue: those of the engine, `LocEngUp`,
  those that the engine sends, and `LocSsrMsg` of the
  location API.
-/
inductive Msg (ρ F : Type) where
  | eng (m : EngMsg ρ)
  | engineUp (result : ApiErr)
  | adapter (m : AdapterMsg F)
  | ssr

/- The calls that reach the module record at once. -/
inductive HalCall (ρ : Type) where
  | init
      (callbacks : Callbacks)
      (setCapabilities : Bool)
      (nmea1Hz : Bool)
  | agpsInit (callbacks : Option Bool)
  | setServerProxy
      (type : LocServerType)
      (hostname : CString)
      (port : BitVec 32)
  | updateNetworkAvailability
      (available : Bool)
      (apn : Option CString)
  | niInit
  | niRespond (notif_id user_response : Ni.CInt)
  | niThread (t : Nat) (turn : Ni.Turn)

/- What such a call is for the engine. -/
def HalCall.input {ρ : Type} : HalCall ρ → Input ρ
| .init callbacks setCapabilities nmea1Hz =>
    .init callbacks setCapabilities nmea1Hz
| .agpsInit callbacks => .agpsInit callbacks
| .setServerProxy type hostname port =>
    .setServerProxy type hostname port
| .updateNetworkAvailability available apn =>
    .updateNetworkAvailability available apn
| .niInit => .niInit
| .niRespond notif_id user_response =>
    .niRespond notif_id user_response
| .niThread t turn => .niThread t turn

/-
  All calls: a direct one, one that queues a message of the
  engine, `LocApiBase::handleEngineUpEvent`,
  `loc_eng_cleanup`, and `proc` of a message.
-/
inductive Call (ρ F : Type) where
  | direct (c : HalCall ρ)
  | post (m : EngMsg ρ)
  | handleEngineUpEvent (result : ApiErr)
  | cleanup (result : ApiErr)
  | proc (m : Msg ρ F)

/- What a call does, the messages that it queues included. -/
inductive Said (ρ F : Type) where
  | effect (f : Effect ρ F)
  | sendMsg (m : Msg ρ F)
  | config (c : ConfigCall F)
  | close
  | open (mask : LocApiBase.EventMask)

variable {ρ ν F : Type}

/- The message that is queued, if any. -/
def Said.msg : Said ρ F → Option (Msg ρ F)
| .effect (.sendMsg m) => some (.adapter m)
| .sendMsg m => some m
| _ => none

/- `proc` of a message. -/
def Msg.proc
    (P : Platform ν F)
    (evtMask : LocApiBase.EventMask)
    (d : LocEngData ρ ν) :
    Msg ρ F → LocEngData ρ ν × List (Said ρ F)
| .eng m =>
    let r := step P d m.input
    (r.1, r.2.map .effect)
| .engineUp result =>
    let r := step P d (.engineUp result)
    (r.1, r.2.map .effect)
| .adapter .init =>
    (d, (reinit P.conf d.agpsStatus).map
      fun m => .sendMsg (.adapter m))
| .adapter m => (d, m.calls.map .config)
| .ssr => (d, [.close, .open evtMask])

/-
  One call. Nothing but a direct call gets past the check
  for the adapter before there is one.
-/
def called
    (P : Platform ν F)
    (evtMask : LocApiBase.EventMask)
    (d : LocEngData ρ ν) :
    Call ρ F → LocEngData ρ ν × List (Said ρ F)
| .direct c =>
    let r := step P d c.input
    (r.1, r.2.map .effect)
| .post m =>
    (d, if d.adapter.isSome then [.sendMsg (.eng m)] else [])
| .handleEngineUpEvent result =>
    (d,
      if d.adapter.isSome then
        [.sendMsg .ssr, .sendMsg (.engineUp result)]
      else [])
| .cleanup result =>
    (d,
      match d.adapter with
      | none => []
      | some a =>
          (if a.mNavigating then
            [.sendMsg (.eng (.stopFix result))]
          else []) ++
            [.sendMsg (.adapter (.secPrivacyLock 4))])
| .proc m => m.proc P evtMask d

/- The engine as the program behind the task. -/
def program
    (P : Platform ν F)
    (evtMask : LocApiBase.EventMask) :
    Program (LocEngData ρ ν) (Call ρ F) (Msg ρ F)
      (Said ρ F) where
  machine :=
    { init := LocEngData.zero P.nmeaZero
      step := called P evtMask }
  proc := .proc
  sends := Said.msg

end Eng

end D2Common

------------------------------------------------------------
-- Settings
------------------------------------------------------------

namespace D2Common

namespace Eng

variable {ρ ν F : Type}

/- Whether a call sets what the configuration files say. -/
def ConfigCall.isSetting : ConfigCall F → Bool
| .setSUPLVersion _ => true
| .setLPPConfig _ => true
| .setSensorControlConfig _ _ => true
| .setAGLONASSProtocol _ => true
| .setSensorProperties _ => true
| .setSensorPerfControlConfig _ => true
| _ => false

/- The setting that a message is there to make. -/
def AdapterMsg.settings : AdapterMsg F → List (ConfigCall F)
| .suplVer ver => [.setSUPLVersion ver]
| .lppConfig profile => [.setLPPConfig profile]
| .sensorControlConfig usage provider =>
    [.setSensorControlConfig usage provider]
| .aGlonassProtocol protocol =>
    [.setAGLONASSProtocol protocol]
| .sensorProperties properties =>
    [.setSensorProperties properties]
| .sensorPerfControlConfig values =>
    [.setSensorPerfControlConfig values]
| _ => []

def Msg.settings : Msg ρ F → List (ConfigCall F)
| .adapter m => m.settings
| _ => []

/- The setting that is made. -/
def Said.setting : Said ρ F → Option (ConfigCall F)
| .config c => if c.isSetting then some c else none
| _ => none

/- The settings of the message that is queued. -/
def Said.queued (x : Said ρ F) : List (ConfigCall F) :=
  x.msg.toList.flatMap Msg.settings

/-
  All settings of a configuration, in order. The sensor
  properties are among them if a file has set one of them.
-/
def settingsOf (conf : Cfg.Store F) : List (ConfigCall F) :=
  [.setSUPLVersion (conf.num .suplVer),
    .setLPPConfig (conf.num .lppProfile),
    .setSensorControlConfig (conf.num .sensorUsage)
      (conf.num .sensorProvider),
    .setAGLONASSProtocol
      (conf.num .aGlonassPosProtocolSelect)] ++
  (if conf.valid .gyroBiasRandomWalk ||
      conf.valid .accelRandomWalkSpectralDensity ||
      conf.valid .angleRandomWalkSpectralDensity ||
      conf.valid .rateRandomWalkSpectralDensity ||
      conf.valid .velocityRandomWalkSpectralDensity then
    [.setSensorProperties
      [(conf.valid .gyroBiasRandomWalk,
          conf.dbl .gyroBiasRandomWalk),
        (conf.valid .accelRandomWalkSpectralDensity,
          conf.dbl .accelRandomWalkSpectralDensity),
        (conf.valid .angleRandomWalkSpectralDensity,
          conf.dbl .angleRandomWalkSpectralDensity),
        (conf.valid .rateRandomWalkSpectralDensity,
          conf.dbl .rateRandomWalkSpectralDensity),
        (conf.valid .velocityRandomWalkSpectralDensity,
          conf.dbl .velocityRandomWalkSpectralDensity)]]
  else []) ++
  [.setSensorPerfControlConfig
    [conf.num .sensorControlMode,
      conf.num .sensorAccelSamplesPerBatch,
      conf.num .sensorAccelBatchesPerSec,
      conf.num .sensorGyroSamplesPerBatch,
      conf.num .sensorGyroBatchesPerSec,
      conf.num .sensorAccelSamplesPerBatchHigh,
      conf.num .sensorAccelBatchesPerSecHigh,
      conf.num .sensorGyroSamplesPerBatchHigh,
      conf.num .sensorGyroBatchesPerSecHigh,
      conf.num .sensorAlgorithmConfigMask]]

/- A message makes its setting and no other. -/
theorem filter_calls
    (m : AdapterMsg F) :
    m.calls.filter ConfigCall.isSetting = m.settings := by
  cases m with
  | enableData apn enable => cases apn <;> rfl
  | _ => rfl

theorem settings_reinit
    (conf : Cfg.Store F)
    (agpsStatus : Bool) :
    (reinit conf agpsStatus).flatMap AdapterMsg.settings =
      settingsOf conf := by
  have hSome :
      Cfg.sensorParams.any conf.valid =
        (conf.valid .gyroBiasRandomWalk ||
          conf.valid .accelRandomWalkSpectralDensity ||
          conf.valid .angleRandomWalkSpectralDensity ||
          conf.valid .rateRandomWalkSpectralDensity ||
          conf.valid .velocityRandomWalkSpectralDensity) := by
    simp [Cfg.sensorParams, Bool.or_assoc]
  unfold settingsOf reinit
  rw [hSome]
  split <;> rfl

theorem settings_of_mem_setServer
    {resolve : Resolver}
    {type : LocServerType}
    {hostname : CString}
    {port : BitVec 32}
    {m : AdapterMsg F}
    (hMem : m ∈ setServer resolve type hostname port) :
    m.settings = [] := by
  unfold setServer at hMem
  dsimp only at hMem
  split at hMem
  · split at hMem
    · rw [List.mem_singleton.mp hMem]
      rfl
    · cases hMem
  all_goals
    split at hMem
    · cases hMem
    · rw [List.mem_singleton.mp hMem]
      rfl

theorem settings_of_mem_agpsReinit
    {resolve : Resolver}
    {supl c2k : HostBuf}
    {m : AdapterMsg F}
    (hMem : m ∈ agpsReinit resolve supl c2k) :
    m.settings = [] := by
  have hReplay
      {b : HostBuf}
      {type : LocServerType}
      (hMem : m ∈ b.replay resolve type) :
      m.settings = [] := by
    unfold HostBuf.replay at hMem
    split at hMem
    · exact settings_of_mem_setServer hMem
    · cases hMem
  rcases List.mem_append.mp hMem with hMem | hMem
  · exact hReplay hMem
  · exact hReplay hMem

/- An output of the engine that queues no setting. -/
def Effect.plain (f : Effect ρ F) : Prop :=
  (Said.effect f).queued = []

theorem plain_ordinary :
    Ordinary (Effect.plain (ρ := ρ) (F := F)) where
  api _ := rfl
  status_cb _ := rfl
  ni _ := rfl

theorem plain_sendMsg
    {m : AdapterMsg F}
    (hSettings : m.settings = []) :
    Effect.plain (ρ := ρ) (.sendMsg m) := by
  unfold Effect.plain Said.queued
  simp [Said.msg, Msg.settings, hSettings]

theorem plain_locEngInit
    (P : Platform ν F)
    (d : LocEngData ρ ν)
    (callbacks : Callbacks)
    (setCapabilities nmea1Hz : Bool) :
    Only Effect.plain
      (locEngInit P d callbacks setCapabilities
        nmea1Hz) := by
  unfold locEngInit
  cases d.adapter with
  | some a => exact only_singleton d (plain_sendMsg rfl)
  | none =>
      intro f hMem
      rcases List.mem_append.mp hMem with hMem | hMem
      · split at hMem
        · rw [List.mem_singleton.mp hMem]
          rfl
        · cases hMem
      · rcases List.mem_cons.mp hMem with rfl | hMem
        · exact plain_sendMsg rfl
        · rw [List.mem_singleton.mp hMem]
          exact plain_sendMsg rfl

theorem plain_agpsInit
    (P : Platform ν F)
    (d : LocEngData ρ ν)
    (callbacks : Option Bool) :
    Only Effect.plain (agpsInit P d callbacks) := by
  unfold agpsInit
  split
  · split
    · intro f hMem
      rcases List.mem_append.mp hMem with hMem | hMem
      · split at hMem
        · rw [List.mem_singleton.mp hMem]
          exact plain_sendMsg rfl
        · cases hMem
      · rcases List.mem_map.mp hMem with ⟨m, hReinit, rfl⟩
        exact
          plain_sendMsg (settings_of_mem_agpsReinit hReinit)
    · exact only_nil _
  · exact only_nil d

theorem plain_setServerProxy
    (P : Platform ν F)
    (d : LocEngData ρ ν)
    (type : LocServerType)
    (hostname : CString)
    (port : BitVec 32) :
    Only Effect.plain
      (setServerProxy P d type hostname port) := by
  unfold setServerProxy
  split
  · apply only_map
    intro m hMem
    exact plain_sendMsg (settings_of_mem_setServer hMem)
  · split <;> exact only_nil _

theorem plain_updateNetworkAvailability
    (d : LocEngData ρ ν)
    (available : Bool)
    (apn : Option CString) :
    Only (Effect.plain (F := F))
      (updateNetworkAvailability d available apn) := by
  unfold updateNetworkAvailability
  dsimp only
  split
  · exact only_singleton _ (plain_sendMsg rfl)
  · exact only_nil _

/- Only a restart of the modem queues settings. -/
theorem plain_step
    (P : Platform ν F)
    (d : LocEngData ρ ν)
    {i : Input ρ}
    (hOther : ∀ result, i ≠ .engineUp result) :
    Only Effect.plain (step P d i) := by
  have hReports :=
    only_reportRules (ν := ν)
      (plain_ordinary (ρ := ρ) (F := F)) (fun _ => rfl)
      (fun _ => rfl) (fun _ => rfl)
  cases i with
  | init callbacks setCapabilities nmea1Hz =>
      exact
        plain_locEngInit P d callbacks setCapabilities
          nmea1Hz
  | agpsInit callbacks => exact plain_agpsInit P d callbacks
  | setServerProxy type hostname port =>
      exact plain_setServerProxy P d type hostname port
  | updateNetworkAvailability available apn =>
      exact plain_updateNetworkAvailability d available apn
  | reportPosition r => exact hReports.step P d rfl
  | reportSv svStatus => exact hReports.step P d rfl
  | reportNmea nmea => exact hReports.step P d rfl
  | engineUp result => exact absurd rfl (hOther result)
  | _ => exact only_step plain_ordinary P d rfl

theorem queued_of_plain
    {x : Done ρ ν F}
    (hPlain : Only Effect.plain x) :
    (x.2.map Said.effect).flatMap Said.queued = [] := by
  rw [List.flatMap_map]
  exact List.flatMap_eq_nil_iff.mpr hPlain

/- A restart queues all settings of the configuration. -/
theorem queued_engineUp
    (P : Platform ν F)
    {d : LocEngData ρ ν}
    {a : LocEngAdapter}
    (hAdapter : d.adapter = some a)
    (result : ApiErr) :
    ((step P d (.engineUp result)).2.map
        Said.effect).flatMap Said.queued =
      settingsOf P.conf := by
  have hSent (l : List (AdapterMsg F)) :
      ((l.map Effect.sendMsg).map
          (Said.effect (ρ := ρ))).flatMap Said.queued =
        l.flatMap AdapterMsg.settings := by
    rw [List.map_map, List.flatMap_map]
    apply List.flatMap_congr
    intro m _
    simp [Said.queued, Said.msg, Msg.settings]
  have hStatus (x : Done ρ ν F) :
      (x.andThen (reportStatus .engineOn a)).2 =
        x.2 ++ (reportStatus .engineOn a x.1).2 := rfl
  have hRestart (x : Done ρ ν F) :
      (x.andThen (restartSession result a)).2 =
        x.2 ++ (restartSession result a x.1).2 := rfl
  have hAgps :
      (if d.agps_status_cb then
          agpsReinit P.resolve d.supl_host d.c2k_host
        else []).flatMap AdapterMsg.settings =
        ([] : List (ConfigCall F)) := by
    apply List.flatMap_eq_nil_iff.mpr
    intro m hMem
    split at hMem
    · exact settings_of_mem_agpsReinit hMem
    · cases hMem
  unfold step withAdapter
  simp only [hAdapter, handleEngineUp]
  rw [hRestart, hStatus, List.map_append, List.map_append,
    List.flatMap_append, List.flatMap_append, hSent,
    List.flatMap_append, settings_reinit, hAgps,
    queued_of_plain
      (only_reportStatus plain_ordinary .engineOn a _),
    queued_of_plain
      ((only_sessionRules plain_ordinary).restartSession
        result a _)]
  simp

end Eng

end D2Common

------------------------------------------------------------
-- One Call
------------------------------------------------------------

namespace D2Common

namespace Eng

variable {ρ ν F : Type}

/- Whether a call is `proc` of a message. -/
def Call.ofLoop : Call ρ F → Bool
| .proc _ => true
| _ => false

/- The messages after which the engine sends its settings. -/
def Msg.restarts : Msg ρ F → Bool
| .engineUp _ => true
| .adapter .init => true
| _ => false

theorem queued_sent
    (out : List (Said ρ F)) :
    (out.filterMap Said.msg).flatMap Msg.settings =
      out.flatMap Said.queued := by
  induction out with
  | nil => rfl
  | cons x out ih =>
      rw [List.flatMap_cons, ← ih]
      cases hMsg : x.msg with
      | none =>
          rw [List.filterMap_cons_none hMsg]
          simp [Said.queued, hMsg]
      | some m =>
          rw [List.filterMap_cons_some hMsg]
          simp [Said.queued, hMsg]

/- Effects of the engine are not calls that set anything. -/
theorem setting_effects
    (out : List (Effect ρ F)) :
    (out.map Said.effect).filterMap Said.setting = [] := by
  rw [List.filterMap_map]
  apply List.filterMap_eq_nil_iff.mpr
  intro f _
  rfl

/- An adapter stays once it is there. -/
theorem adapter_step
    (P : Platform ν F)
    {d : LocEngData ρ ν}
    (hAdapter : d.adapter.isSome = true)
    (i : Input ρ) :
    (step P d i).1.adapter.isSome = true := by
  rcases Option.isSome_iff_exists.mp hAdapter with ⟨a, ha⟩
  cases hSets : i.setsServer with
  | false => exact (frame_step P d hSets).adapter.trans hAdapter
  | true =>
      cases i with
      | init callbacks setCapabilities nmea1Hz =>
          simp [step, locEngInit, ha]
      | setServerProxy type hostname port =>
          simp [step, setServerProxy, ha]
      | _ => cases hSets

theorem adapter_called
    (P : Platform ν F)
    (evtMask : LocApiBase.EventMask)
    {d : LocEngData ρ ν}
    (hAdapter : d.adapter.isSome = true)
    (c : Call ρ F) :
    (called P evtMask d c).1.adapter.isSome = true := by
  cases c with
  | direct c => exact adapter_step P hAdapter c.input
  | post m => exact hAdapter
  | handleEngineUpEvent result => exact hAdapter
  | cleanup result => exact hAdapter
  | proc m =>
      cases m with
      | eng m => exact adapter_step P hAdapter m.input
      | engineUp result => exact adapter_step P hAdapter _
      | adapter m => cases m <;> exact hAdapter
      | ssr => exact hAdapter

/- Without an adapter there was none before. -/
theorem absent_of_called
    (P : Platform ν F)
    (evtMask : LocApiBase.EventMask)
    {d : LocEngData ρ ν}
    {c : Call ρ F}
    (hAfter :
      (called P evtMask d c).1.adapter.isSome = false) :
    d.adapter.isSome = false := by
  cases hSome : d.adapter.isSome with
  | false => rfl
  | true =>
      have hThere := adapter_called P evtMask hSome c
      exact absurd (hThere.symm.trans hAfter) (by decide)

/- Nothing is queued until there is an adapter. -/
theorem sent_of_no_adapter
    (P : Platform ν F)
    (evtMask : LocApiBase.EventMask)
    {d : LocEngData ρ ν}
    {c : Call ρ F}
    (hCaller : c.ofLoop = false)
    (hAfter :
      (called P evtMask d c).1.adapter.isSome = false) :
    (called P evtMask d c).2.filterMap Said.msg = [] := by
  have hNone : d.adapter = none :=
    Option.not_isSome_iff_eq_none.mp
      (Bool.eq_false_iff.mp
        (absent_of_called P evtMask hAfter))
  have hEffects
      {out : List (Effect ρ F)}
      (hNi : ∀ f ∈ out, (Said.effect f).msg = none) :
      (out.map Said.effect).filterMap Said.msg = [] := by
    rw [List.filterMap_map]
    exact List.filterMap_eq_nil_iff.mpr hNi
  have hNiStep (i : Ni.Input ρ) :
      ∀ f ∈ (niStep (ν := ν) (F := F) i d).2,
        (Said.effect f).msg = none := by
    intro f hMem
    rcases List.mem_map.mp hMem with ⟨g, -, rfl⟩
    rfl
  cases c with
  | direct c =>
      apply hEffects
      cases c with
      | init callbacks setCapabilities nmea1Hz =>
          simp [called, HalCall.input, step, locEngInit,
            hNone] at hAfter
      | agpsInit callbacks =>
          simp [HalCall.input, step, agpsInit, hNone]
      | setServerProxy type hostname port =>
          cases type <;>
            simp [HalCall.input, step, setServerProxy, hNone]
      | updateNetworkAvailability available apn =>
          have hNothing :
              (updateNetworkAvailability (F := F) d available
                apn).2 =
                [] := by
            unfold updateNetworkAvailability
            dsimp only
            rw [hNone]
          intro f hMem
          rw [HalCall.input, step, hNothing] at hMem
          cases hMem
      | niInit => exact hNiStep .init
      | niRespond notif_id user_response =>
          exact hNiStep (.respond notif_id user_response)
      | niThread t turn => exact hNiStep (.thread t turn)
  | post m => simp [called, hNone]
  | handleEngineUpEvent result => simp [called, hNone]
  | cleanup result => simp [called, hNone]
  | proc m => cases hCaller

/- A call from outside makes and queues no setting. -/
theorem settings_of_caller
    (P : Platform ν F)
    (evtMask : LocApiBase.EventMask)
    (d : LocEngData ρ ν)
    {c : Call ρ F}
    (hCaller : c.ofLoop = false) :
    (called P evtMask d c).2.flatMap Said.queued = [] ∧
      (called P evtMask d c).2.filterMap Said.setting =
        [] := by
  cases c with
  | direct c =>
      refine ⟨queued_of_plain (plain_step P d ?_),
        setting_effects _⟩
      intro result
      cases c <;> simp [HalCall.input]
  | post m =>
      simp only [called]
      split <;> exact ⟨rfl, rfl⟩
  | handleEngineUpEvent result =>
      simp only [called]
      split <;> exact ⟨rfl, rfl⟩
  | cleanup result =>
      simp only [called]
      split
      · exact ⟨rfl, rfl⟩
      · split <;> exact ⟨rfl, rfl⟩
  | proc m => cases hCaller

/-
  `proc` makes the settings of its message, and queues all
  settings if the message says that the modem has none.
-/
theorem settings_of_proc
    (P : Platform ν F)
    (evtMask : LocApiBase.EventMask)
    {d : LocEngData ρ ν}
    (hAdapter : d.adapter.isSome = true)
    (m : Msg ρ F) :
    (m.proc P evtMask d).2.flatMap Said.queued =
        (if m.restarts then settingsOf P.conf else []) ∧
      (m.proc P evtMask d).2.filterMap Said.setting =
        m.settings := by
  rcases Option.isSome_iff_exists.mp hAdapter with ⟨a, ha⟩
  have hCalls (l : List (ConfigCall F)) :
      (l.map (Said.config (ρ := ρ))).flatMap Said.queued =
          [] ∧
        (l.map (Said.config (ρ := ρ))).filterMap
            Said.setting =
          l.filter ConfigCall.isSetting := by
    rw [List.flatMap_map, List.filterMap_map]
    refine ⟨List.flatMap_eq_nil_iff.mpr (fun _ _ => rfl), ?_⟩
    induction l with
    | nil => rfl
    | cons c l ih =>
        by_cases hSetting : c.isSetting = true
        · rw [List.filter_cons_of_pos hSetting,
            List.filterMap_cons_some
              (b := c) (by simp [Said.setting, hSetting]),
            ih]
        · rw [List.filter_cons_of_neg hSetting,
            List.filterMap_cons_none
              (by simp [Said.setting, hSetting]),
            ih]
  cases m with
  | eng m =>
      refine ⟨queued_of_plain (plain_step P d ?_),
        setting_effects _⟩
      intro result
      cases m <;> simp [EngMsg.input]
  | engineUp result =>
      exact ⟨queued_engineUp P ha result, setting_effects _⟩
  | adapter m =>
      cases m with
      | init =>
          simp only [Msg.proc, Msg.restarts, if_true]
          rw [← settings_reinit P.conf d.agpsStatus,
            List.flatMap_map, List.filterMap_map]
          refine ⟨?_, List.filterMap_eq_nil_iff.mpr
            (fun _ _ => rfl)⟩
          apply List.flatMap_congr
          intro m _
          simp [Said.queued, Said.msg, Msg.settings]
      | _ =>
          rw [Msg.settings, ← filter_calls]
          exact hCalls _
  | ssr => exact ⟨rfl, rfl⟩

end Eng

end D2Common

------------------------------------------------------------
-- Settings Over Runs
------------------------------------------------------------

namespace D2Common

namespace Eng

variable {T ρ ν F : Type}

/- What happens to the engine and its threads. -/
abbrev Act (T ρ F : Type) :=
  Mailbox.Act T (Call ρ F) (Msg ρ F) (Said ρ F)

/- All settings that have been made, in order. -/
def settingsMade
    (acts : List (Act T ρ F)) : List (ConfigCall F) :=
  acts.flatMap fun a => a.out.filterMap Said.setting

/- Whether a message that asks for settings is handled. -/
def restarting : Act T ρ F → Bool
| .handled _ m _ => m.restarts
| _ => false

/- How often the modem has been found without settings. -/
def restarts (acts : List (Act T ρ F)) : Nat :=
  acts.countP restarting

/- A call is either outside the loop or `proc`. -/
def fits : Act T ρ F → Prop
| .called _ i _ => i.ofLoop = false
| _ => True

variable [DecidableEq T]

/-
  The settings made, those of the messages that wait, and
  those that the loop has still to queue are all settings of
  the configuration, once for every restart.
-/
structure Configured
    (P : Platform ν F)
    (acts : List (Act T ρ F))
    (s : Mailbox.State T (LocEngData ρ ν) (Msg ρ F)) :
    Prop where
  adapter :
    s.actor.adapter.isSome = false →
      s.box = [] ∧ ∀ w, s.outbox w = []
  callers :
    ∀ t, (s.outbox (some t)).flatMap Msg.settings = []
  books :
    settingsMade acts ++
        (s.box.flatMap (fun x => x.2.settings) ++
          (s.outbox none).flatMap Msg.settings) =
      (List.replicate (restarts acts)
        (settingsOf P.conf)).flatten

omit [DecidableEq T] in
theorem configured_init
    (P : Platform ν F) :
    Configured (T := T) (ρ := ρ) P []
      ⟨LocEngData.zero P.nmeaZero, [], fun _ => []⟩ :=
  ⟨fun _ => ⟨rfl, fun _ => rfl⟩, fun _ => rfl, rfl⟩

omit [DecidableEq T] in
theorem settingsMade_concat
    (acts : List (Act T ρ F))
    (a : Act T ρ F) :
    settingsMade (acts ++ [a]) =
      settingsMade acts ++ a.out.filterMap Said.setting := by
  simp [settingsMade]

omit [DecidableEq T] in
theorem restarts_concat
    (acts : List (Act T ρ F))
    (a : Act T ρ F) :
    restarts (acts ++ [a]) =
      restarts acts + if restarting a then 1 else 0 := by
  rw [restarts, restarts, List.countP_append,
    List.countP_singleton]

variable {P : Platform ν F}
variable {evtMask : LocApiBase.EventMask}
variable {acts : List (Act T ρ F)}
variable {s : Mailbox.State T (LocEngData ρ ν) (Msg ρ F)}

/- A thread calls the engine from outside. -/
theorem configured_called
    (hConf : Configured P acts s)
    {t : T}
    {c : Call ρ F}
    (hCaller : c.ofLoop = false) :
    Configured P
      (acts ++
        [.called t c (called P evtMask s.actor c).2])
      (s.called (program P evtMask) (some t) c) := by
  have hSettings :=
    settings_of_caller P evtMask s.actor hCaller
  refine ⟨?_, ?_, ?_⟩
  · intro hNone
    have hSent :=
      sent_of_no_adapter P evtMask hCaller hNone
    have hBefore : s.actor.adapter.isSome = false :=
      absent_of_called P evtMask hNone
    rcases hConf.adapter hBefore with ⟨hBox, hOutbox⟩
    refine ⟨hBox, ?_⟩
    intro w
    by_cases hSame : w = some t
    · subst hSame
      exact (Function.update_self _ _ _).trans hSent
    · exact
        (Function.update_of_ne hSame _ _).trans (hOutbox w)
  · intro u
    by_cases hSame : some u = some t
    · rw [hSame]
      simp only [Mailbox.State.called, Function.update_self]
      exact (queued_sent _).trans hSettings.1
    · simp only [Mailbox.State.called,
        Function.update_of_ne hSame]
      exact hConf.callers u
  · rw [settingsMade_concat, restarts_concat]
    have hNone :
        (s.called (program P evtMask) (some t) c).outbox
            none =
          s.outbox none := by
      simp only [Mailbox.State.called,
        Function.update_of_ne (Option.some_ne_none t).symm]
    rw [hNone]
    simp only [Mailbox.Act.out, hSettings.2, restarting,
      List.append_nil, Bool.false_eq_true, if_false,
      Nat.add_zero]
    exact hConf.books

/- A thread passes on a message, which is taken. -/
theorem configured_passed
    (hConf : Configured P acts s)
    {w : Option T}
    {m : Msg ρ F}
    {rest : List (Msg ρ F)}
    (hOutbox : s.outbox w = m :: rest) :
    Configured P (acts ++ [.passed w m true])
      { s with
        box := s.box ++ [(w, m)]
        outbox := Function.update s.outbox w rest } := by
  refine ⟨?_, ?_, ?_⟩
  · intro hNone
    have hEmpty := (hConf.adapter hNone).2 w
    rw [hOutbox] at hEmpty
    cases hEmpty
  · intro t
    have hBefore := hConf.callers t
    by_cases hSame : some t = w
    · subst hSame
      rw [hOutbox, List.flatMap_cons,
        List.append_eq_nil_iff] at hBefore
      simp only [Function.update_self]
      exact hBefore.2
    · simp only [Function.update_of_ne hSame]
      exact hBefore
  · rw [settingsMade_concat, restarts_concat]
    have hBooks := hConf.books
    simp only [Mailbox.Act.out, List.filterMap_nil,
      restarting, List.append_nil, Bool.false_eq_true,
      if_false, Nat.add_zero]
    rw [← hBooks, List.flatMap_append, List.flatMap_singleton,
      List.append_assoc]
    congr 2
    cases w with
    | none =>
        rw [hOutbox, List.flatMap_cons]
        simp only [Function.update_self]
    | some t =>
        have hPlain := hConf.callers t
        rw [hOutbox, List.flatMap_cons,
          List.append_eq_nil_iff] at hPlain
        simp only [hPlain.1, List.nil_append]
        rw [Function.update_of_ne (by simp)]

/- The loop handles the next message. -/
theorem configured_handled
    (hConf : Configured P acts s)
    {w : Option T}
    {m : Msg ρ F}
    {box : List (Option T × Msg ρ F)}
    (hIdle : s.outbox none = [])
    (hBox : s.box = (w, m) :: box) :
    Configured P
      (acts ++
        [.handled w m
          (called P evtMask s.actor (.proc m)).2])
      (Mailbox.State.called (program P evtMask)
        { s with box := box } none (.proc m)) := by
  have hAdapter : s.actor.adapter.isSome = true := by
    cases hSome : s.actor.adapter.isSome with
    | true => rfl
    | false =>
        have hEmpty := (hConf.adapter hSome).1
        rw [hBox] at hEmpty
        cases hEmpty
  have hSettings := settings_of_proc P evtMask hAdapter m
  refine ⟨?_, ?_, ?_⟩
  · intro hNone
    have hThere :=
      adapter_called P evtMask hAdapter (.proc m)
    exact absurd (hThere.symm.trans hNone) (by decide)
  · intro t
    simp only [Mailbox.State.called,
      Function.update_of_ne (by simp : some t ≠ none)]
    exact hConf.callers t
  · rw [settingsMade_concat, restarts_concat]
    have hBooks := hConf.books
    rw [hBox, hIdle, List.flatMap_cons, List.flatMap_nil,
      List.append_nil] at hBooks
    have hMade :
        (called P evtMask s.actor (.proc m)).2.filterMap
            Said.setting =
          m.settings :=
      hSettings.2
    have hQueued :
        ((called P evtMask s.actor (.proc m)).2.filterMap
            Said.msg).flatMap Msg.settings =
          if m.restarts then settingsOf P.conf else [] :=
      (queued_sent _).trans hSettings.1
    have hRestarting :
        restarting
            (.handled w m
                (called P evtMask s.actor (.proc m)).2 :
              Act T ρ F) =
          m.restarts := rfl
    simp only [Mailbox.Act.out, Mailbox.State.called,
      Function.update_self]
    rw [hRestarting, hMade, List.append_assoc,
      ← List.append_assoc m.settings,
      ← List.append_assoc (settingsMade acts), hBooks]
    refine (congrArg _ hQueued).trans ?_
    by_cases hRestarts : m.restarts = true
    · simp only [if_pos hRestarts]
      rw [List.replicate_succ', List.flatten_append,
        List.flatten_singleton]
    · simp only [if_neg hRestarts, Nat.add_zero]
      exact List.append_nil _

/- The settings are in order in every run of the mailbox. -/
theorem configured_kept
    (P : Platform ν F)
    (evtMask : LocApiBase.EventMask) :
    Mailbox.Kept (T := T) (program (ρ := ρ) P evtMask) fits
      (Configured P) where
  init := configured_init P
  called hConf _ hFits := configured_called hConf hFits
  passed hConf hOutbox := configured_passed hConf hOutbox
  handled hConf hIdle hBox :=
    configured_handled hConf hIdle hBox

end Eng

end D2Common

------------------------------------------------------------
-- The Engine And Its Task
------------------------------------------------------------

namespace D2Common

namespace Eng

open MsgTask (Serving.system)

variable {A T ρ ν F : Type} [DecidableEq A] [DecidableEq T]

/- One step of the threads, the loop and the engine. -/
abbrev TaskInput (A T ρ F : Type) :=
  MsgTask.Serving.Input A T (Call ρ F)

/- The engine behind its task. -/
def onTask
    (A T : Type)
    [DecidableEq A]
    [DecidableEq T]
    (P : Platform ν F)
    (evtMask : LocApiBase.EventMask) :
    Transducer
      (MsgTask.Serving.State A T (LocEngData ρ ν) (Msg ρ F))
      (TaskInput A T ρ F)
      (MsgTask.Serving.Output T (Call ρ F) (Msg ρ F)
        (Said ρ F)) :=
  Serving.system A T (program P evtMask)

/- What is done in a run. -/
def doneIn
    (A : Type)
    {T : Type}
    [DecidableEq A]
    [DecidableEq T]
    (P : Platform ν F)
    (evtMask : LocApiBase.EventMask)
    (is : List (TaskInput A T ρ F)) :
    List (Act T ρ F) :=
  MsgTask.Serving.acts ((onTask A T P evtMask).history is)

/-
  In every interleaving of the framework, the location API,
  the engine's own loop and the destructor in which the
  queue refuses nothing, the modem is given all settings of
  the configuration files, in their order, once for every
  time that the engine starts or the modem comes up again.
  The only ones that it has not been given yet are those of
  messages that wait, and of messages that the loop is about
  to queue.
-/
theorem settings_in_order
    (P : Platform ν F)
    (evtMask : LocApiBase.EventMask)
    (is : List (TaskInput A T ρ F))
    (hLegal :
      History.Along
        (fun _ e => MsgTask.Serving.legal e = true)
        ((onTask A T P evtMask).history is))
    (hTaken :
      ∀ a ∈ doneIn A P evtMask is, a.refused = false)
    (hCallers :
      ∀ t c, .call t c ∈ is → c.ofLoop = false) :
    ∃ r queued rest,
      ((onTask A T P evtMask).run is).task = some r ∧
        MsgTask.Holds r queued ∧
        settingsMade (doneIn A P evtMask is) ++ rest =
          (List.replicate (restarts (doneIn A P evtMask is))
            (settingsOf P.conf)).flatten ∧
        (r.loop ≠ .exited →
          rest =
            (r.loop.unrun ++ queued).flatMap
                (fun m => m.msg.2.settings) ++
              (((onTask A T P evtMask).run is).outbox
                none).flatMap Msg.settings) := by
  have hFits :
      ∀ a ∈ doneIn A P evtMask is, fits a := by
    intro a hMem
    cases a with
    | called t c out =>
        exact
          hCallers t c
            (MsgTask.Serving.call_mem_of_called hMem)
    | _ => trivial
  rcases (MsgTask.Serving.refines (A := A) (T := T)
      (program P evtMask)).run is hLegal with
    ⟨js, hPresents, hActs⟩
  change doneIn A P evtMask is = _ at hActs
  rw [hActs] at hTaken hFits
  have hConf :=
    (configured_kept P evtMask).run js hTaken hFits
  rw [← hActs] at hConf
  rcases hPresents.task with ⟨r, queued, hTask, hHolds, hBox⟩
  refine ⟨r, queued, _, hTask, hHolds, hConf.books, ?_⟩
  intro hGoes
  rw [hBox hGoes, List.flatMap_map]
  exact
    congrArg _
      (congrArg (fun o => (o none).flatMap Msg.settings)
        hPresents.outbox.symm)

/-
  The engine starts and makes its settings; the modem comes
  up once more, and the engine is told of it.
-/
def startRun : List (TaskInput Nat Unit Unit Unit) :=
  [.call ()
      (.direct (.init ⟨true, true, true, true⟩ false false)),
    .send (some ()) (some 0),
    .send (some ()) (some 1),
    .loop, .loop] ++
  (List.range 6).map (fun n => .send none (some (n + 2))) ++
  List.replicate 22 .loop ++
  [.call () (.handleEngineUpEvent .success),
    .send (some ()) (some 8),
    .send (some ()) (some 9)] ++
  List.replicate 5 .loop

theorem ofLoop_startRun :
    ∀ t c, .call t c ∈ startRun → c.ofLoop = false := by
  intro t c hMem
  simp only [startRun, List.mem_append, List.mem_cons,
    List.not_mem_nil, List.mem_map, List.mem_replicate,
    or_false, reduceCtorEq, and_false, exists_false,
    MsgTask.Serving.Input.call.injEq] at hMem
  rcases hMem with ⟨-, rfl⟩ | ⟨-, rfl⟩ <;> rfl

set_option maxRecDepth 8000 in
theorem settings_in_order_startRun :
    restarts (doneIn Nat barePlatform 0#32 startRun) = 2 ∧
      ∃ r queued rest,
        ((onTask (ρ := Unit) Nat Unit barePlatform 0#32).run
            startRun).task = some r ∧
          MsgTask.Holds r queued ∧
          settingsMade
                (doneIn Nat barePlatform 0#32 startRun) ++
              rest =
            (List.replicate
              (restarts
                (doneIn Nat barePlatform 0#32 startRun))
              (settingsOf barePlatform.conf)).flatten ∧
          (r.loop ≠ .exited →
            rest =
              (r.loop.unrun ++ queued).flatMap
                  (fun m => m.msg.2.settings) ++
                (((onTask Nat Unit barePlatform 0#32).run
                  startRun).outbox none).flatMap
                    Msg.settings) :=
  ⟨by decide,
    settings_in_order barePlatform 0#32 startRun (by decide)
      (by decide) ofLoop_startRun⟩

end Eng

end D2Common
