import D2Common.Cfg.Params

/-
  The adapter between the engine and the location API.

  The adapter keeps the criteria of the fix and whether a
  session is running. Calls into the API are outputs, their
  results come from outside. Messages that the engine queues
  at the adapter are outputs as well.

  Key definitions include:
    * `LocPosMode`
    * `LocEngAdapter`
    * `LocEngAdapter.setPositionMode`
    * `LocEngAdapter.setInSession`
    * `AdapterMsg`
    * `reinit`
-/

------------------------------------------------------------
-- Fix Criteria
------------------------------------------------------------

namespace D2Common

namespace Eng

/- `LocPositionMode`. -/
inductive LocPositionMode where
  | invalid
  | standalone
  | msBased
  | msAssisted
  | reserved1
  | reserved2
  | reserved3
  | reserved4
  | reserved5
deriving DecidableEq

/- `GPS_POSITION_RECURRENCE_SINGLE`. -/
def recurrenceSingle : UInt32 := 1

/- `LocPosMode`. -/
structure LocPosMode where
  mode : LocPositionMode
  recurrence : UInt32
  min_interval : UInt32
  preferred_accuracy : UInt32
  preferred_time : UInt32
  credentials : List Char
  provider : List Char
deriving DecidableEq

/- `LocEngAdapter`, as far as sessions are concerned. -/
structure LocEngAdapter where
  mFixCriteria : LocPosMode
  mNavigating : Bool
deriving DecidableEq

/- Calls into `mLocApi`. -/
inductive ApiCall where
  | setPositionMode (posMode : LocPosMode)
  | startFix (posMode : LocPosMode)
  | stopFix
  | setInSession (inSession : Bool)
  | deleteAidingData (f : UInt16)
deriving DecidableEq

/- `loc_api_adapter_err`. -/
inductive ApiErr where
  | success
  | generalFailure
  | unsupported
  | invalidHandle
  | invalidParameter
  | engineBusy
  | phoneOffline
  | timeout
  | serviceNotPresent
  | internal
  | failure
  | unknown
deriving DecidableEq

/- `LOC_API_ADAPTER_ERR_ENGINE_DOWN` is the same number. -/
def ApiErr.engineDown : ApiErr := .phoneOffline

namespace LocEngAdapter

/- The adapter as its constructor leaves it. -/
def new : LocEngAdapter where
  mFixCriteria := ⟨.invalid, 0, 0, 0, 0, [], []⟩
  mNavigating := false

/- `LocEngAdapter::setPositionMode`; `none` is `NULL`. -/
def setPositionMode
    (a : LocEngAdapter)
    (posMode : Option LocPosMode) :
    LocEngAdapter × ApiCall :=
  let a :=
    match posMode with
    | some posMode => { a with mFixCriteria := posMode }
    | none => a
  (a, .setPositionMode a.mFixCriteria)

/- `LocEngAdapter::startFix`. -/
def startFix (a : LocEngAdapter) : ApiCall :=
  .startFix a.mFixCriteria

/- The criteria without a mode. -/
def invalidated (a : LocEngAdapter) : LocEngAdapter :=
  { a with
    mFixCriteria := { a.mFixCriteria with mode := .invalid } }

/- `LocEngAdapter::setInSession`. -/
def setInSession
    (a : LocEngAdapter)
    (inSession : Bool) : LocEngAdapter × ApiCall :=
  let a := { a with mNavigating := inSession }
  let a := if a.mNavigating then a else a.invalidated
  (a, .setInSession inSession)

end LocEngAdapter

end Eng

end D2Common

------------------------------------------------------------
-- Messages
------------------------------------------------------------

namespace D2Common

namespace Eng

/- `LocServerType`. -/
inductive LocServerType where
  | cdmaPde
  | customPde
  | mpc
  | supl
deriving DecidableEq

/-
  Messages queued at the adapter. `setServerUrl` and
  `setServerIpv4` set a server, the others configure the
  modem.
-/
inductive AdapterMsg (F : Type) where
  | init
  | secPrivacyLock (privacy_setting : Int)
  | dataClientInit
  | suplVer (ver : BitVec 32)
  | lppConfig (profile : BitVec 32)
  | sensorControlConfig (usage provider : BitVec 32)
  | aGlonassProtocol (protocol : BitVec 32)
  | sensorProperties (properties : List (Bool × F))
  | sensorPerfControlConfig (values : List (BitVec 32))
  | enableData (apn : Option (List Char)) (enable : Bool)
  | setServerUrl (url : List Char) (len : Nat)
  | setServerIpv4
      (ip : BitVec 32)
      (port : BitVec 32)
      (type : LocServerType)
deriving DecidableEq

variable {F : Type}

/- The parameters of `LocEngSensorPerfControlConfig`. -/
def perfControlParams : List Cfg.Param :=
  [.sensorControlMode, .sensorAccelSamplesPerBatch,
    .sensorAccelBatchesPerSec, .sensorGyroSamplesPerBatch,
    .sensorGyroBatchesPerSec,
    .sensorAccelSamplesPerBatchHigh,
    .sensorAccelBatchesPerSecHigh,
    .sensorGyroSamplesPerBatchHigh,
    .sensorGyroBatchesPerSecHigh,
    .sensorAlgorithmConfigMask]

/-
  `loc_eng_reinit`: the messages it sends. The sensor
  properties are sent only when a file has set one of them.
-/
def reinit
    (conf : Cfg.Store F)
    (agpsStatus : Bool) : List (AdapterMsg F) :=
  [.suplVer (conf.num .suplVer),
    .lppConfig (conf.num .lppProfile),
    .sensorControlConfig (conf.num .sensorUsage)
      (conf.num .sensorProvider),
    .aGlonassProtocol
      (conf.num .aGlonassPosProtocolSelect)] ++
  (if Cfg.sensorParams.any conf.valid then
    [.sensorProperties
      (Cfg.sensorParams.map fun p =>
        (conf.valid p, conf.dbl p))]
  else []) ++
  [.sensorPerfControlConfig
      (perfControlParams.map conf.num),
    .enableData none agpsStatus]

end Eng

end D2Common
