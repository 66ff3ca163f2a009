import Mathlib.Data.List.Basic

/-
  The configuration parameters of the engine.

  `loc_parameter_table` names the parameters, and says of
  each what its value is and whether a flag beside it tells
  that a file has set it. The values live in two global
  records, which are one store here, with one place for
  every parameter.

  Doubles are any type `F` that has a zero.

  Key definitions include:
    * `Param`
    * `parameterTable`
    * `Store`
    * `defaultParameters`
-/

------------------------------------------------------------
-- The Table
------------------------------------------------------------

namespace D2Common

namespace Cfg

/- The parameters, in the order of the table. -/
inductive Param where
  | intermediatePos
  | accuracyThres
  | nmeaProvider
  | suplVer
  | capabilities
  | gyroBiasRandomWalk
  | accelRandomWalkSpectralDensity
  | angleRandomWalkSpectralDensity
  | rateRandomWalkSpectralDensity
  | velocityRandomWalkSpectralDensity
  | sensorAccelBatchesPerSec
  | sensorAccelSamplesPerBatch
  | sensorGyroBatchesPerSec
  | sensorGyroSamplesPerBatch
  | sensorAccelBatchesPerSecHigh
  | sensorAccelSamplesPerBatchHigh
  | sensorGyroBatchesPerSecHigh
  | sensorGyroSamplesPerBatchHigh
  | sensorControlMode
  | sensorUsage
  | sensorAlgorithmConfigMask
  | quipcEnabled
  | lppProfile
  | aGlonassPosProtocolSelect
  | sensorProvider
  | xtraServer1
  | xtraServer2
  | xtraServer3
deriving DecidableEq

/- `param_type`: `'n'`, `'s'` or `'f'`. -/
inductive ParamType where
  | number
  | string
  | float
deriving DecidableEq

/- An entry of a parameter table. -/
structure Entry where
  param : Param
  param_name : String
  hasParamSet : Bool
  param_type : ParamType

/- `loc_parameter_table`. -/
def parameterTable : List Entry :=
  [⟨.intermediatePos, "INTERMEDIATE_POS", false, .number⟩,
    ⟨.accuracyThres, "ACCURACY_THRES", false, .number⟩,
    ⟨.nmeaProvider, "NMEA_PROVIDER", false, .number⟩,
    ⟨.suplVer, "SUPL_VER", false, .number⟩,
    ⟨.capabilities, "CAPABILITIES", false, .number⟩,
    ⟨.gyroBiasRandomWalk,
      "GYRO_BIAS_RANDOM_WALK", true, .float⟩,
    ⟨.accelRandomWalkSpectralDensity,
      "ACCEL_RANDOM_WALK_SPECTRAL_DENSITY", true, .float⟩,
    ⟨.angleRandomWalkSpectralDensity,
      "ANGLE_RANDOM_WALK_SPECTRAL_DENSITY", true, .float⟩,
    ⟨.rateRandomWalkSpectralDensity,
      "RATE_RANDOM_WALK_SPECTRAL_DENSITY", true, .float⟩,
    ⟨.velocityRandomWalkSpectralDensity,
      "VELOCITY_RANDOM_WALK_SPECTRAL_DENSITY", true,
      .float⟩,
    ⟨.sensorAccelBatchesPerSec,
      "SENSOR_ACCEL_BATCHES_PER_SEC", false, .number⟩,
    ⟨.sensorAccelSamplesPerBatch,
      "SENSOR_ACCEL_SAMPLES_PER_BATCH", false, .number⟩,
    ⟨.sensorGyroBatchesPerSec,
      "SENSOR_GYRO_BATCHES_PER_SEC", false, .number⟩,
    ⟨.sensorGyroSamplesPerBatch,
      "SENSOR_GYRO_SAMPLES_PER_BATCH", false, .number⟩,
    ⟨.sensorAccelBatchesPerSecHigh,
      "SENSOR_ACCEL_BATCHES_PER_SEC_HIGH", false, .number⟩,
    ⟨.sensorAccelSamplesPerBatchHigh,
      "SENSOR_ACCEL_SAMPLES_PER_BATCH_HIGH", false,
      .number⟩,
    ⟨.sensorGyroBatchesPerSecHigh,
      "SENSOR_GYRO_BATCHES_PER_SEC_HIGH", false, .number⟩,
    ⟨.sensorGyroSamplesPerBatchHigh,
      "SENSOR_GYRO_SAMPLES_PER_BATCH_HIGH", false,
      .number⟩,
    ⟨.sensorControlMode,
      "SENSOR_CONTROL_MODE", false, .number⟩,
    ⟨.sensorUsage, "SENSOR_USAGE", false, .number⟩,
    ⟨.sensorAlgorithmConfigMask,
      "SENSOR_ALGORITHM_CONFIG_MASK", false, .number⟩,
    ⟨.quipcEnabled, "QUIPC_ENABLED", false, .number⟩,
    ⟨.lppProfile, "LPP_PROFILE", false, .number⟩,
    ⟨.aGlonassPosProtocolSelect,
      "A_GLONASS_POS_PROTOCOL_SELECT", false, .number⟩,
    ⟨.sensorProvider, "SENSOR_PROVIDER", false, .number⟩,
    ⟨.xtraServer1, "XTRA_SERVER_1", false, .string⟩,
    ⟨.xtraServer2, "XTRA_SERVER_2", false, .string⟩,
    ⟨.xtraServer3, "XTRA_SERVER_3", false, .string⟩]

end Cfg

end D2Common

------------------------------------------------------------
-- The Store
------------------------------------------------------------

namespace D2Common

namespace Cfg

/-
  `gps_conf` and `sap_conf`: the numbers, the doubles and
  the strings of the parameters, and the `_VALID` flags.
-/
structure Store (F : Type) where
  num : Param → BitVec 32
  dbl : Param → F
  str : Param → List Char
  valid : Param → Bool

variable {F : Type}

/- A number of the store, replaced. -/
def Store.setNum
    (c : Store F)
    (p : Param)
    (value : BitVec 32) : Store F :=
  { c with num := fun q => if q = p then value else c.num q }

/- A double of the store, replaced. -/
def Store.setDbl
    (c : Store F)
    (p : Param)
    (value : F) : Store F :=
  { c with dbl := fun q => if q = p then value else c.dbl q }

/- A string of the store, replaced. -/
def Store.setStr
    (c : Store F)
    (p : Param)
    (value : List Char) : Store F :=
  { c with str := fun q => if q = p then value else c.str q }

/- A flag of the store, replaced. -/
def Store.setValid
    (c : Store F)
    (p : Param)
    (value : Bool) : Store F :=
  { c with
    valid := fun q => if q = p then value else c.valid q }

/- The numbers that `loc_default_parameters` assigns. -/
def defaultNumbers : List (Param × BitVec 32) :=
  [(.intermediatePos, 0), (.accuracyThres, 0),
    (.nmeaProvider, 0), (.suplVer, 0x10000),
    (.capabilities, 0x7), (.sensorAccelBatchesPerSec, 2),
    (.sensorAccelSamplesPerBatch, 5),
    (.sensorGyroBatchesPerSec, 2),
    (.sensorGyroSamplesPerBatch, 5),
    (.sensorAccelBatchesPerSecHigh, 4),
    (.sensorAccelSamplesPerBatchHigh, 25),
    (.sensorGyroBatchesPerSecHigh, 4),
    (.sensorGyroSamplesPerBatchHigh, 25),
    (.sensorControlMode, 0), (.sensorUsage, 0),
    (.sensorAlgorithmConfigMask, 0), (.lppProfile, 0),
    (.aGlonassPosProtocolSelect, 0), (.sensorProvider, 1)]

/- The sensor parameters, each a double with a flag. -/
def sensorParams : List Param :=
  [.gyroBiasRandomWalk, .accelRandomWalkSpectralDensity,
    .angleRandomWalkSpectralDensity,
    .rateRandomWalkSpectralDensity,
    .velocityRandomWalkSpectralDensity]

/- `loc_default_parameters`. -/
def defaultParameters
    [Zero F]
    (c : Store F) : Store F :=
  let c :=
    defaultNumbers.foldl (fun c a => c.setNum a.1 a.2) c
  let c := sensorParams.foldl (fun c p => c.setDbl p 0) c
  sensorParams.foldl (fun c p => c.setValid p false) c

end Cfg

end D2Common
