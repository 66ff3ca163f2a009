import D2Common.Eng.OnTask

/-
  Sessions as the framework asks for them.

  A start, a stop and a position mode first go to the proxy
  of the adapter, which records them. When the proxy leaves
  them to the engine, a message with the request is queued.
  A proxy can be replaced by another one at any time, which
  is then given what the old one has recorded. Nothing locks
  the proxies meanwhile: a request that comes in between
  still goes to the old one.

  There is only one class of proxies here, the base class.
  Its methods leave everything to the engine, reports too.

  Key definitions include:
    * `UlpProxyBase`
    * `HandOver`
    * `setUlpProxy`
    * `Session.called`
    * `Session.program`

  Key theorems include:
    * `handOver_mFixSet`
    * `handOver_mPosMode`
-/

------------------------------------------------------------
-- Proxies
------------------------------------------------------------

namespace D2Common

namespace Eng

/- `MIN_POSSIBLE_FIX_INTERVAL`. -/
def minPossibleFixInterval : UInt32 := 1000

/- `LocPosMode` without credentials and provider. -/
def LocPosMode.construct
    (m : LocPositionMode)
    (recr gap accu time : UInt32) : LocPosMode where
  mode := m
  recurrence := recr
  min_interval :=
    if gap < minPossibleFixInterval
    then minPossibleFixInterval else gap
  preferred_accuracy := accu
  preferred_time := time
  credentials := []
  provider := []

/- `LocPosMode()`. -/
def LocPosMode.default : LocPosMode :=
  ⟨.msBased, 0, minPossibleFixInterval, 50, 120000, [], []⟩

/- `UlpProxyBase`. -/
structure UlpProxyBase where
  mPosMode : LocPosMode
  mFixSet : Bool
deriving DecidableEq

namespace UlpProxyBase

/- The proxy as its constructor leaves it. -/
def new : UlpProxyBase where
  mPosMode := { LocPosMode.default with mode := .invalid }
  mFixSet := false

/-
  The methods return whether the proxy goes on with the
  request itself.
-/
def sendStartFix
    (ulp : UlpProxyBase) : Bool × UlpProxyBase :=
  (false, { ulp with mFixSet := true })

def sendStopFix
    (ulp : UlpProxyBase) : Bool × UlpProxyBase :=
  (false, { ulp with mFixSet := false })

def sendFixMode
    (ulp : UlpProxyBase)
    (params : LocPosMode) : Bool × UlpProxyBase :=
  (false, { ulp with mPosMode := params })

end UlpProxyBase

/-
  The pointer that `setUlpProxy` is given: that of the proxy
  in use, `NULL`, or that of another proxy.
-/
inductive UlpPointer where
  | mUlp
  | null
  | other (ulp : UlpProxyBase)
deriving DecidableEq

/- The new proxy is given the mode of the old one. -/
def passMode
    (mUlp ulp : UlpProxyBase) : UlpProxyBase :=
  if mUlp.mPosMode.mode != .invalid
  then (ulp.sendFixMode mUlp.mPosMode).2 else ulp

/- The new proxy is started if the old one was. -/
def passFix
    (mUlp ulp : UlpProxyBase) : UlpProxyBase :=
  if mUlp.mFixSet then ulp.sendStartFix.2 else ulp

/- All that the new proxy is given, at one go. -/
def handOver
    (mUlp ulp : UlpProxyBase) : UlpProxyBase :=
  passFix mUlp (passMode mUlp ulp)

theorem handOver_mFixSet
    (mUlp ulp : UlpProxyBase) :
    (handOver mUlp ulp).mFixSet =
      (mUlp.mFixSet || ulp.mFixSet) := by
  unfold handOver passFix passMode UlpProxyBase.sendFixMode
    UlpProxyBase.sendStartFix
  by_cases hMode : mUlp.mPosMode.mode = .invalid <;>
    cases hFix : mUlp.mFixSet <;> simp [hMode]

theorem handOver_mPosMode
    (mUlp ulp : UlpProxyBase) :
    (handOver mUlp ulp).mPosMode =
      if mUlp.mPosMode.mode = .invalid
      then ulp.mPosMode else mUlp.mPosMode := by
  unfold handOver passFix passMode UlpProxyBase.sendFixMode
    UlpProxyBase.sendStartFix
  by_cases hMode : mUlp.mPosMode.mode = .invalid <;>
    cases hFix : mUlp.mFixSet <;> simp [hMode]

/-
  A hand-over under way: the new proxy has been given the
  mode, and has been started or is still to be started. The
  adapter still has the old one.
-/
structure HandOver where
  ulp : UlpProxyBase
  started : Bool
deriving DecidableEq

/- The new proxy when it has been given everything. -/
def HandOver.done
    (h : HandOver)
    (mUlp : UlpProxyBase) : UlpProxyBase :=
  if h.started then h.ulp else passFix mUlp h.ulp

/- `LocEngAdapter::setUlpProxy`, up to the mode. -/
def setUlpProxy
    (mUlp : UlpProxyBase) : UlpPointer → Option HandOver
| .mUlp => none
| .null => some ⟨passMode mUlp .new, false⟩
| .other ulp => some ⟨passMode mUlp ulp, false⟩

end Eng

end D2Common

------------------------------------------------------------
-- Calls From The Framework
------------------------------------------------------------

namespace D2Common

namespace Eng

/- The `switch` of `loc_set_position_mode`. -/
def locMode (mode : UInt32) : LocPositionMode :=
  if mode = 1 then .msBased
  else if mode = 2 then .msAssisted
  else .standalone

/-
  The criteria that `loc_eng_set_position_mode` passes on;
  on some targets a position can only be standalone.
-/
def engPosMode
    (standaloneOnly : Bool)
    (params : LocPosMode) : LocPosMode :=
  if standaloneOnly && params.mode != .standalone
  then { params with mode := .standalone } else params

namespace Session

/-
  The module record, the proxy of its adapter, and what goes
  on in `LocEngAdapter::setUlpProxy`.
-/
structure State (ρ ν : Type) where
  eng : LocEngData ρ ν
  mUlp : UlpProxyBase
  handing : Option HandOver

/- A message of the engine, or `LocSetUlpProxy`. -/
inductive Msg (ρ F : Type) where
  | eng (m : Eng.Msg ρ F)
  | setUlpProxy (ulp : UlpPointer)

/-
  The calls of the framework that concern sessions, with the
  result that the location API will give, those of
  `LocInternalAdapter::setUlpProxy`, and the other calls.
  With `goOn` the loop goes on in a hand-over.
-/
inductive Call (ρ F : Type) where
  | locStart (result : ApiErr)
  | locStop (result : ApiErr)
  | locSetPositionMode
      (mode recurrence min_interval : UInt32)
      (preferred_accuracy preferred_time : UInt32)
  | locCleanup (result : ApiErr)
  | setUlpProxy (ulp : UlpPointer)
  | goOn
  | direct (c : HalCall ρ)
  | post (m : EngMsg ρ)
  | handleEngineUpEvent (result : ApiErr)
  | proc (m : Msg ρ F)

/- What a call does, the messages that it queues included. -/
inductive Said (ρ F : Type) where
  | eng (x : Eng.Said ρ F)
  | sendMsg (m : Msg ρ F)

variable {ρ ν F : Type}

/- The message that is queued, if any. -/
def Said.msg : Said ρ F → Option (Msg ρ F)
| .eng x => x.msg.map .eng
| .sendMsg m => some m

/-
  The loop goes on in a hand-over: the new proxy is started,
  and then the adapter has it.
-/
def State.goOn (s : State ρ ν) : State ρ ν :=
  match s.handing with
  | none => s
  | some ⟨ulp, false⟩ =>
      { s with handing := some ⟨passFix s.mUlp ulp, true⟩ }
  | some ⟨ulp, true⟩ =>
      { s with mUlp := ulp, handing := none }

/-
  The loop has come to the end of a hand-over, at the latest
  when it takes up its next message.
-/
def State.settled (s : State ρ ν) : State ρ ν :=
  match s.handing with
  | none => s
  | some h =>
      { s with mUlp := h.done s.mUlp, handing := none }

/- A request of which the proxy has its part. -/
def asked
    (s : State ρ ν)
    (sent : Bool × UlpProxyBase)
    (m : EngMsg ρ) : State ρ ν × List (Said ρ F) :=
  ({ s with mUlp := sent.2 },
    if sent.1 then [] else [.sendMsg (.eng (.eng m))])

/- `loc_eng_stop`. -/
def stop
    (s : State ρ ν)
    (result : ApiErr) : State ρ ν × List (Said ρ F) :=
  asked s s.mUlp.sendStopFix (.stopFix result)

/- A call that only the engine has to do with. -/
def onEngine
    (P : Platform ν F)
    (evtMask : LocApiBase.EventMask)
    (s : State ρ ν)
    (c : Eng.Call ρ F) : State ρ ν × List (Said ρ F) :=
  let r := Eng.called P evtMask s.eng c
  ({ s with eng := r.1 }, r.2.map .eng)

/-
  One call. The constructor of the adapter makes the first
  proxy, and without an adapter there is nothing to ask.
-/
def called
    (P : Platform ν F)
    (evtMask : LocApiBase.EventMask)
    (standaloneOnly : Bool)
    (s : State ρ ν) :
    Call ρ F → State ρ ν × List (Said ρ F)
| .locStart result =>
    if s.eng.adapter.isSome then
      asked s s.mUlp.sendStartFix (.startFix result)
    else (s, [])
| .locStop result =>
    if s.eng.adapter.isSome then stop s result else (s, [])
| .locSetPositionMode mode recurrence min_interval
    preferred_accuracy preferred_time =>
    let params :=
      engPosMode standaloneOnly
        (.construct (locMode mode) recurrence min_interval
          preferred_accuracy preferred_time)
    if s.eng.adapter.isSome then
      asked s (s.mUlp.sendFixMode params)
        (.positionMode params)
    else (s, [])
| .locCleanup result =>
    match s.eng.adapter with
    | none => (s, [])
    | some a =>
        let r := if a.mNavigating then stop s result else (s, [])
        (r.1,
          r.2 ++
            [.sendMsg (.eng (.adapter (.secPrivacyLock 4)))])
| .setUlpProxy ulp =>
    (s,
      if s.eng.adapter.isSome
      then [.sendMsg (.setUlpProxy ulp)] else [])
| .goOn => (s.goOn, [])
| .direct c =>
    let mUlp :=
      if s.eng.adapter.isSome then s.mUlp else .new
    onEngine P evtMask { s with mUlp } (.direct c)
| .post m => onEngine P evtMask s (.post m)
| .handleEngineUpEvent result =>
    onEngine P evtMask s (.handleEngineUpEvent result)
| .proc (.eng m) =>
    onEngine P evtMask s.settled (.proc m)
| .proc (.setUlpProxy ulp) =>
    let s := s.settled
    ({ s with handing := Eng.setUlpProxy s.mUlp ulp }, [])

/- The engine with its proxy as the program of the task. -/
def program
    (P : Platform ν F)
    (evtMask : LocApiBase.EventMask)
    (standaloneOnly : Bool) :
    Program (State ρ ν) (Call ρ F) (Msg ρ F)
      (Said ρ F) where
  machine :=
    { init := ⟨LocEngData.zero P.nmeaZero, .new, none⟩
      step := called P evtMask standaloneOnly }
  proc := .proc
  sends := Said.msg

end Session

end Eng

end D2Common
