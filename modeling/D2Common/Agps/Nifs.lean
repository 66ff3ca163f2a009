import D2Common.Agps.SuplEs
import D2Common.Agps.Upkeep
import D2Common.DmnConn.Handler

/-
  All the machines of the engine.

  `loc_eng_data_s_type` points to four machines. They are
  made by `loc_eng_agps_init` and by a message that it
  queues, and from then on the modem, the daemon, the
  framework and the data services all call into them. A run
  is any order of what they do.

  Key definitions include:
    * `Nifs`
    * `Nifs.Input`
    * `Nifs.engine`
    * `Nifs.Inv`

  Key theorems include:
    * `Nifs.inv_step`
    * `Nifs.inv_run`
-/

------------------------------------------------------------
-- The Machines
------------------------------------------------------------

namespace D2Common

namespace Agps

/- The fields that point to a machine. -/
inductive NifField where
  | agnss_nif
  | internet_nif
  | wifi_nif
  | ds_nif
deriving DecidableEq, Repr

/-
  The engine with its WIFI machine. The other fields are the
  handle that the daemon's thread is given, whose only
  engine this is, and how many `LocEngDataClientInit` wait
  to be processed.
-/
structure Nifs extends LocEng where
  wifi_nif : Option AgpsStateMachine
  loc_api_handle : Option Unit
  dataClientInits : Nat

def agpsTypeSuplEs : AGpsExtType := 5

/- The `switch` of `getAgpsStateMachine`. -/
def nifOfType (agpsType : AGpsExtType) : NifField :=
  if agpsType = DmnConn.agpsTypeWifi then
    .wifi_nif
  else if
    agpsType = agpsTypeInvalid ∨
      agpsType = agpsTypeSupl then
    .agnss_nif
  else if agpsType = agpsTypeSuplEs then
    .ds_nif
  else
    .internet_nif

namespace Nifs

def nif (e : Nifs) : NifField → Option AgpsStateMachine
| .agnss_nif => e.agnss_nif
| .internet_nif => e.internet_nif
| .wifi_nif => e.wifi_nif
| .ds_nif => e.ds_nif

def getAgpsStateMachine
    (e : Nifs)
    (agpsType : AGpsExtType) : Option AgpsStateMachine :=
  e.nif (nifOfType agpsType)

/- The engine after a part of it has processed a message. -/
def ofLocEng
    (e : Nifs)
    (r : LocEng × List Emission) : Nifs × List Emission :=
  ({ e with toLocEng := r.1 }, r.2)

/- The engine after a machine has returned from a call. -/
def returnedTo
    (e : Nifs)
    (f : NifField)
    (r : AgpsStateMachine × List Emission) :
    Nifs × List Emission :=
  match f with
  | .agnss_nif => ({ e with agnss_nif := some r.1 }, r.2)
  | .internet_nif =>
      ({ e with internet_nif := some r.1 }, r.2)
  | .wifi_nif => ({ e with wifi_nif := some r.1 }, r.2)
  | .ds_nif => e.ofLocEng (e.toLocEng.returned r)

/-
  A call through a pointer that is not checked. Where there
  is no machine the code follows NULL and nothing more can
  be said of the run.
-/
def call
    (e : Nifs)
    (f : NifField)
    (env : DataCall)
    (c : Call) : Nifs × List Emission :=
  match e.nif f with
  | some sm => e.returnedTo f (sm.call env c)
  | none => (e, [])

end Nifs

end Agps

end D2Common

------------------------------------------------------------
-- What The Engine Processes
------------------------------------------------------------

namespace D2Common

namespace Agps

namespace Nifs

/- The data of the engine before anything is initialized. -/
def cleared : Nifs where
  agps_status_cb := false
  agnss_nif := none
  internet_nif := none
  ds_nif := none
  retryTimers := 0
  retryQueue := []
  atlQueue := []
  wifi_nif := none
  loc_api_handle := none
  dataClientInits := 0

/-
  `loc_eng_agps_init`, for a framework that sets its status
  callback or leaves it NULL, a target with a machine for
  AGNSS or without, and an adapter that supports requests or
  does not.
-/
def agpsInit
    (e : Nifs)
    (statusCb hasAgnss mSupportsAgpsRequests : Bool) :
    Nifs :=
  if e.agps_status_cb then e
  else
    let launched := hasAgnss && mSupportsAgpsRequests
    { e with
      agps_status_cb := statusCb
      internet_nif :=
        some (AgpsStateMachine.new agpsTypeWwanAny false)
      wifi_nif :=
        some
          (AgpsStateMachine.new DmnConn.agpsTypeWifi true)
      agnss_nif :=
        if hasAgnss then
          some (AgpsStateMachine.new agpsTypeSupl false)
        else
          e.agnss_nif
      loc_api_handle :=
        if launched then some () else e.loc_api_handle
      dataClientInits :=
        if launched then e.dataClientInits + 1
        else e.dataClientInits }

/- `LocEngDataClientInit::proc`, if one is queued. -/
def dataClientInit
    (e : Nifs)
    (initDataServiceClient : Int) : Nifs :=
  match e.dataClientInits with
  | 0 => e
  | n + 1 =>
      { e with
        dataClientInits := n
        ds_nif :=
          if initDataServiceClient = 0 then
            some DSStateMachine.new
          else
            e.ds_nif }

/- `LocEngRequestATL::proc`. -/
def requestATL
    (e : Nifs)
    (mID : Handle)
    (mType : AGpsExtType)
    (tail : IPv6Addr)
    (env : DataCall) : Nifs × List Emission :=
  match e.getAgpsStateMachine mType with
  | some sm =>
      let s :=
        Subscriber.atl mID (agpsTypeInvalid == mType) tail
      e.returnedTo (nifOfType mType)
        (sm.call env (.subscribeRsrc s))
  | none => (e, [.atlOpenStatus mID 0 none (-1) mType])

/-
  `LocEngReleaseATL::proc`. The two ATL subscribers are
  objects of their own, each with what lies behind it.
-/
def releaseATL
    (e : Nifs)
    (mID : Handle)
    (tail₁ tail₂ : IPv6Addr) : Nifs × List Emission :=
  match
    LocEng.unsubscribed e.agnss_nif
      (.atl mID false tail₁) with
  | some r => e.returnedTo .agnss_nif r
  | none =>
      match
        LocEng.unsubscribed e.internet_nif
          (.atl mID false tail₂) with
      | some r => e.returnedTo .internet_nif r
      | none =>
          match
            LocEng.unsubscribed e.ds_nif
              (.ds mID false) with
          | some r => e.returnedTo .ds_nif r
          | none => (e, [.atlCloseStatus mID 0])

/-
  The `LocEngRequestATL` that a fallback has queued. Its type
  is for `agnss_nif`, which starts no data call.
-/
def queuedATL
    (e : Nifs)
    (tail : IPv6Addr) : Nifs × List Emission :=
  match e.atlQueue with
  | mID :: rest =>
      { e with atlQueue := rest }.requestATL mID
        agpsTypeSupl tail noDataCall
  | [] => (e, [])

/- The call that a message for a client makes. -/
def reqRel
    (mIsReq : Bool)
    (s : Subscriber) : Call :=
  if mIsReq then .subscribeRsrc s else .unsubscribeRsrc s

/-
  `LocEngReqRelBIT::proc` and `LocEngReqRelWifi::proc`. No
  handler sends a type whose machine starts data calls.
-/
def proc
    (e : Nifs)
    (tail : IPv6Addr) :
    DmnConn.LocMsg → Nifs × List Emission
| .reqRelBIT mType mIPv4Addr mIPv6Addr mIsReq =>
    let c := Client.bit mIPv4Addr mIPv6Addr
    e.call (nifOfType mType) noDataCall
      (reqRel mIsReq c.subscriber)
| .reqRelWifi mType mSenderId mSSID mPassword mIsReq =>
    let c :=
      Client.wifi (some mSSID) (some mPassword) mSenderId
        tail
    match e.wifi_nif with
    | some sm =>
        e.returnedTo .wifi_nif
          (sm.call noDataCall (reqRel mIsReq c.subscriber))
    | none =>
        (e,
          [.atlOpenStatus mSenderId.toHandle 0 none (-1)
            mType])

/- A handler has returned, and what it sent is processed. -/
def served
    (e : Nifs)
    (tail : IPv6Addr)
    (outcome : DmnConn.Outcome Unit) :
    Nifs × List Emission :=
  match outcome.sent with
  | (_, msg) :: _ => e.proc tail msg
  | [] => (e, [])

def maxApnLen : Nat := 100

/- `loc_eng_agps_open`, and the message that it sends. -/
def agpsOpen
    (e : Nifs)
    (agpsType : AGpsExtType)
    (apn : Option CString)
    (bearerType : AGpsBearerType)
    (env : DataCall) : Nifs × List Emission :=
  match
    apn, e.getAgpsStateMachine agpsType,
      e.agps_status_cb with
  | some apn, some sm, true =>
      let sm :=
        (sm.setBearer bearerType).setAPN
          (some (apn.take maxApnLen))
      e.returnedTo (nifOfType agpsType)
        (sm.call env (.onRsrcEvent .granted))
  | _, _, _ => (e, [])

/-
  `loc_eng_agps_closed` and `loc_eng_agps_open_failed`, with
  the messages that they send.
-/
def agpsEvent
    (e : Nifs)
    (agpsType : AGpsExtType)
    (event : AgpsRsrcStatus)
    (env : DataCall) : Nifs × List Emission :=
  if e.agps_status_cb then
    e.call (nifOfType agpsType) env (.onRsrcEvent event)
  else
    (e, [])

def agpsClosed
    (e : Nifs)
    (agpsType : AGpsExtType)
    (env : DataCall) : Nifs × List Emission :=
  e.agpsEvent agpsType .released env

def agpsOpenFailed
    (e : Nifs)
    (agpsType : AGpsExtType)
    (env : DataCall) : Nifs × List Emission :=
  e.agpsEvent agpsType .denied env

/- `loc_eng_handle_engine_up`. -/
def handleEngineUp (e : Nifs) : Nifs :=
  { e with
    toLocEng :=
      { e.toLocEng with
        toEngine := e.toEngine.handleEngineUp } }

/-
  Everything that reaches the machines. `pmsg` is the buffer
  the daemon's message was received into, and each `tail`
  what lies behind an object that the engine builds.
-/
inductive Input where
  | agpsInit
      (statusCb hasAgnss mSupportsAgpsRequests : Bool)
  | dataClientInit (initDataServiceClient : Int)
  | requestATL
      (mID : Handle)
      (mType : AGpsExtType)
      (tail : IPv6Addr)
      (env : DataCall)
  | releaseATL (mID : Handle) (tail₁ tail₂ : IPv6Addr)
  | requestSuplEs (mID : Handle) (env : DataCall)
  | suplEsOpened
  | suplEsClosed (env : DataCall)
  | timerFires
  | queuedRequest (env : DataCall)
  | queuedATL (tail : IPv6Addr)
  | ifRequest
      (pmsg : DmnConn.Mem)
      (len : Int)
      (tail : IPv6Addr)
  | ifRelease
      (pmsg : DmnConn.Mem)
      (len : Int)
      (tail : IPv6Addr)
  | agpsOpen
      (agpsType : AGpsExtType)
      (apn : Option CString)
      (bearerType : AGpsBearerType)
      (env : DataCall)
  | agpsClosed (agpsType : AGpsExtType) (env : DataCall)
  | agpsOpenFailed
      (agpsType : AGpsExtType)
      (env : DataCall)
  | engineUp

def step
    (abi : DmnConn.Abi)
    (e : Nifs) :
    Input → Nifs × List Emission
| .agpsInit statusCb hasAgnss supports =>
    (e.agpsInit statusCb hasAgnss supports, [])
| .dataClientInit result => (e.dataClientInit result, [])
| .requestATL mID mType tail env =>
    e.requestATL mID mType tail env
| .releaseATL mID tail₁ tail₂ =>
    e.releaseATL mID tail₁ tail₂
| .requestSuplEs mID env =>
    e.ofLocEng (e.toLocEng.requestSuplEs mID env)
| .suplEsOpened => e.ofLocEng e.toLocEng.suplEsOpened
| .suplEsClosed env =>
    e.ofLocEng (e.toLocEng.suplEsClosed env)
| .timerFires => e.ofLocEng e.toLocEng.timerFires
| .queuedRequest env =>
    e.ofLocEng (e.toLocEng.queuedRequest env)
| .queuedATL tail => e.queuedATL tail
| .ifRequest pmsg len tail =>
    e.served tail
      (DmnConn.ifRequestHandler abi e.loc_api_handle pmsg
        len)
| .ifRelease pmsg len tail =>
    e.served tail
      (DmnConn.ifReleaseHandler abi e.loc_api_handle pmsg
        len)
| .agpsOpen agpsType apn bearerType env =>
    e.agpsOpen agpsType apn bearerType env
| .agpsClosed agpsType env => e.agpsClosed agpsType env
| .agpsOpenFailed agpsType env =>
    e.agpsOpenFailed agpsType env
| .engineUp => (e.handleEngineUp, [])

def engine
    (abi : DmnConn.Abi) :
    Transducer Nifs Input Emission where
  init := cleared
  step := step abi

/- An emergency message, with zeros behind the objects. -/
def ofMsg : SuplEs.Msg → Input
| .requestSuplEs mID env => .requestSuplEs mID env
| .releaseATL mID =>
    .releaseATL mID (Vector.replicate 16 0)
      (Vector.replicate 16 0)
| .suplEsOpened => .suplEsOpened
| .suplEsClosed env => .suplEsClosed env
| .timerFires => .timerFires
| .queuedRequest env => .queuedRequest env
| .queuedATL => .queuedATL (Vector.replicate 16 0)

theorem releaseATL_eq
    (e : Nifs)
    (mID : Handle) :
    e.releaseATL mID (Vector.replicate 16 0)
        (Vector.replicate 16 0) =
      e.ofLocEng (e.toLocEng.releaseATL mID) := by
  unfold releaseATL LocEng.releaseATL LocEng.atlSubscriber
  cases LocEng.unsubscribed e.agnss_nif
      (.atl mID false (Vector.replicate 16 0)) with
  | some r => rfl
  | none =>
      cases LocEng.unsubscribed e.internet_nif
          (.atl mID false (Vector.replicate 16 0)) with
      | some r => rfl
      | none =>
          cases LocEng.unsubscribed e.ds_nif
              (.ds mID false) with
          | some r => rfl
          | none => rfl

theorem requestATL_eq
    (e : Nifs)
    (mID : Handle) :
    e.requestATL mID agpsTypeSupl (Vector.replicate 16 0)
        noDataCall =
      e.ofLocEng (e.toLocEng.requestATL mID) := by
  unfold requestATL LocEng.requestATL getAgpsStateMachine
  change (match e.agnss_nif with | some _ => _ | none => _) =
    _
  cases e.agnss_nif with
  | some sm => rfl
  | none => rfl

/- The emergency engine is a part of the whole engine. -/
theorem step_ofMsg
    (abi : DmnConn.Abi)
    (e : Nifs)
    (m : SuplEs.Msg) :
    step abi e (ofMsg m) =
      e.ofLocEng (SuplEs.step e.toLocEng m) := by
  cases m with
  | releaseATL mID => exact releaseATL_eq e mID
  | queuedATL =>
      simp only [step, ofMsg, queuedATL, SuplEs.step,
        LocEng.queuedATL]
      cases e.atlQueue with
      | nil => rfl
      | cons mID rest =>
          exact
            requestATL_eq
              { e with
                toLocEng :=
                  { e.toLocEng with atlQueue := rest } }
              mID
  | _ => rfl

/- The state after inputs from a state, and what they emit. -/
def ran
    (abi : DmnConn.Abi)
    (e : Nifs)
    (is : List Input) : Nifs × List Emission :=
  ((engine abi).runFrom e is,
    ((engine abi).historyFrom e is).flatMap (·.output))

theorem ran_cons
    (abi : DmnConn.Abi)
    (e : Nifs)
    (i : Input)
    (is : List Input) :
    ran abi e (i :: is) =
      ((ran abi (step abi e i).1 is).1,
        (step abi e i).2 ++
          (ran abi (step abi e i).1 is).2) := rfl

theorem ran_concat
    (abi : DmnConn.Abi)
    (e : Nifs)
    (is : List Input)
    (i : Input) :
    ran abi e (is ++ [i]) =
      ((step abi (ran abi e is).1 i).1,
        (ran abi e is).2 ++
          (step abi (ran abi e is).1 i).2) := by
  unfold ran
  rw [Transducer.runFrom_append,
    Transducer.historyFrom_append, List.flatMap_append]
  simp [Transducer.runFrom, Transducer.historyFrom,
    Transducer.event, engine]

end Nifs

end Agps

end D2Common

------------------------------------------------------------
-- The Invariant
------------------------------------------------------------

namespace D2Common

namespace Agps

/- The records that can be on the list of a machine. -/
def NifField.Admits : NifField → Subscriber → Prop
| .agnss_nif, s => s.isAtlOrBit = true
| .internet_nif, s => s.isAtlOrBit = true
| .wifi_nif, s => s.isDS = false
| .ds_nif, s =>
    s.isBit = false ∧ ∀ q, s.identity ≠ .wifi q

theorem NifField.admits_inactivated
    {f : NifField}
    {s : Subscriber}
    (hs : f.Admits s) :
    f.Admits s.inactivated := by
  cases f <;> cases s <;> exact hs

theorem NifField.admits_clone
    {f : NifField}
    {s : Subscriber}
    (hs : f.Admits s) :
    f.Admits s.clone := by
  cases f <;> cases s <;> exact hs

/- What every reachable machine of a field satisfies. -/
structure NifField.Holds
    (f : NifField)
    (sm : AgpsStateMachine) : Prop where
  sound : Roster.Sound sm
  ds : sm.mRetries.isSome = (f == .ds_nif)
  single : sm.mEnforceSingleSubscriber = (f == .wifi_nif)
  admits : ∀ s ∈ sm.mSubscribers, f.Admits s

namespace NifField.Holds

variable {f : NifField}
variable {sm : AgpsStateMachine}

theorem ofNew
    (type : AGpsExtType)
    (hPlain : f ≠ .ds_nif) :
    f.Holds
      (AgpsStateMachine.new type (f == .wifi_nif)) where
  sound := Roster.sound_of_nil rfl (Nat.zero_le _)
  ds := by simp [AgpsStateMachine.new, hPlain]
  single := rfl
  admits := by simp [AgpsStateMachine.new]

theorem dsNew :
    NifField.ds_nif.Holds DSStateMachine.new where
  sound := Roster.sound_of_nil rfl (Nat.zero_le _)
  ds := rfl
  single := rfl
  admits := by
    simp [DSStateMachine.new, AgpsStateMachine.new]

/- A call from a client that the machine can have. -/
theorem call
    (hSm : f.Holds sm)
    (env : DataCall)
    {c : Call}
    (hClient :
      ∀ s, c = .subscribeRsrc s → f.Admits s) :
    f.Holds (sm.call env c).1 := by
  rw [AgpsStateMachine.call_eq]
  have hSame := Roster.same_respond sm env c
  refine
    ⟨Roster.sound_respond env c hSm.sound,
      hSame.1.trans hSm.ds, hSame.2.trans hSm.single, ?_⟩
  refine (Roster.closed_all fun s hs =>
    NifField.admits_inactivated hs).respond env hSm.admits ?_
  intro s hCall _ t ht
  rcases Roster.mem_added ht with rfl | ht
  · exact NifField.admits_clone (hClient s hCall)
  · exact hSm.admits t ht

theorem dropAllSubscribers
    (hSm : f.Holds sm) :
    f.Holds sm.dropAllSubscribers where
  sound := Roster.sound_of_nil rfl hSm.sound.retries
  ds := hSm.ds
  single := hSm.single
  admits := by simp [AgpsStateMachine.dropAllSubscribers]

theorem unsubscribe
    (hSm : f.Holds sm)
    (env : DataCall)
    (s : Subscriber) :
    f.Holds (sm.call env (.unsubscribeRsrc s)).1 :=
  hSm.call env (fun _ hs => nomatch hs)

theorem event
    (hSm : f.Holds sm)
    (env : DataCall)
    (event : AgpsRsrcStatus) :
    f.Holds (sm.call env (.onRsrcEvent event)).1 :=
  hSm.call env (fun _ hs => nomatch hs)

end NifField.Holds

namespace Nifs

/- Every machine that is there satisfies its invariant. -/
def Inv (e : Nifs) : Prop :=
  ∀ f, ∀ sm ∈ e.nif f, f.Holds sm

theorem nif_returnedTo
    (e : Nifs)
    (f f' : NifField)
    (r : AgpsStateMachine × List Emission) :
    (e.returnedTo f r).1.nif f' =
      if f' = f then some r.1 else e.nif f' := by
  cases f <;> cases f' <;> rfl

@[simp] theorem snd_returnedTo
    (e : Nifs)
    (f : NifField)
    (r : AgpsStateMachine × List Emission) :
    (e.returnedTo f r).2 = r.2 := by
  cases f <;> rfl

@[simp] theorem loc_api_handle_returnedTo
    (e : Nifs)
    (f : NifField)
    (r : AgpsStateMachine × List Emission) :
    (e.returnedTo f r).1.loc_api_handle =
      e.loc_api_handle := by
  cases f <;> rfl

theorem inv_cleared : Inv cleared := by
  intro f sm hSm
  cases f <;> simp [cleared, nif] at hSm

variable {e : Nifs}

theorem inv_returnedTo
    (hInv : Inv e)
    {f : NifField}
    {r : AgpsStateMachine × List Emission}
    (hSm : f.Holds r.1) :
    Inv (e.returnedTo f r).1 := by
  intro f' sm hsm
  rw [nif_returnedTo] at hsm
  by_cases hSame : f' = f
  · rw [if_pos hSame] at hsm
    cases hsm
    exact hSame ▸ hSm
  · rw [if_neg hSame] at hsm
    exact hInv f' sm hsm

theorem inv_call
    (hInv : Inv e)
    {f : NifField}
    (env : DataCall)
    {c : Call}
    (hClient :
      ∀ s, c = .subscribeRsrc s → f.Admits s) :
    Inv (e.call f env c).1 := by
  unfold call
  cases hNif : e.nif f with
  | none => exact hInv
  | some sm =>
      exact inv_returnedTo hInv
        ((hInv f sm hNif).call env hClient)

/- Only the machines count for the invariant. -/
theorem inv_of_nif
    {e e' : Nifs}
    (hInv : Inv e)
    (hNif : ∀ f, e'.nif f = e.nif f) :
    Inv e' := by
  intro f sm hSm
  rw [hNif f] at hSm
  exact hInv f sm hSm

theorem inv_agpsInit
    (hInv : Inv e)
    (statusCb hasAgnss supports : Bool) :
    Inv (e.agpsInit statusCb hasAgnss supports) := by
  unfold agpsInit
  split
  · exact hInv
  · intro f sm hSm
    cases f with
    | ds_nif => exact hInv .ds_nif sm hSm
    | internet_nif =>
        cases hSm
        exact NifField.Holds.ofNew agpsTypeWwanAny
          (by decide : NifField.internet_nif ≠ .ds_nif)
    | wifi_nif =>
        cases hSm
        exact NifField.Holds.ofNew DmnConn.agpsTypeWifi
          (by decide : NifField.wifi_nif ≠ .ds_nif)
    | agnss_nif =>
        cases hasAgnss with
        | false => exact hInv .agnss_nif sm hSm
        | true =>
            cases hSm
            exact NifField.Holds.ofNew agpsTypeSupl
              (by decide : NifField.agnss_nif ≠ .ds_nif)

theorem inv_dataClientInit
    (hInv : Inv e)
    (result : Int) :
    Inv (e.dataClientInit result) := by
  unfold dataClientInit
  split
  · exact hInv
  · intro f sm hSm
    cases f with
    | ds_nif =>
        by_cases hResult : result = 0
        · simp only [nif, if_pos hResult] at hSm
          cases hSm
          exact NifField.Holds.dsNew
        · simp only [nif, if_neg hResult] at hSm
          exact hInv .ds_nif sm hSm
    | agnss_nif => exact hInv .agnss_nif sm hSm
    | internet_nif => exact hInv .internet_nif sm hSm
    | wifi_nif => exact hInv .wifi_nif sm hSm

theorem admits_atl
    {f : NifField}
    (mID : Handle)
    (mode : Bool)
    (tail : IPv6Addr) :
    f.Admits (.atl mID mode tail) := by
  cases f with
  | ds_nif => exact ⟨rfl, fun _ hq => nomatch hq⟩
  | _ => rfl

theorem admits_ds
    (mID : Handle) :
    NifField.ds_nif.Admits (.ds mID false) :=
  ⟨rfl, fun _ hq => nomatch hq⟩

theorem inv_requestATL
    (hInv : Inv e)
    (mID : Handle)
    (mType : AGpsExtType)
    (tail : IPv6Addr)
    (env : DataCall) :
    Inv (e.requestATL mID mType tail env).1 := by
  unfold requestATL getAgpsStateMachine
  cases hNif : e.nif (nifOfType mType) with
  | none => exact hInv
  | some sm =>
      refine inv_returnedTo hInv
        ((hInv _ sm hNif).call env ?_)
      intro s hs
      cases hs
      exact admits_atl mID _ tail

/- What an unsubscribe leaves when it returns true. -/
theorem holds_unsubscribed
    (hInv : Inv e)
    {f : NifField}
    {s : Subscriber}
    {r : AgpsStateMachine × List Emission}
    (hLeft : LocEng.unsubscribed (e.nif f) s = some r) :
    f.Holds r.1 := by
  cases hNif : e.nif f with
  | none => simp [hNif, LocEng.unsubscribed] at hLeft
  | some sm =>
      rw [hNif, LocEng.unsubscribed_some] at hLeft
      split at hLeft
      · cases hLeft
        exact (hInv f sm hNif).unsubscribe noDataCall s
      · cases hLeft

theorem inv_releaseATL
    (hInv : Inv e)
    (mID : Handle)
    (tail₁ tail₂ : IPv6Addr) :
    Inv (e.releaseATL mID tail₁ tail₂).1 := by
  unfold releaseATL
  split
  · next r hLeft =>
      exact inv_returnedTo hInv
        (holds_unsubscribed (f := .agnss_nif) hInv hLeft)
  · split
    · next r hLeft =>
        exact inv_returnedTo hInv
          (holds_unsubscribed (f := .internet_nif) hInv
            hLeft)
    · split
      · next r hLeft =>
          exact inv_returnedTo hInv
            (holds_unsubscribed (f := .ds_nif) hInv hLeft)
      · exact hInv

theorem inv_requestSuplEs
    (hInv : Inv e)
    (mID : Handle)
    (env : DataCall) :
    Inv (e.ofLocEng (e.toLocEng.requestSuplEs mID env)).1 := by
  unfold LocEng.requestSuplEs
  cases hNif : e.ds_nif with
  | none => exact hInv
  | some sm =>
      refine inv_returnedTo (f := .ds_nif) hInv
        ((hInv .ds_nif sm hNif).call env ?_)
      intro s hs
      cases hs
      exact admits_ds mID

theorem inv_suplEsOpened
    (hInv : Inv e) :
    Inv (e.ofLocEng e.toLocEng.suplEsOpened).1 := by
  unfold LocEng.suplEsOpened
  cases hNif : e.ds_nif with
  | none => exact hInv
  | some sm =>
      exact inv_returnedTo (f := .ds_nif) hInv
        ((hInv .ds_nif sm hNif).event noDataCall .granted)

theorem inv_suplEsClosed
    (hInv : Inv e)
    (env : DataCall) :
    Inv (e.ofLocEng (e.toLocEng.suplEsClosed env)).1 := by
  unfold LocEng.suplEsClosed
  cases hNif : e.ds_nif with
  | none => exact hInv
  | some sm =>
      exact inv_returnedTo (f := .ds_nif) hInv
        ((hInv .ds_nif sm hNif).event env .released)

theorem retryCallback_sm
    (x : Exec) :
    (DSStateMachine.retryCallback x).sm = x.sm := by
  unfold DSStateMachine.retryCallback
  split <;> rfl

theorem inv_timerFires
    (hInv : Inv e) :
    Inv (e.ofLocEng e.toLocEng.timerFires).1 := by
  unfold LocEng.timerFires
  split
  · next timers sm hTimers hNif =>
      have hFewer :
          Inv
            { e with
              toLocEng :=
                { e.toLocEng with retryTimers := timers } } :=
        inv_of_nif hInv (fun f => by cases f <;> rfl)
      refine inv_returnedTo (f := .ds_nif) hFewer ?_
      rw [retryCallback_sm]
      exact hInv .ds_nif sm hNif
  · exact hInv

theorem inv_queuedRequest
    (hInv : Inv e)
    (env : DataCall) :
    Inv (e.ofLocEng (e.toLocEng.queuedRequest env)).1 := by
  unfold LocEng.queuedRequest
  split
  · next mID rest hQueue =>
      have hFewer :
          Inv
            { e with
              toLocEng :=
                { e.toLocEng with retryQueue := rest } } :=
        inv_of_nif hInv (fun f => by cases f <;> rfl)
      exact inv_requestSuplEs hFewer mID env
  · exact hInv

theorem inv_queuedATL
    (hInv : Inv e)
    (tail : IPv6Addr) :
    Inv (e.queuedATL tail).1 := by
  unfold queuedATL
  split
  · next mID rest hQueue =>
      have hFewer :
          Inv
            { e with
              toLocEng :=
                { e.toLocEng with atlQueue := rest } } :=
        inv_of_nif hInv (fun f => by cases f <;> rfl)
      exact
        inv_requestATL hFewer mID agpsTypeSupl tail
          noDataCall
  · exact hInv

/-
  What the handlers send: BIT messages for one of three
  types, and WIFI messages for one of three senders.
-/
def Sendable : DmnConn.LocMsg → Prop
| .reqRelBIT mType _ _ _ =>
    mType = agpsTypeSupl ∨ mType = DmnConn.agpsTypeWifi ∨
      mType = DmnConn.agpsTypeAny
| .reqRelWifi _ mSenderId _ _ _ =>
    mSenderId = .quipc ∨ mSenderId = .msapm ∨
      mSenderId = .msapu

theorem ifRequestType_some
    {n : Nat}
    {type : AGpsExtType}
    (hType : DmnConn.ifRequestType n = some type) :
    type = agpsTypeSupl ∨ type = DmnConn.agpsTypeWifi ∨
      type = DmnConn.agpsTypeAny := by
  unfold DmnConn.ifRequestType at hType
  split at hType
  · exact Or.inl (Option.some.inj hType).symm
  · exact Or.inr (Or.inl (Option.some.inj hType).symm)
  · exact Or.inr (Or.inr (Option.some.inj hType).symm)
  · cases hType

theorem ifRequestSenderId_some
    {n : Nat}
    {senderId : SenderId}
    (hSender : DmnConn.ifRequestSenderId n = some senderId)
    (hOther : senderId ≠ .gpsoneDaemon) :
    senderId = .quipc ∨ senderId = .msapm ∨
      senderId = .msapu := by
  unfold DmnConn.ifRequestSenderId at hSender
  split at hSender <;> simp_all

theorem sendable_ifReqRel
    {abi : DmnConn.Abi}
    {pmsg : DmnConn.Mem}
    {isReq : Bool}
    {sent : Unit × DmnConn.LocMsg}
    (hSent :
      sent ∈
        (DmnConn.ifReqRel abi (some ()) pmsg isReq).sent) :
    Sendable sent.2 := by
  unfold DmnConn.ifReqRel at hSent
  split at hSent
  · cases hSent
  · next type hType =>
      split at hSent
      · cases hSent
      · cases List.mem_singleton.mp hSent
        exact ifRequestType_some hType
      · next senderId hOther hSender =>
          cases List.mem_singleton.mp hSent
          exact ifRequestSenderId_some hSender hOther

theorem sendable_ifRequest
    {abi : DmnConn.Abi}
    {loc_api_handle : Option Unit}
    {pmsg : DmnConn.Mem}
    {len : Int}
    {sent : Unit × DmnConn.LocMsg}
    (hSent :
      sent ∈
        (DmnConn.ifRequestHandler abi loc_api_handle pmsg
          len).sent) :
    Sendable sent.2 := by
  cases loc_api_handle with
  | none => cases hSent
  | some locEng => exact sendable_ifReqRel hSent

theorem sendable_ifRelease
    {abi : DmnConn.Abi}
    {loc_api_handle : Option Unit}
    {pmsg : DmnConn.Mem}
    {len : Int}
    {sent : Unit × DmnConn.LocMsg}
    (hSent :
      sent ∈
        (DmnConn.ifReleaseHandler abi loc_api_handle pmsg
          len).sent) :
    Sendable sent.2 := by
  cases loc_api_handle with
  | none =>
      unfold DmnConn.ifReleaseHandler DmnConn.ifReqRel
        at hSent
      split at hSent
      · cases hSent
      · split at hSent <;> cases hSent
  | some locEng => exact sendable_ifReqRel hSent

/- None of the three types selects the data services. -/
theorem admits_bit
    {mType : AGpsExtType}
    (hType :
      mType = agpsTypeSupl ∨ mType = DmnConn.agpsTypeWifi ∨
        mType = DmnConn.agpsTypeAny)
    (ipv4 : Handle)
    (ipv6 : IPv6Addr) :
    (nifOfType mType).Admits (.bit ipv4 ipv6) := by
  rcases hType with rfl | rfl | rfl <;> rfl

theorem subscriber_of_reqRel
    {mIsReq : Bool}
    {s s' : Subscriber}
    (hCall : reqRel mIsReq s = .subscribeRsrc s') :
    s' = s := by
  unfold reqRel at hCall
  split at hCall
  · cases hCall
    rfl
  · cases hCall

theorem inv_proc
    (hInv : Inv e)
    (tail : IPv6Addr)
    {msg : DmnConn.LocMsg}
    (hMsg : Sendable msg) :
    Inv (e.proc tail msg).1 := by
  cases msg with
  | reqRelBIT mType ipv4 ipv6 isReq =>
      refine inv_call hInv noDataCall ?_
      intro s hs
      rw [subscriber_of_reqRel hs]
      exact admits_bit hMsg ipv4 ipv6
  | reqRelWifi mType senderId ssid password isReq =>
      unfold proc
      cases hNif : e.wifi_nif with
      | none => exact hInv
      | some sm =>
          refine inv_returnedTo hInv
            ((hInv .wifi_nif sm hNif).call noDataCall ?_)
          intro s hs
          rw [subscriber_of_reqRel hs]
          rfl

theorem inv_served
    (hInv : Inv e)
    (tail : IPv6Addr)
    {outcome : DmnConn.Outcome Unit}
    (hSent : ∀ sent ∈ outcome.sent, Sendable sent.2) :
    Inv (e.served tail outcome).1 := by
  unfold served
  split
  · next engine msg rest hOutcome =>
      exact inv_proc hInv tail
        (hSent (engine, msg) (by simp [hOutcome]))
  · exact hInv

theorem inv_agpsOpen
    (hInv : Inv e)
    (agpsType : AGpsExtType)
    (apn : Option CString)
    (bearerType : AGpsBearerType)
    (env : DataCall) :
    Inv (e.agpsOpen agpsType apn bearerType env).1 := by
  unfold agpsOpen
  split
  · next name sm hNif _ =>
      have hSm := hInv (nifOfType agpsType) sm hNif
      have hSet :
          (nifOfType agpsType).Holds
            ((sm.setBearer bearerType).setAPN
              (some (name.take maxApnLen))) :=
        ⟨⟨hSm.sound.ordered, hSm.sound.idle,
            hSm.sound.single, hSm.sound.retries⟩,
          hSm.ds, hSm.single, hSm.admits⟩
      exact inv_returnedTo hInv (hSet.event env .granted)
  · exact hInv

theorem inv_agpsEvent
    (hInv : Inv e)
    (agpsType : AGpsExtType)
    (event : AgpsRsrcStatus)
    (env : DataCall) :
    Inv (e.agpsEvent agpsType event env).1 := by
  unfold agpsEvent
  split
  · exact inv_call hInv env (fun _ hs => nomatch hs)
  · exact hInv

theorem inv_handleEngineUp
    (hInv : Inv e) :
    Inv e.handleEngineUp := by
  have hDrop (f : NifField) :
      ∀ sm ∈ (e.nif f).map (·.dropAllSubscribers),
        f.Holds sm := by
    intro sm hSm
    rcases Option.map_eq_some_iff.mp hSm with
      ⟨sm', hNif, rfl⟩
    exact (hInv f sm' hNif).dropAllSubscribers
  intro f sm hSm
  unfold handleEngineUp Engine.handleEngineUp at hSm
  cases f with
  | ds_nif => exact hInv .ds_nif sm hSm
  | wifi_nif => exact hInv .wifi_nif sm hSm
  | agnss_nif =>
      simp only [nif] at hSm
      split at hSm
      · exact hDrop .agnss_nif sm hSm
      · exact hInv .agnss_nif sm hSm
  | internet_nif =>
      simp only [nif] at hSm
      split at hSm
      · exact hDrop .internet_nif sm hSm
      · exact hInv .internet_nif sm hSm

theorem inv_step
    (abi : DmnConn.Abi)
    (hInv : Inv e)
    (i : Input) :
    Inv (step abi e i).1 := by
  cases i with
  | agpsInit statusCb hasAgnss supports =>
      exact inv_agpsInit hInv statusCb hasAgnss supports
  | dataClientInit result =>
      exact inv_dataClientInit hInv result
  | requestATL mID mType tail env =>
      exact inv_requestATL hInv mID mType tail env
  | releaseATL mID tail₁ tail₂ =>
      exact inv_releaseATL hInv mID tail₁ tail₂
  | requestSuplEs mID env =>
      exact inv_requestSuplEs hInv mID env
  | suplEsOpened => exact inv_suplEsOpened hInv
  | suplEsClosed env => exact inv_suplEsClosed hInv env
  | timerFires => exact inv_timerFires hInv
  | queuedRequest env => exact inv_queuedRequest hInv env
  | queuedATL tail => exact inv_queuedATL hInv tail
  | ifRequest pmsg len tail =>
      exact inv_served hInv tail
        (fun sent hSent => sendable_ifRequest hSent)
  | ifRelease pmsg len tail =>
      exact inv_served hInv tail
        (fun sent hSent => sendable_ifRelease hSent)
  | agpsOpen agpsType apn bearerType env =>
      exact inv_agpsOpen hInv agpsType apn bearerType env
  | agpsClosed agpsType env =>
      exact inv_agpsEvent hInv agpsType .released env
  | agpsOpenFailed agpsType env =>
      exact inv_agpsEvent hInv agpsType .denied env
  | engineUp => exact inv_handleEngineUp hInv

/- Every machine of a reachable engine is as it should be. -/
theorem inv_run
    (abi : DmnConn.Abi)
    (is : List Input) :
    Inv ((engine abi).run is) := by
  apply (engine abi).run_induction
    (A := fun _ => True) (I := Inv) inv_cleared
  · intro e i hInv _
    exact inv_step abi hInv i
  · simp

end Nifs

end Agps

end D2Common
