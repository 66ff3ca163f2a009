import D2Common.Agps.Subscriber
import D2Common.Foundations.Transducer

/-
  The AGPS state machine: its operations on the subscriber
  list, the transitions of its four states, and the entry
  points of `AgpsStateMachine` and `DSStateMachine`.

  Key definitions include:
    * `Exec.notifySubscribers`
    * `Exec.addSubscriber`
    * `Exec.sendRsrcRequest`
    * `AgpsState.onRsrcEvent`
    * `Exec.subscribeRsrc`
    * `Exec.unsubscribeRsrc`
    * `Exec.onRsrcEvent`
-/

------------------------------------------------------------
-- Searching The Subscriber List
------------------------------------------------------------

namespace D2Common

namespace Agps

/- The comparison callback `hasSubscriber`. -/
def hasSubscriber
    (n : Notification)
    (fromList : Subscriber) : Bool :=
  fromList.forMe n

/- The acting comparison callback `notifySubscriber`. -/
def notifySubscriber
    (addressee : Addressee)
    (n : Notification)
    (fromList : Subscriber)
    (x : Exec) : Bool × Exec :=
  let (notified, x') :=
    fromList.notifyRsrcStatus addressee n x
  (notified && n.postNotifyDelete, x')

namespace AgpsStateMachine

def hasSubscribers
    (sm : AgpsStateMachine) : Bool :=
  !sm.mSubscribers.isEmpty

/- The first subscriber that a notification is for. -/
def findSubscriber
    (sm : AgpsStateMachine)
    (n : Notification) : Option Subscriber :=
  sm.mSubscribers.find? (hasSubscriber n)

def hasActiveSubscribers
    (sm : AgpsStateMachine) : Bool :=
  (sm.findSubscriber (.ofGroup .broadcastActive)).isSome

def setAPN
    (sm : AgpsStateMachine)
    (apn : Option CString) : AgpsStateMachine :=
  { sm with mAPN := apn }

def setBearer
    (sm : AgpsStateMachine)
    (bearer : AGpsBearerType) : AgpsStateMachine :=
  { sm with mBearer := bearer }

/- `linked_list_flush` on the subscribers. -/
def dropAllSubscribers
    (sm : AgpsStateMachine) : AgpsStateMachine :=
  { sm with mSubscribers := [] }

end AgpsStateMachine

namespace Exec

/-
  With `postNotifyDelete` the search is repeated, each time
  taking out the subscriber it stopped at, until it finds
  none; one search more than there are subscribers is always
  enough. Otherwise one search passes over the whole list.
-/
def notifySubscribers
    (x : Exec)
    (n : Notification) : Exec :=
  if n.postNotifyDelete then
    let (rest, x') :=
      Search.drain (notifySubscriber .listed n)
        (x.sm.mSubscribers.length + 1)
        x.sm.mSubscribers x
    x'.setSubscribers rest
  else
    (Search.search (notifySubscriber .listed n)
      x.sm.mSubscribers x).2.2

def addSubscriber
    (x : Exec)
    (subscriber : Subscriber) : Exec :=
  match
    x.sm.findSubscriber (.ofSubscriber subscriber) with
  | some _ => x
  | none =>
      x.setSubscribers
        (subscriber.clone :: x.sm.mSubscribers)

end Exec

end Agps

end D2Common

------------------------------------------------------------
-- Resource Requests
------------------------------------------------------------

namespace D2Common

namespace Agps

/- The status built for the first active subscriber. -/
def nifRequest
    (type : AGpsExtType)
    (action : AGpsStatusValue) :
    Option Subscriber → AGpsExtStatus
| none => ⟨type, action, some inaddrNone, [0], [], []⟩
| some s =>
    ⟨type, action, s.setIPAddresses.1, s.setIPAddresses.2,
      s.setWifiInfo.1, s.setWifiInfo.2⟩

/- Puts the data together for the framework; returns 0. -/
def AgpsStateMachine.sendRsrcRequest
    (action : AGpsStatusValue)
    (x : Exec) : Int × Exec :=
  let s := x.sm.findSubscriber (.ofGroup .broadcastActive)
  if s.isNone = (action == .releaseAgpsDataConn) then
    (0,
      x.emit (.requestRsrc (nifRequest x.sm.mType action s)))
  else
    (0, x)

/- `LOC_API_ADAPTER_ERR_*`, as `sendRsrcRequest` reads them. -/
def locApiAdapterErrSuccess : Int := 0
def locApiAdapterErrUnsupported : Int := 2
def locApiAdapterErrEngineBusy : Int := 6

def maxStartDataCallRetries : Nat := 4

/- The callback given to the data services servicer. -/
def dataCallCb
    (action : AGpsStatusValue)
    (x : Exec) : Int × Exec :=
  match action with
  | .requestAgpsDataConn =>
      (x.env.startResult,
        x.emit (.openAndStartDataCall x.env.startResult))
  | .releaseAgpsDataConn => (0, x.emit .stopDataCall)

/- The value of `mRetries`; a plain machine has none. -/
def AgpsStateMachine.retries
    (sm : AgpsStateMachine) : BitVec 8 :=
  sm.mRetries.getD 0

def DSStateMachine.sendRsrcRequest
    (action : AGpsStatusValue)
    (x : Exec) : Int × Exec :=
  let connHandle : Handle :=
    match x.sm.findSubscriber (.ofGroup .broadcastActive) with
    | some s => s.ID
    | none => -1
  let (ret, x) := dataCallCb action x
  if ret = locApiAdapterErrEngineBusy then
    let x := x.setRetries (x.sm.retries + 1)
    if x.sm.retries.toNat > maxStartDataCallRetries then
      (ret, DSStateMachine.informStatus x .denied connHandle)
    else
      let x := x.emit (.locTimerStart x.env.timer)
      -- A non-NULL handle is treated as the failure.
      if x.env.timer.nonNull then (-1, x) else (ret, x)
  else if ret = locApiAdapterErrUnsupported then
    (ret, DSStateMachine.informStatus x .denied connHandle)
  else if ret = locApiAdapterErrSuccess then
    (ret, x)
  else if ret = -1 then
    (ret, DSStateMachine.informStatus x .denied connHandle)
  else
    (ret, x)

/- The virtual method, as the states call it. -/
def Exec.sendRsrcRequest
    (x : Exec)
    (action : AGpsStatusValue) : Int × Exec :=
  let x := x.emit (.sendRsrcRequest action)
  if x.sm.mRetries.isSome then
    DSStateMachine.sendRsrcRequest action x
  else
    AgpsStateMachine.sendRsrcRequest action x

end Agps

end D2Common

------------------------------------------------------------
-- State Transitions
------------------------------------------------------------

namespace D2Common

namespace Agps

/-
  The events a state is given: the framework events carry no
  data, the other two a subscriber.
-/
inductive RsrcEvent where
  | subscribe (subscriber : Subscriber)
  | unsubscribe (subscriber : Subscriber)
  | granted
  | released
  | denied

def AgpsReleasedState.onRsrcEvent
    (x : Exec) : RsrcEvent → AgpsState × Exec
| .subscribe subscriber =>
    let (ret, x) :=
      (x.addSubscriber subscriber).sendRsrcRequest
        .requestAgpsDataConn
    if ret = 0 then (.pending, x) else (.released, x)
| .unsubscribe subscriber =>
    let n := Notification.single subscriber .unsubscribe false
    (.released, (subscriber.notifyRsrcStatus .listed n x).2)
| .granted => (.released, x)
| .released => (.released, x)
| .denied => (.released, x)

/-
  What Pending, Acquired and Releasing do with the leaving
  subscriber before they look at who is left.
-/
def Exec.leave
    (x : Exec)
    (subscriber : Subscriber) : Exec :=
  if subscriber.waitForCloseComplete then
    subscriber.setInactive x
  else
    x.notifySubscribers (.single subscriber .unsubscribe true)

/- The check that Pending and Acquired then both make. -/
def Exec.checkLeft
    (x : Exec)
    (current : AgpsState) : AgpsState × Exec :=
  if !x.sm.hasSubscribers then
    (.released, (x.sendRsrcRequest .releaseAgpsDataConn).2)
  else if !x.sm.hasActiveSubscribers then
    (.releasing, (x.sendRsrcRequest .releaseAgpsDataConn).2)
  else
    (current, x)

def AgpsPendingState.onRsrcEvent
    (x : Exec) : RsrcEvent → AgpsState × Exec
| .subscribe subscriber =>
    (.pending, x.addSubscriber subscriber)
| .unsubscribe subscriber =>
    (x.leave subscriber).checkLeft .pending
| .granted =>
    (.acquired,
      x.notifySubscribers
        (.broadcast .broadcastActive .granted false))
| .released => (.pending, x)
| .denied =>
    (.released,
      x.notifySubscribers
        (.broadcast .broadcastAll .denied true))

def AgpsAcquiredState.onRsrcEvent
    (x : Exec) : RsrcEvent → AgpsState × Exec
| .subscribe subscriber =>
    let n := Notification.single subscriber .granted false
    (.acquired,
      (subscriber.notifyRsrcStatus .caller n
        x).2.addSubscriber subscriber)
| .unsubscribe subscriber =>
    (x.leave subscriber).checkLeft .acquired
| .granted => (.acquired, x)
| .released =>
    (.released,
      x.notifySubscribers
        (.broadcast .broadcastAll .released true))
| .denied => (.acquired, x)

/- `RSRC_DENIED` and `RSRC_RELEASED` share this branch. -/
def AgpsReleasingState.onClosed
    (x : Exec)
    (status : AgpsRsrcStatus) : AgpsState × Exec :=
  let x :=
    x.notifySubscribers
      (.broadcast .broadcastInactive status true)
  if x.sm.hasActiveSubscribers then
    (.pending, (x.sendRsrcRequest .requestAgpsDataConn).2)
  else
    (.released, x)

def AgpsReleasingState.onRsrcEvent
    (x : Exec) : RsrcEvent → AgpsState × Exec
| .subscribe subscriber =>
    (.releasing, x.addSubscriber subscriber)
| .unsubscribe subscriber =>
    let x := x.leave subscriber
    if !x.sm.hasSubscribers then (.released, x)
    else (.releasing, x)
| .granted => (.releasing, x)
| .released => AgpsReleasingState.onClosed x .released
| .denied => AgpsReleasingState.onClosed x .denied

def AgpsState.onRsrcEvent
    (st : AgpsState)
    (x : Exec)
    (event : RsrcEvent) : AgpsState × Exec :=
  match st with
  | .released => AgpsReleasedState.onRsrcEvent x event
  | .pending => AgpsPendingState.onRsrcEvent x event
  | .acquired => AgpsAcquiredState.onRsrcEvent x event
  | .releasing => AgpsReleasingState.onRsrcEvent x event

/- `mStatePtr = mStatePtr->onRsrcEvent(event, data)`. -/
def Exec.dispatch
    (x : Exec)
    (event : RsrcEvent) : Exec :=
  let (next, x') := x.sm.mStatePtr.onRsrcEvent x event
  x'.setState next

end Agps

end D2Common

------------------------------------------------------------
-- Entry Points
------------------------------------------------------------

namespace D2Common

namespace Agps

namespace Exec

def subscribeRsrc
    (x : Exec)
    (subscriber : Subscriber) : Exec :=
  if
    x.sm.mEnforceSingleSubscriber &&
      x.sm.hasSubscribers then
    (notifySubscriber .caller
      (.broadcast .broadcastAll .denied true)
      subscriber x).2
  else
    x.dispatch (.subscribe subscriber)

def unsubscribeRsrc
    (x : Exec)
    (subscriber : Subscriber) : Bool × Exec :=
  match
    x.sm.findSubscriber (.ofSubscriber subscriber) with
  | some s => (true, x.dispatch (.unsubscribe s))
  | none => (false, x)

end Exec

/- `AgpsStateMachine::onRsrcEvent`. -/
def AgpsStateMachine.onRsrcEvent
    (x : Exec) : AgpsRsrcStatus → Exec
| .granted => x.dispatch .granted
| .released => x.dispatch .released
| .denied => x.dispatch .denied
| _ => x

/- `DSStateMachine::onRsrcEvent`. -/
def DSStateMachine.onRsrcEvent
    (x : Exec) : AgpsRsrcStatus → Exec
| .granted => x.dispatch .granted
| .released =>
    let x' := x.dispatch .released
    -- A state that ignored the release is told of a denial.
    if x'.sm.mStatePtr ≠ x.sm.mStatePtr then x'
    else x'.dispatch .denied
| .denied => x.dispatch .denied
| _ => x

/- The virtual method `onRsrcEvent`. -/
def Exec.onRsrcEvent
    (x : Exec)
    (event : AgpsRsrcStatus) : Exec :=
  if x.sm.mRetries.isSome then
    DSStateMachine.onRsrcEvent x event
  else
    AgpsStateMachine.onRsrcEvent x event

/- Ask for the first active subscriber's call once more. -/
def DSStateMachine.retryCallback
    (x : Exec) : Exec :=
  match x.sm.findSubscriber (.ofGroup .broadcastActive) with
  | some subscriber => x.emit (.requestSuplES subscriber.ID)
  | none => x

/- A machine as its constructor leaves it. -/
def AgpsStateMachine.new
    (type : AGpsExtType)
    (enforceSingleSubscriber : Bool) : AgpsStateMachine where
  mStatePtr := .released
  mSubscribers := []
  mType := type
  mAPN := none
  mBearer := agpsApnBearerInvalid
  mEnforceSingleSubscriber := enforceSingleSubscriber
  mRetries := none

def DSStateMachine.new : AgpsStateMachine :=
  { AgpsStateMachine.new agpsTypeInvalid false with
    mRetries := some 0 }

end Agps

end D2Common
