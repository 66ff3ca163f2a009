import D2Common.Foundations.Search

/-
  Data of the AGPS machines: resource statuses, the four
  kinds of subscriber, notifications, the machine object and
  the calls it makes to the outside.

  The list of subscribers is kept as a sequence with the
  head first. A subscriber is kept by value; the code frees
  a record only after its last use of the contents, apart
  from `notifySubscribers`, which goes on comparing with a
  record it has just deleted. The model lets that record
  keep its contents.

  Key definitions include:
    * `AgpsRsrcStatus`
    * `Subscriber`
    * `Notification`
    * `AgpsStateMachine`
    * `Emission`
    * `Exec`
-/

------------------------------------------------------------
-- Scalars
------------------------------------------------------------

namespace D2Common

namespace Agps

/- NIF resource events. -/
inductive AgpsRsrcStatus where
  | subscribe
  | unsubscribe
  | granted
  | released
  | denied
  | statusMax
deriving DecidableEq, Repr

/- `int` handles and `uint32_t` IDs are the same 32 bits. -/
abbrev Handle := BitVec 32

abbrev IPv6Addr := Vector UInt8 16

/- A C string without its terminator. -/
abbrev CString := List UInt8

abbrev AGpsExtType := Int

def agpsTypeInvalid : AGpsExtType := -1
def agpsTypeSupl : AGpsExtType := 1
def agpsTypeWwanAny : AGpsExtType := 3

abbrev AGpsBearerType := Int

def agpsApnBearerInvalid : AGpsBearerType := -1

def inaddrNone : Handle := 0xFFFFFFFF#32

def ssidBufSize : Nat := 32 + 1

/- `loc_if_req_sender_id_e_type`. -/
inductive SenderId where
  | quipc
  | msapm
  | msapu
  | gpsoneDaemon
  | modem
  | unknown
deriving DecidableEq, Repr

/- The value a sender id has as a subscriber's ID. -/
def SenderId.toHandle : SenderId → Handle
| .quipc => 0#32
| .msapm => 1#32
| .msapu => 2#32
| .gpsoneDaemon => 3#32
| .modem => 4#32
| .unknown => 5#32

/- Results sent through the daemon connection. -/
inductive IfResult where
  | requestSuccess
  | releaseSuccess
  | failure
deriving DecidableEq, Repr

/- The two actions a machine asks of its servicer. -/
inductive AGpsStatusValue where
  | requestAgpsDataConn
  | releaseAgpsDataConn
deriving DecidableEq, Repr

/- `strlcpy(dst, src, size)`: what `dst` then holds. -/
def strlcpy
    (src : CString)
    (size : Nat) : CString :=
  src.take (size - 1)

@[simp] theorem strlcpy_strlcpy
    (src : CString)
    (size : Nat) :
    strlcpy (strlcpy src size) size = strlcpy src size := by
  simp [strlcpy, List.take_take]

/-
  `0 == strncmp(a, b, n)` on two buffers of `n` bytes: the
  comparison ends with success at a common zero byte.
-/
def strncmpEq : List UInt8 → List UInt8 → Bool
| a :: as, b :: bs =>
    if a = b then
      if a = 0 then true else strncmpEq as bs
    else
      false
| _, _ => true

end Agps

end D2Common

------------------------------------------------------------
-- Subscribers And Notifications
------------------------------------------------------------

namespace D2Common

namespace Agps

/-
  A subscriber object. `mStateMachine` and `mLocAdapter` are
  the same for all subscribers of a machine and are left
  out. `tail` stands for the sixteen bytes that begin where
  a `BITSubscriber` keeps `mIPv6Addr`, since
  `BITSubscriber::equals` reads them without asking for the
  class of the object.
-/
inductive Subscriber where
  | bit (ID : Handle) (mIPv6Addr : IPv6Addr)
  | atl
      (ID : Handle)
      (mBackwardCompatibleMode : Bool)
      (tail : IPv6Addr)
  | wifi
      (mSSID mPassword : Option CString)
      (senderId : SenderId)
      (mIsInactive : Bool)
      (tail : IPv6Addr)
  | ds (ID : Handle) (mIsInactive : Bool)
deriving DecidableEq

/- The broadcast groups, and -1 for a single receiver. -/
inductive GroupId where
  | broadcastAll
  | broadcastActive
  | broadcastInactive
  | noGroup
deriving DecidableEq, Repr

/- Information bundle for subscribers. -/
structure Notification where
  rcver : Option Subscriber
  groupID : GroupId
  rsrcStatus : AgpsRsrcStatus
  postNotifyDelete : Bool

namespace Notification

/- The constructor for a broadcast with a status. -/
def broadcast
    (group : GroupId)
    (status : AgpsRsrcStatus)
    (deleteAfterwards : Bool) : Notification :=
  ⟨none, group, status, deleteAfterwards⟩

/- The constructor for one receiver with a status. -/
def single
    (subscriber : Subscriber)
    (status : AgpsRsrcStatus)
    (deleteAfterwards : Bool) : Notification :=
  ⟨some subscriber, .noGroup, status, deleteAfterwards⟩

/- The constructor that only names a group. -/
def ofGroup
    (group : GroupId) : Notification :=
  ⟨none, group, .statusMax, false⟩

/- The constructor that only names a receiver. -/
def ofSubscriber
    (subscriber : Subscriber) : Notification :=
  ⟨some subscriber, .noGroup, .statusMax, false⟩

end Notification

end Agps

end D2Common

------------------------------------------------------------
-- Machines And Their Calls
------------------------------------------------------------

namespace D2Common

namespace Agps

/- The states of a machine. -/
inductive AgpsState where
  | released
  | pending
  | acquired
  | releasing
deriving DecidableEq, Repr

/-
  The status a machine reports to the framework. A field
  that the code leaves unwritten is `none`; `ipv6Addr` holds
  the bytes that were written.
-/
structure AGpsExtStatus where
  type : AGpsExtType
  status : AGpsStatusValue
  ipv4Addr : Option Handle
  ipv6Addr : List UInt8
  ssid : CString
  password : CString
deriving DecidableEq

/-
  An `AgpsStateMachine` object. `mRetries` is the counter
  that the class `DSStateMachine` adds, and it is present
  exactly when the object is of that class.
-/
structure AgpsStateMachine where
  mStatePtr : AgpsState
  mSubscribers : List Subscriber
  mType : AGpsExtType
  mAPN : Option CString
  mBearer : AGpsBearerType
  mEnforceSingleSubscriber : Bool
  mRetries : Option (BitVec 8)
deriving DecidableEq

/-
  What `loc_timer_start` can come back with. It also returns
  a handle when it could not start the thread, since it then
  returns the pointer it has just freed.
-/
inductive TimerStart where
  | started
  | noThread
  | noHandle
deriving DecidableEq, Repr

/- Whether the returned handle is not NULL. -/
def TimerStart.nonNull : TimerStart → Bool
| .started => true
| .noThread => true
| .noHandle => false

/-
  The answers of the environment during one call into a
  machine: what `openAndStartDataCall` and `loc_timer_start`
  return if the call comes to them.
-/
structure DataCall where
  startResult : Int
  timer : TimerStart
deriving DecidableEq

/-
  Whose object a notification is given to: a record of the
  list, or the object that the caller of the machine holds.
-/
inductive Addressee where
  | listed
  | caller
deriving DecidableEq, Repr

/-
  What a machine does that can be seen from outside it, in
  the order it happens. `notified` marks a notification that
  a subscriber took as its own, before its reply, and
  `sendRsrcRequest` a call of that name by a state.
-/
inductive Emission where
  | notified
      (addressee : Addressee)
      (subscriber : Subscriber)
      (status : AgpsRsrcStatus)
  | sendRsrcRequest (action : AGpsStatusValue)
  | requestRsrc (nifRequest : AGpsExtStatus)
  | atlOpenStatus
      (handle : Handle)
      (isSucc : Int)
      (apn : Option CString)
      (bearer : AGpsBearerType)
      (type : AGpsExtType)
  | atlCloseStatus (handle : Handle) (isSucc : Int)
  | dataConn (sender : SenderId) (status : IfResult)
  | openAndStartDataCall (result : Int)
  | stopDataCall
  | closeDataCall
  | requestATL (handle : Handle) (type : AGpsExtType)
  | requestSuplES (handle : Handle)
  | locTimerStart (timer : TimerStart)
deriving DecidableEq

/-
  A machine in the middle of a call: the object, the answers
  its environment will give, and what it has emitted so far.
-/
structure Exec where
  sm : AgpsStateMachine
  env : DataCall
  out : List Emission

namespace Exec

def emit
    (x : Exec)
    (e : Emission) : Exec :=
  { x with out := x.out ++ [e] }

def setSubscribers
    (x : Exec)
    (l : List Subscriber) : Exec :=
  { x with sm := { x.sm with mSubscribers := l } }

def setState
    (x : Exec)
    (st : AgpsState) : Exec :=
  { x with sm := { x.sm with mStatePtr := st } }

def setRetries
    (x : Exec)
    (n : BitVec 8) : Exec :=
  { x with
    sm :=
      { x.sm with
        mRetries := x.sm.mRetries.map fun _ => n } }

end Exec

end Agps

end D2Common
