import D2Common.Agps.Types

/-
  The virtual methods of the four subscriber classes.

  Key definitions include:
    * `Subscriber.equals`
    * `Subscriber.forMe`
    * `Subscriber.notifyRsrcStatus`
    * `Subscriber.clone`
-/

------------------------------------------------------------
-- Identity And Activity
------------------------------------------------------------

namespace D2Common

namespace Agps

namespace Subscriber

def ID : Subscriber → Handle
| .bit id _ => id
| .atl id _ _ => id
| .wifi _ _ senderId _ _ => senderId.toHandle
| .ds id _ => id

/-
  `((BITSubscriber*)s)->mIPv6Addr`. No machine has both BIT
  and DS subscribers, so the last value is never read.
-/
def mIPv6AddrOf : Subscriber → IPv6Addr
| .bit _ mIPv6Addr => mIPv6Addr
| .atl _ _ tail => tail
| .wifi _ _ _ _ tail => tail
| .ds _ _ => Vector.replicate 16 0

/- `BITSubscriber::equals`, else `Subscriber::equals`. -/
def equals
    (this s : Subscriber) : Bool :=
  match this with
  | .bit id mIPv6Addr =>
      id == s.ID &&
        (inaddrNone != id ||
          strncmpEq mIPv6Addr.toList s.mIPv6AddrOf.toList)
  | _ => this.ID == s.ID

def waitForCloseComplete : Subscriber → Bool
| .wifi .. => true
| .ds .. => true
| _ => false

def isInactive : Subscriber → Bool
| .wifi _ _ _ mIsInactive _ => mIsInactive
| .ds _ mIsInactive => mIsInactive
| _ => false

/- The record after `mIsInactive = true`. -/
def inactivated : Subscriber → Subscriber
| .wifi mSSID mPassword senderId _ tail =>
    .wifi mSSID mPassword senderId true tail
| .ds id _ => .ds id true
| s => s

/- The constructors start every object as active. -/
def clone : Subscriber → Subscriber
| .bit id mIPv6Addr => .bit id mIPv6Addr
| .atl id mode tail => .atl id mode tail
| .wifi mSSID mPassword senderId _ tail =>
    .wifi
      (mSSID.map fun s => strlcpy s ssidBufSize)
      (mPassword.map fun s => strlcpy s ssidBufSize)
      senderId false tail
| .ds id _ => .ds id false

/- Checks if a notification is for this subscriber. -/
def forMe
    (this : Subscriber)
    (n : Notification) : Bool :=
  match n.rcver with
  | some rcver => this.equals rcver
  | none =>
      n.groupID == .broadcastAll ||
        (n.groupID == .broadcastActive &&
          !this.isInactive) ||
        (n.groupID == .broadcastInactive &&
          this.isInactive)

/-
  What `setIPAddresses` writes: the IPv4 address, if it
  writes one, and the leading bytes of the IPv6 buffer.
-/
def setIPAddresses : Subscriber → Option Handle × List UInt8
| .bit id mIPv6Addr => (some id, mIPv6Addr.toList)
| .atl _ _ _ => (some inaddrNone, [0])
| .wifi .. => (none, [])
| .ds .. => (none, [])

/- What `setWifiInfo` writes: the SSID and the password. -/
def setWifiInfo : Subscriber → CString × CString
| .wifi mSSID mPassword _ _ _ =>
    ((mSSID.map fun s => strlcpy s ssidBufSize).getD [],
      (mPassword.map fun s =>
        strlcpy s ssidBufSize).getD [])
| _ => ([], [])

@[simp] theorem ID_ds
    (id : Handle)
    (mIsInactive : Bool) :
    (Subscriber.ds id mIsInactive).ID = id := rfl

/- `setInactive` and `clone` keep a subscriber's ID. -/
@[simp] theorem ID_inactivated
    (s : Subscriber) :
    s.inactivated.ID = s.ID := by
  cases s <;> rfl

@[simp] theorem ID_clone
    (s : Subscriber) :
    s.clone.ID = s.ID := by
  cases s <;> rfl

@[simp] theorem mIPv6AddrOf_inactivated
    (s : Subscriber) :
    s.inactivated.mIPv6AddrOf = s.mIPv6AddrOf := by
  cases s <;> rfl

@[simp] theorem mIPv6AddrOf_clone
    (s : Subscriber) :
    s.clone.mIPv6AddrOf = s.mIPv6AddrOf := by
  cases s <;> rfl

@[simp] theorem clone_clone
    (s : Subscriber) :
    s.clone.clone = s.clone := by
  cases s <;> simp [clone, Function.comp_def]

@[simp] theorem clone_inactivated
    (s : Subscriber) :
    s.inactivated.clone = s.clone := by
  cases s <;> rfl

/- Comparisons never look at the activity of either side. -/
@[simp] theorem equals_clone_left
    (s t : Subscriber) :
    s.clone.equals t = s.equals t := by
  cases s <;> rfl

@[simp] theorem equals_clone_right
    (s t : Subscriber) :
    s.equals t.clone = s.equals t := by
  cases s <;> simp [equals]

@[simp] theorem isInactive_clone
    (s : Subscriber) :
    s.clone.isInactive = false := by
  cases s <;> rfl

theorem strncmpEq_self
    (l : List UInt8) :
    strncmpEq l l = true := by
  induction l with
  | nil => rfl
  | cons a l ih => simp [strncmpEq, ih]

/- Every subscriber equals itself. -/
@[simp] theorem equals_self
    (s : Subscriber) :
    s.equals s = true := by
  cases s <;> simp [equals, mIPv6AddrOf, strncmpEq_self, ID]

theorem isInactive_inactivated
    {s : Subscriber}
    (hWaits : s.waitForCloseComplete = true) :
    s.inactivated.isInactive = true := by
  cases s <;> simp_all [waitForCloseComplete, inactivated,
    isInactive]

/- Only a subscriber that waits for the close is ever inactive. -/
theorem isInactive_eq_false
    {s : Subscriber}
    (hWaits : s.waitForCloseComplete = false) :
    s.isInactive = false := by
  cases s <;> simp_all [waitForCloseComplete, isInactive]

end Subscriber

end Agps

end D2Common

------------------------------------------------------------
-- Notification
------------------------------------------------------------

namespace D2Common

namespace Agps

/-
  `DSStateMachine::informStatus`, reached through the
  subscribers and from `sendRsrcRequest`.
-/
def DSStateMachine.informStatus
    (x : Exec)
    (status : AgpsRsrcStatus)
    (id : Handle) : Exec :=
  match status with
  | .unsubscribe => x.emit (.atlCloseStatus id 1)
  | .released => x.emit .closeDataCall
  | .denied =>
      (x.setRetries 0).emit (.requestATL id agpsTypeSupl)
  | .granted =>
      x.emit
        (.atlOpenStatus id 1 none agpsApnBearerInvalid
          agpsTypeInvalid)
  | _ => x

/-
  The common shape of the four `notifyRsrcStatus` methods:
  nothing for a notification that is not for this
  subscriber, the reply of the class for a status it knows.
  `addressee` only says which object `this` is; the code
  does not look at it.
-/
def Subscriber.notifyWith
    (reply : AgpsRsrcStatus → Exec → Option Exec)
    (addressee : Addressee)
    (this : Subscriber)
    (n : Notification)
    (x : Exec) : Bool × Exec :=
  if this.forMe n then
    match
      reply n.rsrcStatus
        (x.emit (.notified addressee this n.rsrcStatus)) with
    | some x' => (true, x')
    | none => (false, x)
  else
    (false, x)

def BITSubscriber.reply :
    AgpsRsrcStatus → Exec → Option Exec
| .unsubscribe, x =>
    some (x.emit (.dataConn .gpsoneDaemon .releaseSuccess))
| .released, x =>
    some (x.emit (.dataConn .gpsoneDaemon .releaseSuccess))
| .denied, x =>
    some (x.emit (.dataConn .gpsoneDaemon .failure))
| .granted, x =>
    some (x.emit (.dataConn .gpsoneDaemon .requestSuccess))
| _, _ => none

def ATLSubscriber.reply
    (id : Handle)
    (mBackwardCompatibleMode : Bool) :
    AgpsRsrcStatus → Exec → Option Exec
| .unsubscribe, x => some (x.emit (.atlCloseStatus id 1))
| .released, x => some (x.emit (.atlCloseStatus id 1))
| .denied, x =>
    let type :=
      if mBackwardCompatibleMode then agpsTypeInvalid
      else x.sm.mType
    some (x.emit
      (.atlOpenStatus id 0 x.sm.mAPN x.sm.mBearer type))
| .granted, x =>
    let type :=
      if mBackwardCompatibleMode then agpsTypeInvalid
      else x.sm.mType
    some (x.emit
      (.atlOpenStatus id 1 x.sm.mAPN x.sm.mBearer type))
| _, _ => none

def WIFISubscriber.reply
    (senderId : SenderId) :
    AgpsRsrcStatus → Exec → Option Exec
| .unsubscribe, x => some x
| .released, x =>
    some (x.emit (.dataConn senderId .releaseSuccess))
| .denied, x =>
    some (x.emit (.dataConn senderId .failure))
| .granted, x =>
    some (x.emit (.dataConn senderId .requestSuccess))
| _, _ => none

def DSSubscriber.reply
    (id : Handle) :
    AgpsRsrcStatus → Exec → Option Exec
| .unsubscribe, x =>
    some (DSStateMachine.informStatus x .unsubscribe id)
| .released, x =>
    some (DSStateMachine.informStatus x .released id)
| .denied, x =>
    some (DSStateMachine.informStatus x .denied id)
| .granted, x =>
    some (DSStateMachine.informStatus x .granted id)
| _, _ => none

/- The virtual method `notifyRsrcStatus`. -/
def Subscriber.notifyRsrcStatus
    (addressee : Addressee)
    (this : Subscriber) :
    Notification → Exec → Bool × Exec :=
  match this with
  | .bit _ _ =>
      this.notifyWith BITSubscriber.reply addressee
  | .atl id mode _ =>
      this.notifyWith (ATLSubscriber.reply id mode)
        addressee
  | .wifi _ _ senderId _ _ =>
      this.notifyWith (WIFISubscriber.reply senderId)
        addressee
  | .ds id _ =>
      this.notifyWith (DSSubscriber.reply id) addressee

/-
  The virtual method `setInactive` on the record of the list
  that a search has found: that record is the first one with
  its contents. Only WIFI and DS subscribers keep a flag,
  and DS also reports the close.
-/
def Subscriber.setInactive
    (this : Subscriber)
    (x : Exec) : Exec :=
  match this with
  | .wifi .. =>
      x.setSubscribers
        (x.sm.mSubscribers.replace this this.inactivated)
  | .ds id _ =>
      DSStateMachine.informStatus
        (x.setSubscribers
          (x.sm.mSubscribers.replace this
            this.inactivated))
        .unsubscribe id
  | _ => x

end Agps

end D2Common
