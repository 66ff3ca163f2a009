import D2Common.Agps.StateMachine

/-
  The operations of a machine without their loops.

  Each operation on the subscriber list is given in closed
  form: who is added, who leaves, who is told what. The file
  proves that the searches of the code compute exactly this.

  Key definitions include:
    * `Subscriber.notice`
    * `Roster.request`
    * `Roster.added`
    * `Roster.left`

  Key theorems include:
    * `Exec.notifySubscribers_eq_of_delete`
    * `Exec.notifySubscribers_eq_of_keep`
    * `Exec.sendRsrcRequest_eq`
    * `Exec.addSubscriber_eq`
    * `Exec.leave_eq`
-/

------------------------------------------------------------
-- Telling One Subscriber
------------------------------------------------------------

namespace D2Common

namespace Agps

/- The statuses that subscribers react to. -/
def AgpsRsrcStatus.Known : AgpsRsrcStatus → Prop
| .unsubscribe => True
| .granted => True
| .released => True
| .denied => True
| _ => False

namespace Subscriber

def isDS : Subscriber → Bool
| .ds .. => true
| _ => false

@[simp] theorem isDS_inactivated
    (s : Subscriber) :
    s.inactivated.isDS = s.isDS := by
  cases s <;> rfl

/- What a subscriber sends when it is told a status. -/
def answer
    (s : Subscriber)
    (sm : AgpsStateMachine) :
    AgpsRsrcStatus → List Emission
| .unsubscribe =>
    match s with
    | .bit _ _ => [.dataConn .gpsoneDaemon .releaseSuccess]
    | .atl id _ _ => [.atlCloseStatus id 1]
    | .wifi .. => []
    | .ds id _ => [.atlCloseStatus id 1]
| .released =>
    match s with
    | .bit _ _ => [.dataConn .gpsoneDaemon .releaseSuccess]
    | .atl id _ _ => [.atlCloseStatus id 1]
    | .wifi _ _ senderId _ _ =>
        [.dataConn senderId .releaseSuccess]
    | .ds _ _ => [.closeDataCall]
| .denied =>
    match s with
    | .bit _ _ => [.dataConn .gpsoneDaemon .failure]
    | .atl id mode _ =>
        [.atlOpenStatus id 0 sm.mAPN sm.mBearer
          (if mode then agpsTypeInvalid else sm.mType)]
    | .wifi _ _ senderId _ _ =>
        [.dataConn senderId .failure]
    | .ds id _ => [.requestATL id agpsTypeSupl]
| .granted =>
    match s with
    | .bit _ _ => [.dataConn .gpsoneDaemon .requestSuccess]
    | .atl id mode _ =>
        [.atlOpenStatus id 1 sm.mAPN sm.mBearer
          (if mode then agpsTypeInvalid else sm.mType)]
    | .wifi _ _ senderId _ _ =>
        [.dataConn senderId .requestSuccess]
    | .ds id _ =>
        [.atlOpenStatus id 1 none agpsApnBearerInvalid
          agpsTypeInvalid]
| _ => []

/- The notification, followed by the answer to it. -/
def notice
    (s : Subscriber)
    (addressee : Addressee)
    (sm : AgpsStateMachine)
    (st : AgpsRsrcStatus) : List Emission :=
  .notified addressee s st :: s.answer sm st

end Subscriber

namespace AgpsStateMachine

/- A denial told to a DS subscriber clears the retries. -/
def clearRetries
    (sm : AgpsStateMachine)
    (st : AgpsRsrcStatus)
    (told : List Subscriber) : AgpsStateMachine :=
  if st = .denied ∧ told.any Subscriber.isDS then
    { sm with mRetries := sm.mRetries.map fun _ => 0 }
  else
    sm

theorem clearRetries_of_none
    {sm : AgpsStateMachine}
    (hPlain : sm.mRetries = none)
    (st : AgpsRsrcStatus)
    (told : List Subscriber) :
    sm.clearRetries st told = sm := by
  unfold clearRetries
  split
  · cases sm
    simp_all
  · rfl

@[simp] theorem clearRetries_nil
    (sm : AgpsStateMachine)
    (st : AgpsRsrcStatus) :
    sm.clearRetries st [] = sm := by
  simp [clearRetries]

@[simp] theorem isSome_mRetries_clearRetries
    (sm : AgpsStateMachine)
    (st : AgpsRsrcStatus)
    (told : List Subscriber) :
    (sm.clearRetries st told).mRetries.isSome =
      sm.mRetries.isSome := by
  unfold clearRetries
  split <;> simp

/- Answers do not depend on the retry counter. -/
@[simp] theorem answer_clearRetries
    (sm : AgpsStateMachine)
    (st st' : AgpsRsrcStatus)
    (told : List Subscriber)
    (s : Subscriber) :
    s.answer (sm.clearRetries st' told) st =
      s.answer sm st := by
  unfold clearRetries
  split
  · cases st <;> cases s <;> rfl
  · rfl

theorem clearRetries_cons
    (sm : AgpsStateMachine)
    (st : AgpsRsrcStatus)
    (s : Subscriber)
    (told : List Subscriber) :
    (sm.clearRetries st [s]).clearRetries st told =
      sm.clearRetries st (s :: told) := by
  unfold clearRetries
  by_cases hDenied : st = .denied
  · cases hs : s.isDS <;>
      cases hTold : told.any Subscriber.isDS <;>
      simp [hDenied, hs, hTold, Function.comp_def]
  · simp [hDenied]

end AgpsStateMachine

/- The machine after a subscriber has been told a status. -/
def Exec.told
    (addressee : Addressee)
    (st : AgpsRsrcStatus)
    (s : Subscriber)
    (x : Exec) : Exec :=
  ⟨x.sm.clearRetries st [s], x.env,
    x.out ++ s.notice addressee x.sm st⟩

/-
  A known status is taken by the subscribers it is for and
  is silent for all others.
-/
theorem Subscriber.notifyRsrcStatus_eq
    (s : Subscriber)
    {n : Notification}
    (hKnown : n.rsrcStatus.Known)
    (addressee : Addressee)
    (x : Exec) :
    s.notifyRsrcStatus addressee n x =
      if s.forMe n then
        (true, x.told addressee n.rsrcStatus s)
      else
        (false, x) := by
  rcases n with ⟨rcver, groupID, rsrcStatus, delete⟩
  cases s <;> cases rsrcStatus <;>
    simp_all [AgpsRsrcStatus.Known,
      Subscriber.notifyRsrcStatus, Subscriber.notifyWith,
      BITSubscriber.reply, ATLSubscriber.reply,
      WIFISubscriber.reply, DSSubscriber.reply,
      DSStateMachine.informStatus, Exec.told, Exec.emit,
      Exec.setRetries, Subscriber.notice,
      Subscriber.answer, Subscriber.isDS,
      AgpsStateMachine.clearRetries]

end Agps

end D2Common

------------------------------------------------------------
-- Telling The List
------------------------------------------------------------

namespace D2Common

namespace Agps

/- What telling every subscriber of a list emits. -/
def notices
    (sm : AgpsStateMachine)
    (st : AgpsRsrcStatus)
    (l : List Subscriber) : List Emission :=
  l.flatMap fun s => s.notice .listed sm st

theorem notices_cons
    (sm : AgpsStateMachine)
    (st : AgpsRsrcStatus)
    (s : Subscriber)
    (l : List Subscriber) :
    notices sm st (s :: l) =
      s.notice .listed sm st ++ notices sm st l := by
  simp [notices]

theorem notices_clearRetries
    (sm : AgpsStateMachine)
    (st st' : AgpsRsrcStatus)
    (l told : List Subscriber) :
    notices (sm.clearRetries st' told) st l =
      notices sm st l := by
  simp [notices, Subscriber.notice]

theorem actAll_told
    (st : AgpsRsrcStatus)
    (l : List Subscriber)
    (x : Exec) :
    Search.actAll (Exec.told .listed st) l x =
      ⟨x.sm.clearRetries st l, x.env,
        x.out ++ notices x.sm st l⟩ := by
  induction l generalizing x with
  | nil => simp [Search.actAll, notices]
  | cons s l ih =>
      rw [Search.actAll, ih]
      simp [Exec.told, AgpsStateMachine.clearRetries_cons,
        notices_clearRetries, notices_cons]

theorem actAll_filter
    {α σ : Type}
    (act : α → σ → σ)
    (accepts : α → Bool)
    (l : List α)
    (s : σ) :
    Search.actAll
        (fun a s => if accepts a then act a s else s) l s =
      Search.actAll act (l.filter accepts) s := by
  induction l generalizing s with
  | nil => rfl
  | cons a l ih =>
      cases ha : accepts a <;> simp [Search.actAll, ha, ih]

theorem notifySubscriber_of_delete
    {n : Notification}
    (hKnown : n.rsrcStatus.Known)
    (hDelete : n.postNotifyDelete = true)
    (s : Subscriber)
    (x : Exec) :
    notifySubscriber .listed n s x =
      if s.forMe n then
        (true, x.told .listed n.rsrcStatus s)
      else
        (false, x) := by
  unfold notifySubscriber
  rw [s.notifyRsrcStatus_eq hKnown]
  by_cases hFor : s.forMe n <;> simp [hFor, hDelete]

/-
  With deletion, everyone the notification is for is told
  once, in the order of the list, and leaves it.
-/
theorem Exec.notifySubscribers_eq_of_delete
    (x : Exec)
    {n : Notification}
    (hKnown : n.rsrcStatus.Known)
    (hDelete : n.postNotifyDelete = true) :
    let told := x.sm.mSubscribers.filter (·.forMe n)
    let kept := x.sm.mSubscribers.filter (!·.forMe n)
    x.notifySubscribers n =
      ⟨{ x.sm.clearRetries n.rsrcStatus told with
          mSubscribers := kept },
        x.env,
        x.out ++ notices x.sm n.rsrcStatus told⟩ := by
  intro told kept
  unfold Exec.notifySubscribers
  rw [if_pos hDelete,
    Search.drain_eq
      (notifySubscriber_of_delete hKnown hDelete)
      _ _ _ (Nat.lt_succ_self _),
    actAll_told]
  rfl

/-
  Without deletion, everyone the notification is for is
  told once and the list stays as it is.
-/
theorem Exec.notifySubscribers_eq_of_keep
    (x : Exec)
    {n : Notification}
    (hKnown : n.rsrcStatus.Known)
    (hKeep : n.postNotifyDelete = false) :
    let told := x.sm.mSubscribers.filter (·.forMe n)
    x.notifySubscribers n =
      ⟨x.sm.clearRetries n.rsrcStatus told, x.env,
        x.out ++ notices x.sm n.rsrcStatus told⟩ := by
  intro told
  have hNever :
      ∀ (s : Subscriber) (x : Exec),
        notifySubscriber .listed n s x =
          (false,
            if s.forMe n then x.told .listed n.rsrcStatus s
            else x) := by
    intro s x
    unfold notifySubscriber
    rw [s.notifyRsrcStatus_eq hKnown]
    by_cases hFor : s.forMe n <;> simp [hFor, hKeep]
  unfold Exec.notifySubscribers
  rw [if_neg (by simp [hKeep]),
    Search.search_of_never hNever]
  rw [actAll_filter (Exec.told .listed n.rsrcStatus)
    (fun s => s.forMe n), actAll_told]

end Agps

end D2Common

------------------------------------------------------------
-- Requests
------------------------------------------------------------

namespace D2Common

namespace Agps

/- A call that goes on from where a machine has got to. -/
def Exec.after
    (x : Exec)
    (r : AgpsStateMachine × List Emission) : Exec :=
  ⟨r.1, x.env, x.out ++ r.2⟩

namespace Roster

/- What a plain machine emits when a state asks for an action. -/
def plainRequestOut
    (sm : AgpsStateMachine)
    (action : AGpsStatusValue) : List Emission :=
  let s := sm.mSubscribers.find? (!·.isInactive)
  .sendRsrcRequest action ::
    if s.isNone = (action == .releaseAgpsDataConn) then
      [.requestRsrc (nifRequest sm.mType action s)]
    else
      []

/- How the start of a data call ends. -/
inductive StartOutcome where
  | started
  | fallback
  | retry
  | unrecognized
deriving DecidableEq

/- The outcome, from the retries made so far. -/
def startOutcome
    (retries : BitVec 8)
    (env : DataCall) : StartOutcome :=
  if env.startResult = locApiAdapterErrEngineBusy then
    if (retries + 1).toNat > maxStartDataCallRetries then
      .fallback
    else
      .retry
  else if env.startResult = locApiAdapterErrUnsupported then
    .fallback
  else if env.startResult = locApiAdapterErrSuccess then
    .started
  else if env.startResult = -1 then
    .fallback
  else
    .unrecognized

/- What `sendRsrcRequest` returns for a start. -/
def startReturn
    (retries : BitVec 8)
    (env : DataCall) : Int :=
  match startOutcome retries env with
  | .retry =>
      if env.timer.nonNull then -1 else env.startResult
  | _ => env.startResult

/- The retry counter after a start. -/
def startRetries
    (retries : BitVec 8)
    (env : DataCall) : BitVec 8 :=
  match startOutcome retries env with
  | .fallback => 0
  | .retry => retries + 1
  | _ => retries

/- The handle a start is made for. -/
def connHandle
    (l : List Subscriber) : Handle :=
  match l.find? (!·.isInactive) with
  | some s => s.ID
  | none => -1

/- What a start emits. -/
def startOut
    (l : List Subscriber)
    (retries : BitVec 8)
    (env : DataCall) : List Emission :=
  .sendRsrcRequest .requestAgpsDataConn ::
    .openAndStartDataCall env.startResult ::
      match startOutcome retries env with
      | .fallback => [.requestATL (connHandle l) agpsTypeSupl]
      | .retry => [.locTimerStart env.timer]
      | _ => []

/-
  A request as seen from outside the call: its result, the
  machine after it, and what it emits.
-/
def request
    (sm : AgpsStateMachine)
    (env : DataCall)
    (action : AGpsStatusValue) :
    Int × AgpsStateMachine × List Emission :=
  match sm.mRetries, action with
  | none, _ => (0, sm, plainRequestOut sm action)
  | some _, .releaseAgpsDataConn =>
      (0, sm,
        [.sendRsrcRequest .releaseAgpsDataConn,
          .stopDataCall])
  | some retries, .requestAgpsDataConn =>
      (startReturn retries env,
        { sm with
          mRetries := some (startRetries retries env) },
        startOut sm.mSubscribers retries env)

end Roster

/- The first active subscriber. -/
theorem AgpsStateMachine.findSubscriber_ofGroup
    (sm : AgpsStateMachine) :
    sm.findSubscriber (.ofGroup .broadcastActive) =
      sm.mSubscribers.find? (!·.isInactive) := by
  unfold findSubscriber hasSubscriber Subscriber.forMe
  congr 1
  funext s
  cases s.isInactive <;> simp [Notification.ofGroup]

theorem DSStateMachine.sendRsrcRequest_start
    (x : Exec)
    {retries : BitVec 8}
    (hClass : x.sm.mRetries = some retries) :
    DSStateMachine.sendRsrcRequest .requestAgpsDataConn
        (x.emit (.sendRsrcRequest .requestAgpsDataConn)) =
      (Roster.startReturn retries x.env,
        x.after
          ({ x.sm with
              mRetries :=
                some (Roster.startRetries retries x.env) },
            Roster.startOut x.sm.mSubscribers retries
              x.env)) := by
  have hKeep :
      { x.sm with mRetries := some retries } = x.sm := by
    rw [← hClass]
  unfold DSStateMachine.sendRsrcRequest
  simp only [dataCallCb, Exec.emit, Exec.setRetries,
    AgpsStateMachine.retries, hClass, Option.getD_some,
    Option.map_some, DSStateMachine.informStatus,
    AgpsStateMachine.findSubscriber_ofGroup,
    Roster.startReturn, Roster.startRetries,
    Roster.startOut, Roster.startOutcome, Exec.after]
  by_cases hBusy :
      x.env.startResult = locApiAdapterErrEngineBusy
  · rw [if_pos hBusy, if_pos hBusy]
    by_cases hMax :
        (retries + 1).toNat > maxStartDataCallRetries
    · simp only [if_pos hMax, List.append_assoc]
      rfl
    · rw [if_neg hMax, if_neg hMax]
      by_cases hTimer : x.env.timer.nonNull
      · simp [hTimer]
      · simp [hTimer]
  · rw [if_neg hBusy, if_neg hBusy]
    by_cases hUnsupported :
        x.env.startResult = locApiAdapterErrUnsupported
    · simp only [if_pos hUnsupported, List.append_assoc]
      rfl
    · rw [if_neg hUnsupported, if_neg hUnsupported]
      by_cases hSuccess :
          x.env.startResult = locApiAdapterErrSuccess
      · simp [hSuccess, hKeep]
      · rw [if_neg hSuccess, if_neg hSuccess]
        by_cases hMinus : x.env.startResult = -1
        · simp only [if_pos hMinus, List.append_assoc]
          rfl
        · simp [hMinus, hKeep]

theorem Exec.sendRsrcRequest_eq
    (x : Exec)
    (action : AGpsStatusValue) :
    x.sendRsrcRequest action =
      ((Roster.request x.sm x.env action).1,
        x.after (Roster.request x.sm x.env action).2) := by
  unfold Exec.sendRsrcRequest Roster.request
  cases hClass : x.sm.mRetries with
  | none =>
      simp only [Exec.emit, hClass, Option.isSome_none,
        Bool.false_eq_true, if_false,
        AgpsStateMachine.sendRsrcRequest,
        AgpsStateMachine.findSubscriber_ofGroup,
        Roster.plainRequestOut, Exec.after]
      by_cases hGuard :
          (x.sm.mSubscribers.find?
              (!·.isInactive)).isNone =
            (action == .releaseAgpsDataConn)
      · rw [if_pos hGuard, if_pos hGuard]
        simp
      · rw [if_neg hGuard, if_neg hGuard]
  | some retries =>
      cases action with
      | requestAgpsDataConn =>
          simp only [Exec.emit, hClass, Option.isSome_some,
            if_true]
          exact DSStateMachine.sendRsrcRequest_start x
            hClass
      | releaseAgpsDataConn =>
          simp [Exec.emit, hClass,
            DSStateMachine.sendRsrcRequest, dataCallCb,
            locApiAdapterErrEngineBusy,
            locApiAdapterErrUnsupported,
            locApiAdapterErrSuccess, Exec.after]

end Agps

end D2Common

------------------------------------------------------------
-- Arrivals And Departures
------------------------------------------------------------

namespace D2Common

namespace Agps

namespace Roster

/- The list after `addSubscriber`. -/
def added
    (s : Subscriber)
    (l : List Subscriber) : List Subscriber :=
  if l.any (·.equals s) then l else s.clone :: l

/- The list after a subscriber of it has left. -/
def left
    (s : Subscriber)
    (l : List Subscriber) : List Subscriber :=
  if s.waitForCloseComplete then
    l.replace s s.inactivated
  else
    l.filter (!·.equals s)

/- Where the activity does not count, all stay the same. -/
theorem map_replace_inactivated
    {β : Type}
    {f : Subscriber → β}
    {s : Subscriber}
    (hSame : f s.inactivated = f s)
    (l : List Subscriber) :
    (l.replace s s.inactivated).map f = l.map f := by
  induction l with
  | nil => rfl
  | cons t l ih =>
      rw [List.replace_cons]
      split
      · next hEq =>
          have hHead : s = t := by simpa using hEq
          rw [List.map_cons, List.map_cons, hSame, hHead]
      · rw [List.map_cons, List.map_cons, ih]

/- What a departure emits. -/
def leaveOut
    (sm : AgpsStateMachine)
    (s : Subscriber) : List Emission :=
  if s.waitForCloseComplete then
    if s.isDS then [.atlCloseStatus s.ID 1] else []
  else
    notices sm .unsubscribe
      (sm.mSubscribers.filter (·.equals s))

end Roster

namespace AgpsStateMachine

theorem findSubscriber_ofSubscriber
    (sm : AgpsStateMachine)
    (s : Subscriber) :
    sm.findSubscriber (.ofSubscriber s) =
      sm.mSubscribers.find? (·.equals s) := rfl

theorem hasActiveSubscribers_eq
    (sm : AgpsStateMachine) :
    sm.hasActiveSubscribers =
      !sm.mSubscribers.all (·.isInactive) := by
  unfold hasActiveSubscribers
  rw [findSubscriber_ofGroup]
  rw [Bool.eq_iff_iff]
  simp [List.find?_isSome]

@[simp] theorem clearRetries_unsubscribe
    (sm : AgpsStateMachine)
    (told : List Subscriber) :
    sm.clearRetries .unsubscribe told = sm := by
  simp [clearRetries]

@[simp] theorem clearRetries_granted
    (sm : AgpsStateMachine)
    (told : List Subscriber) :
    sm.clearRetries .granted told = sm := by
  simp [clearRetries]

end AgpsStateMachine

namespace Subscriber

@[simp] theorem forMe_broadcastAll
    (s : Subscriber)
    (st : AgpsRsrcStatus)
    (d : Bool) :
    s.forMe (.broadcast .broadcastAll st d) = true := rfl

@[simp] theorem forMe_broadcastActive
    (s : Subscriber)
    (st : AgpsRsrcStatus)
    (d : Bool) :
    s.forMe (.broadcast .broadcastActive st d) =
      !s.isInactive := by
  cases hs : s.isInactive <;>
    simp [forMe, Notification.broadcast, hs]

@[simp] theorem forMe_broadcastInactive
    (s : Subscriber)
    (st : AgpsRsrcStatus)
    (d : Bool) :
    s.forMe (.broadcast .broadcastInactive st d) =
      s.isInactive := by
  cases hs : s.isInactive <;>
    simp [forMe, Notification.broadcast, hs]

@[simp] theorem forMe_single
    (s r : Subscriber)
    (st : AgpsRsrcStatus)
    (d : Bool) :
    s.forMe (.single r st d) = s.equals r := rfl

end Subscriber

namespace Exec

theorem addSubscriber_eq
    (x : Exec)
    (s : Subscriber) :
    x.addSubscriber s =
      x.setSubscribers
        (Roster.added s x.sm.mSubscribers) := by
  unfold addSubscriber Roster.added
  rw [AgpsStateMachine.findSubscriber_ofSubscriber]
  cases hFind : x.sm.mSubscribers.find? (·.equals s) with
  | none =>
      have hNone := List.find?_eq_none.mp hFind
      rw [if_neg]
      simpa using hNone
  | some t =>
      have hMem := List.mem_of_find?_eq_some hFind
      have hEq := List.find?_some hFind
      rw [if_pos (List.any_eq_true.mpr ⟨t, hMem, hEq⟩)]
      rfl

theorem leave_eq
    (x : Exec)
    (s : Subscriber) :
    x.leave s =
      ⟨{ x.sm with
          mSubscribers :=
            Roster.left s x.sm.mSubscribers },
        x.env,
        x.out ++ Roster.leaveOut x.sm s⟩ := by
  unfold leave Roster.left Roster.leaveOut
  by_cases hWaits : s.waitForCloseComplete = true
  · rw [if_pos hWaits, if_pos hWaits, if_pos hWaits]
    cases s with
    | bit id addr =>
        simp [Subscriber.waitForCloseComplete] at hWaits
    | atl id mode tail =>
        simp [Subscriber.waitForCloseComplete] at hWaits
    | wifi ssid password sender inactive tail =>
        simp [Subscriber.setInactive, setSubscribers,
          Subscriber.isDS]
    | ds id inactive =>
        simp [Subscriber.setInactive, setSubscribers,
          Subscriber.isDS, DSStateMachine.informStatus,
          emit, Subscriber.ID]
  · rw [if_neg hWaits, if_neg hWaits, if_neg hWaits]
    rw [notifySubscribers_eq_of_delete x
      (n := .single s .unsubscribe true)
      trivial rfl]
    simp [Notification.single, Subscriber.forMe]

end Exec

end Agps

end D2Common
