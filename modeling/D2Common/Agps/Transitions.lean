import D2Common.Agps.Roster

/-
  The transitions of a machine without their loops.

  `Roster.move` gives every transition in one equation over
  the whole list. The file proves that the four states of
  the code compute it.

  Key definitions include:
    * `Roster.move`

  Key theorems include:
    * `Exec.dispatch_eq`
-/

------------------------------------------------------------
-- Transitions
------------------------------------------------------------

namespace D2Common

namespace Agps

namespace Roster

/- The framework is told to let the connection go. -/
def releaseOut
    (sm : AgpsStateMachine) : List Emission :=
  .sendRsrcRequest .releaseAgpsDataConn ::
    if sm.mRetries.isSome then
      [.stopDataCall]
    else
      [.requestRsrc
        (nifRequest sm.mType .releaseAgpsDataConn none)]

/- The first subscriber brings the machine to its request. -/
def start
    (sm : AgpsStateMachine)
    (env : DataCall)
    (s : Subscriber) : AgpsStateMachine × List Emission :=
  let r :=
    request
      { sm with mSubscribers := added s sm.mSubscribers }
      env .requestAgpsDataConn
  ({ r.2.1 with
      mStatePtr := if r.1 = 0 then .pending else .released },
    r.2.2)

/- A subscriber is put on the list and nothing is said. -/
def accept
    (sm : AgpsStateMachine)
    (s : Subscriber) : AgpsStateMachine :=
  { sm with mSubscribers := added s sm.mSubscribers }

/-
  A subscriber leaves Pending or Acquired. With nobody
  active left the connection is let go.
-/
def depart
    (sm : AgpsStateMachine)
    (s : Subscriber) : AgpsStateMachine × List Emission :=
  let l := left s sm.mSubscribers
  if l.all (·.isInactive) then
    ({ sm with
        mSubscribers := l
        mStatePtr :=
          if l.isEmpty then .released else .releasing },
      leaveOut sm s ++ releaseOut sm)
  else
    ({ sm with mSubscribers := l }, leaveOut sm s)

/- A subscriber leaves while the connection is going down. -/
def departReleasing
    (sm : AgpsStateMachine)
    (s : Subscriber) : AgpsStateMachine × List Emission :=
  let l := left s sm.mSubscribers
  ({ sm with
      mSubscribers := l
      mStatePtr :=
        if l.isEmpty then .released else .releasing },
    leaveOut sm s)

/- Everyone is told and the list is emptied. -/
def dismiss
    (sm : AgpsStateMachine)
    (st : AgpsRsrcStatus) :
    AgpsStateMachine × List Emission :=
  ({ sm.clearRetries st sm.mSubscribers with
      mSubscribers := []
      mStatePtr := .released },
    notices sm st sm.mSubscribers)

/-
  The connection is down: the inactive are told and leave,
  and a new request is made for those who came meanwhile.
-/
def closeDown
    (sm : AgpsStateMachine)
    (env : DataCall)
    (st : AgpsRsrcStatus) :
    AgpsStateMachine × List Emission :=
  let told := sm.mSubscribers.filter (·.isInactive)
  let kept := sm.mSubscribers.filter (!·.isInactive)
  let rest :=
    { sm.clearRetries st told with mSubscribers := kept }
  if kept.isEmpty then
    ({ rest with mStatePtr := .released },
      notices sm st told)
  else
    let r := request rest env .requestAgpsDataConn
    ({ r.2.1 with mStatePtr := .pending },
      notices sm st told ++ r.2.2)

/- Every transition of the machine. -/
def move
    (sm : AgpsStateMachine)
    (env : DataCall)
    (event : RsrcEvent) :
    AgpsStateMachine × List Emission :=
  match sm.mStatePtr, event with
  | .released, .subscribe s => start sm env s
  | .released, .unsubscribe s =>
      (sm, s.notice .listed sm .unsubscribe)
  | .released, _ => (sm, [])
  | .pending, .subscribe s => (accept sm s, [])
  | .pending, .unsubscribe s => depart sm s
  | .pending, .granted =>
      ({ sm with mStatePtr := .acquired },
        notices sm .granted
          (sm.mSubscribers.filter (!·.isInactive)))
  | .pending, .released => (sm, [])
  | .pending, .denied => dismiss sm .denied
  | .acquired, .subscribe s =>
      (accept sm s, s.notice .caller sm .granted)
  | .acquired, .unsubscribe s => depart sm s
  | .acquired, .granted => (sm, [])
  | .acquired, .released => dismiss sm .released
  | .acquired, .denied => (sm, [])
  | .releasing, .subscribe s => (accept sm s, [])
  | .releasing, .unsubscribe s => departReleasing sm s
  | .releasing, .granted => (sm, [])
  | .releasing, .released => closeDown sm env .released
  | .releasing, .denied => closeDown sm env .denied

/- Every state but Released takes the leaving one off. -/
theorem mSubscribers_move_unsubscribe
    (sm : AgpsStateMachine)
    (env : DataCall)
    (t : Subscriber)
    (hState : sm.mStatePtr ≠ .released) :
    (move sm env (.unsubscribe t)).1.mSubscribers =
      left t sm.mSubscribers := by
  unfold move
  cases hPtr : sm.mStatePtr with
  | released => exact absurd hPtr hState
  | pending =>
      simp only [depart]
      split <;> rfl
  | acquired =>
      simp only [depart]
      split <;> rfl
  | releasing => rfl

/- It emits the departure, and perhaps a release behind. -/
theorem out_move_unsubscribe
    (sm : AgpsStateMachine)
    (env : DataCall)
    (t : Subscriber)
    (hState : sm.mStatePtr ≠ .released) :
    (move sm env (.unsubscribe t)).2 = leaveOut sm t ∨
      (move sm env (.unsubscribe t)).2 =
        leaveOut sm t ++ releaseOut sm := by
  have hDepart :
      (depart sm t).2 = leaveOut sm t ∨
        (depart sm t).2 = leaveOut sm t ++ releaseOut sm := by
    simp only [depart]
    split
    · exact Or.inr rfl
    · exact Or.inl rfl
  unfold move
  cases hPtr : sm.mStatePtr with
  | released => exact absurd hPtr hState
  | pending => exact hDepart
  | acquired => exact hDepart
  | releasing => exact Or.inl rfl

/- Nobody active means that the release is not held back. -/
theorem request_release
    (sm : AgpsStateMachine)
    (env : DataCall)
    (hInactive : sm.mSubscribers.all (·.isInactive) = true) :
    request sm env .releaseAgpsDataConn =
      (0, sm, releaseOut sm) := by
  have hFind :
      sm.mSubscribers.find? (!·.isInactive) = none := by
    simpa using hInactive
  unfold request releaseOut
  cases hClass : sm.mRetries with
  | none => simp [plainRequestOut, hFind]
  | some retries => simp

end Roster

/- Notifications to one receiver, on the receiver itself. -/
theorem Subscriber.notifyRsrcStatus_single
    (addressee : Addressee)
    (s : Subscriber)
    (st : AgpsRsrcStatus)
    (hKnown : st.Known)
    (x : Exec) :
    (s.notifyRsrcStatus addressee (.single s st false) x).2 =
      x.told addressee st s := by
  rw [s.notifyRsrcStatus_eq
    (n := .single s st false) hKnown, if_pos (by simp)]
  rfl

namespace Exec

theorem checkLeft_leave
    (x : Exec)
    (s : Subscriber)
    {current : AgpsState}
    (hState : x.sm.mStatePtr = current) :
    ((x.leave s).checkLeft current).2.setState
        ((x.leave s).checkLeft current).1 =
      x.after (Roster.depart x.sm s) := by
  subst hState
  rw [leave_eq]
  unfold checkLeft Roster.depart
  simp only [AgpsStateMachine.hasSubscribers,
    AgpsStateMachine.hasActiveSubscribers_eq, Bool.not_not]
  by_cases hInactive :
      (Roster.left s x.sm.mSubscribers).all
        (·.isInactive) = true
  · rw [if_pos hInactive, sendRsrcRequest_eq,
      Roster.request_release _ _ hInactive]
    by_cases hEmpty : Roster.left s x.sm.mSubscribers = []
    · simp [after, setState, Roster.releaseOut, hEmpty]
    · rw [if_neg (by simpa using hEmpty)]
      rw [if_pos hInactive]
      simp [after, setState, Roster.releaseOut, hEmpty]
  · have hEmpty :
        Roster.left s x.sm.mSubscribers ≠ [] := by
      intro hEmpty
      simp [hEmpty] at hInactive
    rw [if_neg (by simpa using hEmpty), if_neg hInactive,
      if_neg hInactive]
    simp [after, setState]

theorem onClosed_eq
    (x : Exec)
    (st : AgpsRsrcStatus)
    (hKnown : st.Known) :
    (AgpsReleasingState.onClosed x st).2.setState
        (AgpsReleasingState.onClosed x st).1 =
      x.after (Roster.closeDown x.sm x.env st) := by
  unfold AgpsReleasingState.onClosed Roster.closeDown
  rw [notifySubscribers_eq_of_delete x
    (n := .broadcast .broadcastInactive st true) hKnown rfl]
  simp only [Subscriber.forMe_broadcastInactive,
    AgpsStateMachine.hasActiveSubscribers_eq]
  by_cases hKept :
      x.sm.mSubscribers.filter (!·.isInactive) = []
  · simp [hKept, after, setState, Notification.broadcast]
  · have hActive :
        ((x.sm.mSubscribers.filter (!·.isInactive)).all
          (·.isInactive)) = false := by
      rcases List.exists_mem_of_ne_nil _ hKept with
        ⟨t, ht⟩
      rw [List.all_eq_false]
      exact ⟨t, ht, by simpa using (List.mem_filter.mp ht).2⟩
    simp [hKept, hActive, sendRsrcRequest_eq, after,
      setState, Notification.broadcast]

theorem setState_of_eq
    (x : Exec)
    {st : AgpsState}
    (hState : x.sm.mStatePtr = st) :
    x.setState st = x.after (x.sm, []) := by
  subst hState
  simp [setState, after]

theorem dispatch_released
    (x : Exec)
    (event : RsrcEvent)
    (hState : x.sm.mStatePtr = .released) :
    x.dispatch event =
      x.after (Roster.move x.sm x.env event) := by
  unfold dispatch AgpsState.onRsrcEvent Roster.move
  rw [hState]
  cases event with
  | subscribe s =>
      simp only [AgpsReleasedState.onRsrcEvent,
        addSubscriber_eq, sendRsrcRequest_eq]
      unfold Roster.start
      by_cases hRet :
          (Roster.request
            { x.sm with
              mSubscribers :=
                Roster.added s x.sm.mSubscribers }
            x.env .requestAgpsDataConn).1 = 0
      · simp [hRet, after, setState, setSubscribers]
      · simp [hRet, after, setState, setSubscribers]
  | unsubscribe s =>
      simp only [AgpsReleasedState.onRsrcEvent]
      rw [Subscriber.notifyRsrcStatus_single _ s .unsubscribe trivial]
      simp [told, after, setState, ← hState]
  | granted => exact x.setState_of_eq hState
  | released => exact x.setState_of_eq hState
  | denied => exact x.setState_of_eq hState

theorem dispatch_pending
    (x : Exec)
    (event : RsrcEvent)
    (hState : x.sm.mStatePtr = .pending) :
    x.dispatch event =
      x.after (Roster.move x.sm x.env event) := by
  unfold dispatch AgpsState.onRsrcEvent Roster.move
  rw [hState]
  cases event with
  | subscribe s =>
      simp [AgpsPendingState.onRsrcEvent, addSubscriber_eq,
        Roster.accept, after, setState, setSubscribers,
        ← hState]
  | unsubscribe s => exact x.checkLeft_leave s hState
  | granted =>
      simp only [AgpsPendingState.onRsrcEvent]
      rw [notifySubscribers_eq_of_keep x
        (n := .broadcast .broadcastActive .granted false)
        trivial rfl]
      simp only [Subscriber.forMe_broadcastActive]
      simp [Notification.broadcast, setState, after]
  | released => exact x.setState_of_eq hState
  | denied =>
      simp only [AgpsPendingState.onRsrcEvent]
      rw [notifySubscribers_eq_of_delete x
        (n := .broadcast .broadcastAll .denied true)
        trivial rfl]
      simp [Notification.broadcast, setState, after,
        Subscriber.forMe, Roster.dismiss]

theorem dispatch_acquired
    (x : Exec)
    (event : RsrcEvent)
    (hState : x.sm.mStatePtr = .acquired) :
    x.dispatch event =
      x.after (Roster.move x.sm x.env event) := by
  unfold dispatch AgpsState.onRsrcEvent Roster.move
  rw [hState]
  cases event with
  | subscribe s =>
      simp only [AgpsAcquiredState.onRsrcEvent]
      rw [Subscriber.notifyRsrcStatus_single _ s .granted trivial,
        addSubscriber_eq]
      simp [told, Roster.accept, after, setState,
        setSubscribers, ← hState]
  | unsubscribe s => exact x.checkLeft_leave s hState
  | granted => exact x.setState_of_eq hState
  | released =>
      simp only [AgpsAcquiredState.onRsrcEvent]
      rw [notifySubscribers_eq_of_delete x
        (n := .broadcast .broadcastAll .released true)
        trivial rfl]
      simp [Notification.broadcast, setState, after,
        Subscriber.forMe, Roster.dismiss]
  | denied => exact x.setState_of_eq hState

theorem dispatch_releasing
    (x : Exec)
    (event : RsrcEvent)
    (hState : x.sm.mStatePtr = .releasing) :
    x.dispatch event =
      x.after (Roster.move x.sm x.env event) := by
  unfold dispatch AgpsState.onRsrcEvent Roster.move
  rw [hState]
  cases event with
  | subscribe s =>
      simp [AgpsReleasingState.onRsrcEvent,
        addSubscriber_eq, Roster.accept, after, setState,
        setSubscribers, ← hState]
  | unsubscribe s =>
      simp only [AgpsReleasingState.onRsrcEvent, leave_eq]
      by_cases hEmpty :
          Roster.left s x.sm.mSubscribers = []
      · simp [hEmpty, AgpsStateMachine.hasSubscribers,
          Roster.departReleasing, after, setState]
      · simp [hEmpty, AgpsStateMachine.hasSubscribers,
          Roster.departReleasing, after, setState]
  | granted => exact x.setState_of_eq hState
  | released => exact x.onClosed_eq .released trivial
  | denied => exact x.onClosed_eq .denied trivial

/- The searches of the code compute the declared transition. -/
theorem dispatch_eq
    (x : Exec)
    (event : RsrcEvent) :
    x.dispatch event =
      x.after (Roster.move x.sm x.env event) := by
  cases hState : x.sm.mStatePtr with
  | released => exact x.dispatch_released event hState
  | pending => exact x.dispatch_pending event hState
  | acquired => exact x.dispatch_acquired event hState
  | releasing => exact x.dispatch_releasing event hState

end Exec

end Agps

end D2Common
