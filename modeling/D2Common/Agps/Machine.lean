import D2Common.Agps.Transitions

/-
  The calls that the engine makes into a machine.

  A call is one entry from the outside: a subscribe, an
  unsubscribe, an event of the framework, or a setting. The
  file gives the closed form of every call.

  Key definitions include:
    * `AgpsStateMachine.call`
    * `Roster.respond`

  Key theorems include:
    * `AgpsStateMachine.call_eq`
-/

------------------------------------------------------------
-- Calls
------------------------------------------------------------

namespace D2Common

namespace Agps

/- The entries into a machine, with what is passed in. -/
inductive Call where
  | subscribeRsrc (subscriber : Subscriber)
  | unsubscribeRsrc (subscriber : Subscriber)
  | onRsrcEvent (event : AgpsRsrcStatus)
  | setAPN (apn : Option CString)
  | setBearer (bearer : AGpsBearerType)

/- The answers of a call that starts no data call. -/
def noDataCall : DataCall := ⟨0, .noHandle⟩

/- A start that succeeds. -/
def dataCallStarted : DataCall :=
  ⟨locApiAdapterErrSuccess, .noHandle⟩

/- A start for which there is no profile. -/
def dataCallUnsupported : DataCall :=
  ⟨locApiAdapterErrUnsupported, .noHandle⟩

/- A start on a busy modem; the retry timer runs. -/
def dataCallBusy : DataCall :=
  ⟨locApiAdapterErrEngineBusy, .started⟩

namespace AgpsStateMachine

/- What the code does on a call. -/
def call
    (sm : AgpsStateMachine)
    (env : DataCall) :
    Call → AgpsStateMachine × List Emission
| .subscribeRsrc s =>
    let x := Exec.subscribeRsrc ⟨sm, env, []⟩ s
    (x.sm, x.out)
| .unsubscribeRsrc s =>
    let x := (Exec.unsubscribeRsrc ⟨sm, env, []⟩ s).2
    (x.sm, x.out)
| .onRsrcEvent event =>
    let x := Exec.onRsrcEvent ⟨sm, env, []⟩ event
    (x.sm, x.out)
| .setAPN apn => (sm.setAPN apn, [])
| .setBearer bearer => (sm.setBearer bearer, [])

end AgpsStateMachine

/- Whether a machine turns a subscribe away. -/
def AgpsStateMachine.Refuses
    (sm : AgpsStateMachine) : Prop :=
  sm.mEnforceSingleSubscriber = true ∧ sm.mSubscribers ≠ []

instance
    (sm : AgpsStateMachine) :
    Decidable sm.Refuses :=
  inferInstanceAs (Decidable (_ ∧ _))

namespace Roster

/- The client is told, and the machine stays as it is. -/
def refuse
    (sm : AgpsStateMachine)
    (s : Subscriber) : AgpsStateMachine × List Emission :=
  (sm.clearRetries .denied [s],
    s.notice .caller sm .denied)

def subscribe
    (sm : AgpsStateMachine)
    (env : DataCall)
    (s : Subscriber) : AgpsStateMachine × List Emission :=
  if sm.Refuses then
    refuse sm s
  else
    move sm env (.subscribe s)

def unsubscribe
    (sm : AgpsStateMachine)
    (env : DataCall)
    (s : Subscriber) : AgpsStateMachine × List Emission :=
  match sm.mSubscribers.find? (·.equals s) with
  | some t => move sm env (.unsubscribe t)
  | none => (sm, [])

/- One transition after another. -/
def andThen
    (env : DataCall)
    (r : AgpsStateMachine × List Emission)
    (event : RsrcEvent) : AgpsStateMachine × List Emission :=
  let r' := move r.1 env event
  (r'.1, r.2 ++ r'.2)

/- A release that a DS machine ignores counts as a denial. -/
def release
    (sm : AgpsStateMachine)
    (env : DataCall) : AgpsStateMachine × List Emission :=
  let r := move sm env .released
  if
    sm.mRetries.isSome ∧
      r.1.mStatePtr = sm.mStatePtr then
    andThen env r .denied
  else
    r

def respond
    (sm : AgpsStateMachine)
    (env : DataCall) :
    Call → AgpsStateMachine × List Emission
| .subscribeRsrc s => subscribe sm env s
| .unsubscribeRsrc s => unsubscribe sm env s
| .onRsrcEvent .granted => move sm env .granted
| .onRsrcEvent .released => release sm env
| .onRsrcEvent .denied => move sm env .denied
| .onRsrcEvent _ => (sm, [])
| .setAPN apn => (sm.setAPN apn, [])
| .setBearer bearer => (sm.setBearer bearer, [])

end Roster

theorem Exec.after_fresh
    (sm : AgpsStateMachine)
    (env : DataCall)
    (r : AgpsStateMachine × List Emission) :
    Exec.after ⟨sm, env, []⟩ r = ⟨r.1, env, r.2⟩ := by
  simp [Exec.after]

theorem Exec.subscribeRsrc_eq
    (x : Exec)
    (s : Subscriber) :
    x.subscribeRsrc s =
      x.after (Roster.subscribe x.sm x.env s) := by
  unfold Exec.subscribeRsrc Roster.subscribe
  rw [Exec.dispatch_eq]
  have hTest :
      (x.sm.mEnforceSingleSubscriber &&
          x.sm.hasSubscribers) = true ↔
        x.sm.Refuses := by
    simp [AgpsStateMachine.hasSubscribers,
      AgpsStateMachine.Refuses]
  by_cases hRefused : x.sm.Refuses
  · rw [if_pos hRefused, if_pos (hTest.mpr hRefused)]
    unfold notifySubscriber
    rw [s.notifyRsrcStatus_eq
      (n := .broadcast .broadcastAll .denied true) trivial,
      if_pos (s.forMe_broadcastAll _ _)]
    rfl
  · rw [if_neg hRefused, if_neg (mt hTest.mp hRefused)]

theorem Exec.unsubscribeRsrc_eq
    (x : Exec)
    (s : Subscriber) :
    (x.unsubscribeRsrc s).2 =
      x.after (Roster.unsubscribe x.sm x.env s) := by
  unfold Exec.unsubscribeRsrc Roster.unsubscribe
  rw [AgpsStateMachine.findSubscriber_ofSubscriber]
  cases x.sm.mSubscribers.find? (·.equals s) with
  | none => simp [Exec.after]
  | some t => exact x.dispatch_eq (.unsubscribe t)

theorem Exec.onRsrcEvent_released_eq
    (x : Exec) :
    x.onRsrcEvent .released =
      x.after (Roster.release x.sm x.env) := by
  unfold Exec.onRsrcEvent Roster.release
  by_cases hClass : x.sm.mRetries.isSome = true
  · rw [if_pos hClass]
    unfold DSStateMachine.onRsrcEvent
    simp only [Exec.dispatch_eq, ne_eq, ite_not]
    by_cases hSame :
        (Roster.move x.sm x.env .released).1.mStatePtr =
          x.sm.mStatePtr
    · rw [if_pos (by exact hSame),
        if_pos (And.intro hClass hSame)]
      simp [Exec.after, Roster.andThen]
    · rw [if_neg (by exact hSame),
        if_neg (fun h => hSame h.2)]
  · rw [if_neg hClass, if_neg (fun h => hClass h.1)]
    exact x.dispatch_eq .released

/- The code computes the closed form on every call. -/
theorem AgpsStateMachine.call_eq
    (sm : AgpsStateMachine)
    (env : DataCall)
    (c : Call) :
    sm.call env c = Roster.respond sm env c := by
  unfold AgpsStateMachine.call Roster.respond
  cases c with
  | subscribeRsrc s =>
      simp [Exec.subscribeRsrc_eq, Exec.after_fresh]
  | unsubscribeRsrc s =>
      simp [Exec.unsubscribeRsrc_eq, Exec.after_fresh]
  | onRsrcEvent event =>
      cases event with
      | released =>
          simp [Exec.onRsrcEvent_released_eq,
            Exec.after_fresh]
      | granted =>
          simp [Exec.onRsrcEvent,
            DSStateMachine.onRsrcEvent,
            AgpsStateMachine.onRsrcEvent,
            Exec.dispatch_eq, Exec.after_fresh]
      | denied =>
          simp [Exec.onRsrcEvent,
            DSStateMachine.onRsrcEvent,
            AgpsStateMachine.onRsrcEvent,
            Exec.dispatch_eq, Exec.after_fresh]
      | subscribe =>
          simp [Exec.onRsrcEvent,
            DSStateMachine.onRsrcEvent,
            AgpsStateMachine.onRsrcEvent]
      | unsubscribe =>
          simp [Exec.onRsrcEvent,
            DSStateMachine.onRsrcEvent,
            AgpsStateMachine.onRsrcEvent]
      | statusMax =>
          simp [Exec.onRsrcEvent,
            DSStateMachine.onRsrcEvent,
            AgpsStateMachine.onRsrcEvent]
  | setAPN apn => rfl
  | setBearer bearer => rfl

/- A call that finds a record is a transition on it. -/
theorem AgpsStateMachine.call_of_find
    {sm : AgpsStateMachine}
    (env : DataCall)
    {s t : Subscriber}
    (hFind : sm.mSubscribers.find? (·.equals s) = some t) :
    sm.call env (.unsubscribeRsrc s) =
      Roster.move sm env (.unsubscribe t) := by
  rw [AgpsStateMachine.call_eq]
  simp only [Roster.respond, Roster.unsubscribe, hFind]

theorem AgpsStateMachine.call_of_find_none
    {sm : AgpsStateMachine}
    (env : DataCall)
    {s : Subscriber}
    (hFind : sm.mSubscribers.find? (·.equals s) = none) :
    sm.call env (.unsubscribeRsrc s) = (sm, []) := by
  rw [AgpsStateMachine.call_eq]
  simp only [Roster.respond, Roster.unsubscribe, hFind]

end Agps

end D2Common
