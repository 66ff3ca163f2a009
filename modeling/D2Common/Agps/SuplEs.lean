import D2Common.Agps.DataServices
import D2Common.Agps.EngineUp
import D2Common.Agps.Reached

/-
  Emergency SUPL at the engine.

  The modem asks for emergency connections by handle and
  releases them, the data services report that the call is
  up or down, and a retry timer that fires makes `ds_nif`
  queue a request of its own. A handle that falls back to a
  normal connection is queued for `agnss_nif`. A run is any
  order of these, with any results of the data call starts.

  Key definitions include:
    * `LocEng`
    * `SuplEs.Msg`
    * `SuplEs.engine`
    * `SuplEs.Turn`

  Key theorems include:
    * `SuplEs.turn_of_step`
    * `SuplEs.turn_induction`
-/

------------------------------------------------------------
-- The Engine Data
------------------------------------------------------------

namespace D2Common

namespace Agps

/-
  The engine with its data services machine. The other
  fields stand for the outside: the retry timers that run,
  the `LocEngRequestSuplEs` that expired timers have queued,
  and the `LocEngRequestATL` that fallbacks have queued, all
  of them for `AGPS_TYPE_SUPL`.
-/
structure LocEng extends Engine where
  ds_nif : Option AgpsStateMachine
  retryTimers : Nat
  retryQueue : List Handle
  atlQueue : List Handle

namespace LocEng

/-
  The engine once `LocEngDataClientInit` has made `ds_nif`.
  Only targets with a machine for AGNSS come to that, and
  nothing deletes the machine afterwards.
-/
def dataClientInit : LocEng where
  toEngine := Engine.agpsInit true
  ds_nif := some DSStateMachine.new
  retryTimers := 0
  retryQueue := []
  atlQueue := []

/- Whether an output sets a timer that will expire. -/
def startsTimer : Emission → Bool
| .locTimerStart .started => true
| _ => false

/- The handle an output queues a retry for. -/
def queuedHandle : Emission → Option Handle
| .requestSuplES id => some id
| _ => none

/- The handle an output queues a normal connection for. -/
def fallbackHandle : Emission → Option Handle
| .requestATL id _ => some id
| _ => none

/- The engine after `ds_nif` has returned from a call. -/
def returned
    (e : LocEng)
    (r : AgpsStateMachine × List Emission) :
    LocEng × List Emission :=
  ({ e with
      ds_nif := some r.1
      retryTimers :=
        e.retryTimers + r.2.countP startsTimer
      retryQueue :=
        e.retryQueue ++ r.2.filterMap queuedHandle
      atlQueue :=
        e.atlQueue ++ r.2.filterMap fallbackHandle },
    r.2)

end LocEng

end Agps

end D2Common

------------------------------------------------------------
-- Messages
------------------------------------------------------------

namespace D2Common

namespace Agps

namespace LocEng

/- `LocEngRequestSuplEs::proc`. -/
def requestSuplEs
    (e : LocEng)
    (mID : Handle)
    (env : DataCall) : LocEng × List Emission :=
  match e.ds_nif with
  | some sm =>
      e.returned
        (sm.call env (.subscribeRsrc (.ds mID false)))
  | none => (e, [.atlOpenStatus mID 0 none (-1) (-1)])

/- `LocEngSuplEsOpened::proc`. -/
def suplEsOpened (e : LocEng) : LocEng × List Emission :=
  match e.ds_nif with
  | some sm =>
      e.returned (sm.call noDataCall (.onRsrcEvent .granted))
  | none => (e, [])

/- `LocEngSuplEsClosed::proc`. -/
def suplEsClosed
    (e : LocEng)
    (env : DataCall) : LocEng × List Emission :=
  match e.ds_nif with
  | some sm =>
      e.returned (sm.call env (.onRsrcEvent .released))
  | none => (e, [])

/-
  `nif->unsubscribeRsrc(s)` on a machine that may be absent:
  what it leaves when it returns true.
-/
def unsubscribed
    (nif : Option AgpsStateMachine)
    (s : Subscriber) :
    Option (AgpsStateMachine × List Emission) :=
  match nif with
  | some sm =>
      let (found, x) :=
        Exec.unsubscribeRsrc ⟨sm, noDataCall, []⟩ s
      if found then some (x.sm, x.out) else none
  | none => none

/-
  The object on the stack of `LocEngRequestATL::proc` and of
  `LocEngReleaseATL::proc`. Only a BIT record would read the
  bytes behind its base class, and no list has one here.
-/
def atlSubscriber (mID : Handle) : Subscriber :=
  .atl mID false (Vector.replicate 16 0)

/- `LocEngRequestATL::proc`, for `AGPS_TYPE_SUPL`. -/
def requestATL
    (e : LocEng)
    (mID : Handle) : LocEng × List Emission :=
  match e.agnss_nif with
  | some sm =>
      let r :=
        sm.call noDataCall
          (.subscribeRsrc (atlSubscriber mID))
      ({ e with agnss_nif := some r.1 }, r.2)
  | none =>
      (e, [.atlOpenStatus mID 0 none (-1) agpsTypeSupl])

/- `LocEngReleaseATL::proc`. -/
def releaseATL
    (e : LocEng)
    (mID : Handle) : LocEng × List Emission :=
  match unsubscribed e.agnss_nif (atlSubscriber mID) with
  | some r => ({ e with agnss_nif := some r.1 }, r.2)
  | none =>
      match
        unsubscribed e.internet_nif (atlSubscriber mID) with
      | some r => ({ e with internet_nif := some r.1 }, r.2)
      | none =>
          match unsubscribed e.ds_nif (.ds mID false) with
          | some r => e.returned r
          | none => (e, [.atlCloseStatus mID 0])

/- `delay_callback`, when one of the timers expires. -/
def timerFires (e : LocEng) : LocEng × List Emission :=
  match e.retryTimers, e.ds_nif with
  | timers + 1, some sm =>
      let x :=
        DSStateMachine.retryCallback ⟨sm, noDataCall, []⟩
      { e with retryTimers := timers }.returned
        (x.sm, x.out)
  | _, _ => (e, [])

/- The request a timer has queued is processed. -/
def queuedRequest
    (e : LocEng)
    (env : DataCall) : LocEng × List Emission :=
  match e.retryQueue with
  | mID :: rest =>
      { e with retryQueue := rest }.requestSuplEs mID env
  | [] => (e, [])

/- The request a fallback has queued is processed. -/
def queuedATL (e : LocEng) : LocEng × List Emission :=
  match e.atlQueue with
  | mID :: rest => { e with atlQueue := rest }.requestATL mID
  | [] => (e, [])

end LocEng

namespace SuplEs

/-
  What the engine processes, with the answers of the
  environment where a data call can be started. The first
  two come from the modem.
-/
inductive Msg where
  | requestSuplEs (mID : Handle) (env : DataCall)
  | releaseATL (mID : Handle)
  | suplEsOpened
  | suplEsClosed (env : DataCall)
  | timerFires
  | queuedRequest (env : DataCall)
  | queuedATL
deriving DecidableEq

def step
    (e : LocEng) :
    Msg → LocEng × List Emission
| .requestSuplEs mID env => e.requestSuplEs mID env
| .releaseATL mID => e.releaseATL mID
| .suplEsOpened => e.suplEsOpened
| .suplEsClosed env => e.suplEsClosed env
| .timerFires => e.timerFires
| .queuedRequest env => e.queuedRequest env
| .queuedATL => e.queuedATL

def engine : Transducer LocEng Msg Emission where
  init := LocEng.dataClientInit
  step := step

/- One message, as it was processed. -/
abbrev Event := Transducer.Event LocEng Msg Emission

end SuplEs

end Agps

end D2Common

------------------------------------------------------------
-- What One Message Can Do
------------------------------------------------------------

namespace D2Common

namespace Agps

namespace LocEng

/- An unsubscribe reports whether a record was found. -/
theorem unsubscribeRsrc_found
    (x : Exec)
    (s : Subscriber) :
    (x.unsubscribeRsrc s).1 =
      x.sm.mSubscribers.any (·.equals s) := by
  unfold Exec.unsubscribeRsrc
  rw [AgpsStateMachine.findSubscriber_ofSubscriber]
  cases hFind : x.sm.mSubscribers.find? (·.equals s) with
  | some t =>
      have hEq : t.equals s = true := by
        simpa using List.find?_some hFind
      symm
      exact List.any_eq_true.mpr
        ⟨t, List.mem_of_find?_eq_some hFind, hEq⟩
  | none =>
      symm
      simpa using hFind

theorem unsubscribed_some
    (sm : AgpsStateMachine)
    (s : Subscriber) :
    unsubscribed (some sm) s =
      if sm.mSubscribers.any (·.equals s) then
        some (sm.call noDataCall (.unsubscribeRsrc s))
      else
        none := by
  simp only [unsubscribed, unsubscribeRsrc_found]
  rfl

/- Nobody can be unsubscribed from an empty machine. -/
theorem unsubscribed_of_empty
    {nif : Option AgpsStateMachine}
    (hEmpty : ∀ sm ∈ nif, sm.mSubscribers = [])
    (s : Subscriber) :
    unsubscribed nif s = none := by
  cases nif with
  | none => rfl
  | some sm =>
      rw [unsubscribed_some, hEmpty sm rfl]
      simp

end LocEng

namespace SuplEs

/- The call into `ds_nif` that a message makes. -/
def Msg.op
    (queue : List Handle) :
    Msg → Option DS.Op
| .requestSuplEs mID env => some (.subscribeRsrc mID env)
| .releaseATL mID => some (.unsubscribeRsrc mID)
| .suplEsOpened => some (.onRsrcEvent .granted noDataCall)
| .suplEsClosed env => some (.onRsrcEvent .released env)
| .timerFires => some .retryCallback
| .queuedRequest env =>
    queue.head?.map fun mID => .subscribeRsrc mID env
| .queuedATL => none

theorem subscribe_of_op
    {queue : List Handle}
    {m : Msg}
    {mID : Handle}
    {env : DataCall}
    (hOp : m.op queue = some (.subscribeRsrc mID env)) :
    m = .requestSuplEs mID env ∨
      (m = .queuedRequest env ∧ queue.head? = some mID) := by
  cases m with
  | requestSuplEs id env' =>
      left
      simpa [Msg.op] using hOp
  | queuedRequest env' =>
      right
      rcases Option.map_eq_some_iff.mp hOp with
        ⟨id, hHead, hOp⟩
      cases hOp
      exact ⟨rfl, hHead⟩
  | _ => simp [Msg.op] at hOp

/- The data services never report a denial. -/
theorem event_of_op
    {queue : List Handle}
    {m : Msg}
    {event : AgpsRsrcStatus}
    {env : DataCall}
    (hOp : m.op queue = some (.onRsrcEvent event env)) :
    (m = .suplEsOpened ∧ event = .granted) ∨
      (m = .suplEsClosed env ∧ event = .released) := by
  cases m <;> simp_all [Msg.op]

/-
  What a message can do to `ds_nif` while a queue of retry
  requests waits, with what the engine emits. A message that
  `agnss_nif` takes up sends nothing for a handle: nobody
  opens a connection there.
-/
inductive Turn
    (sm : AgpsStateMachine)
    (queue : List Handle)
    (m : Msg) :
    AgpsStateMachine → List Emission → Prop where
  | call
      (op : DS.Op)
      (sm' : AgpsStateMachine)
      (out : List Emission)
      (hOp : m.op queue = some op)
      (hStep : DS.Step sm op sm' out) :
      Turn sm queue m sm' out
  | aside
      (out : List Emission)
      (hSilent :
        ∀ em ∈ out, ∀ id, ¬ em.reaches id = true) :
      Turn sm queue m sm out

/- A plain machine for many clients that has not opened. -/
structure Unopened (sm : AgpsStateMachine) : Prop where
  plain : sm.mRetries = none
  many : sm.mEnforceSingleSubscriber = false
  state : sm.mStatePtr ≠ .acquired

/-
  What every reachable engine satisfies. Of the ATL machines
  only `agnss_nif` is called, by those who come and go.
-/
structure Inv (e : LocEng) : Prop where
  agnss : ∃ sm, e.agnss_nif = some sm ∧ Unopened sm
  internet : ∀ sm ∈ e.internet_nif, sm.mSubscribers = []
  ds : ∃ sm, e.ds_nif = some sm ∧ DS.Inv sm

/- The engine after a message that was such a turn. -/
def Taken
    (sm : AgpsStateMachine)
    (queue : List Handle)
    (m : Msg)
    (r : LocEng × List Emission) : Prop :=
  Inv r.1 ∧
    ∃ sm', r.1.ds_nif = some sm' ∧
      Turn sm queue m sm' r.2

variable {e : LocEng}
variable {sm : AgpsStateMachine}

/- A call into `ds_nif` leaves the ATL machines alone. -/
theorem inv_returned
    (hInv : Inv e)
    {r : AgpsStateMachine × List Emission}
    (hds : DS.Inv r.1) :
    Inv (e.returned r).1 where
  agnss := hInv.agnss
  internet := hInv.internet
  ds := ⟨r.1, rfl, hds⟩

/- Clients of an unopened machine come and go unanswered. -/
theorem unopened_call
    {sm : AgpsStateMachine}
    (hSm : Unopened sm)
    {c : Call}
    (hCall :
      ∃ s, c = .subscribeRsrc s ∨ c = .unsubscribeRsrc s) :
    Unopened (sm.call noDataCall c).1 ∧
      ∀ em ∈ (sm.call noDataCall c).2,
        ∀ id, ¬ em.reaches id = true := by
  have hSame := Roster.same_respond sm noDataCall c
  rw [← AgpsStateMachine.call_eq] at hSame
  refine ⟨⟨?_, hSame.2.trans hSm.many, ?_⟩, ?_⟩
  · simpa [hSm.plain] using hSame.1
  · intro hAfter
    rw [AgpsStateMachine.call_eq] at hAfter
    apply hSm.state
    refine Roster.mStatePtr_respond sm noDataCall ?_ hAfter
    rcases hCall with ⟨s, rfl | rfl⟩ <;> simp
  · intro em hMem id hReaches
    rcases hCall with ⟨s, rfl | rfl⟩
    · rcases Roster.reaches_subscribe hMem hReaches with
        ⟨-, -, hRefuses | hState⟩ | ⟨hClass, -⟩
      · simp [AgpsStateMachine.Refuses, hSm.many] at hRefuses
      · exact hSm.state hState
      · simp [hSm.plain] at hClass
    · exact
        Roster.not_reaches_unsubscribe hMem hReaches

/- A message that `agnss_nif` has taken up. -/
theorem turn_of_agnss
    (hInv : Inv e)
    (hSm : e.ds_nif = some sm)
    (queue : List Handle)
    (m : Msg)
    {agnss : AgpsStateMachine}
    (hAgnss : Unopened agnss)
    {c : Call}
    (hCall :
      ∃ s, c = .subscribeRsrc s ∨ c = .unsubscribeRsrc s) :
    Taken sm queue m
      ({ e with
          agnss_nif := some (agnss.call noDataCall c).1 },
        (agnss.call noDataCall c).2) := by
  have hAfter := unopened_call hAgnss hCall
  refine ⟨⟨⟨_, rfl, hAfter.1⟩, hInv.internet, hInv.ds⟩, ?_⟩
  exact ⟨sm, hSm, Turn.aside _ hAfter.2⟩

theorem requestSuplEs_eq
    (hSm : e.ds_nif = some sm)
    (mID : Handle)
    (env : DataCall) :
    e.requestSuplEs mID env =
      e.returned (DS.step sm (.subscribeRsrc mID env)) := by
  unfold LocEng.requestSuplEs
  rw [hSm]
  rfl

/- A message that ends in a call keeps the invariant. -/
theorem turn_of_call
    (hInv : Inv e)
    (hds : DS.Inv sm)
    {queue : List Handle}
    {m : Msg}
    {op : DS.Op}
    (hOp : m.op queue = some op)
    {r : LocEng × List Emission}
    (hr : r = e.returned (DS.step sm op)) :
    Taken sm queue m r := by
  have hStep := DS.step_of_call hds op
  subst hr
  refine ⟨inv_returned hInv (DS.inv_of_step hds hStep), ?_⟩
  exact ⟨_, rfl, Turn.call op _ _ hOp hStep⟩

/- A message that no machine takes up. -/
theorem turn_of_idle
    (hInv : Inv e)
    (hSm : e.ds_nif = some sm)
    (queue : List Handle)
    (m : Msg)
    {out : List Emission}
    (hSilent :
      ∀ em ∈ out, ∀ id, ¬ em.reaches id = true) :
    Taken sm queue m (e, out) :=
  ⟨hInv, sm, hSm, Turn.aside out hSilent⟩

theorem turn_of_releaseATL
    (hInv : Inv e)
    (hSm : e.ds_nif = some sm)
    (hds : DS.Inv sm)
    (queue : List Handle)
    (mID : Handle) :
    Taken sm queue (.releaseATL mID) (e.releaseATL mID) := by
  rcases hInv.agnss with ⟨agnss, hNif, hAgnss⟩
  have hFirst :=
    LocEng.unsubscribed_some agnss (LocEng.atlSubscriber mID)
  have hThird :=
    LocEng.unsubscribed_some sm (.ds mID false)
  rw [← hNif] at hFirst
  rw [← hSm] at hThird
  unfold LocEng.releaseATL
  by_cases hFound :
      agnss.mSubscribers.any
        (·.equals (LocEng.atlSubscriber mID)) = true
  · rw [hFirst, if_pos hFound]
    exact turn_of_agnss hInv hSm queue _ hAgnss
      ⟨_, Or.inr rfl⟩
  · rw [hFirst, if_neg hFound,
      LocEng.unsubscribed_of_empty hInv.internet, hThird]
    by_cases hMem : mID ∈ handles sm.mSubscribers
    · rw [if_pos ((DS.any_equals hds.list mID).mpr hMem)]
      have hOp :
          (Msg.releaseATL mID).op queue =
            some (.unsubscribeRsrc mID) := rfl
      exact turn_of_call hInv hds hOp rfl
    · rw [if_neg (mt (DS.any_equals hds.list mID).mp hMem)]
      apply turn_of_idle hInv hSm
      simp [Emission.reaches]

/- The request of a fallback is for `agnss_nif`. -/
theorem turn_of_queuedATL
    (hInv : Inv e)
    (hSm : e.ds_nif = some sm)
    (queue : List Handle) :
    Taken sm queue .queuedATL e.queuedATL := by
  unfold LocEng.queuedATL
  cases hQueue : e.atlQueue with
  | nil => exact turn_of_idle hInv hSm queue _ (by simp)
  | cons mID rest =>
      rcases hInv.agnss with ⟨agnss, hNif, hAgnss⟩
      simp only [LocEng.requestATL, hNif]
      exact turn_of_agnss
        (e := { e with atlQueue := rest })
        ⟨⟨agnss, hNif, hAgnss⟩, hInv.internet, hInv.ds⟩
        hSm queue _ hAgnss ⟨_, Or.inl rfl⟩

theorem turn_of_step
    (hInv : Inv e)
    (hSm : e.ds_nif = some sm)
    (hds : DS.Inv sm)
    (m : Msg) :
    Taken sm e.retryQueue m (step e m) := by
  cases m with
  | requestSuplEs mID env =>
      exact turn_of_call hInv hds rfl
        (requestSuplEs_eq hSm mID env)
  | releaseATL mID =>
      exact turn_of_releaseATL hInv hSm hds _ mID
  | suplEsOpened =>
      apply turn_of_call hInv hds rfl
      simp only [step, LocEng.suplEsOpened, hSm]
      rfl
  | suplEsClosed env =>
      apply turn_of_call hInv hds rfl
      simp only [step, LocEng.suplEsClosed, hSm]
      rfl
  | timerFires =>
      simp only [step, LocEng.timerFires, hSm]
      cases hTimers : e.retryTimers with
      | zero => exact turn_of_idle hInv hSm _ _ (by simp)
      | succ timers =>
          exact turn_of_call
            (e := { e with retryTimers := timers })
            ⟨hInv.agnss, hInv.internet, hInv.ds⟩ hds rfl rfl
  | queuedRequest env =>
      simp only [step, LocEng.queuedRequest]
      cases hQueue : e.retryQueue with
      | nil => exact turn_of_idle hInv hSm _ _ (by simp)
      | cons mID rest =>
          apply turn_of_call
            (e := { e with retryQueue := rest })
            ⟨hInv.agnss, hInv.internet, hInv.ds⟩ hds rfl
          exact requestSuplEs_eq
            (e := { e with retryQueue := rest }) hSm mID env
  | queuedATL => exact turn_of_queuedATL hInv hSm _

theorem inv_dataClientInit :
    Inv LocEng.dataClientInit where
  agnss := ⟨_, rfl, ⟨rfl, rfl, by decide⟩⟩
  internet := by
    simp [LocEng.dataClientInit, Engine.agpsInit,
      AgpsStateMachine.new]
  ds := ⟨DSStateMachine.new, rfl, DS.inv_new⟩

end SuplEs

end Agps

end D2Common

------------------------------------------------------------
-- Traces
------------------------------------------------------------

namespace D2Common

namespace Agps

namespace SuplEs

/-
  What a trace records: the messages of the modem, as they
  are taken up, and everything the engine emits.
-/
inductive Mark where
  | requestSuplEs (mID : Handle)
  | releaseATL (mID : Handle)
  | emitted (e : Emission)
deriving DecidableEq

/- How the arrival of a message is recorded. -/
def Msg.arrival : Msg → List Mark
| .requestSuplEs mID _ => [.requestSuplEs mID]
| .releaseATL mID => [.releaseATL mID]
| _ => []

def marks (ev : Event) : List Mark :=
  ev.input.arrival ++ ev.output.map .emitted

def trace (h : List Event) : List Mark :=
  h.flatMap marks

theorem trace_concat
    (h : List Event)
    (ev : Event) :
    trace (h ++ [ev]) =
      trace h ++ ev.input.arrival ++
        ev.output.map .emitted := by
  simp [trace, marks]

theorem not_emitted_of_mem_arrival
    {m : Msg}
    {e : Emission} :
    Mark.emitted e ∉ m.arrival := by
  cases m <;> simp [Msg.arrival]

/- The modem asks for a connection for a handle. -/
def Asks
    (mID : Handle)
    (x : Mark) : Prop :=
  x = .requestSuplEs mID

/- A release of the handle is answered with success. -/
def Closed
    (mID : Handle)
    (x : Mark) : Prop :=
  x = .emitted (.atlCloseStatus mID 1)

/-
  A condition on the trace so far, `ds_nif`, the queue of
  retry requests and a message holds at every message.
-/
def EveryTurn
    (P :
      List Mark → AgpsStateMachine → List Handle →
        Msg → Prop)
    (ms : List Msg) : Prop :=
  History.Along
    (fun before ev =>
      ∀ sm ∈ ev.before.ds_nif,
        P (trace before) sm ev.before.retryQueue ev.input)
    (engine.history ms)

variable
  {P :
    List Mark → AgpsStateMachine → List Handle →
      Msg → Prop}

theorem everyTurn_nil : EveryTurn P [] := History.along_nil

theorem everyTurn_concat
    (ms : List Msg)
    (m : Msg) :
    EveryTurn P (ms ++ [m]) ↔
      EveryTurn P ms ∧
        ∀ sm ∈ (engine.run ms).ds_nif,
          P (trace (engine.history ms)) sm
            (engine.run ms).retryQueue m := by
  unfold EveryTurn
  rw [Transducer.history_concat, History.along_concat]
  rfl

/-
  What every turn keeps that meets the condition holds after
  every run whose turns all meet it.
-/
theorem turn_induction
    {I : List Mark → AgpsStateMachine → Prop}
    (hInit : I [] DSStateMachine.new)
    (hTurn :
      ∀ l sm queue m sm' out,
        I l sm → DS.Inv sm → P l sm queue m →
          Turn sm queue m sm' out →
            I (l ++ m.arrival ++ out.map .emitted) sm')
    (ms : List Msg)
    (hRun : EveryTurn P ms) :
    ∃ sm, (engine.run ms).ds_nif = some sm ∧
      I (trace (engine.history ms)) sm := by
  have hInvRun :=
    engine.history_induction
      (I := fun h e =>
        Inv e ∧ ∃ sm, e.ds_nif = some sm ∧ I (trace h) sm)
      ⟨inv_dataClientInit, DSStateMachine.new, rfl, hInit⟩
      (by
        rintro h e m ⟨hInv, sm, hSm, hI⟩ hCond
        have hds : DS.Inv sm := by
          rcases hInv.ds with ⟨sm', hSm', hds⟩
          have hSame : sm' = sm :=
            Option.some.inj (hSm'.symm.trans hSm)
          exact hSame ▸ hds
        rcases turn_of_step hInv hSm hds m with
          ⟨hInv', sm', hSm', hTurned⟩
        refine ⟨hInv', sm', hSm', ?_⟩
        rw [trace_concat]
        exact hTurn _ _ _ _ _ _ hI hds (hCond sm hSm)
          hTurned)
      ms hRun
  exact hInvRun.2

end SuplEs

end Agps

end D2Common
