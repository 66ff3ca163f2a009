import D2Common.Agps.DataServices

/-
  What the data services owe a machine in Pending.

  Pending waits for the outcome of a data call. Released
  enters it only after a start that succeeded. Releasing
  enters it whatever the start has returned, so a run keeps
  the promise when its restarts succeed.

  Key definitions include:
    * `DS.dataCalls`
    * `DS.RestartStarts`

  Key theorems include:
    * `DS.owed_of_step`
    * `DS.pending_owed`
    * `DS.pending_not_owed`
-/

------------------------------------------------------------
-- Data Calls
------------------------------------------------------------

namespace D2Common

namespace Agps

namespace DS

/- The requests that change what the data services owe. -/
def isDataCall : Emission → Bool
| .openAndStartDataCall _ => true
| .stopDataCall => true
| _ => false

/- The starts and stops of a run, oldest first. -/
def dataCalls (h : List Event) : List Emission :=
  h.flatMap fun ev => ev.output.filter isDataCall

theorem dataCalls_concat
    (h : List Event)
    (ev : Event) :
    dataCalls (h ++ [ev]) =
      dataCalls h ++ ev.output.filter isDataCall := by
  simp [dataCalls]

theorem filter_notices
    (sm : AgpsStateMachine)
    (st : AgpsRsrcStatus)
    (l : List Subscriber) :
    (notices sm st l).filter isDataCall = [] := by
  apply List.filter_eq_nil_iff.mpr
  intro e he
  rcases List.mem_flatMap.mp he with ⟨s, -, he⟩
  rcases List.mem_cons.mp he with rfl | he
  · simp [isDataCall]
  · cases st <;> cases s <;>
      simp [Subscriber.answer] at he <;>
      subst he <;> simp [isDataCall]

theorem filter_startOut
    (l : List Subscriber)
    (retries : BitVec 8)
    (env : DataCall) :
    (Roster.startOut l retries env).filter isDataCall =
      [.openAndStartDataCall env.startResult] := by
  unfold Roster.startOut
  cases Roster.startOutcome retries env <;> rfl

/- Only a start that succeeded lets Released go on. -/
theorem startResult_of_startReturn
    {retries : BitVec 8}
    {env : DataCall}
    (hReturn : Roster.startReturn retries env = 0) :
    env.startResult = locApiAdapterErrSuccess := by
  unfold Roster.startReturn at hReturn
  split at hReturn
  · split at hReturn
    · simp at hReturn
    · exact hReturn
  · exact hReturn

end DS

end Agps

end D2Common

------------------------------------------------------------
-- Restarts
------------------------------------------------------------

namespace D2Common

namespace Agps

namespace DS

/-
  A call that closes the connection of a Releasing machine
  with an active handle on its list starts a new data call.
  The condition is that this start succeeds.
-/
def RestartStarts (ev : Event) : Prop :=
  ev.before.mStatePtr = .releasing →
    (∃ s ∈ ev.before.mSubscribers, s.isInactive = false) →
      ∀ event env,
        ev.input = .onRsrcEvent event env →
          event = .released ∨ event = .denied →
            env.startResult = locApiAdapterErrSuccess

/- The last thing asked of the data services succeeded. -/
def Owed (h : List Event) : Prop :=
  (dataCalls h).getLast? =
    some (.openAndStartDataCall locApiAdapterErrSuccess)

variable {sm sm' : AgpsStateMachine}
variable {op : Op}
variable {out : List Emission}
variable {h : List Event}

theorem owed_concat_of_silent
    (hOwed : Owed h)
    (hSilent : out.filter isDataCall = []) :
    Owed (h ++ [⟨sm, op, out, sm'⟩]) := by
  unfold Owed
  rw [dataCalls_concat, hSilent, List.append_nil]
  exact hOwed

theorem owed_concat_of_start
    (hStart :
      out.filter isDataCall =
        [.openAndStartDataCall locApiAdapterErrSuccess]) :
    Owed (h ++ [⟨sm, op, out, sm'⟩]) := by
  unfold Owed
  rw [dataCalls_concat, hStart]
  simp

theorem owed_of_step
    (hOwed : sm.mStatePtr = .pending → Owed h)
    (hStep : Step sm op sm' out)
    (hStarts :
      RestartStarts (⟨sm, op, out, sm'⟩ : Event))
    (hState' : sm'.mStatePtr = .pending) :
    Owed (h ++ [⟨sm, op, out, sm'⟩]) := by
  cases hStep with
  | start id env hState =>
      apply owed_concat_of_start
      rw [filter_startOut]
      by_cases hReturn :
          Roster.startReturn sm.retries env = 0
      · rw [startResult_of_startReturn hReturn]
      · simp [started, hReturn] at hState'
  | join id env hState =>
      exact owed_concat_of_silent (hOwed hState') rfl
  | joinGranted id env hState =>
      simp [Roster.accept, hState] at hState'
  | tell s hs hState => simp [hState] at hState'
  | leave s hs hState hLeft =>
      exact owed_concat_of_silent (hOwed hState') rfl
  | leaveLast s hs hState hLeft => simp at hState'
  | leaveReleasing s hs hState => simp [hState] at hState'
  | grant env hState => simp at hState'
  | dismissDenied event env hState hEvent =>
      simp [Roster.dismiss] at hState'
  | dismissReleased env hState =>
      simp [Roster.dismiss] at hState'
  | closeDown event env hState hEvent hInactive =>
      simp [Roster.dismiss] at hState'
  | restart event env hState hEvent hActive =>
      apply owed_concat_of_start
      have hSuccess :
          env.startResult = locApiAdapterErrSuccess :=
        hStarts hState hActive event env rfl hEvent
      rw [List.filter_append, filter_notices,
        filter_startOut, hSuccess]
      rfl
  | _ => exact owed_concat_of_silent (hOwed hState') rfl

/-
  In every run whose restarts succeed, a machine in Pending
  is owed an answer.
-/
theorem pending_owed
    (ops : List Op)
    (hStarts :
      ∀ ev ∈ machine.history ops, RestartStarts ev)
    (hState : (machine.run ops).mStatePtr = .pending) :
    (dataCalls (machine.history ops)).getLast? =
      some
        (.openAndStartDataCall locApiAdapterErrSuccess) := by
  have hRun :=
    machine.history_induction
      (C := fun _ ev => RestartStarts ev)
      (I := fun h sm =>
        Inv sm ∧ (sm.mStatePtr = .pending → Owed h))
      ⟨inv_new, by
        simp [machine, DSStateMachine.new,
          AgpsStateMachine.new]⟩
      (by
        rintro h sm op ⟨hInv, hOwed⟩ hStart
        have hStep := step_of_call hInv op
        exact ⟨inv_of_step hInv hStep,
          owed_of_step hOwed hStep hStart⟩)
      ops
      (by
        intro before ev after hSplit
        exact hStarts ev (by simp [hSplit]))
  exact hRun.2 hState

/- A first start, and a restart, that both succeed. -/
theorem pending_owed_restart :
    (dataCalls
        (machine.history
          [.subscribeRsrc 7 dataCallStarted,
            .unsubscribeRsrc 7,
            .subscribeRsrc 8 dataCallStarted,
            .onRsrcEvent .released
              dataCallStarted])).getLast? =
      some
        (.openAndStartDataCall locApiAdapterErrSuccess) :=
  pending_owed
    [.subscribeRsrc 7 dataCallStarted, .unsubscribeRsrc 7,
      .subscribeRsrc 8 dataCallStarted,
      .onRsrcEvent .released dataCallStarted]
    (by
      intro ev hMem hState hActive event env hInput hEvent
      simp only [Transducer.history,
        Transducer.historyFrom, List.mem_cons,
        List.not_mem_nil, or_false] at hMem
      rcases hMem with rfl | rfl | rfl | rfl
      · cases hInput
      · cases hInput
      · cases hInput
      · cases hInput
        rfl)
    (by decide)

/-
  Handle 8 comes while the call of handle 7 goes down. Its
  start is not supported, and the machine waits in Pending
  for an answer that nobody owes it.
-/
theorem pending_not_owed :
    let ops : List Op :=
      [.subscribeRsrc 7 dataCallStarted,
        .onRsrcEvent .granted dataCallStarted,
        .unsubscribeRsrc 7,
        .subscribeRsrc 8 dataCallStarted,
        .onRsrcEvent .released dataCallUnsupported]
    (machine.run ops).mStatePtr = .pending ∧
      (dataCalls (machine.history ops)).getLast? ≠
        some
          (.openAndStartDataCall
            locApiAdapterErrSuccess) := by
  decide

end DS

end Agps

end D2Common
