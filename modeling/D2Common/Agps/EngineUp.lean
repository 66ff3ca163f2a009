import D2Common.Agps.Plain.Connection

/-
  The modem restart.

  `loc_eng_handle_engine_up` empties the lists of two
  machines and leaves their states as they are. A run of the
  engine is any interleaving of calls into the two machines
  with such restarts.

  Key definitions include:
    * `Engine.handleEngineUp`
    * `Engine.Consistent`

  Key theorems include:
    * `Engine.inv_run`
    * `Engine.engine_up_consistent_iff`
    * `Engine.engine_up_holds_connection`
-/

------------------------------------------------------------
-- The Engine
------------------------------------------------------------

namespace D2Common

namespace Agps

/- The two machines that a restart of the modem touches. -/
inductive Nif where
  | agnss
  | internet
deriving DecidableEq, Repr

/-
  The fields of `loc_eng_data_s_type` that the restart reads
  or that it changes through a machine. The callback is kept
  as whether it is set.
-/
structure Engine where
  agps_status_cb : Bool
  agnss_nif : Option AgpsStateMachine
  internet_nif : Option AgpsStateMachine

namespace Engine

def nif (e : Engine) : Nif → Option AgpsStateMachine
| .agnss => e.agnss_nif
| .internet => e.internet_nif

def setNif
    (e : Engine)
    (which : Nif)
    (sm : AgpsStateMachine) : Engine :=
  match which with
  | .agnss => { e with agnss_nif := some sm }
  | .internet => { e with internet_nif := some sm }

/-
  The engine as `loc_eng_agps_init` leaves it. Some targets
  have no machine for AGNSS.
-/
def agpsInit (hasAgnss : Bool) : Engine where
  agps_status_cb := true
  agnss_nif :=
    if hasAgnss then
      some (AgpsStateMachine.new agpsTypeSupl false)
    else
      none
  internet_nif :=
    some (AgpsStateMachine.new agpsTypeWwanAny false)

/-
  `loc_eng_handle_engine_up`, as far as it concerns the
  machines.
-/
def handleEngineUp (e : Engine) : Engine :=
  if e.agps_status_cb then
    { e with
      agnss_nif :=
        e.agnss_nif.map (·.dropAllSubscribers)
      internet_nif :=
        e.internet_nif.map (·.dropAllSubscribers) }
  else
    e

/- A call into one machine, or a restart of the modem. -/
inductive Input where
  | call (which : Nif) (op : Plain.Op)
  | engineUp

def step
    (e : Engine) :
    Input → Engine × List (Nif × Emission)
| .call which op =>
    match e.nif which with
    | some sm =>
        let r := sm.call noDataCall op.call
        (e.setNif which r.1, r.2.map fun m => (which, m))
    | none => (e, [])
| .engineUp => (e.handleEngineUp, [])

def engine
    (hasAgnss : Bool) :
    Transducer Engine Input (Nif × Emission) where
  init := agpsInit hasAgnss
  step := step

theorem nif_handleEngineUp
    {e : Engine}
    (hCallback : e.agps_status_cb = true)
    (which : Nif) :
    e.handleEngineUp.nif which =
      (e.nif which).map (·.dropAllSubscribers) := by
  unfold handleEngineUp
  rw [if_pos hCallback]
  cases which <;> rfl

theorem nif_setNif
    (e : Engine)
    (which which' : Nif)
    (sm : AgpsStateMachine) :
    (e.setNif which sm).nif which' =
      if which' = which then some sm else e.nif which' := by
  cases which <;> cases which' <;> rfl

theorem agps_status_cb_step
    (e : Engine)
    (i : Input) :
    (e.step i).1.agps_status_cb = e.agps_status_cb := by
  cases i with
  | call which op =>
      simp only [step]
      cases e.nif which with
      | none => rfl
      | some sm => cases which <;> rfl
  | engineUp =>
      simp only [step, handleEngineUp]
      split <;> rfl

theorem agps_status_cb_run
    (hasAgnss : Bool)
    (is : List Input) :
    ((engine hasAgnss).run is).agps_status_cb = true := by
  apply (engine hasAgnss).run_induction
    (A := fun _ => True)
    (I := fun e => e.agps_status_cb = true) rfl
  · intro e i hCallback _
    exact (agps_status_cb_step e i).trans hCallback
  · simp

end Engine

end Agps

end D2Common

------------------------------------------------------------
-- Restarts Of Idle Machines
------------------------------------------------------------

namespace D2Common

namespace Agps

namespace Engine

/- Every machine that is there is in Released. -/
def Idle (e : Engine) : Prop :=
  ∀ which, ∀ sm ∈ e.nif which, sm.mStatePtr = .released

/- Every machine that is there meets its invariant. -/
def Inv (e : Engine) : Prop :=
  ∀ which, ∀ sm ∈ e.nif which, Plain.Inv sm

theorem inv_agpsInit
    (hasAgnss : Bool) :
    Inv (agpsInit hasAgnss) := by
  intro which sm hsm
  cases which with
  | agnss =>
      cases hasAgnss with
      | false => simp [agpsInit, nif] at hsm
      | true =>
          have hNew :
              AgpsStateMachine.new agpsTypeSupl false =
                sm := by
            simpa [agpsInit, nif] using hsm
          exact hNew ▸ Plain.inv_new _ _
  | internet =>
      have hNew :
          AgpsStateMachine.new agpsTypeWwanAny false =
            sm := by
        simpa [agpsInit, nif] using hsm
      exact hNew ▸ Plain.inv_new _ _

/- A machine in Released has nobody on its list to drop. -/
theorem dropAllSubscribers_of_released
    {sm : AgpsStateMachine}
    (hInv : Plain.Inv sm)
    (hState : sm.mStatePtr = .released) :
    sm.dropAllSubscribers = sm := by
  have hNil := hInv.empty.mp hState
  cases sm
  simp_all [AgpsStateMachine.dropAllSubscribers]

theorem inv_of_step
    {e : Engine}
    {i : Input}
    (hCallback : e.agps_status_cb = true)
    (hInv : Inv e)
    (hIdle : i = .engineUp → Idle e) :
    Inv (e.step i).1 := by
  intro which sm hsm
  cases i with
  | call which' op =>
      simp only [step] at hsm
      cases hNif : e.nif which' with
      | none =>
          rw [hNif] at hsm
          exact hInv which sm hsm
      | some sm' =>
          simp only [hNif, nif_setNif] at hsm
          by_cases hSame : which = which'
          · rw [if_pos hSame] at hsm
            cases hsm
            have hInv' := hInv which' sm' hNif
            exact Plain.inv_of_step hInv'
              (Plain.step_of_call hInv' op)
          · rw [if_neg hSame] at hsm
            exact hInv which sm hsm
  | engineUp =>
      simp only [step, nif_handleEngineUp hCallback] at hsm
      rcases Option.map_eq_some_iff.mp hsm with
        ⟨sm', hsm', rfl⟩
      have hInv' := hInv which sm' hsm'
      rw [dropAllSubscribers_of_released hInv'
        (hIdle rfl which sm' hsm')]
      exact hInv'

/-
  As long as every restart finds the machines in Released,
  they keep their invariant through the whole run.
-/
theorem inv_run
    (hasAgnss : Bool)
    (is : List Input)
    (hIdle :
      ∀ ev ∈ (engine hasAgnss).history is,
        ev.input = .engineUp → Idle ev.before) :
    Inv ((engine hasAgnss).run is) := by
  have hRun :=
    (engine hasAgnss).history_induction
      (C := fun _ ev =>
        ev.input = .engineUp → Idle ev.before)
      (I := fun _ e =>
        e.agps_status_cb = true ∧ Inv e)
      ⟨rfl, inv_agpsInit hasAgnss⟩
      (by
        rintro h e i ⟨hCallback, hInv⟩ hStep
        exact
          ⟨(agps_status_cb_step e i).trans hCallback,
            inv_of_step hCallback hInv hStep⟩)
      is
      (by
        intro before ev after hSplit
        exact hIdle ev (by simp [hSplit]))
  exact hRun.2

end Engine

end Agps

end D2Common

------------------------------------------------------------
-- Consistency After A Restart
------------------------------------------------------------

namespace D2Common

namespace Agps

namespace Engine

/-
  What a restart should leave: a machine whose state fits
  its list, and no connection held for an empty list.
-/
def Consistent
    (before after : AgpsStateMachine)
    (out : List Emission) : Prop :=
  (after.mStatePtr = .released ↔
      after.mSubscribers = []) ∧
    (before.mStatePtr = .pending ∨
        before.mStatePtr = .acquired →
      after.mSubscribers = [] →
        ∃ e ∈ out, statusOf e = some .releaseAgpsDataConn)

/- What one machine emits in a step of the engine. -/
def outOf
    (which : Nif)
    (out : List (Nif × Emission)) : List Emission :=
  out.filterMap fun m =>
    if m.1 = which then some m.2 else none

theorem consistent_drop_iff
    (sm : AgpsStateMachine) :
    Consistent sm sm.dropAllSubscribers [] ↔
      sm.mStatePtr = .released := by
  constructor
  · intro hConsistent
    exact hConsistent.1.mpr rfl
  · intro hState
    refine ⟨iff_of_true hState rfl, ?_⟩
    simp [hState]

/-
  After any run, a restart leaves a machine consistent
  exactly when it finds it in Released.
-/
theorem engine_up_consistent_iff
    (hasAgnss : Bool)
    (is : List Input)
    (which : Nif) :
    let e := (engine hasAgnss).run is
    let r := (engine hasAgnss).step e .engineUp
    (∀ sm ∈ e.nif which, ∀ sm' ∈ r.1.nif which,
        Consistent sm sm' (outOf which r.2)) ↔
      ∀ sm ∈ e.nif which, sm.mStatePtr = .released := by
  intro e r
  have hNif :
      r.1.nif which =
        (e.nif which).map (·.dropAllSubscribers) :=
    nif_handleEngineUp (agps_status_cb_run hasAgnss is)
      which
  have hOut : outOf which r.2 = [] := rfl
  rw [hNif, hOut]
  cases e.nif which with
  | none => simp
  | some sm =>
      have hDrop := consistent_drop_iff sm
      simpa using hDrop

/-
  The modem restarts while the connection is granted: the
  machine stays in Acquired for nobody.
-/
theorem engine_up_holds_connection :
    let is : List Input :=
      [.call .agnss
          (.subscribeRsrc
            (.atl 7 false (Vector.replicate 16 0))),
        .call .agnss (.onRsrcEvent .granted)]
    let e := (engine true).run is
    let r := (engine true).step e .engineUp
    ¬ ∀ sm ∈ e.nif .agnss, ∀ sm' ∈ r.1.nif .agnss,
      Consistent sm sm' (outOf .agnss r.2) := by
  intro is e r hAll
  have hConsistent := hAll _ rfl _ rfl
  have hState := hConsistent.1.mpr rfl
  revert hState
  decide

end Engine

end Agps

end D2Common
