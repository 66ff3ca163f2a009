import D2Common.Eng.ServerSettings

/-
  Requests to delete aiding data.

  A request waits in the record while the engine is on. What
  waits is seen here as a small machine of its own, which
  the engine refines. Two things are asked of it: whatever
  waits waits for an engine that is on, and a deletion is of
  everything that has been requested since the last one. A
  modem that goes down is at odds with the first, a request
  that replaces another with the second.

  Key definitions include:
    * `Deferred`
    * `Deferred.step`
    * `requestsSince`

  Key theorems include:
    * `deferred_step`
    * `pending_engineOn_iff`
    * `deletions_complete_iff`
-/

------------------------------------------------------------
-- The Deferred Request
------------------------------------------------------------

namespace D2Common

namespace Eng

/- A mask that waits for the engine to be off. -/
structure Deferred where
  engine_status : GpsStatusValue
  pending : UInt16
deriving DecidableEq

namespace Deferred

/- What can happen to a deferred request. -/
inductive Act where
  | request (f : UInt16)
  | status (status : GpsStatusValue)
  | down
  | up
  | other

/- Nothing waits and nothing is known of the engine. -/
def start : Deferred := ⟨.none, 0⟩

/- A status as far as it says whether the engine is on. -/
def note
    (status : GpsStatusValue)
    (x : Deferred) : Deferred :=
  { x with
    engine_status :=
      if status = .engineOn || status = .engineOff
      then status else x.engine_status }

/- What waits is deleted unless the engine is on. -/
def settle (x : Deferred) : Deferred × List UInt16 :=
  if x.engine_status != .engineOn && x.pending != 0 then
    ({ x with pending := 0 }, [x.pending])
  else (x, [])

/- The state after an act and the masks that are deleted. -/
def step
    (x : Deferred) :
    Act → Deferred × List UInt16
| .request f => settle { x with pending := f }
| .status status => settle (x.note status)
| .down => (x.note .engineOff, [])
| .up => (x.note .engineOn, [])
| .other => (x, [])

/- Whether an act deletes what waits, should any wait. -/
def settles
    (x : Deferred) :
    Act → Bool
| .request _ => x.engine_status != .engineOn
| .status status =>
    (x.note status).engine_status != .engineOn
| _ => false

/- The mask that waits once the act has been recorded. -/
def waiting
    (x : Deferred) :
    Act → UInt16
| .request f => f
| _ => x.pending

@[simp] theorem engine_status_settle
    (x : Deferred) :
    x.settle.1.engine_status = x.engine_status := by
  unfold settle
  split
  · rfl
  · rfl

theorem pending_settle
    (x : Deferred) :
    x.settle.1.pending =
      if x.engine_status != .engineOn && x.pending != 0
      then 0 else x.pending := by
  unfold settle
  split
  · rfl
  · rfl

theorem deleted_settle
    (x : Deferred) :
    x.settle.2 =
      if x.engine_status != .engineOn && x.pending != 0
      then [x.pending] else [] := by
  unfold settle
  split
  · rfl
  · rfl

theorem pending_step
    (x : Deferred)
    (act : Act) :
    (x.step act).1.pending =
      if x.settles act && x.waiting act != 0
      then 0 else x.waiting act := by
  cases act with
  | request f => exact pending_settle _
  | status status => exact pending_settle _
  | down => rfl
  | up => rfl
  | other => rfl

theorem deleted_step
    (x : Deferred)
    (act : Act) :
    (x.step act).2 =
      if x.settles act && x.waiting act != 0
      then [x.waiting act] else [] := by
  cases act with
  | request f => exact deleted_settle _
  | status status => exact deleted_settle _
  | down => rfl
  | up => rfl
  | other => rfl

/- A mask waits for an engine that is on. -/
def Held (x : Deferred) : Prop :=
  x.pending ≠ 0 → x.engine_status = .engineOn

theorem held_settle
    (x : Deferred) :
    x.settle.1.Held := by
  intro hPending
  by_contra hOff
  apply hPending
  rw [engine_status_settle] at hOff
  rw [pending_settle]
  by_cases hNone : x.pending = 0
  · simp [hNone]
  · rw [if_pos (by simp [hOff, hNone])]

/- Only a modem that goes down leaves a mask behind. -/
theorem held_step_iff
    {x : Deferred}
    (hHeld : x.Held)
    (act : Act) :
    (x.step act).1.Held ↔ (act = .down → x.pending = 0) := by
  cases act with
  | request f =>
      refine iff_of_true (held_settle _) ?_
      intro hDown
      contradiction
  | status status =>
      refine iff_of_true (held_settle _) ?_
      intro hDown
      contradiction
  | down =>
      constructor
      · intro hHeld' _
        by_contra hPending
        have hOn := hHeld' hPending
        contradiction
      · intro hNone hPending
        exact absurd (hNone rfl) hPending
  | up =>
      refine iff_of_true ?_ ?_
      · intro _
        rfl
      · intro hDown
        contradiction
  | other =>
      refine iff_of_true hHeld ?_
      intro hDown
      contradiction

/- A status that turns the engine off deletes what waits. -/
theorem deleted_of_leaves
    {x : Deferred}
    {act : Act}
    (hDown : act = .down → x.pending = 0)
    (hOn : x.engine_status = .engineOn)
    (hOff : (x.step act).1.engine_status ≠ .engineOn)
    (hPending : x.pending ≠ 0) :
    (x.step act).2 = [x.pending] := by
  cases act with
  | request f =>
      rw [step, engine_status_settle] at hOff
      exact absurd hOn hOff
  | status status =>
      rw [step, engine_status_settle] at hOff
      have hPending' : (x.note status).pending ≠ 0 := hPending
      rw [step, deleted_settle,
        if_pos (by simp [hOff, hPending'])]
      rfl
  | down => exact absurd (hDown rfl) hPending
  | up => exact absurd rfl hOff
  | other => exact absurd hOn hOff

end Deferred

end Eng

end D2Common

------------------------------------------------------------
-- Functions That Leave It Alone
------------------------------------------------------------

namespace D2Common

namespace Eng

variable {ρ ν F : Type}

/- What the record says of a deferred request. -/
def deferred (d : LocEngData ρ ν) : Deferred :=
  ⟨d.engine_status, d.aiding_data_for_deletion⟩

/- The mask of a call of `deleteAidingData`. -/
def deletion : Effect ρ F → Option UInt16
| .api (.deleteAidingData f) => some f
| _ => none

theorem deletion_api
    {call : ApiCall}
    (hCall : call.deletes = false) :
    deletion (.api call : Effect ρ F) = none := by
  cases call with
  | deleteAidingData f => contradiction
  | _ => rfl

/- The masks that are deleted, in order. -/
def deletions (out : List (Effect ρ F)) : List UInt16 :=
  out.filterMap deletion

@[simp] theorem deletions_append
    (out out' : List (Effect ρ F)) :
    deletions (out ++ out') =
      deletions out ++ deletions out' :=
  List.filterMap_append

theorem deletions_map
    {α : Type}
    {out : α → Effect ρ F}
    (hOut : ∀ x, deletion (out x) = none)
    (l : List α) :
    deletions (l.map out) = [] := by
  apply List.filterMap_eq_nil_iff.mpr
  intro f hf
  rcases List.mem_map.mp hf with ⟨x, -, rfl⟩
  exact hOut x

/- The request stays as it is and nothing is deleted. -/
structure Untouched
    (d : LocEngData ρ ν)
    (x : Done ρ ν F) : Prop where
  state : deferred x.1 = deferred d
  out : deletions x.2 = []

theorem untouched_refl
    (d : LocEngData ρ ν) :
    Untouched (F := F) d (d, []) :=
  ⟨rfl, rfl⟩

theorem untouched_andThen
    {d : LocEngData ρ ν}
    {x : Done ρ ν F}
    {f : LocEngData ρ ν → Done ρ ν F}
    (hx : Untouched d x)
    (hf : ∀ d', Untouched d' (f d')) :
    Untouched d (x.andThen f) := by
  constructor
  · exact (hf x.1).state.trans hx.state
  · simp [Done.andThen, hx.out, (hf x.1).out]

/- Sessions and reports do not touch it. -/
theorem untouched_rules :
    ReportRules
      (Untouched :
        LocEngData ρ ν → Done ρ ν F → Prop) where
  refl := untouched_refl
  andThen := untouched_andThen
  status_cb _ _ := ⟨rfl, rfl⟩
  session _ _ _ _ hCalls := by
    refine ⟨rfl, ?_⟩
    apply List.filterMap_eq_nil_iff.mpr
    intro f hf
    rcases List.mem_map.mp hf with ⟨call, hCall, rfl⟩
    exact deletion_api (hCalls call hCall)
  location_cb _ _ := ⟨rfl, rfl⟩
  sv_status_cb _ _ := ⟨rfl, rfl⟩
  nmea_cb _ _ sentences :=
    ⟨rfl, deletions_map (fun _ => rfl) sentences⟩

theorem untouched_niStep
    (i : Ni.Input ρ)
    (d : LocEngData ρ ν) :
    Untouched d (niStep (F := F) i d) :=
  ⟨rfl, deletions_map (fun _ => rfl) _⟩

theorem untouched_agpsInit
    (P : Platform ν F)
    (d : LocEngData ρ ν)
    (callbacks : Option Bool) :
    Untouched d (agpsInit P d callbacks) := by
  unfold agpsInit
  split
  · split
    · constructor
      · rfl
      · rw [deletions_append, deletions_map (fun _ => rfl),
          List.append_nil]
        split
        · rfl
        · rfl
    · exact ⟨rfl, rfl⟩
  · exact untouched_refl d

theorem untouched_setServerProxy
    (P : Platform ν F)
    (d : LocEngData ρ ν)
    (type : LocServerType)
    (hostname : CString)
    (port : BitVec 32) :
    Untouched d (setServerProxy P d type hostname port) := by
  unfold setServerProxy
  split
  · exact ⟨rfl, deletions_map (fun _ => rfl) _⟩
  · split
    · exact ⟨rfl, rfl⟩
    · exact ⟨rfl, rfl⟩
    · exact untouched_refl d

theorem untouched_updateNetworkAvailability
    (d : LocEngData ρ ν)
    (available : Bool)
    (apn : Option CString) :
    Untouched d
      (updateNetworkAvailability (F := F) d available apn) := by
  unfold updateNetworkAvailability
  dsimp only
  split
  · exact ⟨rfl, rfl⟩
  · exact ⟨rfl, rfl⟩

end Eng

end D2Common

------------------------------------------------------------
-- The Engine As That Machine
------------------------------------------------------------

namespace D2Common

namespace Eng

variable {ρ ν F : Type}

/- A step of the engine is an act upon the request. -/
structure Acts
    (d : LocEngData ρ ν)
    (act : Deferred.Act)
    (x : Done ρ ν F) : Prop where
  state : deferred x.1 = ((deferred d).step act).1
  out : deletions x.2 = ((deferred d).step act).2

theorem acts_of_untouched
    {d : LocEngData ρ ν}
    {x : Done ρ ν F}
    (hx : Untouched d x) :
    Acts d .other x :=
  ⟨hx.state, hx.out⟩

theorem deferred_updateAidingData
    (d : LocEngData ρ ν) :
    deferred (updateAidingData (F := F) d).1 =
        (deferred d).settle.1 ∧
      deletions (updateAidingData (F := F) d).2 =
        (deferred d).settle.2 := by
  unfold updateAidingData Deferred.settle deferred
  dsimp only
  split
  · exact ⟨rfl, rfl⟩
  · exact ⟨rfl, rfl⟩

theorem deferred_reportStatus
    (status : GpsStatusValue)
    (a : LocEngAdapter)
    (d : LocEngData ρ ν) :
    deferred (reportStatus (F := F) status a d).1 =
        (deferred d).note status ∧
      deletions (reportStatus (F := F) status a d).2 = [] := by
  let d' :=
    { d with
      mute_session_state :=
        muteAfter status d.mute_session_state }
  have hInform :
      Untouched (F := F) d'
        (if reportable status a.mNavigating &&
            d'.mute_session_state != .inSession then
          informGpsStatus d' status
        else (d', [])) := by
    split
    · exact untouched_rules.informGpsStatus d' status
    · exact untouched_refl d'
  have hKeep :
      ∀ e : LocEngData ρ ν,
        deferred (keepStatus (F := F) status e).1 =
          (deferred e).note status := by
    intro e
    rfl
  constructor
  · rw [reportStatus, Done.andThen, hKeep, hInform.state]
    rfl
  · rw [reportStatus, Done.andThen, deletions_append,
      hInform.out]
    rfl

theorem acts_handleEngineDown
    (a : LocEngAdapter)
    (d : LocEngData ρ ν) :
    Acts d .down (handleEngineDown (F := F) a d) := by
  have hReset := untouched_niStep (F := F) .reset d
  have hStatus :=
    deferred_reportStatus (F := F) .engineOff a
      (niStep (F := F) .reset d).1
  constructor
  · rw [handleEngineDown, Done.andThen, hStatus.1,
      hReset.state]
    rfl
  · rw [handleEngineDown, Done.andThen, deletions_append,
      hReset.out, hStatus.2]
    rfl

theorem acts_handleEngineUp
    (P : Platform ν F)
    (result : ApiErr)
    (a : LocEngAdapter)
    (d : LocEngData ρ ν) :
    Acts d .up (handleEngineUp P result a d) := by
  have hStatus :=
    deferred_reportStatus (F := F) .engineOn a d
  have hRestart :=
    (untouched_rules (F := F)).restartSession result a
      (reportStatus (F := F) .engineOn a d).1
  constructor
  · rw [handleEngineUp, Done.andThen]
    exact hRestart.state.trans hStatus.1
  · rw [handleEngineUp, Done.andThen, deletions_append]
    simp only [Done.andThen, deletions_append]
    rw [deletions_map (fun _ => rfl), hStatus.2,
      hRestart.out]
    rfl

theorem acts_delAidData
    (f : UInt16)
    (d : LocEngData ρ ν) :
    Acts (F := F) d (.request f)
      (updateAidingData
        { d with aiding_data_for_deletion := f }) :=
  ⟨(deferred_updateAidingData _).1,
    (deferred_updateAidingData _).2⟩

theorem acts_reportStatus
    (status : GpsStatusValue)
    (a : LocEngAdapter)
    (d : LocEngData ρ ν) :
    Acts (F := F) d (.status status)
      ((reportStatus status a d).andThen
        updateAidingData) := by
  have hStatus :=
    deferred_reportStatus (F := F) status a d
  have hSettle :=
    deferred_updateAidingData (F := F)
      (reportStatus (F := F) status a d).1
  rw [hStatus.1] at hSettle
  constructor
  · exact hSettle.1
  · rw [Done.andThen, deletions_append, hStatus.2, hSettle.2]
    rfl

/-
  What an input means for the request. Without an adapter no
  message can have been delivered.
-/
def act
    (d : LocEngData ρ ν)
    (i : Input ρ) : Deferred.Act :=
  if d.adapter.isSome then
    match i with
    | .delAidData f => .request f
    | .reportStatus status => .status status
    | .engineDown => .down
    | .engineUp _ => .up
    | _ => .other
  else .other

/- Before there is an adapter nothing has been requested. -/
def Unused (d : LocEngData ρ ν) : Prop :=
  d.adapter = none → deferred d = Deferred.start

theorem withAdapter_some
    {d : LocEngData ρ ν}
    {a : LocEngAdapter}
    (hAdapter : d.adapter = some a)
    (f : LocEngAdapter → LocEngData ρ ν → Done ρ ν F) :
    withAdapter d f = f a d := by
  rw [withAdapter, hAdapter]

theorem untouched_locEngInit
    (P : Platform ν F)
    {d : LocEngData ρ ν}
    (hUnused : Unused d)
    (callbacks : Callbacks)
    (setCapabilities nmea1Hz : Bool) :
    Untouched d
      (locEngInit P d callbacks setCapabilities nmea1Hz) := by
  unfold locEngInit
  cases hAdapter : d.adapter with
  | some a => exact ⟨rfl, rfl⟩
  | none =>
      refine ⟨(hUnused hAdapter).symm, ?_⟩
      cases setCapabilities with
      | true => rfl
      | false => rfl

/- Inputs that are neither requests nor statuses. -/
theorem untouched_step
    (P : Platform ν F)
    {d : LocEngData ρ ν}
    (hUnused : Unused d)
    {i : Input ρ}
    (hOther : act d i = .other) :
    Untouched d (step P d i) := by
  have hAbsent :
      ∀ f : LocEngAdapter → LocEngData ρ ν → Done ρ ν F,
        d.adapter.isSome ≠ true →
          Untouched d (withAdapter d f) := by
    intro f hNone
    rw [withAdapter, Option.not_isSome_iff_eq_none.mp hNone]
    exact untouched_refl d
  cases i with
  | init callbacks setCapabilities nmea1Hz =>
      exact untouched_locEngInit P hUnused callbacks
        setCapabilities nmea1Hz
  | agpsInit callbacks =>
      exact untouched_agpsInit P d callbacks
  | setServerProxy type hostname port =>
      exact untouched_setServerProxy P d type hostname port
  | updateNetworkAvailability available apn =>
      exact untouched_updateNetworkAvailability d available
        apn
  | delAidData f =>
      by_cases hSome : d.adapter.isSome = true
      · simp [act, hSome] at hOther
      · apply hAbsent
        exact hSome
  | reportStatus status =>
      by_cases hSome : d.adapter.isSome = true
      · simp [act, hSome] at hOther
      · apply hAbsent
        exact hSome
  | engineDown =>
      by_cases hSome : d.adapter.isSome = true
      · simp [act, hSome] at hOther
      · apply hAbsent
        exact hSome
  | engineUp result =>
      by_cases hSome : d.adapter.isSome = true
      · simp [act, hSome] at hOther
      · apply hAbsent
        exact hSome
  | reportPosition r => exact untouched_rules.step P d rfl
  | reportSv svStatus => exact untouched_rules.step P d rfl
  | reportNmea nmea => exact untouched_rules.step P d rfl
  | _ =>
      exact
        untouched_rules.toSessionRules.step untouched_niStep
          P d rfl

/- Every step of the engine is a step of the machine. -/
theorem deferred_step
    (P : Platform ν F)
    {d : LocEngData ρ ν}
    (hUnused : Unused d)
    (i : Input ρ) :
    Acts d (act d i) (step P d i) := by
  by_cases hOther : act d i = .other
  · rw [hOther]
    exact acts_of_untouched
      (untouched_step P hUnused hOther)
  · cases hAdapter : d.adapter with
    | none =>
        exact absurd (by simp [act, hAdapter]) hOther
    | some a =>
        have hSome : d.adapter.isSome = true := by
          simp [hAdapter]
        unfold act at hOther ⊢
        rw [if_pos hSome] at hOther ⊢
        cases i with
        | delAidData f =>
            rw [step, withAdapter_some hAdapter]
            exact acts_delAidData f d
        | reportStatus status =>
            rw [step, withAdapter_some hAdapter]
            exact acts_reportStatus status a d
        | engineDown =>
            rw [step, withAdapter_some hAdapter]
            exact acts_handleEngineDown a d
        | engineUp result =>
            rw [step, withAdapter_some hAdapter]
            exact acts_handleEngineUp P result a d
        | _ => exact absurd rfl hOther

end Eng

end D2Common

------------------------------------------------------------
-- What Waits Waits For The Engine
------------------------------------------------------------

namespace D2Common

namespace Eng

variable {ρ ν F : Type}

/- An adapter that has been set stays. -/
theorem adapter_of_step
    (P : Platform ν F)
    {d : LocEngData ρ ν}
    {i : Input ρ}
    (hNone : (step P d i).1.adapter = none) :
    d.adapter = none := by
  by_cases hOther : i.setsServer = false
  · have hFrame := (frame_step P d hOther).adapter
    rw [hNone] at hFrame
    simpa using hFrame.symm
  · cases i with
    | init callbacks setCapabilities nmea1Hz =>
        cases hAdapter : d.adapter with
        | none => rfl
        | some a =>
            rw [step, locEngInit, hAdapter] at hNone
            exact absurd (hAdapter.symm.trans hNone) (by simp)
    | setServerProxy type hostname port =>
        have hSame :
            (setServerProxy P d type hostname
              port).1.adapter = d.adapter := by
          unfold setServerProxy
          split
          · rfl
          · split
            · rfl
            · rfl
            · rfl
        exact hSame.symm.trans hNone
    | _ => exact absurd rfl hOther

theorem unused_step
    (P : Platform ν F)
    {d : LocEngData ρ ν}
    (hUnused : Unused d)
    (i : Input ρ) :
    Unused (step P d i).1 := by
  intro hNone
  have hBefore := adapter_of_step P hNone
  have hOther : act d i = .other := by
    simp [act, hBefore]
  rw [(untouched_step P hUnused hOther).state]
  exact hUnused hBefore

theorem unused_zero
    (P : Platform ν F) :
    Unused (system (ρ := ρ) P).init := by
  intro _
  rfl

/- An engine that is not on has no request waiting. -/
def PendingOn (d : LocEngData ρ ν) : Prop :=
  d.aiding_data_for_deletion ≠ 0 →
    d.engine_status = .engineOn

/-
  The message that ends the time the engine is on deletes
  what has waited.
-/
def DeletesOnLeave (e : Event ρ ν F) : Prop :=
  e.before.engine_status = .engineOn →
    e.after.engine_status ≠ .engineOn →
      e.before.aiding_data_for_deletion ≠ 0 →
        deletions e.output =
          [e.before.aiding_data_for_deletion]

/-
  The condition: nothing waits when the modem is found to be
  down.
-/
def DownWithNone (e : Event ρ ν F) : Prop :=
  e.input = .engineDown →
    e.before.aiding_data_for_deletion = 0

/- A modem that goes down is the only act of its kind. -/
theorem down_iff
    {d : LocEngData ρ ν}
    (hUnused : Unused d)
    (i : Input ρ) :
    (act d i = .down → (deferred d).pending = 0) ↔
      (i = .engineDown → d.aiding_data_for_deletion = 0) := by
  cases hAdapter : d.adapter with
  | none =>
      have hNone : d.aiding_data_for_deletion = 0 :=
        congrArg Deferred.pending (hUnused hAdapter)
      exact iff_of_true (fun _ => hNone) (fun _ => hNone)
  | some a =>
      have hDown : act d i = .down ↔ i = .engineDown := by
        unfold act
        rw [if_pos (by simp [hAdapter])]
        cases i <;> simp
      rw [hDown]
      rfl

theorem pendingOn_step_iff
    (P : Platform ν F)
    {d : LocEngData ρ ν}
    (hUnused : Unused d)
    (hPending : PendingOn d)
    (i : Input ρ) :
    PendingOn (step P d i).1 ↔
      DownWithNone ((system P).event d i) := by
  have hHeld : (deferred d).Held := hPending
  have hAfter := Deferred.held_step_iff hHeld (act d i)
  rw [← (deferred_step P hUnused i).state] at hAfter
  exact hAfter.trans (down_iff hUnused i)

theorem deletesOnLeave_event
    (P : Platform ν F)
    {d : LocEngData ρ ν}
    (hUnused : Unused d)
    {i : Input ρ}
    (hDown : DownWithNone ((system P).event d i)) :
    DeletesOnLeave ((system P).event d i) := by
  intro hOn hOff hPending
  have hStep := deferred_step P hUnused i
  have hOff' :
      ((deferred d).step (act d i)).1.engine_status ≠
        .engineOn := by
    rw [← hStep.state]
    exact hOff
  have hDeleted :=
    Deferred.deleted_of_leaves
      ((down_iff hUnused i).mpr hDown) hOn hOff' hPending
  exact hStep.out.trans hDeleted

/-
  In every run whatever waits waits for an engine that is
  on, and is deleted by the message that ends that, if and
  only if nothing waits whenever the modem goes down.
-/
theorem pending_engineOn_iff
    (P : Platform ν F)
    (is : List (Input ρ)) :
    ((∀ js, js <+: is → PendingOn ((system P).run js)) ∧
      History.Along (fun _ e => DeletesOnLeave e)
        ((system P).history is)) ↔
      History.Along (fun _ e => DownWithNone e)
        ((system P).history is) := by
  let I : List (Event ρ ν F) → LocEngData ρ ν → Prop :=
    fun _ d => Unused d ∧ PendingOn d
  have hInit : I [] (system P).init := by
    refine ⟨unused_zero P, ?_⟩
    intro hPending
    exact absurd rfl hPending
  have hStep :
      ∀ h d i, I h d →
        (I (h ++ [(system P).event d i]) (step P d i).1 ↔
          DownWithNone ((system P).event d i)) := by
    rintro h d i ⟨hUnused, hPending⟩
    rw [← pendingOn_step_iff P hUnused hPending i]
    constructor
    · exact And.right
    · exact And.intro (unused_step P hUnused i)
  have hAll :=
    (system P).forall_prefix_iff_along
      (C := fun _ e => DownWithNone e) hInit hStep is
  have hUnused : ∀ js, Unused ((system (ρ := ρ) P).run js) := by
    intro js
    apply (system P).run_induction
      (A := fun _ => True) (unused_zero P)
    · intro d i hd _
      exact unused_step P hd i
    · simp
  constructor
  · rintro ⟨hPending, -⟩
    apply hAll.mp
    intro js hPrefix
    exact ⟨hUnused js, hPending js hPrefix⟩
  · intro hAlong
    constructor
    · intro js hPrefix
      exact (hAll.mpr hAlong js hPrefix).2
    · apply (system P).along_of_invariant
        (B := fun _ e => DownWithNone e)
        (C := fun _ e => DeletesOnLeave e)
        hInit _ _ is hAlong
      · intro h d i hI
        exact (hStep h d i hI).mpr
      · intro h d i hI hDown
        exact deletesOnLeave_event P hI.1 hDown

/-
  The engine is on, a request waits, and the modem goes
  down: the request waits for an engine that is off.
-/
def downWhileWaiting : List (Input Unit) :=
  [.init ⟨false, false, false, false⟩ false false,
    .reportStatus .engineOn,
    .delAidData 1,
    .engineDown]

theorem downWhileWaiting_pending :
    ((system barePlatform).run
        downWhileWaiting).aiding_data_for_deletion = 1 ∧
      ((system barePlatform).run
        downWhileWaiting).engine_status = .engineOff ∧
      ¬ ∀ js, js <+: downWhileWaiting →
        PendingOn ((system barePlatform).run js) := by
  refine ⟨by decide, by decide, ?_⟩
  intro hAll
  have hOn :=
    hAll downWhileWaiting (List.prefix_refl _) (by decide)
  exact absurd hOn (by decide)

end Eng

end D2Common

------------------------------------------------------------
-- What Is Deleted
------------------------------------------------------------

namespace D2Common

namespace Eng

variable {ρ ν F : Type}

/- The bits of all masks of a list. -/
def union (l : List UInt16) : UInt16 :=
  l.foldr (· ||| ·) 0

theorem or_union_of_mem
    {l : List UInt16}
    {f : UInt16}
    (hf : f ∈ l) :
    f ||| union l = union l := by
  induction l with
  | nil => simp at hf
  | cons g l ih =>
      change f ||| (g ||| union l) = g ||| union l
      rcases List.mem_cons.mp hf with rfl | hf
      · rw [← UInt16.or_assoc, UInt16.or_self]
      · rw [← UInt16.or_assoc, UInt16.or_comm f g,
          UInt16.or_assoc, ih hf]

theorem union_or_of_covers
    {l : List UInt16}
    {f : UInt16}
    (hCovers : ∀ g ∈ l, g ||| f = f) :
    union l ||| f = f := by
  induction l with
  | nil => exact UInt16.zero_or
  | cons g l ih =>
      change (g ||| union l) ||| f = f
      rw [UInt16.or_assoc,
        ih (fun g' hg' => hCovers g' (by simp [hg'])),
        hCovers g (by simp)]

/- A mask of a list is all of it when it covers the rest. -/
theorem eq_union_iff
    {l : List UInt16}
    {f : UInt16}
    (hf : f ∈ l) :
    f = union l ↔ ∀ g ∈ l, g ||| f = f := by
  constructor
  · intro hEq g hg
    rw [hEq]
    exact or_union_of_mem hg
  · intro hCovers
    calc
      f = union l ||| f := (union_or_of_covers hCovers).symm
      _ = f ||| union l := UInt16.or_comm _ _
      _ = union l := or_union_of_mem hf

/- The mask that a step has requested to be deleted. -/
def requested (e : Event ρ ν F) : List UInt16 :=
  match act e.before e.input with
  | .request f => [f]
  | _ => []

/-
  The masks that have been requested since the last step
  that deleted any.
-/
def requestsSince
    (h : List (Event ρ ν F)) : List UInt16 :=
  h.foldl
    (fun asked e =>
      if deletions e.output = [] then asked ++ requested e
      else [])
    []

theorem requestsSince_concat
    (h : List (Event ρ ν F))
    (e : Event ρ ν F) :
    requestsSince (h ++ [e]) =
      if deletions e.output = []
      then requestsSince h ++ requested e
      else [] := by
  simp [requestsSince]

/-
  A request or a status that is handled, and after which the
  engine is not on.
-/
def HandledOff (e : Event ρ ν F) : Prop :=
  e.before.adapter.isSome = true ∧
    ((∃ f, e.input = .delAidData f) ∨
      ∃ status, e.input = .reportStatus status) ∧
      e.after.engine_status ≠ .engineOn

/-
  No request is forgotten: what is deleted is all that has
  been requested since the last deletion, and where nothing
  is deleted though the engine is not on, nothing has been
  requested.
-/
structure Complete
    (h : List (Event ρ ν F))
    (e : Event ρ ν F) : Prop where
  whole :
    ∀ m ∈ deletions e.output,
      m = union (requestsSince h ++ requested e)
  none_left :
    HandledOff e →
      deletions e.output = [] →
        union (requestsSince h ++ requested e) = 0

/-
  The condition: when a request or a status finds the engine
  not to be on, the mask that was requested last has the bits
  of all that were requested since the last deletion.
-/
def LastCovers
    (h : List (Event ρ ν F))
    (e : Event ρ ν F) : Prop :=
  let asked := requestsSince h ++ requested e
  let last := asked.getLastD 0
  (deferred e.before).settles (act e.before e.input) →
    ∀ f ∈ asked, f ||| last = last

/- What waits is the mask that was requested last. -/
def KeepsLast
    (h : List (Event ρ ν F))
    (d : LocEngData ρ ν) : Prop :=
  d.aiding_data_for_deletion = (requestsSince h).getLastD 0

theorem waiting_eq_last
    (P : Platform ν F)
    {h : List (Event ρ ν F)}
    {d : LocEngData ρ ν}
    (hKeeps : KeepsLast h d)
    (i : Input ρ) :
    (deferred d).waiting (act d i) =
      (requestsSince h ++
        requested ((system P).event d i)).getLastD 0 := by
  have hPending :
      (deferred d).pending = (requestsSince h).getLastD 0 :=
    hKeeps
  unfold requested
  change
    _ =
      (requestsSince h ++
        match act d i with
        | .request f => [f]
        | _ => []).getLastD 0
  cases act d i with
  | request f =>
      rw [List.getLastD_concat]
      rfl
  | _ =>
      rw [List.append_nil]
      exact hPending

theorem keepsLast_step
    (P : Platform ν F)
    {h : List (Event ρ ν F)}
    {d : LocEngData ρ ν}
    (hUnused : Unused d)
    (hKeeps : KeepsLast h d)
    (i : Input ρ) :
    KeepsLast (h ++ [(system P).event d i])
      (step P d i).1 := by
  have hStep := deferred_step P hUnused i
  have hLast := waiting_eq_last P hKeeps i
  have hOut :
      deletions ((system P).event d i).output = _ :=
    hStep.out.trans (Deferred.deleted_step _ _)
  have hPending :
      (step P d i).1.aiding_data_for_deletion = _ :=
    (congrArg Deferred.pending hStep.state).trans
      (Deferred.pending_step _ _)
  rw [KeepsLast, requestsSince_concat, hOut, hPending]
  split
  next => rfl
  next => exact hLast

/- The last mask is all of a list when it covers the rest. -/
theorem last_eq_union_iff
    (l : List UInt16) :
    l.getLastD 0 = union l ↔
      ∀ g ∈ l, g ||| l.getLastD 0 = l.getLastD 0 := by
  cases l using List.reverseRecOn with
  | nil => exact iff_of_true rfl (by simp)
  | append_singleton front f =>
      rw [List.getLastD_concat]
      exact eq_union_iff (by simp)

/- Those are the steps in which the machine may delete. -/
theorem handledOff_iff
    (P : Platform ν F)
    {d : LocEngData ρ ν}
    (hUnused : Unused d)
    (i : Input ρ) :
    HandledOff ((system P).event d i) ↔
      (deferred d).settles (act d i) = true := by
  have hStatus :
      (step P d i).1.engine_status =
        ((deferred d).step (act d i)).1.engine_status :=
    congrArg Deferred.engine_status
      (deferred_step P hUnused i).state
  unfold HandledOff
  change
    d.adapter.isSome = true ∧
        ((∃ f, i = .delAidData f) ∨
          ∃ status, i = .reportStatus status) ∧
          (step P d i).1.engine_status ≠ .engineOn ↔
      _
  rw [hStatus]
  unfold act
  by_cases hSome : d.adapter.isSome = true
  · rw [if_pos hSome]
    cases i with
    | delAidData f =>
        simp [hSome, Deferred.step, Deferred.settles]
    | reportStatus status =>
        simp [hSome, Deferred.step, Deferred.settles]
    | _ => simp [Deferred.settles]
  · rw [if_neg hSome]
    simp [hSome, Deferred.settles]

theorem complete_iff
    (P : Platform ν F)
    {h : List (Event ρ ν F)}
    {d : LocEngData ρ ν}
    (hUnused : Unused d)
    (hKeeps : KeepsLast h d)
    (i : Input ρ) :
    Complete h ((system P).event d i) ↔
      LastCovers h ((system P).event d i) := by
  have hLast := waiting_eq_last P hKeeps i
  have hOut :
      deletions ((system P).event d i).output = _ :=
    (deferred_step P hUnused i).out.trans
      (Deferred.deleted_step _ _)
  have hUnion :=
    last_eq_union_iff
      (requestsSince h ++ requested ((system P).event d i))
  have hHandled := handledOff_iff P hUnused i
  unfold LastCovers
  change
    _ ↔ ((deferred d).settles (act d i) = true → _)
  rw [← hUnion]
  rw [hLast] at hOut
  by_cases hSettles : (deferred d).settles (act d i) = true
  · rw [hSettles] at hOut
    constructor
    · intro hComplete _
      by_cases hNone :
          (requestsSince h ++
            requested ((system P).event d i)).getLastD 0 = 0
      · rw [hNone] at hOut ⊢
        exact
          (hComplete.none_left (hHandled.mpr hSettles)
            hOut).symm
      · rw [if_pos (by simpa using hNone)] at hOut
        exact hComplete.whole _ (by simp [hOut])
    · intro hAll
      have hSame := hAll hSettles
      by_cases hNone :
          (requestsSince h ++
            requested ((system P).event d i)).getLastD 0 = 0
      · rw [if_neg (by simpa using hNone)] at hOut
        constructor
        · simp [hOut]
        · intro _ _
          rw [← hSame, hNone]
      · rw [if_pos (by simpa using hNone)] at hOut
        constructor
        · intro m hm
          rw [hOut, List.mem_singleton] at hm
          rw [hm, hSame]
        · intro _ hEmpty
          rw [hOut] at hEmpty
          cases hEmpty
  · rw [Bool.eq_false_iff.mpr hSettles] at hOut
    refine iff_of_true ?_ (fun hTrue => absurd hTrue hSettles)
    constructor
    · rw [hOut]
      simp
    · intro hOff
      exact absurd (hHandled.mp hOff) hSettles

/-
  In every run each deletion is of all that was requested
  since the last one, and none is left out, if and only if
  the last request covers the others whenever the engine is
  found not to be on.
-/
theorem deletions_complete_iff
    (P : Platform ν F)
    (is : List (Input ρ)) :
    History.Along Complete ((system P).history is) ↔
      History.Along LastCovers ((system P).history is) := by
  apply (system P).along_congr
    (A := fun _ => True)
    (I := fun h d => Unused d ∧ KeepsLast h d)
    ⟨unused_zero P, rfl⟩
  · rintro h d i ⟨hUnused, hKeeps⟩ _
    exact
      ⟨unused_step P hUnused i,
        keepsLast_step P hUnused hKeeps i⟩
  · rintro h d i ⟨hUnused, hKeeps⟩ _
    exact complete_iff P hUnused hKeeps i
  · simp

/-
  Two requests while the engine is on; then it goes off, and
  only the second is served.
-/
def twoRequests : List (Input Unit) :=
  [.init ⟨false, false, false, false⟩ false false,
    .reportStatus .engineOn,
    .delAidData 1,
    .delAidData 2,
    .reportStatus .engineOff]

theorem twoRequests_not_complete :
    ¬ History.Along Complete
        ((system barePlatform).history twoRequests) := by
  intro hAlong
  rw [History.along_iff_take] at hAlong
  have hLast := hAlong 4 (by decide)
  exact absurd (hLast.whole 2 (by decide)) (by decide)

end Eng

end D2Common
