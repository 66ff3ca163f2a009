import D2Common.Eng.Restart
import D2Common.Eng.UlpProxy

/-
  What the framework asks for, call by call.

  A request is recorded by the proxy at once and reaches the
  engine as a message. Each message stands for a change of
  what is asked for, and handling it changes the session of
  the engine in the same way, but for the mode of the
  criteria, which is lost when a session ends. A restart of
  the modem starts the session anew that there is.

  Key definitions include:
    * `Intent`
    * `Session.Call.asks`
    * `Session.Serves`
    * `Session.Current`
    * `Session.Regular`

  Key theorems include:
    * `Session.Current.setUlpProxy`
    * `Session.shows_proc`
    * `Session.regular_called`
-/

------------------------------------------------------------
-- What Is Asked For
------------------------------------------------------------

namespace D2Common

namespace Eng

/- Whether there is to be a session, and its criteria. -/
structure Intent where
  fix : Bool
  posMode : Option LocPosMode
deriving DecidableEq

/- Nothing has been asked for. -/
def Intent.nothing : Intent := ⟨false, none⟩

/- Criteria of which the mode does not matter. -/
def LocPosMode.withoutMode (p : LocPosMode) : LocPosMode :=
  { p with mode := .invalid }

namespace Session

variable {ρ ν F : Type}

/- What a message asks for. -/
def Msg.asks (i : Intent) : Msg ρ F → Intent
| .eng (.eng (.startFix _)) => { i with fix := true }
| .eng (.eng (.stopFix _)) => { i with fix := false }
| .eng (.eng (.positionMode p)) =>
    { i with posMode := some p }
| _ => i

/- Whether it asks for anything. -/
def Msg.ofSession : Msg ρ F → Bool
| .eng (.eng (.startFix _)) => true
| .eng (.eng (.stopFix _)) => true
| .eng (.eng (.positionMode _)) => true
| _ => false

/- The session that the engine has. -/
def view (d : LocEngData ρ ν) : Intent :=
  match d.adapter with
  | none => ⟨false, none⟩
  | some a => ⟨a.mNavigating, some a.mFixCriteria⟩

/- The criteria of a call, as the engine is to have them. -/
def criteria
    (standaloneOnly : Bool)
    (mode recurrence min_interval : UInt32)
    (preferred_accuracy preferred_time : UInt32) :
    LocPosMode where
  mode :=
    if standaloneOnly then .standalone
    else if mode = 1 then .msBased
    else if mode = 2 then .msAssisted
    else .standalone
  recurrence := recurrence
  min_interval :=
    if min_interval < 1000 then 1000 else min_interval
  preferred_accuracy := preferred_accuracy
  preferred_time := preferred_time
  credentials := []
  provider := []

/-
  What a call asks for, if there is an engine. A cleanup
  asks for no fix if there is a session.
-/
def Call.asks
    (standaloneOnly : Bool)
    (d : LocEngData ρ ν)
    (i : Intent) : Call ρ F → Intent
| .locStart _ =>
    if d.adapter.isSome then { i with fix := true } else i
| .locStop _ =>
    if d.adapter.isSome then { i with fix := false } else i
| .locSetPositionMode mode recurrence min_interval
    preferred_accuracy preferred_time =>
    if d.adapter.isSome then
      { i with
        posMode :=
          some
            (criteria standaloneOnly mode recurrence
              min_interval preferred_accuracy
              preferred_time) }
    else i
| .locCleanup _ =>
    if d.adapter.any (·.mNavigating) then
      { i with fix := false }
    else i
| _ => i

/- Whether a call makes a request of the proxy. -/
def Call.requests : Call ρ F → Bool
| .locStart _ => true
| .locStop _ => true
| .locSetPositionMode .. => true
| .locCleanup _ => true
| _ => false

/- What is there is what is asked for, but for the mode. -/
structure Serves (there asked : Intent) : Prop where
  fix : there.fix = asked.fix
  posMode :
    ∀ p, asked.posMode = some p →
      there.posMode.map LocPosMode.withoutMode =
        some p.withoutMode

/- A proxy has recorded what is asked for. -/
structure Records
    (ulp : UlpProxyBase)
    (asked : Intent) : Prop where
  fix : ulp.mFixSet = asked.fix
  posMode :
    ∀ p, asked.posMode = some p →
      ulp.mPosMode = p ∧ p.mode ≠ .invalid

/-
  A message that leaves a session as it was asked for: a fix
  that is not refused, one that does not end by itself, and
  a new proxy that has not been used.
-/
def Msg.steady : Msg ρ F → Bool
| .eng (.eng (.startFix result)) => beginsSession result
| .eng (.eng (.positionMode p)) =>
    p.recurrence != recurrenceSingle
| .eng (.engineUp result) => beginsSession result
| .setUlpProxy (.other ulp) => !ulp.mFixSet
| _ => true

/-
  A call that asks for what can be kept up. Only one thread
  asks for anything, by the calls of the framework.
-/
def Call.regular (asker : Bool) : Call ρ F → Bool
| .locStart result => asker && beginsSession result
| .locStop _ => asker
| .locSetPositionMode _ recurrence _ _ _ =>
    asker && recurrence != recurrenceSingle
| .locCleanup _ => asker
| .setUlpProxy ulp =>
    (Msg.setUlpProxy ulp : Msg ρ F).steady
| .goOn => true
| .direct _ => true
| .post m => !(Msg.eng (.eng m) : Msg ρ F).ofSession
| .handleEngineUpEvent result => beginsSession result
| .proc _ => false

theorem asks_of_not_session
    {m : Msg ρ F}
    (hOther : m.ofSession = false)
    (i : Intent) :
    m.asks i = i := by
  cases m with
  | eng m =>
      cases m with
      | eng m => cases m <;> first | rfl | cases hOther
      | _ => rfl
  | setUlpProxy ulp => rfl

theorem foldl_of_not_session
    {msgs : List (Msg ρ F)}
    (hOther : ∀ m ∈ msgs, m.ofSession = false)
    (i : Intent) :
    msgs.foldl Msg.asks i = i := by
  induction msgs with
  | nil => rfl
  | cons m msgs ih =>
      rw [List.foldl_cons,
        asks_of_not_session (hOther m List.mem_cons_self)]
      exact ih (fun n hn => hOther n (List.mem_cons_of_mem _ hn))

theorem Serves.asks
    {v i : Intent}
    (hServes : Serves v i)
    (m : Msg ρ F) :
    Serves (m.asks v) (m.asks i) := by
  cases hSession : m.ofSession with
  | false =>
      rw [asks_of_not_session hSession,
        asks_of_not_session hSession]
      exact hServes
  | true =>
      cases m with
      | eng m =>
          cases m with
          | eng m =>
              cases m with
              | startFix result => exact ⟨rfl, hServes.posMode⟩
              | stopFix result => exact ⟨rfl, hServes.posMode⟩
              | positionMode p =>
                  refine ⟨hServes.fix, ?_⟩
                  intro q hq
                  cases hq
                  rfl
              | _ => cases hSession
          | _ => cases hSession
      | setUlpProxy ulp => cases hSession

theorem Serves.foldl
    {v i : Intent}
    (hServes : Serves v i)
    (msgs : List (Msg ρ F)) :
    Serves (msgs.foldl Msg.asks v) (msgs.foldl Msg.asks i) := by
  induction msgs generalizing v i with
  | nil => exact hServes
  | cons m msgs ih => exact ih (hServes.asks m)

/- Two views that differ in the mode at most. -/
structure Alike (v w : Intent) : Prop where
  fix : v.fix = w.fix
  posMode :
    v.posMode.map LocPosMode.withoutMode =
      w.posMode.map LocPosMode.withoutMode

theorem Alike.asks
    {v w : Intent}
    (hAlike : Alike v w)
    (m : Msg ρ F) :
    Alike (m.asks v) (m.asks w) := by
  cases hSession : m.ofSession with
  | false =>
      rw [asks_of_not_session hSession,
        asks_of_not_session hSession]
      exact hAlike
  | true =>
      cases m with
      | eng m =>
          cases m with
          | eng m =>
              cases m with
              | startFix result => exact ⟨rfl, hAlike.posMode⟩
              | stopFix result => exact ⟨rfl, hAlike.posMode⟩
              | positionMode p => exact ⟨hAlike.fix, rfl⟩
              | _ => cases hSession
          | _ => cases hSession
      | setUlpProxy ulp => cases hSession

theorem Alike.foldl
    {v w : Intent}
    (hAlike : Alike v w)
    (msgs : List (Msg ρ F)) :
    Alike (msgs.foldl Msg.asks v) (msgs.foldl Msg.asks w) := by
  induction msgs generalizing v w with
  | nil => exact hAlike
  | cons m msgs ih => exact ih (hAlike.asks m)

theorem Alike.serves
    {v w i : Intent}
    (hAlike : Alike v w)
    (hServes : Serves w i) :
    Serves v i where
  fix := hAlike.fix.trans hServes.fix
  posMode p hp := hAlike.posMode.trans (hServes.posMode p hp)

end Session

end Eng

end D2Common

------------------------------------------------------------
-- Proxies Keep What They Record
------------------------------------------------------------

namespace D2Common

namespace Eng

namespace Session

variable {ρ ν F : Type}

/- What one proxy has recorded, the next one has. -/
theorem Records.setUlpProxy
    {mUlp : UlpProxyBase}
    {i : Intent}
    (hRecords : Records mUlp i)
    {ulp : UlpPointer}
    (hSteady :
      (Msg.setUlpProxy ulp : Msg ρ F).steady = true) :
    ∀ h ∈ setUlpProxy mUlp ulp, Records (h.done mUlp) i := by
  have hHandOver
      {new : UlpProxyBase}
      (hNew : new.mFixSet = false) :
      Records (handOver mUlp new) i := by
    constructor
    · rw [handOver_mFixSet, hNew, Bool.or_false]
      exact hRecords.fix
    · intro p hp
      rcases hRecords.posMode p hp with ⟨hSame, hMode⟩
      refine ⟨?_, hMode⟩
      rw [handOver_mPosMode, hSame, if_neg hMode]
  intro h hMem
  cases ulp with
  | mUlp => cases hMem
  | null =>
      cases hMem
      exact hHandOver rfl
  | other ulp =>
      cases hMem
      apply hHandOver
      simpa [Msg.steady] using hSteady

/-
  The proxy in use has recorded what is asked for, and the
  one that is to come will have when the hand-over is done.
-/
structure Current
    (s : State ρ ν)
    (i : Intent) : Prop where
  records : Records s.mUlp i
  handing : ∀ h ∈ s.handing, Records (h.done s.mUlp) i

variable {s : State ρ ν}
variable {i : Intent}

theorem current_of_none
    (hRecords : Records s.mUlp i)
    (hNone : s.handing = none) :
    Current s i := by
  refine ⟨hRecords, ?_⟩
  intro h hMem
  rw [hNone] at hMem
  cases hMem

theorem Current.goOn
    (hCurrent : Current s i) :
    Current s.goOn i := by
  unfold State.goOn
  split
  · exact hCurrent
  · next ulp hHanding =>
      have hDone :=
        hCurrent.handing ⟨ulp, false⟩ hHanding
      refine ⟨hCurrent.records, ?_⟩
      intro h hMem
      cases hMem
      exact hDone
  · next ulp hHanding =>
      exact
        current_of_none (hCurrent.handing _ hHanding) rfl

theorem Current.settled
    (hCurrent : Current s i) :
    Current s.settled i := by
  unfold State.settled
  split
  · exact hCurrent
  · next h hHanding =>
      exact
        current_of_none (hCurrent.handing h hHanding) rfl

/- A hand-over is begun, when the last one is done. -/
theorem Current.setUlpProxy
    (hCurrent : Current s i)
    {ulp : UlpPointer}
    (hSteady :
      (Msg.setUlpProxy ulp : Msg ρ F).steady = true) :
    Current
      { s with handing := Eng.setUlpProxy s.mUlp ulp } i :=
  ⟨hCurrent.records, hCurrent.records.setUlpProxy hSteady⟩

@[simp] theorem eng_goOn
    (s : State ρ ν) :
    s.goOn.eng = s.eng := by
  unfold State.goOn
  split <;> rfl

@[simp] theorem eng_settled
    (s : State ρ ν) :
    s.settled.eng = s.eng := by
  unfold State.settled
  split <;> rfl

end Session

end Eng

end D2Common

------------------------------------------------------------
-- The Engine Serves What Its Messages Ask For
------------------------------------------------------------

namespace D2Common

namespace Eng

variable {ρ ν F : Type}

/- Functions that leave the adapter as it is. -/
theorem adapter_updateAidingData
    (d : LocEngData ρ ν) :
    (updateAidingData (F := F) d).1.adapter = d.adapter := by
  unfold updateAidingData
  split <;> rfl

theorem adapter_reportStatus
    (status : GpsStatusValue)
    (a : LocEngAdapter)
    (d : LocEngData ρ ν) :
    (reportStatus (F := F) status a d).1.adapter =
      d.adapter := by
  unfold reportStatus
  dsimp only [Done.andThen, keepStatus]
  split <;> rfl

theorem adapter_reportSv
    (P : Platform ν F)
    (svStatus : Bytes)
    (d : LocEngData ρ ν) :
    (reportSv P svStatus d).1.adapter = d.adapter := by
  unfold reportSv
  split
  · rfl
  · dsimp only [Done.andThen]
    split <;> rfl

/- A report ends no session that is not a single shot. -/
theorem adapter_reportPosition
    (P : Platform ν F)
    (r : PositionReport)
    {a : LocEngAdapter}
    (hPeriodic : a.mFixCriteria.recurrence ≠ recurrenceSingle)
    (d : LocEngData ρ ν) :
    (reportPosition P r a d).1.adapter = d.adapter := by
  have hNoEnd (reported : Bool) (d : LocEngData ρ ν) :
      endSingleShot (F := F) r a reported d = (d, []) := by
    unfold endSingleShot
    simp [hPeriodic]
  unfold reportPosition
  split
  · rfl
  · dsimp only [Done.andThen]
    rw [hNoEnd]
    split <;> rfl

namespace Session

/- An adapter whose session is periodic, and serves a view. -/
structure Shows
    (adapter : Option LocEngAdapter)
    (v : Intent) : Prop where
  exists_adapter :
    ∃ a, adapter = some a ∧
      a.mFixCriteria.recurrence ≠ recurrenceSingle ∧
        a.mNavigating = v.fix ∧
          v.posMode.map LocPosMode.withoutMode =
            some a.mFixCriteria.withoutMode

variable {d : LocEngData ρ ν}
variable {a : LocEngAdapter}

theorem shows_view
    (hAdapter : d.adapter = some a)
    (hPeriodic :
      a.mFixCriteria.recurrence ≠ recurrenceSingle) :
    Shows d.adapter (view d) := by
  refine ⟨a, hAdapter, hPeriodic, ?_, ?_⟩
  · rw [view, hAdapter]
  · rw [view, hAdapter]
    rfl

theorem Shows.alike
    {v : Intent}
    (hShows : Shows d.adapter v) :
    Alike (view d) v := by
  rcases hShows.exists_adapter with
    ⟨a, hAdapter, -, hFix, hPosMode⟩
  constructor
  · rw [view, hAdapter]
    exact hFix
  · rw [view, hAdapter, hPosMode]
    rfl

/-
  A fix that is started leaves a session, whether there was
  one before or not.
-/
theorem shows_startFix
    (hPeriodic :
      a.mFixCriteria.recurrence ≠ recurrenceSingle)
    {result : ApiErr}
    (hBegins : beginsSession result = true)
    (hAdapter : d.adapter = some a) :
    Shows (startHandler (F := F) result a d).1.adapter
      { view d with fix := true } := by
  unfold startHandler
  have hView :
      (view d).posMode = some a.mFixCriteria := by
    rw [view, hAdapter]
  simp only [hBegins, if_true]
  split
  · next hSession =>
      exact ⟨a, hAdapter, hPeriodic, hSession, by rw [hView]; rfl⟩
  · exact ⟨_, rfl, hPeriodic, rfl, by rw [hView]; rfl⟩

theorem shows_stopFix
    (hPeriodic :
      a.mFixCriteria.recurrence ≠ recurrenceSingle)
    (result : ApiErr)
    (hAdapter : d.adapter = some a) :
    Shows (stopHandler (F := F) result a d).1.adapter
      { view d with fix := false } := by
  unfold stopHandler
  have hView :
      (view d).posMode = some a.mFixCriteria := by
    rw [view, hAdapter]
  split
  · exact ⟨_, rfl, hPeriodic, rfl, by rw [hView]; rfl⟩
  · next hSession =>
      exact
        ⟨a, hAdapter, hPeriodic,
          Bool.eq_false_iff.mpr hSession, by rw [hView]; rfl⟩

/- A restart of the modem starts the session that there is. -/
theorem shows_engineUp
    (hPeriodic :
      a.mFixCriteria.recurrence ≠ recurrenceSingle)
    (P : Platform ν F)
    {result : ApiErr}
    (hBegins : beginsSession result = true)
    (hAdapter : d.adapter = some a) :
    Shows (handleEngineUp P result a d).1.adapter (view d) := by
  unfold handleEngineUp
  dsimp only [Done.andThen]
  have hStatus :=
    adapter_reportStatus (F := F) .engineOn a d
  by_cases hSession : a.mNavigating = true
  · rw [adapter_restartSession hSession hBegins]
    refine ⟨_, rfl, hPeriodic, ?_, ?_⟩
    · rw [view, hAdapter]
      exact hSession.symm
    · rw [view, hAdapter]
      rfl
  · unfold restartSession
    rw [if_neg hSession, hStatus]
    exact shows_view hAdapter hPeriodic

/- One message of the engine. -/
theorem shows_proc
    (P : Platform ν F)
    (evtMask : LocApiBase.EventMask)
    (hPeriodic :
      a.mFixCriteria.recurrence ≠ recurrenceSingle)
    (hAdapter : d.adapter = some a)
    {m : Eng.Msg ρ F}
    (hSteady : (Msg.eng m).steady = true) :
    Shows (m.proc P evtMask d).1.adapter
      ((Msg.eng m).asks (view d)) := by
  have hSame := shows_view hAdapter hPeriodic
  cases m with
  | eng m =>
      change Shows (step P d m.input).1.adapter _
      cases m with
      | delAidData f =>
          simp only [EngMsg.input, step, withAdapter, hAdapter,
            adapter_updateAidingData]
          exact hAdapter ▸ hSame
      | positionMode posMode =>
          simp only [EngMsg.input, step, withAdapter, hAdapter]
          refine ⟨_, rfl, ?_, ?_, rfl⟩
          · simpa [Msg.steady, LocEngAdapter.setPositionMode]
              using hSteady
          · simp [Msg.asks, view, hAdapter,
              LocEngAdapter.setPositionMode]
      | startFix result =>
          simp only [EngMsg.input, step, withAdapter, hAdapter]
          exact shows_startFix hPeriodic hSteady hAdapter
      | stopFix result =>
          simp only [EngMsg.input, step, withAdapter, hAdapter]
          exact shows_stopFix hPeriodic result hAdapter
      | reportPosition r =>
          simp only [EngMsg.input, step, withAdapter, hAdapter,
            adapter_reportPosition P r hPeriodic]
          exact hAdapter ▸ hSame
      | reportSv svStatus =>
          simp only [EngMsg.input, step, withAdapter, hAdapter,
            adapter_reportSv]
          exact hAdapter ▸ hSame
      | reportStatus status =>
          simp only [EngMsg.input, step, withAdapter, hAdapter,
            Done.andThen, adapter_updateAidingData,
            adapter_reportStatus]
          exact hAdapter ▸ hSame
      | reportNmea nmea =>
          simp only [EngMsg.input, step, withAdapter, hAdapter]
          exact hSame
      | requestNi notif passThrough created =>
          simp only [EngMsg.input, step, withAdapter, hAdapter]
          exact hSame
      | engineDown =>
          simp only [EngMsg.input, step, withAdapter, hAdapter,
            handleEngineDown, Done.andThen,
            adapter_reportStatus]
          exact hSame
  | engineUp result =>
      simp only [Eng.Msg.proc, step, withAdapter, hAdapter]
      exact shows_engineUp hPeriodic P hSteady hAdapter
  | adapter m => cases m <;> exact hSame
  | ssr => exact hSame

end Session

end Eng

end D2Common

------------------------------------------------------------
-- The Messages Of One Call
------------------------------------------------------------

namespace D2Common

namespace Eng

namespace Session

variable {ρ ν F : Type}

/- A message that the engine sends to itself. -/
def Msg.ofEngine (m : Msg ρ F) : Prop :=
  ∃ x, m = .eng (.adapter x)

theorem Msg.ofEngine.steady
    {m : Msg ρ F}
    (hEngine : m.ofEngine) :
    m.steady = true := by
  rcases hEngine with ⟨x, rfl⟩
  rfl

theorem Msg.ofEngine.not_session
    {m : Msg ρ F}
    (hEngine : m.ofEngine) :
    m.ofSession = false := by
  rcases hEngine with ⟨x, rfl⟩
  rfl

theorem ofEngine_effects
    (out : List (Effect ρ F)) :
    ∀ m ∈
        ((out.map Eng.Said.effect).map Said.eng).filterMap
          Said.msg,
      m.ofEngine := by
  intro m hMem
  rw [List.map_map, List.filterMap_map] at hMem
  rcases List.mem_filterMap.mp hMem with ⟨f, -, hMsg⟩
  cases f with
  | sendMsg x =>
      cases hMsg
      exact ⟨x, rfl⟩
  | _ => cases hMsg

/- `proc` queues nothing but messages of the engine. -/
theorem ofEngine_proc
    (P : Platform ν F)
    (evtMask : LocApiBase.EventMask)
    (d : LocEngData ρ ν)
    (m : Eng.Msg ρ F) :
    ∀ n ∈
        ((m.proc P evtMask d).2.map Said.eng).filterMap
          Said.msg,
      n.ofEngine := by
  have hConfig (l : List (ConfigCall F)) :
      ∀ n ∈
          ((l.map (Eng.Said.config (ρ := ρ))).map
            Said.eng).filterMap Said.msg,
        n.ofEngine := by
    intro n hMem
    rw [List.map_map, List.filterMap_map] at hMem
    rcases List.mem_filterMap.mp hMem with ⟨c, -, hMsg⟩
    cases hMsg
  cases m with
  | eng m => exact ofEngine_effects _
  | engineUp result => exact ofEngine_effects _
  | adapter m =>
      cases m with
      | init =>
          intro n hMem
          simp only [Eng.Msg.proc, List.map_map,
            List.filterMap_map] at hMem
          rcases List.mem_filterMap.mp hMem with ⟨x, -, hMsg⟩
          cases hMsg
          exact ⟨x, rfl⟩
      | _ => exact hConfig _
  | ssr =>
      intro n hMem
      cases hMem

/- A direct call makes the adapter, or leaves it alone. -/
theorem adapter_direct
    (P : Platform ν F)
    (d : LocEngData ρ ν)
    (c : HalCall ρ) :
    (step P d c.input).1.adapter = d.adapter ∨
      d.adapter = none ∧
        (step P d c.input).1.adapter = some .new := by
  cases c with
  | init callbacks setCapabilities nmea1Hz =>
      cases hAdapter : d.adapter with
      | none =>
          right
          simp only [HalCall.input, step, locEngInit, hAdapter,
            and_self]
      | some a =>
          left
          simp only [HalCall.input, step, locEngInit, hAdapter]
  | agpsInit callbacks =>
      left
      simp only [HalCall.input, step, agpsInit]
      split
      · split <;> rfl
      · rfl
  | setServerProxy type hostname port =>
      left
      simp only [HalCall.input, step, setServerProxy]
      split
      · rfl
      · split <;> rfl
  | updateNetworkAvailability available apn =>
      left
      have hSame :
          (updateNetworkAvailability (F := F) d available
            apn).1.adapter =
            d.adapter := by
        unfold updateNetworkAvailability
        dsimp only
        split <;> rfl
      exact hSame
  | niInit => exact Or.inl rfl
  | niRespond notif_id user_response => exact Or.inl rfl
  | niThread t turn => exact Or.inl rfl

/-
  What a call does when there is an adapter: the session
  stays, its messages are steady and ask for what the call
  asks for, those of other threads ask for nothing, and the
  proxy records it, unless it comes during a hand-over.
-/
structure Regular
    (standaloneOnly asker : Bool)
    (s : State ρ ν)
    (c : Call ρ F)
    (r : State ρ ν × List (Said ρ F)) : Prop where
  adapter : r.1.eng.adapter = s.eng.adapter
  steady :
    ∀ m ∈ r.2.filterMap Said.msg, m.steady = true
  others :
    asker = false →
      ∀ m ∈ r.2.filterMap Said.msg, m.ofSession = false
  asks :
    ∀ i,
      (r.2.filterMap Said.msg).foldl Msg.asks i =
        c.asks standaloneOnly s.eng i
  current :
    (c.requests = true → s.handing = none) →
      ∀ i, Current s i →
        Current r.1 (c.asks standaloneOnly s.eng i)

variable {standaloneOnly : Bool}

/- A call with messages that ask for nothing. -/
theorem regular_of_quiet
    {s : State ρ ν}
    {c : Call ρ F}
    {r : State ρ ν × List (Said ρ F)}
    (hAdapter : r.1.eng.adapter = s.eng.adapter)
    (hCurrent : ∀ i, Current s i → Current r.1 i)
    (hQuiet :
      ∀ m ∈ r.2.filterMap Said.msg,
        m.steady = true ∧ m.ofSession = false)
    (hAsks : ∀ i, c.asks standaloneOnly s.eng i = i)
    (asker : Bool) :
    Regular standaloneOnly asker s c r where
  adapter := hAdapter
  steady m hMem := (hQuiet m hMem).1
  others _ m hMem := (hQuiet m hMem).2
  asks i := by
    rw [hAsks,
      foldl_of_not_session fun m hMem => (hQuiet m hMem).2]
  current _ i hBefore := by
    rw [hAsks]
    exact hCurrent i hBefore

/-
  A request for the session, which the proxy takes up, and
  with it messages of the engine's own.
-/
theorem regular_asked
    (standaloneOnly : Bool)
    (s : State ρ ν)
    {c : Call ρ F}
    (hRequests : c.requests = true)
    (m : EngMsg ρ)
    (hAsks :
      ∀ i,
        (Msg.eng (.eng m) : Msg ρ F).asks i =
          c.asks standaloneOnly s.eng i)
    (ulp : UlpProxyBase)
    (hSteady : (Msg.eng (.eng m) : Msg ρ F).steady = true)
    (hTakes :
      ∀ i, Records s.mUlp i →
        Records ulp ((Msg.eng (.eng m) : Msg ρ F).asks i))
    (more : List (Said ρ F))
    (hMore : ∀ m ∈ more.filterMap Said.msg, m.ofEngine) :
    Regular standaloneOnly true s c
      ((asked (F := F) s (false, ulp) m).1,
        (asked s (false, ulp) m).2 ++ more) := by
  have hMsgs :
      ((asked s (false, ulp) m).2 ++ more).filterMap
          Said.msg =
        .eng (.eng m) :: more.filterMap Said.msg := rfl
  refine ⟨rfl, ?_, ?_, ?_, ?_⟩
  · intro n hMem
    rw [hMsgs] at hMem
    rcases List.mem_cons.mp hMem with rfl | hMem
    · exact hSteady
    · exact (hMore n hMem).steady
  · intro hOther
    cases hOther
  · intro i
    rw [hMsgs, List.foldl_cons,
      foldl_of_not_session
        fun m hMem => (hMore m hMem).not_session]
    exact hAsks i
  · intro hNone i hCurrent
    rw [← hAsks]
    exact
      current_of_none (hTakes i hCurrent.records)
        (hNone hRequests)

theorem regular_stop
    (standaloneOnly : Bool)
    (s : State ρ ν)
    {c : Call ρ F}
    (hRequests : c.requests = true)
    (hAsks :
      ∀ i : Intent,
        { i with fix := false } =
          c.asks standaloneOnly s.eng i)
    (result : ApiErr)
    (more : List (Said ρ F))
    (hMore : ∀ m ∈ more.filterMap Said.msg, m.ofEngine) :
    Regular standaloneOnly true s c
      ((stop (F := F) s result).1,
        (stop s result).2 ++ more) :=
  regular_asked standaloneOnly s hRequests
    (.stopFix result) hAsks s.mUlp.sendStopFix.2 rfl
    (fun _ hRecords => ⟨rfl, hRecords.posMode⟩) more hMore

/- The criteria that reach the engine are those asked for. -/
theorem engPosMode_eq
    (standaloneOnly : Bool)
    (mode recurrence min_interval : UInt32)
    (preferred_accuracy preferred_time : UInt32) :
    engPosMode standaloneOnly
        (.construct (locMode mode) recurrence min_interval
          preferred_accuracy preferred_time) =
      criteria standaloneOnly mode recurrence min_interval
        preferred_accuracy preferred_time := by
  unfold engPosMode locMode LocPosMode.construct criteria
    minPossibleFixInterval
  cases standaloneOnly <;> by_cases hBased : mode = 1 <;>
    by_cases hAssisted : mode = 2 <;>
    simp [hBased, hAssisted]

theorem criteria_mode_ne_invalid
    (standaloneOnly : Bool)
    (mode recurrence min_interval : UInt32)
    (preferred_accuracy preferred_time : UInt32) :
    (criteria standaloneOnly mode recurrence min_interval
        preferred_accuracy preferred_time).mode ≠
      .invalid := by
  simp only [criteria]
  split
  · simp
  · split
    · simp
    · split <;> simp

theorem regular_setPositionMode
    (s : State ρ ν)
    {c : Call ρ F}
    (hRequests : c.requests = true)
    {p : LocPosMode}
    (hAsks :
      ∀ i : Intent,
        { i with posMode := some p } =
          c.asks standaloneOnly s.eng i)
    (hRecurrence : (p.recurrence != recurrenceSingle) = true)
    (hMode : p.mode ≠ .invalid) :
    Regular standaloneOnly true s c
      (asked (F := F) s (s.mUlp.sendFixMode p)
        (.positionMode p)) := by
  have hAsked :=
    regular_asked (F := F) standaloneOnly s hRequests
      (.positionMode p) hAsks (s.mUlp.sendFixMode p).2
      hRecurrence
      (fun _ hRecords =>
        ⟨hRecords.fix, fun q hq => by
          cases hq
          exact ⟨rfl, hMode⟩⟩)
      [] (by simp)
  rw [List.append_nil] at hAsked
  exact hAsked

theorem regular_called
    (P : Platform ν F)
    (evtMask : LocApiBase.EventMask)
    (standaloneOnly : Bool)
    {s : State ρ ν}
    {a : LocEngAdapter}
    (hAdapter : s.eng.adapter = some a)
    {asker : Bool}
    {c : Call ρ F}
    (hRegular : c.regular asker = true) :
    Regular standaloneOnly asker s c
      (called P evtMask standaloneOnly s c) := by
  have hSome : s.eng.adapter.isSome = true := by
    rw [hAdapter]
    rfl
  cases c with
  | locStart result =>
      rw [Call.regular, Bool.and_eq_true] at hRegular
      rcases hRegular with ⟨rfl, hSteady⟩
      simp only [called, if_pos hSome]
      have hAsked :=
        regular_asked (F := F) standaloneOnly s
          (c := .locStart result) rfl (.startFix result)
          (fun i => by
            simp only [Call.asks, if_pos hSome]
            rfl)
          s.mUlp.sendStartFix.2 hSteady
          (fun _ hRecords => ⟨rfl, hRecords.posMode⟩) []
          (by simp)
      rw [List.append_nil] at hAsked
      exact hAsked
  | locStop result =>
      cases hRegular
      simp only [called, if_pos hSome]
      have hOnly :=
        regular_stop (F := F) standaloneOnly s
          (c := .locStop result) rfl
          (fun i => by simp only [Call.asks, if_pos hSome])
          result [] (by simp)
      rw [List.append_nil] at hOnly
      exact hOnly
  | locSetPositionMode mode recurrence min_interval
      preferred_accuracy preferred_time =>
      rw [Call.regular, Bool.and_eq_true] at hRegular
      rcases hRegular with ⟨rfl, hRecurrence⟩
      simp only [called, if_pos hSome, engPosMode_eq]
      refine
        regular_setPositionMode s rfl ?_ hRecurrence
          (criteria_mode_ne_invalid _ _ _ _ _ _)
      intro i
      simp only [Call.asks, if_pos hSome]
  | locCleanup result =>
      cases hRegular
      simp only [called, hAdapter]
      split
      · next hNavigating =>
          apply regular_stop standaloneOnly s rfl
          · intro i
            simp [Call.asks, hAdapter, hNavigating]
          · intro m hMem
            rw [List.mem_singleton.mp hMem]
            exact ⟨_, rfl⟩
      · next hNavigating =>
          refine regular_of_quiet ?_ ?_ ?_ ?_ true
          · rfl
          · exact fun _ hBefore => hBefore
          · intro m hMem
            rw [List.mem_singleton.mp hMem]
            exact ⟨rfl, rfl⟩
          · intro i
            simp [Call.asks, hAdapter, hNavigating]
  | setUlpProxy ulp =>
      simp only [called, if_pos hSome]
      refine regular_of_quiet ?_ ?_ ?_ ?_ asker
      · rfl
      · exact fun _ hBefore => hBefore
      · intro m hMem
        rw [List.mem_singleton.mp hMem]
        exact ⟨hRegular, rfl⟩
      · exact fun _ => rfl
  | goOn =>
      refine regular_of_quiet ?_ ?_ ?_ ?_ asker
      · simp [called]
      · exact fun _ hBefore => hBefore.goOn
      · simp [called]
      · exact fun _ => rfl
  | direct c =>
      simp only [called, if_pos hSome]
      refine regular_of_quiet ?_ ?_ ?_ ?_ asker
      · rcases adapter_direct P s.eng c with hSame | ⟨hNone, -⟩
        · exact hSame
        · rw [hAdapter] at hNone
          cases hNone
      · exact fun _ hBefore => ⟨hBefore.1, hBefore.2⟩
      · intro m hMem
        have hEngine := ofEngine_effects _ m hMem
        exact ⟨hEngine.steady, hEngine.not_session⟩
      · exact fun _ => rfl
  | post m =>
      have hQuiet :
          (Msg.eng (.eng m) : Msg ρ F).ofSession = false := by
        simpa [Call.regular] using hRegular
      refine regular_of_quiet ?_ ?_ ?_ ?_ asker
      · rfl
      · exact fun _ hBefore => ⟨hBefore.1, hBefore.2⟩
      · intro n hMem
        simp only [called, onEngine, Eng.called,
          if_pos hSome] at hMem
        rw [List.mem_singleton.mp hMem]
        refine ⟨?_, hQuiet⟩
        cases m <;> first | rfl | cases hQuiet
      · exact fun _ => rfl
  | handleEngineUpEvent result =>
      refine regular_of_quiet ?_ ?_ ?_ ?_ asker
      · rfl
      · exact fun _ hBefore => ⟨hBefore.1, hBefore.2⟩
      · intro n hMem
        simp only [called, onEngine, Eng.called,
          if_pos hSome] at hMem
        rcases List.mem_cons.mp hMem with rfl | hMem
        · exact ⟨rfl, rfl⟩
        · rw [List.mem_singleton.mp hMem]
          exact ⟨hRegular, rfl⟩
      · exact fun _ => rfl
  | proc m => cases hRegular

end Session

end Eng

end D2Common
