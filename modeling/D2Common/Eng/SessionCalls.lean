import D2Common.Eng.Rules
import D2Common.Foundations.Monitor

/-
  What is seen of sessions from outside.

  The location API sees the calls that set criteria, start
  and stop fixes and tell it of sessions, the framework sees
  the statuses. A monitor that sees both says in which order
  they come: a fix is started outside of a session only, with
  the criteria that were set last, which have no mode any
  more when a session has ended since. A session begins
  directly after its fix has been started, and ends directly
  after its fix has been stopped, or without.

  Key definitions include:
    * `Sign`
    * `sessionCalls`
    * `Goes`

  Key theorems include:
    * `watched_startHandler`
    * `watched_step`
    * `session_calls_in_order`
-/

------------------------------------------------------------
-- The Order Of Calls
------------------------------------------------------------

namespace D2Common

namespace Eng

variable {ρ ν F : Type}

/- What is seen: calls into the API, and statuses. -/
inductive Sign where
  | setPositionMode (posMode : LocPosMode)
  | startFix (posMode : LocPosMode)
  | stopFix
  | setInSession (inSession : Bool)
  | status (status : GpsStatusValue)
deriving DecidableEq

/- What is seen of an output. -/
def sign : Effect ρ F → Option Sign
| .api (.setPositionMode posMode) =>
    some (.setPositionMode posMode)
| .api (.startFix posMode) => some (.startFix posMode)
| .api .stopFix => some .stopFix
| .api (.setInSession inSession) =>
    some (.setInSession inSession)
| .status_cb status => some (.status status)
| _ => none

/-
  Where the calls have got to. A fix that has been started
  may or may not become a session with the next call.
-/
inductive Phase where
  | idle
  | started
  | inSession
  | stopped
deriving DecidableEq

/- After a call that is not the one that begins a session. -/
def Phase.calm : Phase → Phase
| .started => .idle
| phase => phase

/- What has been seen so far, and the criteria it left. -/
structure Seen where
  phase : Phase
  posMode : LocPosMode
deriving DecidableEq

/- A status that may be told in a phase. -/
def Phase.tells : Phase → GpsStatusValue → Bool
| _, .none => false
| phase, .sessionBegin => phase == .inSession
| phase, .sessionEnd => phase != .inSession
| phase, _ => phase != .stopped

/- What may be seen next. -/
def Seen.next (m : Seen) : Sign → Option Seen
| .setPositionMode posMode =>
    if m.phase = .stopped then none
    else some ⟨m.phase.calm, posMode⟩
| .startFix posMode =>
    if (m.phase = .idle ∨ m.phase = .started) ∧
        posMode = m.posMode then
      some { m with phase := .started }
    else none
| .setInSession true =>
    if m.phase = .started then
      some { m with phase := .inSession }
    else none
| .setInSession false =>
    some ⟨.idle, { m.posMode with mode := .invalid }⟩
| .stopFix =>
    if m.phase = .stopped then none
    else some { m with phase := .stopped }
| .status status =>
    if m.phase.tells status then
      some { m with phase := m.phase.calm }
    else none

/- The order, from an adapter that is new. -/
def sessionCalls : Monitor Seen Sign where
  init := ⟨.idle, LocEngAdapter.new.mFixCriteria⟩
  next := Seen.next

/- The adapter, or the one that there will be. -/
def LocEngData.theAdapter (d : LocEngData ρ ν) : LocEngAdapter :=
  d.adapter.getD .new

/- What has been seen goes with an adapter. -/
structure LocEngAdapter.Goes
    (a : LocEngAdapter)
    (m : Seen) : Prop where
  posMode : m.posMode = a.mFixCriteria
  inSession :
    a.mNavigating = true → m.phase = .inSession
  outside :
    a.mNavigating = false →
      m.phase = .idle ∨ m.phase = .started

/- A function, as it is watched. -/
abbrev Watched
    (d : LocEngData ρ ν)
    (x : Done ρ ν F) : Prop :=
  sessionCalls.Watches sign
    (fun d m => d.theAdapter.Goes m) d x

end Eng

end D2Common

------------------------------------------------------------
-- The Functions For Sessions
------------------------------------------------------------

namespace D2Common

namespace Eng

variable {ρ ν F : Type}
variable {d : LocEngData ρ ν}
variable {a : LocEngAdapter}
variable {m : Seen}

/- A status leaves what goes with an adapter as it was. -/
theorem LocEngAdapter.Goes.calm
    (hGoes : a.Goes m) :
    a.Goes { m with phase := m.phase.calm } := by
  refine ⟨hGoes.posMode, ?_, ?_⟩
  · intro hSession
    rw [hGoes.inSession hSession]
    rfl
  · intro hSession
    rcases hGoes.outside hSession with hPhase | hPhase <;>
      rw [hPhase] <;> exact Or.inl rfl

theorem LocEngAdapter.Goes.not_stopped
    (hGoes : a.Goes m) :
    m.phase ≠ .stopped := by
  intro hStopped
  cases hSession : a.mNavigating with
  | true =>
      rw [hGoes.inSession hSession] at hStopped
      cases hStopped
  | false =>
      rcases hGoes.outside hSession with hPhase | hPhase <;>
        rw [hPhase] at hStopped <;> cases hStopped

theorem watched_andThen
    {x : Done ρ ν F}
    {f : LocEngData ρ ν → Done ρ ν F}
    (hFirst : Watched d x)
    (hNext : Watched x.1 (f x.1)) :
    Watched d (x.andThen f) :=
  Monitor.Watches.append hFirst hNext

/- What touches neither the adapter nor what is seen. -/
theorem watched_of_silent
    {x : Done ρ ν F}
    (hSilent : x.2.filterMap sign = [])
    (hSame : x.1.adapter = d.adapter) :
    Watched d x := by
  apply Monitor.watches_of_silent hSilent
  intro m hGoes
  unfold LocEngData.theAdapter at hGoes ⊢
  rw [hSame]
  exact hGoes

/- A status that the phase tells. -/
theorem watched_informGpsStatus
    (d : LocEngData ρ ν)
    {status : GpsStatusValue}
    (hTells :
      ∀ m, d.theAdapter.Goes m → m.phase.tells status = true) :
    Watched d (informGpsStatus (F := F) d status) := by
  unfold informGpsStatus
  intro m hGoes
  cases d.callbacks.status_cb with
  | false => exact ⟨m, rfl, hGoes⟩
  | true =>
      refine ⟨_, ?_, hGoes.calm⟩
      change sessionCalls.reads m [Sign.status status] = _
      apply Monitor.reads_cons
      simp only [sessionCalls, Seen.next,
        hTells m hGoes, if_true]

/- Only the adapter of a record matters. -/
theorem Watched.of_adapter
    {d' : LocEngData ρ ν}
    {x : Done ρ ν F}
    (hWatched : Watched d' x)
    (hSame : d.adapter = d'.adapter) :
    Watched d x := by
  intro m hGoes
  apply hWatched m
  unfold LocEngData.theAdapter at hGoes ⊢
  rw [← hSame]
  exact hGoes

theorem theAdapter_eq
    (hAdapter : d.adapter = some a) :
    d.theAdapter = a := by
  rw [LocEngData.theAdapter, hAdapter]
  rfl

/- A status may be told whenever the adapter is as it is. -/
theorem tells_of_reportable
    {status : GpsStatusValue}
    (hReportable : reportable status a.mNavigating = true)
    (hGoes : a.Goes m) :
    m.phase.tells status = true := by
  cases hSession : a.mNavigating with
  | true =>
      rw [hSession] at hReportable
      rw [hGoes.inSession hSession]
      cases status <;>
        first | rfl | exact absurd hReportable (by decide)
  | false =>
      rw [hSession] at hReportable
      rcases hGoes.outside hSession with hPhase | hPhase <;>
        rw [hPhase] <;> cases status <;>
          first | rfl | exact absurd hReportable (by decide)

theorem watched_reportStatus
    (status : GpsStatusValue)
    (hAdapter : d.adapter = some a) :
    Watched d (reportStatus (F := F) status a d) := by
  unfold reportStatus
  apply watched_andThen
  · dsimp only
    split
    · next hTold =>
        rw [Bool.and_eq_true] at hTold
        refine
          (watched_informGpsStatus _ fun m hGoes => ?_)
            |>.of_adapter rfl
        apply tells_of_reportable hTold.1
        rw [← theAdapter_eq hAdapter]
        exact hGoes
    · exact watched_of_silent rfl rfl
  · exact watched_of_silent rfl rfl

/- A session that begins, after its fix has been started. -/
theorem reads_sessionBegin
    (a : LocEngAdapter)
    (d : LocEngData ρ ν)
    {m : Seen}
    (hStarted : m.phase = .started)
    (hPosMode : m.posMode = a.mFixCriteria) :
    let x :=
      (setInSession (F := F) a true d).andThen
        (informGpsStatus · .sessionBegin)
    ∃ m',
      sessionCalls.reads m (x.2.filterMap sign) = some m' ∧
        x.1.theAdapter.Goes m' := by
  have hBegins :
      sessionCalls.reads m [Sign.setInSession true] =
        some { m with phase := .inSession } := by
    apply Monitor.reads_cons
    simp only [sessionCalls, Seen.next, hStarted, if_true]
  have hTold :
      Watched (setInSession (F := F) a true d).1
        (informGpsStatus (F := F)
          (setInSession (F := F) a true d).1
          .sessionBegin) :=
    watched_informGpsStatus _ fun m hGoes => by
      rw [hGoes.inSession rfl]
      rfl
  rcases hTold { m with phase := .inSession }
      ⟨hPosMode, fun _ => rfl, fun hNo => by cases hNo⟩ with
    ⟨m', hReads, hGoes⟩
  refine ⟨m', ?_, hGoes⟩
  dsimp only [Done.andThen]
  rw [List.filterMap_append]
  exact (Monitor.reads_append hBegins _).trans hReads

theorem watched_startHandler
    (result : ApiErr)
    (hAdapter : d.adapter = some a) :
    Watched d (startHandler (F := F) result a d) := by
  unfold startHandler
  by_cases hSession : a.mNavigating = true
  · rw [if_pos hSession]
    exact watched_of_silent rfl rfl
  rw [if_neg hSession]
  rw [Bool.not_eq_true] at hSession
  intro m hGoes
  rw [theAdapter_eq hAdapter] at hGoes
  have hStarts :
      sessionCalls.reads m [Sign.startFix a.mFixCriteria] =
        some { m with phase := .started } := by
    apply Monitor.reads_cons
    have hHere :
        (m.phase = .idle ∨ m.phase = .started) ∧
          a.mFixCriteria = m.posMode :=
      ⟨hGoes.outside hSession, hGoes.posMode.symm⟩
    simp only [sessionCalls, Seen.next, if_pos hHere]
  cases hBegins : beginsSession result with
  | true =>
      rcases reads_sessionBegin (F := F) a d
          (m := { m with phase := .started }) rfl
          hGoes.posMode with
        ⟨m', hReads, hGoes'⟩
      refine ⟨m', ?_, hGoes'⟩
      dsimp only [Done.andThen, if_true] at hReads ⊢
      rw [List.filterMap_append]
      exact (Monitor.reads_append hStarts _).trans hReads
  | false =>
      refine ⟨_, hStarts, ?_⟩
      change d.theAdapter.Goes _
      rw [theAdapter_eq hAdapter]
      refine ⟨hGoes.posMode, ?_, fun _ => Or.inr rfl⟩
      intro hYes
      rw [hSession] at hYes
      cases hYes

/- A session that ends, wherever the calls have got to. -/
theorem reads_sessionEnd
    (d : LocEngData ρ ν)
    (hPosMode : m.posMode = a.mFixCriteria) :
    let x := setInSession (F := F) a false d
    ∃ m',
      sessionCalls.reads m (x.2.filterMap sign) = some m' ∧
        x.1.theAdapter.Goes m' := by
  refine
    ⟨⟨.idle, { m.posMode with mode := .invalid }⟩, rfl,
      ?_, ?_, fun _ => Or.inl rfl⟩
  · rw [hPosMode]
    rfl
  · intro hYes
    cases hYes

theorem watched_stopHandler
    (result : ApiErr)
    (hAdapter : d.adapter = some a) :
    Watched d (stopHandler (F := F) result a d) := by
  unfold stopHandler
  by_cases hSession : a.mNavigating = true
  · rw [if_pos hSession]
    intro m hGoes
    rw [theAdapter_eq hAdapter] at hGoes
    let m₁ : Seen := { m with phase := .stopped }
    have hStops :
        sessionCalls.reads m [Sign.stopFix] = some m₁ := by
      apply Monitor.reads_cons
      simp only [sessionCalls, Seen.next,
        if_neg hGoes.not_stopped, m₁]
    have hTold (told : Done ρ ν F)
        (hSign :
          told.2.filterMap sign = [] ∨
            told.2.filterMap sign = [.status .sessionEnd]) :
        sessionCalls.reads m₁ (told.2.filterMap sign) =
          some m₁ := by
      rcases hSign with hSign | hSign <;> rw [hSign] <;> rfl
    have hEnds :
        (if result = .success then
            informGpsStatus (F := F) d .sessionEnd
          else (d, [])).2.filterMap sign =
            [] ∨
          (if result = .success then
            informGpsStatus (F := F) d .sessionEnd
          else (d, [])).2.filterMap sign =
            [.status .sessionEnd] := by
      unfold informGpsStatus
      split
      · cases d.callbacks.status_cb with
        | false => exact Or.inl rfl
        | true => exact Or.inr rfl
      · exact Or.inl rfl
    rcases reads_sessionEnd (F := F) (m := m₁)
        (if result = .success then
          informGpsStatus (F := F) d .sessionEnd
        else (d, [])).1 hGoes.posMode with
      ⟨m', hReads, hGoes'⟩
    refine ⟨m', ?_, hGoes'⟩
    dsimp only [Done.andThen]
    rw [List.filterMap_append, List.filterMap_append]
    refine (Monitor.reads_append hStops _).trans ?_
    exact
      (Monitor.reads_append (hTold _ hEnds) _).trans hReads
  · rw [if_neg hSession]
    exact watched_of_silent rfl rfl

/- A session that is started again is ended before. -/
theorem watched_restartSession
    (result : ApiErr)
    (hAdapter : d.adapter = some a) :
    Watched d (restartSession (F := F) result a d) := by
  unfold restartSession
  by_cases hSession : a.mNavigating = true
  · rw [if_pos hSession]
    apply watched_andThen
    · intro m hGoes
      rw [theAdapter_eq hAdapter] at hGoes
      have hPhase := hGoes.inSession hSession
      refine
        ⟨⟨.idle, { a.mFixCriteria with mode := .invalid }⟩,
          ?_, rfl, ?_, fun _ => Or.inl rfl⟩
      · have hSets :
            sessionCalls.next m
                (.setPositionMode a.mFixCriteria) =
              some ⟨.inSession, a.mFixCriteria⟩ := by
          simp only [sessionCalls, Seen.next, hPhase]
          rfl
        exact Monitor.reads_cons hSets _
      · intro hYes
        cases hYes
    · exact watched_startHandler result rfl
  · rw [if_neg hSession]
    exact watched_of_silent rfl rfl

end Eng

end D2Common

------------------------------------------------------------
-- All Other Functions
------------------------------------------------------------

namespace D2Common

namespace Eng

variable {ρ ν F : Type}
variable {d : LocEngData ρ ν}
variable {a : LocEngAdapter}

/- Outputs of a kind that is not seen. -/
theorem silent_map
    {α : Type}
    {f : α → Effect ρ F}
    (hSilent : ∀ x, sign (f x) = none)
    (l : List α) :
    (l.map f).filterMap sign = [] := by
  rw [List.filterMap_map, List.filterMap_eq_nil_iff]
  exact fun x _ => hSilent x

theorem watched_refl
    (d : LocEngData ρ ν) :
    Watched (F := F) d (d, []) :=
  watched_of_silent rfl rfl

/- A single shot, whether its session had ended or not. -/
theorem watched_endSingleShot
    (r : PositionReport)
    (reported : Bool)
    (hAdapter : d.adapter = some a) :
    Watched d (endSingleShot (F := F) r a reported d) := by
  unfold endSingleShot
  split
  · intro m hGoes
    rw [theAdapter_eq hAdapter] at hGoes
    have hStops :
        ∃ m₁,
          sessionCalls.reads m
              ((if r.mStatus = .intermediate
                then [Effect.api (ρ := ρ) (F := F) .stopFix]
                else []).filterMap sign) =
            some m₁ ∧
          m₁.posMode = m.posMode := by
      split
      · refine ⟨{ m with phase := .stopped }, ?_, rfl⟩
        apply Monitor.reads_cons
        simp only [sessionCalls, Seen.next,
          if_neg hGoes.not_stopped]
      · exact ⟨m, rfl, rfl⟩
    rcases hStops with ⟨m₁, hReads, hSame⟩
    rcases reads_sessionEnd (F := F) d
        (hSame.trans hGoes.posMode) with
      ⟨m', hReads', hGoes'⟩
    refine ⟨m', ?_, hGoes'⟩
    dsimp only [Done.andThen]
    rw [List.filterMap_append]
    exact (Monitor.reads_append hReads _).trans hReads'
  · exact watched_refl d

theorem watched_sendNmea
    (d : LocEngData ρ ν)
    (x : List Bytes × ν) :
    Watched (F := F) d (sendNmea d x) := by
  apply watched_of_silent
  · unfold sendNmea
    dsimp only
    split
    · exact silent_map (fun _ => rfl) _
    · rfl
  · rfl

theorem watched_reportPosition
    (P : Platform ν F)
    (r : PositionReport)
    (hAdapter : d.adapter = some a) :
    Watched d (reportPosition P r a d) := by
  unfold reportPosition
  split
  · exact watched_refl d
  · apply watched_andThen
    · apply watched_andThen
      · apply watched_of_silent
        · cases locationCall P d r <;> rfl
        · rfl
      · exact watched_endSingleShot r _ hAdapter
    · split
      · exact watched_sendNmea _ _
      · exact watched_refl _

theorem watched_reportSv
    (P : Platform ν F)
    (svStatus : Bytes)
    (d : LocEngData ρ ν) :
    Watched d (reportSv P svStatus d) := by
  unfold reportSv
  split
  · exact watched_refl d
  · apply watched_andThen
    · apply watched_of_silent
      · dsimp only
        split <;> rfl
      · rfl
    · dsimp only
      split
      · exact watched_sendNmea _ _
      · exact watched_refl _

theorem watched_updateAidingData
    (d : LocEngData ρ ν) :
    Watched (F := F) d (updateAidingData d) := by
  unfold updateAidingData
  split
  · exact watched_of_silent rfl rfl
  · exact watched_refl d

theorem watched_niStep
    (i : Ni.Input ρ)
    (d : LocEngData ρ ν) :
    Watched (F := F) d (niStep i d) :=
  watched_of_silent (silent_map (fun _ => rfl) _) rfl

theorem watched_handleEngineUp
    (P : Platform ν F)
    (result : ApiErr)
    (hAdapter : d.adapter = some a) :
    Watched d (handleEngineUp P result a d) := by
  have hStatus :
      (reportStatus (F := F) .engineOn a d).1.adapter =
        some a := by
    rw [← hAdapter]
    unfold reportStatus
    dsimp only [Done.andThen, keepStatus]
    split <;> rfl
  unfold handleEngineUp
  apply watched_andThen
  · apply watched_andThen
    · exact
        watched_of_silent (silent_map (fun _ => rfl) _) rfl
    · exact watched_reportStatus .engineOn hAdapter
  · exact watched_restartSession result hStatus

theorem watched_withAdapter
    {f : LocEngAdapter → LocEngData ρ ν → Done ρ ν F}
    (hWatched :
      ∀ a, d.adapter = some a → Watched d (f a d)) :
    Watched d (withAdapter d f) := by
  unfold withAdapter
  cases hAdapter : d.adapter with
  | none => exact watched_refl d
  | some a => exact hWatched a hAdapter

end Eng

end D2Common

------------------------------------------------------------
-- Every Run
------------------------------------------------------------

namespace D2Common

namespace Eng

variable {ρ ν F : Type}

/- The adapter is made as the order expects it. -/
theorem watched_locEngInit
    (P : Platform ν F)
    (d : LocEngData ρ ν)
    (callbacks : Callbacks)
    (setCapabilities nmea1Hz : Bool) :
    Watched d
      (locEngInit (F := F) P d callbacks setCapabilities
        nmea1Hz) := by
  unfold locEngInit
  cases hAdapter : d.adapter with
  | some a => exact watched_of_silent rfl rfl
  | none =>
      apply Monitor.watches_of_silent
      · cases setCapabilities <;> rfl
      · intro m hGoes
        unfold LocEngData.theAdapter at hGoes
        rw [hAdapter] at hGoes
        exact hGoes

theorem watched_agpsInit
    (P : Platform ν F)
    (d : LocEngData ρ ν)
    (callbacks : Option Bool) :
    Watched d (agpsInit P d callbacks) := by
  unfold agpsInit
  split
  · split
    · apply watched_of_silent
      · dsimp only
        rw [List.filterMap_append,
          silent_map (fun _ => rfl), List.append_nil]
        split <;> rfl
      · rfl
    · exact watched_of_silent rfl rfl
  · exact watched_refl d

theorem watched_setServerProxy
    (P : Platform ν F)
    (d : LocEngData ρ ν)
    (type : LocServerType)
    (hostname : CString)
    (port : BitVec 32) :
    Watched d (setServerProxy P d type hostname port) := by
  unfold setServerProxy
  split
  · exact watched_of_silent (silent_map (fun _ => rfl) _) rfl
  · split
    · exact watched_of_silent rfl rfl
    · exact watched_of_silent rfl rfl
    · exact watched_refl d

theorem watched_updateNetworkAvailability
    (d : LocEngData ρ ν)
    (available : Bool)
    (apn : Option CString) :
    Watched d
      (updateNetworkAvailability (F := F) d available apn) := by
  unfold updateNetworkAvailability
  dsimp only
  split
  · exact watched_of_silent rfl rfl
  · exact watched_of_silent rfl rfl

/- New criteria, in a session or outside of it. -/
theorem watched_positionMode
    {d : LocEngData ρ ν}
    {a : LocEngAdapter}
    (posMode : LocPosMode)
    (hAdapter : d.adapter = some a) :
    let x := a.setPositionMode (some posMode)
    Watched (F := F) d
      ({ d with adapter := some x.1 }, [.api x.2]) := by
  intro x m hGoes
  rw [theAdapter_eq hAdapter] at hGoes
  refine ⟨⟨m.phase.calm, posMode⟩, ?_, rfl, ?_, ?_⟩
  · have hSets :
        sessionCalls.next m (.setPositionMode posMode) =
          some ⟨m.phase.calm, posMode⟩ := by
      simp only [sessionCalls, Seen.next,
        if_neg hGoes.not_stopped]
    exact Monitor.reads_cons hSets _
  · exact hGoes.calm.inSession
  · exact hGoes.calm.outside

theorem watched_step
    (P : Platform ν F)
    (d : LocEngData ρ ν)
    (i : Input ρ) :
    Watched d (step P d i) := by
  cases i with
  | init callbacks setCapabilities nmea1Hz =>
      exact
        watched_locEngInit P d callbacks setCapabilities
          nmea1Hz
  | agpsInit callbacks =>
      exact watched_agpsInit P d callbacks
  | setServerProxy type hostname port =>
      exact watched_setServerProxy P d type hostname port
  | updateNetworkAvailability available apn =>
      exact watched_updateNetworkAvailability d available apn
  | delAidData f =>
      apply watched_withAdapter
      intro a hAdapter
      exact (watched_updateAidingData _).of_adapter rfl
  | positionMode posMode =>
      apply watched_withAdapter
      intro a hAdapter
      exact watched_positionMode posMode hAdapter
  | startFix result =>
      apply watched_withAdapter
      intro a hAdapter
      exact watched_startHandler result hAdapter
  | stopFix result =>
      apply watched_withAdapter
      intro a hAdapter
      exact watched_stopHandler result hAdapter
  | reportPosition r =>
      apply watched_withAdapter
      intro a hAdapter
      exact watched_reportPosition P r hAdapter
  | reportSv svStatus =>
      apply watched_withAdapter
      intro a hAdapter
      exact watched_reportSv P svStatus d
  | reportStatus status =>
      apply watched_withAdapter
      intro a hAdapter
      exact
        watched_andThen (watched_reportStatus status hAdapter)
          (watched_updateAidingData _)
  | reportNmea nmea =>
      apply watched_withAdapter
      intro a hAdapter
      apply watched_of_silent
      · unfold reportNmea
        dsimp only
        split <;> rfl
      · rfl
  | niInit => exact watched_niStep .init d
  | requestNi notif passThrough created =>
      apply watched_withAdapter
      intro a hAdapter
      exact
        watched_niStep (.request notif passThrough created) d
  | niRespond notif_id user_response =>
      exact
        watched_niStep (.respond notif_id user_response) d
  | niThread t turn => exact watched_niStep (.thread t turn) d
  | engineDown =>
      apply watched_withAdapter
      intro a hAdapter
      exact
        watched_andThen (watched_niStep .reset d)
          (watched_reportStatus .engineOff hAdapter)
  | engineUp result =>
      apply watched_withAdapter
      intro a hAdapter
      exact watched_handleEngineUp P result hAdapter

/-
  In every run of the engine, whatever the framework and the
  modem do, and through all restarts of the modem: the calls
  for sessions and the statuses come in the order that the
  monitor allows, and it knows the criteria of the adapter
  and whether there is a session.
-/
theorem session_calls_in_order
    (P : Platform ν F)
    (is : List (Input ρ)) :
    ∃ m,
      sessionCalls.reads sessionCalls.init
          ((system P).saidFrom sign (system P).init is) =
        some m ∧
      ((system P).run is).theAdapter.Goes m := by
  have hInit :
      (LocEngData.zero (ρ := ρ) P.nmeaZero).theAdapter.Goes
        sessionCalls.init :=
    ⟨rfl, fun hYes => (by cases hYes), fun _ => Or.inl rfl⟩
  have hStep :
      ∀ d i, Watched d ((system P (ρ := ρ)).step d i) :=
    watched_step P
  exact
    Monitor.watches_run (M := sessionCalls) hInit hStep is

end Eng

end D2Common
