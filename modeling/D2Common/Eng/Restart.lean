import D2Common.Eng.Engine

/-
  A navigating session when the modem comes up again.

  The engine sends the criteria of the fix once more, ends
  the session at the adapter and starts it with the ordinary
  handler. Ending a session wipes the mode of the criteria,
  so that the handler starts a fix without a mode.

  Key definitions include:
    * `Resumes`

  Key theorems include:
    * `apiCalls_handleEngineUp`
    * `resumes_iff`
    * `session_resumes_iff`
-/

------------------------------------------------------------
-- Calls Into The API
------------------------------------------------------------

namespace D2Common

namespace Eng

variable {ρ ν F : Type}

/- The call into the location API that an output is. -/
def apiCall : Effect ρ F → Option ApiCall
| .api call => some call
| _ => none

/- The calls into the location API. -/
def apiCalls (out : List (Effect ρ F)) : List ApiCall :=
  out.filterMap apiCall

@[simp] theorem apiCalls_append
    (out out' : List (Effect ρ F)) :
    apiCalls (out ++ out') = apiCalls out ++ apiCalls out' :=
  List.filterMap_append

@[simp] theorem apiCalls_andThen
    (x : Done ρ ν F)
    (f : LocEngData ρ ν → Done ρ ν F) :
    apiCalls (x.andThen f).2 =
      apiCalls x.2 ++ apiCalls (f x.1).2 :=
  apiCalls_append _ _

@[simp] theorem apiCalls_sendMsg
    (msgs : List (AdapterMsg F)) :
    apiCalls (msgs.map (Effect.sendMsg (ρ := ρ))) = [] := by
  apply List.filterMap_eq_nil_iff.mpr
  intro f hf
  rcases List.mem_map.mp hf with ⟨msg, -, rfl⟩
  rfl

@[simp] theorem apiCalls_informGpsStatus
    (d : LocEngData ρ ν)
    (status : GpsStatusValue) :
    apiCalls (informGpsStatus (F := F) d status).2 = [] := by
  unfold informGpsStatus
  cases d.callbacks.status_cb <;> rfl

@[simp] theorem apiCalls_reportStatus
    (status : GpsStatusValue)
    (a : LocEngAdapter)
    (d : LocEngData ρ ν) :
    apiCalls (reportStatus (F := F) status a d).2 = [] := by
  unfold reportStatus
  dsimp only
  rw [apiCalls_andThen]
  split
  · rw [apiCalls_informGpsStatus]
    rfl
  · rfl

/-
  What a restart asks of the API: the criteria are sent with
  their mode, and the fix is started without.
-/
theorem apiCalls_restartSession
    {result : ApiErr}
    {a : LocEngAdapter}
    (hSession : a.mNavigating = true)
    (d : LocEngData ρ ν) :
    apiCalls (restartSession (F := F) result a d).2 =
      [.setPositionMode a.mFixCriteria,
        .setInSession false,
        .startFix a.invalidated.mFixCriteria] ++
      (if beginsSession result then [.setInSession true]
      else []) := by
  unfold restartSession
  rw [if_pos hSession]
  dsimp only
  rw [apiCalls_andThen]
  unfold startHandler
  rw [if_neg (by simp [LocEngAdapter.setPositionMode,
    LocEngAdapter.setInSession, LocEngAdapter.invalidated])]
  rw [apiCalls_andThen]
  cases hBegins : beginsSession result with
  | true =>
      simp only [if_true]
      rw [apiCalls_andThen, apiCalls_informGpsStatus]
      rfl
  | false => rfl

/- The adapter after a session has been started again. -/
theorem adapter_restartSession
    {result : ApiErr}
    {a : LocEngAdapter}
    (hSession : a.mNavigating = true)
    (hBegins : beginsSession result = true)
    (d : LocEngData ρ ν) :
    (restartSession (F := F) result a d).1.adapter =
      some { a.invalidated with mNavigating := true } := by
  unfold restartSession
  rw [if_pos hSession]
  simp [Done.andThen, startHandler, hBegins, setInSession,
    informGpsStatus, LocEngAdapter.setPositionMode,
    LocEngAdapter.setInSession, LocEngAdapter.invalidated]

theorem apiCalls_handleEngineUp
    (P : Platform ν F)
    {result : ApiErr}
    {a : LocEngAdapter}
    (hSession : a.mNavigating = true)
    (d : LocEngData ρ ν) :
    apiCalls (handleEngineUp P result a d).2 =
      [.setPositionMode a.mFixCriteria,
        .setInSession false,
        .startFix a.invalidated.mFixCriteria] ++
      (if beginsSession result then [.setInSession true]
      else []) := by
  unfold handleEngineUp
  rw [apiCalls_andThen, apiCalls_andThen,
    apiCalls_sendMsg, apiCalls_reportStatus,
    apiCalls_restartSession hSession]
  rfl

end Eng

end D2Common

------------------------------------------------------------
-- Resuming A Session
------------------------------------------------------------

namespace D2Common

namespace Eng

variable {ρ ν F : Type}

/- The criteria that `setPositionMode` is called with. -/
def positionModes
    (out : List (Effect ρ F)) : List LocPosMode :=
  (apiCalls out).filterMap fun call =>
    match call with
    | .setPositionMode posMode => some posMode
    | _ => none

/- The criteria that fixes are started with. -/
def startedFixes
    (out : List (Effect ρ F)) : List LocPosMode :=
  (apiCalls out).filterMap fun call =>
    match call with
    | .startFix posMode => some posMode
    | _ => none

/-
  A session resumes with criteria `c`: they are passed on
  once each, and if the fix starts, the adapter is in
  session with them.
-/
def Resumes
    (c : LocPosMode)
    (result : ApiErr)
    (x : Done ρ ν F) : Prop :=
  positionModes x.2 = [c] ∧ startedFixes x.2 = [c] ∧
    (result = .success →
      ∃ a, x.1.adapter = some a ∧ a.mNavigating = true ∧
        a.mFixCriteria = c)

theorem invalidated_eq_iff
    (a : LocEngAdapter) :
    a.invalidated.mFixCriteria = a.mFixCriteria ↔
      a.mFixCriteria.mode = .invalid := by
  constructor
  · intro hSame
    rw [← hSame]
    rfl
  · intro hMode
    rcases a with ⟨⟨mode, r, i, p, t, cr, pr⟩, navigating⟩
    cases hMode
    rfl

theorem resumes_iff
    (P : Platform ν F)
    {a : LocEngAdapter}
    (hSession : a.mNavigating = true)
    (result : ApiErr)
    (d : LocEngData ρ ν) :
    Resumes a.mFixCriteria result
        (handleEngineUp P result a d) ↔
      a.mFixCriteria.mode = .invalid := by
  have hModes :
      positionModes (handleEngineUp P result a d).2 =
        [a.mFixCriteria] := by
    unfold positionModes
    rw [apiCalls_handleEngineUp P hSession]
    cases beginsSession result <;> rfl
  have hFixes :
      startedFixes (handleEngineUp P result a d).2 =
        [a.invalidated.mFixCriteria] := by
    unfold startedFixes
    rw [apiCalls_handleEngineUp P hSession]
    cases beginsSession result <;> rfl
  rw [← invalidated_eq_iff a]
  constructor
  · rintro ⟨-, hStarted, -⟩
    rw [hFixes] at hStarted
    simpa using hStarted
  · intro hSame
    refine ⟨hModes, by rw [hFixes, hSame], ?_⟩
    intro hSuccess
    subst hSuccess
    refine ⟨{ a.invalidated with mNavigating := true }, ?_,
      rfl, hSame⟩
    unfold handleEngineUp
    exact adapter_restartSession hSession rfl _

/-
  From every state that a run reaches in session: the
  session resumes with its criteria if and only if these
  have no mode.
-/
theorem session_resumes_iff
    (P : Platform ν F)
    (is : List (Input ρ))
    (a : LocEngAdapter)
    (hAdapter : ((system P).run is).adapter = some a)
    (hSession : a.mNavigating = true)
    (result : ApiErr) :
    Resumes a.mFixCriteria result
        (step P ((system P).run is) (.engineUp result)) ↔
      a.mFixCriteria.mode = .invalid := by
  unfold step withAdapter
  rw [hAdapter]
  exact resumes_iff P hSession result _

/- A session with the given criteria. -/
def navigating (mode : LocPositionMode) :
    List (Input Unit) :=
  [.init ⟨true, true, true, true⟩ false false,
    .positionMode ⟨mode, 0, 1000, 50, 0, [], []⟩,
    .startFix .success]

/- The adapter in such a session. -/
def navigatingAdapter
    (mode : LocPositionMode) : LocEngAdapter :=
  ⟨⟨mode, 0, 1000, 50, 0, [], []⟩, true⟩

theorem session_resumes_iff_navigating :
    Resumes (navigatingAdapter .msBased).mFixCriteria .success
        (step barePlatform
          ((system barePlatform).run (navigating .msBased))
          (.engineUp .success)) ↔
      (navigatingAdapter .msBased).mFixCriteria.mode =
        .invalid :=
  session_resumes_iff barePlatform (navigating .msBased)
    (navigatingAdapter .msBased) (by decide) rfl .success

theorem msBased_session_not_resumed :
    ((system barePlatform).run
        (navigating .msBased)).adapter =
        some (navigatingAdapter .msBased) ∧
      (navigatingAdapter .msBased).mNavigating = true ∧
      ¬ Resumes (navigatingAdapter .msBased).mFixCriteria
          .success
          (step barePlatform
            ((system barePlatform).run (navigating .msBased))
            (.engineUp .success)) := by
  refine ⟨by decide, rfl, ?_⟩
  rintro ⟨-, hStarted, -⟩
  exact absurd hStarted (by decide)

end Eng

end D2Common
