import D2Common.Eng.Engine

/-
  Rules for the functions of the engine.

  What is said of a record and of all that a function has
  done to it and put out often follows from the same rules:
  doing nothing keeps it, one part after another keeps it,
  and so does each small part. Here the functions for
  sessions and for reports are gone through once, for
  everything that obeys the rules.

  Key definitions include:
    * `SessionRules`
    * `ReportRules`

  Key theorems include:
    * `SessionRules.restartSession`
    * `SessionRules.step`
    * `ReportRules.reportPosition`
    * `ReportRules.step`
-/

------------------------------------------------------------
-- Sessions
------------------------------------------------------------

namespace D2Common

namespace Eng

variable {ρ ν F : Type}

/-
  The inputs that set up, start and stop sessions, and those
  of the network-initiated module.
-/
def Input.ofSession : Input ρ → Bool
| .positionMode _ => true
| .startFix _ => true
| .stopFix _ => true
| .niInit => true
| .requestNi _ _ _ => true
| .niRespond _ _ => true
| .niThread _ _ => true
| _ => false

/- The three kinds of reports that bear a position. -/
def Input.bearsPosition : Input ρ → Bool
| .reportPosition _ => true
| .reportSv _ => true
| .reportNmea _ => true
| _ => false

/- Whether a call deletes aiding data. -/
def ApiCall.deletes : ApiCall → Bool
| .deleteAidingData _ => true
| _ => false

/-
  The parts of sessions: statuses that are reported, calls
  into the location API, and changes of the adapter.
-/
structure SessionRules
    (R : LocEngData ρ ν → Done ρ ν F → Prop) : Prop where
  refl : ∀ d, R d (d, [])
  andThen :
    ∀ {d x f},
      R d x → (∀ d', R d' (f d')) → R d (x.andThen f)
  status_cb : ∀ d status, R d (d, [.status_cb status])
  session :
    ∀ (d : LocEngData ρ ν) (adapter : Option LocEngAdapter)
      (calls : List ApiCall),
      adapter.isSome = true ∨ adapter = d.adapter →
        (∀ call ∈ calls, call.deletes = false) →
          R d ({ d with adapter := adapter }, calls.map .api)

variable {R : LocEngData ρ ν → Done ρ ν F → Prop}

namespace SessionRules

/- A call into the location API. -/
theorem api
    (hR : SessionRules R)
    (d : LocEngData ρ ν)
    {call : ApiCall}
    (hCall : call.deletes = false) :
    R d (d, [.api call]) := by
  apply hR.session d d.adapter [call] (Or.inr rfl)
  simpa using hCall

theorem informGpsStatus
    (hR : SessionRules R)
    (d : LocEngData ρ ν)
    (status : GpsStatusValue) :
    R d (informGpsStatus d status) := by
  unfold Eng.informGpsStatus
  split
  · exact hR.status_cb d status
  · exact hR.refl d

theorem setInSession
    (hR : SessionRules R)
    (a : LocEngAdapter)
    (inSession : Bool)
    (d : LocEngData ρ ν) :
    R d (setInSession a inSession d) := by
  apply hR.session d (some (a.setInSession inSession).1)
    [(a.setInSession inSession).2] (Or.inl rfl)
  simp [LocEngAdapter.setInSession, ApiCall.deletes]

theorem startHandler
    (hR : SessionRules R)
    (result : ApiErr)
    (a : LocEngAdapter)
    (d : LocEngData ρ ν) :
    R d (startHandler result a d) := by
  unfold Eng.startHandler
  split
  · exact hR.refl d
  · apply hR.andThen
    · exact hR.api d rfl
    · intro d
      split
      · apply hR.andThen
        · exact hR.setInSession a true d
        · intro d
          exact hR.informGpsStatus d .sessionBegin
      · exact hR.refl d

theorem stopHandler
    (hR : SessionRules R)
    (result : ApiErr)
    (a : LocEngAdapter)
    (d : LocEngData ρ ν) :
    R d (stopHandler result a d) := by
  unfold Eng.stopHandler
  split
  · apply hR.andThen
    · exact hR.api d rfl
    · intro d
      apply hR.andThen
      · split
        · exact hR.informGpsStatus d .sessionEnd
        · exact hR.refl d
      · exact hR.setInSession a false
  · exact hR.refl d

theorem restartSession
    (hR : SessionRules R)
    (result : ApiErr)
    (a : LocEngAdapter)
    (d : LocEngData ρ ν) :
    R d (restartSession result a d) := by
  unfold Eng.restartSession
  split
  · apply hR.andThen
    · apply hR.session d (some _) [_, _] (Or.inl rfl)
      simp [LocEngAdapter.setPositionMode,
        LocEngAdapter.setInSession, ApiCall.deletes]
    · exact hR.startHandler result _
  · exact hR.refl d

theorem withAdapter
    (hR : SessionRules R)
    {d : LocEngData ρ ν}
    {f : LocEngAdapter → LocEngData ρ ν → Done ρ ν F}
    (hf : ∀ a, R d (f a d)) :
    R d (withAdapter d f) := by
  unfold Eng.withAdapter
  split
  · exact hf _
  · exact hR.refl d

theorem step
    (hR : SessionRules R)
    (hNi : ∀ i d, R d (niStep i d))
    (P : Platform ν F)
    (d : LocEngData ρ ν)
    {i : Input ρ}
    (hSession : i.ofSession = true) :
    R d (step P d i) := by
  cases i with
  | positionMode posMode =>
      apply hR.withAdapter
      intro a
      apply hR.session d (some _) [_] (Or.inl rfl)
      simp [LocEngAdapter.setPositionMode, ApiCall.deletes]
  | startFix result =>
      apply hR.withAdapter
      intro a
      exact hR.startHandler result a d
  | stopFix result =>
      apply hR.withAdapter
      intro a
      exact hR.stopHandler result a d
  | niInit => exact hNi .init d
  | requestNi notif passThrough created =>
      apply hR.withAdapter
      intro a
      exact hNi (.request notif passThrough created) d
  | niRespond notif_id user_response =>
      exact hNi (.respond notif_id user_response) d
  | niThread t turn => exact hNi (.thread t turn) d
  | _ => contradiction

end SessionRules

end Eng

end D2Common

------------------------------------------------------------
-- Reports
------------------------------------------------------------

namespace D2Common

namespace Eng

variable {ρ ν F : Type}

/- The parts of reports are these and three callbacks. -/
structure ReportRules
    (R : LocEngData ρ ν → Done ρ ν F → Prop) : Prop
    extends SessionRules R where
  location_cb :
    ∀ d location, R d (d, [.location_cb location])
  sv_status_cb :
    ∀ d svStatus, R d (d, [.sv_status_cb svStatus])
  nmea_cb :
    ∀ (d : LocEngData ρ ν) (nmea : ν)
      (sentences : List Bytes),
      R d ({ d with nmea := nmea }, sentences.map .nmea_cb)

variable {R : LocEngData ρ ν → Done ρ ν F → Prop}

namespace ReportRules

theorem sendNmea
    (hR : ReportRules R)
    (d : LocEngData ρ ν)
    (x : List Bytes × ν) :
    R d (sendNmea d x) := by
  unfold Eng.sendNmea
  split
  · exact hR.nmea_cb d x.2 x.1
  · exact hR.nmea_cb d x.2 []

theorem reportPosition
    (hR : ReportRules R)
    (P : Platform ν F)
    (r : PositionReport)
    (a : LocEngAdapter)
    (d : LocEngData ρ ν) :
    R d (reportPosition P r a d) := by
  unfold Eng.reportPosition
  split
  · exact hR.refl d
  · apply hR.andThen
    · apply hR.andThen
      · cases locationCall P d r with
        | none => exact hR.refl d
        | some location => exact hR.location_cb d location
      · intro d
        unfold endSingleShot
        split
        · apply hR.andThen
          · split
            · exact hR.api d rfl
            · exact hR.refl d
          · exact hR.setInSession a false
        · exact hR.refl d
    · intro d
      split
      · exact hR.sendNmea d _
      · exact hR.refl d

theorem reportSv
    (hR : ReportRules R)
    (P : Platform ν F)
    (svStatus : Bytes)
    (d : LocEngData ρ ν) :
    R d (reportSv P svStatus d) := by
  unfold Eng.reportSv
  split
  · exact hR.refl d
  · apply hR.andThen
    · split
      · exact hR.sv_status_cb d svStatus
      · exact hR.refl d
    · intro d
      split
      · exact hR.sendNmea d _
      · exact hR.refl d

theorem reportNmea
    (hR : ReportRules R)
    (nmea : Bytes)
    (d : LocEngData ρ ν) :
    R d (reportNmea nmea d) := by
  unfold Eng.reportNmea
  split
  · exact hR.nmea_cb d d.nmea [nmea]
  · exact hR.refl d

theorem step
    (hR : ReportRules R)
    (P : Platform ν F)
    (d : LocEngData ρ ν)
    {i : Input ρ}
    (hReport : i.bearsPosition = true) :
    R d (step P d i) := by
  cases i with
  | reportPosition r =>
      apply hR.withAdapter
      intro a
      exact hR.reportPosition P r a d
  | reportSv svStatus =>
      apply hR.withAdapter
      intro a
      exact hR.reportSv P svStatus d
  | reportNmea nmea =>
      apply hR.withAdapter
      intro a
      exact hR.reportNmea nmea d
  | _ => contradiction

end ReportRules

end Eng

end D2Common
