import D2Common.Eng.Outputs

/-
  Muted sessions.

  While a session is muted the engine is to call none of the
  callbacks that bear a position. Every message tests the
  state of muting for itself, and the message with an NMEA
  sentence of the modem does not.

  Key definitions include:
    * `positionBearing`
    * `Quiet`
    * `NoModemNmea`

  Key theorems include:
    * `silent_step`
    * `quiet_iff`
    * `muted_sessions_quiet_iff`
-/

------------------------------------------------------------
-- Functions That Report No Position
------------------------------------------------------------

namespace D2Common

namespace Eng

variable {ρ ν F : Type}

/- Whether an output bears a position. -/
def positionBearing : Effect ρ F → Bool
| .location_cb _ => true
| .sv_status_cb _ => true
| .nmea_cb _ => true
| _ => false

/- No output of a function bears a position. -/
abbrev Silent (x : Done ρ ν F) : Prop :=
  Only (fun f => positionBearing f = false) x

theorem ordinary_silent :
    Ordinary
      (fun f : Effect ρ F => positionBearing f = false) where
  api _ := rfl
  status_cb _ := rfl
  ni _ := rfl

theorem silent_sendMsg
    (d : LocEngData ρ ν)
    (msgs : List (AdapterMsg F)) :
    Silent (d, msgs.map .sendMsg) := by
  apply only_map
  intro msg _
  rfl

theorem silent_handleEngineUp
    (P : Platform ν F)
    (result : ApiErr)
    (a : LocEngAdapter)
    (d : LocEngData ρ ν) :
    Silent (handleEngineUp P result a d) := by
  apply only_andThen
  · apply only_andThen
    · exact silent_sendMsg d _
    · exact only_reportStatus ordinary_silent .engineOn a
  · exact
      (only_sessionRules ordinary_silent).restartSession result a

theorem silent_locEngInit
    (P : Platform ν F)
    (d : LocEngData ρ ν)
    (callbacks : Callbacks)
    (setCapabilities nmea1Hz : Bool) :
    Silent
      (locEngInit P d callbacks setCapabilities nmea1Hz) := by
  unfold locEngInit
  cases d.adapter with
  | some a => exact only_singleton d rfl
  | none =>
      cases setCapabilities <;>
        simp [Only, positionBearing]

theorem silent_agpsInit
    (P : Platform ν F)
    (d : LocEngData ρ ν)
    (callbacks : Option Bool) :
    Silent (agpsInit P d callbacks) := by
  unfold agpsInit
  split
  · split
    · intro f hf
      rcases List.mem_append.mp hf with hf | hf
      · split at hf
        · rw [List.mem_singleton.mp hf]
          rfl
        · simp at hf
      · exact silent_sendMsg d _ f hf
    · exact only_nil _
  · exact only_nil d

theorem silent_setServerProxy
    (P : Platform ν F)
    (d : LocEngData ρ ν)
    (type : LocServerType)
    (hostname : CString)
    (port : BitVec 32) :
    Silent (setServerProxy P d type hostname port) := by
  unfold setServerProxy
  split
  · exact silent_sendMsg d _
  · split <;> exact only_nil _

theorem silent_updateNetworkAvailability
    (d : LocEngData ρ ν)
    (available : Bool)
    (apn : Option CString) :
    Silent
      (updateNetworkAvailability (F := F) d available apn) := by
  unfold updateNetworkAvailability
  cases d.adapter with
  | none => exact only_nil _
  | some a =>
      cases apn with
      | none => exact only_nil _
      | some apn => exact only_singleton _ rfl

end Eng

end D2Common

------------------------------------------------------------
-- Muted Runs
------------------------------------------------------------

namespace D2Common

namespace Eng

variable {ρ ν F : Type}

/- All other calls and messages report no position. -/
theorem silent_step
    (P : Platform ν F)
    (d : LocEngData ρ ν)
    {i : Input ρ}
    (hOther : i.bearsPosition = false) :
    Silent (step P d i) := by
  cases i with
  | init callbacks setCapabilities nmea1Hz =>
      exact silent_locEngInit P d callbacks setCapabilities
        nmea1Hz
  | agpsInit callbacks => exact silent_agpsInit P d callbacks
  | setServerProxy type hostname port =>
      exact silent_setServerProxy P d type hostname port
  | updateNetworkAvailability available apn =>
      exact silent_updateNetworkAvailability d available apn
  | reportPosition r => contradiction
  | reportSv svStatus => contradiction
  | reportNmea nmea => contradiction
  | engineUp result =>
      apply (only_sessionRules ordinary_silent).withAdapter
      intro a
      exact silent_handleEngineUp P result a d
  | _ => exact only_step ordinary_silent P d rfl

/-
  A muted session leaks nothing: in a step that begins while
  the session is muted, no position is reported.
-/
def Quiet (e : Event ρ ν F) : Prop :=
  e.before.mute_session_state = .inSession →
    ∀ f ∈ e.output, positionBearing f = false

/-
  The condition: no NMEA sentence of the modem is processed
  while the session is muted and the callback is set.
-/
def NoModemNmea (e : Event ρ ν F) : Prop :=
  e.before.mute_session_state = .inSession →
    e.before.callbacks.nmea_cb = true →
      e.before.adapter.isSome = true →
        ∀ nmea, e.input ≠ .reportNmea nmea

theorem quiet_iff
    (P : Platform ν F)
    (d : LocEngData ρ ν)
    (i : Input ρ) :
    Quiet ((system P).event d i) ↔
      NoModemNmea ((system P).event d i) := by
  constructor
  · intro hQuiet hMuted hCallback hAdapter nmea hInput
    have hi : i = .reportNmea nmea := hInput
    subst hi
    rcases Option.isSome_iff_exists.mp hAdapter with ⟨a, ha⟩
    have hAdapter' : d.adapter = some a := ha
    have hCallback' : d.callbacks.nmea_cb = true := hCallback
    have hOut :
        ((system P).event d (.reportNmea nmea)).output =
          [.nmea_cb nmea] := by
      simp [Transducer.event, system, step, withAdapter,
        hAdapter', reportNmea, hCallback']
    have hFalse := hQuiet hMuted (.nmea_cb nmea)
      (by simp [hOut])
    contradiction
  · intro hNone hMuted
    have hMuted' : d.mute_session_state = .inSession := hMuted
    by_cases hOther : i.bearsPosition = false
    · exact silent_step P d hOther
    · have hSilent : Silent (step P d i) := by
        cases i with
        | reportPosition r =>
            apply
              (only_sessionRules ordinary_silent).withAdapter
            intro a
            rw [reportPosition, if_pos hMuted']
            exact only_nil d
        | reportSv svStatus =>
            apply
              (only_sessionRules ordinary_silent).withAdapter
            intro a
            rw [reportSv, if_pos hMuted']
            exact only_nil d
        | reportNmea nmea =>
            unfold step withAdapter
            cases hAdapter : d.adapter with
            | none => exact only_nil d
            | some a =>
                have hNo : d.callbacks.nmea_cb = false := by
                  by_contra hYes
                  exact hNone hMuted
                    ((Bool.not_eq_false _).mp hYes)
                    (by simp [Transducer.event, hAdapter])
                    nmea rfl
                simp [reportNmea, hNo, Only]
        | _ => exact absurd rfl hOther
      exact hSilent

/-
  In every run muted sessions leak nothing if and only if no
  modem sentence arrives in one.
-/
theorem muted_sessions_quiet_iff
    (P : Platform ν F)
    (is : List (Input ρ)) :
    History.Along (fun _ e => Quiet e)
        ((system P).history is) ↔
      History.Along (fun _ e => NoModemNmea e)
        ((system P).history is) := by
  apply (system P).along_congr
    (A := fun _ => True) (I := fun _ _ => True) trivial
  · intro h d i _ _
    trivial
  · intro h d i _ _
    exact quiet_iff P d i
  · simp

/-
  A request with a privacy override mutes the session that
  begins when the engine is on; then a sentence arrives.
-/
def mutedNmea : List (Input Unit) :=
  [.init ⟨true, true, true, true⟩ false false,
    .niInit,
    .requestNi ⟨2, Ni.privacyOverride, 0⟩ (some ()) true,
    .reportStatus .engineOn,
    .reportNmea [36]]

theorem mutedNmea_not_quiet :
    ¬ History.Along (fun _ e => Quiet e)
        ((system barePlatform).history mutedNmea) := by
  intro hAlong
  rw [History.along_iff_take] at hAlong
  have hLast := hAlong 4 (by decide) (by decide)
  exact absurd (hLast (.nmea_cb [36]) (by decide)) (by decide)

end Eng

end D2Common
