import D2Common.Eng.Rules

/-
  What the functions of the engine put out.

  A property of outputs that calls into the location API,
  statuses and the network-initiated module have obeys the
  rules of sessions. One that the callbacks of reports have
  as well obeys the rules of reports.

  Key definitions include:
    * `Only`
    * `Ordinary`

  Key theorems include:
    * `only_sessionRules`
    * `only_reportRules`
    * `only_step`
-/

------------------------------------------------------------
-- Properties Of All Outputs
------------------------------------------------------------

namespace D2Common

namespace Eng

variable {ρ ν F : Type}
variable {p : Effect ρ F → Prop}

/- One step of the engine. -/
abbrev Event (ρ ν F : Type) :=
  Transducer.Event (LocEngData ρ ν) (Input ρ) (Effect ρ F)

/- All outputs of a function have a property. -/
def Only
    (p : Effect ρ F → Prop)
    (x : Done ρ ν F) : Prop :=
  ∀ f ∈ x.2, p f

theorem only_nil
    (d : LocEngData ρ ν) :
    Only p (d, []) := by
  simp [Only]

theorem only_singleton
    (d : LocEngData ρ ν)
    {f : Effect ρ F}
    (hf : p f) :
    Only p (d, [f]) := by
  intro g hg
  rw [List.mem_singleton.mp hg]
  exact hf

theorem only_map
    {α : Type}
    {out : α → Effect ρ F}
    (d : LocEngData ρ ν)
    {l : List α}
    (hl : ∀ x ∈ l, p (out x)) :
    Only p (d, l.map out) := by
  intro f hf
  rcases List.mem_map.mp hf with ⟨x, hx, rfl⟩
  exact hl x hx

theorem only_andThen
    {x : Done ρ ν F}
    {f : LocEngData ρ ν → Done ρ ν F}
    (hx : Only p x)
    (hf : ∀ d, Only p (f d)) :
    Only p (x.andThen f) := by
  intro e he
  rcases List.mem_append.mp he with he | he
  · exact hx e he
  · exact hf x.1 e he

end Eng

end D2Common

------------------------------------------------------------
-- Sessions And Statuses
------------------------------------------------------------

namespace D2Common

namespace Eng

variable {ρ ν F : Type}

/-
  A property that all outputs have but messages and the
  callbacks of reports.
-/
structure Ordinary (p : Effect ρ F → Prop) : Prop where
  api : ∀ call, p (.api call)
  status_cb : ∀ status, p (.status_cb status)
  ni : ∀ f, p (.ni f)

variable {p : Effect ρ F → Prop}

theorem only_sessionRules
    (hp : Ordinary p) :
    SessionRules
      (fun _ x => Only p x :
        LocEngData ρ ν → Done ρ ν F → Prop) where
  refl := only_nil
  andThen := only_andThen
  status_cb d status := only_singleton d (hp.status_cb status)
  session _ _ _ _ _ := only_map _ (fun call _ => hp.api call)

/- The same with the callbacks of reports. -/
theorem only_reportRules
    (hp : Ordinary p)
    (hLocation : ∀ location, p (.location_cb location))
    (hSv : ∀ svStatus, p (.sv_status_cb svStatus))
    (hNmea : ∀ nmea, p (.nmea_cb nmea)) :
    ReportRules
      (fun _ x => Only p x :
        LocEngData ρ ν → Done ρ ν F → Prop) where
  toSessionRules := only_sessionRules hp
  location_cb d _ := only_singleton d (hLocation _)
  sv_status_cb d _ := only_singleton d (hSv _)
  nmea_cb _ _ _ :=
    only_map _ (fun sentence _ => hNmea sentence)

theorem only_updateAidingData
    (hp : Ordinary p)
    (d : LocEngData ρ ν) :
    Only p (updateAidingData d) := by
  unfold updateAidingData
  split
  · exact only_singleton _ (hp.api _)
  · exact only_nil d

theorem only_reportStatus
    (hp : Ordinary p)
    (status : GpsStatusValue)
    (a : LocEngAdapter)
    (d : LocEngData ρ ν) :
    Only p (reportStatus status a d) := by
  unfold reportStatus
  apply only_andThen
  · split
    · exact (only_sessionRules hp).informGpsStatus _ status
    · exact only_nil _
  · intro d
    exact only_nil _

theorem only_niStep
    (hp : Ordinary p)
    (i : Ni.Input ρ)
    (d : LocEngData ρ ν) :
    Only p (niStep i d) := by
  apply only_map
  intro f _
  exact hp.ni f

theorem only_handleEngineDown
    (hp : Ordinary p)
    (a : LocEngAdapter)
    (d : LocEngData ρ ν) :
    Only p (handleEngineDown a d) := by
  apply only_andThen
  · exact only_niStep hp .reset d
  · exact only_reportStatus hp .engineOff a

/-
  The inputs that call into the location API, report a
  status or concern the network-initiated module.
-/
def Input.ordinary : Input ρ → Bool
| .delAidData _ => true
| .reportStatus _ => true
| .engineDown => true
| i => i.ofSession

theorem only_step
    (hp : Ordinary p)
    (P : Platform ν F)
    (d : LocEngData ρ ν)
    {i : Input ρ}
    (hOrdinary : i.ordinary = true) :
    Only p (step P d i) := by
  have hRules := only_sessionRules (ρ := ρ) (ν := ν) hp
  cases i with
  | delAidData f =>
      apply hRules.withAdapter
      intro a
      exact only_updateAidingData hp _
  | reportStatus status =>
      apply hRules.withAdapter
      intro a
      apply only_andThen
      · exact only_reportStatus hp status a d
      · exact only_updateAidingData hp
  | engineDown =>
      apply hRules.withAdapter
      intro a
      exact only_handleEngineDown hp a d
  | _ => exact hRules.step (only_niStep hp) P d hOrdinary

end Eng

end D2Common
