import D2Common.Foundations.History

/-
  Deterministic state machines with outputs.

  A transducer starts in one state and answers every input
  with a new state and a list of outputs. Whatever the
  environment decides (an answer, a result code, the order
  of arrivals) is part of the input, so a theorem about all
  input lists is a theorem about all interleavings.

  Key definitions include:
    * `Transducer.run`
    * `Transducer.history`
    * `Transducer.transcript`

  Key theorems include:
    * `Transducer.run_induction`
    * `Transducer.history_induction`
    * `Transducer.forall_prefix_iff_along`
    * `Transducer.along_of_invariant`
    * `Transducer.along_congr`
    * `Transducer.simulates`
-/

------------------------------------------------------------
-- Runs
------------------------------------------------------------

namespace D2Common

/- A deterministic machine with outputs. -/
structure Transducer (σ ι ω : Type) where
  init : σ
  step : σ → ι → σ × List ω

namespace Transducer

/- One step of a run, as it was taken. -/
structure Event (σ ι ω : Type) where
  before : σ
  input : ι
  output : List ω
  after : σ

variable {σ ι ω : Type}

/- The step that a state takes on an input. -/
def event
    (M : Transducer σ ι ω)
    (s : σ)
    (i : ι) : Event σ ι ω :=
  ⟨s, i, (M.step s i).2, (M.step s i).1⟩

/- The state after a list of inputs. -/
def runFrom
    (M : Transducer σ ι ω) :
    σ → List ι → σ
| s, [] => s
| s, i :: is => M.runFrom (M.step s i).1 is

/- The steps taken on a list of inputs, oldest first. -/
def historyFrom
    (M : Transducer σ ι ω) :
    σ → List ι → List (Event σ ι ω)
| _, [] => []
| s, i :: is =>
    M.event s i :: M.historyFrom (M.step s i).1 is

/- The state a run from the initial state ends in. -/
def run
    (M : Transducer σ ι ω)
    (is : List ι) : σ :=
  M.runFrom M.init is

/- The history of a run from the initial state. -/
def history
    (M : Transducer σ ι ω)
    (is : List ι) : List (Event σ ι ω) :=
  M.historyFrom M.init is

theorem runFrom_append
    (M : Transducer σ ι ω)
    (s : σ)
    (is js : List ι) :
    M.runFrom s (is ++ js) =
      M.runFrom (M.runFrom s is) js := by
  induction is generalizing s with
  | nil => rfl
  | cons i is ih => exact ih (M.step s i).1

theorem historyFrom_append
    (M : Transducer σ ι ω)
    (s : σ)
    (is js : List ι) :
    M.historyFrom s (is ++ js) =
      M.historyFrom s is ++
        M.historyFrom (M.runFrom s is) js := by
  induction is generalizing s with
  | nil => rfl
  | cons i is ih =>
      simp only [List.cons_append, historyFrom, runFrom]
      rw [ih (M.step s i).1]

@[simp] theorem run_nil
    (M : Transducer σ ι ω) :
    M.run [] = M.init := rfl

theorem run_concat
    (M : Transducer σ ι ω)
    (is : List ι)
    (i : ι) :
    M.run (is ++ [i]) = (M.step (M.run is) i).1 := by
  simp [run, runFrom_append, runFrom]

theorem history_concat
    (M : Transducer σ ι ω)
    (is : List ι)
    (i : ι) :
    M.history (is ++ [i]) =
      M.history is ++ [M.event (M.run is) i] := by
  simp [history, run, historyFrom_append, historyFrom]

end Transducer

end D2Common

------------------------------------------------------------
-- Induction Along Runs
------------------------------------------------------------

namespace D2Common

namespace Transducer

variable {σ ι ω : Type}

/-
  A property of states that holds at the start and that no
  admitted input breaks holds after every admitted run.
-/
theorem run_induction
    (M : Transducer σ ι ω)
    {A : ι → Prop}
    {I : σ → Prop}
    (hInit : I M.init)
    (hStep :
      ∀ s i, I s → A i → I (M.step s i).1)
    (is : List ι)
    (hAdmitted : ∀ i ∈ is, A i) :
    I (M.run is) := by
  induction is using List.reverseRecOn with
  | nil => exact hInit
  | append_singleton is i ih =>
      rw [run_concat]
      apply hStep
      · exact ih (fun j hj => hAdmitted j (by simp [hj]))
      · exact hAdmitted i (by simp)

/-
  The same for properties that look back at the history, in
  runs whose every step meets a condition on that step and
  on the steps before it.
-/
theorem history_induction
    (M : Transducer σ ι ω)
    {C : List (Event σ ι ω) → Event σ ι ω → Prop}
    {I : List (Event σ ι ω) → σ → Prop}
    (hInit : I [] M.init)
    (hStep :
      ∀ h s i,
        I h s →
          C h (M.event s i) →
            I (h ++ [M.event s i]) (M.step s i).1)
    (is : List ι)
    (hAlong : History.Along C (M.history is)) :
    I (M.history is) (M.run is) := by
  induction is using List.reverseRecOn with
  | nil => exact hInit
  | append_singleton is i ih =>
      rw [history_concat] at hAlong ⊢
      rcases (History.along_concat _ _).mp hAlong with
        ⟨hBefore, hLast⟩
      rw [run_concat]
      exact hStep _ _ _ (ih hBefore) hLast

/- Every run satisfies the condition that asks nothing. -/
theorem history_induction_of_all
    (M : Transducer σ ι ω)
    {I : List (Event σ ι ω) → σ → Prop}
    (hInit : I [] M.init)
    (hStep :
      ∀ h s i,
        I h s →
          I (h ++ [M.event s i]) (M.step s i).1)
    (is : List ι) :
    I (M.history is) (M.run is) := by
  apply M.history_induction
    (C := fun _ _ => True) hInit
  · intro h s i hI _
    exact hStep h s i hI
  · intro before x after _
    trivial

/-
  What follows from an invariant on every step that meets a
  condition holds along every run whose steps meet it.
-/
theorem along_of_invariant
    (M : Transducer σ ι ω)
    {B C : List (Event σ ι ω) → Event σ ι ω → Prop}
    {I : List (Event σ ι ω) → σ → Prop}
    (hInit : I [] M.init)
    (hStep :
      ∀ h s i,
        I h s →
          B h (M.event s i) →
            I (h ++ [M.event s i]) (M.step s i).1)
    (hHolds :
      ∀ h s i,
        I h s → B h (M.event s i) → C h (M.event s i))
    (is : List ι)
    (hAlong : History.Along B (M.history is)) :
    History.Along C (M.history is) := by
  induction is using List.reverseRecOn with
  | nil => exact History.along_nil
  | append_singleton is i ih =>
      rw [history_concat] at hAlong ⊢
      rcases (History.along_concat _ _).mp hAlong with
        ⟨hBefore, hLast⟩
      have hI := M.history_induction hInit hStep is hBefore
      exact (History.along_concat _ _).mpr
        ⟨ih hBefore, hHolds _ _ i hI hLast⟩

/-
  When a condition on a step is exactly what keeps a
  property, all states of a run have the property if and
  only if all its steps meet the condition.
-/
theorem forall_prefix_iff_along
    (M : Transducer σ ι ω)
    {C : List (Event σ ι ω) → Event σ ι ω → Prop}
    {I : List (Event σ ι ω) → σ → Prop}
    (hInit : I [] M.init)
    (hStep :
      ∀ h s i,
        I h s →
          (I (h ++ [M.event s i]) (M.step s i).1 ↔
            C h (M.event s i)))
    (is : List ι) :
    (∀ js, js <+: is → I (M.history js) (M.run js)) ↔
      History.Along C (M.history is) := by
  induction is using List.reverseRecOn with
  | nil =>
      constructor
      · intro _
        exact History.along_nil
      · intro _ js hPrefix
        rw [List.prefix_nil.mp hPrefix]
        exact hInit
  | append_singleton is i ih =>
      rw [history_concat, History.along_concat, ← ih]
      constructor
      · intro hAll
        have hBefore :
            ∀ js, js <+: is →
              I (M.history js) (M.run js) := by
          intro js hPrefix
          exact hAll js
            (hPrefix.trans (List.prefix_append is [i]))
        have hLast := hAll (is ++ [i]) (List.prefix_refl _)
        rw [history_concat, run_concat] at hLast
        refine ⟨hBefore, ?_⟩
        exact (hStep _ _ i (hBefore is (List.prefix_refl _))).mp
          hLast
      · rintro ⟨hBefore, hLast⟩ js hPrefix
        rcases List.prefix_concat_iff.mp hPrefix with
          rfl | hPrefix
        · rw [history_concat, run_concat]
          exact
            (hStep _ _ i
              (hBefore is (List.prefix_refl _))).mpr hLast
        · exact hBefore js hPrefix

/-
  Two conditions that agree on every step taken from a state
  with an invariant hold along the same runs.
-/
theorem along_congr
    (M : Transducer σ ι ω)
    {A : ι → Prop}
    {C D : List (Event σ ι ω) → Event σ ι ω → Prop}
    {I : List (Event σ ι ω) → σ → Prop}
    (hInit : I [] M.init)
    (hStep :
      ∀ h s i,
        I h s →
          A i → I (h ++ [M.event s i]) (M.step s i).1)
    (hAgree :
      ∀ h s i,
        I h s →
          A i → (C h (M.event s i) ↔ D h (M.event s i)))
    (is : List ι)
    (hAdmitted : ∀ i ∈ is, A i) :
    History.Along C (M.history is) ↔
      History.Along D (M.history is) := by
  have hAll :
      I (M.history is) (M.run is) ∧
        (History.Along C (M.history is) ↔
          History.Along D (M.history is)) := by
    induction is using List.reverseRecOn with
    | nil =>
        refine ⟨hInit, ?_⟩
        exact iff_of_true History.along_nil History.along_nil
    | append_singleton is i ih =>
        have hLast : A i := hAdmitted i (by simp)
        rcases ih (fun j hj => hAdmitted j (by simp [hj])) with
          ⟨hI, hSame⟩
        rw [history_concat, run_concat,
          History.along_concat, History.along_concat, hSame,
          hAgree _ _ i hI hLast]
        exact ⟨hStep _ _ i hI hLast, Iff.rfl⟩
  exact hAll.2

end Transducer

end D2Common

------------------------------------------------------------
-- Simulation
------------------------------------------------------------

namespace D2Common

namespace Transducer

variable {σ τ ι ω : Type}

/- The inputs of a run, each with the outputs it had. -/
def transcript
    (M : Transducer σ ι ω)
    (is : List ι) : List (ι × List ω) :=
  (M.history is).map fun e => (e.input, e.output)

theorem transcript_concat
    (M : Transducer σ ι ω)
    (is : List ι)
    (i : ι) :
    M.transcript (is ++ [i]) =
      M.transcript is ++ [(i, (M.step (M.run is) i).2)] := by
  unfold transcript
  rw [history_concat, List.map_append]
  rfl

/-
  When related states answer each input alike and stay
  related, in steps that meet a condition, the two machines
  have the same transcript along every such run.
-/
theorem simulates
    (M : Transducer σ ι ω)
    (N : Transducer τ ι ω)
    {C : Event σ ι ω → Prop}
    {R : σ → τ → Prop}
    (hInit : R M.init N.init)
    (hStep :
      ∀ s t i,
        R s t →
          C (M.event s i) →
            R (M.step s i).1 (N.step t i).1 ∧
              (M.step s i).2 = (N.step t i).2)
    (is : List ι)
    (hAlong :
      History.Along (fun _ e => C e) (M.history is)) :
    R (M.run is) (N.run is) ∧
      M.transcript is = N.transcript is := by
  induction is using List.reverseRecOn with
  | nil => exact ⟨hInit, rfl⟩
  | append_singleton is i ih =>
      rw [history_concat] at hAlong
      rcases (History.along_concat _ _).mp hAlong with
        ⟨hBefore, hLast⟩
      rcases ih hBefore with ⟨hR, hSame⟩
      rcases hStep _ _ i hR hLast with ⟨hR', hOut⟩
      rw [run_concat, run_concat, transcript_concat,
        transcript_concat, hSame, hOut]
      exact ⟨hR', rfl⟩

end Transducer

end D2Common
