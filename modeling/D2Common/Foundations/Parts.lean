import D2Common.Foundations.Transducer

/-
  Machines that are parts of a machine.

  A large machine may hold a small one: at some steps it
  makes the part anew, at all others it asks a list of
  things of it. When every single step of the whole treats
  the part so, the part runs as the small machine would by
  itself on all that has been asked of it, and what is heard
  of it is what that machine tells. Whatever holds of all
  runs of the small machine then holds of the part.

  Key definitions include:
    * `Part`
    * `Part.asks`
    * `Part.heard`
    * `Part.Follows`

  Key theorems include:
    * `Part.follows_run`
-/

------------------------------------------------------------
-- Several Inputs At Once
------------------------------------------------------------

namespace D2Common

namespace Transducer

variable {σ ι ω χ : Type}

/- What a machine tells on some inputs, of what is heard. -/
def saidFrom
    (M : Transducer σ ι ω)
    (tells : ω → Option χ)
    (s : σ)
    (is : List ι) : List χ :=
  (M.historyFrom s is).flatMap fun e =>
    e.output.filterMap tells

@[simp] theorem saidFrom_nil
    (M : Transducer σ ι ω)
    (tells : ω → Option χ)
    (s : σ) :
    M.saidFrom tells s [] = [] := rfl

theorem saidFrom_cons
    (M : Transducer σ ι ω)
    (tells : ω → Option χ)
    (s : σ)
    (i : ι)
    (is : List ι) :
    M.saidFrom tells s (i :: is) =
      (M.step s i).2.filterMap tells ++
        M.saidFrom tells (M.step s i).1 is := rfl

theorem saidFrom_append
    (M : Transducer σ ι ω)
    (tells : ω → Option χ)
    (s : σ)
    (is js : List ι) :
    M.saidFrom tells s (is ++ js) =
      M.saidFrom tells s is ++
        M.saidFrom tells (M.runFrom s is) js := by
  unfold saidFrom
  rw [historyFrom_append, List.flatMap_append]

/- Hearing less of it is a map over what is heard. -/
theorem saidFrom_map
    {χ' : Type}
    (M : Transducer σ ι ω)
    (tells : ω → Option χ)
    (g : χ → χ')
    (s : σ)
    (is : List ι) :
    M.saidFrom (fun o => (tells o).map g) s is =
      (M.saidFrom tells s is).map g := by
  simp [saidFrom, List.map_flatMap, List.map_filterMap]

/- Every step of a history was taken on one of the inputs. -/
theorem input_mem_of_mem
    {M : Transducer σ ι ω}
    {s : σ}
    {is : List ι}
    {e : Event σ ι ω}
    (hMem : e ∈ M.historyFrom s is) :
    e.input ∈ is := by
  induction is generalizing s with
  | nil => cases hMem
  | cons i is ih =>
      rcases List.mem_cons.mp hMem with rfl | hMem
      · exact List.mem_cons_self
      · exact List.mem_cons_of_mem _ (ih hMem)

end Transducer

end D2Common

------------------------------------------------------------
-- Parts
------------------------------------------------------------

namespace D2Common

/-
  Where a whole keeps a part, at which steps it makes the
  part anew, and what else its steps ask of it.
-/
structure Part (σ ι τ κ : Type) where
  get : σ → Option τ
  made : σ → ι → Bool
  asked : σ → ι → List κ

namespace Part

variable {σ ι ω τ κ ψ χ : Type}

/- All that has been asked of the part that is there. -/
def asks
    (P : Part σ ι τ κ)
    (h : List (Transducer.Event σ ι ω)) : List κ :=
  h.foldl
    (fun before e =>
      if P.made e.before e.input then []
      else before ++ P.asked e.before e.input)
    []

/- All that has been heard since the part was made. -/
def heard
    (P : Part σ ι τ κ)
    (hears : ω → Option χ)
    (h : List (Transducer.Event σ ι ω)) : List χ :=
  h.foldl
    (fun before e =>
      if P.made e.before e.input then []
      else before ++ e.output.filterMap hears)
    []

theorem asks_concat
    (P : Part σ ι τ κ)
    (h : List (Transducer.Event σ ι ω))
    (e : Transducer.Event σ ι ω) :
    P.asks (h ++ [e]) =
      if P.made e.before e.input then []
      else P.asks h ++ P.asked e.before e.input := by
  simp [asks]

/- Everything that was asked was asked at some step. -/
theorem exists_of_mem_asks
    (P : Part σ ι τ κ)
    {h : List (Transducer.Event σ ι ω)}
    {k : κ}
    (hMem : k ∈ P.asks h) :
    ∃ e ∈ h, k ∈ P.asked e.before e.input := by
  induction h using List.reverseRecOn with
  | nil => cases hMem
  | append_singleton h e ih =>
      rw [asks_concat] at hMem
      split at hMem
      · cases hMem
      · rcases List.mem_append.mp hMem with hMem | hMem
        · rcases ih hMem with ⟨e', he', hk⟩
          exact ⟨e', List.mem_append_left _ he', hk⟩
        · exact ⟨e, by simp, hMem⟩

theorem heard_concat
    (P : Part σ ι τ κ)
    (hears : ω → Option χ)
    (h : List (Transducer.Event σ ι ω))
    (e : Transducer.Event σ ι ω) :
    P.heard hears (h ++ [e]) =
      if P.made e.before e.input then []
      else P.heard hears h ++ e.output.filterMap hears := by
  simp [heard]

theorem heard_map
    {χ' : Type}
    (P : Part σ ι τ κ)
    (hears : ω → Option χ)
    (g : χ → χ')
    (h : List (Transducer.Event σ ι ω)) :
    P.heard (fun o => (hears o).map g) h =
      (P.heard hears h).map g := by
  induction h using List.reverseRecOn with
  | nil => rfl
  | append_singleton h e ih =>
      rw [heard_concat, heard_concat, ih]
      split
      · rfl
      · rw [List.map_append, List.map_filterMap]

/-
  One step of the whole makes the part as it begins, or runs
  it on what the step asks of it.
-/
structure Follows
    (P : Part σ ι τ κ)
    (M : Transducer σ ι ω)
    (N : Transducer τ κ ψ)
    (hears : ω → Option χ)
    (tells : ψ → Option χ)
    (s : σ)
    (i : ι) : Prop where
  made :
    P.made s i = true → P.get (M.step s i).1 = some N.init
  kept :
    P.made s i = false →
      P.get (M.step s i).1 =
        (P.get s).map (N.runFrom · (P.asked s i))
  said :
    P.made s i = false →
      ∀ t ∈ P.get s,
        (M.step s i).2.filterMap hears =
          N.saidFrom tells t (P.asked s i)

/-
  The part of a run is a run of the part, as far as the
  steps that meet a condition go.
-/
theorem follows_run
    (P : Part σ ι τ κ)
    (M : Transducer σ ι ω)
    (N : Transducer τ κ ψ)
    (hears : ω → Option χ)
    (tells : ψ → Option χ)
    {C : Transducer.Event σ ι ω → Prop}
    {I : σ → Prop}
    (hNone : P.get M.init = none)
    (hInit : I M.init)
    (hKeeps : ∀ s i, I s → I (M.step s i).1)
    (hFollows :
      ∀ s i,
        I s → C (M.event s i) →
          P.Follows M N hears tells s i)
    (is : List ι)
    (hAlong :
      History.Along (fun _ e => C e) (M.history is)) :
    ∀ t ∈ P.get (M.run is),
      t = N.run (P.asks (M.history is)) ∧
        P.heard hears (M.history is) =
          N.saidFrom tells N.init
            (P.asks (M.history is)) := by
  have hAll :
      I (M.run is) ∧
        ∀ t ∈ P.get (M.run is),
          t = N.run (P.asks (M.history is)) ∧
            P.heard hears (M.history is) =
              N.saidFrom tells N.init
                (P.asks (M.history is)) := by
    apply M.history_induction
      (C := fun _ e => C e)
      (I := fun h s =>
        I s ∧
          ∀ t ∈ P.get s,
            t = N.run (P.asks h) ∧
              P.heard hears h =
                N.saidFrom tells N.init (P.asks h))
    · refine ⟨hInit, ?_⟩
      intro t ht
      rw [hNone] at ht
      cases ht
    · rintro h s i ⟨hI, hPart⟩ hC
      refine ⟨hKeeps s i hI, ?_⟩
      have hStep := hFollows s i hI hC
      intro t' ht'
      rw [asks_concat, heard_concat]
      cases hMade : P.made s i with
      | true =>
          rw [hStep.made hMade] at ht'
          cases ht'
          simp [Transducer.event, hMade]
      | false =>
          rw [hStep.kept hMade] at ht'
          rcases Option.map_eq_some_iff.mp ht' with
            ⟨t, ht, rfl⟩
          rcases hPart t ht with ⟨hRun, hHeard⟩
          have hSaid := hStep.said hMade t ht
          simp only [Transducer.event, hMade,
            Bool.false_eq_true, if_false]
          constructor
          · rw [hRun, Transducer.run, Transducer.run,
              Transducer.runFrom_append]
          · rw [hHeard, hSaid, Transducer.saidFrom_append,
              hRun]
            rfl
    · exact hAlong
  exact hAll.2

end Part

end D2Common
