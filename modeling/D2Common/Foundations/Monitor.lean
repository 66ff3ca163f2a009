import D2Common.Foundations.Parts

/-
  Monitors.

  A monitor reads what a machine shows, sign by sign. It
  keeps a state of its own and allows a sign or does not.
  When every step of the machine shows only signs that are
  allowed, and leaves the monitor in a state that goes with
  the state of the machine, then so does every run.

  Key definitions include:
    * `Monitor`
    * `Monitor.reads`
    * `Monitor.Watches`

  Key theorems include:
    * `Monitor.reads_append`
    * `Monitor.watches_run`
-/

------------------------------------------------------------
-- Reading
------------------------------------------------------------

namespace D2Common

/- What a monitor makes of a sign; `none` does not allow it. -/
structure Monitor (τ χ : Type) where
  init : τ
  next : τ → χ → Option τ

namespace Monitor

variable {τ χ : Type}

/- The state after some signs, if all of them are allowed. -/
def reads
    (M : Monitor τ χ) : τ → List χ → Option τ
| m, [] => some m
| m, x :: xs => (M.next m x).bind (M.reads · xs)

theorem reads_cons
    {M : Monitor τ χ}
    {m m' : τ}
    {x : χ}
    (hNext : M.next m x = some m')
    (xs : List χ) :
    M.reads m (x :: xs) = M.reads m' xs := by
  rw [reads, hNext]
  rfl

theorem reads_append
    {M : Monitor τ χ}
    {m m' : τ}
    {xs : List χ}
    (hReads : M.reads m xs = some m')
    (ys : List χ) :
    M.reads m (xs ++ ys) = M.reads m' ys := by
  induction xs generalizing m with
  | nil =>
      cases hReads
      rfl
  | cons x xs ih =>
      rw [List.cons_append]
      cases hNext : M.next m x with
      | none =>
          rw [reads, hNext] at hReads
          cases hReads
      | some m₁ =>
          rw [reads_cons hNext] at hReads ⊢
          exact ih hReads

end Monitor

end D2Common

------------------------------------------------------------
-- Watching
------------------------------------------------------------

namespace D2Common

namespace Monitor

variable {τ χ σ ι ω : Type}

/- All that a step shows is allowed, and the states go on
together. -/
def Watches
    (M : Monitor τ χ)
    (shows : ω → Option χ)
    (Goes : σ → τ → Prop)
    (s : σ)
    (x : σ × List ω) : Prop :=
  ∀ m, Goes s m →
    ∃ m', M.reads m (x.2.filterMap shows) = some m' ∧
      Goes x.1 m'

variable {M : Monitor τ χ}
variable {shows : ω → Option χ}
variable {Goes : σ → τ → Prop}

/- A step that shows nothing, and states that go alike. -/
theorem watches_of_silent
    {s : σ}
    {x : σ × List ω}
    (hSilent : x.2.filterMap shows = [])
    (hSame : ∀ m, Goes s m → Goes x.1 m) :
    M.Watches shows Goes s x := by
  intro m hm
  rw [hSilent]
  exact ⟨m, rfl, hSame m hm⟩

/- One step after another. -/
theorem Watches.append
    {s s' s'' : σ}
    {out out' : List ω}
    (hFirst : M.Watches shows Goes s (s', out))
    (hSecond : M.Watches shows Goes s' (s'', out')) :
    M.Watches shows Goes s (s'', out ++ out') := by
  intro m hm
  rcases hFirst m hm with ⟨m₁, hReads, hm₁⟩
  rcases hSecond m₁ hm₁ with ⟨m₂, hReads', hm₂⟩
  refine ⟨m₂, ?_, hm₂⟩
  dsimp only
  rw [List.filterMap_append, reads_append hReads]
  exact hReads'

/- What is watched step by step is watched in every run. -/
theorem watches_run
    {T : Transducer σ ι ω}
    (hInit : Goes T.init M.init)
    (hStep : ∀ s i, M.Watches shows Goes s (T.step s i))
    (is : List ι) :
    ∃ m,
      M.reads M.init (T.saidFrom shows T.init is) = some m ∧
        Goes (T.run is) m := by
  induction is using List.reverseRecOn with
  | nil => exact ⟨M.init, rfl, hInit⟩
  | append_singleton is i ih =>
      rcases ih with ⟨m, hReads, hm⟩
      rcases hStep (T.run is) i m hm with ⟨m', hReads', hm'⟩
      refine ⟨m', ?_, ?_⟩
      · rw [Transducer.saidFrom_append, reads_append hReads,
          Transducer.saidFrom_cons, Transducer.saidFrom_nil,
          List.append_nil]
        exact hReads'
      · rw [Transducer.run_concat]
        exact hm'

end Monitor

end D2Common
