import Mathlib.Data.List.TakeWhile
import Mathlib.Logic.Nontrivial.Defs

/-
  Memory of which only the beginning is known.

  A memory extends a list when it begins with the symbols of
  the list. What a program computes from the memory is
  decided by the list when all extensions give the same
  result.

  Key definitions include:
    * `Known.window`
    * `Known.patch`
    * `Known.Extends`
    * `Known.MayBe`
    * `Known.text`
    * `Known.Decided`

  Key theorems include:
    * `Known.decided_iff_patch`
    * `Known.extends_patch`
    * `Known.window_eq_of_extends`
    * `Known.exists_window_ne`
    * `Known.text_eq_of_extends`
    * `Known.exists_text_ne`
-/

------------------------------------------------------------
-- Windows
------------------------------------------------------------

namespace D2Common

namespace Known

variable {B : Type}

/- The symbols at `off`, `off + 1` and so on, `k` of them. -/
def window
    (mem : Nat → B)
    (off k : Nat) : List B :=
  (List.range k).map fun i => mem (off + i)

@[simp] theorem length_window
    (mem : Nat → B)
    (off k : Nat) :
    (window mem off k).length = k := by
  simp [window]

@[simp] theorem getElem_window
    (mem : Nat → B)
    (off k i : Nat)
    (hi : i < (window mem off k).length) :
    (window mem off k)[i] = mem (off + i) := by
  simp [window]

theorem window_eq_window_iff
    {mem mem' : Nat → B}
    {off k : Nat} :
    window mem off k = window mem' off k ↔
      ∀ i < k, mem (off + i) = mem' (off + i) := by
  simp [window]

theorem window_eq_iff
    {mem : Nat → B}
    {off : Nat}
    {w : List B} :
    window mem off w.length = w ↔
      ∀ i (hi : i < w.length), mem (off + i) = w[i] := by
  constructor
  · intro hWindow i hi
    rw [← getElem_window mem off w.length i (by simpa)]
    simp only [hWindow]
  · intro hAt
    apply List.ext_getElem
    · simp
    · intro i _ hi
      rw [getElem_window, hAt i hi]

/- The memory after symbols have been written at `off`. -/
def patch
    (mem : Nat → B)
    (off : Nat)
    (w : List B) : Nat → B :=
  fun i =>
    if off ≤ i then w.getD (i - off) (mem i) else mem i

theorem patch_at
    (mem : Nat → B)
    (off : Nat)
    (w : List B)
    {i : Nat}
    (hi : i < w.length) :
    patch mem off w (off + i) = w[i] := by
  simp [patch, hi]

theorem patch_of_lt
    (mem : Nat → B)
    {off i : Nat}
    (w : List B)
    (hi : i < off) :
    patch mem off w i = mem i := by
  simp [patch, Nat.not_le.mpr hi]

theorem patch_of_le
    (mem : Nat → B)
    {off i : Nat}
    (w : List B)
    (hi : off + w.length ≤ i) :
    patch mem off w i = mem i := by
  have hOff : off ≤ i := by omega
  have hPast : w.length ≤ i - off := by omega
  simp [patch, hOff, hPast]

@[simp] theorem patch_nil
    (mem : Nat → B)
    (off : Nat) :
    patch mem off [] = mem := by
  funext i
  simp [patch]

theorem patch_append
    (mem : Nat → B)
    (off : Nat)
    (v w : List B) :
    patch (patch mem off v) (off + v.length) w =
      patch mem off (v ++ w) := by
  funext i
  by_cases hBefore : i < off + v.length
  · rw [patch_of_lt _ _ hBefore]
    by_cases hOff : off ≤ i
    · obtain ⟨j, rfl⟩ := Nat.exists_eq_add_of_le hOff
      have hj : j < v.length := by omega
      rw [patch_at _ _ _ hj, patch_at _ _ _ (by simp; omega),
        List.getElem_append_left hj]
    · rw [patch_of_lt _ _ (by omega),
        patch_of_lt _ _ (by omega)]
  · obtain ⟨j, rfl⟩ :=
      Nat.exists_eq_add_of_le (Nat.not_lt.mp hBefore)
    by_cases hj : j < w.length
    · rw [patch_at _ _ _ hj, Nat.add_assoc,
        patch_at _ _ _ (by simp; omega)]
      simp
    · rw [patch_of_le _ _ (by omega),
        patch_of_le _ _ (by omega),
        patch_of_le _ _ (by simp; omega)]

theorem window_patch
    (mem : Nat → B)
    (off : Nat)
    (w : List B) :
    window (patch mem off w) off w.length = w :=
  window_eq_iff.mpr fun _ hi => patch_at mem off w hi

theorem window_add
    (mem : Nat → B)
    (off j k : Nat) :
    window mem off (j + k) =
      window mem off j ++ window mem (off + j) k := by
  simp [window, List.range_add, Nat.add_assoc]

/- A write before a window leaves the window alone. -/
theorem window_patch_of_add_le
    (mem : Nat → B)
    {off off' k : Nat}
    (w : List B)
    (hApart : off' + w.length ≤ off) :
    window (patch mem off' w) off k = window mem off k :=
  window_eq_window_iff.mpr fun i _ =>
    patch_of_le mem w (by omega)

/- A write after a window leaves the window alone. -/
theorem window_patch_of_le
    (mem : Nat → B)
    {off off' k : Nat}
    (w : List B)
    (hApart : off + k ≤ off') :
    window (patch mem off' w) off k = window mem off k :=
  window_eq_window_iff.mpr fun i _ =>
    patch_of_lt mem w (by omega)

end Known

end D2Common

------------------------------------------------------------
-- Extensions
------------------------------------------------------------

namespace D2Common

namespace Known

variable {B : Type}

/- The memory begins with the known symbols. -/
def Extends
    (known : List B)
    (mem : Nat → B) : Prop :=
  window mem 0 known.length = known

theorem extends_iff
    {known : List B}
    {mem : Nat → B} :
    Extends known mem ↔
      ∀ i (hi : i < known.length), mem i = known[i] := by
  unfold Extends
  simp [window_eq_iff]

theorem extends_patch_zero
    (mem : Nat → B)
    (known : List B) :
    Extends known (patch mem 0 known) :=
  window_patch mem 0 known

theorem patch_zero_of_extends
    {known : List B}
    {mem : Nat → B}
    (hExtends : Extends known mem) :
    patch mem 0 known = mem := by
  funext i
  by_cases hi : i < known.length
  · have hAt := patch_at mem 0 known hi
    rw [Nat.zero_add] at hAt
    rw [hAt, extends_iff.mp hExtends i hi]
  · exact patch_of_le mem known (by omega)

/- All extensions give the same result. -/
def Decided
    {A : Type}
    (known : List B)
    (f : (Nat → B) → A) : Prop :=
  ∀ mem mem',
    Extends known mem → Extends known mem' → f mem = f mem'

/- Extensions are what writing the known symbols gives. -/
theorem decided_iff_patch
    {A : Type}
    {known : List B}
    {f : (Nat → B) → A} :
    Decided known f ↔
      ∀ mem mem',
        f (patch mem 0 known) = f (patch mem' 0 known) := by
  constructor
  · intro hDecided mem mem'
    exact
      hDecided _ _ (extends_patch_zero mem known)
        (extends_patch_zero mem' known)
  · intro hSame mem mem' hExtends hExtends'
    rw [← patch_zero_of_extends hExtends,
      ← patch_zero_of_extends hExtends']
    exact hSame mem mem'

/- What is known of the place of `w` does not exclude `w`. -/
def MayBe
    (known : List B)
    (off : Nat)
    (w : List B) : Prop :=
  (known.drop off).take w.length <+: w

instance
    [DecidableEq B]
    (known : List B)
    (off : Nat)
    (w : List B) :
    Decidable (MayBe known off w) := by
  unfold MayBe
  infer_instance

theorem mayBe_iff
    {known : List B}
    {off : Nat}
    {w : List B} :
    MayBe known off w ↔
      ∀ i (hi : i < w.length)
        (hKnown : off + i < known.length),
        known[off + i] = w[i] := by
  unfold MayBe
  rw [List.prefix_iff_getElem]
  constructor
  · rintro ⟨_, hAt⟩ i hi hKnown
    have h := hAt i (by simp; omega)
    simpa using h
  · intro hAt
    refine ⟨List.length_take_le .., ?_⟩
    intro i hi
    simp only [List.length_take, List.length_drop] at hi
    simpa using hAt i (by omega) (by omega)

theorem mayBe_of_extends
    {known : List B}
    {mem : Nat → B}
    {off : Nat}
    {w : List B}
    (hExtends : Extends known mem)
    (hWindow : window mem off w.length = w) :
    MayBe known off w := by
  rw [mayBe_iff]
  intro i hi hKnown
  rw [← extends_iff.mp hExtends _ hKnown,
    window_eq_iff.mp hWindow i hi]

/- A write that is not excluded keeps what is known. -/
theorem extends_patch
    {known : List B}
    {mem : Nat → B}
    {off : Nat}
    {w : List B}
    (hExtends : Extends known mem)
    (hMayBe : MayBe known off w) :
    Extends known (patch mem off w) := by
  rw [extends_iff]
  intro i hi
  by_cases hBefore : i < off
  · rw [patch_of_lt _ _ hBefore]
    exact extends_iff.mp hExtends i hi
  · obtain ⟨j, rfl⟩ :=
      Nat.exists_eq_add_of_le (Nat.not_lt.mp hBefore)
    by_cases hj : j < w.length
    · rw [patch_at _ _ _ hj, mayBe_iff.mp hMayBe j hj hi]
    · rw [patch_of_le _ _ (by omega)]
      exact extends_iff.mp hExtends _ hi

/- What is not excluded of a place that is known in full. -/
theorem window_of_mayBe
    {known : List B}
    {mem : Nat → B}
    {off : Nat}
    {w : List B}
    (hExtends : Extends known mem)
    (hMayBe : MayBe known off w)
    (hFits : off + w.length ≤ known.length) :
    window mem off w.length = w := by
  rw [window_eq_iff]
  intro i hi
  rw [extends_iff.mp hExtends _ (by omega),
    mayBe_iff.mp hMayBe i hi]

/- Nothing is excluded from what is not known. -/
theorem mayBe_of_le
    {known : List B}
    {off : Nat}
    (w : List B)
    (hUnknown : known.length ≤ off) :
    MayBe known off w :=
  mayBe_iff.mpr fun i _ hKnown => by omega

/- A window that is known in full. -/
theorem window_eq_of_extends
    {known : List B}
    {mem mem' : Nat → B}
    {off k : Nat}
    (hExtends : Extends known mem)
    (hExtends' : Extends known mem')
    (hFits : off + k ≤ known.length) :
    window mem off k = window mem' off k := by
  rw [window_eq_window_iff]
  intro i hi
  rw [extends_iff.mp hExtends _ (by omega),
    extends_iff.mp hExtends' _ (by omega)]

/-
  A window that is not known in full can be different, with
  everything before it the same.
-/
theorem exists_window_ne
    [Nontrivial B]
    {known : List B}
    {mem : Nat → B}
    {off k : Nat}
    (hExtends : Extends known mem)
    (hPositive : 0 < k)
    (hUnknown : known.length < off + k) :
    ∃ mem', Extends known mem' ∧
      (∀ i < off, mem' i = mem i) ∧
      window mem' off k ≠ window mem off k := by
  obtain ⟨b, hb⟩ := exists_ne (mem (off + (k - 1)))
  refine ⟨patch mem (off + (k - 1)) [b], ?_, ?_, ?_⟩
  · exact extends_patch hExtends (mayBe_of_le _ (by omega))
  · intro i hi
    exact patch_of_lt _ _ (by omega)
  · intro hSame
    have hLast :=
      window_eq_window_iff.mp hSame (k - 1) (by omega)
    have hPatched :=
      patch_at mem (off + (k - 1)) [b] Nat.zero_lt_one
    exact hb (hPatched.symm.trans hLast)

end Known

end D2Common

------------------------------------------------------------
-- Texts
------------------------------------------------------------

namespace D2Common

namespace Known

variable {B : Type}
variable [DecidableEq B]

/- The symbols from `off` up to `stop`, at most `k`. -/
def text
    (stop : B)
    (mem : Nat → B)
    (off k : Nat) : List B :=
  (window mem off k).takeWhile (· ≠ stop)

/- A text that has ended does not look any further. -/
theorem text_add_of_mem
    {stop : B}
    {mem : Nat → B}
    {off j : Nat}
    (k : Nat)
    (hStop : stop ∈ window mem off j) :
    text stop mem off (j + k) = text stop mem off j := by
  unfold text
  rw [window_add, List.takeWhile_append]
  split
  · rename_i hAll
    have hMem := hStop
    rw [← (List.takeWhile_prefix _).eq_of_length hAll]
      at hMem
    simpa using List.mem_takeWhile_imp hMem
  · rfl

/- A text that has not ended goes on. -/
theorem text_add_of_not_mem
    {stop : B}
    {mem : Nat → B}
    {off j : Nat}
    (k : Nat)
    (hStop : stop ∉ window mem off j) :
    text stop mem off (j + k) =
      window mem off j ++ text stop mem (off + j) k := by
  unfold text
  rw [window_add, List.takeWhile_append_of_pos]
  intro b hb
  simpa using ne_of_mem_of_not_mem hb hStop

omit [DecidableEq B] in
theorem lt_length_of_mem_drop
    {b : B}
    {l : List B}
    {off : Nat}
    (hMem : b ∈ l.drop off) :
    off < l.length := by
  have hSome := List.length_pos_of_mem hMem
  simp only [List.length_drop] at hSome
  omega

/- The first symbol tells whether a text is empty. -/
theorem text_succ_eq_nil_iff
    {stop : B}
    {mem : Nat → B}
    {off k : Nat} :
    text stop mem off (k + 1) = [] ↔ mem off = stop := by
  simp [text, window, List.range_succ_eq_map,
    List.takeWhile_cons]

/-
  A text is known when its whole place is, or when its end
  is among what is known.
-/
theorem text_eq_of_extends
    {stop : B}
    {known : List B}
    {mem mem' : Nat → B}
    {off k : Nat}
    (hExtends : Extends known mem)
    (hExtends' : Extends known mem')
    (hKnown :
      off + k ≤ known.length ∨ stop ∈ known.drop off) :
    text stop mem off k = text stop mem' off k := by
  by_cases hFits : off + k ≤ known.length
  · unfold text
    rw [window_eq_of_extends hExtends hExtends' hFits]
  · have hStop : stop ∈ known.drop off :=
      hKnown.resolve_left hFits
    have hOff := lt_length_of_mem_drop hStop
    obtain ⟨i, hi⟩ : ∃ i, k = known.length - off + i :=
      ⟨k - (known.length - off), by omega⟩
    have hDrop :
        ∀ m : Nat → B, Extends known m →
          window m off (known.length - off) =
            known.drop off := by
      intro m hm
      apply List.ext_getElem
      · simp
      · intro j hj _
        simp only [length_window] at hj
        simp [extends_iff.mp hm (off + j) (by omega)]
    rw [hi, text_add_of_mem _ (by rwa [hDrop mem hExtends]),
      text_add_of_mem _ (by rwa [hDrop mem' hExtends'])]
    unfold text
    rw [hDrop mem hExtends, hDrop mem' hExtends']

/-
  A text whose end is not known can be different, with
  everything before it the same.
-/
theorem exists_text_ne
    [Nontrivial B]
    {stop : B}
    {known : List B}
    {mem : Nat → B}
    {off k : Nat}
    (hExtends : Extends known mem)
    (hPositive : 0 < k)
    (hUnknown : known.length < off + k)
    (hStop : stop ∉ known.drop off) :
    ∃ mem', Extends known mem' ∧
      (∀ i < off, mem' i = mem i) ∧
      text stop mem' off k ≠ text stop mem off k := by
  -- the first place of the text that is not known
  obtain ⟨j, hj⟩ : ∃ j, off + j = max off known.length :=
    ⟨max off known.length - off, by omega⟩
  obtain ⟨i, hi⟩ : ∃ i, k = j + (i + 1) :=
    ⟨k - j - 1, by omega⟩
  have hWrite :
      ∀ b, Extends known (patch mem (off + j) [b]) :=
    fun b =>
      extends_patch hExtends (mayBe_of_le _ (by omega))
  have hBefore :
      ∀ b, ∀ i < off + j,
        patch mem (off + j) [b] i = mem i :=
    fun b i hi => patch_of_lt _ _ hi
  have hText :
      ∀ b, text stop (patch mem (off + j) [b]) off k =
        window mem off j ++
          text stop (patch mem (off + j) [b])
            (off + j) (i + 1) := by
    intro b
    have hSame :=
      window_patch_of_le mem [b] (Nat.le_refl (off + j))
    rw [hi, text_add_of_not_mem, hSame]
    rw [hSame]
    intro hMem
    obtain ⟨l, hl, hAt⟩ := List.getElem_of_mem hMem
    simp only [length_window] at hl
    rw [getElem_window,
      extends_iff.mp hExtends _ (by omega)] at hAt
    apply hStop
    rw [← hAt, List.mem_drop_iff_getElem]
    exact ⟨l, by omega, rfl⟩
  obtain ⟨b, hb⟩ := exists_ne stop
  -- the text ends here in one memory, and not in the other
  have hNe :
      text stop (patch mem (off + j) [b]) off k ≠
        text stop (patch mem (off + j) [stop]) off k := by
    intro hSame
    rw [hText b, hText stop] at hSame
    have hHere : ∀ c, patch mem (off + j) [c] (off + j) = c :=
      fun c => patch_at mem (off + j) [c] Nat.zero_lt_one
    have hEnds :=
      text_succ_eq_nil_iff (k := i) |>.mpr (hHere stop)
    rw [hEnds] at hSame
    have hEnds' := List.append_cancel_left hSame
    rw [text_succ_eq_nil_iff, hHere] at hEnds'
    exact hb hEnds'
  by_cases hSame :
      text stop (patch mem (off + j) [b]) off k =
        text stop mem off k
  · refine
      ⟨patch mem (off + j) [stop], hWrite stop, ?_, ?_⟩
    · exact fun i hi => hBefore stop i (by omega)
    · rw [← hSame]
      exact hNe.symm
  · exact
      ⟨patch mem (off + j) [b], hWrite b,
        fun i hi => hBefore b i (by omega), hSame⟩

end Known

end D2Common
