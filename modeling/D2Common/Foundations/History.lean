import Mathlib.Data.List.Induction

/-
  Ordering properties of finite histories.

  A history is a list of marks, oldest first. The file
  collects the few temporal patterns that invariants over
  runs are stated with, and says how each of them changes
  when a history grows at its end.

  Key definitions include:
    * `History.Open`
    * `History.Between`
    * `History.Along`
    * `History.AtMostOnePer`

  Key theorems include:
    * `History.open_append`
    * `History.between_append`
    * `History.between_of_filterMap`
    * `History.along_concat`
    * `History.served_append_of_imp`
    * `History.atMostOnePer_of_not_served`
-/

------------------------------------------------------------
-- Open Obligations
------------------------------------------------------------

namespace D2Common

namespace History

variable {α β : Type}
variable {p q r : α → Prop}

/- Some `p` has occurred and no `q` has occurred since. -/
def Open
    (p q : α → Prop)
    (l : List α) : Prop :=
  ∃ before x after,
    l = before ++ x :: after ∧
      p x ∧ ∀ y ∈ after, ¬ q y

theorem not_open_nil : ¬ Open p q [] := by
  rintro ⟨before, x, after, hSplit, -, -⟩
  simp at hSplit

/-
  Growing a history by a segment keeps an obligation open
  when the segment does not close it, or opens a new one.
-/
theorem open_append
    (l segment : List α) :
    Open p q (l ++ segment) ↔
      Open p q segment ∨
        (Open p q l ∧ ∀ y ∈ segment, ¬ q y) := by
  constructor
  · rintro ⟨before, x, after, hSplit, hp, hAfter⟩
    rcases List.append_eq_append_iff.mp hSplit with
      ⟨rest, hBefore, hSegment⟩ |
        ⟨rest, hl, hTail⟩
    · left
      exact ⟨rest, x, after, hSegment, hp, hAfter⟩
    · cases rest with
      | nil =>
          left
          refine ⟨[], x, after, ?_, hp, hAfter⟩
          simpa using hTail.symm
      | cons z rest =>
          right
          have hz : x = z ∧ after = rest ++ segment := by
            simpa using hTail
          rcases hz with ⟨rfl, rfl⟩
          refine ⟨⟨before, x, rest, hl, hp, ?_⟩, ?_⟩
          · intro y hy
            exact hAfter y (List.mem_append_left _ hy)
          · intro y hy
            exact hAfter y (List.mem_append_right _ hy)
  · rintro (⟨before, x, after, rfl, hp, hAfter⟩ |
      ⟨⟨before, x, after, rfl, hp, hAfter⟩, hSegment⟩)
    · exact ⟨l ++ before, x, after, by simp, hp, hAfter⟩
    · refine ⟨before, x, after ++ segment, by simp, hp, ?_⟩
      intro y hy
      rcases List.mem_append.mp hy with hy | hy
      · exact hAfter y hy
      · exact hSegment y hy

theorem open_singleton
    (x : α) :
    Open p q [x] ↔ p x := by
  constructor
  · rintro ⟨before, y, after, hSplit, hp, -⟩
    cases before with
    | nil =>
        have hy : x = y := by
          simpa using (List.cons.inj hSplit).1
        exact hy ▸ hp
    | cons z before =>
        simp at hSplit
  · intro hp
    exact ⟨[], x, [], rfl, hp, by simp⟩

theorem open_concat
    (l : List α)
    (x : α) :
    Open p q (l ++ [x]) ↔
      p x ∨ (Open p q l ∧ ¬ q x) := by
  rw [open_append, open_singleton]
  simp

/- A segment without `p` opens nothing. -/
theorem not_open_of_forall_not
    {l : List α}
    (hl : ∀ x ∈ l, ¬ p x) :
    ¬ Open p q l := by
  rintro ⟨before, x, after, rfl, hp, -⟩
  exact hl x (by simp) hp

end History

end D2Common

------------------------------------------------------------
-- Separation
------------------------------------------------------------

namespace D2Common

namespace History

variable {α β : Type}
variable {p q r : α → Prop}

/- Between a `p` and any later `r` there is a `q`. -/
def Between
    (p q r : α → Prop)
    (l : List α) : Prop :=
  ∀ before x middle y after,
    l = before ++ x :: (middle ++ y :: after) →
      p x → r y → ∃ z ∈ middle, q z

theorem between_nil : Between p q r [] := by
  intro before x middle y after hSplit
  simp at hSplit

/-
  A history stays separated when every new `r` arrives with
  no `p` open before it.
-/
theorem between_append
    {l segment : List α}
    (hl : Between p q r l)
    (hSegment :
      ∀ front y back,
        segment = front ++ y :: back →
          r y → ¬ Open p q (l ++ front)) :
    Between p q r (l ++ segment) := by
  intro before x middle y after hSplit hp hr
  have hAssoc :
      l ++ segment =
        (before ++ x :: middle) ++ y :: after := by
    simpa using hSplit
  rcases List.append_eq_append_iff.mp hAssoc with
    ⟨front, hFront, hBack⟩ | ⟨rest, hl', hTail⟩
  · by_contra hNone
    push Not at hNone
    apply hSegment front y after hBack hr
    rw [← hFront]
    exact ⟨before, x, middle, rfl, hp, hNone⟩
  · cases rest with
    | nil =>
        by_contra hNone
        push Not at hNone
        apply hSegment [] y after
          (by simpa using hTail.symm) hr
        refine ⟨before, x, middle, ?_, hp, hNone⟩
        simpa using hl'
    | cons z rest =>
        have hz : y = z ∧ after = rest ++ segment := by
          simpa using hTail
        rcases hz with ⟨rfl, rfl⟩
        exact hl before x middle y rest
          (by simpa using hl') hp hr

/-
  The same for a segment that opens nothing: it is enough
  that nothing is open where it begins.
-/
theorem between_append_of_not_open
    {l segment : List α}
    (hl : Between p q r l)
    (hSegment :
      (∃ y ∈ segment, r y) →
        ¬ Open p q l ∧ ∀ x ∈ segment, ¬ p x) :
    Between p q r (l ++ segment) := by
  apply between_append hl
  intro front y back hSplit hr hOpen
  have hClosed := hSegment ⟨y, by simp [hSplit], hr⟩
  rcases (open_append _ _).mp hOpen with hOpen | ⟨hOpen, -⟩
  · apply not_open_of_forall_not _ hOpen
    intro x hx
    exact hClosed.2 x (by simp [hSplit, hx])
  · exact hClosed.1 hOpen

theorem between_concat
    {l : List α}
    {y : α}
    (hl : Between p q r l)
    (hy : r y → ¬ Open p q l) :
    Between p q r (l ++ [y]) := by
  apply between_append hl
  intro front z back hSplit hr
  cases front with
  | nil =>
      have hz : y = z := (List.cons.inj hSplit).1
      subst hz
      simpa using hy hr
  | cons w front =>
      simp at hSplit

/-
  Separation of a projected history is separation of the
  history itself, when the projection keeps the two ends.
-/
theorem between_of_filterMap
    {p' q' r' : β → Prop}
    (f : α → Option β)
    {l : List α}
    (hl : Between p' q' r' (l.filterMap f))
    (hp : ∀ x, p x → ∃ x', f x = some x' ∧ p' x')
    (hr : ∀ y, r y → ∃ y', f y = some y' ∧ r' y')
    (hq : ∀ z z', f z = some z' → q' z' → q z) :
    Between p q r l := by
  intro before x middle y after hSplit hpx hry
  rcases hp x hpx with ⟨x', hx', hpx'⟩
  rcases hr y hry with ⟨y', hy', hry'⟩
  have hMap :
      l.filterMap f =
        before.filterMap f ++
          x' :: (middle.filterMap f ++
            y' :: after.filterMap f) := by
    simp [hSplit, hx', hy']
  rcases hl _ x' _ y' _ hMap hpx' hry' with
    ⟨z', hz', hqz'⟩
  rcases List.mem_filterMap.mp hz' with ⟨z, hz, hfz⟩
  exact ⟨z, hz, hq z z' hfz hqz'⟩

end History

end D2Common

------------------------------------------------------------
-- Conditions Along A History
------------------------------------------------------------

namespace D2Common

namespace History

variable {α : Type}
variable {C : List α → α → Prop}

/-
  Every entry meets a condition that may look at the entries
  before it.
-/
def Along
    (C : List α → α → Prop)
    (l : List α) : Prop :=
  ∀ before x after,
    l = before ++ x :: after → C before x

theorem along_nil : Along C [] := by
  intro before x after hSplit
  simp at hSplit

theorem along_append
    {l segment : List α}
    (hl : Along C l)
    (hSegment :
      Along (fun front y => C (l ++ front) y) segment) :
    Along C (l ++ segment) := by
  intro before x after hSplit
  rcases List.append_eq_append_iff.mp hSplit with
    ⟨rest, hBefore, hTail⟩ | ⟨rest, hl', hTail⟩
  · rw [hBefore]
    exact hSegment rest x after hTail
  · cases rest with
    | nil =>
        have hBefore : before = l ++ [] := by
          simpa using hl'.symm
        rw [hBefore]
        exact hSegment [] x after (by simpa using hTail.symm)
    | cons y rest =>
        have hx : x = y := (List.cons.inj hTail).1
        subst hx
        exact hl before x rest hl'

theorem along_concat
    (l : List α)
    (x : α) :
    Along C (l ++ [x]) ↔ Along C l ∧ C l x := by
  constructor
  · intro hAlong
    constructor
    · intro before y after hSplit
      exact hAlong before y (after ++ [x])
        (by simp [hSplit])
    · exact hAlong l x [] rfl
  · rintro ⟨hAlong, hLast⟩ before y after hSplit
    rcases List.eq_nil_or_concat after with
      rfl | ⟨after, z, rfl⟩
    · have hEq := List.append_inj' hSplit rfl
      have hy : x = y := by simpa using hEq.2
      exact hEq.1 ▸ hy ▸ hLast
    · have hAssoc :
          l ++ [x] = (before ++ y :: after) ++ [z] := by
        simpa using hSplit
      exact hAlong before y after
        (List.append_inj' hAssoc rfl).1

/- A condition on the entry alone is one on all entries. -/
theorem along_const
    {p : α → Prop}
    {l : List α} :
    Along (fun _ x => p x) l ↔ ∀ x ∈ l, p x := by
  constructor
  · intro hAlong x hx
    rcases List.append_of_mem hx with ⟨before, after, hSplit⟩
    exact hAlong before x after hSplit
  · intro hAll before x after hSplit
    exact hAll x (by simp [hSplit])

/- The same, entry by entry. -/
theorem along_iff_take
    (l : List α) :
    Along C l ↔
      ∀ n (hn : n < l.length), C (l.take n) (l.get ⟨n, hn⟩) := by
  constructor
  · intro hAlong n hn
    apply hAlong (l.take n) _ (l.drop (n + 1))
    simp
  · intro hAll before x after hSplit
    have hn : before.length < l.length := by
      simp [hSplit]
    have hx := hAll before.length hn
    simpa [hSplit] using hx

instance
    [∀ before x, Decidable (C before x)]
    (l : List α) : Decidable (Along C l) :=
  decidable_of_iff _ (along_iff_take l).symm

end History

end D2Common

------------------------------------------------------------
-- Sessions
------------------------------------------------------------

namespace D2Common

namespace History

variable {α : Type}
variable {opens closes p : α → Prop}

/-
  A session runs from an `opens` to the next `opens` or
  `closes`. `p` occurs at most once in every session.
-/
def AtMostOnePer
    (opens closes p : α → Prop)
    [DecidablePred p]
    (l : List α) : Prop :=
  ∀ before x session after,
    l = before ++ x :: (session ++ after) →
      opens x →
      (∀ y ∈ session, ¬ opens y ∧ ¬ closes y) →
      session.countP (fun y => decide (p y)) ≤ 1

/-
  A `p` has occurred in the session that is running at the
  end of the history.
-/
def Served
    (opens closes p : α → Prop)
    (l : List α) : Prop :=
  ∃ before x after,
    l = before ++ x :: after ∧
      p x ∧ Open opens closes before ∧
        ∀ y ∈ after, ¬ opens y ∧ ¬ closes y

theorem not_served_nil :
    ¬ Served opens closes p [] := by
  rintro ⟨before, x, after, hSplit, -, -, -⟩
  simp at hSplit

theorem served_concat
    (l : List α)
    (x : α) :
    Served opens closes p (l ++ [x]) ↔
      (p x ∧ Open opens closes l) ∨
        (Served opens closes p l ∧
          ¬ opens x ∧ ¬ closes x) := by
  constructor
  · rintro ⟨before, y, after, hSplit, hp, hOpen, hAfter⟩
    rcases List.eq_nil_or_concat after with
      rfl | ⟨after, z, rfl⟩
    · have hEq := List.append_inj' hSplit rfl
      have hy : x = y := by simpa using hEq.2
      rw [hEq.1, hy]
      exact Or.inl ⟨hp, hOpen⟩
    · have hAssoc :
          l ++ [x] = (before ++ y :: after) ++ [z] := by
        simpa using hSplit
      have hEq := List.append_inj' hAssoc rfl
      have hz : x = z := by simpa using hEq.2
      rw [hEq.1, hz]
      refine Or.inr
        ⟨⟨before, y, after, rfl, hp, hOpen, ?_⟩, ?_⟩
      · intro w hw
        exact hAfter w (by simp [hw])
      · exact hAfter z (by simp)
  · rintro (⟨hp, hOpen⟩ | ⟨hServed, hx⟩)
    · exact ⟨l, x, [], rfl, hp, hOpen, by simp⟩
    · rcases hServed with
        ⟨before, y, after, rfl, hp, hOpen, hAfter⟩
      refine
        ⟨before, y, after ++ [x], by simp, hp, hOpen, ?_⟩
      intro z hz
      rcases List.mem_append.mp hz with hz | hz
      · exact hAfter z hz
      · simp only [List.mem_singleton] at hz
        exact hz ▸ hx

/-
  A history that grows by a segment stays served by `q` when
  its new `p` are `q` as well.
-/
theorem served_append_of_imp
    {q : α → Prop}
    {l segment : List α}
    (hl : Served opens closes p l → Served opens closes q l)
    (hSegment : ∀ x ∈ segment, p x → q x)
    (hServed : Served opens closes p (l ++ segment)) :
    Served opens closes q (l ++ segment) := by
  induction segment using List.reverseRecOn with
  | nil =>
      simp only [List.append_nil] at hServed ⊢
      exact hl hServed
  | append_singleton segment x ih =>
      rw [← List.append_assoc] at hServed ⊢
      apply (served_concat _ _).mpr
      rcases (served_concat _ _).mp hServed with
        ⟨hp, hOpen⟩ | ⟨hServed, hx⟩
      · exact Or.inl ⟨hSegment x (by simp) hp, hOpen⟩
      · right
        refine ⟨ih ?_ hServed, hx⟩
        intro y hy
        exact hSegment y (by simp [hy])

/- A segment without `p` serves nothing. -/
theorem not_served_append
    {l segment : List α}
    (hl : ¬ Served opens closes p l)
    (hSegment : ∀ x ∈ segment, ¬ p x) :
    ¬ Served opens closes p (l ++ segment) := by
  intro hServed
  have hNever :
      Served opens closes (fun _ => False) (l ++ segment) :=
    served_append_of_imp (fun h => (hl h).elim) hSegment
      hServed
  rcases hNever with ⟨before, x, after, -, hFalse, -⟩
  exact hFalse

/-
  A segment with at most one `p`, and with none when the
  session has been served before.
-/
theorem along_not_served
    [DecidablePred p]
    {l segment : List α}
    (hOnce : segment.countP (fun y => decide (p y)) ≤ 1)
    (hFresh :
      (∃ y ∈ segment, p y) → ¬ Served opens closes p l) :
    Along
      (fun front y =>
        p y → ¬ Served opens closes p (l ++ front))
      segment := by
  intro front y back hSplit hp
  apply not_served_append
  · exact hFresh ⟨y, by simp [hSplit], hp⟩
  · intro z hz hpz
    have hPos :
        0 < front.countP (fun y => decide (p y)) :=
      List.countP_pos_iff.mpr ⟨z, hz, by simpa using hpz⟩
    rw [hSplit, List.countP_append, List.countP_cons,
      if_pos (by simpa using hp)] at hOnce
    omega

/-
  When no `p` ever arrives in a session that has one
  already, every session has at most one.
-/
theorem atMostOnePer_of_not_served
    [DecidablePred p]
    {l : List α}
    (hl :
      Along
        (fun front y =>
          p y → ¬ Served opens closes p front)
        l) :
    AtMostOnePer opens closes p l := by
  intro before x session after hSplit hOpens hSession
  by_contra hMany
  induction session using List.reverseRecOn
    generalizing after with
  | nil => simp at hMany
  | append_singleton session y ih =>
      have hInner :
          ∀ z ∈ session, ¬ opens z ∧ ¬ closes z := by
        intro z hz
        exact hSession z (by simp [hz])
      have hFew :
          session.countP (fun z => decide (p z)) ≤ 1 := by
        by_contra hMany'
        exact ih (y :: after)
          (by simpa using hSplit) hInner hMany'
      rw [List.countP_append, List.countP_singleton]
        at hMany
      have hLast : p y := by
        by_contra hNot
        rw [if_neg (by simpa using hNot)] at hMany
        exact hMany (by simpa using hFew)
      have hPos :
          0 < session.countP (fun z => decide (p z)) := by
        rw [if_pos (by simpa using hLast)] at hMany
        omega
      rcases List.countP_pos_iff.mp hPos with
        ⟨z, hz, hpz⟩
      rcases List.append_of_mem hz with
        ⟨front, back, rfl⟩
      apply hl (before ++ x :: (front ++ z :: back)) y after
        (by simpa using hSplit) hLast
      refine
        ⟨before ++ x :: front, z, back, by simp,
          by simpa using hpz, ?_, ?_⟩
      · refine ⟨before, x, front, rfl, hOpens, ?_⟩
        intro w hw
        exact (hInner w (by simp [hw])).2
      · intro w hw
        exact hInner w (by simp [hw])

end History

end D2Common
