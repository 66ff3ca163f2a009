import D2Common.Ni.Runs

/-
  Whether a request in progress can be answered.

  A thread clears the id of its session behind the unlock,
  when the record may already belong to a later request.
  The session of that request is then in progress under an
  id that nobody was told.

  Key definitions include:
    * `Answerable`
    * `KeepsIds`

  Key theorems include:
    * `answerable_move`
    * `answerable_prefixes_iff`
-/

------------------------------------------------------------
-- Finding A Session By Its Id
------------------------------------------------------------

namespace D2Common

namespace Ni

variable {ρ : Type}

/-
  Every request in progress has the id last reported for its
  session, and a response with that id finds the session.
-/
def Answerable
    (h : List (Event ρ))
    (d : NiData ρ) : Prop :=
  ∀ x, (d.get x).busy = true →
    lastNotified x h = some (d.get x).reqID ∧
      found d (d.get x).reqID = some x

theorem found_sessionEs
    (d : NiData ρ)
    (id : CInt) :
    found d id = some .sessionEs ↔
      id = d.sessionEs.reqID ∧ d.sessionEs.busy = true := by
  unfold found
  by_cases hEs :
    id = d.sessionEs.reqID ∧ d.sessionEs.busy = true
  · simp [hEs]
  · simp only [Bool.and_eq_true, decide_eq_true_eq, hEs,
      if_false]
    split <;> simp

theorem found_session
    (d : NiData ρ)
    (id : CInt) :
    found d id = some .session ↔
      ¬ (id = d.sessionEs.reqID ∧ d.sessionEs.busy = true) ∧
        id = d.session.reqID ∧ d.session.busy = true := by
  unfold found
  by_cases hEs :
    id = d.sessionEs.reqID ∧ d.sessionEs.busy = true
  · simp [hEs]
  · simp only [Bool.and_eq_true, decide_eq_true_eq, hEs,
      if_false, not_false_eq_true, true_and]
    split
    · simpa using ‹_ ∧ _›
    · simp [‹¬ (_ ∧ _)›]

/- The ids in use are the ones that were reported. -/
def Named
    (h : List (Event ρ))
    (d : NiData ρ) : Prop :=
  ∀ x, (d.get x).busy = true →
    lastNotified x h = some (d.get x).reqID

/- Two requests in progress do not share an id. -/
def Distinct (d : NiData ρ) : Prop :=
  d.session.busy = true →
    d.sessionEs.busy = true →
      d.session.reqID ≠ d.sessionEs.reqID

theorem answerable_iff
    (h : List (Event ρ))
    (d : NiData ρ) :
    Answerable h d ↔ Named h d ∧ Distinct d := by
  constructor
  · intro hAll
    constructor
    · intro x hBusy
      exact (hAll x hBusy).1
    · intro hBusy hBusyEs hSame
      have hFound := (hAll .session hBusy).2
      exact ((found_session _ _).mp hFound).1
        ⟨hSame, hBusyEs⟩
  · rintro ⟨hNamed, hDistinct⟩ x hBusy
    refine ⟨hNamed x hBusy, ?_⟩
    cases x with
    | session =>
        apply (found_session _ _).mpr
        refine ⟨?_, rfl, hBusy⟩
        rintro ⟨hSame, hBusyEs⟩
        exact hDistinct hBusy hBusyEs hSame
    | sessionEs =>
        exact (found_sessionEs _ _).mpr ⟨rfl, hBusy⟩

end Ni

end D2Common

------------------------------------------------------------
-- What A Step Does To The Ids
------------------------------------------------------------

namespace D2Common

namespace Ni

variable {ρ : Type}

/-
  The condition on a step: a thread that clears its
  session's id does not do so to a request in progress (an
  id that is zero already is not changed), and an emergency
  request is not given the id of the ordinary request in
  progress, for which the counter must have wrapped around.
-/
def KeepsIds (e : Event ρ) : Prop :=
  (∀ t th msg,
    e.input = .thread t .leave →
      e.before.threads[t]? = some th →
        th.phase = .leaving msg →
          (e.before.get th.pSession).busy = true →
            (e.before.get th.pSession).reqID = 0) ∧
  (∀ notif passThrough created,
    e.input = .request notif (some passThrough) created →
      e.before.hasNotifyCb = true →
        pSession e.before notif.ni_type = some .sessionEs →
          e.before.session.busy = true →
            e.before.session.reqID ≠
              e.before.reqIDCounter + 1)

/- No request of `d'` was not in progress in `d` already. -/
def NoneNew (d d' : NiData ρ) : Prop :=
  ∀ x, (d'.get x).busy = true →
    (d.get x).busy = true ∧
      (d'.get x).reqID = (d.get x).reqID

theorem answerable_of_noneNew
    {h : List (Event ρ)}
    {e : Event ρ}
    (hAll : Answerable h e.before)
    (hNone :
      ∀ x call id,
        Effect.ni_notify_cb x call id ∉ e.output)
    (hSame : NoneNew e.before e.after) :
    Answerable (h ++ [e]) e.after := by
  rw [answerable_iff] at hAll ⊢
  rcases hAll with ⟨hNamed, hDistinct⟩
  constructor
  · intro x hBusy
    rcases hSame x hBusy with ⟨hBefore, hID⟩
    rw [lastNotified_of_no_notice (hNone x), hID]
    exact hNamed x hBefore
  · intro hBusy hBusyEs
    have hOld := hSame .session hBusy
    have hOldEs := hSame .sessionEs hBusyEs
    have hNe := hDistinct hOld.1 hOldEs.1
    have hID : e.after.session.reqID =
        e.before.session.reqID := hOld.2
    have hIDEs : e.after.sessionEs.reqID =
        e.before.sessionEs.reqID := hOldEs.2
    rw [hID, hIDEs]
    exact hNe

theorem noneNew_refl (d : NiData ρ) : NoneNew d d := by
  intro x hBusy
  exact ⟨hBusy, rfl⟩

theorem noneNew_respond
    (d : NiData ρ)
    (notif_id user_response : CInt) :
    NoneNew d (respond d notif_id user_response) := by
  intro x hBusy
  rcases get_respond d notif_id user_response x with
    hGet | ⟨-, hGet⟩ | ⟨-, -, hGet⟩
  · rw [hGet] at hBusy ⊢
    exact ⟨hBusy, rfl⟩
  · rw [hGet] at hBusy ⊢
    exact ⟨hBusy, rfl⟩
  · rw [hGet] at hBusy ⊢
    exact ⟨hBusy, rfl⟩

/- A record that is emptied holds no request afterwards. -/
theorem noneNew_of_emptied
    {d d' : NiData ρ}
    (hEmptied :
      ∀ x, d'.get x = d.get x ∨
        (d'.get x).rawRequest = none) :
    NoneNew d d' := by
  intro x hBusy
  rcases hEmptied x with hGet | hRaw
  · rw [hGet] at hBusy ⊢
    exact ⟨hBusy, rfl⟩
  · rw [not_busy hRaw] at hBusy
    contradiction

/-
  A request that is taken up reports the id it is given, so
  only the other session's id can be in its way.
-/
theorem answerable_saved
    {h : List (Event ρ)}
    {d : NiData ρ}
    {x : SessionName}
    {notif : Notification}
    {r : Option (Request ρ)}
    {created : Bool}
    {i : Input ρ}
    (hAll : Answerable h d)
    (hFree : pSession d notif.ni_type = some x) :
    Answerable
        (h ++
          [⟨d, i, (saveRequest d x notif r created).2,
            (saveRequest d x notif r created).1⟩])
        (saveRequest d x notif r created).1 ↔
      (x = .sessionEs → r.isSome = true →
        d.session.busy = true →
          d.session.reqID ≠ d.reqIDCounter + 1) := by
  rw [answerable_iff] at hAll ⊢
  have hNamed :
      Named
        (h ++
          [⟨d, i, (saveRequest d x notif r created).2,
            (saveRequest d x notif r created).1⟩])
        (saveRequest d x notif r created).1 := by
    intro y hBusy
    rw [get_saveRequest] at hBusy ⊢
    rw [lastNotified_concat, notices_saveRequest]
    by_cases hyx : y = x
    · subst hyx
      simp [Session.saved]
    · have hxy : ¬ x = y := fun hEq => hyx hEq.symm
      simp only [if_neg hyx] at hBusy ⊢
      simpa [hxy] using hAll.1 y hBusy
  have hIdle := not_busy_of_pSession hFree
  simp only [hNamed, true_and]
  unfold Distinct
  cases x with
  | session =>
      have hEs := hIdle.2 rfl
      simp [saveRequest, NiData.put, hEs]
  | sessionEs =>
      constructor
      · intro hDistinct _ hSome hBusy
        exact hDistinct hBusy hSome
      · intro hNe hBusy hSome
        exact hNe rfl hSome hBusy

/- A thread that leaves clears the id of its session. -/
theorem answerable_left
    {h : List (Event ρ)}
    {d : NiData ρ}
    {t : Nat}
    {x : SessionName}
    {msg : Option (InformNiResponse ρ)}
    {i : Input ρ}
    (hAll : Answerable h d) :
    Answerable
        (h ++
          [⟨d, i, (threadLeave d t x msg).2,
            (threadLeave d t x msg).1⟩])
        (threadLeave d t x msg).1 ↔
      ((d.get x).busy = true → (d.get x).reqID = 0) := by
  have hNone :
      ∀ y call id,
        Effect.ni_notify_cb y call id ∉
          (threadLeave d t x msg).2 := by
    intro y call id hMem
    simp [threadLeave] at hMem
  constructor
  · intro hAfter hBusy
    have hBusy' :
        ((threadLeave d t x msg).1.get x).busy = true := by
      simpa [Session.busy] using hBusy
    have hNew := (hAfter x hBusy').1
    rw [lastNotified_of_no_notice (hNone x),
      (hAll x hBusy).1] at hNew
    simpa using hNew
  · intro hZero
    apply answerable_of_noneNew hAll hNone
    intro y hBusy
    simp only [get_threadLeave] at hBusy ⊢
    by_cases hyx : y = x
    · subst hyx
      simp only [if_true] at hBusy ⊢
      exact ⟨hBusy, (hZero hBusy).symm⟩
    · simp only [if_neg hyx] at hBusy ⊢
      exact ⟨hBusy, trivial⟩

end Ni

end D2Common

------------------------------------------------------------
-- Every Step
------------------------------------------------------------

namespace D2Common

namespace Ni

variable {ρ : Type}

/- Steps of other kinds meet the condition. -/
theorem keepsIds_of_ne
    {e : Event ρ}
    (hLeave : ∀ t, e.input ≠ .thread t .leave)
    (hRequest :
      ∀ notif passThrough created,
        e.input ≠ .request notif passThrough created) :
    KeepsIds e := by
  constructor
  · intro t th msg hInput
    exact absurd hInput (hLeave t)
  · intro notif passThrough created hInput
    exact absurd hInput (hRequest _ _ _)

/-
  The condition is exactly what keeps the requests in
  progress answerable.
-/
theorem answerable_move
    {h : List (Event ρ)}
    {d d' : NiData ρ}
    {i : Input ρ}
    {out : List (Effect ρ)}
    (hAll : Answerable h d)
    (hMove : Move d i d' out) :
    Answerable (h ++ [⟨d, i, out, d'⟩]) d' ↔
      KeepsIds ⟨d, i, out, d'⟩ := by
  cases hMove with
  | idle i hRequest hThread =>
      apply iff_of_true
      · apply answerable_of_noneNew hAll (by simp)
        exact noneNew_refl d
      · constructor
        · intro t th msg hInput hTh hPhase
          exact absurd hPhase (hThread t th msg hInput hTh)
        · intro notif passThrough created hInput
          exact absurd hInput (hRequest _ _ _)
  | init hFirst =>
      apply iff_of_true
      · apply answerable_of_noneNew hAll (by simp)
        apply noneNew_of_emptied
        intro x
        exact Or.inr (rawRequest_init d hFirst x)
      · exact keepsIds_of_ne (by simp) (by simp)
  | refused notif passThrough created out hRefused hOut =>
      apply iff_of_true
      · apply answerable_of_noneNew hAll
        · exact not_notified_of_freed fun f hf =>
            (hOut f hf).imp fun r hr => hr.2
        · apply noneNew_of_emptied
          intro x
          left
          cases x <;> rfl
      · constructor
        · simp
        · intro notif' p created' hInput hReady hFree
          simp only [Input.request.injEq] at hInput
          rw [← hInput.1, hRefused hReady] at hFree
          contradiction
  | saved x notif passThrough created hReady hFree =>
      rw [answerable_saved hAll hFree]
      constructor
      · intro hNe
        constructor
        · simp
        · intro notif' p created' hInput _ hFree' hBusy
          simp only [Input.request.injEq] at hInput
          rcases hInput with ⟨rfl, rfl, rfl⟩
          rw [hFree] at hFree'
          exact hNe (by simpa using hFree') rfl hBusy
      · intro hKeeps hx hSome hBusy
        subst hx
        rcases Option.isSome_iff_exists.mp hSome with
          ⟨r, hr⟩
        rcases Option.map_eq_some_iff.mp hr with
          ⟨p, rfl, -⟩
        exact hKeeps.2 notif p created rfl hReady hFree hBusy
  | responded notif_id user_response x hReady hFound =>
      apply iff_of_true
      · apply answerable_of_noneNew hAll (by simp)
        exact noneNew_respond d notif_id user_response
      · exact keepsIds_of_ne (by simp) (by simp)
  | reset hReady =>
      apply iff_of_true
      · apply answerable_of_noneNew hAll
        · exact not_notified_of_freed fun f hf =>
            reset_output d hReady hf
        · apply noneNew_of_emptied
          intro x
          right
          simp [hReady]
      · exact keepsIds_of_ne (by simp) (by simp)
  | parked t th hThread hPhase =>
      apply iff_of_true
      · apply answerable_of_noneNew hAll (by simp)
        apply noneNew_of_emptied
        intro x
        exact Or.inl (get_move d t .waiting x)
      · exact keepsIds_of_ne (by simp) (by simp)
  | took t turn th timedOut hThread hEarly hTimedOut hRecvd =>
      apply iff_of_true
      · apply answerable_of_noneNew hAll
        · exact not_notified_of_freed fun f hf =>
            (ignored_output hf).imp fun r hr => hr.2.2
        · apply noneNew_of_emptied
          intro x
          simp only [get_lockedSection]
          by_cases hx : x = th.pSession
          · simp [hx]
          · simp [hx]
      · constructor
        · intro t' th' msg hInput hThread' hPhase
          simp only [Input.thread.injEq] at hInput
          rw [← hInput.1, hThread] at hThread'
          cases hThread'
          simp [hPhase, Phase.early] at hEarly
        · simp
  | left t th msg hThread hPhase =>
      rw [answerable_left hAll]
      constructor
      · intro hZero
        constructor
        · intro t' th' msg' hInput hThread' _ hBusy
          simp only [Input.thread.injEq] at hInput
          rw [← hInput.1, hThread] at hThread'
          cases hThread'
          exact hZero hBusy
        · simp
      · intro hKeeps hBusy
        exact hKeeps.1 t th msg rfl hThread hPhase hBusy

/-
  In every state of a run the requests in progress can be
  answered, if and only if all its steps keep the ids.
-/
theorem answerable_prefixes_iff
    (is : List (Input ρ)) :
    (∀ js, js <+: is →
        Answerable (system.history js) (system.run js)) ↔
      History.Along (fun _ e => KeepsIds e)
        (system.history is) := by
  apply system.forall_prefix_iff_along
    (C := fun _ e => KeepsIds e) (I := Answerable)
  · intro x hBusy
    cases x <;> simp [system, NiData.zero, NiData.get,
      Session.zero, Session.busy] at hBusy
  · intro h d i hAll
    exact answerable_move hAll (move_of_step d i)

/-
  A request arrives after the thread of the one before it
  has unlocked the record and before it leaves.
-/
def lateLeave : List (Input Unit) :=
  [.init,
    .request ⟨2, 0, 0⟩ (some ()) true,
    .thread 0 .enter,
    .respond 1 accept,
    .thread 0 (.wake false),
    .request ⟨2, 0, 0⟩ (some ()) true,
    .thread 0 .leave]

theorem lateLeave_not_answerable :
    ¬ ∀ js, js <+: lateLeave →
        Answerable (system.history js) (system.run js) := by
  intro hAll
  have hLast := hAll lateLeave (List.prefix_refl _)
  have hID := (hLast .session (by decide)).1
  exact absurd hID (by decide)

end Ni

end D2Common
