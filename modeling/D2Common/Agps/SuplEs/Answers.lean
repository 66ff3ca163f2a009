import D2Common.Agps.DataServices.Answers
import D2Common.Agps.SuplEs

/-
  One answer for each emergency request.

  A request of the modem is answered by a grant or by the
  fallback to a normal SUPL connection. The fallback leaves
  the handle on the list, so a later call that comes up, or
  a retry that was queued before, can answer it once more.
  The file says which turns avoid that.

  Key definitions include:
    * `SuplEs.answers`
    * `SuplEs.FellBack`
    * `SuplEs.AnswersOnce`

  Key theorems include:
    * `SuplEs.once_of_turn`
    * `SuplEs.answered_at_most_once`
    * `SuplEs.fallback_then_grant`
-/

------------------------------------------------------------
-- Answered Requests
------------------------------------------------------------

namespace D2Common

namespace Agps

namespace SuplEs

/- The fallback of a handle to a normal SUPL connection. -/
def fallsBack (mID : Handle) : Mark → Bool
| .emitted (.requestATL id type) =>
    id == mID && type == agpsTypeSupl
| _ => false

/- A grant to a handle, or its fallback. -/
def answers (mID : Handle) : Mark → Bool
| .emitted (.atlOpenStatus id isSucc _ _ _) =>
    id == mID && isSucc == 1
| x => fallsBack mID x

/-
  The present request of the handle has been answered: by a
  grant or a fallback, after the modem has last asked for
  the handle and with no release of it since.
-/
def Answered
    (mID : Handle)
    (l : List Mark) : Prop :=
  History.Served (Asks mID) (Closed mID)
    (answers mID · = true) l

/- The present request was answered by the fallback. -/
def FellBack
    (mID : Handle)
    (l : List Mark) : Prop :=
  History.Served (Asks mID) (Closed mID)
    (fallsBack mID · = true) l

/-
  The turns that answer a handle at most once: the call that
  Pending waits for does not come up for a record that fell
  back, nor end while that record is on the list; a start in
  Released does not fall back for it again; and a request
  that a timer has queued before the handle was answered
  finds it on the list, outside Acquired.
-/
structure AnswersOnce
    (mID : Handle)
    (l : List Mark)
    (sm : AgpsStateMachine)
    (queue : List Handle)
    (m : Msg) : Prop where
  opened :
    m = .suplEsOpened →
      sm.mStatePtr = .pending → FellBack mID l →
        ∀ s ∈ sm.mSubscribers,
          s.ID = mID → s.isInactive = true
  closed :
    ∀ env, m = .suplEsClosed env →
      sm.mStatePtr = .pending → FellBack mID l →
        mID ∉ handles sm.mSubscribers
  started :
    ∀ id env, m.op queue = some (.subscribeRsrc id env) →
      sm.mStatePtr = .released →
        Roster.startOutcome sm.retries env = .fallback →
          Roster.connHandle
              (Roster.added (.ds id false)
                sm.mSubscribers) = mID →
            ¬ FellBack mID (l ++ m.arrival)
  retried :
    ∀ env, m = .queuedRequest env →
      queue.head? = some mID → Answered mID l →
        mID ∈ handles sm.mSubscribers ∧
          sm.mStatePtr ≠ .acquired

/- What such turns keep. -/
structure Once
    (mID : Handle)
    (l : List Mark)
    (sm : AgpsStateMachine) : Prop where
  fresh :
    History.Along
      (fun front x =>
        answers mID x = true → ¬ Answered mID front)
      l
  waiting :
    DS.Waits sm.mStatePtr →
      mID ∈ handles sm.mSubscribers →
        Answered mID l → FellBack mID l
  releasing :
    sm.mStatePtr = .releasing →
      ∀ s ∈ sm.mSubscribers,
        s.ID = mID → s.isInactive = false →
          ¬ Answered mID l

end SuplEs

end Agps

end D2Common

------------------------------------------------------------
-- Arrivals
------------------------------------------------------------

namespace D2Common

namespace Agps

namespace SuplEs

variable {mID : Handle}
variable {l : List Mark}
variable {sm sm' : AgpsStateMachine}
variable {queue : List Handle}
variable {m : Msg}
variable {out : List Emission}

theorem not_answers_of_mem_arrival
    {x : Mark}
    (hx : x ∈ m.arrival) :
    ¬ answers mID x = true := by
  cases x with
  | emitted e => exact (not_emitted_of_mem_arrival hx).elim
  | _ => simp [answers, fallsBack]

/- Marks that answer nobody keep what a turn keeps. -/
theorem once_append
    {segment : List Mark}
    (hOnce : Once mID l sm)
    (hSilent : ∀ x ∈ segment, ¬ answers mID x = true) :
    Once mID (l ++ segment) sm where
  fresh := by
    apply History.along_append hOnce.fresh
    intro front x back hSplit hAnswers
    exact (hSilent x (by simp [hSplit]) hAnswers).elim
  waiting := by
    intro hWaits hMem
    apply History.served_append_of_imp
      (hOnce.waiting hWaits hMem)
    intro x hx hAnswers
    exact (hSilent x hx hAnswers).elim
  releasing := by
    intro hState s hs hID hActive
    exact History.not_served_append
      (hOnce.releasing hState s hs hID hActive) hSilent

theorem once_arrival
    (hOnce : Once mID l sm) :
    Once mID (l ++ m.arrival) sm :=
  once_append hOnce fun _ hx =>
    not_answers_of_mem_arrival hx

/-
  When an answered handle is put forward, it is by a queued
  request, and the record is there already.
-/
theorem on_list_of_subscribe_answered
    (hTurn : AnswersOnce mID l sm queue m)
    (hAnswered : Answered mID (l ++ m.arrival))
    {env : DataCall}
    (hOp : m.op queue = some (.subscribeRsrc mID env)) :
    mID ∈ handles sm.mSubscribers ∧
      sm.mStatePtr ≠ .acquired := by
  rcases subscribe_of_op hOp with rfl | ⟨rfl, hHead⟩
  · rcases (History.served_concat _ _).mp hAnswered with
      ⟨hAnswers, -⟩ | ⟨-, hAsks, -⟩
    · simp [answers, fallsBack] at hAnswers
    · exact absurd rfl hAsks
  · apply hTurn.retried env rfl hHead
    simpa [Msg.arrival] using hAnswered

end SuplEs

end Agps

end D2Common

------------------------------------------------------------
-- One Turn
------------------------------------------------------------

namespace D2Common

namespace Agps

namespace SuplEs

variable {mID : Handle}
variable {l : List Mark}
variable {sm sm' : AgpsStateMachine}
variable {queue : List Handle}
variable {m : Msg}
variable {op : DS.Op}
variable {out : List Emission}

/- A call that answers the handle finds it unanswered. -/
theorem not_answered_of_call
    (hOnce : Once mID l sm)
    (hInv : DS.Inv sm)
    (hTurn : AnswersOnce mID l sm queue m)
    (hOp : m.op queue = some op)
    (hCall : DS.Answered sm mID op) :
    ¬ Answered mID (l ++ m.arrival) := by
  intro hAnswered
  have hArrived : Once mID (l ++ m.arrival) sm :=
    once_arrival hOnce
  cases hCall with
  | fallback id env hState hOutcome hFirst =>
      apply hTurn.started id env hOp hState hOutcome hFirst
      apply hArrived.waiting (Or.inl hState) _ hAnswered
      rcases DS.start_for hInv hState hFirst with
        ⟨s, hs, hID, -⟩ | ⟨rfl, -⟩
      · exact hID ▸ mem_handles hs
      · exact (on_list_of_subscribe_answered hTurn hAnswered
          hOp).1
  | joinGranted env hState =>
      exact (on_list_of_subscribe_answered hTurn hAnswered
        hOp).2 hState
  | granted env hState hActive =>
      rcases event_of_op hOp with ⟨rfl, -⟩ | ⟨-, h⟩
      · rcases hActive with ⟨s, hs, hID, hActive⟩
        simp only [Msg.arrival, List.append_nil]
          at hAnswered
        have hFell :=
          hOnce.waiting (Or.inr hState)
            (hID ▸ mem_handles hs) hAnswered
        have hInactive :=
          hTurn.opened rfl hState hFell s hs hID
        simp [hInactive] at hActive
      · cases h
  | denied event env hState hEvent hMem =>
      rcases event_of_op hOp with
        ⟨rfl, rfl⟩ | ⟨rfl, rfl⟩
      · simp at hEvent
      · simp only [Msg.arrival, List.append_nil]
          at hAnswered
        have hFell :=
          hOnce.waiting (Or.inr hState) hMem hAnswered
        exact hTurn.closed env rfl hState hFell hMem
  | restarted event env hState hActive =>
      rcases hActive with ⟨s, hs, hID, hActive⟩
      exact hArrived.releasing hState s hs hID hActive
        hAnswered
  | deniedReleasing env hState =>
      rcases event_of_op hOp with ⟨-, h⟩ | ⟨-, h⟩ <;>
        cases h

theorem answersTo_of_answers
    {e : Emission}
    (hAnswers : answers mID (.emitted e) = true) :
    DS.answersTo mID e = true := by
  cases e <;> simp_all [answers, fallsBack, DS.answersTo]

theorem reaches_of_answers
    {e : Emission}
    (hAnswers : answers mID (.emitted e) = true) :
    e.reaches mID = true := by
  cases e <;> simp_all [answers, fallsBack, Emission.reaches]

/- The messages make no call that reports a denial. -/
theorem ne_denied_of_op
    (hOp : m.op queue = some op)
    (env : DataCall) :
    op ≠ .onRsrcEvent .denied env := by
  rintro rfl
  rcases event_of_op hOp with ⟨-, h⟩ | ⟨-, h⟩ <;> cases h

theorem fresh_of_call
    (hOnce : Once mID l sm)
    (hInv : DS.Inv sm)
    (hTurn : AnswersOnce mID l sm queue m)
    (hOp : m.op queue = some op)
    (hStep : DS.Step sm op sm' out) :
    History.Along
      (fun front x =>
        answers mID x = true → ¬ Answered mID front)
      (l ++ m.arrival ++ out.map .emitted) := by
  apply History.along_append (once_arrival hOnce).fresh
  apply History.along_not_served
  · have hFew :=
      DS.answers_le_one_of_step hInv hStep
        (ne_denied_of_op hOp) mID
    have hLe :
        out.countP
            ((fun x => decide (answers mID x = true)) ∘
              Mark.emitted) ≤
          out.countP (DS.answersTo mID) := by
      apply List.countP_mono_left
      intro e he hAnswers
      exact answersTo_of_answers (by simpa using hAnswers)
    rw [List.countP_map]
    omega
  · rintro ⟨x, hx, hAnswers⟩
    rcases List.mem_map.mp hx with ⟨e, he, rfl⟩
    exact not_answered_of_call hOnce hInv hTurn hOp
      (DS.answered_of_step hInv hStep he
        (answersTo_of_answers hAnswers))

theorem waiting_of_call
    (hOnce : Once mID l sm)
    (hInv : DS.Inv sm)
    (hTurn : AnswersOnce mID l sm queue m)
    (hOp : m.op queue = some op)
    (hStep : DS.Step sm op sm' out)
    (hWaits : DS.Waits sm'.mStatePtr)
    (hMem : mID ∈ handles sm'.mSubscribers) :
    Answered mID (l ++ m.arrival ++ out.map .emitted) →
      FellBack mID
        (l ++ m.arrival ++ out.map .emitted) := by
  have hArrived : Once mID (l ++ m.arrival) sm :=
    once_arrival hOnce
  apply History.served_append_of_imp
  · intro hAnswered
    rcases DS.waits_of_step hInv hStep hWaits hMem with
      ⟨hWaited, hOld⟩ | ⟨env, rfl, hNew⟩ |
        ⟨hState, s, hs, hID, hActive⟩
    · exact hArrived.waiting hWaited hOld hAnswered
    · exact absurd
        (on_list_of_subscribe_answered hTurn hAnswered
          hOp).1 hNew
    · exact absurd hAnswered
        (hArrived.releasing hState s hs hID hActive)
  · intro x hx hAnswers
    rcases List.mem_map.mp hx with ⟨e, he, rfl⟩
    have hSome : sm'.mSubscribers ≠ [] := by
      intro hNil
      simp [hNil, handles] at hMem
    have hFallback :=
      DS.fallback_of_step hInv hStep (ne_denied_of_op hOp)
        hWaits hSome he (answersTo_of_answers hAnswers)
    subst hFallback
    simp [fallsBack]

theorem releasing_of_call
    (hOnce : Once mID l sm)
    (hInv : DS.Inv sm)
    (hTurn : AnswersOnce mID l sm queue m)
    (hOp : m.op queue = some op)
    (hStep : DS.Step sm op sm' out)
    (hState' : sm'.mStatePtr = .releasing)
    {s : Subscriber}
    (hs : s ∈ sm'.mSubscribers)
    (hID : s.ID = mID)
    (hActive : s.isInactive = false) :
    ¬ Answered mID
      (l ++ m.arrival ++ out.map .emitted) := by
  have hSilent :=
    DS.releasing_of_step hStep hState' ⟨s, hs, hActive⟩
      mID
  apply History.not_served_append
  · rcases DS.active_of_step hInv hStep hs hActive with
      hs | ⟨env, rfl, hNew⟩
    · exact (once_arrival hOnce).releasing hSilent.1 s hs
        hID hActive
    · intro hAnswered
      subst hID
      exact hNew
        (on_list_of_subscribe_answered hTurn hAnswered
          hOp).1
  · intro x hx hAnswers
    rcases List.mem_map.mp hx with ⟨e, he, rfl⟩
    exact hSilent.2 e he (answersTo_of_answers hAnswers)

theorem once_of_turn
    (hOnce : Once mID l sm)
    (hInv : DS.Inv sm)
    (hCond : AnswersOnce mID l sm queue m)
    (hTurn : Turn sm queue m sm' out) :
    Once mID (l ++ m.arrival ++ out.map .emitted) sm' := by
  cases hTurn with
  | call op sm' out hOp hStep =>
      refine ⟨?_, ?_, ?_⟩
      · exact fresh_of_call hOnce hInv hCond hOp hStep
      · exact waiting_of_call hOnce hInv hCond hOp hStep
      · intro hState s hs hID hActive
        exact releasing_of_call hOnce hInv hCond hOp hStep
          hState hs hID hActive
  | aside out hSilent =>
      apply once_append (once_arrival hOnce)
      intro x hx hAnswers
      rcases List.mem_map.mp hx with ⟨em, hem, rfl⟩
      exact hSilent em hem mID
        (reaches_of_answers hAnswers)

end SuplEs

end Agps

end D2Common

------------------------------------------------------------
-- Over A Run
------------------------------------------------------------

namespace D2Common

namespace Agps

namespace SuplEs

/-
  Every request of the modem for a handle is answered at
  most once before the handle is released or asked for
  again, in every run whose turns avoid a second answer.
-/
theorem answered_at_most_once
    (mID : Handle)
    (ms : List Msg)
    (hRun : EveryTurn (AnswersOnce mID) ms) :
    History.AtMostOnePer (Asks mID) (Closed mID)
      (answers mID · = true)
      (trace (engine.history ms)) := by
  rcases turn_induction
      (I := Once mID)
      ⟨History.along_nil,
        fun _ _ h => (History.not_served_nil h).elim,
        fun _ _ _ _ _ => History.not_served_nil⟩
      (fun _ _ _ _ _ _ hOnce hInv hCond hTurn =>
        once_of_turn hOnce hInv hCond hTurn)
      ms hRun with
    ⟨sm, -, hOnce⟩
  exact History.atMostOnePer_of_not_served hOnce.fresh

/- A trace without a fallback. -/
theorem not_fellBack_of_none
    {mID : Handle}
    {l : List Mark}
    (hNone : ∀ x ∈ l, ¬ fallsBack mID x = true) :
    ¬ FellBack mID l :=
  History.not_served_append (l := []) History.not_served_nil
    hNone

/- Two handles of one call, the first one then released. -/
theorem answered_at_most_once_joined :
    History.AtMostOnePer (Asks 7) (Closed 7)
      (answers 7 · = true)
      (trace
        (engine.history
          [.requestSuplEs 7 dataCallStarted, .suplEsOpened,
            .requestSuplEs 8 dataCallStarted,
            .releaseATL 7])) := by
  have hNoFallback :
      ¬ FellBack 7
        (trace
          (engine.history
            [.requestSuplEs 7 dataCallStarted])) :=
    not_fellBack_of_none (by decide)
  have hAcquired :
      ∀ sm ∈ (engine.run
          [.requestSuplEs 7 dataCallStarted,
            .suplEsOpened]).ds_nif,
        sm.mStatePtr ≠ .released := by
    decide
  have hRequested :
      EveryTurn (AnswersOnce 7)
        [.requestSuplEs 7 dataCallStarted] := by
    refine (everyTurn_concat [] _).mpr
      ⟨everyTurn_nil, fun sm _ => ⟨nofun, nofun, ?_, nofun⟩⟩
    intro id env hOp hState hOutcome
    cases hOp
    cases hOutcome
  have hOpened :
      EveryTurn (AnswersOnce 7)
        [.requestSuplEs 7 dataCallStarted, .suplEsOpened] :=
    (everyTurn_concat [_] _).mpr
      ⟨hRequested, fun _ _ =>
        ⟨fun _ _ hFell => (hNoFallback hFell).elim, nofun,
          nofun, nofun⟩⟩
  have hJoined :
      EveryTurn (AnswersOnce 7)
        [.requestSuplEs 7 dataCallStarted, .suplEsOpened,
          .requestSuplEs 8 dataCallStarted] :=
    (everyTurn_concat [_, _] _).mpr
      ⟨hOpened, fun sm hSm =>
        ⟨nofun, nofun, fun _ _ _ hState =>
          (hAcquired sm hSm hState).elim, nofun⟩⟩
  exact answered_at_most_once 7 _
    ((everyTurn_concat [_, _, _] _).mpr
      ⟨hJoined, fun _ _ => ⟨nofun, nofun, nofun, nofun⟩⟩)

/-
  Handle 7 falls back and stays on the list. The call that
  handle 8 starts comes up, and the grant goes to both.
-/
theorem fallback_then_grant :
    ¬ History.AtMostOnePer (Asks 7) (Closed 7)
      (answers 7 · = true)
      (trace
        (engine.history
          [.requestSuplEs 7 dataCallUnsupported,
            .requestSuplEs 8 dataCallStarted,
            .suplEsOpened])) := by
  intro hOnce
  have hFew :=
    hOnce [] (.requestSuplEs 7)
      (trace
        (engine.history
          [.requestSuplEs 7 dataCallUnsupported,
            .requestSuplEs 8 dataCallStarted,
            .suplEsOpened])).tail
      [] (by decide) rfl
      (by unfold Asks Closed; decide)
  revert hFew
  decide

end SuplEs

end Agps

end D2Common
