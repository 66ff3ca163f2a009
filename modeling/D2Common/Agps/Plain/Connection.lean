import D2Common.Agps.Plain
import D2Common.Foundations.Lease

/-
  What a plain machine tells the connectivity framework.

  The machine holds a lease on the data connection: Pending
  and Acquired hold it, Released and Releasing do not. Every
  call into the machine is one move of such a lease, so the
  requests and releases it sends are separated.

  Key definitions include:
    * `Plain.Mark`
    * `Plain.leaseAct`

  Key theorems include:
    * `Plain.talk_of_step`
    * `Plain.said_run`
    * `Plain.connection_accounting`
-/

------------------------------------------------------------
-- Messages
------------------------------------------------------------

namespace D2Common

namespace Agps

/- A call of `sendRsrcRequest` that a state made. -/
def callOf : Emission → Option AGpsStatusValue
| .sendRsrcRequest action => some action
| _ => none

/- A status handed to the servicer. -/
def statusOf : Emission → Option AGpsStatusValue
| .requestRsrc nifRequest => some nifRequest.status
| _ => none

/- Telling a subscriber says nothing to the framework. -/
theorem quiet_of_mem_notice
    {s : Subscriber}
    {addressee : Addressee}
    {sm : AgpsStateMachine}
    {st : AgpsRsrcStatus}
    {e : Emission}
    (he : e ∈ s.notice addressee sm st) :
    callOf e = none ∧ statusOf e = none := by
  rcases List.mem_cons.mp he with rfl | he
  · exact ⟨rfl, rfl⟩
  · cases st <;> cases s <;>
      simp [Subscriber.answer] at he <;>
      subst he <;> exact ⟨rfl, rfl⟩

theorem quiet_of_mem_notices
    {sm : AgpsStateMachine}
    {st : AgpsRsrcStatus}
    {l : List Subscriber}
    {e : Emission}
    (he : e ∈ notices sm st l) :
    callOf e = none ∧ statusOf e = none := by
  rcases List.mem_flatMap.mp he with ⟨s, -, he⟩
  exact quiet_of_mem_notice he

theorem quiet_of_mem_leaveOut
    {sm : AgpsStateMachine}
    {s : Subscriber}
    {e : Emission}
    (he : e ∈ Roster.leaveOut sm s) :
    callOf e = none ∧ statusOf e = none := by
  unfold Roster.leaveOut at he
  split at he
  · split at he
    · simp only [List.mem_singleton] at he
      subst he
      exact ⟨rfl, rfl⟩
    · simp at he
  · exact quiet_of_mem_notices he

theorem filterMap_quiet
    {out : List Emission}
    (hQuiet :
      ∀ e ∈ out, callOf e = none ∧ statusOf e = none) :
    out.filterMap callOf = [] ∧
      out.filterMap statusOf = [] := by
  constructor
  · exact List.filterMap_eq_nil_iff.mpr
      fun e he => (hQuiet e he).1
  · exact List.filterMap_eq_nil_iff.mpr
      fun e he => (hQuiet e he).2

theorem filterMap_notices
    (sm : AgpsStateMachine)
    (st : AgpsRsrcStatus)
    (l : List Subscriber) :
    (notices sm st l).filterMap callOf = [] ∧
      (notices sm st l).filterMap statusOf = [] :=
  filterMap_quiet fun _ he => quiet_of_mem_notices he

theorem filterMap_leaveOut
    (sm : AgpsStateMachine)
    (s : Subscriber) :
    (Roster.leaveOut sm s).filterMap callOf = [] ∧
      (Roster.leaveOut sm s).filterMap statusOf = [] :=
  filterMap_quiet fun _ he => quiet_of_mem_leaveOut he

end Agps

end D2Common

------------------------------------------------------------
-- What One Step Says
------------------------------------------------------------

namespace D2Common

namespace Agps

namespace Plain

variable {sm sm' : AgpsStateMachine}
variable {op : Op}
variable {out : List Emission}

/- The events that end a request without a release. -/
def Lapses
    (st : AgpsState)
    (op : Op) : Prop :=
  (st = .pending ∧ op = .onRsrcEvent .denied) ∨
    (st = .acquired ∧ op = .onRsrcEvent .released)

/-
  What a step says to the framework: nothing, a request, a
  release, or nothing because the request has lapsed.
-/
inductive Talk
    (sm : AgpsStateMachine)
    (op : Op)
    (sm' : AgpsStateMachine) :
    List AGpsStatusValue → Prop where
  | silent
      (hNot : ¬ Lapses sm.mStatePtr op)
      (hHolds :
        sm'.mStatePtr.Holds ↔ sm.mStatePtr.Holds)
      (hReleasing :
        sm'.mStatePtr = .releasing →
          sm.mStatePtr = .releasing) :
      Talk sm op sm' []
  | request
      (hNot : ¬ Lapses sm.mStatePtr op)
      (hBefore : ¬ sm.mStatePtr.Holds)
      (hAfter : sm'.mStatePtr = .pending) :
      Talk sm op sm' [.requestAgpsDataConn]
  | release
      (hNot : ¬ Lapses sm.mStatePtr op)
      (hBefore : sm.mStatePtr.Holds)
      (hAfter : ¬ sm'.mStatePtr.Holds) :
      Talk sm op sm' [.releaseAgpsDataConn]
  | lapse
      (hLapses : Lapses sm.mStatePtr op)
      (hBefore : sm.mStatePtr.Holds)
      (hAfter : sm'.mStatePtr = .released) :
      Talk sm op sm' []

theorem not_lapses_of_client
    {st : AgpsState}
    (hOp : ∀ event, op ≠ .onRsrcEvent event) :
    ¬ Lapses st op := by
  rintro (⟨-, rfl⟩ | ⟨-, rfl⟩)
  · exact hOp .denied rfl
  · exact hOp .released rfl

theorem not_lapses_of_ignores
    {st : AgpsState}
    {event : AgpsRsrcStatus}
    (hIgnores : Ignores st event) :
    ¬ Lapses st (.onRsrcEvent event) := by
  rintro (⟨rfl, hEvent⟩ | ⟨rfl, hEvent⟩)
  · cases hEvent
    exact hIgnores
  · cases hEvent
    exact hIgnores

/- A step that keeps the state and tells only subscribers. -/
theorem talk_of_quiet
    (hState : sm'.mStatePtr = sm.mStatePtr)
    (hNot : ¬ Lapses sm.mStatePtr op)
    (hQuiet :
      ∀ e ∈ out, callOf e = none ∧ statusOf e = none) :
    out.filterMap callOf = out.filterMap statusOf ∧
      Talk sm op sm' (out.filterMap statusOf) := by
  rcases filterMap_quiet hQuiet with ⟨hCalls, hStatuses⟩
  rw [hCalls, hStatuses]
  refine ⟨rfl, Talk.silent hNot ?_ ?_⟩
  · rw [hState]
  · rw [hState]
    exact id

theorem filterMap_requestOut
    (sm : AgpsStateMachine)
    (s : Subscriber) :
    (requestOut sm s).filterMap callOf =
        [.requestAgpsDataConn] ∧
      (requestOut sm s).filterMap statusOf =
        [.requestAgpsDataConn] :=
  ⟨rfl, rfl⟩

theorem filterMap_releaseOut
    (hPlain : sm.mRetries = none) :
    (Roster.releaseOut sm).filterMap callOf =
        [.releaseAgpsDataConn] ∧
      (Roster.releaseOut sm).filterMap statusOf =
        [.releaseAgpsDataConn] := by
  unfold Roster.releaseOut
  rw [hPlain]
  exact ⟨rfl, rfl⟩

theorem talk_of_step
    (hInv : Inv sm)
    (hStep : Step sm op sm' out) :
    out.filterMap callOf = out.filterMap statusOf ∧
      Talk sm op sm' (out.filterMap statusOf) := by
  cases hStep with
  | unknown c hFind =>
      exact talk_of_quiet rfl
        (not_lapses_of_client (by simp)) (by simp)
  | ignore event hIgnores =>
      exact talk_of_quiet rfl
        (not_lapses_of_ignores hIgnores) (by simp)
  | setAPN apn =>
      exact talk_of_quiet rfl
        (not_lapses_of_client (by simp)) (by simp)
  | setBearer bearer =>
      exact talk_of_quiet rfl
        (not_lapses_of_client (by simp)) (by simp)
  | refuse c hRefuses =>
      exact talk_of_quiet rfl
        (not_lapses_of_client (by simp))
        (fun e he => quiet_of_mem_notice he)
  | start c hState =>
      exact ⟨rfl,
        Talk.request (not_lapses_of_client (by simp))
          (by simp [hState, AgpsState.Holds]) rfl⟩
  | join c hAdmits hState =>
      exact talk_of_quiet rfl
        (not_lapses_of_client (by simp)) (by simp)
  | joinGranted c hAdmits hState =>
      exact talk_of_quiet rfl
        (not_lapses_of_client (by simp))
        (fun e he => quiet_of_mem_notice he)
  | leave c t hFind hState hSome =>
      exact talk_of_quiet rfl
        (not_lapses_of_client (by simp))
        (fun e he => quiet_of_mem_leaveOut he)
  | leaveLast c t hFind hState hNone =>
      rcases filterMap_leaveOut sm t with
        ⟨hCalls, hStatuses⟩
      rcases filterMap_releaseOut hInv.plain with
        ⟨hCalls', hStatuses'⟩
      simp only [List.filterMap_append, hCalls, hStatuses,
        hCalls', hStatuses', List.nil_append]
      exact ⟨trivial,
        Talk.release (not_lapses_of_client (by simp)) hState
          not_holds_of_leave⟩
  | leaveReleasing c t hFind hState =>
      rcases filterMap_leaveOut sm t with
        ⟨hCalls, hStatuses⟩
      rw [hCalls, hStatuses]
      refine ⟨rfl,
        Talk.silent (not_lapses_of_client (by simp)) ?_ ?_⟩
      · exact iff_of_false not_holds_of_leave
          (by simp [hState, AgpsState.Holds])
      · exact fun _ => hState
  | grant hState =>
      rcases filterMap_notices sm .granted
          (sm.mSubscribers.filter (!·.isInactive)) with
        ⟨hCalls, hStatuses⟩
      rw [hCalls, hStatuses]
      refine ⟨rfl, Talk.silent ?_ ?_ ?_⟩
      · simp [hState, Lapses]
      · simp [hState, AgpsState.Holds]
      · simp
  | dismiss st hState =>
      rcases filterMap_notices sm st sm.mSubscribers with
        ⟨hCalls, hStatuses⟩
      rw [hCalls, hStatuses]
      refine ⟨rfl, Talk.lapse ?_ ?_ rfl⟩
      · simpa [Lapses] using hState
      · exact hState.imp (·.1) (·.1)
  | closeDown st hStatus hState hInactive =>
      rcases filterMap_notices sm st sm.mSubscribers with
        ⟨hCalls, hStatuses⟩
      rw [hCalls, hStatuses]
      refine ⟨rfl, Talk.silent ?_ ?_ ?_⟩
      · simp [hState, Lapses]
      · simp [hState, AgpsState.Holds]
      · simp
  | restart st s hStatus hState hActive =>
      rcases filterMap_notices sm st
          (sm.mSubscribers.filter (·.isInactive)) with
        ⟨hCalls, hStatuses⟩
      rcases filterMap_requestOut sm s with
        ⟨hCalls', hStatuses'⟩
      simp only [List.filterMap_append, hCalls, hStatuses,
        hCalls', hStatuses', List.nil_append]
      refine ⟨trivial, Talk.request ?_ ?_ rfl⟩
      · simp [hState, Lapses]
      · simp [hState, AgpsState.Holds]

end Plain

end Agps

end D2Common

------------------------------------------------------------
-- The Lease Over A Run
------------------------------------------------------------

namespace D2Common

namespace Agps

instance
    (st : AgpsState) :
    Decidable st.Holds :=
  inferInstanceAs (Decidable (_ ∨ _))

namespace Plain

/-
  The marks of a run: a call with the state that handles it,
  and each thing emitted on the way.
-/
inductive Mark where
  | handled (st : AgpsState) (op : Op)
  | emitted (e : Emission)

def marksOf (ev : Event) : List Mark :=
  .handled ev.before.mStatePtr ev.input ::
    ev.output.map .emitted

def marks (h : List Event) : List Mark :=
  h.flatMap marksOf

/- The statuses handed to the servicer over a run. -/
def statuses (h : List Event) : List AGpsStatusValue :=
  h.flatMap fun ev => ev.output.filterMap statusOf

/- A status handed over, as a mark. -/
def Sent
    (status : AGpsStatusValue)
    (m : Mark) : Prop :=
  ∃ e, m = .emitted e ∧ statusOf e = some status

/- A request that ends without a release, as a mark. -/
def Lapsed (m : Mark) : Prop :=
  ∃ st op, m = .handled st op ∧ Lapses st op

def actOf : AGpsStatusValue → Lease.Act
| .requestAgpsDataConn => .request
| .releaseAgpsDataConn => .release

/- The act of the lease that a mark stands for. -/
def leaseAct : Mark → Option Lease.Act
| .handled .pending (.onRsrcEvent .denied) => some .lapse
| .handled .acquired (.onRsrcEvent .released) => some .lapse
| .handled _ _ => none
| .emitted e => (statusOf e).map actOf

theorem leaseAct_of_lapses
    {st : AgpsState}
    {op : Op}
    (hLapses : Lapses st op) :
    leaseAct (.handled st op) = some .lapse := by
  rcases hLapses with ⟨rfl, rfl⟩ | ⟨rfl, rfl⟩ <;> rfl

theorem leaseAct_of_not_lapses
    {st : AgpsState}
    {op : Op}
    (hNot : ¬ Lapses st op) :
    leaseAct (.handled st op) = none := by
  unfold leaseAct
  split
  · next hMark =>
      cases hMark
      exact absurd (Or.inl ⟨rfl, rfl⟩) hNot
  · next hMark =>
      cases hMark
      exact absurd (Or.inr ⟨rfl, rfl⟩) hNot
  · rfl
  · next hMark => cases hMark

theorem filterMap_emitted
    (out : List Emission) :
    (out.map Mark.emitted).filterMap leaseAct =
      (out.filterMap statusOf).map actOf := by
  rw [List.filterMap_map, List.map_filterMap]
  rfl

/- One call is one move of the lease. -/
theorem moves_of_talk
    {ev : Event}
    (hTalk :
      Talk ev.before ev.input ev.after
        (ev.output.filterMap statusOf)) :
    Lease.Moves (decide ev.before.mStatePtr.Holds)
      ((marksOf ev).filterMap leaseAct)
      (decide ev.after.mStatePtr.Holds) := by
  unfold marksOf
  rw [List.filterMap_cons, filterMap_emitted]
  generalize ev.output.filterMap statusOf = said at hTalk
  cases hTalk with
  | silent hNot hHolds hReleasing =>
      rw [leaseAct_of_not_lapses hNot]
      simpa [hHolds] using Lease.Moves.rest _
  | request hNot hBefore hAfter =>
      rw [leaseAct_of_not_lapses hNot]
      have hHolds : ev.after.mStatePtr.Holds :=
        Or.inl hAfter
      simpa [hBefore, hHolds, actOf]
        using Lease.Moves.request
  | release hNot hBefore hAfter =>
      rw [leaseAct_of_not_lapses hNot]
      simpa [hBefore, hAfter, actOf]
        using Lease.Moves.release
  | lapse hLapses hBefore hAfter =>
      rw [leaseAct_of_lapses hLapses]
      have hNot : ¬ ev.after.mStatePtr.Holds := by
        simp [hAfter, AgpsState.Holds]
      simpa [hBefore, hNot] using Lease.Moves.lapse

/- What a run has said, with the state it has reached. -/
structure Said
    (h : List Event)
    (sm : AgpsStateMachine) : Prop where
  inv : Inv sm
  calls :
    ∀ ev ∈ h,
      ev.output.filterMap callOf =
        ev.output.filterMap statusOf
  lawful :
    Lease.Lawful ((marks h).filterMap leaseAct)
      (decide sm.mStatePtr.Holds)
  request :
    sm.mStatePtr.Holds →
      (statuses h).getLast? = some .requestAgpsDataConn
  release :
    sm.mStatePtr = .releasing →
      (statuses h).getLast? = some .releaseAgpsDataConn

theorem statuses_concat
    (h : List Event)
    (ev : Event) :
    statuses (h ++ [ev]) =
      statuses h ++ ev.output.filterMap statusOf := by
  simp [statuses]

theorem said_concat
    {h : List Event}
    (ev : Event)
    (hSaid : Said h ev.before)
    (hStep : Step ev.before ev.input ev.after ev.output) :
    Said (h ++ [ev]) ev.after := by
  rcases talk_of_step hSaid.inv hStep with ⟨hCalls, hTalk⟩
  have hMoves := moves_of_talk hTalk
  refine ⟨inv_of_step hSaid.inv hStep, ?_, ?_, ?_, ?_⟩
  · intro ev' hMem
    rcases List.mem_append.mp hMem with hMem | hMem
    · exact hSaid.calls ev' hMem
    · simp only [List.mem_singleton] at hMem
      exact hMem ▸ hCalls
  · have hLawful :=
      Lease.lawful_append hSaid.lawful hMoves
    simpa [marks] using hLawful
  · intro hHolds
    rw [statuses_concat]
    generalize ev.output.filterMap statusOf = said at hTalk
    cases hTalk with
    | silent hNot hSame hReleasing =>
        simpa using hSaid.request (hSame.mp hHolds)
    | request hNot hBefore hAfter => simp
    | release hNot hBefore hAfter =>
        exact absurd hHolds hAfter
    | lapse hLapses hBefore hAfter =>
        simp [hAfter, AgpsState.Holds] at hHolds
  · intro hReleasing
    rw [statuses_concat]
    generalize ev.output.filterMap statusOf = said at hTalk
    cases hTalk with
    | silent hNot hSame hBefore =>
        simpa using hSaid.release (hBefore hReleasing)
    | request hNot hBefore hAfter =>
        simp [hAfter] at hReleasing
    | release hNot hBefore hAfter => simp
    | lapse hLapses hBefore hAfter =>
        simp [hAfter] at hReleasing

theorem said_run
    (type : AGpsExtType)
    (single : Bool)
    (ops : List Op) :
    Said ((machine type single).history ops)
      ((machine type single).run ops) := by
  apply (machine type single).history_induction_of_all
    (I := Said)
  · exact
      ⟨inv_new type single, by simp, Lease.Lawful.nil,
        by simp [machine, AgpsStateMachine.new,
          AgpsState.Holds],
        by simp [machine, AgpsStateMachine.new]⟩
  · intro h sm op hSaid
    exact said_concat ((machine type single).event sm op)
      hSaid (step_of_call hSaid.inv op)

end Plain

end Agps

end D2Common

------------------------------------------------------------
-- Accounting
------------------------------------------------------------

namespace D2Common

namespace Agps

namespace Plain

open History

theorem leaseAct_of_sent
    {status : AGpsStatusValue}
    {m : Mark}
    (hSent : Sent status m) :
    leaseAct m = some (actOf status) := by
  rcases hSent with ⟨e, rfl, hStatus⟩
  simp [leaseAct, hStatus]

/- Each act of the lease is a message or a lapse. -/
theorem mark_of_leaseAct
    {m : Mark}
    {a : Lease.Act}
    (hAct : leaseAct m = some a) :
    (a = .request ∧ Sent .requestAgpsDataConn m) ∨
      (a = .release ∧ Sent .releaseAgpsDataConn m) ∨
      (a = .lapse ∧ Lapsed m) := by
  cases m with
  | handled st op =>
      by_cases hLapses : Lapses st op
      · rw [leaseAct_of_lapses hLapses] at hAct
        cases hAct
        exact Or.inr (Or.inr ⟨rfl, st, op, rfl, hLapses⟩)
      · rw [leaseAct_of_not_lapses hLapses] at hAct
        cases hAct
  | emitted e =>
      rcases Option.map_eq_some_iff.mp hAct with
        ⟨status, hStatus, rfl⟩
      cases status with
      | requestAgpsDataConn =>
          exact Or.inl ⟨rfl, e, rfl, hStatus⟩
      | releaseAgpsDataConn =>
          exact Or.inr (Or.inl ⟨rfl, e, rfl, hStatus⟩)

/-
  Requests and releases over any run: every call of a state
  reaches the servicer, the last message fits the state, and
  the messages alternate unless a request has lapsed.
-/
theorem connection_accounting
    (type : AGpsExtType)
    (enforceSingleSubscriber : Bool)
    (ops : List Op) :
    let M := machine type enforceSingleSubscriber
    let h := M.history ops
    let sm := M.run ops
    (∀ ev ∈ h,
        ev.output.filterMap callOf =
          ev.output.filterMap statusOf) ∧
      (sm.mStatePtr = .pending ∨ sm.mStatePtr = .acquired →
        (statuses h).getLast? =
          some .requestAgpsDataConn) ∧
      (sm.mStatePtr = .releasing →
        (statuses h).getLast? =
          some .releaseAgpsDataConn) ∧
      Between (Sent .releaseAgpsDataConn)
        (Sent .requestAgpsDataConn)
        (Sent .releaseAgpsDataConn) (marks h) ∧
      Between (Sent .requestAgpsDataConn)
        (fun m =>
          Sent .releaseAgpsDataConn m ∨
            m = .handled .pending (.onRsrcEvent .denied) ∨
            m =
              .handled .acquired (.onRsrcEvent .released))
        (Sent .requestAgpsDataConn) (marks h) := by
  intro M h sm
  have hSaid := said_run type enforceSingleSubscriber ops
  refine ⟨hSaid.calls, hSaid.request, hSaid.release,
    ?_, ?_⟩
  · apply between_of_filterMap leaseAct
      (Lease.between_releases hSaid.lawful)
    · intro m hSent
      exact ⟨_, leaseAct_of_sent hSent, rfl⟩
    · intro m hSent
      exact ⟨_, leaseAct_of_sent hSent, rfl⟩
    · rintro m a hAct rfl
      rcases mark_of_leaseAct hAct with
        ⟨-, hSent⟩ | ⟨hFalse, -⟩ | ⟨hFalse, -⟩
      · exact hSent
      · cases hFalse
      · cases hFalse
  · apply between_of_filterMap leaseAct
      (Lease.between_requests hSaid.lawful)
    · intro m hSent
      exact ⟨_, leaseAct_of_sent hSent, rfl⟩
    · intro m hSent
      exact ⟨_, leaseAct_of_sent hSent, rfl⟩
    · intro m a hAct hEnds
      rcases mark_of_leaseAct hAct with
        ⟨rfl, -⟩ | ⟨-, hSent⟩ | ⟨-, hLapsed⟩
      · rcases hEnds with hEnds | hEnds <;> cases hEnds
      · exact Or.inl hSent
      · rcases hLapsed with
          ⟨st, op, rfl, ⟨rfl, rfl⟩ | ⟨rfl, rfl⟩⟩
        · exact Or.inr (Or.inl rfl)
        · exact Or.inr (Or.inr rfl)

end Plain

end Agps

end D2Common
