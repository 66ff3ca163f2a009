import D2Common.Agps.DataServices

/-
  Who is answered by a call into the data services machine.

  A handle is answered by a grant or by the fallback to a
  normal SUPL connection. The file says which calls answer
  it, that one call does so at most once, and who has become
  active when it returns.

  Key definitions include:
    * `DS.answersTo`
    * `DS.Answered`

  Key theorems include:
    * `DS.answered_of_step`
    * `DS.answers_le_one_of_step`
    * `DS.active_of_step`
-/

------------------------------------------------------------
-- Answers
------------------------------------------------------------

namespace D2Common

namespace Agps

namespace DS

/- A connection status, or the fallback, for a handle. -/
def answersTo (mID : Handle) : Emission → Bool
| .atlOpenStatus id _ _ _ _ => id == mID
| .requestATL id _ => id == mID
| _ => false

/- One record is answered at most once, for its handle. -/
theorem countP_notice_le
    {s : Subscriber}
    (hDS : s.isDS = true)
    (a : Addressee)
    (sm : AgpsStateMachine)
    (st : AgpsRsrcStatus)
    (mID : Handle) :
    (s.notice a sm st).countP (answersTo mID) ≤
      if s.ID = mID then 1 else 0 := by
  cases s with
  | ds id inactive =>
      by_cases hID : id = mID <;>
        cases st <;>
          simp [Subscriber.notice, Subscriber.answer,
            Subscriber.ID, answersTo, hID]
  | _ => simp [Subscriber.isDS] at hDS

theorem countP_notices_le
    {l : List Subscriber}
    (hDS : ∀ s ∈ l, s.isDS = true)
    (sm : AgpsStateMachine)
    (st : AgpsRsrcStatus)
    (mID : Handle) :
    (notices sm st l).countP (answersTo mID) ≤
      (handles l).count mID := by
  induction l with
  | nil => simp [notices]
  | cons s l ih =>
      have hHead :=
        countP_notice_le (hDS s (by simp)) .listed sm st mID
      have hTail := ih (fun t ht => hDS t (by simp [ht]))
      have hCount :
          (handles (s :: l)).count mID =
            (handles l).count mID +
              if s.ID = mID then 1 else 0 := by
        simp [handles, List.count_cons]
      rw [notices_cons, List.countP_append, hCount]
      omega

/- A list with one record for each handle answers once. -/
theorem countP_notices_le_one
    {l : List Subscriber}
    (hl : Handles l)
    (sm : AgpsStateMachine)
    (st : AgpsRsrcStatus)
    (mID : Handle) :
    (notices sm st l).countP (answersTo mID) ≤ 1 := by
  have hCount :=
    List.nodup_iff_count_le_one.mp hl.nodup mID
  have hNotices :=
    countP_notices_le hl.allDS sm st mID
  omega

/- The end of a data call is no answer to anybody. -/
theorem not_answers_of_released
    {l : List Subscriber}
    (hDS : ∀ s ∈ l, s.isDS = true)
    {sm : AgpsStateMachine}
    {e : Emission}
    (he : e ∈ notices sm .released l)
    (mID : Handle) :
    ¬ answersTo mID e = true := by
  rcases List.mem_flatMap.mp he with ⟨s, hs, he⟩
  have hsDS := hDS s hs
  cases s with
  | ds id inactive =>
      simp only [Subscriber.notice, Subscriber.answer,
        List.mem_cons, List.not_mem_nil, or_false] at he
      rcases he with rfl | rfl <;> simp [answersTo]
  | _ => simp [Subscriber.isDS] at hsDS

theorem answered_of_mem_notices
    {l : List Subscriber}
    (hDS : ∀ s ∈ l, s.isDS = true)
    {sm : AgpsStateMachine}
    {st : AgpsRsrcStatus}
    {mID : Handle}
    {e : Emission}
    (he : e ∈ notices sm st l)
    (hAnswers : answersTo mID e = true) :
    mID ∈ handles l := by
  have hPos :
      0 < (notices sm st l).countP (answersTo mID) :=
    List.countP_pos_iff.mpr ⟨e, he, hAnswers⟩
  have hCount := countP_notices_le hDS sm st mID
  exact List.count_pos_iff.mp (by omega)

/- A start answers the handle it is made for, or nobody. -/
theorem answered_of_mem_startOut
    {l : List Subscriber}
    {retries : BitVec 8}
    {env : DataCall}
    {mID : Handle}
    {e : Emission}
    (he : e ∈ Roster.startOut l retries env)
    (hAnswers : answersTo mID e = true) :
    Roster.startOutcome retries env = .fallback ∧
      Roster.connHandle l = mID := by
  unfold Roster.startOut at he
  rcases List.mem_cons.mp he with rfl | he
  · simp [answersTo] at hAnswers
  rcases List.mem_cons.mp he with rfl | he
  · simp [answersTo] at hAnswers
  cases hOutcome : Roster.startOutcome retries env with
  | fallback =>
      simp only [hOutcome, List.mem_singleton] at he
      subst he
      exact ⟨rfl, by simpa [answersTo] using hAnswers⟩
  | retry =>
      simp only [hOutcome, List.mem_singleton] at he
      subst he
      simp [answersTo] at hAnswers
  | _ => simp [hOutcome] at he

theorem countP_startOut_le_one
    (l : List Subscriber)
    (retries : BitVec 8)
    (env : DataCall)
    (mID : Handle) :
    (Roster.startOut l retries env).countP
        (answersTo mID) ≤ 1 := by
  unfold Roster.startOut
  cases Roster.startOutcome retries env with
  | fallback =>
      by_cases hID : Roster.connHandle l = mID <;>
        simp [answersTo, hID]
  | _ => simp [answersTo]

/- The handle of a start belongs to an active record. -/
theorem active_connHandle
    {l : List Subscriber}
    (hActive : ∃ s ∈ l, s.isInactive = false) :
    ∃ s ∈ l, s.isInactive = false ∧
      s.ID = Roster.connHandle l := by
  unfold Roster.connHandle
  cases hFind : l.find? (!·.isInactive) with
  | some s =>
      have hs : s.isInactive = false := by
        simpa using List.find?_some hFind
      exact ⟨s, List.mem_of_find?_eq_some hFind, hs, rfl⟩
  | none =>
      rcases hActive with ⟨s, hs, hsActive⟩
      have hNone := List.find?_eq_none.mp hFind s hs
      simp [hsActive] at hNone

end DS

end Agps

end D2Common

------------------------------------------------------------
-- The Calls That Answer
------------------------------------------------------------

namespace D2Common

namespace Agps

namespace DS

/- The calls that can answer a handle, and from where. -/
inductive Answered
    (sm : AgpsStateMachine)
    (mID : Handle) :
    Op → Prop where
  | fallback
      (id : Handle)
      (env : DataCall)
      (hState : sm.mStatePtr = .released)
      (hOutcome :
        Roster.startOutcome sm.retries env = .fallback)
      (hFirst :
        Roster.connHandle
          (Roster.added (.ds id false) sm.mSubscribers) =
            mID) :
      Answered sm mID (.subscribeRsrc id env)
  | joinGranted
      (env : DataCall)
      (hState : sm.mStatePtr = .acquired) :
      Answered sm mID (.subscribeRsrc mID env)
  | granted
      (env : DataCall)
      (hState : sm.mStatePtr = .pending)
      (hActive :
        ∃ s ∈ sm.mSubscribers,
          s.ID = mID ∧ s.isInactive = false) :
      Answered sm mID (.onRsrcEvent .granted env)
  | denied
      (event : AgpsRsrcStatus)
      (env : DataCall)
      (hState : sm.mStatePtr = .pending)
      (hEvent : event = .released ∨ event = .denied)
      (hMem : mID ∈ handles sm.mSubscribers) :
      Answered sm mID (.onRsrcEvent event env)
  | restarted
      (event : AgpsRsrcStatus)
      (env : DataCall)
      (hState : sm.mStatePtr = .releasing)
      (hActive :
        ∃ s ∈ sm.mSubscribers,
          s.ID = mID ∧ s.isInactive = false) :
      Answered sm mID (.onRsrcEvent event env)
  | deniedReleasing
      (env : DataCall)
      (hState : sm.mStatePtr = .releasing) :
      Answered sm mID (.onRsrcEvent .denied env)

variable {sm sm' : AgpsStateMachine}
variable {op : Op}
variable {out : List Emission}
variable {mID : Handle}

/-
  A start in Released is made for an active record of the
  list, or for the handle that has just come.
-/
theorem start_for
    (hInv : Inv sm)
    (hState : sm.mStatePtr = .released)
    {id : Handle}
    (hFirst :
      Roster.connHandle
        (Roster.added (.ds id false) sm.mSubscribers) =
          mID) :
    (∃ s ∈ sm.mSubscribers,
        s.ID = mID ∧ s.isInactive = false) ∨
      (id = mID ∧ mID ∉ handles sm.mSubscribers) := by
  have hMem := mem_added_iff hInv.list id
  have hSome :
      ∃ s ∈ Roster.added (.ds id false) sm.mSubscribers,
        s.isInactive = false := by
    by_cases hOld : id ∈ handles sm.mSubscribers
    · rcases List.mem_map.mp hOld with ⟨s, hs, -⟩
      exact ⟨s, (hMem s).mpr (Or.inl hs),
        hInv.released hState s hs⟩
    · exact ⟨.ds id false,
        (hMem _).mpr (Or.inr ⟨rfl, hOld⟩), rfl⟩
  rcases active_connHandle hSome with ⟨s, hs, hActive, hID⟩
  rw [hFirst] at hID
  rcases (hMem s).mp hs with hs | ⟨rfl, hNew⟩
  · exact Or.inl ⟨s, hs, hID, hActive⟩
  · have hSame : id = mID := hID
    exact Or.inr ⟨hSame, hSame ▸ hNew⟩

/- When a release closes down, only a restart answers. -/
theorem answered_of_restart
    (hInv : Inv sm)
    {event : AgpsRsrcStatus}
    {env : DataCall}
    (hState : sm.mStatePtr = .releasing)
    (hEvent : event = .released ∨ event = .denied)
    (hActive :
      ∃ s ∈ sm.mSubscribers, s.isInactive = false)
    {retries : BitVec 8}
    {e : Emission}
    (he :
      e ∈ notices sm event
            (sm.mSubscribers.filter (·.isInactive)) ∨
        e ∈ Roster.startOut
            (sm.mSubscribers.filter (!·.isInactive))
            retries env)
    (hAnswers : answersTo mID e = true) :
    Answered sm mID (.onRsrcEvent event env) := by
  rcases he with he | he
  · rcases hEvent with rfl | rfl
    · have hFilter :=
        handles_filter hInv.list (·.isInactive)
      exact absurd hAnswers
        (not_answers_of_released hFilter.allDS he mID)
    · exact Answered.deniedReleasing env hState
  · have hFirst := (answered_of_mem_startOut he hAnswers).2
    rcases hActive with ⟨s, hs, hsActive⟩
    have hKept :
        s ∈ sm.mSubscribers.filter (!·.isInactive) :=
      List.mem_filter.mpr ⟨hs, by simp [hsActive]⟩
    rcases active_connHandle ⟨s, hKept, hsActive⟩ with
      ⟨t, ht, htActive, htID⟩
    exact Answered.restarted event env hState
      ⟨t, List.mem_of_mem_filter ht, htID.trans hFirst,
        htActive⟩

/- A record that is told to leave closes its handle. -/
theorem mem_notice_unsubscribe
    {s : Subscriber}
    (hDS : s.isDS = true)
    {addressee : Addressee}
    {e : Emission}
    (he : e ∈ s.notice addressee sm .unsubscribe) :
    e = .notified addressee s .unsubscribe ∨
      e = .atlCloseStatus s.ID 1 := by
  cases s with
  | ds id inactive =>
      simpa [Subscriber.notice, Subscriber.answer] using he
  | _ => simp [Subscriber.isDS] at hDS

theorem answered_of_step
    (hInv : Inv sm)
    (hStep : Step sm op sm' out)
    {e : Emission}
    (he : e ∈ out)
    (hAnswers : answersTo mID e = true) :
    Answered sm mID op := by
  cases hStep with
  | unknown id hAbsent => simp at he
  | ignore event env hIgnores => simp at he
  | start id env hState =>
      have hStart := answered_of_mem_startOut he hAnswers
      exact Answered.fallback id env hState hStart.1
        hStart.2
  | join id env hState => simp at he
  | joinGranted id env hState =>
      have hID : id = mID := by
        simp only [Subscriber.notice, Subscriber.answer,
          List.mem_cons, List.not_mem_nil, or_false] at he
        rcases he with rfl | rfl
        · simp [answersTo] at hAnswers
        · simpa [answersTo] using hAnswers
      subst hID
      exact Answered.joinGranted env hState
  | tell s hs hState =>
      rcases mem_notice_unsubscribe (hInv.list.allDS s hs) he
        with rfl | rfl
      · simp [answersTo] at hAnswers
      · simp [answersTo] at hAnswers
  | leave s hs hState hLeft =>
      simp only [List.mem_singleton] at he
      subst he
      simp [answersTo] at hAnswers
  | leaveLast s hs hState hLeft =>
      simp only [List.mem_cons, List.not_mem_nil,
        or_false] at he
      rcases he with rfl | rfl | rfl <;>
        simp [answersTo] at hAnswers
  | leaveReleasing s hs hState =>
      simp only [List.mem_singleton] at he
      subst he
      simp [answersTo] at hAnswers
  | grant env hState =>
      have hl := handles_filter hInv.list (!·.isInactive)
      have hMem :=
        answered_of_mem_notices hl.allDS he hAnswers
      rcases List.mem_map.mp hMem with ⟨s, hs, hID⟩
      rcases List.mem_filter.mp hs with ⟨hs, hActive⟩
      exact Answered.granted env hState
        ⟨s, hs, hID, by simpa using hActive⟩
  | dismissDenied event env hState hEvent =>
      have hMem :=
        answered_of_mem_notices hInv.list.allDS he hAnswers
      exact Answered.denied event env hState hEvent hMem
  | dismissReleased env hState =>
      exact absurd hAnswers
        (not_answers_of_released hInv.list.allDS he mID)
  | closeDown event env hState hEvent hInactive =>
      rcases hEvent with rfl | rfl
      · exact absurd hAnswers
          (not_answers_of_released hInv.list.allDS he mID)
      · exact Answered.deniedReleasing env hState
  | restart event env hState hEvent hActive =>
      exact answered_of_restart hInv hState hEvent hActive
        (List.mem_append.mp he) hAnswers
  | retry s hs =>
      simp only [List.mem_singleton] at he
      subst he
      simp [answersTo] at hAnswers
  | noRetry hNone => simp at he

/-
  One call answers a handle at most once. The data services
  report the end of a call as a release, never as a denial.
-/
theorem answers_le_one_of_step
    (hInv : Inv sm)
    (hStep : Step sm op sm' out)
    (hOp : ∀ env, op ≠ .onRsrcEvent .denied env)
    (mID : Handle) :
    out.countP (answersTo mID) ≤ 1 := by
  cases hStep with
  | start id env hState => exact countP_startOut_le_one ..
  | joinGranted id env hState =>
      have hNotice :=
        countP_notice_le (s := .ds id false) rfl .caller sm
          .granted mID
      split at hNotice <;> omega
  | tell s hs hState =>
      have hNotice :=
        countP_notice_le (hInv.list.allDS s hs) .listed sm
          .unsubscribe mID
      split at hNotice <;> omega
  | grant env hState =>
      exact countP_notices_le_one
        (handles_filter hInv.list _) ..
  | dismissDenied event env hState hEvent =>
      exact countP_notices_le_one hInv.list ..
  | dismissReleased env hState =>
      exact countP_notices_le_one hInv.list ..
  | closeDown event env hState hEvent hInactive =>
      exact countP_notices_le_one hInv.list ..
  | restart event env hState hEvent hActive =>
      rcases hEvent with rfl | rfl
      · have hFilter :=
          handles_filter hInv.list (·.isInactive)
        have hTold :
            (notices sm .released
              (sm.mSubscribers.filter
                (·.isInactive))).countP
              (answersTo mID) = 0 :=
          List.countP_eq_zero.mpr fun e he =>
            not_answers_of_released hFilter.allDS he mID
        rw [List.countP_append, hTold, Nat.zero_add]
        exact countP_startOut_le_one ..
      · exact absurd rfl (hOp env)
  | _ => simp [answersTo]

/-
  A departure leaves the records of others as they are and
  marks its own.
-/
theorem inactive_of_mem_left
    (hInv : Inv sm)
    {s t : Subscriber}
    (ht : t ∈ sm.mSubscribers)
    (hs : s ∈ Roster.left t sm.mSubscribers) :
    (s ∈ sm.mSubscribers ∧ s.ID ≠ t.ID) ∨
      s.isInactive = true := by
  rcases (mem_left_iff hInv.list ht s).mp hs with hs | rfl
  · exact Or.inl hs
  · exact Or.inr
      (Subscriber.isInactive_inactivated
        (t.waitForCloseComplete_of_isDS
          (hInv.list.allDS t ht)))

/-
  Whoever is active after a call was active before it, or is
  the handle that the call has put on the list.
-/
theorem active_of_step
    (hInv : Inv sm)
    (hStep : Step sm op sm' out)
    {s : Subscriber}
    (hs : s ∈ sm'.mSubscribers)
    (hActive : s.isInactive = false) :
    s ∈ sm.mSubscribers ∨
      ∃ env, op = .subscribeRsrc s.ID env ∧
        s.ID ∉ handles sm.mSubscribers := by
  have hAdded (id : Handle) (env : DataCall)
      (hs :
        s ∈ Roster.added (.ds id false) sm.mSubscribers) :
      s ∈ sm.mSubscribers ∨
        ∃ env', Op.subscribeRsrc id env =
            .subscribeRsrc s.ID env' ∧
          s.ID ∉ handles sm.mSubscribers := by
    rcases (mem_added_iff hInv.list id s).mp hs with
      hs | ⟨rfl, hNew⟩
    · exact Or.inl hs
    · exact Or.inr ⟨env, rfl, hNew⟩
  have hLeft (t : Subscriber) (ht : t ∈ sm.mSubscribers)
      (hs : s ∈ Roster.left t sm.mSubscribers) :
      s ∈ sm.mSubscribers := by
    rcases inactive_of_mem_left hInv ht hs with
      ⟨hs, -⟩ | hInactive
    · exact hs
    · simp [hInactive] at hActive
  cases hStep with
  | start id env hState => exact hAdded id env hs
  | join id env hState => exact hAdded id env hs
  | joinGranted id env hState => exact hAdded id env hs
  | leave t ht hState hSome => exact Or.inl (hLeft t ht hs)
  | leaveLast t ht hState hNone =>
      exact Or.inl (hLeft t ht hs)
  | leaveReleasing t ht hState =>
      exact Or.inl (hLeft t ht hs)
  | dismissDenied event env hState hEvent =>
      simp [Roster.dismiss] at hs
  | dismissReleased env hState =>
      simp [Roster.dismiss] at hs
  | closeDown event env hState hEvent hInactive =>
      simp [Roster.dismiss] at hs
  | restart event env hState hEvent hSome =>
      exact Or.inl (List.mem_of_mem_filter hs)
  | _ => exact Or.inl hs

end DS

end Agps

end D2Common

------------------------------------------------------------
-- Releases And Retries
------------------------------------------------------------

namespace D2Common

namespace Agps

namespace DS

/-
  A closed connection and a queued request: outputs that are
  made for one handle only, never by telling the list.
-/
def isSingle : Emission → Bool
| .atlCloseStatus _ _ => true
| .requestSuplES _ => true
| _ => false

theorem not_isSingle_of_mem_notices
    {l : List Subscriber}
    (hDS : ∀ s ∈ l, s.isDS = true)
    {sm : AgpsStateMachine}
    {st : AgpsRsrcStatus}
    (hStatus : st ≠ .unsubscribe)
    {e : Emission}
    (he : e ∈ notices sm st l) :
    isSingle e = false := by
  rcases List.mem_flatMap.mp he with ⟨s, hs, he⟩
  have hsDS := hDS s hs
  rcases List.mem_cons.mp he with rfl | he
  · rfl
  · cases s with
    | ds id inactive =>
        cases st <;>
          simp_all [Subscriber.answer, isSingle]
    | _ => simp [Subscriber.isDS] at hsDS

theorem not_isSingle_of_mem_startOut
    {l : List Subscriber}
    {retries : BitVec 8}
    {env : DataCall}
    {e : Emission}
    (he : e ∈ Roster.startOut l retries env) :
    isSingle e = false := by
  unfold Roster.startOut at he
  cases hOutcome : Roster.startOutcome retries env <;>
    simp only [hOutcome, List.mem_cons, List.not_mem_nil,
      or_false] at he <;>
    rcases he with rfl | rfl | rfl <;> rfl

variable {sm sm' : AgpsStateMachine}
variable {op : Op}
variable {out : List Emission}

/- The calls that a handle's own output comes from. -/
theorem single_of_step
    (hInv : Inv sm)
    (hStep : Step sm op sm' out)
    {e : Emission}
    (he : e ∈ out)
    (hSingle : isSingle e = true) :
    (∃ mID ∈ handles sm.mSubscribers,
        op = .unsubscribeRsrc mID ∧
          e = .atlCloseStatus mID 1) ∨
      ∃ s ∈ sm.mSubscribers, s.isInactive = false ∧
        op = .retryCallback ∧ e = .requestSuplES s.ID := by
  have hNotices {st : AgpsRsrcStatus}
      {l : List Subscriber}
      (hl : Handles l)
      (hStatus : st ≠ .unsubscribe)
      (he : e ∈ notices sm st l) : False := by
    simp [not_isSingle_of_mem_notices hl.allDS hStatus he]
      at hSingle
  have hClosed {s : Subscriber}
      (hs : s ∈ sm.mSubscribers)
      (he : e = .atlCloseStatus s.ID 1) :
      ∃ mID ∈ handles sm.mSubscribers,
        Op.unsubscribeRsrc s.ID = .unsubscribeRsrc mID ∧
          e = .atlCloseStatus mID 1 :=
    ⟨s.ID, mem_handles hs, rfl, he⟩
  cases hStep with
  | start id env hState =>
      simp [not_isSingle_of_mem_startOut he] at hSingle
  | joinGranted id env hState =>
      simp only [Subscriber.notice, Subscriber.answer,
        List.mem_cons, List.not_mem_nil, or_false] at he
      rcases he with rfl | rfl <;>
        simp [isSingle] at hSingle
  | tell s hs hState =>
      rcases mem_notice_unsubscribe (hInv.list.allDS s hs) he
        with rfl | he
      · simp [isSingle] at hSingle
      · exact Or.inl (hClosed hs he)
  | leave s hs hState hLeft =>
      exact Or.inl (hClosed hs (by simpa using he))
  | leaveLast s hs hState hLeft =>
      simp only [List.mem_cons, List.not_mem_nil,
        or_false] at he
      rcases he with he | rfl | rfl
      · exact Or.inl (hClosed hs he)
      · simp [isSingle] at hSingle
      · simp [isSingle] at hSingle
  | leaveReleasing s hs hState =>
      exact Or.inl (hClosed hs (by simpa using he))
  | grant env hState =>
      exact (hNotices (handles_filter hInv.list _)
        (by simp) he).elim
  | dismissDenied event env hState hEvent =>
      exact (hNotices hInv.list (by simp) he).elim
  | dismissReleased env hState =>
      exact (hNotices hInv.list (by simp) he).elim
  | closeDown event env hState hEvent hInactive =>
      exact (hNotices hInv.list
        (by rcases hEvent with rfl | rfl <;> simp) he).elim
  | restart event env hState hEvent hActive =>
      rcases List.mem_append.mp he with he | he
      · exact (hNotices (handles_filter hInv.list _)
          (by rcases hEvent with rfl | rfl <;> simp)
          he).elim
      · simp [not_isSingle_of_mem_startOut he] at hSingle
  | retry s hs =>
      have hActive : s.isInactive = false := by
        simpa using List.find?_some hs
      exact Or.inr
        ⟨s, List.mem_of_find?_eq_some hs, hActive, rfl,
          by simpa using he⟩
  | _ => simp at he

end DS

end Agps

end D2Common

------------------------------------------------------------
-- Who Waits For An Answer
------------------------------------------------------------

namespace D2Common

namespace Agps

namespace DS

/- The states in which a data call is yet to come up. -/
def Waits (st : AgpsState) : Prop :=
  st = .released ∨ st = .pending

variable {sm sm' : AgpsStateMachine}
variable {op : Op}
variable {out : List Emission}
variable {mID : Handle}

theorem fallback_of_mem_startOut
    {l : List Subscriber}
    {retries : BitVec 8}
    {env : DataCall}
    {e : Emission}
    (he : e ∈ Roster.startOut l retries env)
    (hAnswers : answersTo mID e = true) :
    e = .requestATL mID agpsTypeSupl := by
  have hStart := answered_of_mem_startOut he hAnswers
  unfold Roster.startOut at he
  simp only [hStart.1, hStart.2, List.mem_cons,
    List.not_mem_nil, or_false] at he
  rcases he with rfl | rfl | rfl
  · simp [answersTo] at hAnswers
  · simp [answersTo] at hAnswers
  · rfl

/-
  A call that ends with a handle waiting gives it nothing
  but the fallback.
-/
theorem fallback_of_step
    (hInv : Inv sm)
    (hStep : Step sm op sm' out)
    (hOp : ∀ env, op ≠ .onRsrcEvent .denied env)
    (hWaits : Waits sm'.mStatePtr)
    (hSome : sm'.mSubscribers ≠ [])
    {e : Emission}
    (he : e ∈ out)
    (hAnswers : answersTo mID e = true) :
    e = .requestATL mID agpsTypeSupl := by
  have hAnswered := answered_of_step hInv hStep he hAnswers
  cases hStep with
  | start id env hState =>
      exact fallback_of_mem_startOut he hAnswers
  | joinGranted id env hState =>
      simp [Waits, Roster.accept, hState] at hWaits
  | grant env hState =>
      simp [Waits] at hWaits
  | dismissDenied event env hState hEvent =>
      simp [Roster.dismiss] at hSome
  | dismissReleased env hState =>
      simp [Roster.dismiss] at hSome
  | closeDown event env hState hEvent hInactive =>
      simp [Roster.dismiss] at hSome
  | restart event env hState hEvent hActive =>
      rcases hEvent with rfl | rfl
      · rcases List.mem_append.mp he with he | he
        · have hFilter :=
            handles_filter hInv.list (·.isInactive)
          exact absurd hAnswers
            (not_answers_of_released hFilter.allDS he mID)
        · exact fallback_of_mem_startOut he hAnswers
      · exact absurd rfl (hOp env)
  | join id env hState => simp at he
  | ignore event env hIgnores => simp at he
  | _ => cases hAnswered

theorem handles_left_eq
    (hInv : Inv sm)
    {s : Subscriber}
    (hs : s ∈ sm.mSubscribers) :
    handles (Roster.left s sm.mSubscribers) =
      handles sm.mSubscribers := by
  rw [left_eq (hInv.list.allDS s hs), handles_replace]

/- Who waits after a call, and since when. -/
theorem waits_of_step
    (hInv : Inv sm)
    (hStep : Step sm op sm' out)
    (hWaits : Waits sm'.mStatePtr)
    (hMem : mID ∈ handles sm'.mSubscribers) :
    (Waits sm.mStatePtr ∧
        mID ∈ handles sm.mSubscribers) ∨
      (∃ env, op = .subscribeRsrc mID env ∧
        mID ∉ handles sm.mSubscribers) ∨
        (sm.mStatePtr = .releasing ∧
          ∃ s ∈ sm.mSubscribers,
            s.ID = mID ∧ s.isInactive = false) := by
  have hAdded (id : Handle) (env : DataCall)
      (hState : Waits sm.mStatePtr)
      (hMem :
        mID ∈ handles
          (Roster.added (.ds id false) sm.mSubscribers)) :
      (Waits sm.mStatePtr ∧
          mID ∈ handles sm.mSubscribers) ∨
        ∃ env', Op.subscribeRsrc id env =
            .subscribeRsrc mID env' ∧
          mID ∉ handles sm.mSubscribers := by
    by_cases hOld : mID ∈ handles sm.mSubscribers
    · exact Or.inl ⟨hState, hOld⟩
    · have hNew : mID = id :=
        ((mem_handles_added hInv.list id mID).mp
          hMem).resolve_left hOld
      exact Or.inr ⟨env, by rw [hNew], hOld⟩
  cases hStep with
  | start id env hState =>
      rcases hAdded id env (Or.inl hState) hMem with
        hOld | hNew
      · exact Or.inl hOld
      · exact Or.inr (Or.inl hNew)
  | join id env hState =>
      rcases hAdded id env hWaits hMem with hOld | hNew
      · exact Or.inl hOld
      · exact Or.inr (Or.inl hNew)
  | joinGranted id env hState =>
      simp [Waits, Roster.accept, hState] at hWaits
  | leave s hs hState hLeft =>
      rw [handles_left_eq hInv hs] at hMem
      exact Or.inl ⟨hWaits, hMem⟩
  | leaveLast s hs hState hLeft =>
      simp [Waits] at hWaits
  | leaveReleasing s hs hState =>
      rw [handles_left_eq hInv hs] at hMem
      exact Or.inl ⟨hWaits, hMem⟩
  | grant env hState =>
      simp [Waits] at hWaits
  | dismissDenied event env hState hEvent =>
      simp [Roster.dismiss, handles] at hMem
  | dismissReleased env hState =>
      simp [Roster.dismiss, handles] at hMem
  | closeDown event env hState hEvent hInactive =>
      simp [Roster.dismiss, handles] at hMem
  | restart event env hState hEvent hActive =>
      rcases List.mem_map.mp hMem with ⟨s, hs, hID⟩
      rcases List.mem_filter.mp hs with ⟨hs, hsActive⟩
      exact Or.inr (Or.inr
        ⟨hState, s, hs, hID, by simpa using hsActive⟩)
  | _ => exact Or.inl ⟨hWaits, hMem⟩

/- Releasing keeps its active handles waiting in silence. -/
theorem releasing_of_step
    (hStep : Step sm op sm' out)
    (hState' : sm'.mStatePtr = .releasing)
    (hActive :
      ∃ s ∈ sm'.mSubscribers, s.isInactive = false)
    (mID : Handle) :
    sm.mStatePtr = .releasing ∧
      ∀ e ∈ out, answersTo mID e ≠ true := by
  cases hStep with
  | start id env hState =>
      simp only [started] at hState'
      split at hState' <;> cases hState'
  | join id env hState => exact ⟨hState', by simp⟩
  | joinGranted id env hState =>
      simp [Roster.accept, hState] at hState'
  | tell s hs hState => simp [hState] at hState'
  | leave s hs hState hLeft =>
      rcases hState with hState | hState <;>
        simp [hState] at hState'
  | leaveLast s hs hState hLeft =>
      rcases hActive with ⟨t, ht, htActive⟩
      simp [hLeft t ht] at htActive
  | grant env hState => cases hState'
  | dismissDenied event env hState hEvent => cases hState'
  | dismissReleased env hState => cases hState'
  | closeDown event env hState hEvent hInactive =>
      cases hState'
  | restart event env hState hEvent hSome => cases hState'
  | _ => exact ⟨hState', by simp [answersTo]⟩

end DS

end Agps

end D2Common
