import D2Common.Agps.Machine
import Mathlib.Data.List.Nodup

/-
  The data services machine `ds_nif`.

  Its subscribers are connection handles, its requests start
  a data call that can fail, and a failed start leaves the
  handle on the list of the Released state. `DS.Step` lists
  what one call can do to a machine that meets `DS.Inv`.

  Key definitions include:
    * `DS.machine`
    * `DS.Inv`
    * `DS.Step`

  Key theorems include:
    * `DS.step_of_call`
    * `DS.inv_run`
-/

------------------------------------------------------------
-- The Machine
------------------------------------------------------------

namespace D2Common

namespace Agps

namespace DS

/-
  The inputs of the data services machine, each with the
  answers its environment gives if the call can start a data
  call.
-/
inductive Op where
  | subscribeRsrc (id : Handle) (env : DataCall)
  | unsubscribeRsrc (id : Handle)
  | onRsrcEvent (event : AgpsRsrcStatus) (env : DataCall)
  | retryCallback

/- What the code does on an input. -/
def step
    (sm : AgpsStateMachine) :
    Op → AgpsStateMachine × List Emission
| .subscribeRsrc id env =>
    sm.call env (.subscribeRsrc (.ds id false))
| .unsubscribeRsrc id =>
    sm.call noDataCall (.unsubscribeRsrc (.ds id false))
| .onRsrcEvent event env =>
    sm.call env (.onRsrcEvent event)
| .retryCallback =>
    let x :=
      DSStateMachine.retryCallback ⟨sm, noDataCall, []⟩
    (x.sm, x.out)

def machine :
    Transducer AgpsStateMachine Op Emission where
  init := DSStateMachine.new
  step := step

/- One call into the machine, as it was made. -/
abbrev Event :=
  Transducer.Event AgpsStateMachine Op Emission

end DS

end Agps

end D2Common

------------------------------------------------------------
-- Handles On The List
------------------------------------------------------------

namespace D2Common

namespace Agps

/- The handles on a list. -/
def handles (l : List Subscriber) : List Handle :=
  l.map (·.ID)

theorem mem_handles
    {s : Subscriber}
    {l : List Subscriber}
    (hs : s ∈ l) :
    s.ID ∈ handles l :=
  List.mem_map_of_mem hs

namespace Subscriber

theorem equals_of_isDS
    {s : Subscriber}
    (hDS : s.isDS = true)
    (t : Subscriber) :
    s.equals t = (s.ID == t.ID) := by
  cases s <;> simp_all [isDS, equals]

theorem waitForCloseComplete_of_isDS
    {s : Subscriber}
    (hDS : s.isDS = true) :
    s.waitForCloseComplete = true := by
  cases s <;> simp_all [isDS, waitForCloseComplete]

end Subscriber

/-
  Marking one record of a list without two records of one
  handle leaves the other records as they are.
-/
theorem mem_replace_iff
    {l : List Subscriber}
    (hNodup : (handles l).Nodup)
    {s : Subscriber}
    (hs : s ∈ l)
    (t : Subscriber) :
    t ∈ l.replace s s.inactivated ↔
      (t ∈ l ∧ t.ID ≠ s.ID) ∨ t = s.inactivated := by
  induction l with
  | nil => simp at hs
  | cons a l ih =>
      have hFresh : a.ID ∉ handles l :=
        (List.nodup_cons.mp hNodup).1
      have hRest : (handles l).Nodup :=
        (List.nodup_cons.mp hNodup).2
      rw [List.replace_cons]
      by_cases hSame : s = a
      · subst hSame
        have hNe : t ∈ l → t.ID ≠ s.ID := by
          intro ht hID
          exact hFresh (hID ▸ mem_handles ht)
        simp only [beq_self_eq_true, List.mem_cons]
        constructor
        · rintro (rfl | ht)
          · exact Or.inr rfl
          · exact Or.inl ⟨Or.inr ht, hNe ht⟩
        · rintro (⟨rfl | ht, hID⟩ | rfl)
          · exact absurd rfl hID
          · exact Or.inr ht
          · exact Or.inl rfl
      · have hsl : s ∈ l := by
          rcases List.mem_cons.mp hs with rfl | hs
          · exact absurd rfl hSame
          · exact hs
        have hNe : a.ID ≠ s.ID := by
          intro hID
          exact hFresh (hID ▸ mem_handles hsl)
        rw [beq_eq_false_iff_ne.mpr hSame]
        simp only [List.mem_cons, ih hRest hsl]
        constructor
        · rintro (rfl | ⟨ht, hID⟩ | rfl)
          · exact Or.inl ⟨Or.inl rfl, hNe⟩
          · exact Or.inl ⟨Or.inr ht, hID⟩
          · exact Or.inr rfl
        · rintro (⟨rfl | ht, hID⟩ | rfl)
          · exact Or.inl rfl
          · exact Or.inr (Or.inl ⟨ht, hID⟩)
          · exact Or.inr (Or.inr rfl)

namespace DS

/- All records are DS records, one for each handle. -/
structure Handles (l : List Subscriber) : Prop where
  allDS : ∀ s ∈ l, s.isDS = true
  nodup : (handles l).Nodup

theorem any_equals
    {l : List Subscriber}
    (hl : Handles l)
    (id : Handle) :
    l.any (·.equals (.ds id false)) = true ↔
      id ∈ handles l := by
  rw [List.any_eq_true]
  constructor
  · rintro ⟨s, hs, hEq⟩
    rw [Subscriber.equals_of_isDS (hl.allDS s hs)] at hEq
    have hID : s.ID = id := by simpa using hEq
    exact hID ▸ mem_handles hs
  · intro hMem
    rcases List.mem_map.mp hMem with ⟨s, hs, hID⟩
    refine ⟨s, hs, ?_⟩
    rw [Subscriber.equals_of_isDS (hl.allDS s hs)]
    simpa using hID

/- The list after a handle has asked to be on it. -/
theorem added_eq
    {l : List Subscriber}
    (hl : Handles l)
    (id : Handle) :
    Roster.added (.ds id false) l =
      if id ∈ handles l then l else .ds id false :: l := by
  unfold Roster.added
  by_cases hMem : id ∈ handles l
  · rw [if_pos hMem, if_pos ((any_equals hl id).mpr hMem)]
  · rw [if_neg hMem,
      if_neg (mt (any_equals hl id).mp hMem)]
    rfl

theorem mem_added_iff
    {l : List Subscriber}
    (hl : Handles l)
    (id : Handle)
    (s : Subscriber) :
    s ∈ Roster.added (.ds id false) l ↔
      s ∈ l ∨ (s = .ds id false ∧ id ∉ handles l) := by
  rw [added_eq hl]
  by_cases hMem : id ∈ handles l
  · simp [hMem]
  · simp [hMem, or_comm]

theorem mem_handles_added
    {l : List Subscriber}
    (hl : Handles l)
    (id mID : Handle) :
    mID ∈ handles (Roster.added (.ds id false) l) ↔
      mID ∈ handles l ∨ mID = id := by
  rw [added_eq hl]
  by_cases hMem : id ∈ handles l
  · rw [if_pos hMem]
    constructor
    · exact Or.inl
    · rintro (hOld | rfl)
      · exact hOld
      · exact hMem
  · rw [if_neg hMem]
    simp [handles, Subscriber.ID, or_comm]

theorem handles_added
    {l : List Subscriber}
    (hl : Handles l)
    (id : Handle) :
    Handles (Roster.added (.ds id false) l) := by
  refine ⟨?_, ?_⟩
  · intro s hs
    rcases (mem_added_iff hl id s).mp hs with
      hs | ⟨rfl, -⟩
    · exact hl.allDS s hs
    · rfl
  · rw [added_eq hl]
    by_cases hMem : id ∈ handles l
    · rw [if_pos hMem]
      exact hl.nodup
    · rw [if_neg hMem]
      exact List.nodup_cons.mpr ⟨hMem, hl.nodup⟩

theorem handles_filter
    {l : List Subscriber}
    (hl : Handles l)
    (p : Subscriber → Bool) :
    Handles (l.filter p) where
  allDS := fun s hs =>
    hl.allDS s (List.mem_of_mem_filter hs)
  nodup := hl.nodup.sublist (List.filter_sublist.map _)

theorem left_eq
    {s : Subscriber}
    (hDS : s.isDS = true)
    (l : List Subscriber) :
    Roster.left s l = l.replace s s.inactivated := by
  unfold Roster.left
  rw [if_pos (s.waitForCloseComplete_of_isDS hDS)]

/- A departure marks one record and moves none. -/
theorem handles_replace
    (s : Subscriber)
    (l : List Subscriber) :
    handles (l.replace s s.inactivated) = handles l :=
  Roster.map_replace_inactivated s.ID_inactivated l

theorem mem_left_iff
    {l : List Subscriber}
    (hl : Handles l)
    {s : Subscriber}
    (hs : s ∈ l)
    (t : Subscriber) :
    t ∈ Roster.left s l ↔
      (t ∈ l ∧ t.ID ≠ s.ID) ∨ t = s.inactivated := by
  rw [left_eq (hl.allDS s hs)]
  exact mem_replace_iff hl.nodup hs t

theorem handles_left
    {l : List Subscriber}
    (hl : Handles l)
    {s : Subscriber}
    (hs : s ∈ l) :
    Handles (Roster.left s l) := by
  refine ⟨?_, ?_⟩
  · intro t ht
    rcases (mem_left_iff hl hs t).mp ht with
      ⟨ht, -⟩ | rfl
    · exact hl.allDS t ht
    · simpa using hl.allDS s hs
  · rw [left_eq (hl.allDS s hs), handles_replace]
    exact hl.nodup

end DS

end Agps

end D2Common

------------------------------------------------------------
-- What One Call Can Do
------------------------------------------------------------

namespace D2Common

namespace Agps

namespace DS

/- What every reachable data services machine satisfies. -/
structure Inv (sm : AgpsStateMachine) : Prop where
  ds : sm.mRetries.isSome = true
  many : sm.mEnforceSingleSubscriber = false
  list : Handles sm.mSubscribers
  released :
    sm.mStatePtr = .released →
      ∀ s ∈ sm.mSubscribers, s.isInactive = false

/- The machine after it has started a call for a list. -/
def started
    (sm : AgpsStateMachine)
    (env : DataCall)
    (st : AgpsState)
    (l : List Subscriber) : AgpsStateMachine :=
  { sm with
    mStatePtr := st
    mSubscribers := l
    mRetries := some (Roster.startRetries sm.retries env) }

/- The events of the data services that a state ignores. -/
def Ignores : AgpsState → AgpsRsrcStatus → Prop
| .pending, .granted => False
| .pending, .released => False
| .pending, .denied => False
| .acquired, .released => False
| .releasing, .released => False
| .releasing, .denied => False
| _, _ => True

/-
  What a call can do to a machine that meets `Inv`, with
  what it emits.
-/
inductive Step
    (sm : AgpsStateMachine) :
    Op → AgpsStateMachine → List Emission → Prop where
  | unknown
      (id : Handle)
      (hAbsent : id ∉ handles sm.mSubscribers) :
      Step sm (.unsubscribeRsrc id) sm []
  | ignore
      (event : AgpsRsrcStatus)
      (env : DataCall)
      (hIgnores : Ignores sm.mStatePtr event) :
      Step sm (.onRsrcEvent event env) sm []
  | start
      (id : Handle)
      (env : DataCall)
      (hState : sm.mStatePtr = .released) :
      Step sm (.subscribeRsrc id env)
        (started sm env
          (if Roster.startReturn sm.retries env = 0 then
            .pending
          else
            .released)
          (Roster.added (.ds id false) sm.mSubscribers))
        (Roster.startOut
          (Roster.added (.ds id false) sm.mSubscribers)
          sm.retries env)
  | join
      (id : Handle)
      (env : DataCall)
      (hState :
        sm.mStatePtr = .pending ∨
          sm.mStatePtr = .releasing) :
      Step sm (.subscribeRsrc id env)
        (Roster.accept sm (.ds id false)) []
  | joinGranted
      (id : Handle)
      (env : DataCall)
      (hState : sm.mStatePtr = .acquired) :
      Step sm (.subscribeRsrc id env)
        (Roster.accept sm (.ds id false))
        ((Subscriber.ds id false).notice .caller sm .granted)
  | tell
      (s : Subscriber)
      (hs : s ∈ sm.mSubscribers)
      (hState : sm.mStatePtr = .released) :
      Step sm (.unsubscribeRsrc s.ID) sm
        (s.notice .listed sm .unsubscribe)
  | leave
      (s : Subscriber)
      (hs : s ∈ sm.mSubscribers)
      (hState :
        sm.mStatePtr = .pending ∨ sm.mStatePtr = .acquired)
      (hLeft :
        ∃ t ∈ Roster.left s sm.mSubscribers,
          t.isInactive = false) :
      Step sm (.unsubscribeRsrc s.ID)
        { sm with
          mSubscribers := Roster.left s sm.mSubscribers }
        [.atlCloseStatus s.ID 1]
  | leaveLast
      (s : Subscriber)
      (hs : s ∈ sm.mSubscribers)
      (hState :
        sm.mStatePtr = .pending ∨ sm.mStatePtr = .acquired)
      (hLeft :
        ∀ t ∈ Roster.left s sm.mSubscribers,
          t.isInactive = true) :
      Step sm (.unsubscribeRsrc s.ID)
        { sm with
          mStatePtr := .releasing
          mSubscribers := Roster.left s sm.mSubscribers }
        [.atlCloseStatus s.ID 1,
          .sendRsrcRequest .releaseAgpsDataConn,
          .stopDataCall]
  | leaveReleasing
      (s : Subscriber)
      (hs : s ∈ sm.mSubscribers)
      (hState : sm.mStatePtr = .releasing) :
      Step sm (.unsubscribeRsrc s.ID)
        { sm with
          mSubscribers := Roster.left s sm.mSubscribers }
        [.atlCloseStatus s.ID 1]
  | grant
      (env : DataCall)
      (hState : sm.mStatePtr = .pending) :
      Step sm (.onRsrcEvent .granted env)
        { sm with mStatePtr := .acquired }
        (notices sm .granted
          (sm.mSubscribers.filter (!·.isInactive)))
  | dismissDenied
      (event : AgpsRsrcStatus)
      (env : DataCall)
      (hState : sm.mStatePtr = .pending)
      (hEvent : event = .released ∨ event = .denied) :
      Step sm (.onRsrcEvent event env)
        (Roster.dismiss sm .denied).1
        (notices sm .denied sm.mSubscribers)
  | dismissReleased
      (env : DataCall)
      (hState : sm.mStatePtr = .acquired) :
      Step sm (.onRsrcEvent .released env)
        (Roster.dismiss sm .released).1
        (notices sm .released sm.mSubscribers)
  | closeDown
      (event : AgpsRsrcStatus)
      (env : DataCall)
      (hState : sm.mStatePtr = .releasing)
      (hEvent : event = .released ∨ event = .denied)
      (hInactive :
        ∀ s ∈ sm.mSubscribers, s.isInactive = true) :
      Step sm (.onRsrcEvent event env)
        (Roster.dismiss sm event).1
        (notices sm event sm.mSubscribers)
  | restart
      (event : AgpsRsrcStatus)
      (env : DataCall)
      (hState : sm.mStatePtr = .releasing)
      (hEvent : event = .released ∨ event = .denied)
      (hActive :
        ∃ s ∈ sm.mSubscribers, s.isInactive = false) :
      Step sm (.onRsrcEvent event env)
        (started
          (sm.clearRetries event
            (sm.mSubscribers.filter (·.isInactive)))
          env .pending
          (sm.mSubscribers.filter (!·.isInactive)))
        (notices sm event
            (sm.mSubscribers.filter (·.isInactive)) ++
          Roster.startOut
            (sm.mSubscribers.filter (!·.isInactive))
            (sm.clearRetries event
              (sm.mSubscribers.filter
                (·.isInactive))).retries env)
  | retry
      (s : Subscriber)
      (hs :
        sm.mSubscribers.find? (!·.isInactive) = some s) :
      Step sm .retryCallback sm [.requestSuplES s.ID]
  | noRetry
      (hNone :
        ∀ s ∈ sm.mSubscribers, s.isInactive = true) :
      Step sm .retryCallback sm []

end DS

end Agps

end D2Common

------------------------------------------------------------
-- Every Call Is Such A Step
------------------------------------------------------------

namespace D2Common

namespace Agps

namespace DS

variable {sm : AgpsStateMachine}

/- A machine of this class that starts a call for a list. -/
theorem request_start
    (hDS : sm.mRetries.isSome = true)
    (env : DataCall)
    (l : List Subscriber) :
    Roster.request { sm with mSubscribers := l } env
        .requestAgpsDataConn =
      (Roster.startReturn sm.retries env,
        started sm env sm.mStatePtr l,
        Roster.startOut l sm.retries env) := by
  rcases Option.isSome_iff_exists.mp hDS with
    ⟨retries, hRetries⟩
  simp [Roster.request, hRetries, started,
    AgpsStateMachine.retries]

theorem subscribe_step
    (hInv : Inv sm)
    (id : Handle)
    (env : DataCall) :
    Step sm (.subscribeRsrc id env)
      (Roster.subscribe sm env (.ds id false)).1
      (Roster.subscribe sm env (.ds id false)).2 := by
  have hAdmits : ¬ sm.Refuses := by
    simp [AgpsStateMachine.Refuses, hInv.many]
  unfold Roster.subscribe
  rw [if_neg hAdmits]
  unfold Roster.move
  cases hState : sm.mStatePtr with
  | released =>
      simp only [Roster.start, request_start hInv.ds]
      exact Step.start id env hState
  | pending => exact Step.join id env (Or.inl hState)
  | acquired => exact Step.joinGranted id env hState
  | releasing => exact Step.join id env (Or.inr hState)

theorem leaveOut_eq
    {s : Subscriber}
    (hDS : s.isDS = true) :
    Roster.leaveOut sm s = [.atlCloseStatus s.ID 1] := by
  simp [Roster.leaveOut, hDS,
    s.waitForCloseComplete_of_isDS hDS]

/- A departure leaves the record on the list. -/
theorem left_ne_nil
    {s : Subscriber}
    {l : List Subscriber}
    (hl : Handles l)
    (hs : s ∈ l) :
    Roster.left s l ≠ [] :=
  List.ne_nil_of_mem
    ((mem_left_iff hl hs s.inactivated).mpr (Or.inr rfl))

theorem depart_step
    (hInv : Inv sm)
    {s : Subscriber}
    (hs : s ∈ sm.mSubscribers)
    (hState :
      sm.mStatePtr = .pending ∨ sm.mStatePtr = .acquired) :
    Step sm (.unsubscribeRsrc s.ID) (Roster.depart sm s).1
      (Roster.depart sm s).2 := by
  have hOut :
      Roster.leaveOut sm s = [.atlCloseStatus s.ID 1] :=
    leaveOut_eq (hInv.list.allDS s hs)
  have hSome := left_ne_nil hInv.list hs
  unfold Roster.depart
  by_cases hInactive :
      (Roster.left s sm.mSubscribers).all
        (·.isInactive) = true
  · have hStep :=
      Step.leaveLast s hs hState
        (List.all_eq_true.mp hInactive)
    simpa [hInactive, hOut, hSome, Roster.releaseOut,
      hInv.ds] using hStep
  · have hStep :=
      Step.leave s hs hState (by simpa using hInactive)
    simpa [hInactive, hOut] using hStep

theorem unsubscribe_step
    (hInv : Inv sm)
    (id : Handle) :
    Step sm (.unsubscribeRsrc id)
      (Roster.unsubscribe sm noDataCall (.ds id false)).1
      (Roster.unsubscribe sm noDataCall
        (.ds id false)).2 := by
  unfold Roster.unsubscribe
  cases hFind :
      sm.mSubscribers.find? (·.equals (.ds id false)) with
  | none =>
      apply Step.unknown id
      intro hMem
      have hAny := (any_equals hInv.list id).mpr hMem
      rcases List.any_eq_true.mp hAny with ⟨s, hs, hEq⟩
      exact List.find?_eq_none.mp hFind s hs hEq
  | some s =>
      have hs := List.mem_of_find?_eq_some hFind
      have hDS := hInv.list.allDS s hs
      have hEq := List.find?_some hFind
      have hID : s.ID = id := by
        rw [Subscriber.equals_of_isDS hDS] at hEq
        simpa using hEq
      subst hID
      simp only
      unfold Roster.move
      cases hState : sm.mStatePtr with
      | released => exact Step.tell s hs hState
      | pending => exact depart_step hInv hs (Or.inl hState)
      | acquired =>
          exact depart_step hInv hs (Or.inr hState)
      | releasing =>
          have hStep := Step.leaveReleasing s hs hState
          have hSome := left_ne_nil hInv.list hs
          simpa [Roster.departReleasing, hSome, hState,
            leaveOut_eq hDS] using hStep

theorem closeDown_step
    (hInv : Inv sm)
    (event : AgpsRsrcStatus)
    (env : DataCall)
    (hState : sm.mStatePtr = .releasing)
    (hEvent : event = .released ∨ event = .denied) :
    Step sm (.onRsrcEvent event env)
      (Roster.closeDown sm env event).1
      (Roster.closeDown sm env event).2 := by
  unfold Roster.closeDown
  by_cases hKept :
      sm.mSubscribers.filter (!·.isInactive) = []
  · have hInactive :
        ∀ s ∈ sm.mSubscribers, s.isInactive = true := by
      simpa using hKept
    have hTold :
        sm.mSubscribers.filter (·.isInactive) =
          sm.mSubscribers := by
      simpa using hInactive
    have hStep :=
      Step.closeDown event env hState hEvent hInactive
    simpa [hKept, hTold, Roster.dismiss] using hStep
  · have hActive :
        ∃ s ∈ sm.mSubscribers, s.isInactive = false := by
      simpa using hKept
    have hDS :
        (sm.clearRetries event
          (sm.mSubscribers.filter
            (·.isInactive))).mRetries.isSome = true := by
      simpa using hInv.ds
    dsimp only
    rw [if_neg (by simpa using hKept), request_start hDS]
    exact Step.restart event env hState hEvent hActive

theorem event_step
    (hInv : Inv sm)
    (event : AgpsRsrcStatus)
    (env : DataCall) :
    Step sm (.onRsrcEvent event env)
      (Roster.respond sm env (.onRsrcEvent event)).1
      (Roster.respond sm env (.onRsrcEvent event)).2 := by
  have hClosed (st : AgpsState)
      (hState : sm.mStatePtr = st) :
      Step sm (.onRsrcEvent .released env)
        (Roster.release sm env).1
        (Roster.release sm env).2 := by
    unfold Roster.release
    cases st with
    | released =>
        have hMove (e : RsrcEvent)
            (he : e = .released ∨ e = .denied) :
            Roster.move sm env e = (sm, []) := by
          rcases he with rfl | rfl <;>
            simp [Roster.move, hState]
        have hStep :=
          Step.ignore .released env
            (by rw [hState]; trivial)
        simpa [hMove, hInv.ds, Roster.andThen] using hStep
    | pending =>
        have hStep :=
          Step.dismissDenied .released env hState
            (Or.inl rfl)
        simpa [Roster.move, hState, hInv.ds,
          Roster.andThen, Roster.dismiss] using hStep
    | acquired =>
        have hStep := Step.dismissReleased env hState
        simpa [Roster.move, hState, Roster.dismiss]
          using hStep
    | releasing =>
        have hStep :=
          closeDown_step hInv .released env hState
            (Or.inl rfl)
        have hMoved :
            (Roster.closeDown sm env .released).1.mStatePtr ≠
              .releasing := by
          unfold Roster.closeDown
          dsimp only
          split <;> simp
        simpa [Roster.move, hState, hMoved] using hStep
  cases event with
  | granted =>
      simp only [Roster.respond, Roster.move]
      cases hState : sm.mStatePtr with
      | pending => exact Step.grant env hState
      | released =>
          exact Step.ignore .granted env
            (by rw [hState]; trivial)
      | acquired =>
          exact Step.ignore .granted env
            (by rw [hState]; trivial)
      | releasing =>
          exact Step.ignore .granted env
            (by rw [hState]; trivial)
  | released => exact hClosed sm.mStatePtr rfl
  | denied =>
      simp only [Roster.respond, Roster.move]
      cases hState : sm.mStatePtr with
      | pending =>
          exact Step.dismissDenied .denied env hState
            (Or.inr rfl)
      | releasing =>
          exact closeDown_step hInv .denied env hState
            (Or.inr rfl)
      | released =>
          exact Step.ignore .denied env
            (by rw [hState]; trivial)
      | acquired =>
          exact Step.ignore .denied env
            (by rw [hState]; trivial)
  | subscribe =>
      exact Step.ignore .subscribe env
        (by cases sm.mStatePtr <;> trivial)
  | unsubscribe =>
      exact Step.ignore .unsubscribe env
        (by cases sm.mStatePtr <;> trivial)
  | statusMax =>
      exact Step.ignore .statusMax env
        (by cases sm.mStatePtr <;> trivial)

theorem retry_step
    (sm : AgpsStateMachine) :
    Step sm .retryCallback (step sm .retryCallback).1
      (step sm .retryCallback).2 := by
  unfold step DSStateMachine.retryCallback
  rw [AgpsStateMachine.findSubscriber_ofGroup]
  cases hFind : sm.mSubscribers.find? (!·.isInactive) with
  | some s => exact Step.retry s hFind
  | none => exact Step.noRetry (by simpa using hFind)

theorem step_of_call
    (hInv : Inv sm)
    (op : Op) :
    Step sm op (machine.step sm op).1
      (machine.step sm op).2 := by
  change Step sm op (step sm op).1 (step sm op).2
  cases op with
  | subscribeRsrc id env =>
      simp only [step, AgpsStateMachine.call_eq]
      exact subscribe_step hInv id env
  | unsubscribeRsrc id =>
      simp only [step, AgpsStateMachine.call_eq]
      exact unsubscribe_step hInv id
  | onRsrcEvent event env =>
      simp only [step, AgpsStateMachine.call_eq]
      exact event_step hInv event env
  | retryCallback => exact retry_step sm

end DS

end Agps

end D2Common

------------------------------------------------------------
-- The Invariant Along Runs
------------------------------------------------------------

namespace D2Common

namespace Agps

namespace DS

variable {sm sm' : AgpsStateMachine}
variable {op : Op}
variable {out : List Emission}

theorem inv_new : Inv DSStateMachine.new where
  ds := rfl
  many := rfl
  list := ⟨by simp [DSStateMachine.new,
    AgpsStateMachine.new], by simp [DSStateMachine.new,
      AgpsStateMachine.new, handles]⟩
  released := by
    simp [DSStateMachine.new, AgpsStateMachine.new]

theorem frame_of_step
    (hStep : Step sm op sm' out) :
    (sm.mRetries.isSome = true →
        sm'.mRetries.isSome = true) ∧
      sm'.mEnforceSingleSubscriber =
        sm.mEnforceSingleSubscriber := by
  have hClear (st : AgpsRsrcStatus)
      (told : List Subscriber) :
      (sm.clearRetries st told).mEnforceSingleSubscriber =
        sm.mEnforceSingleSubscriber := by
    unfold AgpsStateMachine.clearRetries
    split <;> rfl
  cases hStep <;>
    simp_all [started, Roster.accept, Roster.dismiss]

theorem list_of_step
    (hInv : Inv sm)
    (hStep : Step sm op sm' out) :
    Handles sm'.mSubscribers := by
  have hNil : Handles [] :=
    ⟨by simp, by simp [handles]⟩
  cases hStep with
  | start id env hState =>
      exact handles_added hInv.list id
  | join id env hState => exact handles_added hInv.list id
  | joinGranted id env hState =>
      exact handles_added hInv.list id
  | leave s hs hState hLeft =>
      exact handles_left hInv.list hs
  | leaveLast s hs hState hLeft =>
      exact handles_left hInv.list hs
  | leaveReleasing s hs hState =>
      exact handles_left hInv.list hs
  | dismissDenied event env hState hEvent => exact hNil
  | dismissReleased env hState => exact hNil
  | closeDown event env hState hEvent hInactive =>
      exact hNil
  | restart event env hState hEvent hActive =>
      exact handles_filter hInv.list _
  | _ => exact hInv.list

/- Nobody waits for a close in Released. -/
theorem released_of_step
    (hInv : Inv sm)
    (hStep : Step sm op sm' out)
    (hState' : sm'.mStatePtr = .released) :
    ∀ s ∈ sm'.mSubscribers, s.isInactive = false := by
  intro s hs
  cases hStep with
  | start id env hState =>
      rcases (mem_added_iff hInv.list id s).mp hs with
        hs | ⟨rfl, -⟩
      · exact hInv.released hState s hs
      · rfl
  | join id env hState =>
      rcases hState with hState | hState <;>
        simp [Roster.accept, hState] at hState'
  | joinGranted id env hState =>
      simp [Roster.accept, hState] at hState'
  | leave t ht hState hLeft =>
      rcases hState with hState | hState <;>
        simp [hState] at hState'
  | leaveLast t ht hState hLeft => simp at hState'
  | leaveReleasing t ht hState => simp [hState] at hState'
  | grant env hState => simp at hState'
  | dismissDenied event env hState hEvent =>
      simp [Roster.dismiss] at hs
  | dismissReleased env hState =>
      simp [Roster.dismiss] at hs
  | closeDown event env hState hEvent hInactive =>
      simp [Roster.dismiss] at hs
  | restart event env hState hEvent hActive =>
      simp [started] at hState'
  | _ => exact hInv.released hState' s hs

theorem inv_of_step
    (hInv : Inv sm)
    (hStep : Step sm op sm' out) :
    Inv sm' where
  ds := (frame_of_step hStep).1 hInv.ds
  many := (frame_of_step hStep).2.trans hInv.many
  list := list_of_step hInv hStep
  released := released_of_step hInv hStep

theorem inv_run
    (ops : List Op) :
    Inv (machine.run ops) := by
  apply machine.run_induction
    (A := fun _ => True) (I := Inv) inv_new
  · intro sm op hInv _
    exact inv_of_step hInv (step_of_call hInv op)
  · simp

end DS

end Agps

end D2Common
