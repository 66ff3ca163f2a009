import D2Common.Agps.Plain
import D2Common.Agps.Identity

/-
  What every call into a machine keeps.

  Unlike `Plain.Inv` and `DS.Inv`, the invariant here is one
  for machines of both classes, whoever their clients are,
  and it survives a restart of the modem, which empties a
  list and leaves the state as it is.

  Key definitions include:
    * `Roster.Closed`
    * `Roster.Steady`
    * `Roster.Sound`

  Key theorems include:
    * `Roster.Closed.respond`
    * `Roster.Steady.respond`
    * `Roster.sound_respond`
-/

------------------------------------------------------------
-- Lists
------------------------------------------------------------

namespace D2Common

namespace Agps

namespace Roster

/-
  A property of lists that departures and the emptying of a
  list do not break.
-/
structure Closed (Q : List Subscriber → Prop) : Prop where
  nil : Q []
  filter :
    ∀ (p : Subscriber → Bool) l, Q l → Q (l.filter p)
  replace :
    ∀ t l, t ∈ l → Q l → Q (l.replace t t.inactivated)

@[simp] theorem mSubscribers_request
    (sm : AgpsStateMachine)
    (env : DataCall)
    (action : AGpsStatusValue) :
    (request sm env action).2.1.mSubscribers =
      sm.mSubscribers := by
  unfold request
  cases sm.mRetries with
  | none => rfl
  | some retries => cases action <;> rfl

@[simp] theorem mSubscribers_clearRetries
    (sm : AgpsStateMachine)
    (st : AgpsRsrcStatus)
    (told : List Subscriber) :
    (sm.clearRetries st told).mSubscribers =
      sm.mSubscribers := by
  unfold AgpsStateMachine.clearRetries
  split <;> rfl

namespace Closed

variable {Q : List Subscriber → Prop}

theorem left
    (hQ : Closed Q)
    {t : Subscriber}
    {l : List Subscriber}
    (ht : t ∈ l)
    (hl : Q l) :
    Q (Roster.left t l) := by
  unfold Roster.left
  split
  · exact hQ.replace t l ht hl
  · exact hQ.filter _ l hl

theorem depart
    (hQ : Closed Q)
    {sm : AgpsStateMachine}
    {t : Subscriber}
    (ht : t ∈ sm.mSubscribers)
    (hOld : Q sm.mSubscribers) :
    Q (Roster.depart sm t).1.mSubscribers := by
  unfold Roster.depart
  simp only
  split <;> exact hQ.left ht hOld

theorem closeDown
    (hQ : Closed Q)
    {sm : AgpsStateMachine}
    (env : DataCall)
    (st : AgpsRsrcStatus)
    (hOld : Q sm.mSubscribers) :
    Q (Roster.closeDown sm env st).1.mSubscribers := by
  have hKept := hQ.filter (!·.isInactive) _ hOld
  unfold Roster.closeDown
  simp only
  split
  · exact hKept
  · simpa using hKept

/-
  A transition keeps the property if it holds of the list
  with the one who comes, and if the one who goes is there.
-/
theorem move
    (hQ : Closed Q)
    {sm : AgpsStateMachine}
    (env : DataCall)
    {event : RsrcEvent}
    (hOld : Q sm.mSubscribers)
    (hAdd :
      ∀ s, event = .subscribe s →
        Q (added s sm.mSubscribers))
    (hOn :
      ∀ t, event = .unsubscribe t → t ∈ sm.mSubscribers) :
    Q (Roster.move sm env event).1.mSubscribers := by
  unfold Roster.move
  cases event with
  | subscribe s =>
      have hNew := hAdd s rfl
      cases sm.mStatePtr with
      | released => simpa [Roster.start] using hNew
      | pending => exact hNew
      | acquired => exact hNew
      | releasing => exact hNew
  | unsubscribe t =>
      have ht := hOn t rfl
      cases sm.mStatePtr with
      | released => exact hOld
      | pending => exact hQ.depart ht hOld
      | acquired => exact hQ.depart ht hOld
      | releasing => exact hQ.left ht hOld
  | granted => cases sm.mStatePtr <;> exact hOld
  | released =>
      cases sm.mStatePtr with
      | released => exact hOld
      | pending => exact hOld
      | acquired => exact hQ.nil
      | releasing => exact hQ.closeDown env .released hOld
  | denied =>
      cases sm.mStatePtr with
      | released => exact hOld
      | pending => exact hQ.nil
      | acquired => exact hOld
      | releasing => exact hQ.closeDown env .denied hOld

theorem event
    (hQ : Closed Q)
    {sm : AgpsStateMachine}
    (env : DataCall)
    {event : RsrcEvent}
    (hEvent :
      ∀ s, event ≠ .subscribe s ∧ event ≠ .unsubscribe s)
    (hOld : Q sm.mSubscribers) :
    Q (Roster.move sm env event).1.mSubscribers :=
  hQ.move env hOld
    (fun s hs => absurd hs (hEvent s).1)
    (fun t ht => absurd ht (hEvent t).2)

/- A call keeps it if an admitted client does. -/
theorem respond
    (hQ : Closed Q)
    {sm : AgpsStateMachine}
    (env : DataCall)
    {c : Call}
    (hOld : Q sm.mSubscribers)
    (hAdd :
      ∀ s, c = .subscribeRsrc s → ¬ sm.Refuses →
        Q (added s sm.mSubscribers)) :
    Q (Roster.respond sm env c).1.mSubscribers := by
  unfold Roster.respond
  cases c with
  | subscribeRsrc s =>
      simp only [Roster.subscribe]
      by_cases hRefuses : sm.Refuses
      · rw [if_pos hRefuses]
        simpa [Roster.refuse] using hOld
      · rw [if_neg hRefuses]
        apply hQ.move env hOld
        · intro s' hs'
          cases hs'
          exact hAdd s rfl hRefuses
        · intro t ht
          cases ht
  | unsubscribeRsrc s =>
      simp only [Roster.unsubscribe]
      cases hFind : sm.mSubscribers.find? (·.equals s) with
      | none => exact hOld
      | some t =>
          apply hQ.move env hOld
          · intro s' hs'
            cases hs'
          · intro t' ht'
            cases ht'
            exact List.mem_of_find?_eq_some hFind
  | onRsrcEvent event =>
      cases event with
      | granted => exact hQ.event env (by simp) hOld
      | denied => exact hQ.event env (by simp) hOld
      | released =>
          have hFirst :
              Q (Roster.move sm env .released).1.mSubscribers :=
            hQ.event env (by simp) hOld
          simp only [Roster.release]
          split
          · exact hQ.event env (by simp) hFirst
          · exact hFirst
      | subscribe => exact hOld
      | unsubscribe => exact hOld
      | statusMax => exact hOld
  | setAPN apn => exact hOld
  | setBearer bearer => exact hOld

end Closed

/- All records are of a kind that activity does not change. -/
theorem closed_all
    {P : Subscriber → Prop}
    (hP : ∀ s, P s → P s.inactivated) :
    Closed (fun l => ∀ s ∈ l, P s) where
  nil := by simp
  filter := fun p l hl s hs => hl s (List.mem_of_mem_filter hs)
  replace := by
    intro t l ht hl s hs
    rcases mem_of_mem_replace hs with hs | rfl
    · exact hl s hs
    · exact hP t (hl t ht)

/- A list of at most one record. -/
theorem closed_single
    (single : Prop) :
    Closed (fun l => single → l.length ≤ 1) where
  nil := by simp
  filter := fun p l hl hSingle =>
    Nat.le_trans (List.length_filter_le p l) (hl hSingle)
  replace := by
    intro t l _ hl hSingle
    simpa using hl hSingle

/- The order in which equal records stand is kept. -/
theorem closed_ordered : Closed Identity.Ordered where
  nil := List.Pairwise.nil
  filter := fun _ _ hl => hl.filter _
  replace := by
    intro t l _ hl
    have hClones (l : List Subscriber) :
        Identity.Ordered l ↔
          (l.map Subscriber.clone).Pairwise
            fun newer older =>
              older.equals newer = false := by
      rw [List.pairwise_map]
      simp [Identity.Ordered]
    rw [hClones,
      map_replace_inactivated t.clone_inactivated,
      ← hClones]
    exact hl

end Roster

end Agps

end D2Common

------------------------------------------------------------
-- Machines
------------------------------------------------------------

namespace D2Common

namespace Agps

namespace Roster

/-
  A property of the retry counter, and of whether a machine
  is for one client only, that starts and denials keep.
-/
structure Steady
    (P : Option (BitVec 8) → Bool → Prop) : Prop where
  clear : ∀ m b, P m b → P (m.map fun _ => 0) b
  start :
    ∀ r b env,
      P (some r) b → P (some (startRetries r env)) b

namespace Steady

variable {P : Option (BitVec 8) → Bool → Prop}

/- The property, as one of a machine. -/
def Of
    (P : Option (BitVec 8) → Bool → Prop)
    (sm : AgpsStateMachine) : Prop :=
  P sm.mRetries sm.mEnforceSingleSubscriber

variable {sm : AgpsStateMachine}

theorem clearRetries
    (hP : Steady P)
    (st : AgpsRsrcStatus)
    (told : List Subscriber)
    (hOld : Of P sm) :
    Of P (sm.clearRetries st told) := by
  unfold AgpsStateMachine.clearRetries
  split
  · exact hP.clear _ _ hOld
  · exact hOld

theorem request
    (hP : Steady P)
    (env : DataCall)
    (action : AGpsStatusValue)
    (hOld : Of P sm) :
    Of P (Roster.request sm env action).2.1 := by
  unfold Roster.request
  cases hClass : sm.mRetries with
  | none => exact hOld
  | some retries =>
      cases action with
      | releaseAgpsDataConn => exact hOld
      | requestAgpsDataConn =>
          unfold Of at hOld
          rw [hClass] at hOld
          exact hP.start _ _ env hOld

theorem depart
    (s : Subscriber)
    (hOld : Of P sm) :
    Of P (Roster.depart sm s).1 := by
  unfold Roster.depart
  simp only
  split <;> exact hOld

theorem closeDown
    (hP : Steady P)
    (env : DataCall)
    (st : AgpsRsrcStatus)
    (hOld : Of P sm) :
    Of P (Roster.closeDown sm env st).1 := by
  have hTold :=
    hP.clearRetries st
      (sm.mSubscribers.filter (·.isInactive)) hOld
  have hRest :
      Of P
        { sm.clearRetries st
            (sm.mSubscribers.filter (·.isInactive)) with
          mSubscribers :=
            sm.mSubscribers.filter (!·.isInactive) } :=
    hTold
  unfold Roster.closeDown
  simp only
  split
  · exact hTold
  · exact hP.request env .requestAgpsDataConn hRest

theorem move
    (hP : Steady P)
    (env : DataCall)
    (event : RsrcEvent)
    (hOld : Of P sm) :
    Of P (Roster.move sm env event).1 := by
  unfold Roster.move
  cases event with
  | subscribe s =>
      have hAccepted : Of P (accept sm s) := hOld
      cases sm.mStatePtr with
      | released =>
          exact hP.request env .requestAgpsDataConn
            hAccepted
      | pending => exact hOld
      | acquired => exact hOld
      | releasing => exact hOld
  | unsubscribe s =>
      cases sm.mStatePtr with
      | released => exact hOld
      | pending => exact depart s hOld
      | acquired => exact depart s hOld
      | releasing => exact hOld
  | granted => cases sm.mStatePtr <;> exact hOld
  | released =>
      cases sm.mStatePtr with
      | released => exact hOld
      | pending => exact hOld
      | acquired =>
          exact hP.clearRetries .released sm.mSubscribers hOld
      | releasing => exact hP.closeDown env .released hOld
  | denied =>
      cases sm.mStatePtr with
      | released => exact hOld
      | pending =>
          exact hP.clearRetries .denied sm.mSubscribers hOld
      | acquired => exact hOld
      | releasing => exact hP.closeDown env .denied hOld

theorem respond
    (hP : Steady P)
    (env : DataCall)
    (c : Call)
    (hOld : Of P sm) :
    Of P (Roster.respond sm env c).1 := by
  unfold Roster.respond
  cases c with
  | subscribeRsrc s =>
      simp only [subscribe]
      split
      · exact hP.clearRetries .denied _ hOld
      · exact hP.move env _ hOld
  | unsubscribeRsrc s =>
      simp only [unsubscribe]
      split
      · exact hP.move env _ hOld
      · exact hOld
  | onRsrcEvent event =>
      cases event with
      | granted => exact hP.move env _ hOld
      | denied => exact hP.move env _ hOld
      | released =>
          have hFirst := hP.move env .released hOld
          simp only [release]
          split
          · exact hP.move env .denied hFirst
          · exact hFirst
      | subscribe => exact hOld
      | unsubscribe => exact hOld
      | statusMax => exact hOld
  | setAPN apn => exact hOld
  | setBearer bearer => exact hOld

end Steady

/- What the constructor of a machine fixes for good. -/
theorem steady_same
    (isDS single : Bool) :
    Steady fun m b => m.isSome = isDS ∧ b = single where
  clear := fun m b hOld => ⟨by simpa using hOld.1, hOld.2⟩
  start := fun r b env hOld => hOld

theorem same_respond
    (sm : AgpsStateMachine)
    (env : DataCall)
    (c : Call) :
    (respond sm env c).1.mRetries.isSome =
        sm.mRetries.isSome ∧
      (respond sm env c).1.mEnforceSingleSubscriber =
        sm.mEnforceSingleSubscriber := by
  have hSame : Steady.Of
      (fun m b =>
        m.isSome = sm.mRetries.isSome ∧
          b = sm.mEnforceSingleSubscriber) sm :=
    ⟨rfl, rfl⟩
  exact (steady_same _ _).respond env c hSame

/- The counter never passes the retries that are allowed. -/
theorem steady_retries :
    Steady fun m _ =>
      (m.getD 0).toNat ≤ maxStartDataCallRetries where
  clear := by
    intro m b _
    cases m <;> simp [maxStartDataCallRetries]
  start := by
    intro r b env hOld
    simp only [Option.getD_some] at hOld ⊢
    unfold startRetries
    cases hOutcome : startOutcome r env with
    | fallback => simp [maxStartDataCallRetries]
    | started => exact hOld
    | unrecognized => exact hOld
    | retry =>
        unfold startOutcome at hOutcome
        split at hOutcome
        · split at hOutcome
          · cases hOutcome
          · next hLow => exact Nat.not_lt.mp hLow
        · split at hOutcome
          · cases hOutcome
          · split at hOutcome
            · cases hOutcome
            · split at hOutcome <;> cases hOutcome

/- A plain machine in Released has nobody on its list. -/
def Idle (sm : AgpsStateMachine) : Prop :=
  sm.mRetries = none →
    sm.mStatePtr = .released → sm.mSubscribers = []

theorem idle_depart
    (sm : AgpsStateMachine)
    (s : Subscriber)
    (hState : sm.mStatePtr ≠ .released) :
    Idle (depart sm s).1 := by
  intro _
  unfold depart
  simp only
  split
  · exact Plain.empty_of_leave.mp
  · exact fun hReleased => absurd hReleased hState

theorem idle_closeDown
    (sm : AgpsStateMachine)
    (env : DataCall)
    (st : AgpsRsrcStatus) :
    Idle (closeDown sm env st).1 := by
  intro _
  unfold closeDown
  simp only
  split
  · next hKept => exact fun _ => List.isEmpty_iff.mp hKept
  · exact fun hReleased => nomatch hReleased

theorem idle_move
    {sm : AgpsStateMachine}
    (env : DataCall)
    (event : RsrcEvent)
    (hPlain : sm.mRetries = none)
    (hIdle : Idle sm) :
    Idle (move sm env event).1 := by
  unfold move
  cases hState : sm.mStatePtr with
  | released =>
      cases event with
      | subscribe s =>
          intro _
          simp [start, request, hPlain]
      | _ => exact hIdle
  | pending =>
      have hLater : sm.mStatePtr ≠ .released := by
        simp [hState]
      cases event with
      | unsubscribe s => exact idle_depart sm s hLater
      | denied => exact fun _ _ => rfl
      | granted =>
          intro _ hReleased
          cases hReleased
      | _ =>
          exact fun _ hReleased => absurd hReleased hLater
  | acquired =>
      have hLater : sm.mStatePtr ≠ .released := by
        simp [hState]
      cases event with
      | unsubscribe s => exact idle_depart sm s hLater
      | released => exact fun _ _ => rfl
      | _ =>
          exact fun _ hReleased => absurd hReleased hLater
  | releasing =>
      have hLater : sm.mStatePtr ≠ .released := by
        simp [hState]
      cases event with
      | unsubscribe s =>
          exact fun _ => Plain.empty_of_leave.mp
      | released => exact idle_closeDown sm env .released
      | denied => exact idle_closeDown sm env .denied
      | _ =>
          exact fun _ hReleased => absurd hReleased hLater

theorem idle_respond
    {sm : AgpsStateMachine}
    (env : DataCall)
    (c : Call)
    (hIdle : Idle sm) :
    Idle (respond sm env c).1 := by
  cases hClass : sm.mRetries with
  | some retries =>
      intro hPlain
      have hSame := (same_respond sm env c).1
      simp [hPlain, hClass] at hSame
  | none =>
      unfold respond
      cases c with
      | subscribeRsrc s =>
          simp only [subscribe]
          split
          · rw [refuse,
              AgpsStateMachine.clearRetries_of_none hClass]
            exact hIdle
          · exact idle_move env _ hClass hIdle
      | unsubscribeRsrc s =>
          simp only [unsubscribe]
          split
          · exact idle_move env _ hClass hIdle
          · exact hIdle
      | onRsrcEvent event =>
          cases event with
          | granted => exact idle_move env _ hClass hIdle
          | denied => exact idle_move env _ hClass hIdle
          | released =>
              simp only [release, hClass]
              exact idle_move env .released hClass hIdle
          | subscribe => exact hIdle
          | unsubscribe => exact hIdle
          | statusMax => exact hIdle
      | setAPN apn => exact hIdle
      | setBearer bearer => exact hIdle

/-
  What a machine of either class satisfies after any calls,
  and after its list has been emptied at any time.
-/
structure Sound (sm : AgpsStateMachine) : Prop where
  ordered : Identity.Ordered sm.mSubscribers
  idle : Idle sm
  single :
    sm.mEnforceSingleSubscriber = true →
      sm.mSubscribers.length ≤ 1
  retries : sm.retries.toNat ≤ maxStartDataCallRetries

theorem sound_of_nil
    {sm : AgpsStateMachine}
    (hNil : sm.mSubscribers = [])
    (hRetries :
      sm.retries.toNat ≤ maxStartDataCallRetries) :
    Sound sm where
  ordered := by
    rw [hNil]
    exact List.Pairwise.nil
  idle := fun _ _ => hNil
  single := by simp [hNil]
  retries := hRetries

theorem sound_respond
    {sm : AgpsStateMachine}
    (env : DataCall)
    (c : Call)
    (hSound : Sound sm) :
    Sound (respond sm env c).1 where
  ordered :=
    closed_ordered.respond env hSound.ordered
      (fun s _ _ => Identity.ordered_added hSound.ordered)
  idle := idle_respond env c hSound.idle
  single := by
    rw [(same_respond sm env c).2]
    refine (closed_single _).respond env hSound.single ?_
    intro s _ hAdmits hSingle
    have hNil : sm.mSubscribers = [] := by
      by_contra hSome
      exact hAdmits ⟨hSingle, hSome⟩
    simp [hNil, added]
  retries := steady_retries.respond env c hSound.retries

end Roster

end Agps

end D2Common
