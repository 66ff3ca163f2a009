import D2Common.Agps.DataServices
import D2Common.Agps.Emitted

/-
  What a machine does for one handle.

  A machine of either class sends something for a handle
  when a client with the handle comes, when an event ends
  what the clients of the list wait for, and when a data
  call is started for the first active one. Unsubscribing
  sends nothing of the kind, and after it the handle is not
  served any more.

  Key definitions include:
    * `Emission.reaches`
    * `AgpsStateMachine.Serves`

  Key theorems include:
    * `Roster.not_reaches_unsubscribe`
    * `Roster.reaches_subscribe`
    * `Roster.reaches_event`
    * `Roster.not_serves_unsubscribe`
-/

------------------------------------------------------------
-- Served Handles
------------------------------------------------------------

namespace D2Common

namespace Agps

/- What is sent for a handle, or put on its way for it. -/
def Emission.reaches (mID : Handle) : Emission → Bool
| .atlOpenStatus id _ _ _ _ => id == mID
| .requestATL id _ => id == mID
| .requestSuplES id => id == mID
| _ => false

/- A client of the modem is active under the handle. -/
def AgpsStateMachine.Serves
    (sm : AgpsStateMachine)
    (mID : Handle) : Prop :=
  ∃ s ∈ sm.mSubscribers,
    s.isAtlOrDS = true ∧ s.ID = mID ∧ s.isInactive = false

instance
    (sm : AgpsStateMachine)
    (mID : Handle) : Decidable (sm.Serves mID) :=
  inferInstanceAs (Decidable (∃ s ∈ _, _))

namespace Roster

/- Every client on the list of Released is active. -/
def Resting (sm : AgpsStateMachine) : Prop :=
  sm.mStatePtr = .released →
    ∀ s ∈ sm.mSubscribers, s.isInactive = false

end Roster

end Agps

end D2Common

------------------------------------------------------------
-- What Reaches A Handle
------------------------------------------------------------

namespace D2Common

namespace Agps

namespace Roster

variable {sm : AgpsStateMachine}
variable {mID : Handle}
variable {em : Emission}

/- A client is reached by a grant or a denial. -/
theorem reaches_notice
    {s : Subscriber}
    {addressee : Addressee}
    {st : AgpsRsrcStatus}
    (hMem : em ∈ s.notice addressee sm st)
    (hReaches : em.reaches mID = true) :
    s.isAtlOrDS = true ∧ s.ID = mID ∧
      (st = .granted ∨ st = .denied) := by
  rcases List.mem_cons.mp hMem with rfl | hMem
  · simp [Emission.reaches] at hReaches
  · cases st <;> cases s <;>
      simp only [Subscriber.answer, List.mem_singleton,
        List.not_mem_nil] at hMem <;>
      subst hMem <;>
      simp_all [Emission.reaches, Subscriber.isAtlOrDS,
        Subscriber.ID]

theorem reaches_notices
    {told : List Subscriber}
    {st : AgpsRsrcStatus}
    (hMem : em ∈ notices sm st told)
    (hReaches : em.reaches mID = true) :
    (∃ s ∈ told, s.isAtlOrDS = true ∧ s.ID = mID) ∧
      (st = .granted ∨ st = .denied) := by
  rcases List.mem_flatMap.mp hMem with ⟨s, hs, hMem⟩
  rcases reaches_notice hMem hReaches with
    ⟨hKind, hID, hStatus⟩
  exact ⟨⟨s, hs, hKind, hID⟩, hStatus⟩

theorem not_reaches_leaveOut
    (s : Subscriber)
    (hMem : em ∈ leaveOut sm s) :
    ¬ em.reaches mID = true := by
  unfold leaveOut at hMem
  split at hMem
  · split at hMem
    · rw [List.mem_singleton.mp hMem]
      simp [Emission.reaches]
    · cases hMem
  · intro hReaches
    rcases (reaches_notices hMem hReaches).2 with h | h <;>
      cases h

theorem not_reaches_releaseOut
    (hMem : em ∈ releaseOut sm) :
    ¬ em.reaches mID = true := by
  unfold releaseOut at hMem
  rcases List.mem_cons.mp hMem with rfl | hMem
  · simp [Emission.reaches]
  · split at hMem <;> rw [List.mem_singleton.mp hMem] <;>
      simp [Emission.reaches]

/- Only the fallback of a start is sent for a handle. -/
theorem reaches_request
    {env : DataCall}
    {action : AGpsStatusValue}
    (hMem : em ∈ (request sm env action).2.2)
    (hReaches : em.reaches mID = true) :
    sm.mRetries.isSome = true ∧
      connHandle sm.mSubscribers = mID := by
  unfold request at hMem
  cases hRetries : sm.mRetries with
  | none =>
      rw [hRetries] at hMem
      rcases List.mem_cons.mp hMem with rfl | hMem
      · simp [Emission.reaches] at hReaches
      · split at hMem
        · rw [List.mem_singleton.mp hMem] at hReaches
          simp [Emission.reaches] at hReaches
        · cases hMem
  | some retries =>
      rw [hRetries] at hMem
      refine ⟨rfl, ?_⟩
      cases action with
      | releaseAgpsDataConn =>
          rcases List.mem_cons.mp hMem with rfl | hMem
          · simp [Emission.reaches] at hReaches
          · rw [List.mem_singleton.mp hMem] at hReaches
            simp [Emission.reaches] at hReaches
      | requestAgpsDataConn =>
          simp only [startOut, List.mem_cons] at hMem
          rcases hMem with rfl | rfl | hMem
          · simp [Emission.reaches] at hReaches
          · simp [Emission.reaches] at hReaches
          · split at hMem
            · rw [List.mem_singleton.mp hMem] at hReaches
              simpa [Emission.reaches] using hReaches
            · rw [List.mem_singleton.mp hMem] at hReaches
              simp [Emission.reaches] at hReaches
            · cases hMem

/- Nothing is sent for a handle when a client leaves. -/
theorem not_reaches_unsubscribe
    {env : DataCall}
    {s : Subscriber}
    (hMem : em ∈ (sm.call env (.unsubscribeRsrc s)).2) :
    ¬ em.reaches mID = true := by
  cases hFind : sm.mSubscribers.find? (·.equals s) with
  | none =>
      rw [AgpsStateMachine.call_of_find_none env hFind]
        at hMem
      cases hMem
  | some t =>
      rw [AgpsStateMachine.call_of_find env hFind] at hMem
      by_cases hState : sm.mStatePtr = .released
      · simp only [move, hState] at hMem
        intro hReaches
        rcases (reaches_notice hMem hReaches).2.2 with
          h | h <;> cases h
      · rcases out_move_unsubscribe sm env t hState with
          hOut | hOut
        · rw [hOut] at hMem
          exact not_reaches_leaveOut t hMem
        · rw [hOut] at hMem
          rcases List.mem_append.mp hMem with hMem | hMem
          · exact not_reaches_leaveOut t hMem
          · exact not_reaches_releaseOut hMem

/-
  A subscribe reaches its own client, when it is refused or
  finds the connection there, and the handle that the start
  of a data call is made for.
-/
theorem reaches_subscribe
    {env : DataCall}
    {s : Subscriber}
    (hMem : em ∈ (sm.call env (.subscribeRsrc s)).2)
    (hReaches : em.reaches mID = true) :
    (s.isAtlOrDS = true ∧ s.ID = mID ∧
        (sm.Refuses ∨ sm.mStatePtr = .acquired)) ∨
      (sm.mRetries.isSome = true ∧
        sm.mStatePtr = .released ∧
          connHandle (added s sm.mSubscribers) = mID) := by
  rw [AgpsStateMachine.call_eq] at hMem
  simp only [respond, subscribe] at hMem
  by_cases hRefuses : sm.Refuses
  · rw [if_pos hRefuses] at hMem
    rcases reaches_notice hMem hReaches with
      ⟨hKind, hID, -⟩
    exact Or.inl ⟨hKind, hID, Or.inl hRefuses⟩
  · rw [if_neg hRefuses] at hMem
    cases hState : sm.mStatePtr <;>
      simp only [move, hState] at hMem
    · exact Or.inr
        (And.imp_right (And.intro rfl)
          (reaches_request hMem hReaches))
    · cases hMem
    · rcases reaches_notice hMem hReaches with
        ⟨hKind, hID, -⟩
      exact Or.inl ⟨hKind, hID, Or.inr rfl⟩
    · cases hMem

end Roster

end Agps

end D2Common

------------------------------------------------------------
-- Events
------------------------------------------------------------

namespace D2Common

namespace Agps

/-
  The events that a machine answers with a denial: to every
  client of Pending, or to the inactive ones of Releasing.
-/
def AgpsStateMachine.Denies
    (sm : AgpsStateMachine) : AgpsRsrcStatus → Prop
| .denied =>
    sm.mStatePtr = .pending ∨ sm.mStatePtr = .releasing
| .released =>
    sm.mRetries.isSome = true ∧ sm.mStatePtr = .pending
| _ => False

namespace Roster

variable {sm : AgpsStateMachine}
variable {mID : Handle}
variable {em : Emission}

/- The start of a data call is for an active client. -/
theorem serves_of_connHandle
    {l : List Subscriber}
    (hKinds : ∀ s ∈ l, s.isAtlOrDS = true)
    (hActive : ∃ s ∈ l, s.isInactive = false)
    (hConn : connHandle l = mID) :
    ∃ s ∈ l,
      s.isAtlOrDS = true ∧ s.ID = mID ∧
        s.isInactive = false := by
  unfold connHandle at hConn
  cases hFind : l.find? (!·.isInactive) with
  | none =>
      rcases hActive with ⟨s, hs, hActive⟩
      have hNone := List.find?_eq_none.mp hFind s hs
      simp [hActive] at hNone
  | some s =>
      rw [hFind] at hConn
      have hs := List.mem_of_find?_eq_some hFind
      have hTest := List.find?_some hFind
      exact ⟨s, hs, hKinds s hs, hConn, by simpa using hTest⟩

/- A close reaches nobody but by a denial or a new start. -/
theorem reaches_closeDown
    {env : DataCall}
    {st : AgpsRsrcStatus}
    (hKinds :
      sm.mRetries.isSome = true →
        ∀ s ∈ sm.mSubscribers, s.isAtlOrDS = true)
    (hMem : em ∈ (closeDown sm env st).2)
    (hReaches : em.reaches mID = true) :
    ((st = .granted ∨ st = .denied) ∧
        ∃ s ∈ sm.mSubscribers,
          s.isAtlOrDS = true ∧ s.ID = mID ∧
            s.isInactive = true) ∨
      (sm.mRetries.isSome = true ∧ sm.Serves mID) := by
  have hTold
      (hMem :
        em ∈ notices sm st
          (sm.mSubscribers.filter (·.isInactive))) :
      (st = .granted ∨ st = .denied) ∧
        ∃ s ∈ sm.mSubscribers,
          s.isAtlOrDS = true ∧ s.ID = mID ∧
            s.isInactive = true := by
    rcases reaches_notices hMem hReaches with
      ⟨⟨s, hs, hKind, hID⟩, hStatus⟩
    rcases List.mem_filter.mp hs with ⟨hs, hInactive⟩
    exact ⟨hStatus, s, hs, hKind, hID, hInactive⟩
  unfold closeDown at hMem
  simp only at hMem
  split at hMem
  · exact Or.inl (hTold hMem)
  · next hKept =>
      rcases List.mem_append.mp hMem with hMem | hMem
      · exact Or.inl (hTold hMem)
      · right
        rcases reaches_request hMem hReaches with
          ⟨hClass, hConn⟩
        have hSome : sm.mRetries.isSome = true := by
          simpa using hClass
        have hLeft :
            ∃ t ∈ sm.mSubscribers,
              t.isInactive = false := by
          simpa using hKept
        rcases hLeft with ⟨t, ht, hActive⟩
        rcases
            serves_of_connHandle
              (fun s hs =>
                hKinds hSome s (List.mem_of_mem_filter hs))
              ⟨t, List.mem_filter.mpr ⟨ht, by simp [hActive]⟩,
                hActive⟩
              hConn with
          ⟨s, hs, hServed⟩
        exact ⟨hSome, s, List.mem_of_mem_filter hs, hServed⟩

/- A denial, of a call or of its release. -/
theorem reaches_denied
    {env : DataCall}
    (hKinds :
      sm.mRetries.isSome = true →
        ∀ s ∈ sm.mSubscribers, s.isAtlOrDS = true)
    (hMem : em ∈ (move sm env .denied).2)
    (hReaches : em.reaches mID = true) :
    (sm.mStatePtr = .pending ∧
        ∃ s ∈ sm.mSubscribers,
          s.isAtlOrDS = true ∧ s.ID = mID) ∨
      (sm.mStatePtr = .releasing ∧
        ((∃ s ∈ sm.mSubscribers,
            s.isAtlOrDS = true ∧ s.ID = mID ∧
              s.isInactive = true) ∨
          (sm.mRetries.isSome = true ∧ sm.Serves mID))) := by
  cases hState : sm.mStatePtr <;>
    simp only [move, hState] at hMem
  · cases hMem
  · exact Or.inl ⟨rfl, (reaches_notices hMem hReaches).1⟩
  · cases hMem
  · exact Or.inr
      ⟨rfl,
        (reaches_closeDown hKinds hMem hReaches).imp_left
          And.right⟩

/- A release that is none of a DS machine that waits. -/
theorem reaches_released
    {env : DataCall}
    (hKinds :
      sm.mRetries.isSome = true →
        ∀ s ∈ sm.mSubscribers, s.isAtlOrDS = true)
    (hMem : em ∈ (move sm env .released).2)
    (hReaches : em.reaches mID = true) :
    sm.mRetries.isSome = true ∧ sm.Serves mID := by
  cases hState : sm.mStatePtr <;>
    simp only [move, hState] at hMem
  · cases hMem
  · cases hMem
  · rcases (reaches_notices hMem hReaches).2 with h | h <;>
      cases h
  · rcases reaches_closeDown hKinds hMem hReaches with
      ⟨h | h, -⟩ | hServed
    · cases h
    · cases h
    · exact hServed

/-
  What an event reaches: the active clients of Pending with
  a grant, the list with a denial, and an active client that
  a data call is started for when the last one has ended.
-/
theorem reaches_event
    {env : DataCall}
    {event : AgpsRsrcStatus}
    (hKinds :
      sm.mRetries.isSome = true →
        ∀ s ∈ sm.mSubscribers, s.isAtlOrDS = true)
    (hMem : em ∈ (sm.call env (.onRsrcEvent event)).2)
    (hReaches : em.reaches mID = true) :
    (sm.mStatePtr = .pending ∧ event = .granted ∧
        sm.Serves mID) ∨
      (sm.Denies event ∧
        ∃ s ∈ sm.mSubscribers,
          s.isAtlOrDS = true ∧ s.ID = mID ∧
            (sm.mStatePtr = .pending ∨
              s.isInactive = true)) ∨
      (sm.mRetries.isSome = true ∧ sm.Serves mID) := by
  rw [AgpsStateMachine.call_eq] at hMem
  cases event with
  | granted =>
      left
      simp only [respond] at hMem
      cases hState : sm.mStatePtr <;>
        simp only [move, hState] at hMem
      · cases hMem
      · rcases reaches_notices hMem hReaches with
          ⟨⟨s, hs, hKind, hID⟩, -⟩
        rcases List.mem_filter.mp hs with ⟨hs, hActive⟩
        exact
          ⟨rfl, rfl, s, hs, hKind, hID,
            by simpa using hActive⟩
      · cases hMem
      · cases hMem
  | denied =>
      right
      rcases reaches_denied hKinds hMem hReaches with
        ⟨hState, s, hs, hKind, hID⟩ |
          ⟨hState, ⟨s, hs, hKind, hID, hInactive⟩ |
            hServed⟩
      · exact Or.inl
          ⟨Or.inl hState, s, hs, hKind, hID, Or.inl hState⟩
      · exact Or.inl
          ⟨Or.inr hState, s, hs, hKind, hID,
            Or.inr hInactive⟩
      · exact Or.inr hServed
  | released =>
      right
      simp only [respond] at hMem
      rcases release_eq sm env with
        hEq | ⟨hClass, hState, hEq⟩
      · rw [hEq] at hMem
        exact Or.inr (reaches_released hKinds hMem hReaches)
      · rw [hEq] at hMem
        rcases reaches_denied hKinds hMem hReaches with
          ⟨hPending, s, hs, hKind, hID⟩ | ⟨hReleasing, -⟩
        · exact Or.inl
            ⟨⟨hClass, hPending⟩, s, hs, hKind, hID,
              Or.inl hPending⟩
        · exact absurd hReleasing hState
  | _ => cases hMem

end Roster

end Agps

end D2Common

------------------------------------------------------------
-- Who Is Served
------------------------------------------------------------

namespace D2Common

namespace Agps

namespace Roster

variable {sm : AgpsStateMachine}
variable {mID : Handle}

/-
  Whoever is served after a call was served before it, or
  has come with the call.
-/
theorem serves_of_call
    {env : DataCall}
    {c : Call}
    (hAfter : (sm.call env c).1.Serves mID) :
    sm.Serves mID ∨
      ∃ s, c = .subscribeRsrc s ∧ s.isAtlOrDS = true ∧
        s.ID = mID ∧
          sm.mSubscribers.any (·.equals s) = false := by
  by_contra hNone
  push Not at hNone
  rcases hNone with ⟨hBefore, hNew⟩
  let P (s : Subscriber) : Prop :=
    ¬ (s.isAtlOrDS = true ∧ s.ID = mID ∧
      s.isInactive = false)
  have hInactivated (s : Subscriber) (hs : P s) :
      P s.inactivated := by
    cases s <;>
      simp_all [P, Subscriber.inactivated,
        Subscriber.isAtlOrDS, Subscriber.ID,
        Subscriber.isInactive]
  have hAll : ∀ s ∈ sm.mSubscribers, P s :=
    fun s hs hServed => hBefore ⟨s, hs, hServed⟩
  rcases hAfter with ⟨t, ht, hServed⟩
  rw [AgpsStateMachine.call_eq] at ht
  refine
    (closed_all hInactivated).respond env hAll ?_ t ht
      hServed
  intro s hCall _ u hu hServed
  unfold added at hu
  split at hu
  · exact hAll u hu hServed
  · next hAbsent =>
      rcases List.mem_cons.mp hu with rfl | hu
      · refine hNew s hCall ?_ ?_ (by simpa using hAbsent)
        · simpa using hServed.1
        · simpa using hServed.2.1
      · exact hAll u hu hServed

/- A list of such clients has no handle twice. -/
theorem nodup_handles
    {l : List Subscriber}
    (hOrdered : Identity.Ordered l)
    (hKinds : ∀ t ∈ l, t.isAtlOrDS = true) :
    (handles l).Nodup := by
  unfold handles List.Nodup
  rw [List.pairwise_map]
  apply List.Pairwise.imp_of_mem _ hOrdered
  intro newer older _ hOlder hApart hSame
  rw [Subscriber.equals_of_isAtlOrDS (hKinds older hOlder),
    hSame] at hApart
  simp at hApart

/- Who has left is marked, if the record is still there. -/
theorem inactive_of_mem_left
    {l : List Subscriber}
    (hNodup : (handles l).Nodup)
    {s t : Subscriber}
    (hs : s ∈ l)
    (hKinds : ∀ t ∈ l, t.isAtlOrDS = true)
    (ht : t ∈ left s l)
    (hID : t.ID = s.ID) :
    t.isInactive = true := by
  unfold left at ht
  split at ht
  · next hWaits =>
      rcases (mem_replace_iff hNodup hs t).mp ht with
        ⟨-, hOther⟩ | rfl
      · exact absurd hID hOther
      · exact Subscriber.isInactive_inactivated hWaits
  · rcases List.mem_filter.mp ht with ⟨ht, hOther⟩
    rw [Subscriber.equals_of_isAtlOrDS (hKinds t ht), hID]
      at hOther
    simp at hOther

/- After it has left, a handle is not served any more. -/
theorem not_serves_unsubscribe
    {env : DataCall}
    {s : Subscriber}
    (hOrdered : Identity.Ordered sm.mSubscribers)
    (hKinds : ∀ t ∈ sm.mSubscribers, t.isAtlOrDS = true)
    (hState : sm.mStatePtr ≠ .released) :
    ¬ (sm.call env (.unsubscribeRsrc s)).1.Serves s.ID := by
  rintro ⟨t, ht, -, hID, hActive⟩
  cases hFind : sm.mSubscribers.find? (·.equals s) with
  | none =>
      rw [AgpsStateMachine.call_of_find_none env hFind] at ht
      have hOther := List.find?_eq_none.mp hFind t ht
      rw [Subscriber.equals_of_isAtlOrDS (hKinds t ht), hID]
        at hOther
      simp at hOther
  | some u =>
      have hu := List.mem_of_find?_eq_some hFind
      have hSame : u.equals s = true := by
        simpa using List.find?_some hFind
      rw [AgpsStateMachine.call_of_find env hFind,
        mSubscribers_move_unsubscribe sm env u hState] at ht
      have hLeft :=
        inactive_of_mem_left
          (nodup_handles hOrdered hKinds) hu hKinds ht
          (hID.trans
            (Subscriber.ID_eq_of_equals hSame).symm)
      simp [hLeft] at hActive

end Roster

end Agps

end D2Common

------------------------------------------------------------
-- The List Of Released
------------------------------------------------------------

namespace D2Common

namespace Agps

namespace Roster

variable {sm : AgpsStateMachine}

/- Who comes to a list of active clients leaves it so. -/
theorem active_added
    {l : List Subscriber}
    (hActive : ∀ t ∈ l, t.isInactive = false)
    (s : Subscriber) :
    ∀ t ∈ added s l, t.isInactive = false := by
  intro t ht
  rcases mem_added ht with rfl | ht
  · cases s <;> rfl
  · exact hActive t ht

theorem resting_depart
    (s : Subscriber)
    (hState : sm.mStatePtr ≠ .released) :
    Resting (depart sm s).1 := by
  intro hAfter t ht
  simp only [depart] at hAfter ht
  split at hAfter
  · next hInactive =>
      rw [if_pos hInactive] at ht
      simp only at hAfter ht
      split at hAfter
      · next hEmpty =>
          rw [List.isEmpty_iff.mp hEmpty] at ht
          cases ht
      · cases hAfter
  · exact absurd hAfter hState

theorem resting_closeDown
    (env : DataCall)
    (st : AgpsRsrcStatus) :
    Resting (closeDown sm env st).1 := by
  intro hAfter t ht
  simp only [closeDown] at hAfter ht
  split at hAfter
  · next hEmpty =>
      rw [if_pos hEmpty] at ht
      simp only [List.isEmpty_iff.mp hEmpty] at ht
      cases ht
  · cases hAfter

theorem resting_move
    (env : DataCall)
    (event : RsrcEvent)
    (hResting : Resting sm) :
    Resting (move sm env event).1 := by
  unfold move
  cases hState : sm.mStatePtr <;> cases event
  case released.subscribe s =>
      intro _ t ht
      simp only [start, mSubscribers_request] at ht
      exact active_added (hResting hState) s t ht
  case pending.unsubscribe s =>
      exact resting_depart s (by simp [hState])
  case acquired.unsubscribe s =>
      exact resting_depart s (by simp [hState])
  case releasing.unsubscribe s =>
      intro hAfter t ht
      simp only [departReleasing] at hAfter ht
      split at hAfter
      · next hEmpty =>
          rw [List.isEmpty_iff.mp hEmpty] at ht
          cases ht
      · cases hAfter
  case releasing.released => exact resting_closeDown env _
  case releasing.denied => exact resting_closeDown env _
  case pending.denied =>
      intro _ t ht
      cases ht
  case acquired.released =>
      intro _ t ht
      cases ht
  case pending.granted =>
      intro hAfter
      cases hAfter
  all_goals
    first
      | exact hResting
      | exact fun hAfter =>
          absurd (hState.symm.trans hAfter) (by decide)

theorem resting_respond
    (env : DataCall)
    (c : Call)
    (hResting : Resting sm) :
    Resting (respond sm env c).1 := by
  have hMove := fun event =>
    resting_move env event hResting
  cases c with
  | subscribeRsrc s =>
      simp only [respond, subscribe]
      split
      · intro hAfter t ht
        simp only [refuse, mStatePtr_clearRetries,
          mSubscribers_clearRetries] at hAfter ht
        exact hResting hAfter t ht
      · exact hMove _
  | unsubscribeRsrc s =>
      simp only [respond, unsubscribe]
      split
      · exact hMove _
      · exact hResting
  | onRsrcEvent event =>
      cases event with
      | granted => exact hMove .granted
      | denied => exact hMove .denied
      | released =>
          simp only [respond]
          rcases release_cases sm env with hEq | hEq
          · rw [hEq]
            exact hMove .released
          · rw [hEq]
            exact hMove .denied
      | _ => exact hResting
  | setAPN apn => exact hResting
  | setBearer bearer => exact hResting

/-
  The start of a data call in Released is for a client that
  was there, or for the one who has just come.
-/
theorem serves_of_start
    {mID : Handle}
    {s : Subscriber}
    (hKinds : ∀ t ∈ sm.mSubscribers, t.isAtlOrDS = true)
    (hKind : s.isAtlOrDS = true)
    (hResting : Resting sm)
    (hState : sm.mStatePtr = .released)
    (hConn :
      connHandle (added s sm.mSubscribers) = mID) :
    sm.Serves mID ∨
      (s.ID = mID ∧
        sm.mSubscribers.any (·.equals s) = false) := by
  have hActive := active_added (hResting hState) s
  have hSome : ∃ t, t ∈ added s sm.mSubscribers := by
    unfold added
    split
    · next hOn =>
        rcases List.any_eq_true.mp hOn with ⟨t, ht, -⟩
        exact ⟨t, ht⟩
    · exact ⟨s.clone, List.mem_cons_self⟩
  have hKindsAdded :
      ∀ t ∈ added s sm.mSubscribers,
        t.isAtlOrDS = true := by
    intro t ht
    rcases mem_added ht with rfl | ht
    · simpa using hKind
    · exact hKinds t ht
  rcases hSome with ⟨u, hu⟩
  rcases
      serves_of_connHandle hKindsAdded
        ⟨u, hu, hActive u hu⟩ hConn with
    ⟨t, ht, hServed⟩
  unfold added at ht
  split at ht
  · exact Or.inl ⟨t, ht, hServed⟩
  · next hAbsent =>
      rcases List.mem_cons.mp ht with rfl | ht
      · exact Or.inr
          ⟨by simpa using hServed.2.1, by simpa using hAbsent⟩
      · exact Or.inl ⟨t, ht, hServed⟩

end Roster

end Agps

end D2Common
