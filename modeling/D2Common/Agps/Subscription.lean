import D2Common.Agps.Plain
import D2Common.Agps.DataServices

/-
  What becomes of a subscribe.

  A subscribe adds a client whose record is not on the list
  yet. A record that only waits for its close to complete is
  taken for the client as well, so a client that comes back
  that early is neither denied nor on the list as active.

  Key definitions include:
    * `Roster.Waiting`
    * `Plain.Kept`
    * `DS.Kept`

  Key theorems include:
    * `Roster.active_added_iff`
    * `subscribe_kept_iff`
    * `resubscribe_lost`
-/

------------------------------------------------------------
-- Waiting Records
------------------------------------------------------------

namespace D2Common

namespace Agps

namespace Roster

/-
  The client is on the list, and every record of it waits
  for its close to complete.
-/
def Waiting
    (s : Subscriber)
    (l : List Subscriber) : Prop :=
  (∃ t ∈ l, t.equals s = true) ∧
    ∀ t ∈ l, t.equals s = true → t.isInactive = true

/- The client is on the list with an active record. -/
def Active
    (s : Subscriber)
    (l : List Subscriber) : Prop :=
  ∃ t ∈ l, t.isInactive = false ∧ t.equals s = true

theorem not_active_of_waiting
    {s : Subscriber}
    {l : List Subscriber}
    (hWaiting : Waiting s l) :
    ¬ Active s l := by
  rintro ⟨t, ht, hActive, hEq⟩
  rw [hWaiting.2 t ht hEq] at hActive
  cases hActive

/- Adding a client works unless its records wait. -/
theorem active_added_iff
    (s : Subscriber)
    (l : List Subscriber) :
    Active s (added s l) ↔ ¬ Waiting s l := by
  constructor
  · intro hActive hWaiting
    have hAny : l.any (·.equals s) = true :=
      List.any_eq_true.mpr hWaiting.1
    unfold added at hActive
    rw [if_pos hAny] at hActive
    exact not_active_of_waiting hWaiting hActive
  · intro hNot
    by_cases hAny : l.any (·.equals s) = true
    · have hSome := List.any_eq_true.mp hAny
      unfold added
      rw [if_pos hAny]
      by_contra hNone
      apply hNot
      refine ⟨hSome, ?_⟩
      intro t ht hEq
      by_contra hActive
      exact hNone ⟨t, ht, by simpa using hActive, hEq⟩
    · unfold added
      rw [if_neg hAny]
      exact ⟨s.clone, List.mem_cons_self, by simp,
        by simp⟩

end Roster

end Agps

end D2Common

------------------------------------------------------------
-- Plain Machines
------------------------------------------------------------

namespace D2Common

namespace Agps

namespace Plain

/- The client was denied, or is now on the list as active. -/
def Kept
    (c : Client)
    (r : AgpsStateMachine × List Emission) : Prop :=
  .notified .caller c.subscriber .denied ∈ r.2 ∨
    Roster.Active c.subscriber r.1.mSubscribers

theorem kept_accept_iff
    {sm : AgpsStateMachine}
    {c : Client}
    {out : List Emission}
    (hAdmits : ¬ sm.Refuses)
    (hOut :
      .notified .caller c.subscriber .denied ∉ out) :
    Kept c (Roster.accept sm c.subscriber, out) ↔
      sm.Refuses ∨
        ¬ Roster.Waiting c.subscriber sm.mSubscribers := by
  have hActive :=
    Roster.active_added_iff c.subscriber sm.mSubscribers
  simp [Kept, Roster.accept, hAdmits, hOut, hActive]

theorem kept_iff_of_step
    {sm sm' : AgpsStateMachine}
    {out : List Emission}
    {c : Client}
    (hInv : Inv sm)
    (hStep : Step sm (.subscribeRsrc c) sm' out) :
    Kept c (sm', out) ↔
      sm.Refuses ∨
        ¬ Roster.Waiting c.subscriber sm.mSubscribers := by
  cases hStep with
  | refuse c hRefuses =>
      have hDenied : Kept c (sm,
          c.subscriber.notice .caller sm .denied) :=
        Or.inl List.mem_cons_self
      exact iff_of_true hDenied (Or.inl hRefuses)
  | start c hState =>
      apply iff_of_true
      · exact Or.inr
          ⟨c.subscriber, List.mem_cons_self, by simp,
            by simp⟩
      · right
        rintro ⟨⟨t, ht, -⟩, -⟩
        simp [hInv.empty.mp hState] at ht
  | join c hAdmits hState =>
      exact kept_accept_iff hAdmits (by simp)
  | joinGranted c hAdmits hState =>
      apply kept_accept_iff hAdmits
      intro hMem
      rcases List.mem_cons.mp hMem with hEq | hMem
      · cases hEq
      · cases c <;>
          simp [Client.subscriber, Subscriber.answer]
            at hMem

end Plain

end Agps

end D2Common

------------------------------------------------------------
-- The Data Services Machine
------------------------------------------------------------

namespace D2Common

namespace Agps

namespace DS

/- The handle fell back, or is now on the list as active. -/
def Kept
    (id : Handle)
    (r : AgpsStateMachine × List Emission) : Prop :=
  .requestATL id agpsTypeSupl ∈ r.2 ∨
    Roster.Active (.ds id false) r.1.mSubscribers

instance
    (id : Handle)
    (r : AgpsStateMachine × List Emission) :
    Decidable (Kept id r) :=
  inferInstanceAs
    (Decidable
      (_ ∨ ∃ t ∈ r.1.mSubscribers,
        t.isInactive = false ∧ _ = true))

theorem kept_accept_iff
    {sm : AgpsStateMachine}
    {id : Handle}
    {out : List Emission}
    (hOut : .requestATL id agpsTypeSupl ∉ out) :
    Kept id (Roster.accept sm (.ds id false), out) ↔
      ¬ Roster.Waiting (.ds id false) sm.mSubscribers := by
  have hActive :=
    Roster.active_added_iff (.ds id false) sm.mSubscribers
  simp [Kept, Roster.accept, hOut, hActive]

theorem kept_iff_of_step
    {sm sm' : AgpsStateMachine}
    {out : List Emission}
    {id : Handle}
    {env : DataCall}
    (hInv : Inv sm)
    (hStep : Step sm (.subscribeRsrc id env) sm' out) :
    Kept id (sm', out) ↔
      ¬ Roster.Waiting (.ds id false) sm.mSubscribers := by
  cases hStep with
  | start id env hState =>
      have hNot :
          ¬ Roster.Waiting (.ds id false)
            sm.mSubscribers := by
        rintro ⟨⟨t, ht, hEq⟩, hAll⟩
        have hActive := hInv.released hState t ht
        rw [hAll t ht hEq] at hActive
        cases hActive
      exact iff_of_true
        (Or.inr ((Roster.active_added_iff _ _).mpr hNot))
        hNot
  | join id env hState => exact kept_accept_iff (by simp)
  | joinGranted id env hState =>
      apply kept_accept_iff
      simp [Subscriber.notice, Subscriber.answer]

end DS

end Agps

end D2Common

------------------------------------------------------------
-- Subscribes On All Machines
------------------------------------------------------------

namespace D2Common

namespace Agps

/-
  A subscribe is lost exactly when the client is on the list
  already, but only with records that wait for their close.
-/
theorem subscribe_kept_iff
    (type : AGpsExtType)
    (enforceSingleSubscriber : Bool)
    (ops : List Plain.Op)
    (c : Client)
    (dsOps : List DS.Op)
    (id : Handle)
    (env : DataCall) :
    let M := Plain.machine type enforceSingleSubscriber
    let sm := M.run ops
    let ds := DS.machine.run dsOps
    (Plain.Kept c (M.step sm (.subscribeRsrc c)) ↔
        sm.Refuses ∨
          ¬ Roster.Waiting c.subscriber sm.mSubscribers) ∧
      (DS.Kept id
          (DS.machine.step ds (.subscribeRsrc id env)) ↔
        ¬ Roster.Waiting (.ds id false)
          ds.mSubscribers) := by
  intro M sm ds
  have hInv := Plain.inv_run type enforceSingleSubscriber ops
  have hInvDS := DS.inv_run dsOps
  constructor
  · exact Plain.kept_iff_of_step hInv
      (Plain.step_of_call hInv (.subscribeRsrc c))
  · exact DS.kept_iff_of_step hInvDS
      (DS.step_of_call hInvDS (.subscribeRsrc id env))

/-
  Handle 7 is released while its call is up, and asks again
  before the call is down.
-/
theorem resubscribe_lost :
    let sm :=
      DS.machine.run
        [.subscribeRsrc 7 dataCallStarted,
          .onRsrcEvent .granted noDataCall,
          .unsubscribeRsrc 7]
    ¬ DS.Kept 7
      (DS.machine.step sm
        (.subscribeRsrc 7 dataCallStarted)) := by
  decide

end Agps

end D2Common
