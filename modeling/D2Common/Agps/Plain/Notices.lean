import D2Common.Agps.Plain
import Mathlib.Data.List.Nodup

/-
  Who is told what by a plain machine.

  The records of the list are told apart by what they were
  cloned from. A client that joins is granted the resource
  exactly when it is there, and a client that leaves is told
  so once.

  Key definitions include:
    * `Plain.Grants`
    * `Plain.Adds`
    * `Plain.farewells`

  Key theorems include:
    * `Plain.farewells_partition`
    * `Plain.ledger_run`
    * `Plain.grants_and_farewells`
-/

------------------------------------------------------------
-- Notifications In An Output
------------------------------------------------------------

namespace D2Common

namespace Agps

/- A notice holds one notification and only answers else. -/
theorem notified_of_mem_notice
    {s t : Subscriber}
    {a b : Addressee}
    {sm : AgpsStateMachine}
    {st st' : AgpsRsrcStatus}
    (hMem : Emission.notified b t st' ∈ s.notice a sm st) :
    b = a ∧ t = s ∧ st' = st := by
  rcases List.mem_cons.mp hMem with hEq | hMem
  · cases hEq
    exact ⟨rfl, rfl, rfl⟩
  · cases st <;> cases s <;>
      simp [Subscriber.answer] at hMem

theorem notified_of_mem_notices
    {t : Subscriber}
    {b : Addressee}
    {sm : AgpsStateMachine}
    {st st' : AgpsRsrcStatus}
    {l : List Subscriber}
    (hMem : Emission.notified b t st' ∈ notices sm st l) :
    t ∈ l ∧ st' = st := by
  rcases List.mem_flatMap.mp hMem with ⟨s, hs, hMem⟩
  rcases notified_of_mem_notice hMem with ⟨-, rfl, hSt⟩
  exact ⟨hs, hSt⟩

theorem notified_of_mem_leaveOut
    {s t : Subscriber}
    {b : Addressee}
    {sm : AgpsStateMachine}
    {st : AgpsRsrcStatus}
    (hMem :
      Emission.notified b t st ∈ Roster.leaveOut sm s) :
    st = .unsubscribe := by
  unfold Roster.leaveOut at hMem
  split at hMem
  · split at hMem <;> simp at hMem
  · exact (notified_of_mem_notices hMem).2

namespace Plain

theorem not_notified_requestOut
    {sm : AgpsStateMachine}
    {s t : Subscriber}
    {b : Addressee}
    {st : AgpsRsrcStatus} :
    Emission.notified b t st ∉ requestOut sm s := by
  simp [requestOut]

theorem not_notified_releaseOut
    {sm : AgpsStateMachine}
    {t : Subscriber}
    {b : Addressee}
    {st : AgpsRsrcStatus} :
    Emission.notified b t st ∉ Roster.releaseOut sm := by
  unfold Roster.releaseOut
  split <;> simp

end Plain

end Agps

end D2Common

------------------------------------------------------------
-- Farewells
------------------------------------------------------------

namespace D2Common

namespace Agps

/- The statuses that a leaving subscriber is told. -/
def AgpsRsrcStatus.isFarewell : AgpsRsrcStatus → Bool
| .unsubscribe => true
| .denied => true
| .released => true
| _ => false

namespace Plain

/-
  How often the record of a client on the list is told that
  it is out.
-/
def farewells
    (client : Subscriber)
    (out : List Emission) : Nat :=
  out.countP fun e =>
    match e with
    | .notified .listed s st =>
        decide (s.clone = client) && st.isFarewell
    | _ => false

theorem farewells_append
    (client : Subscriber)
    (out out' : List Emission) :
    farewells client (out ++ out') =
      farewells client out + farewells client out' :=
  List.countP_append

/- An output without notifications has no farewell. -/
theorem farewells_eq_zero
    (client : Subscriber)
    {out : List Emission}
    (hNone :
      ∀ s st, Emission.notified .listed s st ∈ out →
        st.isFarewell = false) :
    farewells client out = 0 := by
  apply List.countP_eq_zero.mpr
  intro e he
  cases e with
  | notified a s st =>
      cases a with
      | listed => simp [hNone s st he]
      | caller => simp
  | _ => simp

theorem farewells_notice
    (client s : Subscriber)
    (sm : AgpsStateMachine)
    {st : AgpsRsrcStatus}
    (hFarewell : st.isFarewell = true) :
    farewells client (s.notice .listed sm st) =
      if s.clone = client then 1 else 0 := by
  have hAnswer :
      farewells client (s.answer sm st) = 0 := by
    apply farewells_eq_zero
    intro t st' hMem
    cases st <;> cases s <;>
      simp [Subscriber.answer] at hMem
  change List.countP _ (_ :: s.answer sm st) = _
  unfold farewells at hAnswer
  rw [List.countP_cons, hAnswer]
  simp [hFarewell]

/- Everyone who is told is told once. -/
theorem farewells_notices
    (client : Subscriber)
    (sm : AgpsStateMachine)
    {st : AgpsRsrcStatus}
    (hFarewell : st.isFarewell = true)
    (l : List Subscriber) :
    farewells client (notices sm st l) =
      (l.map (·.clone)).count client := by
  induction l with
  | nil => rfl
  | cons s l ih =>
      rw [notices_cons, farewells_append, ih,
        farewells_notice client s sm hFarewell]
      rw [List.map_cons, List.count_cons]
      by_cases hSame : s.clone = client <;>
        simp [hSame, Nat.add_comm]

/-
  When a list is split into those who are told and those who
  are kept, the former get one farewell and the latter none.
-/
theorem farewells_partition
    (sm : AgpsStateMachine)
    {st : AgpsRsrcStatus}
    (hFarewell : st.isFarewell = true)
    (told : Subscriber → Bool)
    {l : List Subscriber}
    (hNodup : (l.map (·.clone)).Nodup)
    {s : Subscriber}
    (hs : s ∈ l) :
    let kept := (l.filter (!told ·)).map (·.clone)
    let count :=
      farewells s.clone (notices sm st (l.filter told))
    (s.clone ∉ kept → count = 1) ∧
      (s.clone ∈ kept → count = 0) := by
  intro kept count
  have hInj := List.inj_on_of_nodup_map hNodup
  have hSub :
      ((l.filter told).map (·.clone)).Nodup :=
    hNodup.sublist (List.filter_sublist.map _)
  have hCount :
      count = ((l.filter told).map (·.clone)).count s.clone :=
    farewells_notices s.clone sm hFarewell _
  constructor
  · intro hGone
    have hTold : told s = true := by
      by_contra hNot
      apply hGone
      exact List.mem_map_of_mem
        (List.mem_filter.mpr ⟨hs, by simpa using hNot⟩)
    rw [hCount]
    exact List.count_eq_one_of_mem hSub
      (List.mem_map_of_mem (List.mem_filter.mpr ⟨hs, hTold⟩))
  · intro hKept
    rcases List.mem_map.mp hKept with ⟨t, ht, hSame⟩
    rcases List.mem_filter.mp ht with ⟨htl, hNot⟩
    rw [hCount]
    apply List.count_eq_zero_of_not_mem
    intro hMem
    rcases List.mem_map.mp hMem with ⟨u, hu, hSame'⟩
    rcases List.mem_filter.mp hu with ⟨hul, hTold⟩
    have hEq : u = t := hInj hul htl (hSame'.trans hSame.symm)
    subst hEq
    simp [hTold] at hNot

end Plain

end Agps

end D2Common

------------------------------------------------------------
-- Clients On The List
------------------------------------------------------------

namespace D2Common

namespace Agps

/- The clients on a list, told apart by their clones. -/
def clients (l : List Subscriber) : List Subscriber :=
  l.map (·.clone)

theorem mem_clients
    {s : Subscriber}
    {l : List Subscriber}
    (hs : s ∈ l) :
    s.clone ∈ clients l :=
  List.mem_map_of_mem hs

theorem clients_replace_inactivated
    (s : Subscriber)
    (l : List Subscriber) :
    clients (l.replace s s.inactivated) = clients l :=
  Roster.map_replace_inactivated s.clone_inactivated l

namespace Roster

theorem clients_left_sublist
    (s : Subscriber)
    (l : List Subscriber) :
    List.Sublist (clients (left s l)) (clients l) := by
  unfold left
  split
  · rw [clients_replace_inactivated]
  · exact List.filter_sublist.map _

/- A client that is added was not there before. -/
theorem mem_added_fresh
    {s t : Subscriber}
    {l : List Subscriber}
    (ht : t ∈ added s l) :
    t ∈ l ∨ (t = s.clone ∧ s.clone ∉ clients l) := by
  unfold added at ht
  split at ht
  · exact Or.inl ht
  · next hNone =>
      rcases List.mem_cons.mp ht with rfl | ht
      · refine Or.inr ⟨rfl, ?_⟩
        intro hMem
        rcases List.mem_map.mp hMem with ⟨u, hu, hSame⟩
        apply hNone
        refine List.any_eq_true.mpr ⟨u, hu, ?_⟩
        rw [← Subscriber.equals_clone_left, hSame]
        simp
      · exact Or.inl ht

theorem nodup_added
    (s : Subscriber)
    {l : List Subscriber}
    (hNodup : (clients l).Nodup) :
    (clients (added s l)).Nodup := by
  by_cases hMem : s.clone ∈ clients l
  · rcases List.mem_map.mp hMem with ⟨u, hu, hSame⟩
    have hAny : l.any (·.equals s) = true := by
      refine List.any_eq_true.mpr ⟨u, hu, ?_⟩
      rw [← Subscriber.equals_clone_left, hSame]
      simp
    unfold added
    rw [if_pos hAny]
    exact hNodup
  · unfold added
    split
    · exact hNodup
    · simp only [clients, List.map_cons,
        Subscriber.clone_clone]
      exact List.nodup_cons.mpr ⟨hMem, hNodup⟩

end Roster

end Agps

end D2Common

------------------------------------------------------------
-- The Ledger
------------------------------------------------------------

namespace D2Common

namespace Agps

namespace Plain

open History

/- A step in which a client is notified of the grant. -/
def Grants
    (client : Subscriber)
    (ev : Event) : Prop :=
  ∃ a s,
    Emission.notified a s .granted ∈ ev.output ∧
      s.clone = client

/- A step in which a client comes onto the list. -/
def Adds
    (client : Subscriber)
    (ev : Event) : Prop :=
  client ∉ clients ev.before.mSubscribers ∧
    client ∈ clients ev.after.mSubscribers

/- Granted in or after the step that added the client. -/
def Granted
    (client : Subscriber)
    (h : List Event) : Prop :=
  Open (Grants client) (Adds client) h

variable {sm sm' : AgpsStateMachine}
variable {op : Op}
variable {out : List Emission}
variable {h : List Event}

/- Nothing in an output is a grant. -/
def NoGrant (out : List Emission) : Prop :=
  ∀ a t st, Emission.notified a t st ∈ out → st ≠ .granted

/- A client that stays keeps its grant. -/
theorem granted_concat
    {s : Subscriber}
    (hOld : s ∈ sm.mSubscribers)
    (hGranted : Granted s.clone h) :
    Granted s.clone (h ++ [⟨sm, op, out, sm'⟩]) := by
  apply (open_concat _ _).mpr
  exact Or.inr
    ⟨hGranted, fun hAdds => hAdds.1 (mem_clients hOld)⟩

theorem not_granted_concat
    {s : Subscriber}
    (hNone : NoGrant out)
    (hNot : ¬ Granted s.clone h) :
    ¬ Granted s.clone (h ++ [⟨sm, op, out, sm'⟩]) := by
  unfold Granted
  rw [open_concat]
  rintro (⟨a, t, hMem, -⟩ | ⟨hGranted, -⟩)
  · exact hNone a t .granted hMem rfl
  · exact hNot hGranted

/- A client that comes without a grant starts without one. -/
theorem not_granted_of_adds
    {client : Subscriber}
    (hNone : NoGrant out)
    (hNew : client ∉ clients sm.mSubscribers)
    (hIn : client ∈ clients sm'.mSubscribers) :
    ¬ Granted client (h ++ [⟨sm, op, out, sm'⟩]) := by
  unfold Granted
  rw [open_concat]
  rintro (⟨a, t, hMem, -⟩ | ⟨-, hNot⟩)
  · exact hNone a t .granted hMem rfl
  · exact hNot ⟨hNew, hIn⟩

theorem nodup_of_step
    (hNodup : (clients sm.mSubscribers).Nodup)
    (hStep : Step sm op sm' out) :
    (clients sm'.mSubscribers).Nodup := by
  cases hStep with
  | start c hState => simp [clients]
  | join c hAdmits hState =>
      exact Roster.nodup_added _ hNodup
  | joinGranted c hAdmits hState =>
      exact Roster.nodup_added _ hNodup
  | leave c t hFind hState hSome =>
      exact hNodup.sublist (Roster.clients_left_sublist t _)
  | leaveLast c t hFind hState hNone =>
      exact hNodup.sublist (Roster.clients_left_sublist t _)
  | leaveReleasing c t hFind hState =>
      exact hNodup.sublist (Roster.clients_left_sublist t _)
  | dismiss st hState => simp [clients]
  | closeDown st hStatus hState hInactive => simp [clients]
  | restart st s hStatus hState hActive =>
      exact hNodup.sublist (List.filter_sublist.map _)
  | _ => exact hNodup

/- Everyone active after a departure was on the list. -/
theorem mem_of_mem_left
    {s t : Subscriber}
    {l : List Subscriber}
    (hs : s ∈ Roster.left t l)
    (hActive : s.isInactive = false) :
    s ∈ l := by
  rcases Roster.mem_left hs with hs | ⟨hWaits, rfl⟩
  · exact hs
  · rw [Subscriber.isInactive_inactivated hWaits] at hActive
    cases hActive

theorem noGrant_leaveOut
    (t : Subscriber) :
    NoGrant (Roster.leaveOut sm t) := by
  intro a s st hMem
  rw [notified_of_mem_leaveOut hMem]
  simp

/- In Acquired every active client has its grant. -/
theorem granted_of_step
    (hGranted :
      sm.mStatePtr = .acquired →
        ∀ s ∈ sm.mSubscribers, s.isInactive = false →
          Granted s.clone h)
    (hStep : Step sm op sm' out)
    (hState' : sm'.mStatePtr = .acquired) :
    ∀ s ∈ sm'.mSubscribers, s.isInactive = false →
      Granted s.clone (h ++ [⟨sm, op, out, sm'⟩]) := by
  intro s hs hActive
  cases hStep with
  | start c hState => simp at hState'
  | join c hAdmits hState =>
      rcases hState with hState | hState <;>
        simp [Roster.accept, hState] at hState'
  | joinGranted c hAdmits hState =>
      rcases Roster.mem_added hs with rfl | hOld
      · apply (open_concat _ _).mpr
        exact Or.inl
          ⟨.caller, c.subscriber, List.mem_cons_self,
            by simp⟩
      · exact granted_concat hOld
          (hGranted hState s hOld hActive)
  | leave c t hFind hState hSome =>
      have hOld := mem_of_mem_left hs hActive
      exact granted_concat hOld
        (hGranted hState' s hOld hActive)
  | leaveLast c t hFind hState hNone =>
      exact absurd (Or.inr hState') not_holds_of_leave
  | leaveReleasing c t hFind hState =>
      exact absurd (Or.inr hState') not_holds_of_leave
  | grant hState =>
      apply (open_concat _ _).mpr
      refine Or.inl ⟨.listed, s, ?_, rfl⟩
      apply List.mem_flatMap.mpr
      refine ⟨s, List.mem_filter.mpr ⟨hs, ?_⟩,
        List.mem_cons_self⟩
      simpa using hActive
  | dismiss st hState => simp at hState'
  | closeDown st hStatus hState hInactive => simp at hState'
  | restart st t hStatus hState hFind => simp at hState'
  | _ =>
      exact granted_concat hs
        (hGranted hState' s hs hActive)

/- In Pending and Releasing no active client has one. -/
theorem not_granted_of_step
    (hInv : Inv sm)
    (hNot :
      sm.mStatePtr = .pending ∨ sm.mStatePtr = .releasing →
        ∀ s ∈ sm.mSubscribers, s.isInactive = false →
          ¬ Granted s.clone h)
    (hStep : Step sm op sm' out)
    (hState' :
      sm'.mStatePtr = .pending ∨
        sm'.mStatePtr = .releasing) :
    ∀ s ∈ sm'.mSubscribers, s.isInactive = false →
      ¬ Granted s.clone (h ++ [⟨sm, op, out, sm'⟩]) := by
  intro s hs hActive
  have hSame (out : List Emission) (hNone : NoGrant out)
      (hState :
        sm.mStatePtr = .pending ∨
          sm.mStatePtr = .releasing)
      (hOld : s ∈ sm.mSubscribers) :
      ¬ Granted s.clone (h ++ [⟨sm, op, out, sm'⟩]) :=
    not_granted_concat hNone (hNot hState s hOld hActive)
  cases hStep with
  | start c hState =>
      apply not_granted_of_adds
      · intro a t st hMem
        exact absurd hMem not_notified_requestOut
      · simp [hInv.empty.mp hState, clients]
      · exact mem_clients hs
  | join c hAdmits hState =>
      rcases Roster.mem_added_fresh hs with
        hOld | ⟨rfl, hNew⟩
      · exact hSame [] (by simp [NoGrant]) hState hOld
      · apply not_granted_of_adds
        · simp [NoGrant]
        · simpa using hNew
        · exact mem_clients hs
  | joinGranted c hAdmits hState =>
      rcases hState' with hState' | hState' <;>
        simp [Roster.accept, hState] at hState'
  | leave c t hFind hState hSome =>
      exact hSame _ (noGrant_leaveOut t) hState'
        (mem_of_mem_left hs hActive)
  | leaveLast c t hFind hState hNone =>
      rw [hNone s hs] at hActive
      cases hActive
  | leaveReleasing c t hFind hState =>
      exact hSame _ (noGrant_leaveOut t) (Or.inr hState)
        (mem_of_mem_left hs hActive)
  | grant hState => simp at hState'
  | dismiss st hState => simp at hState'
  | closeDown st hStatus hState hInactive => simp at hState'
  | restart st t hStatus hState hFind =>
      apply hSame _ _ (Or.inr hState)
        (List.mem_of_mem_filter hs)
      intro a u st' hMem
      rcases List.mem_append.mp hMem with hMem | hMem
      · rw [(notified_of_mem_notices hMem).2]
        rcases hStatus with rfl | rfl <;> simp
      · exact absurd hMem not_notified_requestOut
  | refuse c hRefuses =>
      apply hSame _ _ hState' hs
      intro a u st hMem
      rw [(notified_of_mem_notice hMem).2.2]
      simp
  | _ => exact hSame [] (by simp [NoGrant]) hState' hs

end Plain

end Agps

end D2Common

------------------------------------------------------------
-- Farewells Of A Step
------------------------------------------------------------

namespace D2Common

namespace Agps

namespace Plain

variable {sm sm' : AgpsStateMachine}
variable {op : Op}
variable {out : List Emission}

/-
  A client that is gone after the output was told so once,
  and a client that is still there was not.
-/
def FarewellOnce
    (client : Subscriber)
    (l : List Subscriber)
    (out : List Emission) : Prop :=
  (client ∉ clients l → farewells client out = 1) ∧
    (client ∈ clients l → farewells client out = 0)

theorem farewellOnce_of_stays
    {s : Subscriber}
    {l : List Subscriber}
    (hStays : s.clone ∈ clients l)
    (hNone :
      ∀ t st, Emission.notified .listed t st ∈ out →
        st.isFarewell = false) :
    FarewellOnce s.clone l out :=
  ⟨fun hGone => absurd hStays hGone,
    fun _ => farewells_eq_zero _ hNone⟩

/- Messages to the framework are no farewells. -/
theorem farewellOnce_append
    {client : Subscriber}
    {l : List Subscriber}
    {rest : List Emission}
    (hOnce : FarewellOnce client l out)
    (hNone :
      ∀ a t st, Emission.notified a t st ∉ rest) :
    FarewellOnce client l (out ++ rest) := by
  have hRest : farewells client rest = 0 :=
    farewells_eq_zero _ fun t st hMem =>
      absurd hMem (hNone _ t st)
  unfold FarewellOnce
  rw [farewells_append, hRest]
  exact hOnce

theorem farewellOnce_leave
    (hInv : Inv sm)
    (hNodup : (clients sm.mSubscribers).Nodup)
    {s t : Subscriber}
    (hs : s ∈ sm.mSubscribers)
    (ht : t ∈ sm.mSubscribers) :
    FarewellOnce s.clone
      (Roster.left t sm.mSubscribers)
      (Roster.leaveOut sm t) := by
  unfold Roster.left Roster.leaveOut
  by_cases hWaits : t.waitForCloseComplete = true
  · rw [if_pos hWaits, if_pos hWaits, hInv.noDS t ht]
    apply farewellOnce_of_stays
    · rw [clients_replace_inactivated]
      exact mem_clients hs
    · simp
  · rw [if_neg hWaits, if_neg hWaits]
    exact farewells_partition sm rfl
      (·.equals t) hNodup hs

theorem farewellOnce_all
    (hNodup : (clients sm.mSubscribers).Nodup)
    {st : AgpsRsrcStatus}
    (hFarewell : st.isFarewell = true)
    {s : Subscriber}
    (hs : s ∈ sm.mSubscribers) :
    FarewellOnce s.clone []
      (notices sm st sm.mSubscribers) := by
  have hSplit :=
    farewells_partition sm hFarewell
      (fun _ => true) hNodup hs
  simpa [FarewellOnce, clients] using hSplit

theorem farewell_of_step
    (hInv : Inv sm)
    (hNodup : (clients sm.mSubscribers).Nodup)
    (hStep : Step sm op sm' out) :
    ∀ s ∈ sm.mSubscribers,
      FarewellOnce s.clone sm'.mSubscribers out := by
  intro s hs
  cases hStep with
  | start c hState => simp [hInv.empty.mp hState] at hs
  | refuse c hRefuses =>
      apply farewellOnce_of_stays (mem_clients hs)
      intro t st hMem
      cases (notified_of_mem_notice hMem).1
  | join c hAdmits hState =>
      exact farewellOnce_of_stays
        (mem_clients (Roster.subset_added hs)) (by simp)
  | joinGranted c hAdmits hState =>
      apply farewellOnce_of_stays
        (mem_clients (Roster.subset_added hs))
      intro t st hMem
      cases (notified_of_mem_notice hMem).1
  | leave c t hFind hState hSome =>
      exact farewellOnce_leave hInv hNodup hs
        (List.mem_of_find?_eq_some hFind)
  | leaveLast c t hFind hState hNone =>
      exact farewellOnce_append
        (farewellOnce_leave hInv hNodup hs
          (List.mem_of_find?_eq_some hFind))
        (fun _ _ _ => not_notified_releaseOut)
  | leaveReleasing c t hFind hState =>
      exact farewellOnce_leave hInv hNodup hs
        (List.mem_of_find?_eq_some hFind)
  | grant hState =>
      apply farewellOnce_of_stays (mem_clients hs)
      intro t st hMem
      rw [(notified_of_mem_notices hMem).2]
      rfl
  | dismiss st hState =>
      apply farewellOnce_all hNodup _ hs
      rcases hState with ⟨-, rfl⟩ | ⟨-, rfl⟩ <;> rfl
  | closeDown st hStatus hState hInactive =>
      apply farewellOnce_all hNodup _ hs
      rcases hStatus with rfl | rfl <;> rfl
  | restart st t hStatus hState hFind =>
      apply farewellOnce_append _
        (fun _ _ _ => not_notified_requestOut)
      apply farewells_partition sm _
        (·.isInactive) hNodup hs
      rcases hStatus with rfl | rfl <;> rfl
  | _ =>
      exact farewellOnce_of_stays (mem_clients hs)
        (by simp)

end Plain

end Agps

end D2Common

------------------------------------------------------------
-- Over A Run
------------------------------------------------------------

namespace D2Common

namespace Agps

namespace Plain

/- What the history says about the machine it has led to. -/
structure Ledger
    (h : List Event)
    (sm : AgpsStateMachine) : Prop where
  inv : Inv sm
  nodup : (clients sm.mSubscribers).Nodup
  granted :
    sm.mStatePtr = .acquired →
      ∀ s ∈ sm.mSubscribers, s.isInactive = false →
        Granted s.clone h
  notGranted :
    sm.mStatePtr = .pending ∨ sm.mStatePtr = .releasing →
      ∀ s ∈ sm.mSubscribers, s.isInactive = false →
        ¬ Granted s.clone h
  farewell :
    ∀ ev ∈ h, ∀ s ∈ ev.before.mSubscribers,
      FarewellOnce s.clone ev.after.mSubscribers ev.output

theorem ledger_concat
    {h : List Event}
    {sm sm' : AgpsStateMachine}
    {op : Op}
    {out : List Emission}
    (hLedger : Ledger h sm)
    (hStep : Step sm op sm' out) :
    Ledger (h ++ [⟨sm, op, out, sm'⟩]) sm' where
  inv := inv_of_step hLedger.inv hStep
  nodup := nodup_of_step hLedger.nodup hStep
  granted := granted_of_step hLedger.granted hStep
  notGranted :=
    not_granted_of_step hLedger.inv hLedger.notGranted hStep
  farewell := by
    intro ev hMem
    rcases List.mem_append.mp hMem with hMem | hMem
    · exact hLedger.farewell ev hMem
    · simp only [List.mem_singleton] at hMem
      subst hMem
      exact farewell_of_step hLedger.inv hLedger.nodup hStep

theorem ledger_run
    (type : AGpsExtType)
    (single : Bool)
    (ops : List Op) :
    Ledger ((machine type single).history ops)
      ((machine type single).run ops) := by
  apply (machine type single).history_induction_of_all
    (I := Ledger)
  · exact
      { inv := inv_new type single
        nodup := by
          simp [machine, AgpsStateMachine.new, clients]
        granted := by simp [machine, AgpsStateMachine.new]
        notGranted := by
          simp [machine, AgpsStateMachine.new]
        farewell := by simp }
  · intro h sm op hLedger
    exact ledger_concat hLedger
      (step_of_call hLedger.inv op)

/-
  Grants and farewells over any run. Two clients that
  `equals` takes for one share a record, so the list itself
  keeps the clients apart.
-/
theorem grants_and_farewells
    (type : AGpsExtType)
    (enforceSingleSubscriber : Bool)
    (ops : List Op) :
    let M := machine type enforceSingleSubscriber
    let h := M.history ops
    let sm := M.run ops
    (sm.mStatePtr = .acquired →
        ∀ s ∈ sm.mSubscribers, s.isInactive = false →
          Granted s.clone h) ∧
      (sm.mStatePtr = .pending ∨
          sm.mStatePtr = .releasing →
        ∀ s ∈ sm.mSubscribers, s.isInactive = false →
          ¬ Granted s.clone h) ∧
      (∀ ev ∈ h, ∀ s ∈ ev.before.mSubscribers,
        (s.clone ∉ clients ev.after.mSubscribers →
            farewells s.clone ev.output = 1) ∧
          (s.clone ∈ clients ev.after.mSubscribers →
            farewells s.clone ev.output = 0)) := by
  intro M h sm
  have hLedger :=
    ledger_run type enforceSingleSubscriber ops
  exact ⟨hLedger.granted, hLedger.notGranted,
    hLedger.farewell⟩

end Plain

end Agps

end D2Common
