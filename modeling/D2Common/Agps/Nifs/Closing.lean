import D2Common.Agps.Nifs

/-
  The answer to a release of an ATL.

  `LocEngReleaseATL` tries three machines in turn. The
  answer comes from the machine that has the handle, through
  the record of it, or from the message itself. Either way
  there is one.

  Key definitions include:
    * `closeStatuses`
    * `Nifs.HasHandle`

  Key theorems include:
    * `Roster.closeStatuses_unsubscribe`
    * `Nifs.one_close_status`
-/

------------------------------------------------------------
-- The Answer of One Machine
------------------------------------------------------------

namespace D2Common

namespace Agps

def Emission.isCloseStatus : Emission → Bool
| .atlCloseStatus _ _ => true
| _ => false

/- The close answers among what was emitted. -/
def closeStatuses (out : List Emission) : List Emission :=
  out.filter Emission.isCloseStatus

@[simp] theorem closeStatuses_append
    (out out' : List Emission) :
    closeStatuses (out ++ out') =
      closeStatuses out ++ closeStatuses out' := by
  simp [closeStatuses]

namespace Roster

/- Only one record of a handle is on the list. -/
theorem filter_equals_of_mem
    {l : List Subscriber}
    (hOrdered : Identity.Ordered l)
    (hKinds : ∀ s ∈ l, s.isAtlOrDS = true)
    {t : Subscriber}
    (ht : t ∈ l) :
    l.filter (·.equals t) = [t] := by
  induction l with
  | nil => simp at ht
  | cons a l ih =>
      rcases List.pairwise_cons.mp hOrdered with
        ⟨hHead, hTail⟩
      have hRest : ∀ s ∈ l, s.isAtlOrDS = true :=
        fun s hs => hKinds s (List.mem_cons_of_mem a hs)
      rcases List.mem_cons.mp ht with rfl | ht
      · have hNone : l.filter (·.equals t) = [] := by
          rw [List.filter_eq_nil_iff]
          intro s hs
          simp [hHead s hs]
        rw [List.filter_cons_of_pos (by simp), hNone]
      · have hOther : a.equals t = false := by
          have hNe := hHead t ht
          rw [Subscriber.equals_of_isAtlOrDS
            (hRest t ht)] at hNe
          rw [Subscriber.equals_of_isAtlOrDS
            (hKinds a List.mem_cons_self)]
          rw [beq_eq_false_iff_ne] at hNe ⊢
          exact hNe.symm
        rw [List.filter_cons_of_neg (by simp [hOther])]
        exact ih hTail hRest ht

theorem closeStatuses_notice
    {t : Subscriber}
    (ht : t.isAtlOrDS = true)
    (sm : AgpsStateMachine) :
    closeStatuses (t.notice .listed sm .unsubscribe) =
      [.atlCloseStatus t.ID 1] := by
  cases t <;> simp [Subscriber.isAtlOrDS] at ht <;> rfl

/- A departure answers for the one who leaves. -/
theorem closeStatuses_leaveOut
    {sm : AgpsStateMachine}
    (hOrdered : Identity.Ordered sm.mSubscribers)
    (hKinds :
      ∀ s ∈ sm.mSubscribers, s.isAtlOrDS = true)
    {t : Subscriber}
    (ht : t ∈ sm.mSubscribers) :
    closeStatuses (leaveOut sm t) =
      [.atlCloseStatus t.ID 1] := by
  have hKind := hKinds t ht
  unfold leaveOut
  rw [filter_equals_of_mem hOrdered hKinds ht]
  cases t with
  | atl id mode tail => rfl
  | ds id inactive => rfl
  | bit ipv4 ipv6 => simp [Subscriber.isAtlOrDS] at hKind
  | wifi ssid password sender inactive tail =>
      simp [Subscriber.isAtlOrDS] at hKind

theorem closeStatuses_releaseOut
    (sm : AgpsStateMachine) :
    closeStatuses (releaseOut sm) = [] := by
  unfold releaseOut
  split <;> rfl

theorem closeStatuses_move
    {sm : AgpsStateMachine}
    (env : DataCall)
    (hOrdered : Identity.Ordered sm.mSubscribers)
    (hKinds :
      ∀ s ∈ sm.mSubscribers, s.isAtlOrDS = true)
    {t : Subscriber}
    (ht : t ∈ sm.mSubscribers) :
    closeStatuses (move sm env (.unsubscribe t)).2 =
      [.atlCloseStatus t.ID 1] := by
  have hLeave := closeStatuses_leaveOut hOrdered hKinds ht
  by_cases hState : sm.mStatePtr = .released
  · simp only [move, hState]
    exact closeStatuses_notice (hKinds t ht) sm
  · rcases out_move_unsubscribe sm env t hState with
      hOut | hOut
    · rw [hOut, hLeave]
    · rw [hOut, closeStatuses_append, hLeave,
        closeStatuses_releaseOut, List.append_nil]

/-
  An unsubscribe that finds a record answers once, for the
  handle it was called with.
-/
theorem closeStatuses_unsubscribe
    {sm : AgpsStateMachine}
    (env : DataCall)
    (hOrdered : Identity.Ordered sm.mSubscribers)
    (hKinds :
      ∀ s ∈ sm.mSubscribers, s.isAtlOrDS = true)
    {s : Subscriber}
    (hFound : sm.mSubscribers.any (·.equals s) = true) :
    closeStatuses (sm.call env (.unsubscribeRsrc s)).2 =
      [.atlCloseStatus s.ID 1] := by
  cases hFind : sm.mSubscribers.find? (·.equals s) with
  | none =>
      rw [List.find?_eq_none] at hFind
      rcases List.any_eq_true.mp hFound with ⟨t, ht, hEq⟩
      exact absurd hEq (hFind t ht)
  | some t =>
      have ht := List.mem_of_find?_eq_some hFind
      have hEq : t.equals s = true := by
        simpa using List.find?_some hFind
      rw [AgpsStateMachine.call_of_find env hFind,
        ← Subscriber.ID_eq_of_equals hEq]
      exact closeStatuses_move env hOrdered hKinds ht

end Roster

end Agps

end D2Common

------------------------------------------------------------
-- Three Machines in Turn
------------------------------------------------------------

namespace D2Common

namespace Agps

namespace Nifs

/- The handle is on the list of a machine, if it is there. -/
def HasHandle
    (nif : Option AgpsStateMachine)
    (mID : Handle) : Prop :=
  ∃ sm ∈ nif, mID ∈ handles sm.mSubscribers

/- A machine has ATL clients only. -/
def AtlOnly (nif : Option AgpsStateMachine) : Prop :=
  ∀ sm ∈ nif, ∀ s ∈ sm.mSubscribers,
    ∃ id mode tail, s = .atl id mode tail

theorem isAtlOrDS_of_atlOnly
    {nif : Option AgpsStateMachine}
    (hOnly : AtlOnly nif)
    {sm : AgpsStateMachine}
    (hSm : sm ∈ nif) :
    ∀ s ∈ sm.mSubscribers, s.isAtlOrDS = true := by
  intro s hs
  rcases hOnly sm hSm s hs with ⟨id, mode, tail, rfl⟩
  rfl

theorem isAtlOrDS_of_admits
    {s : Subscriber}
    (hs : NifField.ds_nif.Admits s) :
    s.isAtlOrDS = true := by
  cases s with
  | atl id mode tail => rfl
  | ds id inactive => rfl
  | bit ipv4 ipv6 =>
      exact absurd hs.1 (by simp [Subscriber.isBit])
  | wifi ssid password sender inactive tail =>
      exact absurd rfl (hs.2 sender)

/-
  What the attempt at one machine comes to: it answers if
  and only if it has the handle.
-/
def Tried
    (nif : Option AgpsStateMachine)
    (s : Subscriber) : Prop :=
  (LocEng.unsubscribed nif s = none ∧
      ¬ HasHandle nif s.ID) ∨
    ∃ r, LocEng.unsubscribed nif s = some r ∧
      closeStatuses r.2 = [.atlCloseStatus s.ID 1] ∧
        HasHandle nif s.ID

theorem tried_of_ordered
    {nif : Option AgpsStateMachine}
    (hOrdered :
      ∀ sm ∈ nif, Identity.Ordered sm.mSubscribers)
    (hKinds :
      ∀ sm ∈ nif, ∀ s ∈ sm.mSubscribers,
        s.isAtlOrDS = true)
    (s : Subscriber) :
    Tried nif s := by
  cases nif with
  | none =>
      left
      refine ⟨rfl, ?_⟩
      rintro ⟨sm, hSm, -⟩
      cases hSm
  | some sm =>
      have hAny :
          sm.mSubscribers.any (·.equals s) = true ↔
            HasHandle (some sm) s.ID := by
        rw [List.any_eq_true]
        constructor
        · rintro ⟨t, ht, hEq⟩
          refine ⟨sm, rfl, ?_⟩
          rw [← Subscriber.ID_eq_of_equals hEq]
          exact mem_handles ht
        · rintro ⟨sm', hSm, hMem⟩
          cases hSm
          rcases List.mem_map.mp hMem with ⟨t, ht, hID⟩
          refine ⟨t, ht, ?_⟩
          rw [Subscriber.equals_of_isAtlOrDS
            (hKinds sm rfl t ht)]
          simpa using hID
      unfold Tried
      rw [LocEng.unsubscribed_some]
      by_cases hFound :
          sm.mSubscribers.any (·.equals s) = true
      · right
        rw [if_pos hFound]
        exact ⟨_, rfl,
          Roster.closeStatuses_unsubscribe noDataCall
            (hOrdered sm rfl) (hKinds sm rfl) hFound,
          hAny.mp hFound⟩
      · left
        rw [if_neg hFound]
        exact ⟨rfl, mt hAny.mpr hFound⟩

theorem tried_of_inv
    {e : Nifs}
    (hInv : Inv e)
    (f : NifField)
    (hKinds :
      ∀ sm ∈ e.nif f, ∀ s ∈ sm.mSubscribers,
        s.isAtlOrDS = true)
    (s : Subscriber) :
    Tried (e.nif f) s :=
  tried_of_ordered
    (fun sm hSm => (hInv f sm hSm).sound.ordered) hKinds s

/-
  The first of the three machines that has the handle sends
  the answer, or else the message does.
-/
theorem one_close_status_of_inv
    {e : Nifs}
    (hInv : Inv e)
    (hAgnss : AtlOnly e.agnss_nif)
    (hInternet : AtlOnly e.internet_nif)
    (mID : Handle)
    (tail₁ tail₂ : IPv6Addr) :
    ∃ isSucc : Int,
      closeStatuses (e.releaseATL mID tail₁ tail₂).2 =
          [.atlCloseStatus mID isSucc] ∧
        (isSucc = 1 ↔
          HasHandle e.agnss_nif mID ∨
            HasHandle e.internet_nif mID ∨
              HasHandle e.ds_nif mID) := by
  have hFirst :
      Tried e.agnss_nif (.atl mID false tail₁) :=
    tried_of_inv hInv .agnss_nif
      (fun _ hSm => isAtlOrDS_of_atlOnly hAgnss hSm) _
  have hSecond :
      Tried e.internet_nif (.atl mID false tail₂) :=
    tried_of_inv hInv .internet_nif
      (fun _ hSm => isAtlOrDS_of_atlOnly hInternet hSm) _
  have hThird : Tried e.ds_nif (.ds mID false) :=
    tried_of_inv hInv .ds_nif
      (fun sm hSm s hs =>
        isAtlOrDS_of_admits
          ((hInv .ds_nif sm hSm).admits s hs)) _
  unfold releaseATL
  rcases hFirst with
    ⟨hNone, hNotAgnss⟩ | ⟨r, hSome, hOut, hHas⟩
  · rcases hSecond with
      ⟨hNone', hNotInternet⟩ | ⟨r, hSome, hOut, hHas⟩
    · rcases hThird with
        ⟨hNone'', hNotDs⟩ | ⟨r, hSome, hOut, hHas⟩
      · rw [hNone, hNone', hNone'']
        refine ⟨0, rfl, ?_⟩
        apply iff_of_false (by decide)
        rintro (h | h | h)
        · exact hNotAgnss h
        · exact hNotInternet h
        · exact hNotDs h
      · rw [hNone, hNone', hSome]
        refine ⟨1, ?_, ?_⟩
        · rw [snd_returnedTo]
          exact hOut
        · exact iff_of_true rfl (Or.inr (Or.inr hHas))
    · rw [hNone, hSome]
      refine ⟨1, ?_, ?_⟩
      · rw [snd_returnedTo]
        exact hOut
      · exact iff_of_true rfl (Or.inr (Or.inl hHas))
  · rw [hSome]
    refine ⟨1, ?_, ?_⟩
    · rw [snd_returnedTo]
      exact hOut
    · exact iff_of_true rfl (Or.inl hHas)

/-
  A release of an ATL is answered once, for its handle, with
  success if and only if one of the machines had it.
-/
theorem one_close_status
    (abi : DmnConn.Abi)
    (is : List Input)
    (mID : Handle)
    (tail₁ tail₂ : IPv6Addr)
    (hAgnss : AtlOnly ((engine abi).run is).agnss_nif)
    (hInternet :
      AtlOnly ((engine abi).run is).internet_nif) :
    let e := (engine abi).run is
    ∃ isSucc : Int,
      closeStatuses
          (step abi e (.releaseATL mID tail₁ tail₂)).2 =
          [.atlCloseStatus mID isSucc] ∧
        (isSucc = 1 ↔
          HasHandle e.agnss_nif mID ∨
            HasHandle e.internet_nif mID ∨
              HasHandle e.ds_nif mID) :=
  one_close_status_of_inv (inv_run abi is) hAgnss hInternet
    mID tail₁ tail₂

/- An ATL client and an emergency connection. -/
def twoHandles : List Input :=
  [.agpsInit true true true, .dataClientInit 0,
    .requestATL 7 agpsTypeSupl (Vector.replicate 16 0)
      noDataCall,
    .requestSuplEs 9 dataCallStarted]

theorem one_close_status_twoHandles :
    let e := (engine .ilp32).run twoHandles
    ∃ isSucc : Int,
      closeStatuses
          (step .ilp32 e
            (.releaseATL 9 (Vector.replicate 16 0)
              (Vector.replicate 16 0))).2 =
          [.atlCloseStatus 9 isSucc] ∧
        (isSucc = 1 ↔
          HasHandle e.agnss_nif 9 ∨
            HasHandle e.internet_nif 9 ∨
              HasHandle e.ds_nif 9) := by
  apply one_close_status .ilp32 twoHandles 9
  · intro sm hSm s hs
    cases hSm
    cases List.mem_singleton.mp hs
    exact ⟨7, false, _, rfl⟩
  · intro sm hSm s hs
    cases hSm
    cases hs

end Nifs

end Agps

end D2Common
