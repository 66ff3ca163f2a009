import D2Common.Agps.Plain

/-
  How the state of a plain machine and its list of
  subscribers go together.

  Key theorems include:
    * `Plain.never_releasing`
    * `Plain.occupancy`
-/

------------------------------------------------------------
-- Machines Without WIFI Clients
------------------------------------------------------------

namespace D2Common

namespace Agps

namespace Plain

variable {sm sm' : AgpsStateMachine}
variable {op : Op}
variable {out : List Emission}

/-
  Nobody on the list waits for a close to complete, and the
  machine does not wait for one either.
-/
def NeverWaits
    (sm : AgpsStateMachine) : Prop :=
  (∀ s ∈ sm.mSubscribers,
      s.waitForCloseComplete = false) ∧
    sm.mStatePtr ≠ .releasing

theorem waitForCloseComplete_subscriber
    {c : Client}
    (hClient : c.isAtlOrBit = true) :
    c.subscriber.waitForCloseComplete = false := by
  cases c with
  | bit ipv4 ipv6 => rfl
  | atl id compatibleMode tail => rfl
  | wifi ssid password sender_id tail =>
      simp [Client.isAtlOrBit] at hClient

theorem neverWaits_of_step
    (hStep : Step sm op sm' out)
    (hWaits : NeverWaits sm)
    (hClient :
      ∀ c, op = .subscribeRsrc c → c.isAtlOrBit = true) :
    NeverWaits sm' := by
  have hList :
      ∀ s ∈ sm'.mSubscribers,
        s.waitForCloseComplete = false := by
    intro s hs
    rcases mem_after hStep hs with
      hs | ⟨c, hOp, rfl⟩ | ⟨t, ht, hTrue, -⟩
    · exact hWaits.1 s hs
    · exact waitForCloseComplete_subscriber (hClient c hOp)
    · rw [hWaits.1 t ht] at hTrue
      exact absurd hTrue (by simp)
  refine ⟨hList, ?_⟩
  cases hStep with
  | leaveLast c t hFind hState hNone =>
      -- Nobody here is ever inactive, so nobody is left.
      have hNil :
          Roster.left t sm.mSubscribers = [] := by
        apply List.eq_nil_iff_forall_not_mem.mpr
        intro s hs
        have hActive :=
          Subscriber.isInactive_eq_false (hList s hs)
        rw [hNone s hs] at hActive
        simp at hActive
      simp [hNil]
  | leaveReleasing c t hFind hState =>
      exact absurd hState hWaits.2
  | closeDown st hStatus hState hInactive => simp
  | dismiss st hState => simp
  | restart st s hStatus hState hActive => simp
  | start c hState => simp
  | grant hState => simp
  | _ => exact hWaits.2

/- ATL and BIT clients never bring a machine to Releasing. -/
theorem never_releasing
    (type : AGpsExtType)
    (single : Bool)
    (ops : List Op)
    (hClients :
      ∀ c, Op.subscribeRsrc c ∈ ops →
        c.isAtlOrBit = true) :
    ((machine type single).run ops).mStatePtr ≠
      .releasing := by
  have hRun :=
    (machine type single).run_induction
      (A := fun op =>
        ∀ c, op = .subscribeRsrc c → c.isAtlOrBit = true)
      (I := fun sm => Inv sm ∧ NeverWaits sm)
      ⟨inv_new type single,
        by simp [NeverWaits, machine, AgpsStateMachine.new]⟩
      (by
        rintro sm op ⟨hInv, hWaits⟩ hClient
        have hStep := step_of_call hInv op
        exact ⟨inv_of_step hInv hStep,
          neverWaits_of_step hStep hWaits hClient⟩)
      ops
      (by
        rintro op hOp c rfl
        exact hClients c hOp)
  exact hRun.2.2

end Plain

end Agps

end D2Common

------------------------------------------------------------
-- Occupancy
------------------------------------------------------------

namespace D2Common

namespace Agps

namespace Plain

/- What a client is sent when it is denied. -/
def denial
    (sm : AgpsStateMachine) : Client → Emission
| .bit _ _ => .dataConn .gpsoneDaemon .failure
| .atl id compatibleMode _ =>
    .atlOpenStatus id 0 sm.mAPN sm.mBearer
      (if compatibleMode then agpsTypeInvalid else sm.mType)
| .wifi _ _ sender_id _ => .dataConn sender_id .failure

theorem notice_denied
    (sm : AgpsStateMachine)
    (addressee : Addressee)
    (c : Client) :
    c.subscriber.notice addressee sm .denied =
      [.notified addressee c.subscriber .denied,
        denial sm c] := by
  cases c <;> rfl

theorem mEnforceSingleSubscriber_run
    (type : AGpsExtType)
    (single : Bool)
    (ops : List Op) :
    ((machine type single).run
      ops).mEnforceSingleSubscriber = single := by
  have hRun :=
    (machine type single).run_induction
      (A := fun _ => True)
      (I := fun sm =>
        Inv sm ∧ sm.mEnforceSingleSubscriber = single)
      ⟨inv_new type single, rfl⟩
      (by
        rintro sm op ⟨hInv, hSingle⟩ -
        have hStep := step_of_call hInv op
        exact ⟨inv_of_step hInv hStep,
          (frame_of_step hStep).2.2.trans hSingle⟩)
      ops (by simp)
  exact hRun.2

theorem step_of_refuses
    {sm : AgpsStateMachine}
    (hInv : Inv sm)
    (hRefuses : sm.Refuses)
    (type : AGpsExtType)
    (single : Bool)
    (c : Client) :
    (machine type single).step sm (.subscribeRsrc c) =
      (sm,
        [.notified .caller c.subscriber .denied,
          denial sm c]) := by
  change sm.call noDataCall (.subscribeRsrc c.subscriber) = _
  rw [AgpsStateMachine.call_eq]
  simp [Roster.respond, Roster.subscribe, hRefuses,
    Roster.refuse, notice_denied,
    AgpsStateMachine.clearRetries_of_none hInv.plain]

/-
  The list and the state of a plain machine agree after any
  calls in any order.
-/
theorem occupancy
    (type : AGpsExtType)
    (enforceSingleSubscriber : Bool)
    (ops : List Op) :
    let M := machine type enforceSingleSubscriber
    let sm := M.run ops
    (sm.mStatePtr = .released ↔ sm.mSubscribers = []) ∧
      (sm.mStatePtr = .pending ∨ sm.mStatePtr = .acquired →
        ∃ s ∈ sm.mSubscribers, s.isInactive = false) ∧
      ((∀ c, Op.subscribeRsrc c ∈ ops →
          c.isAtlOrBit = true) →
        sm.mStatePtr ≠ .releasing) ∧
      (enforceSingleSubscriber = true →
        sm.mSubscribers.length ≤ 1 ∧
          (sm.mSubscribers ≠ [] →
            ∀ c,
              M.step sm (.subscribeRsrc c) =
                (sm,
                  [.notified .caller c.subscriber .denied,
                    denial sm c]))) := by
  intro M sm
  have hInv : Inv sm :=
    inv_run type enforceSingleSubscriber ops
  have hFlag :
      sm.mEnforceSingleSubscriber =
        enforceSingleSubscriber :=
    mEnforceSingleSubscriber_run type
      enforceSingleSubscriber ops
  refine ⟨hInv.empty, hInv.active,
    never_releasing type enforceSingleSubscriber ops, ?_⟩
  intro hSingle
  have hEnforced : sm.mEnforceSingleSubscriber = true :=
    hFlag.trans hSingle
  refine ⟨hInv.single hEnforced, ?_⟩
  intro hSome c
  exact step_of_refuses hInv ⟨hEnforced, hSome⟩ type
    enforceSingleSubscriber c

end Plain

end Agps

end D2Common
