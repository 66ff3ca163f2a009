import D2Common.Agps.Plain.Occupancy
import D2Common.Agps.Identity

/-
  ATL and BIT clients that share a machine.

  On a machine for ATL and BIT clients the list changes as
  `Identity.KeepsApart` has it: a subscribe adds, and an
  unsubscribe removes everyone the found record stands for.
  Two clients are kept apart exactly when neither equals the
  other and a search for each finds that client.

  Key definitions include:
    * `Plain.KeepsApart`

  Key theorems include:
    * `Plain.clients_kept_apart_iff`
    * `Plain.ipv6_clients_confused`
-/

------------------------------------------------------------
-- Machines For ATL And BIT Clients
------------------------------------------------------------

namespace D2Common

namespace Agps

namespace Plain

variable {sm sm' : AgpsStateMachine}
variable {op : Op}
variable {out : List Emission}

/- What a machine shared by ATL and BIT clients satisfies. -/
structure Shared (sm : AgpsStateMachine) : Prop where
  inv : Inv sm
  many : sm.mEnforceSingleSubscriber = false
  waits : NeverWaits sm
  ordered : Identity.Ordered sm.mSubscribers

theorem left_of_waits
    (hWaits : NeverWaits sm)
    {t : Subscriber}
    (ht : t ∈ sm.mSubscribers) :
    Roster.left t sm.mSubscribers =
      sm.mSubscribers.filter (!·.equals t) := by
  simp [Roster.left, hWaits.1 t ht]

/- A subscribe adds the client to the list. -/
theorem mSubscribers_subscribe
    (hShared : Shared sm)
    {c : Client}
    (hStep : Step sm (.subscribeRsrc c) sm' out) :
    sm'.mSubscribers =
      Roster.added c.subscriber sm.mSubscribers := by
  cases hStep with
  | refuse c hRefuses =>
      have hSingle := hRefuses.1
      rw [hShared.many] at hSingle
      cases hSingle
  | start c hState =>
      simp [hShared.inv.empty.mp hState, Roster.added]
  | join c hAdmits hState => rfl
  | joinGranted c hAdmits hState => rfl

/- An unsubscribe removes whom the search takes for it. -/
theorem mSubscribers_unsubscribe
    (hShared : Shared sm)
    {c : Client}
    (hStep : Step sm (.unsubscribeRsrc c) sm' out) :
    sm'.mSubscribers =
      Identity.removed c.subscriber sm.mSubscribers := by
  have hLeft (t : Subscriber)
      (hFind :
        sm.mSubscribers.find? (·.equals c.subscriber) =
          some t) :
      Roster.left t sm.mSubscribers =
        Identity.removed c.subscriber sm.mSubscribers := by
    rw [Identity.removed_eq hFind]
    exact left_of_waits hShared.waits
      (List.mem_of_find?_eq_some hFind)
  cases hStep with
  | unknown c hFind => simp [Identity.removed, hFind]
  | leave c t hFind hState hSome => exact hLeft t hFind
  | leaveLast c t hFind hState hNone => exact hLeft t hFind
  | leaveReleasing c t hFind hState => exact hLeft t hFind

theorem ordered_of_step
    (hShared : Shared sm)
    (hStep : Step sm op sm' out) :
    Identity.Ordered sm'.mSubscribers := by
  have hFilter (p : Subscriber → Bool) :
      Identity.Ordered (sm.mSubscribers.filter p) :=
    hShared.ordered.sublist List.filter_sublist
  have hLeft (c : Client) (t : Subscriber)
      (hFind :
        sm.mSubscribers.find? (·.equals c.subscriber) =
          some t) :
      Identity.Ordered (Roster.left t sm.mSubscribers) := by
    rw [left_of_waits hShared.waits
      (List.mem_of_find?_eq_some hFind)]
    exact hFilter _
  cases hStep with
  | start c hState => simp [Identity.Ordered]
  | join c hAdmits hState =>
      exact Identity.ordered_added hShared.ordered
  | joinGranted c hAdmits hState =>
      exact Identity.ordered_added hShared.ordered
  | leave c t hFind hState hSome => exact hLeft c t hFind
  | leaveLast c t hFind hState hNone => exact hLeft c t hFind
  | leaveReleasing c t hFind hState => exact hLeft c t hFind
  | dismiss st hState => simp [Identity.Ordered]
  | closeDown st hStatus hState hInactive =>
      simp [Identity.Ordered]
  | restart st s hStatus hState hActive => exact hFilter _
  | _ => exact hShared.ordered

theorem shared_of_step
    (hShared : Shared sm)
    (hStep : Step sm op sm' out)
    (hClient :
      ∀ c, op = .subscribeRsrc c → c.isAtlOrBit = true) :
    Shared sm' where
  inv := inv_of_step hShared.inv hStep
  many := (frame_of_step hStep).2.2.trans hShared.many
  waits := neverWaits_of_step hStep hShared.waits hClient
  ordered := ordered_of_step hShared hStep

theorem shared_run
    (type : AGpsExtType)
    (ops : List Op)
    (hClients :
      ∀ c, Op.subscribeRsrc c ∈ ops →
        c.isAtlOrBit = true) :
    Shared ((machine type false).run ops) := by
  apply (machine type false).run_induction
    (A := fun op =>
      ∀ c, op = .subscribeRsrc c → c.isAtlOrBit = true)
    (I := Shared)
  · exact
      { inv := inv_new type false
        many := rfl
        waits := by
          simp [NeverWaits, machine, AgpsStateMachine.new]
        ordered := by
          simp [Identity.Ordered, machine,
            AgpsStateMachine.new] }
  · intro sm op hShared hClient
    exact shared_of_step hShared
      (step_of_call hShared.inv op) hClient
  · rintro op hOp c rfl
    exact hClients c hOp

end Plain

end Agps

end D2Common

------------------------------------------------------------
-- Keeping Clients Apart
------------------------------------------------------------

namespace D2Common

namespace Agps

namespace Plain

/- A record of the client is on the machine's list. -/
def OnList
    (sm : AgpsStateMachine)
    (c : Client) : Prop :=
  ∃ s ∈ sm.mSubscribers,
    s.identity = c.subscriber.identity

/-
  After both have subscribed both are on the list, and an
  unsubscribe of either takes that one and not the other.
-/
def KeepsApart
    (M : Transducer AgpsStateMachine Op Emission)
    (sm : AgpsStateMachine)
    (a b : Client) : Prop :=
  let first := (M.step sm (.subscribeRsrc a)).1
  let both := (M.step first (.subscribeRsrc b)).1
  let withoutA := (M.step both (.unsubscribeRsrc a)).1
  let withoutB := (M.step both (.unsubscribeRsrc b)).1
  (OnList both a ∧ OnList both b) ∧
    (¬ OnList withoutA a ∧ OnList withoutA b) ∧
    (¬ OnList withoutB b ∧ OnList withoutB a)

theorem isAtlOrBit_subscriber
    (c : Client) :
    c.subscriber.isAtlOrBit = c.isAtlOrBit := by
  cases c <;> rfl

/- The machine does to its list what the list theory says. -/
theorem keepsApart_iff_list
    (hShared : Shared sm)
    (type : AGpsExtType)
    {a b : Client}
    (ha : a.isAtlOrBit = true)
    (hb : b.isAtlOrBit = true) :
    KeepsApart (machine type false) sm a b ↔
      Identity.KeepsApart a.subscriber b.subscriber
        sm.mSubscribers := by
  let M := machine type false
  let first := (M.step sm (.subscribeRsrc a)).1
  let both := (M.step first (.subscribeRsrc b)).1
  have hStepA :=
    step_of_call hShared.inv (.subscribeRsrc a)
  have hFirst : Shared first :=
    shared_of_step hShared hStepA
      (by rintro c hOp; cases hOp; exact ha)
  have hStepB :=
    step_of_call hFirst.inv (.subscribeRsrc b)
  have hBoth : Shared both :=
    shared_of_step hFirst hStepB
      (by rintro c hOp; cases hOp; exact hb)
  have hListA :
      first.mSubscribers =
        Roster.added a.subscriber sm.mSubscribers :=
    mSubscribers_subscribe hShared hStepA
  have hListB :
      both.mSubscribers =
        Roster.added b.subscriber first.mSubscribers :=
    mSubscribers_subscribe hFirst hStepB
  have hOut (c : Client) :
      (M.step both (.unsubscribeRsrc c)).1.mSubscribers =
        Identity.removed c.subscriber both.mSubscribers :=
    mSubscribers_unsubscribe hBoth
      (step_of_call hBoth.inv (.unsubscribeRsrc c))
  change
    ((OnList both a ∧ OnList both b) ∧
      (¬ OnList (M.step both (.unsubscribeRsrc a)).1 a ∧
        OnList (M.step both (.unsubscribeRsrc a)).1 b) ∧
      (¬ OnList (M.step both (.unsubscribeRsrc b)).1 b ∧
        OnList (M.step both (.unsubscribeRsrc b)).1 a)) ↔ _
  unfold OnList
  rw [hOut a, hOut b, hListB, hListA]
  rfl

/-
  Two clients with different identities, on any reachable
  machine that ATL and BIT clients share.
-/
theorem clients_kept_apart_iff
    (type : AGpsExtType)
    (ops : List Op)
    (a b : Client)
    (hClients :
      ∀ c, Op.subscribeRsrc c ∈ ops → c.isAtlOrBit = true)
    (ha : a.isAtlOrBit = true)
    (hb : b.isAtlOrBit = true)
    (hDiffer :
      a.subscriber.identity ≠ b.subscriber.identity) :
    let M := machine type false
    let sm := M.run ops
    KeepsApart M sm a b ↔
      (a.subscriber.equals b.subscriber = false ∧
          b.subscriber.equals a.subscriber = false) ∧
        (∀ r,
          sm.findSubscriber (.ofSubscriber a.subscriber) =
              some r →
            r.identity = a.subscriber.identity) ∧
        (∀ r,
          sm.findSubscriber (.ofSubscriber b.subscriber) =
              some r →
            r.identity = b.subscriber.identity) := by
  intro M sm
  have hShared : Shared sm := shared_run type ops hClients
  have hList := keepsApart_iff_list hShared type ha hb
  have hApart :=
    Identity.keepsApart_iff hShared.ordered
      ((isAtlOrBit_subscriber a).trans ha)
      ((isAtlOrBit_subscriber b).trans hb) hDiffer
  exact hList.trans hApart

/- Two ATL clients on a machine that has no one yet. -/
theorem two_atl_clients_kept_apart :
    KeepsApart (machine agpsTypeSupl false)
      ((machine agpsTypeSupl false).run [])
      (.atl 7 false (Vector.replicate 16 0))
      (.atl 8 false (Vector.replicate 16 0)) :=
  (clients_kept_apart_iff agpsTypeSupl []
    (.atl 7 false (Vector.replicate 16 0))
    (.atl 8 false (Vector.replicate 16 0))
    (by simp) rfl rfl (by decide)).mpr
    ⟨by decide,
      by
        intro r hFind
        simp [machine, AgpsStateMachine.new,
          AgpsStateMachine.findSubscriber] at hFind,
      by
        intro r hFind
        simp [machine, AgpsStateMachine.new,
          AgpsStateMachine.findSubscriber] at hFind⟩

/- `2001:0db8::1` and `2001:0db8::2`. -/
def ipv6First : IPv6Addr :=
  #v[0x20, 0x01, 0x0d, 0xb8, 0, 0, 0, 0,
    0, 0, 0, 0, 0, 0, 0, 1]

def ipv6Second : IPv6Addr :=
  #v[0x20, 0x01, 0x0d, 0xb8, 0, 0, 0, 0,
    0, 0, 0, 0, 0, 0, 0, 2]

/-
  Two BIT clients whose IPv6 addresses differ after a zero
  byte: the second one is never put on the list.
-/
theorem ipv6_clients_confused :
    (Client.bit inaddrNone ipv6First).subscriber.identity ≠
        (Client.bit inaddrNone
          ipv6Second).subscriber.identity ∧
      ¬ KeepsApart (machine agpsTypeSupl false)
        ((machine agpsTypeSupl false).run [])
        (.bit inaddrNone ipv6First)
        (.bit inaddrNone ipv6Second) := by
  refine ⟨by decide, ?_⟩
  rintro ⟨⟨-, hBoth⟩, -⟩
  revert hBoth
  unfold OnList
  decide

end Plain

end Agps

end D2Common
