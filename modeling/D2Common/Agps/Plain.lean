import D2Common.Agps.Machine

/-
  The plain machines: `agnss_nif`, `internet_nif` and
  `wifi_nif`.

  The machine is a transducer whose inputs are the calls of
  its clients and of the framework. `Plain.Step` lists what
  one call can do to a machine that meets `Plain.Inv`, and
  every property of the runs is read off that list.

  Key definitions include:
    * `Client`
    * `Plain.machine`
    * `Plain.Inv`
    * `Plain.Step`

  Key theorems include:
    * `Plain.step_of_call`
    * `Plain.inv_run`
-/

------------------------------------------------------------
-- Clients
------------------------------------------------------------

namespace D2Common

namespace Agps

/-
  Who can ask a plain machine for its resource, with the
  arguments of the constructor that builds the subscriber.
  Without an IPv6 address only the first byte is written.
-/
inductive Client where
  | bit (ipv4 : Handle) (ipv6 : IPv6Addr)
  | atl
      (id : Handle)
      (compatibleMode : Bool)
      (tail : IPv6Addr)
  | wifi
      (ssid password : Option CString)
      (sender_id : SenderId)
      (tail : IPv6Addr)
deriving DecidableEq

namespace Client

/- The object that the constructor builds. -/
def subscriber : Client → Subscriber
| .bit ipv4 ipv6 => .bit ipv4 ipv6
| .atl id compatibleMode tail => .atl id compatibleMode tail
| .wifi ssid password sender_id tail =>
    .wifi
      (ssid.map fun s => strlcpy s ssidBufSize)
      (password.map fun s => strlcpy s ssidBufSize)
      sender_id false tail

/- Whether the client is an ATL or a BIT client. -/
def isAtlOrBit : Client → Bool
| .wifi .. => false
| _ => true

@[simp] theorem clone_subscriber
    (c : Client) :
    c.subscriber.clone = c.subscriber := by
  cases c with
  | bit ipv4 ipv6 => rfl
  | atl id compatibleMode tail => rfl
  | wifi ssid password sender_id tail =>
      simp [subscriber, Subscriber.clone, Function.comp_def]

@[simp] theorem isInactive_subscriber
    (c : Client) :
    c.subscriber.isInactive = false := by
  cases c <;> rfl

@[simp] theorem isDS_subscriber
    (c : Client) :
    c.subscriber.isDS = false := by
  cases c <;> rfl

end Client

namespace Plain

/- The inputs of a plain machine. -/
inductive Op where
  | subscribeRsrc (client : Client)
  | unsubscribeRsrc (client : Client)
  | onRsrcEvent (event : AgpsRsrcStatus)
  | setAPN (apn : Option CString)
  | setBearer (bearer : AGpsBearerType)

def Op.call : Op → Call
| .subscribeRsrc c => .subscribeRsrc c.subscriber
| .unsubscribeRsrc c => .unsubscribeRsrc c.subscriber
| .onRsrcEvent event => .onRsrcEvent event
| .setAPN apn => .setAPN apn
| .setBearer bearer => .setBearer bearer

/- A machine from its construction on. -/
def machine
    (type : AGpsExtType)
    (enforceSingleSubscriber : Bool) :
    Transducer AgpsStateMachine Op Emission where
  init := AgpsStateMachine.new type enforceSingleSubscriber
  step sm op := sm.call noDataCall op.call

/- One call into the machine, as it was made. -/
abbrev Event :=
  Transducer.Event AgpsStateMachine Op Emission

end Plain

end Agps

end D2Common

------------------------------------------------------------
-- Facts About The List
------------------------------------------------------------

namespace D2Common

namespace Agps

namespace Roster

theorem mem_added
    {s t : Subscriber}
    {l : List Subscriber} :
    t ∈ added s l → t = s.clone ∨ t ∈ l := by
  unfold added
  intro ht
  split at ht
  · exact Or.inr ht
  · simpa using ht

theorem subset_added
    {s t : Subscriber}
    {l : List Subscriber}
    (ht : t ∈ l) :
    t ∈ added s l := by
  unfold added
  split
  · exact ht
  · exact List.mem_cons_of_mem _ ht

theorem mem_of_mem_replace
    {s t u : Subscriber}
    {l : List Subscriber}
    (ht : t ∈ l.replace s u) :
    t ∈ l ∨ t = u := by
  induction l with
  | nil => simp at ht
  | cons a l ih =>
      rw [List.replace_cons] at ht
      split at ht
      · rcases List.mem_cons.mp ht with rfl | ht
        · exact Or.inr rfl
        · exact Or.inl (List.mem_cons_of_mem _ ht)
      · rcases List.mem_cons.mp ht with rfl | ht
        · exact Or.inl List.mem_cons_self
        · rcases ih ht with ht | ht
          · exact Or.inl (List.mem_cons_of_mem _ ht)
          · exact Or.inr ht

theorem mem_left
    {s t : Subscriber}
    {l : List Subscriber}
    (ht : t ∈ left s l) :
    t ∈ l ∨
      (s.waitForCloseComplete = true ∧
        t = s.inactivated) := by
  unfold left at ht
  split at ht
  · next hWaits =>
      rcases mem_of_mem_replace ht with ht | ht
      · exact Or.inl ht
      · exact Or.inr ⟨hWaits, ht⟩
  · exact Or.inl (List.mem_of_mem_filter ht)

theorem length_left_le
    (s : Subscriber)
    (l : List Subscriber) :
    (left s l).length ≤ l.length := by
  unfold left
  split
  · simp
  · exact List.length_filter_le _ _

end Roster

end Agps

end D2Common

------------------------------------------------------------
-- What One Call Can Do
------------------------------------------------------------

namespace D2Common

namespace Agps

/- Whether a state holds or awaits the connection. -/
def AgpsState.Holds
    (st : AgpsState) : Prop :=
  st = .pending ∨ st = .acquired

namespace Plain

/- What every reachable plain machine satisfies. -/
structure Inv (sm : AgpsStateMachine) : Prop where
  plain : sm.mRetries = none
  noDS : ∀ s ∈ sm.mSubscribers, s.isDS = false
  empty :
    sm.mStatePtr = .released ↔ sm.mSubscribers = []
  active :
    sm.mStatePtr.Holds →
      ∃ s ∈ sm.mSubscribers, s.isInactive = false
  single :
    sm.mEnforceSingleSubscriber = true →
      sm.mSubscribers.length ≤ 1

/- The message a request hands to the framework. -/
def requestOut
    (sm : AgpsStateMachine)
    (s : Subscriber) : List Emission :=
  [.sendRsrcRequest .requestAgpsDataConn,
    .requestRsrc
      (nifRequest sm.mType .requestAgpsDataConn (some s))]

/- The events of the framework that a state ignores. -/
def Ignores : AgpsState → AgpsRsrcStatus → Prop
| .pending, .granted => False
| .pending, .denied => False
| .acquired, .released => False
| .releasing, .released => False
| .releasing, .denied => False
| _, _ => True

/-
  What a call can do to a machine that meets `Inv`, with
  what it emits.
-/
inductive Step
    (sm : AgpsStateMachine) :
    Op → AgpsStateMachine → List Emission → Prop where
  | unknown
      (c : Client)
      (hFind :
        sm.mSubscribers.find? (·.equals c.subscriber) =
          none) :
      Step sm (.unsubscribeRsrc c) sm []
  | ignore
      (event : AgpsRsrcStatus)
      (hIgnores : Ignores sm.mStatePtr event) :
      Step sm (.onRsrcEvent event) sm []
  | setAPN (apn : Option CString) :
      Step sm (.setAPN apn) { sm with mAPN := apn } []
  | setBearer (bearer : AGpsBearerType) :
      Step sm (.setBearer bearer)
        { sm with mBearer := bearer } []
  | refuse
      (c : Client)
      (hRefuses : sm.Refuses) :
      Step sm (.subscribeRsrc c) sm
        (c.subscriber.notice .caller sm .denied)
  | start
      (c : Client)
      (hState : sm.mStatePtr = .released) :
      Step sm (.subscribeRsrc c)
        { sm with
          mStatePtr := .pending
          mSubscribers := [c.subscriber] }
        (requestOut sm c.subscriber)
  | join
      (c : Client)
      (hAdmits : ¬ sm.Refuses)
      (hState :
        sm.mStatePtr = .pending ∨
          sm.mStatePtr = .releasing) :
      Step sm (.subscribeRsrc c)
        (Roster.accept sm c.subscriber) []
  | joinGranted
      (c : Client)
      (hAdmits : ¬ sm.Refuses)
      (hState : sm.mStatePtr = .acquired) :
      Step sm (.subscribeRsrc c)
        (Roster.accept sm c.subscriber)
        (c.subscriber.notice .caller sm .granted)
  | leave
      (c : Client)
      (t : Subscriber)
      (hFind :
        sm.mSubscribers.find? (·.equals c.subscriber) =
          some t)
      (hState : sm.mStatePtr.Holds)
      (hLeft :
        ∃ s ∈ Roster.left t sm.mSubscribers,
          s.isInactive = false) :
      Step sm (.unsubscribeRsrc c)
        { sm with
          mSubscribers := Roster.left t sm.mSubscribers }
        (Roster.leaveOut sm t)
  | leaveLast
      (c : Client)
      (t : Subscriber)
      (hFind :
        sm.mSubscribers.find? (·.equals c.subscriber) =
          some t)
      (hState : sm.mStatePtr.Holds)
      (hLeft :
        ∀ s ∈ Roster.left t sm.mSubscribers,
          s.isInactive = true) :
      Step sm (.unsubscribeRsrc c)
        { sm with
          mSubscribers := Roster.left t sm.mSubscribers
          mStatePtr :=
            if (Roster.left t sm.mSubscribers).isEmpty then
              .released
            else
              .releasing }
        (Roster.leaveOut sm t ++ Roster.releaseOut sm)
  | leaveReleasing
      (c : Client)
      (t : Subscriber)
      (hFind :
        sm.mSubscribers.find? (·.equals c.subscriber) =
          some t)
      (hState : sm.mStatePtr = .releasing) :
      Step sm (.unsubscribeRsrc c)
        { sm with
          mSubscribers := Roster.left t sm.mSubscribers
          mStatePtr :=
            if (Roster.left t sm.mSubscribers).isEmpty then
              .released
            else
              .releasing }
        (Roster.leaveOut sm t)
  | grant
      (hState : sm.mStatePtr = .pending) :
      Step sm (.onRsrcEvent .granted)
        { sm with mStatePtr := .acquired }
        (notices sm .granted
          (sm.mSubscribers.filter (!·.isInactive)))
  | dismiss
      (st : AgpsRsrcStatus)
      (hState :
        sm.mStatePtr = .pending ∧ st = .denied ∨
          sm.mStatePtr = .acquired ∧ st = .released) :
      Step sm (.onRsrcEvent st)
        { sm with
          mStatePtr := .released
          mSubscribers := [] }
        (notices sm st sm.mSubscribers)
  | closeDown
      (st : AgpsRsrcStatus)
      (hStatus : st = .released ∨ st = .denied)
      (hState : sm.mStatePtr = .releasing)
      (hInactive :
        ∀ s ∈ sm.mSubscribers, s.isInactive = true) :
      Step sm (.onRsrcEvent st)
        { sm with
          mStatePtr := .released
          mSubscribers := [] }
        (notices sm st sm.mSubscribers)
  | restart
      (st : AgpsRsrcStatus)
      (s : Subscriber)
      (hStatus : st = .released ∨ st = .denied)
      (hState : sm.mStatePtr = .releasing)
      (hActive :
        sm.mSubscribers.find? (!·.isInactive) = some s) :
      Step sm (.onRsrcEvent st)
        { sm with
          mStatePtr := .pending
          mSubscribers :=
            sm.mSubscribers.filter (!·.isInactive) }
        (notices sm st
            (sm.mSubscribers.filter (·.isInactive)) ++
          requestOut sm s)

end Plain

end Agps

end D2Common

------------------------------------------------------------
-- Every Call Is Such A Step
------------------------------------------------------------

namespace D2Common

namespace Agps

namespace Plain

variable {sm : AgpsStateMachine}

theorem request_of_active
    (hInv : Inv sm)
    {s : Subscriber}
    (l : List Subscriber)
    (env : DataCall)
    (hActive : l.find? (!·.isInactive) = some s) :
    Roster.request { sm with mSubscribers := l } env
        .requestAgpsDataConn =
      (0, { sm with mSubscribers := l },
        requestOut sm s) := by
  unfold Roster.request
  simp [hInv.plain, Roster.plainRequestOut, hActive,
    requestOut]

theorem subscribe_step
    (hInv : Inv sm)
    (c : Client) :
    Step sm (.subscribeRsrc c)
      (Roster.subscribe sm noDataCall c.subscriber).1
      (Roster.subscribe sm noDataCall c.subscriber).2 := by
  unfold Roster.subscribe
  by_cases hRefuses : sm.Refuses
  · rw [if_pos hRefuses]
    have hStep := Step.refuse c hRefuses
    simpa [Roster.refuse,
      AgpsStateMachine.clearRetries_of_none hInv.plain]
      using hStep
  · rw [if_neg hRefuses]
    unfold Roster.move
    cases hState : sm.mStatePtr with
    | released =>
        have hEmpty := hInv.empty.mp hState
        have hFind :
            [c.subscriber].find? (!·.isInactive) =
              some c.subscriber := by
          simp
        have hStep := Step.start c hState
        simpa [Roster.start, Roster.added, hEmpty,
          request_of_active hInv [c.subscriber] noDataCall
            hFind] using hStep
    | pending =>
        exact Step.join c hRefuses (Or.inl hState)
    | acquired =>
        exact Step.joinGranted c hRefuses hState
    | releasing =>
        exact Step.join c hRefuses (Or.inr hState)

theorem depart_step
    (c : Client)
    (t : Subscriber)
    (hFind :
      sm.mSubscribers.find? (·.equals c.subscriber) =
        some t)
    (hState : sm.mStatePtr.Holds) :
    Step sm (.unsubscribeRsrc c) (Roster.depart sm t).1
      (Roster.depart sm t).2 := by
  unfold Roster.depart
  by_cases hInactive :
      (Roster.left t sm.mSubscribers).all
        (·.isInactive) = true
  · rw [if_pos hInactive]
    exact Step.leaveLast c t hFind hState
      (List.all_eq_true.mp hInactive)
  · rw [if_neg hInactive]
    apply Step.leave c t hFind hState
    simpa using hInactive

theorem unsubscribe_step
    (hInv : Inv sm)
    (c : Client) :
    Step sm (.unsubscribeRsrc c)
      (Roster.unsubscribe sm noDataCall c.subscriber).1
      (Roster.unsubscribe sm noDataCall
        c.subscriber).2 := by
  unfold Roster.unsubscribe
  cases hFind :
      sm.mSubscribers.find? (·.equals c.subscriber) with
  | none => exact Step.unknown c hFind
  | some t =>
      simp only
      unfold Roster.move
      cases hState : sm.mStatePtr with
      | released =>
          rw [hInv.empty.mp hState] at hFind
          simp at hFind
      | pending =>
          exact depart_step c t hFind (Or.inl hState)
      | acquired =>
          exact depart_step c t hFind (Or.inr hState)
      | releasing =>
          exact Step.leaveReleasing c t hFind hState

theorem dismiss_step
    (hInv : Inv sm)
    (st : AgpsRsrcStatus)
    (hState :
      sm.mStatePtr = .pending ∧ st = .denied ∨
        sm.mStatePtr = .acquired ∧ st = .released) :
    Step sm (.onRsrcEvent st) (Roster.dismiss sm st).1
      (Roster.dismiss sm st).2 := by
  have hStep := Step.dismiss st hState
  simpa [Roster.dismiss,
    AgpsStateMachine.clearRetries_of_none hInv.plain]
    using hStep

theorem closeDown_step
    (hInv : Inv sm)
    (st : AgpsRsrcStatus)
    (hStatus : st = .released ∨ st = .denied)
    (hState : sm.mStatePtr = .releasing) :
    Step sm (.onRsrcEvent st)
      (Roster.closeDown sm noDataCall st).1
      (Roster.closeDown sm noDataCall st).2 := by
  unfold Roster.closeDown
  simp only [AgpsStateMachine.clearRetries_of_none
    hInv.plain]
  cases hFind : sm.mSubscribers.find? (!·.isInactive) with
  | none =>
      have hInactive :
          ∀ s ∈ sm.mSubscribers, s.isInactive = true := by
        simpa using hFind
      have hKept :
          sm.mSubscribers.filter (!·.isInactive) = [] := by
        simpa using hInactive
      have hTold :
          sm.mSubscribers.filter (·.isInactive) =
            sm.mSubscribers := by
        simpa using hInactive
      rw [hKept, hTold]
      exact Step.closeDown st hStatus hState hInactive
  | some s =>
      have hKept :
          (sm.mSubscribers.filter
            (!·.isInactive)).find? (!·.isInactive) =
              some s := by
        rw [List.find?_filter]
        simpa using hFind
      have hSome :
          sm.mSubscribers.filter (!·.isInactive) ≠ [] := by
        intro hNil
        simp [hNil] at hKept
      have hStep :=
        Step.restart st s hStatus hState hFind
      simpa [hSome, request_of_active hInv _ noDataCall
        hKept] using hStep

theorem event_step
    (hInv : Inv sm)
    (event : AgpsRsrcStatus) :
    Step sm (.onRsrcEvent event)
      (Roster.respond sm noDataCall (.onRsrcEvent event)).1
      (Roster.respond sm noDataCall
        (.onRsrcEvent event)).2 := by
  have hRelease :
      Roster.release sm noDataCall =
        Roster.move sm noDataCall .released := by
    simp [Roster.release, hInv.plain]
  cases event with
  | granted =>
      simp only [Roster.respond, Roster.move]
      cases hState : sm.mStatePtr with
      | pending => exact Step.grant hState
      | released =>
          exact Step.ignore .granted (by rw [hState]; trivial)
      | acquired =>
          exact Step.ignore .granted (by rw [hState]; trivial)
      | releasing =>
          exact Step.ignore .granted (by rw [hState]; trivial)
  | released =>
      simp only [Roster.respond, hRelease, Roster.move]
      cases hState : sm.mStatePtr with
      | acquired =>
          exact dismiss_step hInv .released
            (Or.inr ⟨hState, rfl⟩)
      | releasing =>
          exact closeDown_step hInv .released
            (Or.inl rfl) hState
      | released =>
          exact Step.ignore .released (by rw [hState]; trivial)
      | pending =>
          exact Step.ignore .released (by rw [hState]; trivial)
  | denied =>
      simp only [Roster.respond, Roster.move]
      cases hState : sm.mStatePtr with
      | pending =>
          exact dismiss_step hInv .denied
            (Or.inl ⟨hState, rfl⟩)
      | releasing =>
          exact closeDown_step hInv .denied
            (Or.inr rfl) hState
      | released =>
          exact Step.ignore .denied (by rw [hState]; trivial)
      | acquired =>
          exact Step.ignore .denied (by rw [hState]; trivial)
  | subscribe =>
      exact Step.ignore .subscribe
        (by cases sm.mStatePtr <;> trivial)
  | unsubscribe =>
      exact Step.ignore .unsubscribe
        (by cases sm.mStatePtr <;> trivial)
  | statusMax =>
      exact Step.ignore .statusMax
        (by cases sm.mStatePtr <;> trivial)

theorem step_of_call
    (hInv : Inv sm)
    (op : Op) :
    Step sm op (sm.call noDataCall op.call).1
      (sm.call noDataCall op.call).2 := by
  rw [AgpsStateMachine.call_eq]
  cases op with
  | subscribeRsrc c => exact subscribe_step hInv c
  | unsubscribeRsrc c => exact unsubscribe_step hInv c
  | onRsrcEvent event => exact event_step hInv event
  | setAPN apn => exact Step.setAPN apn
  | setBearer bearer => exact Step.setBearer bearer

end Plain

end Agps

end D2Common

------------------------------------------------------------
-- The Invariant Along Runs
------------------------------------------------------------

namespace D2Common

namespace Agps

namespace Plain

variable {sm sm' : AgpsStateMachine}
variable {op : Op}
variable {out : List Emission}

theorem inv_new
    (type : AGpsExtType)
    (single : Bool) :
    Inv (AgpsStateMachine.new type single) where
  plain := rfl
  noDS := by simp [AgpsStateMachine.new]
  empty := by simp [AgpsStateMachine.new]
  active := by
    simp [AgpsStateMachine.new, AgpsState.Holds]
  single := by simp [AgpsStateMachine.new]

/- Where the members of the new list come from. -/
theorem mem_after
    (hStep : Step sm op sm' out)
    {s : Subscriber}
    (hs : s ∈ sm'.mSubscribers) :
    s ∈ sm.mSubscribers ∨
      (∃ c, op = .subscribeRsrc c ∧ s = c.subscriber) ∨
      (∃ t ∈ sm.mSubscribers,
        t.waitForCloseComplete = true ∧
          s = t.inactivated) := by
  have hAdmit :
      ∀ c : Client,
        s ∈ Roster.added c.subscriber sm.mSubscribers →
          s ∈ sm.mSubscribers ∨ s = c.subscriber := by
    intro c hs
    rcases Roster.mem_added hs with hs | hs
    · exact Or.inr (by simpa using hs)
    · exact Or.inl hs
  have hLeft :
      ∀ (c : Client) (t : Subscriber),
        sm.mSubscribers.find? (·.equals c.subscriber) =
            some t →
          s ∈ Roster.left t sm.mSubscribers →
            s ∈ sm.mSubscribers ∨
              ∃ t ∈ sm.mSubscribers,
                t.waitForCloseComplete = true ∧
                  s = t.inactivated := by
    intro c t hFind hs
    rcases Roster.mem_left hs with hs | ⟨hWaits, hs⟩
    · exact Or.inl hs
    · exact Or.inr
        ⟨t, List.mem_of_find?_eq_some hFind, hWaits, hs⟩
  cases hStep with
  | start c hState =>
      exact Or.inr (Or.inl ⟨c, rfl, by simpa using hs⟩)
  | join c hAdmits hState =>
      rcases hAdmit c hs with hs | hs
      · exact Or.inl hs
      · exact Or.inr (Or.inl ⟨c, rfl, hs⟩)
  | joinGranted c hAdmits hState =>
      rcases hAdmit c hs with hs | hs
      · exact Or.inl hs
      · exact Or.inr (Or.inl ⟨c, rfl, hs⟩)
  | leave c t hFind hState hSome =>
      rcases hLeft c t hFind hs with hs | hs
      · exact Or.inl hs
      · exact Or.inr (Or.inr hs)
  | leaveLast c t hFind hState hNone =>
      rcases hLeft c t hFind hs with hs | hs
      · exact Or.inl hs
      · exact Or.inr (Or.inr hs)
  | leaveReleasing c t hFind hState =>
      rcases hLeft c t hFind hs with hs | hs
      · exact Or.inl hs
      · exact Or.inr (Or.inr hs)
  | restart st t hStatus hState hActive =>
      exact Or.inl (List.mem_of_mem_filter hs)
  | dismiss st hState => simp at hs
  | closeDown st hStatus hState hInactive => simp at hs
  | _ => exact Or.inl hs

theorem frame_of_step
    (hStep : Step sm op sm' out) :
    sm'.mRetries = sm.mRetries ∧
      sm'.mType = sm.mType ∧
      sm'.mEnforceSingleSubscriber =
        sm.mEnforceSingleSubscriber := by
  cases hStep <;> exact ⟨rfl, rfl, rfl⟩

theorem added_ne_nil
    (s : Subscriber)
    {l : List Subscriber}
    (hl : l ≠ []) :
    Roster.added s l ≠ [] := by
  rcases List.exists_mem_of_ne_nil l hl with ⟨t, ht⟩
  exact List.ne_nil_of_mem (Roster.subset_added ht)

/- Only a machine that admits many admits to a filled list. -/
theorem single_added
    (hInv : Inv sm)
    (hAdmits : ¬ sm.Refuses)
    (hState : sm.mStatePtr ≠ .released)
    (c : Client) :
    sm.mEnforceSingleSubscriber = true →
      (Roster.added c.subscriber
        sm.mSubscribers).length ≤ 1 := by
  intro hSingle
  exact absurd
    ⟨hSingle, fun hNil => hState (hInv.empty.mpr hNil)⟩
    hAdmits

theorem empty_of_leave
    {l : List Subscriber} :
    (if l.isEmpty then AgpsState.released
      else AgpsState.releasing) = .released ↔ l = [] := by
  cases l <;> simp

theorem not_holds_of_leave
    {l : List Subscriber} :
    ¬ (if l.isEmpty then AgpsState.released
      else AgpsState.releasing).Holds := by
  cases l <;> simp [AgpsState.Holds]

/- Released exactly with an empty list. -/
theorem empty_of_step
    (hInv : Inv sm)
    (hStep : Step sm op sm' out) :
    sm'.mStatePtr = .released ↔ sm'.mSubscribers = [] := by
  cases hStep with
  | start c hState => simp
  | join c hAdmits hState =>
      have hOld : sm.mSubscribers ≠ [] := by
        intro hNil
        rcases hState with hState | hState <;>
          simp [hInv.empty.mpr hNil] at hState
      have hNew := added_ne_nil c.subscriber hOld
      rcases hState with hState | hState <;>
        simp [Roster.accept, hState, hNew]
  | joinGranted c hAdmits hState =>
      have hOld : sm.mSubscribers ≠ [] := by
        intro hNil
        simp [hInv.empty.mpr hNil] at hState
      have hNew := added_ne_nil c.subscriber hOld
      simp [Roster.accept, hState, hNew]
  | leave c t hFind hState hSome =>
      rcases hSome with ⟨s, hs, -⟩
      have hNew := List.ne_nil_of_mem hs
      rcases hState with hState | hState <;>
        simp [hState, hNew]
  | leaveLast c t hFind hState hNone =>
      exact empty_of_leave
  | leaveReleasing c t hFind hState =>
      exact empty_of_leave
  | grant hState =>
      have hOld : sm.mSubscribers ≠ [] := by
        intro hNil
        simp [hInv.empty.mpr hNil] at hState
      simp [hOld]
  | dismiss st hState => simp
  | closeDown st hStatus hState hInactive => simp
  | restart st s hStatus hState hActive =>
      have hMem := List.mem_of_find?_eq_some hActive
      have hs := List.find?_some hActive
      have hNew :
          sm.mSubscribers.filter (!·.isInactive) ≠ [] :=
        List.ne_nil_of_mem (List.mem_filter.mpr ⟨hMem, hs⟩)
      simp only [reduceCtorEq, false_iff]
      exact hNew
  | _ => exact hInv.empty

/- Someone is active while the connection is held. -/
theorem active_of_step
    (hInv : Inv sm)
    (hStep : Step sm op sm' out) :
    sm'.mStatePtr.Holds →
      ∃ s ∈ sm'.mSubscribers, s.isInactive = false := by
  cases hStep with
  | start c hState =>
      intro _
      exact ⟨c.subscriber, by simp, by simp⟩
  | join c hAdmits hState =>
      intro hHolds
      rcases hInv.active hHolds with ⟨s, hs, hActive⟩
      exact ⟨s, Roster.subset_added hs, hActive⟩
  | joinGranted c hAdmits hState =>
      intro hHolds
      rcases hInv.active hHolds with ⟨s, hs, hActive⟩
      exact ⟨s, Roster.subset_added hs, hActive⟩
  | leave c t hFind hState hSome =>
      intro _
      exact hSome
  | leaveLast c t hFind hState hNone =>
      intro hHolds
      exact absurd hHolds not_holds_of_leave
  | leaveReleasing c t hFind hState =>
      intro hHolds
      exact absurd hHolds not_holds_of_leave
  | grant hState =>
      intro _
      exact hInv.active (Or.inl hState)
  | dismiss st hState => simp [AgpsState.Holds]
  | closeDown st hStatus hState hInactive =>
      simp [AgpsState.Holds]
  | restart st s hStatus hState hActive =>
      intro _
      have hMem := List.mem_of_find?_eq_some hActive
      have hs := List.find?_some hActive
      exact ⟨s, List.mem_filter.mpr ⟨hMem, hs⟩,
        by simpa using hs⟩
  | _ => exact hInv.active

/- A machine for one has at most one. -/
theorem single_of_step
    (hInv : Inv sm)
    (hStep : Step sm op sm' out) :
    sm'.mEnforceSingleSubscriber = true →
      sm'.mSubscribers.length ≤ 1 := by
  have hLeft (t : Subscriber) :
      sm.mEnforceSingleSubscriber = true →
        (Roster.left t sm.mSubscribers).length ≤ 1 :=
    fun hSingle =>
      Nat.le_trans (Roster.length_left_le t _)
        (hInv.single hSingle)
  cases hStep with
  | start c hState => simp
  | join c hAdmits hState =>
      apply single_added hInv hAdmits _ c
      rcases hState with hState | hState <;>
        simp [hState]
  | joinGranted c hAdmits hState =>
      exact single_added hInv hAdmits (by simp [hState]) c
  | leave c t hFind hState hSome => exact hLeft t
  | leaveLast c t hFind hState hNone => exact hLeft t
  | leaveReleasing c t hFind hState => exact hLeft t
  | dismiss st hState => simp
  | closeDown st hStatus hState hInactive => simp
  | restart st s hStatus hState hActive =>
      intro hSingle
      exact Nat.le_trans (List.length_filter_le _ _)
        (hInv.single hSingle)
  | _ => exact hInv.single

theorem inv_of_step
    (hInv : Inv sm)
    (hStep : Step sm op sm' out) :
    Inv sm' where
  plain := by
    rw [(frame_of_step hStep).1, hInv.plain]
  noDS := by
    intro s hs
    rcases mem_after hStep hs with
      hs | ⟨c, -, rfl⟩ | ⟨t, ht, -, rfl⟩
    · exact hInv.noDS s hs
    · exact c.isDS_subscriber
    · simpa using hInv.noDS t ht
  empty := empty_of_step hInv hStep
  active := active_of_step hInv hStep
  single := single_of_step hInv hStep

theorem inv_run
    (type : AGpsExtType)
    (single : Bool)
    (ops : List Op) :
    Inv ((machine type single).run ops) := by
  apply (machine type single).run_induction
    (A := fun _ => True) (I := Inv)
    (inv_new type single)
  · intro sm op hInv _
    exact inv_of_step hInv (step_of_call hInv op)
  · simp

end Plain

end Agps

end D2Common
