import D2Common.Agps.Upkeep

/-
  What a call can emit at all, and what it leaves alone.

  Whatever the call and the state, an emission is a notice
  to a subscriber of the list or to the caller, the farewell
  to a handle, or part of a request to the servicer. The
  type of a machine is never changed, and its APN and bearer
  only by the calls that set them.

  Key definitions include:
    * `Emitted`
    * `Settings`

  Key theorems include:
    * `Roster.emitted_respond`
    * `Roster.settings_respond`
    * `Roster.mStatePtr_respond`
    * `Roster.respond_of_plain`
-/

------------------------------------------------------------
-- Emissions
------------------------------------------------------------

namespace D2Common

namespace Agps

/- What only a machine that starts data calls emits. -/
def Emission.OfDataCall : Emission → Prop
| .openAndStartDataCall _ => True
| .stopDataCall => True
| .requestATL _ _ => True
| .locTimerStart _ => True
| _ => False

/- The sources of what a machine emits during a call. -/
inductive Emitted
    (sm : AgpsStateMachine)
    (c : Call) : Emission → Prop where
  | notice
      (s : Subscriber)
      (addressee : Addressee)
      (st : AgpsRsrcStatus)
      (hWho : s ∈ sm.mSubscribers ∨ c = .subscribeRsrc s)
      {em : Emission}
      (hMem : em ∈ s.notice addressee sm st) :
      Emitted sm c em
  | farewell (id : Handle) :
      Emitted sm c (.atlCloseStatus id 1)
  | action (action : AGpsStatusValue) :
      Emitted sm c (.sendRsrcRequest action)
  | status
      (hPlain : sm.mRetries = none)
      (action : AGpsStatusValue)
      (s : Option Subscriber)
      (hWho :
        ∀ t ∈ s,
          t ∈ sm.mSubscribers ∨
            ∃ u, c = .subscribeRsrc u ∧ t = u.clone) :
      Emitted sm c
        (.requestRsrc (nifRequest sm.mType action s))
  | dataCall
      (hClass : sm.mRetries.isSome = true)
      {em : Emission}
      (hOf : em.OfDataCall) :
      Emitted sm c em

namespace Roster

variable {sm : AgpsStateMachine}
variable {c : Call}

theorem emitted_notices
    {told : List Subscriber}
    (hTold : ∀ s ∈ told, s ∈ sm.mSubscribers)
    (st : AgpsRsrcStatus) :
    ∀ em ∈ notices sm st told, Emitted sm c em := by
  intro em hMem
  rcases List.mem_flatMap.mp hMem with ⟨s, hs, hMem⟩
  exact Emitted.notice s .listed st (Or.inl (hTold s hs))
    hMem

theorem emitted_leaveOut
    (s : Subscriber) :
    ∀ em ∈ leaveOut sm s, Emitted sm c em := by
  unfold leaveOut
  split
  · split
    · intro em hMem
      rw [List.mem_singleton.mp hMem]
      exact Emitted.farewell s.ID
    · simp
  · exact emitted_notices
      (fun t ht => (List.mem_filter.mp ht).1) _

theorem emitted_releaseOut :
    ∀ em ∈ releaseOut sm, Emitted sm c em := by
  unfold releaseOut
  intro em hMem
  rcases List.mem_cons.mp hMem with rfl | hMem
  · exact Emitted.action _
  · split at hMem
    · next hClass =>
        rw [List.mem_singleton.mp hMem]
        exact Emitted.dataCall hClass trivial
    · next hClass =>
        rw [List.mem_singleton.mp hMem]
        exact
          Emitted.status (by simpa using hClass) _ none
            (by simp)

/- What a request emits, by the class of the machine. -/
theorem request_cases
    (env : DataCall)
    (action : AGpsStatusValue) :
    ∀ em ∈ (request sm env action).2.2,
      em = .sendRsrcRequest action ∨
        (sm.mRetries = none ∧
          ∃ s,
            (∀ t ∈ s, t ∈ sm.mSubscribers) ∧
              em =
                .requestRsrc
                  (nifRequest sm.mType action s)) ∨
        (sm.mRetries.isSome = true ∧ em.OfDataCall) := by
  intro em hMem
  unfold request at hMem
  cases hRetries : sm.mRetries with
  | none =>
      rw [hRetries] at hMem
      rcases List.mem_cons.mp hMem with rfl | hMem
      · exact Or.inl rfl
      · split at hMem
        · exact
            Or.inr
              (Or.inl
                ⟨rfl, _, fun t ht => List.mem_of_find?_eq_some ht,
                  List.mem_singleton.mp hMem⟩)
        · cases hMem
  | some retries =>
      rw [hRetries] at hMem
      cases action with
      | releaseAgpsDataConn =>
          rcases List.mem_cons.mp hMem with rfl | hMem
          · exact Or.inl rfl
          · rw [List.mem_singleton.mp hMem]
            exact Or.inr (Or.inr ⟨rfl, trivial⟩)
      | requestAgpsDataConn =>
          rcases List.mem_cons.mp hMem with rfl | hMem
          · exact Or.inl rfl
          · right
            right
            refine ⟨rfl, ?_⟩
            rcases List.mem_cons.mp hMem with rfl | hMem
            · trivial
            · split at hMem
              · rw [List.mem_singleton.mp hMem]
                trivial
              · rw [List.mem_singleton.mp hMem]
                trivial
              · cases hMem

/-
  A request of a machine with another list and counter, and
  nobody on the list but the caller who was not there.
-/
theorem emitted_request
    {sm' : AgpsStateMachine}
    (hType : sm'.mType = sm.mType)
    (hClass : sm'.mRetries.isSome = sm.mRetries.isSome)
    (hWho :
      ∀ t ∈ sm'.mSubscribers,
        t ∈ sm.mSubscribers ∨
          ∃ u, c = .subscribeRsrc u ∧ t = u.clone)
    (env : DataCall)
    (action : AGpsStatusValue) :
    ∀ em ∈ (request sm' env action).2.2,
      Emitted sm c em := by
  intro em hMem
  rcases request_cases env action em hMem with
    rfl | ⟨hNone, s, hOn, rfl⟩ | ⟨hSome, hOf⟩
  · exact Emitted.action action
  · have hPlain : sm.mRetries = none := by
      simpa [hNone] using hClass.symm
    rw [hType]
    exact
      Emitted.status hPlain action s
        (fun t ht => hWho t (hOn t ht))
  · exact Emitted.dataCall (hClass.symm.trans hSome) hOf

theorem emitted_start
    (env : DataCall)
    (s : Subscriber)
    (hCaller : c = .subscribeRsrc s) :
    ∀ em ∈ (start sm env s).2, Emitted sm c em := by
  refine
    @emitted_request sm c
      { sm with mSubscribers := added s sm.mSubscribers }
      rfl rfl ?_ env .requestAgpsDataConn
  intro t ht
  rcases mem_added ht with rfl | hOn
  · exact Or.inr ⟨s, hCaller, rfl⟩
  · exact Or.inl hOn

theorem emitted_depart
    (s : Subscriber) :
    ∀ em ∈ (depart sm s).2, Emitted sm c em := by
  unfold depart
  simp only
  split
  · intro em hMem
    rcases List.mem_append.mp hMem with hMem | hMem
    · exact emitted_leaveOut s em hMem
    · exact emitted_releaseOut em hMem
  · exact emitted_leaveOut s

theorem emitted_closeDown
    (env : DataCall)
    (st : AgpsRsrcStatus) :
    ∀ em ∈ (closeDown sm env st).2, Emitted sm c em := by
  have hTold :
      ∀ em ∈ notices sm st
          (sm.mSubscribers.filter (·.isInactive)),
        Emitted sm c em :=
    emitted_notices (fun t ht => (List.mem_filter.mp ht).1)
      st
  unfold closeDown
  simp only
  split
  · exact hTold
  · intro em hMem
    rcases List.mem_append.mp hMem with hMem | hMem
    · exact hTold em hMem
    · refine emitted_request ?_ ?_ ?_ env _ em hMem
      · unfold AgpsStateMachine.clearRetries
        split <;> rfl
      · simp
      · exact fun t ht => Or.inl (List.mem_filter.mp ht).1

/- A transition, whoever it is about. -/
theorem emitted_move
    (env : DataCall)
    {event : RsrcEvent}
    (hCaller :
      ∀ s, event = .subscribe s → c = .subscribeRsrc s)
    (hOn :
      ∀ t, event = .unsubscribe t → t ∈ sm.mSubscribers) :
    ∀ em ∈ (move sm env event).2, Emitted sm c em := by
  have hAll :=
    @emitted_notices sm c sm.mSubscribers (fun _ hs => hs)
  unfold move
  cases hState : sm.mStatePtr <;> cases event
  case released.subscribe s =>
      exact emitted_start env s (hCaller s rfl)
  case released.unsubscribe t =>
      intro em hMem
      exact Emitted.notice t .listed .unsubscribe
        (Or.inl (hOn t rfl)) hMem
  case pending.unsubscribe t => exact emitted_depart t
  case pending.granted =>
      exact emitted_notices
        (fun t ht => (List.mem_filter.mp ht).1) _
  case pending.denied => exact hAll .denied
  case acquired.subscribe s =>
      intro em hMem
      exact Emitted.notice s .caller .granted
        (Or.inr (hCaller s rfl)) hMem
  case acquired.unsubscribe t => exact emitted_depart t
  case acquired.released => exact hAll .released
  case releasing.unsubscribe t => exact emitted_leaveOut t
  case releasing.released =>
      exact emitted_closeDown env .released
  case releasing.denied =>
      exact emitted_closeDown env .denied
  all_goals simp

/-
  A release that a DS machine ignores is a denial. It never
  ignores one while a connection is going down.
-/
theorem release_eq
    (sm : AgpsStateMachine)
    (env : DataCall) :
    release sm env = move sm env .released ∨
      (sm.mRetries.isSome = true ∧
        sm.mStatePtr ≠ .releasing ∧
          release sm env = move sm env .denied) := by
  unfold release
  simp only
  split
  · next hIgnored =>
      right
      rcases hIgnored with ⟨hClass, hSame⟩
      have hState : sm.mStatePtr ≠ .releasing := by
        intro hState
        simp only [move, hState, closeDown] at hSame
        split at hSame <;> cases hSame
      have hMove : move sm env .released = (sm, []) := by
        unfold move at hSame ⊢
        cases hPtr : sm.mStatePtr with
        | released => rfl
        | pending => rfl
        | acquired => simp [hPtr, dismiss] at hSame
        | releasing => exact absurd hPtr hState
      refine ⟨hClass, hState, ?_⟩
      simp [andThen, hMove]
  · exact Or.inl rfl

theorem release_cases
    (sm : AgpsStateMachine)
    (env : DataCall) :
    release sm env = move sm env .released ∨
      release sm env = move sm env .denied :=
  (release_eq sm env).imp_right fun h => h.2.2

theorem emitted_respond
    (sm : AgpsStateMachine)
    (env : DataCall)
    (c : Call) :
    ∀ em ∈ (respond sm env c).2, Emitted sm c em := by
  cases c with
  | subscribeRsrc s =>
      simp only [respond, subscribe]
      split
      · intro em hMem
        exact Emitted.notice s .caller .denied (Or.inr rfl)
          hMem
      · exact emitted_move env
          (fun t ht => by cases ht; rfl)
          (fun t ht => by cases ht)
  | unsubscribeRsrc s =>
      simp only [respond, unsubscribe]
      split
      · next t hFind =>
          exact emitted_move env
            (fun u hu => by cases hu)
            (fun u hu => by
              cases hu
              exact List.mem_of_find?_eq_some hFind)
      · simp
  | onRsrcEvent event =>
      have hMove (event' : RsrcEvent)
          (hNone :
            (∀ s, event' ≠ .subscribe s) ∧
              ∀ t, event' ≠ .unsubscribe t) :
          ∀ em ∈ (move sm env event').2,
            Emitted sm (.onRsrcEvent event) em :=
        emitted_move env
          (fun s hs => absurd hs (hNone.1 s))
          (fun t ht => absurd ht (hNone.2 t))
      cases event with
      | granted => exact hMove .granted (by simp)
      | denied => exact hMove .denied (by simp)
      | released =>
          simp only [respond]
          rcases release_cases sm env with hEq | hEq
          · rw [hEq]
            exact hMove .released (by simp)
          · rw [hEq]
            exact hMove .denied (by simp)
      | _ => simp [respond]
  | setAPN apn => simp [respond]
  | setBearer bearer => simp [respond]

end Roster

end Agps

end D2Common

------------------------------------------------------------
-- Settings
------------------------------------------------------------

namespace D2Common

namespace Agps

/- What a machine is told by other calls than subscribes. -/
structure Settings where
  mType : AGpsExtType
  mAPN : Option CString
  mBearer : AGpsBearerType
deriving DecidableEq

def AgpsStateMachine.settings
    (sm : AgpsStateMachine) : Settings :=
  ⟨sm.mType, sm.mAPN, sm.mBearer⟩

/- The settings after a call. -/
def Settings.after
    (settings : Settings) : Call → Settings
| .setAPN apn => { settings with mAPN := apn }
| .setBearer bearer => { settings with mBearer := bearer }
| _ => settings

namespace Roster

@[simp] theorem settings_clearRetries
    (sm : AgpsStateMachine)
    (st : AgpsRsrcStatus)
    (told : List Subscriber) :
    (sm.clearRetries st told).settings = sm.settings := by
  unfold AgpsStateMachine.clearRetries
  split <;> rfl

@[simp] theorem settings_request
    (sm : AgpsStateMachine)
    (env : DataCall)
    (action : AGpsStatusValue) :
    (request sm env action).2.1.settings = sm.settings := by
  unfold request
  cases sm.mRetries with
  | none => rfl
  | some retries => cases action <;> rfl

theorem settings_move
    (sm : AgpsStateMachine)
    (env : DataCall)
    (event : RsrcEvent) :
    (move sm env event).1.settings = sm.settings := by
  have hStart (s : Subscriber) :
      (start sm env s).1.settings = sm.settings :=
    settings_request
      { sm with mSubscribers := added s sm.mSubscribers }
      env .requestAgpsDataConn
  have hDepart (s : Subscriber) :
      (depart sm s).1.settings = sm.settings := by
    unfold depart
    simp only
    split <;> rfl
  have hDismiss (st : AgpsRsrcStatus) :
      (dismiss sm st).1.settings = sm.settings :=
    settings_clearRetries sm st sm.mSubscribers
  have hClose (st : AgpsRsrcStatus) :
      (closeDown sm env st).1.settings = sm.settings := by
    have hKept :=
      settings_clearRetries sm st
        (sm.mSubscribers.filter (·.isInactive))
    unfold closeDown
    simp only
    split
    · exact hKept
    · exact (settings_request _ env _).trans hKept
  unfold move
  cases hState : sm.mStatePtr <;> cases event
  case released.subscribe s => exact hStart s
  case pending.unsubscribe s => exact hDepart s
  case acquired.unsubscribe s => exact hDepart s
  case pending.denied => exact hDismiss .denied
  case acquired.released => exact hDismiss .released
  case releasing.released => exact hClose .released
  case releasing.denied => exact hClose .denied
  all_goals rfl

/- Only the calls that set something change a setting. -/
theorem settings_respond
    (sm : AgpsStateMachine)
    (env : DataCall)
    (c : Call) :
    (respond sm env c).1.settings = sm.settings.after c := by
  cases c with
  | subscribeRsrc s =>
      simp only [respond, subscribe]
      split
      · exact settings_clearRetries sm .denied [s]
      · exact settings_move sm env _
  | unsubscribeRsrc s =>
      simp only [respond, unsubscribe]
      split
      · exact settings_move sm env _
      · rfl
  | onRsrcEvent event =>
      cases event with
      | granted => exact settings_move sm env .granted
      | denied => exact settings_move sm env .denied
      | released =>
          simp only [respond]
          rcases release_cases sm env with hEq | hEq
          · rw [hEq]
            exact settings_move sm env .released
          · rw [hEq]
            exact settings_move sm env .denied
      | _ => rfl
  | setAPN apn => rfl
  | setBearer bearer => rfl

end Roster

end Agps

end D2Common

------------------------------------------------------------
-- Acquired
------------------------------------------------------------

namespace D2Common

namespace Agps

namespace Roster

/- Nothing but a grant brings a machine to Acquired. -/
theorem mStatePtr_move
    (sm : AgpsStateMachine)
    (env : DataCall)
    {event : RsrcEvent}
    (hEvent : event ≠ .granted)
    (hAfter : (move sm env event).1.mStatePtr = .acquired) :
    sm.mStatePtr = .acquired := by
  unfold move at hAfter
  cases hState : sm.mStatePtr with
  | acquired => rfl
  | released =>
      cases event with
      | subscribe s =>
          simp only [hState, start] at hAfter
          split at hAfter <;> cases hAfter
      | _ => simp [hState] at hAfter
  | pending =>
      cases event with
      | granted => exact absurd rfl hEvent
      | unsubscribe s =>
          simp only [hState, depart] at hAfter
          split at hAfter
          · simp only at hAfter
            split at hAfter <;> cases hAfter
          · simp at hAfter
      | denied => simp [hState, dismiss] at hAfter
      | _ => simp [hState, accept] at hAfter
  | releasing =>
      cases event with
      | unsubscribe s =>
          simp only [hState, departReleasing] at hAfter
          split at hAfter <;> cases hAfter
      | released =>
          simp only [hState, closeDown] at hAfter
          split at hAfter <;> cases hAfter
      | denied =>
          simp only [hState, closeDown] at hAfter
          split at hAfter <;> cases hAfter
      | _ => simp [hState, accept] at hAfter

theorem mStatePtr_clearRetries
    (sm : AgpsStateMachine)
    (st : AgpsRsrcStatus)
    (told : List Subscriber) :
    (sm.clearRetries st told).mStatePtr = sm.mStatePtr := by
  unfold AgpsStateMachine.clearRetries
  split <;> rfl

theorem mStatePtr_respond
    (sm : AgpsStateMachine)
    (env : DataCall)
    {c : Call}
    (hCall : c ≠ .onRsrcEvent .granted)
    (hAfter : (respond sm env c).1.mStatePtr = .acquired) :
    sm.mStatePtr = .acquired := by
  cases c with
  | subscribeRsrc s =>
      simp only [respond, subscribe] at hAfter
      split at hAfter
      · exact (mStatePtr_clearRetries sm _ _).symm.trans
          hAfter
      · exact mStatePtr_move sm env (by simp) hAfter
  | unsubscribeRsrc s =>
      simp only [respond, unsubscribe] at hAfter
      split at hAfter
      · exact mStatePtr_move sm env (by simp) hAfter
      · exact hAfter
  | onRsrcEvent event =>
      cases event with
      | granted => exact absurd rfl hCall
      | denied =>
          exact mStatePtr_move sm env (by simp) hAfter
      | released =>
          simp only [respond] at hAfter
          rcases release_cases sm env with hEq | hEq
          · rw [hEq] at hAfter
            exact mStatePtr_move sm env (by simp) hAfter
          · rw [hEq] at hAfter
            exact mStatePtr_move sm env (by simp) hAfter
      | _ => exact hAfter
  | setAPN apn => exact hAfter
  | setBearer bearer => exact hAfter

end Roster

end Agps

end D2Common

------------------------------------------------------------
-- The Environment of a Plain Machine
------------------------------------------------------------

namespace D2Common

namespace Agps

namespace Roster

variable {sm : AgpsStateMachine}

/- A plain machine asks nothing of the data services. -/
theorem request_of_plain
    (hPlain : sm.mRetries = none)
    (l : List Subscriber)
    (env : DataCall)
    (action : AGpsStatusValue) :
    request { sm with mSubscribers := l } env action =
      request { sm with mSubscribers := l } noDataCall
        action := by
  unfold request
  rw [hPlain]

theorem move_of_plain
    (hPlain : sm.mRetries = none)
    (env : DataCall)
    (event : RsrcEvent) :
    move sm env event = move sm noDataCall event := by
  have hStart (s : Subscriber) :
      start sm env s = start sm noDataCall s := by
    simp only [start, request_of_plain hPlain _ env]
  have hClose (st : AgpsRsrcStatus) :
      closeDown sm env st = closeDown sm noDataCall st := by
    simp only [closeDown,
      AgpsStateMachine.clearRetries_of_none hPlain,
      request_of_plain hPlain _ env]
  unfold move
  cases hState : sm.mStatePtr <;> cases event
  case released.subscribe s => exact hStart s
  case releasing.released => exact hClose .released
  case releasing.denied => exact hClose .denied
  all_goals rfl

theorem respond_of_plain
    (hPlain : sm.mRetries = none)
    (env : DataCall)
    (c : Call) :
    respond sm env c = respond sm noDataCall c := by
  have hMove := move_of_plain hPlain env
  cases c with
  | subscribeRsrc s => simp only [respond, subscribe, hMove]
  | unsubscribeRsrc s =>
      simp only [respond, unsubscribe, hMove]
  | onRsrcEvent event =>
      cases event with
      | released =>
          simp only [respond, release, hMove, hPlain,
            Option.isSome_none, Bool.false_eq_true,
            false_and, if_false]
      | _ => simp only [respond, hMove]
  | setAPN apn => rfl
  | setBearer bearer => rfl

end Roster

end Agps

end D2Common
