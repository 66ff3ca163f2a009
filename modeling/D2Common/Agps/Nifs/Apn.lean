import D2Common.Agps.Nifs.Calls

/-
  The access point that the modem is told.

  The framework gives a machine the name of an access point
  and its bearer together with the connection. The machine
  keeps both, and every answer to an open request of the
  modem carries what the machine keeps. The file follows the
  name from the framework to the modem, through any run of
  the engine.

  Key definitions include:
    * `Nifs.lastOpened`
    * `Nifs.Keeps`

  Key theorems include:
    * `Nifs.keeps_run`
    * `Nifs.answers_carry_last_open`
-/

------------------------------------------------------------
-- What Was Opened Last
------------------------------------------------------------

namespace D2Common

namespace Agps

namespace Nifs

/- The last open since the machine of a field was made. -/
def lastOpened
    (f : NifField)
    (h : List Event) : Option (CString × AGpsBearerType) :=
  h.foldl
    (fun last ev =>
      if constructs f ev.before ev.input then none
      else (openedBy f ev.before ev.input).or last)
    none

theorem lastOpened_event
    (abi : DmnConn.Abi)
    (f : NifField)
    (h : List Event)
    (e : Nifs)
    (i : Input) :
    lastOpened f (h ++ [(engine abi).event e i]) =
      if constructs f e i then none
      else (openedBy f e i).or (lastOpened f h) := by
  simp [lastOpened, Transducer.event]

end Nifs

end Agps

end D2Common

------------------------------------------------------------
-- What A Machine Keeps
------------------------------------------------------------

namespace D2Common

namespace Agps

namespace Nifs

/- A machine keeps what was opened last. -/
structure Keeps
    (f : NifField)
    (last : Option (CString × AGpsBearerType))
    (sm : AgpsStateMachine) : Prop where
  type : sm.mType = f.type
  apn : sm.mAPN = last.map fun o => o.1.take maxApnLen
  bearer :
    sm.mBearer =
      (last.map Prod.snd).getD agpsApnBearerInvalid
  acquired :
    f ≠ .ds_nif →
      sm.mStatePtr = .acquired → last.isSome = true

variable {f : NifField}
variable {last : Option (CString × AGpsBearerType)}
variable {sm : AgpsStateMachine}

/- An answer carries what the machine keeps afterwards. -/
theorem settings_unopened
    {g : NifField}
    {c : Call}
    (hUnopened : Unopened g c)
    (settings : Settings) :
    settings.after c = settings := by
  cases c <;> first | rfl | exact hUnopened.elim

theorem keeps_call
    (hKeeps : Keeps f last sm)
    (env : DataCall)
    {c : Call}
    (hUnopened : Unopened f c) :
    Keeps f last (sm.call env c).1 := by
  have hSettings := Roster.settings_respond sm env c
  rw [settings_unopened hUnopened,
    ← AgpsStateMachine.call_eq] at hSettings
  refine
    ⟨(congrArg Settings.mType hSettings).trans hKeeps.type,
      (congrArg Settings.mAPN hSettings).trans hKeeps.apn,
      (congrArg Settings.mBearer hSettings).trans
        hKeeps.bearer, ?_⟩
  intro hPlain hAfter
  apply hKeeps.acquired hPlain
  rw [AgpsStateMachine.call_eq] at hAfter
  refine Roster.mStatePtr_respond sm env ?_ hAfter
  rintro rfl
  exact hPlain hUnopened

/- A connection that is opened is what is kept from then. -/
theorem keeps_given
    (hType : sm.mType = f.type)
    (env : DataCall)
    (apn : CString)
    (bearerType : AGpsBearerType) :
    Keeps f (some (apn, bearerType))
      ((given sm apn bearerType).call env
        (.onRsrcEvent .granted)).1 := by
  have hSettings :=
    Roster.settings_respond (given sm apn bearerType) env
      (.onRsrcEvent .granted)
  rw [← AgpsStateMachine.call_eq] at hSettings
  exact
    ⟨(congrArg Settings.mType hSettings).trans hType,
      congrArg Settings.mAPN hSettings,
      congrArg Settings.mBearer hSettings, fun _ _ => rfl⟩

theorem keeps_new :
    Keeps f none
      (if f = .ds_nif then DSStateMachine.new
      else f.machine.init) := by
  cases f <;> exact ⟨rfl, rfl, rfl, fun _ h => by cases h⟩

/- Every machine keeps what its field was opened with. -/
def AllKeep
    (h : List Event)
    (e : Nifs) : Prop :=
  ∀ f, ∀ sm ∈ e.nif f, Keeps f (lastOpened f h) sm

theorem allKeep_step
    (abi : DmnConn.Abi)
    {h : List Event}
    {e : Nifs}
    (hKeep : AllKeep h e)
    (i : Input) :
    AllKeep (h ++ [(engine abi).event e i])
      (step abi e i).1 := by
  intro f sm' hSm'
  rw [lastOpened_event]
  cases turned_step abi e i with
  | called g sm env c hSm hGoes hUnopened hClient hOpened
      hMade hNif hOut =>
      rw [hNif] at hSm'
      rw [hMade f, hOpened f]
      simp only [Bool.false_eq_true, if_false, Option.none_or]
      split at hSm'
      · next hSame =>
          subst hSame
          cases hSm'
          exact keeps_call (hKeep f sm hSm) env hUnopened
      · exact hKeep f sm' hSm'
  | opened g sm env apn bearerType hSm hGoes hOpened hMade
      hNif hOut =>
      rw [hNif] at hSm'
      rw [hMade f, hOpened f]
      simp only [Bool.false_eq_true, if_false]
      split at hSm'
      · next hSame =>
          cases hSm'
          rw [if_pos hSame]
          subst hSame
          exact keeps_given (hKeep f sm hSm).type env apn
            bearerType
      · next hOther =>
          rw [if_neg hOther]
          exact hKeep f sm' hSm'
  | alone hAbsent hOpened hMade hNif hOut =>
      rw [hNif] at hSm'
      rw [hMade f, hOpened f]
      exact hKeep f sm' hSm'
  | made hNowhere hOpened hNif hOut =>
      rw [hNif] at hSm'
      rw [hOpened f]
      split at hSm'
      · next hMade =>
          cases hSm'
          rw [if_pos hMade]
          exact keeps_new
      · next hMade =>
          rw [if_neg hMade]
          exact hKeep f sm' hSm'
  | restarted hInput hStep =>
      subst hInput
      rw [hStep] at hSm'
      have hNone : constructs f e .engineUp = false := by
        cases f <;> rfl
      rw [hNone]
      simp only [Bool.false_eq_true, if_false]
      rcases nif_handleEngineUp hSm' with
        ⟨sm, hSm, rfl | rfl⟩
      · exact hKeep f _ hSm
      · have hOld := hKeep f sm hSm
        exact
          ⟨hOld.type, hOld.apn, hOld.bearer, hOld.acquired⟩

theorem keeps_run
    (abi : DmnConn.Abi)
    (is : List Input) :
    AllKeep ((engine abi).history is)
      ((engine abi).run is) := by
  apply (engine abi).history_induction_of_all (I := AllKeep)
  · intro f sm hSm
    cases f <;> cases hSm
  · intro h e i hKeep
    exact allKeep_step abi hKeep i

end Nifs

end Agps

end D2Common

------------------------------------------------------------
-- The Answers
------------------------------------------------------------

namespace D2Common

namespace Agps

/- A positive answer to an open request. -/
def Emission.Opens : Emission → Prop
| .atlOpenStatus _ isSucc _ _ _ => isSucc = 1
| _ => False

namespace Roster

variable {sm : AgpsStateMachine}

/- Subscribers open when they are granted, and only then. -/
theorem opens_notice
    {s : Subscriber}
    {addressee : Addressee}
    {st : AgpsRsrcStatus}
    {em : Emission}
    (hMem : em ∈ s.notice addressee sm st)
    (hOpens : em.Opens) :
    st = .granted := by
  rcases List.mem_cons.mp hMem with rfl | hMem
  · exact hOpens.elim
  · cases st <;> cases s <;>
      simp [Subscriber.answer] at hMem <;>
      first
        | rfl
        | (subst hMem; simp [Emission.Opens] at hOpens)

theorem not_opens_notices
    {st : AgpsRsrcStatus}
    (hStatus : st ≠ .granted)
    (told : List Subscriber) :
    ∀ em ∈ notices sm st told, ¬ em.Opens := by
  intro em hMem hOpens
  rcases List.mem_flatMap.mp hMem with ⟨s, -, hMem⟩
  exact hStatus (opens_notice hMem hOpens)

theorem not_opens_request
    (env : DataCall)
    (action : AGpsStatusValue) :
    ∀ em ∈ (request sm env action).2.2, ¬ em.Opens := by
  intro em hMem hOpens
  rcases request_cases env action em hMem with
    rfl | ⟨-, s, -, rfl⟩ | ⟨-, hOf⟩
  · exact hOpens
  · exact hOpens
  · cases em <;> first | exact hOpens | exact hOf

theorem not_opens_leaveOut
    (s : Subscriber) :
    ∀ em ∈ leaveOut sm s, ¬ em.Opens := by
  unfold leaveOut
  split
  · split
    · intro em hMem hOpens
      rw [List.mem_singleton.mp hMem] at hOpens
      exact hOpens
    · simp
  · exact not_opens_notices (by decide) _

theorem not_opens_releaseOut :
    ∀ em ∈ releaseOut sm, ¬ em.Opens := by
  intro em hMem hOpens
  unfold releaseOut at hMem
  rcases List.mem_cons.mp hMem with rfl | hMem
  · exact hOpens
  · split at hMem
    · rw [List.mem_singleton.mp hMem] at hOpens
      exact hOpens
    · rw [List.mem_singleton.mp hMem] at hOpens
      exact hOpens

theorem not_opens_depart
    (s : Subscriber) :
    ∀ em ∈ (depart sm s).2, ¬ em.Opens := by
  unfold depart
  simp only
  split
  · intro em hMem
    rcases List.mem_append.mp hMem with hMem | hMem
    · exact not_opens_leaveOut s em hMem
    · exact not_opens_releaseOut em hMem
  · exact not_opens_leaveOut s

theorem not_opens_closeDown
    (env : DataCall)
    {st : AgpsRsrcStatus}
    (hStatus : st ≠ .granted) :
    ∀ em ∈ (closeDown sm env st).2, ¬ em.Opens := by
  unfold closeDown
  simp only
  split
  · exact not_opens_notices hStatus _
  · intro em hMem
    rcases List.mem_append.mp hMem with hMem | hMem
    · exact not_opens_notices hStatus _ em hMem
    · exact not_opens_request env _ em hMem

/- A machine that opens has the connection from then on. -/
theorem acquired_of_opens_move
    (env : DataCall)
    (event : RsrcEvent)
    {em : Emission}
    (hMem : em ∈ (move sm env event).2)
    (hOpens : em.Opens) :
    (move sm env event).1.mStatePtr = .acquired := by
  unfold move at hMem ⊢
  cases hState : sm.mStatePtr <;> rw [hState] at hMem <;>
    cases event
  case released.subscribe s =>
      exact absurd hOpens (not_opens_request env _ em hMem)
  case released.unsubscribe t =>
      cases opens_notice hMem hOpens
  case pending.unsubscribe t =>
      exact absurd hOpens (not_opens_depart t em hMem)
  case pending.granted => rfl
  case pending.denied =>
      exact absurd hOpens
        (not_opens_notices (by decide) _ em hMem)
  case acquired.subscribe s => exact hState
  case acquired.unsubscribe t =>
      exact absurd hOpens (not_opens_depart t em hMem)
  case acquired.released =>
      exact absurd hOpens
        (not_opens_notices (by decide) _ em hMem)
  case releasing.unsubscribe t =>
      exact absurd hOpens (not_opens_leaveOut t em hMem)
  case releasing.released =>
      exact absurd hOpens
        (not_opens_closeDown env (by decide) em hMem)
  case releasing.denied =>
      exact absurd hOpens
        (not_opens_closeDown env (by decide) em hMem)
  all_goals cases hMem

theorem acquired_of_opens
    (env : DataCall)
    (c : Call)
    {em : Emission}
    (hMem : em ∈ (respond sm env c).2)
    (hOpens : em.Opens) :
    (respond sm env c).1.mStatePtr = .acquired := by
  cases c with
  | subscribeRsrc s =>
      simp only [respond, subscribe] at hMem ⊢
      split at hMem
      · cases opens_notice hMem hOpens
      · next hAdmits =>
          rw [if_neg hAdmits]
          exact acquired_of_opens_move env _ hMem hOpens
  | unsubscribeRsrc s =>
      simp only [respond, unsubscribe] at hMem ⊢
      split at hMem
      · exact acquired_of_opens_move env _ hMem hOpens
      · cases hMem
  | onRsrcEvent event =>
      cases event with
      | granted =>
          exact acquired_of_opens_move env _ hMem hOpens
      | denied =>
          exact acquired_of_opens_move env _ hMem hOpens
      | released =>
          simp only [respond] at hMem ⊢
          rcases release_cases sm env with hEq | hEq
          · rw [hEq] at hMem ⊢
            exact acquired_of_opens_move env _ hMem hOpens
          · rw [hEq] at hMem ⊢
            exact acquired_of_opens_move env _ hMem hOpens
      | _ => cases hMem
  | setAPN apn => cases hMem
  | setBearer bearer => cases hMem

end Roster

namespace Nifs

/-
  What a client of the machine of a field is told: with a
  refusal or a grant, an ATL client what the field was
  opened with last, under the type that its request asks
  for. A handle of the data services is granted without an
  access point, by its own machine only.
-/
def Tells
    (f : NifField)
    (last : Option (CString × AGpsBearerType))
    (isSucc : Int)
    (apn : Option CString)
    (bearer : AGpsBearerType)
    (type : AGpsExtType) : Subscriber → Prop
| .atl _ mBackwardCompatibleMode _ =>
    apn = (last.map fun o => o.1.take maxApnLen) ∧
      bearer =
        (last.map Prod.snd).getD agpsApnBearerInvalid ∧
      type =
        if mBackwardCompatibleMode then agpsTypeInvalid
        else f.type
| .ds _ _ =>
    f = .ds_nif ∧ isSucc = 1 ∧ apn = none ∧
      bearer = agpsApnBearerInvalid ∧
      type = agpsTypeInvalid
| _ => False

/-
  An answer to an open request that a machine gives during a
  call: it is for a client of its list or for the caller.
-/
structure Carries
    (f : NifField)
    (last : Option (CString × AGpsBearerType))
    (sm : AgpsStateMachine)
    (c : Call)
    (id : Handle)
    (isSucc : Int)
    (apn : Option CString)
    (bearer : AGpsBearerType)
    (type : AGpsExtType) : Prop where
  succ : isSucc = 0 ∨ isSucc = 1
  client :
    ∃ s, (s ∈ sm.mSubscribers ∨ c = .subscribeRsrc s) ∧
      s.ID = id ∧ Tells f last isSucc apn bearer type s
  opened :
    isSucc = 1 → f ≠ .ds_nif → last.isSome = true

variable {f : NifField}
variable {last : Option (CString × AGpsBearerType)}
variable {sm : AgpsStateMachine}
variable {c : Call}
variable {id : Handle}
variable {isSucc : Int}
variable {apn : Option CString}
variable {bearer : AGpsBearerType}
variable {type : AGpsExtType}

/- What a client that is told of it answers. -/
theorem tells_notice
    {s : Subscriber}
    (hType : sm.mType = f.type)
    (hAPN :
      sm.mAPN = last.map fun o => o.1.take maxApnLen)
    (hBearer :
      sm.mBearer =
        (last.map Prod.snd).getD agpsApnBearerInvalid)
    (hDS : s.isDS = true → f = .ds_nif)
    {addressee : Addressee}
    {st : AgpsRsrcStatus}
    (hMem :
      .atlOpenStatus id isSucc apn bearer type ∈
        s.notice addressee sm st) :
    (isSucc = 0 ∨ isSucc = 1) ∧ s.ID = id ∧
      Tells f last isSucc apn bearer type s := by
  rcases List.mem_cons.mp hMem with hFalse | hAnswer
  · cases hFalse
  · cases s with
    | bit ipv4 ipv6 =>
        cases st <;> simp [Subscriber.answer] at hAnswer
    | wifi ssid password senderId inactive tail =>
        cases st <;> simp [Subscriber.answer] at hAnswer
    | atl id' mode tail =>
        cases st <;>
          simp only [Subscriber.answer, List.mem_singleton,
            List.not_mem_nil, reduceCtorEq] at hAnswer
        · cases hAnswer
          exact
            ⟨Or.inr rfl, rfl, hAPN, hBearer, by rw [hType]⟩
        · cases hAnswer
          exact
            ⟨Or.inl rfl, rfl, hAPN, hBearer, by rw [hType]⟩
    | ds id' inactive =>
        cases st <;>
          simp only [Subscriber.answer, List.mem_singleton,
            List.not_mem_nil, reduceCtorEq] at hAnswer
        cases hAnswer
        exact
          ⟨Or.inr rfl, rfl, hDS rfl, rfl, rfl, rfl, rfl⟩

theorem carries_call
    (env : DataCall)
    (hSettings :
      (sm.call env c).1.settings = sm.settings)
    (hKeeps : Keeps f last (sm.call env c).1)
    (hNoDS :
      ∀ s, s.isDS = true →
        (s ∈ sm.mSubscribers ∨ c = .subscribeRsrc s) →
          f = .ds_nif)
    (hMem :
      .atlOpenStatus id isSucc apn bearer type ∈
        (sm.call env c).2) :
    Carries f last sm c id isSucc apn bearer type := by
  have hType : sm.mType = f.type :=
    (congrArg Settings.mType hSettings).symm.trans
      hKeeps.type
  have hAPN :
      sm.mAPN = last.map fun o => o.1.take maxApnLen :=
    (congrArg Settings.mAPN hSettings).symm.trans
      hKeeps.apn
  have hBearer :
      sm.mBearer =
        (last.map Prod.snd).getD agpsApnBearerInvalid :=
    (congrArg Settings.mBearer hSettings).symm.trans
      hKeeps.bearer
  have hOpened :
      isSucc = 1 → f ≠ .ds_nif → last.isSome = true := by
    intro hSucc hPlain
    apply hKeeps.acquired hPlain
    rw [AgpsStateMachine.call_eq] at hMem ⊢
    exact Roster.acquired_of_opens env c hMem hSucc
  rw [AgpsStateMachine.call_eq] at hMem
  cases Roster.emitted_respond sm env c _ hMem with
  | notice s addressee st hWho hNotice =>
      rcases
          tells_notice hType hAPN hBearer
            (fun hDS => hNoDS s hDS hWho) hNotice with
        ⟨hSucc, hID, hTells⟩
      exact ⟨hSucc, ⟨s, hWho, hID, hTells⟩, hOpened⟩
  | dataCall hClass hOf => cases hOf

/-
  Every answer that the modem gets to a request for a
  connection, in any run of the engine and whatever becomes
  of the modem meanwhile. If a machine is called, the answer
  is for a client of that machine, and it carries the access
  point and the bearer that the framework gave the machine
  last, cut to the length that it keeps. A machine of the
  framework never grants what was not opened. If there is no
  machine to call, the answer refuses the client of the call
  and names nothing.
-/
theorem answers_carry_last_open
    (abi : DmnConn.Abi)
    (is : List Input)
    (i : Input)
    (id : Handle)
    (isSucc : Int)
    (apn : Option CString)
    (bearer : AGpsBearerType)
    (type : AGpsExtType)
    (hMem :
      .atlOpenStatus id isSucc apn bearer type ∈
        (step abi ((engine abi).run is) i).2) :
    match called abi ((engine abi).run is) i with
    | some (f, sm, c) =>
        Carries f
          (lastOpened f ((engine abi).history (is ++ [i])))
          sm c id isSucc apn bearer type
    | none =>
        isSucc = 0 ∧ apn = none ∧
          bearer = agpsApnBearerInvalid ∧
          ∃ g c s,
            goesTo abi ((engine abi).run is) i =
                some (g, c) ∧
              clientOf c = some s ∧ s.ID = id := by
  have hInv := inv_run abi is
  have hKeep := keeps_run abi (is ++ [i])
  rw [Transducer.run_concat] at hKeep
  have hAdmits
      {g : NifField}
      {sm : AgpsStateMachine}
      (hSm : ((engine abi).run is).nif g = some sm)
      (s : Subscriber)
      (hDS : s.isDS = true)
      (hOn : s ∈ sm.mSubscribers) :
      g = .ds_nif := by
    have hAdmit := (hInv g sm hSm).admits s hOn
    cases s with
    | ds id' inactive => cases g <;> first | rfl | cases hAdmit
    | _ => cases hDS
  cases turned_step abi ((engine abi).run is) i with
  | called g sm env c hSm hGoes hUnopened hClient hOpened
      hMade hNif hOut =>
      rw [hOut] at hMem
      simp only [called, hGoes, hSm, Option.map_some]
      refine carries_call env ?_ ?_ ?_ hMem
      · have hSettings := Roster.settings_respond sm env c
        rw [settings_unopened hUnopened,
          ← AgpsStateMachine.call_eq] at hSettings
        exact hSettings
      · apply hKeep g
        have hAfter := hNif g
        rw [if_pos rfl] at hAfter
        exact hAfter
      · rintro s hDS (hOn | rfl)
        · exact hAdmits hSm s hDS hOn
        · cases s with
          | ds id' inactive => exact hClient
          | _ => cases hDS
  | opened g sm env name bearerType hSm hGoes hOpened hMade
      hNif hOut =>
      rw [hOut] at hMem
      simp only [called, hGoes, hSm, Option.map_some]
      have hCarries :
          Carries g
            (lastOpened g
              ((engine abi).history (is ++ [i])))
            (given sm name bearerType)
            (.onRsrcEvent .granted) id isSucc apn bearer
            type := by
        refine carries_call env ?_ ?_ ?_ hMem
        · rw [AgpsStateMachine.call_eq]
          exact Roster.settings_respond _ env _
        · apply hKeep g
          have hAfter := hNif g
          rw [if_pos rfl] at hAfter
          exact hAfter
        · rintro s hDS (hOn | hCall)
          · exact hAdmits hSm s hDS hOn
          · cases hCall
      exact ⟨hCarries.succ, hCarries.client, hCarries.opened⟩
  | alone hAbsent hOpened hMade hNif hOut =>
      have hNone :
          called abi ((engine abi).run is) i = none := by
        unfold called
        cases hGoes : goesTo abi ((engine abi).run is) i with
        | none => rfl
        | some target =>
            rcases target with ⟨g, c⟩
            simp [hAbsent g c hGoes]
      rw [hNone]
      rcases hOut _ hMem with
        ⟨hSucc, hApn, hBearer, g, c, s, hGoes, hClient, -,
          hID⟩
      exact
        ⟨hSucc, hApn, hBearer, g, c, s, hGoes, hClient, hID⟩
  | made hNowhere hOpened hNif hOut =>
      rw [hOut] at hMem
      cases hMem
  | restarted hInput hStep =>
      rw [hStep] at hMem
      cases hMem

/- A handle waits for AGNSS to get its connection. -/
def waitingRun : List Input :=
  [.agpsInit true true true,
    .requestATL 7 agpsTypeSupl (Vector.replicate 16 0)
      noDataCall]

theorem answers_carry_last_open_waiting :
    match
      called .ilp32 ((engine .ilp32).run waitingRun)
        (.agpsOpen agpsTypeSupl (some [105]) 1 noDataCall)
    with
    | some (f, sm, c) =>
        Carries f
          (lastOpened f
            ((engine .ilp32).history
              (waitingRun ++
                [.agpsOpen agpsTypeSupl (some [105]) 1
                  noDataCall])))
          sm c 7 1 (some [105]) 1 agpsTypeSupl
    | none => False :=
  answers_carry_last_open .ilp32 waitingRun
    (.agpsOpen agpsTypeSupl (some [105]) 1 noDataCall)
    7 1 (some [105]) 1 agpsTypeSupl
    (List.mem_cons_of_mem _ (List.mem_singleton.mpr rfl))

end Nifs

end Agps

end D2Common
