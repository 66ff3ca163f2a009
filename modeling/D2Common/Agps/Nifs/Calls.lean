import D2Common.Agps.Nifs.Members

/-
  Which machine an input goes to.

  Every input calls one machine at most. The file names it,
  with the call, and proves what becomes of the machines and
  what is emitted in each case.

  Key definitions include:
    * `Nifs.goesTo`
    * `Nifs.called`
    * `Nifs.Turned`

  Key theorems include:
    * `Nifs.turned_step`
-/

------------------------------------------------------------
-- Calls
------------------------------------------------------------

namespace D2Common

namespace Agps

namespace Nifs

/- What a message of the daemon asks, and which machine. -/
def goesToByProc
    (tail : IPv6Addr) : DmnConn.LocMsg → NifField × Call
| .reqRelBIT mType mIPv4Addr mIPv6Addr mIsReq =>
    (nifOfType mType,
      reqRel mIsReq
        (Client.bit mIPv4Addr mIPv6Addr).subscriber)
| .reqRelWifi _ mSenderId mSSID mPassword mIsReq =>
    (.wifi_nif,
      reqRel mIsReq
        (Client.wifi (some mSSID) (some mPassword) mSenderId
          tail).subscriber)

def goesToByServed
    (tail : IPv6Addr)
    (outcome : DmnConn.Outcome Unit) :
    Option (NifField × Call) :=
  match outcome.sent with
  | (_, msg) :: _ => some (goesToByProc tail msg)
  | [] => none

/- A release goes to the first machine that finds a record. -/
def goesToByReleaseATL
    (e : Nifs)
    (mID : Handle)
    (tail₁ tail₂ : IPv6Addr) : Option (NifField × Call) :=
  match
    LocEng.unsubscribed e.agnss_nif
      (.atl mID false tail₁) with
  | some _ =>
      some (.agnss_nif,
        .unsubscribeRsrc (.atl mID false tail₁))
  | none =>
      match
        LocEng.unsubscribed e.internet_nif
          (.atl mID false tail₂) with
      | some _ =>
          some (.internet_nif,
            .unsubscribeRsrc (.atl mID false tail₂))
      | none =>
          match
            LocEng.unsubscribed e.ds_nif
              (.ds mID false) with
          | some _ =>
              some (.ds_nif, .unsubscribeRsrc (.ds mID false))
          | none => none

/-
  The machine that an input is for, whether it is there or
  not, with the call that it gets.
-/
def goesTo
    (abi : DmnConn.Abi)
    (e : Nifs) : Input → Option (NifField × Call)
| .requestATL mID mType tail _ =>
    some (nifOfType mType,
      .subscribeRsrc
        (.atl mID (agpsTypeInvalid == mType) tail))
| .queuedATL tail =>
    e.atlQueue.head?.map fun mID =>
      (.agnss_nif, .subscribeRsrc (.atl mID false tail))
| .releaseATL mID tail₁ tail₂ =>
    goesToByReleaseATL e mID tail₁ tail₂
| .requestSuplEs mID _ =>
    some (.ds_nif, .subscribeRsrc (.ds mID false))
| .queuedRequest _ =>
    e.retryQueue.head?.map fun mID =>
      (.ds_nif, .subscribeRsrc (.ds mID false))
| .suplEsOpened => some (.ds_nif, .onRsrcEvent .granted)
| .suplEsClosed _ => some (.ds_nif, .onRsrcEvent .released)
| .ifRequest pmsg len tail =>
    goesToByServed tail
      (DmnConn.ifRequestHandler abi e.loc_api_handle pmsg
        len)
| .ifRelease pmsg len tail =>
    goesToByServed tail
      (DmnConn.ifReleaseHandler abi e.loc_api_handle pmsg
        len)
| .agpsOpen agpsType apn _ _ =>
    if e.agps_status_cb && apn.isSome then
      some (nifOfType agpsType, .onRsrcEvent .granted)
    else none
| .agpsClosed agpsType _ =>
    if e.agps_status_cb then
      some (nifOfType agpsType, .onRsrcEvent .released)
    else none
| .agpsOpenFailed agpsType _ =>
    if e.agps_status_cb then
      some (nifOfType agpsType, .onRsrcEvent .denied)
    else none
| _ => none

/- The machine that is called, if it is there. -/
def called
    (abi : DmnConn.Abi)
    (e : Nifs)
    (i : Input) :
    Option (NifField × AgpsStateMachine × Call) :=
  match goesTo abi e i with
  | some (g, c) => (e.nif g).map fun sm => (g, sm, c)
  | none => none

/- Whom a call subscribes or unsubscribes. -/
def clientOf : Call → Option Subscriber
| .subscribeRsrc s => some s
| .unsubscribeRsrc s => some s
| _ => none

/-
  What is emitted without a machine: a refusal of the client
  that the input is about, a release that fails, the retry
  of a timer, or what no answer is.
-/
def Lone
    (abi : DmnConn.Abi)
    (e : Nifs)
    (i : Input) : Emission → Prop
| .atlOpenStatus id isSucc apn bearer _ =>
    isSucc = 0 ∧ apn = none ∧
      bearer = agpsApnBearerInvalid ∧
        ∃ g c s, goesTo abi e i = some (g, c) ∧
          clientOf c = some s ∧ s.isBit = false ∧ s.ID = id
| .requestSuplES id =>
    ∃ sm s, e.ds_nif = some sm ∧
      sm.findSubscriber (.ofGroup .broadcastActive) =
        some s ∧ s.ID = id
| .atlCloseStatus _ isSucc => isSucc = 0
| .requestATL _ _ => False
| .dataConn _ _ => False
| .requestRsrc _ => False
| _ => True

end Nifs

end Agps

end D2Common

------------------------------------------------------------
-- What An Input Makes Of The Machines
------------------------------------------------------------

namespace D2Common

namespace Agps

namespace Nifs

/- Whether an input makes the machine of a field anew. -/
def constructs
    (f : NifField)
    (e : Nifs)
    (i : Input) : Bool :=
  makes f e i ||
    match f, i with
    | .ds_nif, .dataClientInit result =>
        e.dataClientInits != 0 && result == 0
    | _, _ => false

/- The name and the bearer of an open that is accepted. -/
def openedBy
    (f : NifField)
    (e : Nifs) : Input → Option (CString × AGpsBearerType)
| .agpsOpen agpsType (some apn) bearerType _ =>
    if e.agps_status_cb && nifOfType agpsType == f &&
        (e.nif f).isSome then
      some (apn, bearerType)
    else none
| _ => none

/- The calls that come without a connection. -/
def Unopened
    (g : NifField) : Call → Prop
| .setAPN _ => False
| .setBearer _ => False
| .onRsrcEvent .granted => g = .ds_nif
| _ => True

/- A message of the daemon. -/
def Input.ofDaemon : Input → Bool
| .ifRequest .. => true
| .ifRelease .. => true
| _ => false

/-
  Whose subscribe it can be: handles of the data services
  come to their own machine, and only a message of the
  daemon brings its clients.
-/
def Comes
    (i : Input)
    (g : NifField) : Call → Prop
| .subscribeRsrc (.ds _ _) => g = .ds_nif
| .subscribeRsrc (.bit _ _) => i.ofDaemon = true
| .subscribeRsrc (.wifi _ _ _ _ _) => i.ofDaemon = true
| _ => True

/- A machine with what the framework gives it. -/
def given
    (sm : AgpsStateMachine)
    (apn : CString)
    (bearerType : AGpsBearerType) : AgpsStateMachine :=
  (sm.setBearer bearerType).setAPN
    (some (apn.take maxApnLen))

/-
  Which machine an input goes to, with what it makes of it:
  a call, a connection that is opened, nothing, machines
  that are made, or a restart.
-/
inductive Turned
    (abi : DmnConn.Abi)
    (e : Nifs)
    (i : Input)
    (r : Nifs × List Emission) : Prop
  | called
      (g : NifField)
      (sm : AgpsStateMachine)
      (env : DataCall)
      (c : Call)
      (hSm : e.nif g = some sm)
      (hGoes : goesTo abi e i = some (g, c))
      (hUnopened : Unopened g c)
      (hClient : Comes i g c)
      (hOpened : ∀ f, openedBy f e i = none)
      (hMade : ∀ f, constructs f e i = false)
      (hNif :
        ∀ f,
          r.1.nif f =
            if f = g then some (sm.call env c).1
            else e.nif f)
      (hOut : r.2 = (sm.call env c).2)
  | opened
      (g : NifField)
      (sm : AgpsStateMachine)
      (env : DataCall)
      (apn : CString)
      (bearerType : AGpsBearerType)
      (hSm : e.nif g = some sm)
      (hGoes :
        goesTo abi e i = some (g, .onRsrcEvent .granted))
      (hOpened :
        ∀ f,
          openedBy f e i =
            if f = g then some (apn, bearerType) else none)
      (hMade : ∀ f, constructs f e i = false)
      (hNif :
        ∀ f,
          r.1.nif f =
            if f = g then
              some
                ((given sm apn bearerType).call env
                  (.onRsrcEvent .granted)).1
            else e.nif f)
      (hOut :
        r.2 =
          ((given sm apn bearerType).call env
            (.onRsrcEvent .granted)).2)
  | alone
      (hAbsent :
        ∀ g c, goesTo abi e i = some (g, c) →
          e.nif g = none)
      (hOpened : ∀ f, openedBy f e i = none)
      (hMade : ∀ f, constructs f e i = false)
      (hNif : ∀ f, r.1.nif f = e.nif f)
      (hOut : ∀ em ∈ r.2, Lone abi e i em)
  | made
      (hNowhere : goesTo abi e i = none)
      (hOpened : ∀ f, openedBy f e i = none)
      (hNif :
        ∀ f,
          r.1.nif f =
            if constructs f e i then
              some
                (if f = .ds_nif then DSStateMachine.new
                else f.machine.init)
            else e.nif f)
      (hOut : r.2 = [])
  | restarted
      (hInput : i = .engineUp)
      (hStep : r = (e.handleEngineUp, []))

end Nifs

end Agps

end D2Common

------------------------------------------------------------
-- One Step
------------------------------------------------------------

namespace D2Common

namespace Agps

namespace Nifs

variable {abi : DmnConn.Abi}
variable {e : Nifs}
variable {i : Input}

/- A machine has returned from a call. -/
theorem turned_returnedTo
    (hOpened : ∀ f, openedBy f e i = none)
    (hMade : ∀ f, constructs f e i = false)
    {g : NifField}
    {sm : AgpsStateMachine}
    (hSm : e.nif g = some sm)
    (env : DataCall)
    {c : Call}
    (hGoes : goesTo abi e i = some (g, c))
    (hUnopened : Unopened g c)
    (hClient : Comes i g c) :
    Turned abi e i (e.returnedTo g (sm.call env c)) :=
  Turned.called g sm env c hSm hGoes hUnopened hClient
    hOpened hMade (fun f => nif_returnedTo e g f _)
    (snd_returnedTo e g _)

/- There is nothing to call, and nothing is emitted. -/
theorem turned_silent
    (hOpened : ∀ f, openedBy f e i = none)
    (hMade : ∀ f, constructs f e i = false)
    (hAbsent :
      ∀ g c, goesTo abi e i = some (g, c) →
        e.nif g = none) :
    Turned abi e i (e, []) :=
  Turned.alone hAbsent hOpened hMade (fun _ => rfl)
    (by simp)

/- The client of a machine that is not there is refused. -/
theorem turned_refused
    (hOpened : ∀ f, openedBy f e i = none)
    (hMade : ∀ f, constructs f e i = false)
    {g : NifField}
    (hNone : e.nif g = none)
    {c : Call}
    (hGoes : goesTo abi e i = some (g, c))
    {s : Subscriber}
    (hClient : clientOf c = some s)
    (hBit : s.isBit = false)
    {r : Nifs × List Emission}
    (hNif : ∀ f, r.1.nif f = e.nif f)
    (type : AGpsExtType)
    (hOut : r.2 = [.atlOpenStatus s.ID 0 none (-1) type]) :
    Turned abi e i r := by
  refine Turned.alone ?_ hOpened hMade hNif ?_
  · intro g' c' hGoes'
    rw [hGoes] at hGoes'
    cases hGoes'
    exact hNone
  · rw [hOut]
    intro em hMem
    rw [List.mem_singleton.mp hMem]
    exact
      ⟨rfl, rfl, rfl, g, c, s, hGoes, hClient, hBit, rfl⟩

theorem turned_releaseATL
    (mID : Handle)
    (tail₁ tail₂ : IPv6Addr)
    (hOpened : ∀ f, openedBy f e i = none)
    (hMade : ∀ f, constructs f e i = false)
    (hGoes :
      goesTo abi e i =
        goesToByReleaseATL e mID tail₁ tail₂) :
    Turned abi e i (e.releaseATL mID tail₁ tail₂) := by
  unfold goesToByReleaseATL at hGoes
  unfold releaseATL
  split
  · next r hLeft =>
      rcases call_of_unsubscribed hLeft with ⟨sm, hSm, rfl⟩
      rw [hLeft] at hGoes
      exact
        turned_returnedTo hOpened hMade (g := .agnss_nif)
          hSm noDataCall hGoes trivial trivial
  · next hNone =>
      rw [hNone] at hGoes
      split
      · next r hLeft =>
          rcases call_of_unsubscribed hLeft with
            ⟨sm, hSm, rfl⟩
          rw [hLeft] at hGoes
          exact
            turned_returnedTo hOpened hMade
              (g := .internet_nif) hSm noDataCall hGoes
              trivial trivial
      · next hNone =>
          rw [hNone] at hGoes
          split
          · next r hLeft =>
              rcases call_of_unsubscribed hLeft with
                ⟨sm, hSm, rfl⟩
              rw [hLeft] at hGoes
              exact
                turned_returnedTo hOpened hMade
                  (g := .ds_nif) hSm noDataCall hGoes
                  trivial trivial
          · next hNone =>
              rw [hNone] at hGoes
              refine
                Turned.alone ?_ hOpened hMade
                  (fun _ => rfl) ?_
              · intro g c hSome
                rw [hGoes] at hSome
                cases hSome
              · intro em hMem
                rw [List.mem_singleton.mp hMem]
                rfl

theorem turned_requestATL
    (mID : Handle)
    (mType : AGpsExtType)
    (tail : IPv6Addr)
    (env : DataCall)
    (hOpened : ∀ f, openedBy f e i = none)
    (hMade : ∀ f, constructs f e i = false)
    (fewer : Nifs)
    (hFewer : ∀ f, fewer.nif f = e.nif f)
    (hGoes :
      goesTo abi e i =
        some (nifOfType mType,
          .subscribeRsrc
            (.atl mID (agpsTypeInvalid == mType) tail))) :
    Turned abi e i
      (fewer.requestATL mID mType tail env) := by
  simp only [requestATL, getAgpsStateMachine, hFewer]
  cases hNif : e.nif (nifOfType mType) with
  | none =>
      exact
        turned_refused hOpened hMade hNif hGoes rfl rfl
          hFewer mType rfl
  | some sm =>
      refine
        Turned.called (nifOfType mType) sm env _ hNif hGoes
          trivial trivial hOpened hMade ?_
          (snd_returnedTo fewer _ _)
      intro f
      rw [nif_returnedTo, hFewer]

theorem turned_requestSuplEs
    (mID : Handle)
    (env : DataCall)
    (hOpened : ∀ f, openedBy f e i = none)
    (hMade : ∀ f, constructs f e i = false)
    (fewer : Nifs)
    (hFewer : ∀ f, fewer.nif f = e.nif f)
    (hGoes :
      goesTo abi e i =
        some (.ds_nif, .subscribeRsrc (.ds mID false))) :
    Turned abi e i
      (fewer.ofLocEng
        (fewer.toLocEng.requestSuplEs mID env)) := by
  have hField : fewer.ds_nif = e.ds_nif := hFewer .ds_nif
  simp only [LocEng.requestSuplEs, hField]
  cases hNif : e.ds_nif with
  | none =>
      exact
        turned_refused hOpened hMade (g := .ds_nif) hNif
          hGoes rfl rfl hFewer (-1) rfl
  | some sm =>
      refine
        Turned.called .ds_nif sm env _ hNif hGoes trivial
          rfl hOpened hMade ?_ rfl
      intro f
      change
        (fewer.returnedTo .ds_nif (sm.call env _)).1.nif f = _
      rw [nif_returnedTo, hFewer]

theorem turned_timerFires
    (hOpened : ∀ f, openedBy f e i = none)
    (hMade : ∀ f, constructs f e i = false)
    (hNowhere : goesTo abi e i = none) :
    Turned abi e i (e.ofLocEng e.toLocEng.timerFires) := by
  have hAbsent
      (g : NifField)
      (c : Call)
      (hSome : goesTo abi e i = some (g, c)) :
      e.nif g = none := by
    rw [hNowhere] at hSome
    cases hSome
  unfold LocEng.timerFires
  split
  · next timers sm hTimers hNif =>
      refine Turned.alone hAbsent hOpened hMade ?_ ?_
      · intro f
        cases f with
        | ds_nif =>
            simp only [ofLocEng, LocEng.returned, nif,
              retryCallback_sm]
            exact hNif.symm
        | _ => rfl
      · intro em hMem
        simp only [ofLocEng, LocEng.returned,
          DSStateMachine.retryCallback] at hMem
        split at hMem
        · next s hFound =>
            simp only [Exec.emit, List.nil_append,
              List.mem_singleton] at hMem
            rw [hMem]
            exact ⟨sm, s, hNif, hFound, rfl⟩
        · simp at hMem
  · exact turned_silent hOpened hMade hAbsent

theorem turned_proc
    (hDaemon : i.ofDaemon = true)
    (tail : IPv6Addr)
    (msg : DmnConn.LocMsg)
    (hOpened : ∀ f, openedBy f e i = none)
    (hMade : ∀ f, constructs f e i = false)
    (hGoes :
      goesTo abi e i = some (goesToByProc tail msg)) :
    Turned abi e i (e.proc tail msg) := by
  have hUnopened
      (g : NifField)
      (isReq : Bool)
      (s : Subscriber) :
      Unopened g (reqRel isReq s) := by
    cases isReq <;> trivial
  have hClient
      (g : NifField)
      (isReq : Bool)
      (c : Client) :
      Comes i g (reqRel isReq c.subscriber) := by
    cases isReq with
    | true => cases c <;> first | exact hDaemon | trivial
    | false => trivial
  cases msg with
  | reqRelBIT mType ipv4 ipv6 isReq =>
      simp only [proc, call]
      cases hNif : e.nif (nifOfType mType) with
      | none =>
          refine turned_silent hOpened hMade ?_
          intro g c hSome
          rw [hGoes] at hSome
          cases hSome
          exact hNif
      | some sm =>
          exact
            turned_returnedTo hOpened hMade hNif noDataCall
              hGoes (hUnopened _ isReq _)
              (hClient _ isReq (.bit ipv4 ipv6))
  | reqRelWifi mType senderId ssid password isReq =>
      simp only [proc]
      cases hNif : e.wifi_nif with
      | none =>
          exact
            turned_refused hOpened hMade (g := .wifi_nif)
              hNif hGoes (by cases isReq <;> rfl) rfl
              (fun _ => rfl) mType rfl
      | some sm =>
          exact
            turned_returnedTo hOpened hMade
              (g := .wifi_nif) hNif noDataCall hGoes
              (hUnopened _ isReq _)
              (hClient _ isReq
                (.wifi (some ssid) (some password) senderId
                  tail))

theorem turned_served
    (hDaemon : i.ofDaemon = true)
    (tail : IPv6Addr)
    (outcome : DmnConn.Outcome Unit)
    (hOpened : ∀ f, openedBy f e i = none)
    (hMade : ∀ f, constructs f e i = false)
    (hGoes :
      goesTo abi e i = goesToByServed tail outcome) :
    Turned abi e i (e.served tail outcome) := by
  unfold goesToByServed at hGoes
  unfold served
  split
  · next hSent =>
      rw [hSent] at hGoes
      exact turned_proc hDaemon tail _ hOpened hMade hGoes
  · next hSent =>
      rw [hSent] at hGoes
      refine turned_silent hOpened hMade ?_
      intro g c hSome
      rw [hGoes] at hSome
      cases hSome

theorem turned_agpsEvent
    (agpsType : AGpsExtType)
    {event : AgpsRsrcStatus}
    (hEvent : event ≠ .granted)
    (env : DataCall)
    (hOpened : ∀ f, openedBy f e i = none)
    (hMade : ∀ f, constructs f e i = false)
    (hGoes :
      goesTo abi e i =
        if e.agps_status_cb then
          some (nifOfType agpsType, .onRsrcEvent event)
        else none) :
    Turned abi e i (e.agpsEvent agpsType event env) := by
  unfold agpsEvent
  split
  · next hCallback =>
      rw [if_pos hCallback] at hGoes
      unfold call
      cases hNif : e.nif (nifOfType agpsType) with
      | none =>
          refine turned_silent hOpened hMade ?_
          intro g c hSome
          rw [hGoes] at hSome
          cases hSome
          exact hNif
      | some sm =>
          refine
            turned_returnedTo hOpened hMade hNif env hGoes ?_
              trivial
          cases event <;> trivial
  · next hCallback =>
      rw [if_neg hCallback] at hGoes
      refine turned_silent hOpened hMade ?_
      intro g c hSome
      rw [hGoes] at hSome
      cases hSome

theorem turned_agpsOpen
    (agpsType : AGpsExtType)
    (apn : Option CString)
    (bearerType : AGpsBearerType)
    (env : DataCall) :
    Turned abi e (.agpsOpen agpsType apn bearerType env)
      (e.agpsOpen agpsType apn bearerType env) := by
  have hMade :
      ∀ f,
        constructs f e
          (.agpsOpen agpsType apn bearerType env) = false :=
    fun f => by cases f <;> rfl
  unfold agpsOpen getAgpsStateMachine
  cases apn with
  | none =>
      refine turned_silent (fun _ => rfl) hMade ?_
      simp [goesTo]
  | some apn =>
      cases hNif : e.nif (nifOfType agpsType) with
      | none =>
          refine turned_silent (fun f => ?_) hMade ?_
          · simp only [openedBy]
            rw [if_neg]
            rintro hAll
            simp only [Bool.and_eq_true, beq_iff_eq] at hAll
            rw [← hAll.1.2, hNif] at hAll
            simp at hAll
          · intro g c hSome
            simp only [goesTo] at hSome
            split at hSome
            · cases hSome
              exact hNif
            · cases hSome
      | some sm =>
          cases hCallback : e.agps_status_cb with
          | false =>
              refine turned_silent (fun f => ?_) hMade ?_
              · simp [openedBy, hCallback]
              · simp [goesTo, hCallback]
          | true =>
              refine
                Turned.opened (nifOfType agpsType) sm env
                  apn bearerType hNif
                  (by simp [goesTo, hCallback]) ?_ hMade
                  (fun f => nif_returnedTo e _ f _)
                  (snd_returnedTo e _ _)
              intro f
              by_cases hSame : f = nifOfType agpsType
              · subst hSame
                simp [openedBy, hCallback, hNif]
              · rw [if_neg hSame]
                simp only [openedBy]
                rw [if_neg]
                intro hAll
                simp only [Bool.and_eq_true,
                  beq_iff_eq] at hAll
                exact hSame hAll.1.2.symm

theorem turned_agpsInit
    (statusCb hasAgnss supports : Bool) :
    Turned abi e (.agpsInit statusCb hasAgnss supports)
      (e.agpsInit statusCb hasAgnss supports, []) := by
  refine Turned.made rfl (fun _ => rfl) ?_ rfl
  intro f
  unfold agpsInit constructs makes
  cases hCallback : e.agps_status_cb with
  | true => cases f <;> simp
  | false =>
      cases f with
      | ds_nif => rfl
      | agnss_nif => cases hasAgnss <;> rfl
      | internet_nif => rfl
      | wifi_nif => rfl

theorem turned_dataClientInit
    (result : Int) :
    Turned abi e (.dataClientInit result)
      (e.dataClientInit result, []) := by
  refine Turned.made rfl (fun _ => rfl) ?_ rfl
  intro f
  unfold dataClientInit constructs makes
  cases hWaiting : e.dataClientInits with
  | zero => cases f <;> simp
  | succ n =>
      cases f with
      | ds_nif =>
          by_cases hResult : result = 0
          · subst hResult
            rfl
          · simp [nif, hResult]
      | agnss_nif => rfl
      | internet_nif => rfl
      | wifi_nif => rfl

/- An event of the data services. -/
theorem turned_suplEs
    (event : AgpsRsrcStatus)
    (hUnopened : Unopened .ds_nif (.onRsrcEvent event))
    (env : DataCall)
    (hOpened : ∀ f, openedBy f e i = none)
    (hMade : ∀ f, constructs f e i = false)
    (hGoes :
      goesTo abi e i = some (.ds_nif, .onRsrcEvent event)) :
    Turned abi e i
      (e.call .ds_nif env (.onRsrcEvent event)) := by
  unfold call
  cases hNif : e.nif .ds_nif with
  | none =>
      refine turned_silent hOpened hMade ?_
      intro g c hSome
      rw [hGoes] at hSome
      cases hSome
      exact hNif
  | some sm =>
      exact
        turned_returnedTo hOpened hMade hNif env hGoes
          hUnopened trivial

theorem turned_step
    (abi : DmnConn.Abi)
    (e : Nifs)
    (i : Input) :
    Turned abi e i (step abi e i) := by
  cases i with
  | agpsInit statusCb hasAgnss supports =>
      exact turned_agpsInit statusCb hasAgnss supports
  | dataClientInit result =>
      exact turned_dataClientInit result
  | agpsOpen agpsType apn bearerType env =>
      exact turned_agpsOpen agpsType apn bearerType env
  | engineUp => exact Turned.restarted rfl rfl
  | requestATL mID mType tail env =>
      exact
        turned_requestATL mID mType tail env (fun _ => rfl)
          (fun f => by cases f <;> rfl) e (fun _ => rfl) rfl
  | releaseATL mID tail₁ tail₂ =>
      exact
        turned_releaseATL mID tail₁ tail₂ (fun _ => rfl)
          (fun f => by cases f <;> rfl) rfl
  | requestSuplEs mID env =>
      exact
        turned_requestSuplEs mID env (fun _ => rfl)
          (fun f => by cases f <;> rfl) e (fun _ => rfl) rfl
  | suplEsOpened =>
      have hStep :
          e.ofLocEng e.toLocEng.suplEsOpened =
            e.call .ds_nif noDataCall
              (.onRsrcEvent .granted) := by
        cases hNif : e.ds_nif <;>
          simp only [LocEng.suplEsOpened, call, nif, hNif] <;>
          rfl
      simp only [step, hStep]
      exact
        turned_suplEs .granted rfl noDataCall (fun _ => rfl)
          (fun f => by cases f <;> rfl) rfl
  | suplEsClosed env =>
      have hStep :
          e.ofLocEng (e.toLocEng.suplEsClosed env) =
            e.call .ds_nif env (.onRsrcEvent .released) := by
        cases hNif : e.ds_nif <;>
          simp only [LocEng.suplEsClosed, call, nif, hNif] <;>
          rfl
      simp only [step, hStep]
      exact
        turned_suplEs .released trivial env (fun _ => rfl)
          (fun f => by cases f <;> rfl) rfl
  | timerFires =>
      exact
        turned_timerFires (fun _ => rfl)
          (fun f => by cases f <;> rfl) rfl
  | queuedRequest env =>
      simp only [step, LocEng.queuedRequest]
      cases hQueue : e.retryQueue with
      | nil =>
          exact
            turned_silent (fun _ => rfl)
              (fun f => by cases f <;> rfl)
              (by simp [goesTo, hQueue])
      | cons mID rest =>
          exact
            turned_requestSuplEs mID env (fun _ => rfl)
              (fun f => by cases f <;> rfl)
              { e with
                toLocEng :=
                  { e.toLocEng with retryQueue := rest } }
              (fun f => by cases f <;> rfl)
              (by simp [goesTo, hQueue])
  | queuedATL tail =>
      simp only [step, queuedATL]
      cases hQueue : e.atlQueue with
      | nil =>
          exact
            turned_silent (fun _ => rfl)
              (fun f => by cases f <;> rfl)
              (by simp [goesTo, hQueue])
      | cons mID rest =>
          exact
            turned_requestATL mID agpsTypeSupl tail
              noDataCall (fun _ => rfl)
              (fun f => by cases f <;> rfl)
              { e with
                toLocEng :=
                  { e.toLocEng with atlQueue := rest } }
              (fun f => by cases f <;> rfl)
              (by rw [goesTo, hQueue]; rfl)
  | ifRequest pmsg len tail =>
      exact
        turned_served rfl tail _ (fun _ => rfl)
          (fun f => by cases f <;> rfl) rfl
  | ifRelease pmsg len tail =>
      exact
        turned_served rfl tail _ (fun _ => rfl)
          (fun f => by cases f <;> rfl) rfl
  | agpsClosed agpsType env =>
      exact
        turned_agpsEvent agpsType (by decide) env
          (fun _ => rfl) (fun f => by cases f <;> rfl) rfl
  | agpsOpenFailed agpsType env =>
      exact
        turned_agpsEvent agpsType (by decide) env
          (fun _ => rfl) (fun f => by cases f <;> rfl) rfl

/- A restart leaves a machine, or empties its list. -/
theorem nif_handleEngineUp
    {f : NifField}
    {sm' : AgpsStateMachine}
    (hAfter : e.handleEngineUp.nif f = some sm') :
    ∃ sm, e.nif f = some sm ∧
      (sm' = sm ∨ sm' = sm.dropAllSubscribers) := by
  have hDrop
      (hMap :
        (e.nif f).map (·.dropAllSubscribers) = some sm') :
      ∃ sm, e.nif f = some sm ∧
        (sm' = sm ∨ sm' = sm.dropAllSubscribers) := by
    rcases Option.map_eq_some_iff.mp hMap with
      ⟨sm, hSm, rfl⟩
    exact ⟨sm, hSm, Or.inr rfl⟩
  unfold handleEngineUp Engine.handleEngineUp at hAfter
  cases f with
  | ds_nif => exact ⟨sm', hAfter, Or.inl rfl⟩
  | wifi_nif => exact ⟨sm', hAfter, Or.inl rfl⟩
  | agnss_nif =>
      split at hAfter
      · exact hDrop hAfter
      · exact ⟨sm', hAfter, Or.inl rfl⟩
  | internet_nif =>
      split at hAfter
      · exact hDrop hAfter
      · exact ⟨sm', hAfter, Or.inl rfl⟩

end Nifs

end Agps

end D2Common
