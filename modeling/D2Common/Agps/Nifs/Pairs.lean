import D2Common.Agps.Nifs.Releases

/-
  A request of the daemon and the release that follows it.

  The two handlers decode the same fields with a `switch`
  each. The file writes both out, and follows a request, the
  events that grant it and its release through the machine
  that they select.

  Key definitions include:
    * `DmnConn.ifRequestSwitch`
    * `DmnConn.ifReleaseSwitch`
    * `Nifs.Agree`
    * `Nifs.Completed`

  Key theorems include:
    * `DmnConn.ifRequestHandler_eq_switch`
    * `DmnConn.ifReleaseHandler_eq_switch`
    * `Nifs.release_follows_request`
-/

------------------------------------------------------------
-- Two Handlers
------------------------------------------------------------

namespace D2Common

namespace DmnConn

variable {η : Type}

/- The request handler, case by case. -/
def ifRequestSwitch
    (abi : Abi)
    (loc_api_handle : Option η)
    (pmsg : Mem) : Outcome η :=
  match loc_api_handle with
  | none => .returned 1 []
  | some locEng =>
      let type :=
        match numberAt pmsg abi.type 4 with
        | 0 => some Agps.agpsTypeSupl
        | 1 => some agpsTypeWifi
        | 2 => some agpsTypeAny
        | _ => none
      match type with
      | none => .returned (-1) []
      | some type =>
          match numberAt pmsg abi.senderId 4 with
          | 0 =>
              LocMsg.send (some locEng)
                (.reqRelWifi type .quipc
                  (strlcpyAt pmsg abi.ssid Agps.ssidBufSize)
                  (strlcpyAt pmsg abi.password
                    Agps.ssidBufSize)
                  true)
          | 1 =>
              LocMsg.send (some locEng)
                (.reqRelWifi type .msapm
                  (strlcpyAt pmsg abi.ssid Agps.ssidBufSize)
                  (strlcpyAt pmsg abi.password
                    Agps.ssidBufSize)
                  true)
          | 2 =>
              LocMsg.send (some locEng)
                (.reqRelWifi type .msapu
                  (strlcpyAt pmsg abi.ssid Agps.ssidBufSize)
                  (strlcpyAt pmsg abi.password
                    Agps.ssidBufSize)
                  true)
          | 3 =>
              LocMsg.send (some locEng)
                (.reqRelBIT type
                  (BitVec.ofNat 32
                    (numberAt pmsg abi.ipv4Addr abi.word))
                  (memcpy16 pmsg abi.ipv6Addr)
                  true)
          | _ => .returned (-1) []

/- The release handler, case by case. -/
def ifReleaseSwitch
    (abi : Abi)
    (loc_api_handle : Option η)
    (pmsg : Mem) : Outcome η :=
  let type :=
    match numberAt pmsg abi.type 4 with
    | 0 => some Agps.agpsTypeSupl
    | 1 => some agpsTypeWifi
    | 2 => some agpsTypeAny
    | _ => none
  match type with
  | none => .returned (-1) []
  | some type =>
      match numberAt pmsg abi.senderId 4 with
      | 0 =>
          LocMsg.send loc_api_handle
            (.reqRelWifi type .quipc
              (strlcpyAt pmsg abi.ssid Agps.ssidBufSize)
              (strlcpyAt pmsg abi.password Agps.ssidBufSize)
              false)
      | 1 =>
          LocMsg.send loc_api_handle
            (.reqRelWifi type .msapm
              (strlcpyAt pmsg abi.ssid Agps.ssidBufSize)
              (strlcpyAt pmsg abi.password Agps.ssidBufSize)
              false)
      | 2 =>
          LocMsg.send loc_api_handle
            (.reqRelWifi type .msapu
              (strlcpyAt pmsg abi.ssid Agps.ssidBufSize)
              (strlcpyAt pmsg abi.password Agps.ssidBufSize)
              false)
      | 3 =>
          LocMsg.send loc_api_handle
            (.reqRelBIT type
              (BitVec.ofNat 32
                (numberAt pmsg abi.ipv4Addr abi.word))
              (memcpy16 pmsg abi.ipv6Addr)
              false)
      | _ => .returned (-1) []

theorem ifRequestHandler_eq_switch
    (abi : Abi)
    (loc_api_handle : Option η)
    (pmsg : Mem)
    (len : Int) :
    ifRequestHandler abi loc_api_handle pmsg len =
      ifRequestSwitch abi loc_api_handle pmsg := by
  unfold ifRequestHandler ifRequestSwitch ifReqRel
  generalize numberAt pmsg abi.type 4 = type
  generalize numberAt pmsg abi.senderId 4 = sender
  cases loc_api_handle with
  | none => rfl
  | some locEng =>
      rcases type with _ | _ | _ | type <;>
        rcases sender with _ | _ | _ | _ | sender <;> rfl

theorem ifReleaseHandler_eq_switch
    (abi : Abi)
    (loc_api_handle : Option η)
    (pmsg : Mem)
    (len : Int) :
    ifReleaseHandler abi loc_api_handle pmsg len =
      ifReleaseSwitch abi loc_api_handle pmsg := by
  unfold ifReleaseHandler ifReleaseSwitch ifReqRel
  generalize numberAt pmsg abi.type 4 = type
  generalize numberAt pmsg abi.senderId 4 = sender
  rcases type with _ | _ | _ | type <;>
    rcases sender with _ | _ | _ | _ | sender <;> rfl

end DmnConn

end D2Common

------------------------------------------------------------
-- What Both Select
------------------------------------------------------------

namespace D2Common

namespace DmnConn

namespace LocMsg

/- The same message, as a request or as a release. -/
def withIsReq
    (isReq : Bool) : LocMsg → LocMsg
| .reqRelBIT mType mIPv4Addr mIPv6Addr _ =>
    .reqRelBIT mType mIPv4Addr mIPv6Addr isReq
| .reqRelWifi mType mSenderId mSSID mPassword _ =>
    .reqRelWifi mType mSenderId mSSID mPassword isReq

@[simp] theorem mIsReq_withIsReq
    (isReq : Bool)
    (msg : LocMsg) :
    (msg.withIsReq isReq).mIsReq = isReq := by
  cases msg <;> rfl

@[simp] theorem nif_withIsReq
    (isReq : Bool)
    (msg : LocMsg) :
    (msg.withIsReq isReq).nif = msg.nif := by
  cases msg <;> rfl

theorem identity_withIsReq
    (isReq : Bool)
    (msg : LocMsg)
    (tail tail' : Agps.IPv6Addr) :
    ((msg.withIsReq isReq).client tail).subscriber.identity =
      (msg.client tail').subscriber.identity := by
  cases msg <;> rfl

/- The client of a request is the client of its release. -/
theorem equals_withIsReq
    (isReq isReq' : Bool)
    (msg : LocMsg)
    (tail tail' : Agps.IPv6Addr) :
    ((msg.withIsReq isReq).client tail).subscriber.equals
      ((msg.withIsReq isReq').client tail').subscriber =
        true := by
  apply Agps.Subscriber.equals_of_identity_eq
  rw [msg.identity_withIsReq isReq tail tail,
    msg.identity_withIsReq isReq' tail' tail]

end LocMsg

/-
  A message either is turned away as a request and as a
  release, or is sent on as both.
-/
theorem ifReqRel_cases
    {η : Type}
    (abi : Abi)
    (locEng : η)
    (pmsg : Mem) :
    (∀ isReq,
        ifReqRel abi (some locEng) pmsg isReq =
          .returned (-1) []) ∨
      ∃ msg, ∀ isReq,
        ifReqRel abi (some locEng) pmsg isReq =
          .returned 0 [(locEng, LocMsg.withIsReq isReq msg)]
    := by
  unfold ifReqRel
  cases ifRequestType (numberAt pmsg abi.type 4) with
  | none => exact Or.inl fun _ => rfl
  | some type =>
      cases
        ifRequestSenderId (numberAt pmsg abi.senderId 4) with
      | none => exact Or.inl fun _ => rfl
      | some senderId =>
          right
          cases senderId with
          | gpsoneDaemon =>
              exact
                ⟨.reqRelBIT type
                    (BitVec.ofNat 32
                      (numberAt pmsg abi.ipv4Addr
                        abi.word))
                    (memcpy16 pmsg abi.ipv6Addr) true,
                  fun _ => rfl⟩
          | _ =>
              exact
                ⟨.reqRelWifi type _
                    (strlcpyAt pmsg abi.ssid
                      Agps.ssidBufSize)
                    (strlcpyAt pmsg abi.password
                      Agps.ssidBufSize)
                    true,
                  fun _ => rfl⟩

end DmnConn

end D2Common

------------------------------------------------------------
-- One Client From Request to Release
------------------------------------------------------------

namespace D2Common

namespace Agps

/- The framework is told to take an action. -/
def Emission.asks
    (action : AGpsStatusValue) : Emission → Bool
| .requestRsrc nifRequest => nifRequest.status == action
| _ => false

/- How often the framework is told to take an action. -/
def requests
    (action : AGpsStatusValue)
    (out : List Emission) : Nat :=
  out.countP (Emission.asks action)

@[simp] theorem requests_append
    (action : AGpsStatusValue)
    (out out' : List Emission) :
    requests action (out ++ out') =
      requests action out + requests action out' := by
  simp [requests]

/- Telling a list never makes a request. -/
theorem requests_notices
    (action : AGpsStatusValue)
    (sm : AgpsStateMachine)
    (st : AgpsRsrcStatus)
    (l : List Subscriber) :
    requests action (notices sm st l) = 0 := by
  induction l with
  | nil => rfl
  | cons s l ih =>
      rw [notices_cons, requests_append, ih]
      cases st <;> cases s <;> rfl

/- One record, and a connection that is held for it. -/
structure HeldBy
    (c : Subscriber)
    (sm : AgpsStateMachine) : Prop where
  plain : sm.mRetries = none
  list : sm.mSubscribers = [c]
  holds : sm.mStatePtr.Holds

namespace HeldBy

variable {c : Subscriber}
variable {sm : AgpsStateMachine}

/- The first request of an idle machine. -/
theorem subscribe
    (client : Client)
    (hPlain : sm.mRetries = none)
    (hState : sm.mStatePtr = .released)
    (hNil : sm.mSubscribers = []) :
    let r :=
      sm.call noDataCall
        (.subscribeRsrc client.subscriber)
    HeldBy client.subscriber r.1 ∧
      requests .requestAgpsDataConn r.2 = 1 ∧
        requests .releaseAgpsDataConn r.2 = 0 := by
  have hCall :
      sm.call noDataCall
          (.subscribeRsrc client.subscriber) =
        ({ sm with
            mStatePtr := .pending
            mSubscribers := [client.subscriber] },
          Plain.requestOut sm client.subscriber) := by
    rw [AgpsStateMachine.call_eq]
    simp [Roster.respond, Roster.subscribe,
      AgpsStateMachine.Refuses, hNil, Roster.move, hState,
      Roster.start, Roster.added, Roster.request, hPlain,
      Roster.plainRequestOut, Plain.requestOut]
  rw [hCall]
  exact ⟨⟨hPlain, rfl, Or.inl rfl⟩, rfl, rfl⟩

/- Being granted is no request, however often it happens. -/
theorem granted
    (hHeld : HeldBy c sm)
    (env : DataCall)
    (action : AGpsStatusValue) :
    let r := sm.call env (.onRsrcEvent .granted)
    HeldBy c r.1 ∧ requests action r.2 = 0 := by
  rw [AgpsStateMachine.call_eq]
  simp only [Roster.respond, Roster.move]
  rcases hHeld with ⟨hPlain, hList, hPending | hAcquired⟩
  · rw [hPending]
    exact ⟨⟨hPlain, hList, Or.inr rfl⟩,
      requests_notices action sm .granted _⟩
  · rw [hAcquired]
    exact ⟨⟨hPlain, hList, Or.inr hAcquired⟩, rfl⟩

/- The state in which a release leaves the machine. -/
def stateAfter (c : Subscriber) : AgpsState :=
  if c.waitForCloseComplete then .releasing else .released

/- The release of the only client lets the connection go. -/
theorem unsubscribe
    (hHeld : HeldBy c sm)
    {c' : Subscriber}
    (hEq : c.equals c' = true) :
    let r := sm.call noDataCall (.unsubscribeRsrc c')
    (∀ s ∈ r.1.mSubscribers, s.isInactive = true) ∧
      r.1.mStatePtr = stateAfter c ∧
        requests .requestAgpsDataConn r.2 = 0 ∧
          requests .releaseAgpsDataConn r.2 = 1 := by
  have hFind :
      sm.mSubscribers.find? (·.equals c') = some c := by
    simp [hHeld.list, hEq]
  have hMove :
      Roster.move sm noDataCall (.unsubscribe c) =
        Roster.depart sm c := by
    unfold Roster.move
    rcases hHeld.holds with hState | hState <;> rw [hState]
  have hInactive :
      (Roster.left c sm.mSubscribers).all
        (·.isInactive) = true := by
    rw [hHeld.list]
    unfold Roster.left
    by_cases hWaits : c.waitForCloseComplete = true
    · rw [if_pos hWaits]
      simp [Subscriber.isInactive_inactivated hWaits]
    · rw [if_neg hWaits]
      simp
  have hEmpty :
      (Roster.left c sm.mSubscribers).isEmpty =
        !c.waitForCloseComplete := by
    rw [hHeld.list]
    unfold Roster.left
    cases hWaits : c.waitForCloseComplete with
    | true => simp
    | false => simp
  have hLeave (action : AGpsStatusValue) :
      requests action (Roster.leaveOut sm c) = 0 := by
    unfold Roster.leaveOut
    split
    · split <;> rfl
    · exact requests_notices action sm .unsubscribe _
  have hRelease :
      Roster.releaseOut sm =
        [.sendRsrcRequest .releaseAgpsDataConn,
          .requestRsrc
            (nifRequest sm.mType .releaseAgpsDataConn
              none)] := by
    simp [Roster.releaseOut, hHeld.plain]
  rw [AgpsStateMachine.call_of_find noDataCall hFind,
    hMove]
  unfold Roster.depart
  simp only [if_pos hInactive, requests_append, hLeave,
    hRelease]
  refine ⟨List.all_eq_true.mp hInactive, ?_, rfl, rfl⟩
  rw [hEmpty]
  unfold stateAfter
  cases c.waitForCloseComplete <;> rfl

end HeldBy

end Agps

end D2Common

------------------------------------------------------------
-- A Request and Its Release in a Run
------------------------------------------------------------

namespace D2Common

namespace Agps

namespace Nifs

/-
  Both handlers turn a message away, or both send one for
  the same machine, for clients that equal each other.
-/
def Agree (req rel : DmnConn.Outcome Unit) : Prop :=
  (req = .returned (-1) [] ∧ rel = .returned (-1) []) ∨
    ∃ msg msg',
      req = .returned 0 [((), msg)] ∧
        rel = .returned 0 [((), msg')] ∧
          msg.mIsReq = true ∧ msg'.mIsReq = false ∧
            msg.nif = msg'.nif ∧
              ∀ tail tail' : IPv6Addr,
                let c := (msg.client tail).subscriber
                let c' := (msg'.client tail').subscriber
                c.equals c' = true ∧ c'.equals c = true

/- The framework grants the connection of a machine. -/
def Grants (f : NifField) : Input → Prop
| .agpsOpen agpsType _ _ _ => nifOfType agpsType = f
| _ => False

/-
  Nobody is active any more, the framework has been asked
  for the connection once and to let it go once, and a WIFI
  client waits for that where a BIT client is gone.
-/
def Completed
    (msg : DmnConn.LocMsg)
    (r : Nifs × List Emission) : Prop :=
  ∃ sm, r.1.nif msg.nif = some sm ∧
    (∀ s ∈ sm.mSubscribers, s.isInactive = true) ∧
      requests .requestAgpsDataConn r.2 = 1 ∧
        requests .releaseAgpsDataConn r.2 = 1 ∧
          sm.mStatePtr =
            match msg with
            | .reqRelBIT .. => .released
            | .reqRelWifi .. => .releasing

/- The engine while the connection is held for a client. -/
def Holding
    (e : Nifs)
    (f : NifField)
    (c : Subscriber) : Prop :=
  e.loc_api_handle = some () ∧
    ∃ sm, e.nif f = some sm ∧ HeldBy c sm

variable {e : Nifs}
variable {f : NifField}
variable {c : Subscriber}

theorem holding_returnedTo
    (hHandle : e.loc_api_handle = some ())
    {r : AgpsStateMachine × List Emission}
    (hHeld : HeldBy c r.1) :
    Holding (e.returnedTo f r).1 f c := by
  refine ⟨?_, r.1, ?_, hHeld⟩
  · rw [loc_api_handle_returnedTo]
    exact hHandle
  · rw [nif_returnedTo, if_pos rfl]

/- A grant keeps the connection held. -/
theorem holding_of_grant
    (abi : DmnConn.Abi)
    (hHolding : Holding e f c)
    {i : Input}
    (hGrant : Grants f i)
    (action : AGpsStatusValue) :
    Holding (step abi e i).1 f c ∧
      requests action (step abi e i).2 = 0 := by
  rcases hHolding with ⟨hHandle, sm, hNif, hHeld⟩
  cases i with
  | agpsOpen agpsType apn bearerType env =>
      cases hGrant
      have hStays :
          Holding e (nifOfType agpsType) c ∧
            requests action [] = 0 :=
        ⟨⟨hHandle, sm, hNif, hHeld⟩, rfl⟩
      cases apn with
      | none => exact hStays
      | some name =>
          simp only [step, agpsOpen, getAgpsStateMachine,
            hNif]
          cases e.agps_status_cb with
          | false => exact hStays
          | true =>
              have hSet :
                  HeldBy c
                    ((sm.setBearer bearerType).setAPN
                      (some (name.take maxApnLen))) :=
                ⟨hHeld.plain, hHeld.list, hHeld.holds⟩
              have hGranted := hSet.granted env action
              rw [snd_returnedTo]
              exact
                ⟨holding_returnedTo hHandle hGranted.1,
                  hGranted.2⟩
  | _ => exact hGrant.elim

/- So do any number of grants. -/
theorem holding_of_grants
    (abi : DmnConn.Abi)
    (hHolding : Holding e f c)
    (action : AGpsStatusValue)
    (grants : List Input)
    (hGrants : ∀ i ∈ grants, Grants f i) :
    Holding (ran abi e grants).1 f c ∧
      requests action (ran abi e grants).2 = 0 := by
  induction grants generalizing e with
  | nil => exact ⟨hHolding, rfl⟩
  | cons i grants ih =>
      have hFirst :=
        holding_of_grant abi hHolding
          (hGrants i List.mem_cons_self) action
      have hRest :=
        ih hFirst.1
          (fun j hj => hGrants j (List.mem_cons_of_mem i hj))
      rw [ran_cons, requests_append, hFirst.2, hRest.2]
      exact ⟨hRest.1, rfl⟩

theorem reqRel_true (s : Subscriber) :
    reqRel true s = .subscribeRsrc s := rfl

theorem reqRel_false (s : Subscriber) :
    reqRel false s = .unsubscribeRsrc s := rfl

theorem served_of_sent
    {outcome : DmnConn.Outcome Unit}
    {msg : DmnConn.LocMsg}
    (hOutcome : outcome = .returned 0 [((), msg)])
    (tail : IPv6Addr) :
    e.served tail outcome = e.proc tail msg := by
  subst hOutcome
  rfl

/- The request starts the connection for its client. -/
theorem holding_of_request
    (hInv : Inv e)
    (hHandle : e.loc_api_handle = some ())
    {msg : DmnConn.LocMsg}
    (hIsReq : msg.mIsReq = true)
    (hSendable : Sendable msg)
    {sm : AgpsStateMachine}
    (hNif : e.nif msg.nif = some sm)
    (hState : sm.mStatePtr = .released)
    (hNil : sm.mSubscribers = [])
    (tail : IPv6Addr) :
    Holding (e.proc tail msg).1 msg.nif
        (msg.client tail).subscriber ∧
      requests .requestAgpsDataConn (e.proc tail msg).2 = 1 ∧
        requests .releaseAgpsDataConn (e.proc tail msg).2 =
          0 := by
  have hPlain : msg.nif ≠ .ds_nif := by
    cases msg with
    | reqRelBIT mType ipv4 ipv6 isReq =>
        intro hField
        have hAdmits := admits_bit hSendable ipv4 ipv6
        rw [show nifOfType mType = .ds_nif from hField]
          at hAdmits
        cases hAdmits.1
    | reqRelWifi mType senderId ssid password isReq =>
        exact fun hField => nomatch hField
  have hStart :=
    HeldBy.subscribe (msg.client tail)
      (mRetries_of_plain (hInv _ sm hNif) hPlain) hState hNil
  rw [proc_eq hNif, hIsReq, reqRel_true, snd_returnedTo]
  exact ⟨holding_returnedTo hHandle hStart.1, hStart.2⟩

/- The release completes it. -/
theorem completed_of_release
    {msg msg' : DmnConn.LocMsg}
    {tail tail' : IPv6Addr}
    (hHolding :
      Holding e msg.nif (msg.client tail).subscriber)
    (hIsReq : msg'.mIsReq = false)
    (hNifs : msg'.nif = msg.nif)
    (hEq :
      (msg.client tail).subscriber.equals
        (msg'.client tail').subscriber = true)
    {before : List Emission}
    (hAsked : requests .requestAgpsDataConn before = 1)
    (hNotYet : requests .releaseAgpsDataConn before = 0) :
    Completed msg
      ((e.proc tail' msg').1,
        before ++ (e.proc tail' msg').2) := by
  rcases hHolding with ⟨-, sm, hNif, hHeld⟩
  have hLeft := hHeld.unsubscribe hEq
  rw [← hNifs] at hNif
  rw [proc_eq hNif, hIsReq, reqRel_false]
  refine ⟨_, ?_, hLeft.1, ?_, ?_, ?_⟩
  · rw [nif_returnedTo, if_pos hNifs.symm]
  · rw [snd_returnedTo, requests_append, hAsked]
    rw [show requests _ _ = 0 from hLeft.2.2.1]
  · rw [snd_returnedTo, requests_append, hNotYet]
    rw [show requests _ _ = 1 from hLeft.2.2.2]
  · refine hLeft.2.1.trans ?_
    cases msg <;> rfl

theorem agree_ifReqRel
    (abi : DmnConn.Abi)
    (pmsg : DmnConn.Mem) :
    Agree (DmnConn.ifReqRel abi (some ()) pmsg true)
      (DmnConn.ifReqRel abi (some ()) pmsg false) := by
  rcases DmnConn.ifReqRel_cases abi () pmsg with
    hRejected | ⟨msg, hSent⟩
  · exact Or.inl ⟨hRejected true, hRejected false⟩
  · right
    refine ⟨msg.withIsReq true, msg.withIsReq false,
      hSent true, hSent false, by simp, by simp, by simp, ?_⟩
    intro tail tail'
    exact
      ⟨msg.equals_withIsReq true false tail tail',
        msg.equals_withIsReq false true tail' tail⟩

/-
  A message that is sent on as a request and as a release:
  the run from the request over the grants to the release.
-/
theorem completed_of_sent
    {abi : DmnConn.Abi}
    {pmsg : DmnConn.Mem}
    (hInv : Inv e)
    (hHandle : e.loc_api_handle = some ())
    {msg : DmnConn.LocMsg}
    (hSent :
      ∀ isReq,
        DmnConn.ifReqRel abi (some ()) pmsg isReq =
          .returned 0 [((), msg.withIsReq isReq)])
    {sm : AgpsStateMachine}
    (hNif : e.nif (msg.withIsReq true).nif = some sm)
    (hState : sm.mStatePtr = .released)
    (hNil : sm.mSubscribers = [])
    (len len' : Int)
    (tail tail' : IPv6Addr)
    (grants : List Input)
    (hGrants :
      ∀ i ∈ grants, Grants (msg.withIsReq true).nif i) :
    Completed (msg.withIsReq true)
      (ran abi e
        (.ifRequest pmsg len tail ::
          (grants ++ [.ifRelease pmsg len' tail']))) := by
  have hSendable : Sendable (msg.withIsReq true) := by
    have hMem : ((), msg.withIsReq true) ∈
        (DmnConn.ifReqRel abi (some ()) pmsg true).sent := by
      rw [hSent]
      exact List.mem_singleton_self _
    exact sendable_ifReqRel hMem
  have hStarted :=
    holding_of_request hInv hHandle (by simp) hSendable hNif
      hState hNil tail
  have hGranted (action : AGpsStatusValue) :=
    holding_of_grants abi hStarted.1 action grants hGrants
  have hFirst :
      step abi e (.ifRequest pmsg len tail) =
        e.proc tail (msg.withIsReq true) := by
    apply served_of_sent
    rw [hHandle]
    exact hSent true
  have hLast (e' : Nifs)
      (hHandle' : e'.loc_api_handle = some ()) :
      step abi e' (.ifRelease pmsg len' tail') =
        e'.proc tail' (msg.withIsReq false) := by
    apply served_of_sent
    rw [hHandle']
    exact hSent false
  rw [ran_cons, hFirst, ran_concat,
    hLast _ (hGranted .requestAgpsDataConn).1.1,
    ← List.append_assoc]
  apply completed_of_release
    (hGranted .requestAgpsDataConn).1 (by simp) (by simp)
    (msg.equals_withIsReq true false tail tail')
  · rw [requests_append, hStarted.2.1,
      (hGranted .requestAgpsDataConn).2]
  · rw [requests_append, hStarted.2.2,
      (hGranted .releaseAgpsDataConn).2]

/-
  A release addresses what the request subscribed: the two
  handlers agree on every message, and from an idle machine
  a request, any grants and the release complete each other.
-/
theorem release_follows_request
    (abi : DmnConn.Abi)
    (is : List Input)
    (pmsg : DmnConn.Mem)
    (len len' : Int)
    (tail tail' : IPv6Addr)
    (hHandle :
      ((engine abi).run is).loc_api_handle = some ()) :
    let e := (engine abi).run is
    let req :=
      DmnConn.ifRequestSwitch abi e.loc_api_handle pmsg
    let rel :=
      DmnConn.ifReleaseSwitch abi e.loc_api_handle pmsg
    Agree req rel ∧
      ∀ msg, req = .returned 0 [((), msg)] →
        ∀ sm, e.nif msg.nif = some sm →
          sm.mStatePtr = .released →
            sm.mSubscribers = [] →
              ∀ grants, (∀ i ∈ grants, Grants msg.nif i) →
                Completed msg
                  (ran abi e
                    (.ifRequest pmsg len tail ::
                      (grants ++
                        [.ifRelease pmsg len' tail']))) := by
  intro e req rel
  have hReq : req =
      DmnConn.ifReqRel abi (some ()) pmsg true := by
    simp only [req, e]
    rw [← DmnConn.ifRequestHandler_eq_switch abi _ pmsg len,
      hHandle]
    rfl
  have hRel : rel =
      DmnConn.ifReqRel abi (some ()) pmsg false := by
    simp only [rel, e]
    rw [← DmnConn.ifReleaseHandler_eq_switch abi _ pmsg len',
      hHandle]
    rfl
  rw [hReq, hRel]
  constructor
  · exact agree_ifReqRel abi pmsg
  · intro msg hMsg sm hNif hState hNil grants hGrants
    rcases DmnConn.ifReqRel_cases abi () pmsg with
      hRejected | ⟨decoded, hSent⟩
    · rw [hRejected] at hMsg
      cases hMsg
    · have hDecoded : decoded.withIsReq true = msg := by
        rw [hSent] at hMsg
        cases hMsg
        rfl
      subst hDecoded
      exact completed_of_sent (inv_run abi is) hHandle hSent
        hNif hState hNil len len' tail tail' grants hGrants

/- The engine once the daemon's thread runs. -/
def launched : Nifs :=
  (engine .ilp32).run [.agpsInit true true true]

/- A buffer of zeros: a WIFI client of type SUPL. -/
theorem release_follows_request_zeros :
    let zeros : IPv6Addr := Vector.replicate 16 0
    let req :=
      DmnConn.ifRequestSwitch .ilp32
        launched.loc_api_handle (fun _ => 0)
    let rel :=
      DmnConn.ifReleaseSwitch .ilp32
        launched.loc_api_handle (fun _ => 0)
    Agree req rel ∧
      ∀ msg, req = .returned 0 [((), msg)] →
        ∀ sm, launched.nif msg.nif = some sm →
          sm.mStatePtr = .released →
            sm.mSubscribers = [] →
              ∀ grants, (∀ i ∈ grants, Grants msg.nif i) →
                Completed msg
                  (ran .ilp32 launched
                    (.ifRequest (fun _ => 0) 128 zeros ::
                      (grants ++
                        [.ifRelease (fun _ => 0) 128
                          zeros]))) :=
  release_follows_request .ilp32 [.agpsInit true true true]
    (fun _ => 0) 128 128 (Vector.replicate 16 0)
    (Vector.replicate 16 0) rfl

end Nifs

end Agps

end D2Common
