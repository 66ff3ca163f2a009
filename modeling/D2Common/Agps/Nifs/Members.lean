import D2Common.Agps.Nifs
import D2Common.Agps.Emitted
import D2Common.Agps.Plain.Connection
import D2Common.Foundations.Parts

/-
  The plain machines as parts of the engine.

  `agnss_nif`, `internet_nif` and `wifi_nif` are fields of
  one record, and every message can reach any of them. Each
  of them nevertheless runs as if it were alone, on what the
  messages ask of it. A restart of the modem empties two of
  the lists behind a machine's back; it is no call of the
  machine, so the runs are those in which it finds the list
  of the machine empty.

  Key definitions include:
    * `NifField.machine`
    * `Nifs.asked`
    * `Nifs.member`
    * `Nifs.Unharmed`

  Key theorems include:
    * `Nifs.follows_step`
    * `Nifs.member_run`
-/

------------------------------------------------------------
-- What A Message Asks Of A Machine
------------------------------------------------------------

namespace D2Common

namespace Agps

/- The type that the machine of a field is made with. -/
def NifField.type : NifField → AGpsExtType
| .agnss_nif => agpsTypeSupl
| .internet_nif => agpsTypeWwanAny
| .wifi_nif => DmnConn.agpsTypeWifi
| .ds_nif => agpsTypeInvalid

/- The machine of a field, by itself. -/
def NifField.machine
    (f : NifField) :
    Transducer AgpsStateMachine Plain.Op Emission :=
  Plain.machine f.type (f == .wifi_nif)

/- A request handed to the servicer. -/
def requestOf : Emission → Option AGpsExtStatus
| .requestRsrc nifRequest => some nifRequest
| _ => none

/- A request about the connection of one type. -/
def NifField.told
    (f : NifField) : Emission → Option AGpsExtStatus
| .requestRsrc nifRequest =>
    if nifRequest.type = f.type then some nifRequest
    else none
| _ => none

/- The status of such a request. -/
def NifField.hears
    (f : NifField) : Emission → Option AGpsStatusValue
| .requestRsrc nifRequest =>
    if nifRequest.type = f.type then some nifRequest.status
    else none
| _ => none

namespace Nifs

/- What the message of a client asks. -/
def clientOp
    (mIsReq : Bool)
    (c : Client) : Plain.Op :=
  if mIsReq then .subscribeRsrc c else .unsubscribeRsrc c

theorem call_clientOp
    (mIsReq : Bool)
    (c : Client) :
    (clientOp mIsReq c).call = reqRel mIsReq c.subscriber := by
  cases mIsReq <;> rfl

/- What a message of the daemon asks of a machine. -/
def askedByProc
    (tail : IPv6Addr)
    (f : NifField) : DmnConn.LocMsg → List Plain.Op
| .reqRelBIT mType mIPv4Addr mIPv6Addr mIsReq =>
    if nifOfType mType = f then
      [clientOp mIsReq (.bit mIPv4Addr mIPv6Addr)]
    else []
| .reqRelWifi _ mSenderId mSSID mPassword mIsReq =>
    if NifField.wifi_nif = f then
      [clientOp mIsReq
        (.wifi (some mSSID) (some mPassword) mSenderId tail)]
    else []

def askedByServed
    (tail : IPv6Addr)
    (f : NifField)
    (outcome : DmnConn.Outcome Unit) : List Plain.Op :=
  match outcome.sent with
  | (_, msg) :: _ => askedByProc tail f msg
  | [] => []

/- The internet machine is asked when AGNSS has not found. -/
def askedByReleaseATL
    (e : Nifs)
    (f : NifField)
    (mID : Handle)
    (tail₁ tail₂ : IPv6Addr) : List Plain.Op :=
  match f with
  | .agnss_nif => [.unsubscribeRsrc (.atl mID false tail₁)]
  | .internet_nif =>
      match
        LocEng.unsubscribed e.agnss_nif
          (.atl mID false tail₁) with
      | some _ => []
      | none => [.unsubscribeRsrc (.atl mID false tail₂)]
  | _ => []

def askedByOpen
    (e : Nifs)
    (f : NifField)
    (agpsType : AGpsExtType)
    (apn : Option CString)
    (bearerType : AGpsBearerType) : List Plain.Op :=
  match apn, e.agps_status_cb with
  | some apn, true =>
      if nifOfType agpsType = f then
        [.setBearer bearerType,
          .setAPN (some (apn.take maxApnLen)),
          .onRsrcEvent .granted]
      else []
  | _, _ => []

def askedByEvent
    (e : Nifs)
    (f : NifField)
    (agpsType : AGpsExtType)
    (event : AgpsRsrcStatus) : List Plain.Op :=
  if e.agps_status_cb then
    if nifOfType agpsType = f then [.onRsrcEvent event]
    else []
  else []

/- All that an input asks of the plain machine of a field. -/
def asked
    (abi : DmnConn.Abi)
    (f : NifField)
    (e : Nifs) : Input → List Plain.Op
| .requestATL mID mType tail _ =>
    if nifOfType mType = f then
      [.subscribeRsrc
        (.atl mID (agpsTypeInvalid == mType) tail)]
    else []
| .releaseATL mID tail₁ tail₂ =>
    askedByReleaseATL e f mID tail₁ tail₂
| .queuedATL tail =>
    match e.atlQueue with
    | mID :: _ =>
        if nifOfType agpsTypeSupl = f then
          [.subscribeRsrc (.atl mID false tail)]
        else []
    | [] => []
| .ifRequest pmsg len tail =>
    askedByServed tail f
      (DmnConn.ifRequestHandler abi e.loc_api_handle pmsg
        len)
| .ifRelease pmsg len tail =>
    askedByServed tail f
      (DmnConn.ifReleaseHandler abi e.loc_api_handle pmsg
        len)
| .agpsOpen agpsType apn bearerType _ =>
    askedByOpen e f agpsType apn bearerType
| .agpsClosed agpsType _ =>
    askedByEvent e f agpsType .released
| .agpsOpenFailed agpsType _ =>
    askedByEvent e f agpsType .denied
| _ => []

/- Whether an input makes the machine of a field anew. -/
def makes
    (f : NifField)
    (e : Nifs) : Input → Bool
| .agpsInit _ hasAgnss _ =>
    !e.agps_status_cb &&
      match f with
      | .agnss_nif => hasAgnss
      | .internet_nif => true
      | .wifi_nif => true
      | .ds_nif => false
| _ => false

/- The machine of a field as a part of the engine. -/
def member
    (abi : DmnConn.Abi)
    (f : NifField) :
    Part Nifs Input AgpsStateMachine Plain.Op where
  get e := e.nif f
  made := makes f
  asked := asked abi f

/- One step of the engine. -/
abbrev Event := Transducer.Event Nifs Input Emission

/- A restart of the modem finds nobody on the list. -/
def Unharmed
    (f : NifField)
    (ev : Event) : Prop :=
  match ev.input with
  | .engineUp =>
      f = .wifi_nif ∨
        ∀ sm ∈ ev.before.nif f, sm.mSubscribers = []
  | _ => True

end Nifs

end Agps

end D2Common

------------------------------------------------------------
-- One Call
------------------------------------------------------------

namespace D2Common

namespace Agps

namespace Nifs

/- Every plain machine has the type it was made with. -/
def Typed (e : Nifs) : Prop :=
  ∀ f, f ≠ .ds_nif → ∀ sm ∈ e.nif f, sm.mType = f.type

theorem typed_cleared : Typed cleared := by
  intro f _ sm hSm
  cases f <;> simp [cleared, nif] at hSm

theorem told_notice
    {f : NifField}
    {s : Subscriber}
    {addressee : Addressee}
    {sm : AgpsStateMachine}
    {st : AgpsRsrcStatus}
    {em : Emission}
    (hMem : em ∈ s.notice addressee sm st) :
    f.told em = none ∧ requestOf em = none := by
  have hQuiet := (quiet_of_mem_notice hMem).2
  cases em <;>
    first | exact ⟨rfl, rfl⟩ | simp [statusOf] at hQuiet

/- A machine of another type is not taken for this one. -/
theorem told_respond
    {f g : NifField}
    {sm : AgpsStateMachine}
    (hPlain : f ≠ .ds_nif)
    (hClass : sm.mRetries.isSome = (g == .ds_nif))
    (hType : g ≠ .ds_nif → sm.mType = g.type)
    (env : DataCall)
    (c : Call) :
    ∀ em ∈ (Roster.respond sm env c).2,
      f.told em = if f = g then requestOf em else none := by
  intro em hMem
  cases Roster.emitted_respond sm env c em hMem with
  | notice s addressee st hWho hNotice =>
      rcases told_notice (f := f) hNotice with
        ⟨hNone, hStatus⟩
      rw [hNone, hStatus]
      exact (ite_self none).symm
  | farewell id => exact (ite_self none).symm
  | action action => exact (ite_self none).symm
  | status hRetries action s hWho =>
      have hOther : g ≠ .ds_nif := by
        rintro rfl
        simp [hRetries] at hClass
      have hSame : g.type = f.type ↔ f = g := by
        revert hPlain hOther
        cases f <;> cases g <;> decide
      have hOwn :
          (nifRequest sm.mType action s).type = g.type := by
        cases s <;> exact hType hOther
      simp only [NifField.told, requestOf, hOwn, hSame]
  | dataCall hData hOf =>
      cases em <;> first
        | exact (ite_self none).symm
        | cases hOf

/-
  What a step does to the machine of a field that it asks
  some things of.
-/
structure Treats
    (f : NifField)
    (e : Nifs)
    (ops : List Plain.Op)
    (r : Nifs × List Emission) : Prop where
  nif :
    r.1.nif f = (e.nif f).map (f.machine.runFrom · ops)
  said :
    ∀ sm ∈ e.nif f,
      r.2.filterMap f.told =
        f.machine.saidFrom requestOf sm ops

variable {f : NifField}
variable {e : Nifs}

/- The step does not touch the machine. -/
theorem treats_aside
    {r : Nifs × List Emission}
    (hNif : r.1.nif f = e.nif f)
    (hQuiet : ∀ em ∈ r.2, f.told em = none) :
    Treats f e [] r where
  nif := by
    rw [hNif]
    exact Option.map_id'.symm
  said := by
    intro sm _
    exact List.filterMap_eq_nil_iff.mpr hQuiet

/- There is no machine to ask. -/
theorem treats_absent
    {r : Nifs × List Emission}
    (ops : List Plain.Op)
    (hNone : e.nif f = none)
    (hNif : r.1.nif f = e.nif f) :
    Treats f e ops r where
  nif := by
    rw [hNif, hNone]
    rfl
  said := by
    rw [hNone]
    intro sm hSm
    cases hSm

/- Another machine is called. -/
theorem treats_other
    (hPlain : f ≠ .ds_nif)
    {g : NifField}
    (hOther : f ≠ g)
    {sm : AgpsStateMachine}
    (hClass : sm.mRetries.isSome = (g == .ds_nif))
    (hType : g ≠ .ds_nif → sm.mType = g.type)
    (env : DataCall)
    (c : Call) :
    Treats f e [] (e.returnedTo g (sm.call env c)) := by
  apply treats_aside
  · rw [nif_returnedTo, if_neg hOther]
  · intro em hMem
    rw [snd_returnedTo, AgpsStateMachine.call_eq] at hMem
    rw [told_respond hPlain hClass hType env c em hMem,
      if_neg hOther]

/- A plain machine is called as if it were alone. -/
theorem call_eq_step
    {sm : AgpsStateMachine}
    (hRetries : sm.mRetries = none)
    (env : DataCall)
    (op : Plain.Op) :
    sm.call env op.call = f.machine.step sm op := by
  change sm.call env op.call = sm.call noDataCall op.call
  rw [AgpsStateMachine.call_eq, AgpsStateMachine.call_eq,
    Roster.respond_of_plain hRetries]

/- All requests of a machine are of its own type. -/
theorem filterMap_told
    (hPlain : f ≠ .ds_nif)
    {sm : AgpsStateMachine}
    (hRetries : sm.mRetries = none)
    (hType : sm.mType = f.type)
    (env : DataCall)
    (c : Call) :
    (sm.call env c).2.filterMap f.told =
      (sm.call env c).2.filterMap requestOf := by
  have hClass : sm.mRetries.isSome = (f == .ds_nif) := by
    rw [hRetries, beq_eq_false_iff_ne.mpr hPlain]
    rfl
  apply List.filterMap_congr
  intro em hMem
  rw [AgpsStateMachine.call_eq] at hMem
  rw [told_respond hPlain hClass (fun _ => hType) env c em
      hMem,
    if_pos rfl]

theorem mRetries_eq_none
    (hPlain : f ≠ .ds_nif)
    (hInv : Inv e)
    {sm : AgpsStateMachine}
    (hSm : e.nif f = some sm) :
    sm.mRetries = none := by
  have hClass := (hInv f sm hSm).ds
  rw [beq_eq_false_iff_ne.mpr hPlain] at hClass
  simpa using hClass

/- The machine itself is called. -/
theorem treats_called
    (hPlain : f ≠ .ds_nif)
    (hInv : Inv e)
    (hTyped : Typed e)
    {sm : AgpsStateMachine}
    (hSm : e.nif f = some sm)
    (env : DataCall)
    (op : Plain.Op) :
    Treats f e [op]
      (e.returnedTo f (sm.call env op.call)) := by
  have hRetries := mRetries_eq_none hPlain hInv hSm
  have hType := hTyped f hPlain sm hSm
  constructor
  · rw [nif_returnedTo, if_pos rfl, hSm,
      call_eq_step (f := f) hRetries]
    rfl
  · intro sm' hSm'
    rw [hSm] at hSm'
    cases hSm'
    rw [snd_returnedTo,
      filterMap_told hPlain hRetries hType,
      call_eq_step (f := f) hRetries,
      Transducer.saidFrom_cons, Transducer.saidFrom_nil,
      List.append_nil]

/- A call of one machine, as seen from any field. -/
theorem treats_call
    (hPlain : f ≠ .ds_nif)
    (hInv : Inv e)
    (hTyped : Typed e)
    {g : NifField}
    {sm : AgpsStateMachine}
    (hSm : e.nif g = some sm)
    (env : DataCall)
    (op : Plain.Op) :
    Treats f e (if g = f then [op] else [])
      (e.returnedTo g (sm.call env op.call)) := by
  by_cases hSame : g = f
  · subst hSame
    rw [if_pos rfl]
    exact treats_called hPlain hInv hTyped hSm env op
  · rw [if_neg hSame]
    exact treats_other hPlain (fun h => hSame h.symm)
      (hInv g sm hSm).ds (fun hg => hTyped g hg sm hSm)
      env op.call

/- Nothing is called, as there is no machine to call. -/
theorem treats_uncalled
    {g : NifField}
    (hNone : e.nif g = none)
    (ops : List Plain.Op)
    {out : List Emission}
    (hQuiet : ∀ em ∈ out, f.told em = none) :
    Treats f e (if g = f then ops else []) (e, out) := by
  by_cases hSame : g = f
  · subst hSame
    exact treats_absent _ hNone rfl
  · rw [if_neg hSame]
    exact treats_aside rfl hQuiet

end Nifs

end Agps

end D2Common

------------------------------------------------------------
-- One Step
------------------------------------------------------------

namespace D2Common

namespace Agps

namespace Nifs

variable {f : NifField}
variable {e : Nifs}

theorem treats_agpsInit
    {statusCb hasAgnss supports : Bool}
    (hMade :
      makes f e (.agpsInit statusCb hasAgnss supports) =
        false) :
    Treats f e []
      (e.agpsInit statusCb hasAgnss supports, []) := by
  refine treats_aside ?_ (by simp)
  unfold agpsInit
  split
  · rfl
  · next hCallback =>
      have hField := hMade
      unfold makes at hField
      cases f <;> simp_all [nif]

theorem treats_dataClientInit
    (hPlain : f ≠ .ds_nif)
    (result : Int) :
    Treats f e [] (e.dataClientInit result, []) := by
  refine treats_aside ?_ (by simp)
  unfold dataClientInit
  split
  · rfl
  · cases f <;> first | rfl | exact absurd rfl hPlain

theorem treats_requestATL
    (hPlain : f ≠ .ds_nif)
    (hInv : Inv e)
    (hTyped : Typed e)
    (mID : Handle)
    (mType : AGpsExtType)
    (tail : IPv6Addr)
    (env : DataCall) :
    Treats f e
      (if nifOfType mType = f then
        [.subscribeRsrc
          (.atl mID (agpsTypeInvalid == mType) tail)]
      else [])
      (e.requestATL mID mType tail env) := by
  unfold requestATL getAgpsStateMachine
  cases hNif : e.nif (nifOfType mType) with
  | none =>
      refine treats_uncalled hNif _ ?_
      intro em hMem
      rw [List.mem_singleton.mp hMem]
      rfl
  | some sm =>
      exact treats_call hPlain hInv hTyped hNif env
        (.subscribeRsrc
          (.atl mID (agpsTypeInvalid == mType) tail))

/- What an unsubscribe leaves when it returns true. -/
theorem call_of_unsubscribed
    {nif : Option AgpsStateMachine}
    {s : Subscriber}
    {r : AgpsStateMachine × List Emission}
    (hLeft : LocEng.unsubscribed nif s = some r) :
    ∃ sm, nif = some sm ∧
      r = sm.call noDataCall (.unsubscribeRsrc s) := by
  cases nif with
  | none => cases hLeft
  | some sm =>
      rw [LocEng.unsubscribed_some] at hLeft
      split at hLeft
      · cases hLeft
        exact ⟨sm, rfl, rfl⟩
      · cases hLeft

/- An unsubscribe that returns false does nothing. -/
theorem call_of_unsubscribed_none
    {sm : AgpsStateMachine}
    {s : Subscriber}
    (hLeft : LocEng.unsubscribed (some sm) s = none) :
    sm.call noDataCall (.unsubscribeRsrc s) = (sm, []) := by
  rw [LocEng.unsubscribed_some] at hLeft
  split at hLeft
  · cases hLeft
  · next hAny =>
      apply AgpsStateMachine.call_of_find_none
      simpa using hAny

/- A machine that has not found the handle stays as it is. -/
theorem treats_unfound
    {c : Client}
    (hLeft :
      LocEng.unsubscribed (e.nif f) c.subscriber = none)
    {r : Nifs × List Emission}
    (hNif : r.1.nif f = e.nif f)
    (hQuiet : ∀ em ∈ r.2, f.told em = none) :
    Treats f e [.unsubscribeRsrc c] r := by
  have hStep :
      ∀ sm ∈ e.nif f,
        f.machine.step sm (.unsubscribeRsrc c) =
          (sm, []) := by
    intro sm hSm
    rw [hSm] at hLeft
    exact call_of_unsubscribed_none hLeft
  constructor
  · rw [hNif]
    cases hSm : e.nif f with
    | none => rfl
    | some sm =>
        have hSame := hStep sm hSm
        simp [Transducer.runFrom, hSame]
  · intro sm hSm
    rw [Transducer.saidFrom_cons, hStep sm hSm]
    exact List.filterMap_eq_nil_iff.mpr hQuiet

theorem treats_releaseATL
    (hPlain : f ≠ .ds_nif)
    (hInv : Inv e)
    (hTyped : Typed e)
    (mID : Handle)
    (tail₁ tail₂ : IPv6Addr) :
    Treats f e (askedByReleaseATL e f mID tail₁ tail₂)
      (e.releaseATL mID tail₁ tail₂) := by
  unfold releaseATL
  cases hFirst :
      LocEng.unsubscribed e.agnss_nif
        (.atl mID false tail₁) with
  | some r =>
      rcases call_of_unsubscribed hFirst with
        ⟨sm, hSm, rfl⟩
      have hTreats :=
        treats_call (f := f) hPlain hInv hTyped
          (g := .agnss_nif) hSm noDataCall
          (.unsubscribeRsrc (.atl mID false tail₁))
      cases f with
      | ds_nif => exact absurd rfl hPlain
      | agnss_nif => exact hTreats
      | internet_nif =>
          simp only [askedByReleaseATL, hFirst]
          exact hTreats
      | wifi_nif => exact hTreats
  | none =>
      simp only
      cases hSecond :
          LocEng.unsubscribed e.internet_nif
            (.atl mID false tail₂) with
      | some r =>
          rcases call_of_unsubscribed hSecond with
            ⟨sm, hSm, rfl⟩
          have hTreats :=
            treats_call (f := f) hPlain hInv hTyped
              (g := .internet_nif) hSm noDataCall
              (.unsubscribeRsrc (.atl mID false tail₂))
          cases f with
          | ds_nif => exact absurd rfl hPlain
          | agnss_nif =>
              refine treats_unfound (e := e)
                (f := .agnss_nif)
                (c := .atl mID false tail₁) hFirst rfl ?_
              intro em hMem
              have hOther :=
                told_respond (f := .agnss_nif) hPlain
                  (hInv .internet_nif sm hSm).ds
                  (fun hg => hTyped _ hg sm hSm) noDataCall
                  (.unsubscribeRsrc
                    (.atl mID false tail₂))
              rw [← AgpsStateMachine.call_eq] at hOther
              exact hOther em hMem
          | internet_nif =>
              simp only [askedByReleaseATL, hFirst]
              exact hTreats
          | wifi_nif => exact hTreats
      | none =>
          simp only
          have hRest :
              ∀ r : Nifs × List Emission,
                r.1.nif f = e.nif f →
                (∀ em ∈ r.2, f.told em = none) →
                  Treats f e
                    (askedByReleaseATL e f mID tail₁ tail₂)
                    r := by
            intro r hNif hQuiet
            cases f with
            | ds_nif => exact absurd rfl hPlain
            | agnss_nif =>
                exact treats_unfound (f := .agnss_nif)
                  (c := .atl mID false tail₁) hFirst hNif
                  hQuiet
            | internet_nif =>
                simp only [askedByReleaseATL, hFirst]
                exact treats_unfound (f := .internet_nif)
                  (c := .atl mID false tail₂) hSecond hNif
                  hQuiet
            | wifi_nif => exact treats_aside hNif hQuiet
          cases hThird :
              LocEng.unsubscribed e.ds_nif
                (.ds mID false) with
          | some r =>
              rcases call_of_unsubscribed hThird with
                ⟨sm, hSm, rfl⟩
              apply hRest
              · rw [nif_returnedTo, if_neg hPlain]
              · intro em hMem
                rw [snd_returnedTo,
                  AgpsStateMachine.call_eq] at hMem
                rw [told_respond hPlain
                    (hInv .ds_nif sm hSm).ds
                    (fun hg => absurd rfl hg) noDataCall _
                    em hMem,
                  if_neg hPlain]
          | none =>
              apply hRest
              · rfl
              · intro em hMem
                rw [List.mem_singleton.mp hMem]
                rfl

theorem treats_requestSuplEs
    (hPlain : f ≠ .ds_nif)
    (hInv : Inv e)
    (mID : Handle)
    (env : DataCall) :
    Treats f e []
      (e.ofLocEng (e.toLocEng.requestSuplEs mID env)) := by
  unfold LocEng.requestSuplEs
  cases hNif : e.ds_nif with
  | none =>
      refine treats_aside rfl ?_
      intro em hMem
      rw [List.mem_singleton.mp hMem]
      rfl
  | some sm =>
      exact treats_other hPlain (g := .ds_nif) hPlain
        (hInv .ds_nif sm hNif).ds
        (fun hg => absurd rfl hg) env _

theorem treats_suplEs
    (hPlain : f ≠ .ds_nif)
    (hInv : Inv e)
    (env : DataCall) :
    Treats f e [] (e.ofLocEng e.toLocEng.suplEsOpened) ∧
      Treats f e []
        (e.ofLocEng (e.toLocEng.suplEsClosed env)) := by
  unfold LocEng.suplEsOpened LocEng.suplEsClosed
  cases hNif : e.ds_nif with
  | none =>
      exact ⟨treats_aside rfl (by simp [ofLocEng]),
        treats_aside rfl (by simp [ofLocEng])⟩
  | some sm =>
      have hClass := (hInv .ds_nif sm hNif).ds
      exact
        ⟨treats_other hPlain (g := .ds_nif) hPlain hClass
            (fun hg => absurd rfl hg) noDataCall _,
          treats_other hPlain (g := .ds_nif) hPlain hClass
            (fun hg => absurd rfl hg) env _⟩

theorem treats_timerFires
    (hPlain : f ≠ .ds_nif) :
    Treats f e [] (e.ofLocEng e.toLocEng.timerFires) := by
  unfold LocEng.timerFires
  split
  · next timers sm hTimers hNif =>
      apply treats_aside
      · cases f <;> first | rfl | exact absurd rfl hPlain
      · intro em hMem
        simp only [ofLocEng, LocEng.returned,
          DSStateMachine.retryCallback] at hMem
        split at hMem
        · simp only [Exec.emit, List.nil_append,
            List.mem_singleton] at hMem
          rw [hMem]
          rfl
        · simp at hMem
  · exact treats_aside rfl (by simp [ofLocEng])

theorem treats_queuedRequest
    (hPlain : f ≠ .ds_nif)
    (hInv : Inv e)
    (env : DataCall) :
    Treats f e []
      (e.ofLocEng (e.toLocEng.queuedRequest env)) := by
  unfold LocEng.queuedRequest
  split
  · next mID rest hQueue =>
      let fewer : Nifs :=
        { e with
          toLocEng :=
            { e.toLocEng with retryQueue := rest } }
      have hSame : ∀ g, fewer.nif g = e.nif g :=
        fun g => by cases g <;> rfl
      have hTreats :=
        treats_requestSuplEs (e := fewer) hPlain
          (inv_of_nif hInv hSame) mID env
      constructor
      · rw [← hSame f]
        exact hTreats.nif
      · rw [← hSame f]
        exact hTreats.said
  · exact treats_aside rfl (by simp [ofLocEng])

theorem treats_queuedATL
    (abi : DmnConn.Abi)
    (hPlain : f ≠ .ds_nif)
    (hInv : Inv e)
    (hTyped : Typed e)
    (tail : IPv6Addr) :
    Treats f e (asked abi f e (.queuedATL tail))
      (e.queuedATL tail) := by
  unfold queuedATL asked
  cases hQueue : e.atlQueue with
  | nil => exact treats_aside rfl (by simp)
  | cons mID rest =>
      let fewer : Nifs :=
        { e with
          toLocEng := { e.toLocEng with atlQueue := rest } }
      have hSame : ∀ g, fewer.nif g = e.nif g :=
        fun g => by cases g <;> rfl
      have hTypedFewer : Typed fewer := by
        intro g hg sm hSm
        rw [hSame g] at hSm
        exact hTyped g hg sm hSm
      have hTreats :=
        treats_requestATL (e := fewer) hPlain
          (inv_of_nif hInv hSame) hTypedFewer mID
          agpsTypeSupl tail noDataCall
      constructor
      · rw [← hSame f]
        exact hTreats.nif
      · rw [← hSame f]
        exact hTreats.said

theorem treats_proc
    (hPlain : f ≠ .ds_nif)
    (hInv : Inv e)
    (hTyped : Typed e)
    (tail : IPv6Addr)
    (msg : DmnConn.LocMsg) :
    Treats f e (askedByProc tail f msg)
      (e.proc tail msg) := by
  cases msg with
  | reqRelBIT mType ipv4 ipv6 isReq =>
      simp only [askedByProc, proc, call]
      cases hNif : e.nif (nifOfType mType) with
      | none => exact treats_uncalled hNif _ (by simp)
      | some sm =>
          have hTreats :=
            treats_call (f := f) hPlain hInv hTyped hNif
              noDataCall (clientOp isReq (.bit ipv4 ipv6))
          rw [call_clientOp] at hTreats
          exact hTreats
  | reqRelWifi mType senderId ssid password isReq =>
      simp only [askedByProc, proc]
      cases hNif : e.wifi_nif with
      | none =>
          refine treats_uncalled (g := .wifi_nif) hNif _ ?_
          intro em hMem
          rw [List.mem_singleton.mp hMem]
          rfl
      | some sm =>
          have hTreats :=
            treats_call (f := f) hPlain hInv hTyped
              (g := .wifi_nif) hNif noDataCall
              (clientOp isReq
                (.wifi (some ssid) (some password) senderId
                  tail))
          rw [call_clientOp] at hTreats
          exact hTreats

theorem treats_served
    (hPlain : f ≠ .ds_nif)
    (hInv : Inv e)
    (hTyped : Typed e)
    (tail : IPv6Addr)
    (outcome : DmnConn.Outcome Unit) :
    Treats f e (askedByServed tail f outcome)
      (e.served tail outcome) := by
  unfold askedByServed served
  cases outcome.sent with
  | nil => exact treats_aside rfl (by simp)
  | cons sent rest =>
      exact treats_proc hPlain hInv hTyped tail sent.2

/- The framework gives a machine its connection. -/
theorem treats_opened
    (hPlain : f ≠ .ds_nif)
    (hInv : Inv e)
    (hTyped : Typed e)
    {sm : AgpsStateMachine}
    (hSm : e.nif f = some sm)
    (bearerType : AGpsBearerType)
    (apn : Option CString)
    (env : DataCall) :
    Treats f e
      [.setBearer bearerType, .setAPN apn,
        .onRsrcEvent .granted]
      (e.returnedTo f
        (((sm.setBearer bearerType).setAPN apn).call env
          (.onRsrcEvent .granted))) := by
  have hRetries :
      ((sm.setBearer bearerType).setAPN apn).mRetries =
        none := by
    have hNone := mRetries_eq_none hPlain hInv hSm
    exact hNone
  have hType :
      ((sm.setBearer bearerType).setAPN apn).mType =
        f.type :=
    hTyped f hPlain sm hSm
  have hCall :=
    call_eq_step (f := f) hRetries env
      (.onRsrcEvent .granted)
  constructor
  · rw [nif_returnedTo, if_pos rfl, hSm]
    exact congrArg (fun r => some r.1) hCall
  · intro sm' hSm'
    rw [hSm] at hSm'
    cases hSm'
    rw [snd_returnedTo,
      filterMap_told hPlain hRetries hType,
      Transducer.saidFrom_cons, Transducer.saidFrom_cons,
      Transducer.saidFrom_cons, Transducer.saidFrom_nil,
      List.append_nil]
    exact
      congrArg (fun r => r.2.filterMap requestOf) hCall

theorem treats_agpsOpen
    (hPlain : f ≠ .ds_nif)
    (hInv : Inv e)
    (hTyped : Typed e)
    (agpsType : AGpsExtType)
    (apn : Option CString)
    (bearerType : AGpsBearerType)
    (env : DataCall) :
    Treats f e (askedByOpen e f agpsType apn bearerType)
      (e.agpsOpen agpsType apn bearerType env) := by
  unfold agpsOpen askedByOpen getAgpsStateMachine
  cases apn with
  | none => exact treats_aside rfl (by simp)
  | some apn =>
      cases hNif : e.nif (nifOfType agpsType) with
      | none =>
          cases e.agps_status_cb with
          | false => exact treats_aside rfl (by simp)
          | true => exact treats_uncalled hNif _ (by simp)
      | some sm =>
          cases e.agps_status_cb with
          | false => exact treats_aside rfl (by simp)
          | true =>
              simp only
              by_cases hSame : nifOfType agpsType = f
              · rw [if_pos hSame]
                rw [hSame] at hNif ⊢
                exact treats_opened hPlain hInv hTyped hNif
                  bearerType _ env
              · rw [if_neg hSame]
                refine treats_other hPlain
                  (fun h => hSame h.symm) ?_ ?_ env _
                · exact (hInv _ sm hNif).ds
                · exact fun hg => hTyped _ hg sm hNif

theorem treats_agpsEvent
    (hPlain : f ≠ .ds_nif)
    (hInv : Inv e)
    (hTyped : Typed e)
    (agpsType : AGpsExtType)
    (event : AgpsRsrcStatus)
    (env : DataCall) :
    Treats f e (askedByEvent e f agpsType event)
      (e.agpsEvent agpsType event env) := by
  unfold agpsEvent askedByEvent
  split
  · unfold call
    cases hNif : e.nif (nifOfType agpsType) with
    | none => exact treats_uncalled hNif _ (by simp)
    | some sm =>
        exact treats_call hPlain hInv hTyped hNif env
          (.onRsrcEvent event)
  · exact treats_aside rfl (by simp)

/- A restart leaves an empty machine as it is. -/
theorem treats_handleEngineUp
    (hKept :
      f = .wifi_nif ∨
        ∀ sm ∈ e.nif f, sm.mSubscribers = [])
    (hPlain : f ≠ .ds_nif) :
    Treats f e [] (e.handleEngineUp, []) := by
  have hDrop :
      (∀ sm ∈ e.nif f, sm.mSubscribers = []) →
        (e.nif f).map (·.dropAllSubscribers) = e.nif f := by
    intro hEmpty
    cases hNif : e.nif f with
    | none => rfl
    | some sm =>
        have hNil := hEmpty sm hNif
        cases sm
        simp_all [AgpsStateMachine.dropAllSubscribers]
  refine treats_aside ?_ (by simp)
  unfold handleEngineUp Engine.handleEngineUp
  cases f with
  | ds_nif => exact absurd rfl hPlain
  | wifi_nif => rfl
  | agnss_nif =>
      split
      · exact hDrop (hKept.resolve_left (by decide))
      · rfl
  | internet_nif =>
      split
      · exact hDrop (hKept.resolve_left (by decide))
      · rfl

theorem treats_step
    (abi : DmnConn.Abi)
    (hPlain : f ≠ .ds_nif)
    (hInv : Inv e)
    (hTyped : Typed e)
    {i : Input}
    (hMade : makes f e i = false)
    (hUnharmed : Unharmed f ((engine abi).event e i)) :
    Treats f e (asked abi f e i) (step abi e i) := by
  cases i with
  | agpsInit statusCb hasAgnss supports =>
      exact treats_agpsInit hMade
  | dataClientInit result =>
      exact treats_dataClientInit hPlain result
  | requestATL mID mType tail env =>
      exact treats_requestATL hPlain hInv hTyped mID mType
        tail env
  | releaseATL mID tail₁ tail₂ =>
      exact treats_releaseATL hPlain hInv hTyped mID tail₁
        tail₂
  | requestSuplEs mID env =>
      exact treats_requestSuplEs hPlain hInv mID env
  | suplEsOpened =>
      exact (treats_suplEs hPlain hInv noDataCall).1
  | suplEsClosed env =>
      exact (treats_suplEs hPlain hInv env).2
  | timerFires => exact treats_timerFires hPlain
  | queuedRequest env =>
      exact treats_queuedRequest hPlain hInv env
  | queuedATL tail =>
      exact treats_queuedATL abi hPlain hInv hTyped tail
  | ifRequest pmsg len tail =>
      exact treats_served hPlain hInv hTyped tail _
  | ifRelease pmsg len tail =>
      exact treats_served hPlain hInv hTyped tail _
  | agpsOpen agpsType apn bearerType env =>
      exact treats_agpsOpen hPlain hInv hTyped agpsType apn
        bearerType env
  | agpsClosed agpsType env =>
      exact treats_agpsEvent hPlain hInv hTyped agpsType
        .released env
  | agpsOpenFailed agpsType env =>
      exact treats_agpsEvent hPlain hInv hTyped agpsType
        .denied env
  | engineUp => exact treats_handleEngineUp hUnharmed hPlain

end Nifs

end Agps

end D2Common

------------------------------------------------------------
-- Runs
------------------------------------------------------------

namespace D2Common

namespace Agps

namespace Nifs

variable {f : NifField}
variable {e : Nifs}

theorem mType_after
    (settings : Settings)
    (c : Call) :
    (settings.after c).mType = settings.mType := by
  cases c <;> rfl

theorem mType_call
    (sm : AgpsStateMachine)
    (env : DataCall)
    (c : Call) :
    (sm.call env c).1.mType = sm.mType := by
  have hSettings := Roster.settings_respond sm env c
  rw [← AgpsStateMachine.call_eq] at hSettings
  calc
    (sm.call env c).1.mType =
        (sm.settings.after c).mType :=
      congrArg Settings.mType hSettings
    _ = sm.mType := mType_after sm.settings c

theorem mType_runFrom
    (f : NifField)
    (sm : AgpsStateMachine)
    (ops : List Plain.Op) :
    (f.machine.runFrom sm ops).mType = sm.mType := by
  induction ops generalizing sm with
  | nil => rfl
  | cons op ops ih =>
      exact
        (ih (f.machine.step sm op).1).trans
          (mType_call sm noDataCall op.call)

theorem made_step
    (abi : DmnConn.Abi)
    {i : Input}
    (hMade : makes f e i = true) :
    (step abi e i).1.nif f = some f.machine.init := by
  cases i with
  | agpsInit statusCb hasAgnss supports =>
      have hBoth := hMade
      simp only [makes, Bool.and_eq_true,
        Bool.not_eq_true'] at hBoth
      rcases hBoth with ⟨hCallback, hField⟩
      simp only [step, agpsInit, hCallback]
      cases f with
      | ds_nif => cases hField
      | agnss_nif =>
          simp only at hField
          subst hField
          rfl
      | internet_nif => rfl
      | wifi_nif => rfl
  | _ => cases hMade

theorem typed_handleEngineUp
    (hTyped : Typed e) :
    Typed e.handleEngineUp := by
  have hDrop
      (g : NifField)
      (hg : g ≠ .ds_nif) :
      ∀ sm ∈ (e.nif g).map (·.dropAllSubscribers),
        sm.mType = g.type := by
    intro sm hSm
    rcases Option.map_eq_some_iff.mp hSm with
      ⟨sm', hNif, rfl⟩
    exact hTyped g hg sm' hNif
  intro g hg sm hSm
  unfold handleEngineUp Engine.handleEngineUp at hSm
  cases g with
  | ds_nif => exact absurd rfl hg
  | wifi_nif => exact hTyped .wifi_nif hg sm hSm
  | agnss_nif =>
      simp only [nif] at hSm
      split at hSm
      · exact hDrop .agnss_nif hg sm hSm
      · exact hTyped .agnss_nif hg sm hSm
  | internet_nif =>
      simp only [nif] at hSm
      split at hSm
      · exact hDrop .internet_nif hg sm hSm
      · exact hTyped .internet_nif hg sm hSm

theorem typed_step
    (abi : DmnConn.Abi)
    (hInv : Inv e)
    (hTyped : Typed e)
    (i : Input) :
    Typed (step abi e i).1 := by
  have hMost
      (hOther : ∀ f, Unharmed f ((engine abi).event e i)) :
      Typed (step abi e i).1 := by
    intro f hPlain sm hSm
    cases hMade : makes f e i with
    | true =>
        rw [made_step abi hMade] at hSm
        cases hSm
        rfl
    | false =>
        have hTreats :=
          treats_step abi hPlain hInv hTyped hMade
            (hOther f)
        rw [hTreats.nif] at hSm
        rcases Option.map_eq_some_iff.mp hSm with
          ⟨sm', hNif, rfl⟩
        rw [mType_runFrom]
        exact hTyped f hPlain sm' hNif
  cases i with
  | engineUp => exact typed_handleEngineUp hTyped
  | _ => exact hMost (fun _ => trivial)

theorem follows_step
    (abi : DmnConn.Abi)
    (hPlain : f ≠ .ds_nif)
    (hInv : Inv e)
    (hTyped : Typed e)
    {i : Input}
    (hUnharmed : Unharmed f ((engine abi).event e i)) :
    (member abi f).Follows (engine abi) f.machine f.told
      requestOf e i where
  made := made_step abi
  kept hMade :=
    (treats_step abi hPlain hInv hTyped hMade hUnharmed).nif
  said hMade :=
    (treats_step abi hPlain hInv hTyped hMade hUnharmed).said

/- A run without restarts harms nobody. -/
theorem unharmed_of_no_engineUp
    (abi : DmnConn.Abi)
    (f : NifField)
    {is : List Input}
    (hNone : ∀ i ∈ is, i ≠ .engineUp) :
    History.Along (fun _ ev => Unharmed f ev)
      ((engine abi).history is) := by
  apply History.along_const.mpr
  intro ev hMem
  have hInput := Transducer.input_mem_of_mem hMem
  unfold Unharmed
  split
  · next hUp => exact absurd hUp (hNone _ hInput)
  · trivial

/-
  Among all the messages of the engine, in any order, each
  of the plain machines is in the state that it would have
  reached by itself on what has been asked of it, and the
  framework has been told the same about its connection.
-/
theorem member_run
    (abi : DmnConn.Abi)
    (f : NifField)
    (hPlain : f ≠ .ds_nif)
    (is : List Input)
    (hUnharmed :
      History.Along (fun _ ev => Unharmed f ev)
        ((engine abi).history is)) :
    let h := (engine abi).history is
    let ops := (member abi f).asks h
    ∀ sm ∈ ((engine abi).run is).nif f,
      sm = f.machine.run ops ∧
        (member abi f).heard f.told h =
          f.machine.saidFrom requestOf f.machine.init
            ops := by
  apply
    (member abi f).follows_run (engine abi) f.machine
      f.told requestOf (I := fun e => Inv e ∧ Typed e)
  · cases f <;> rfl
  · exact ⟨inv_cleared, typed_cleared⟩
  · rintro e i ⟨hInv, hTyped⟩
    exact
      ⟨inv_step abi hInv i, typed_step abi hInv hTyped i⟩
  · rintro e i ⟨hInv, hTyped⟩ hStep
    exact follows_step abi hPlain hInv hTyped hStep
  · exact hUnharmed

theorem hears_eq
    (f : NifField) :
    f.hears = fun em => (f.told em).map (·.status) := by
  funext em
  cases em with
  | requestRsrc nifRequest =>
      simp only [NifField.hears, NifField.told]
      split <;> rfl
  | _ => rfl

theorem statusOf_eq :
    statusOf = fun em => (requestOf em).map (·.status) := by
  funext em
  cases em <;> rfl

/- The same, as far as the statuses go. -/
theorem member_statuses
    (abi : DmnConn.Abi)
    (f : NifField)
    (hPlain : f ≠ .ds_nif)
    (is : List Input)
    (hUnharmed :
      History.Along (fun _ ev => Unharmed f ev)
        ((engine abi).history is)) :
    let h := (engine abi).history is
    let ops := (member abi f).asks h
    ∀ sm ∈ ((engine abi).run is).nif f,
      sm = f.machine.run ops ∧
        (member abi f).heard f.hears h =
          Plain.statuses (f.machine.history ops) := by
  intro h ops sm hSm
  rcases member_run abi f hPlain is hUnharmed sm hSm with
    ⟨hRun, hTold⟩
  refine ⟨hRun, ?_⟩
  rw [hears_eq, Part.heard_map, hTold,
    ← Transducer.saidFrom_map, ← statusOf_eq]
  rfl

end Nifs

end Agps

end D2Common
