import D2Common.Eng.Outputs

/-
  AGPS server settings over whole runs.

  Settings that come before `loc_eng_init` are buffered, and
  `loc_eng_agps_reinit` is to send the buffers. But
  `loc_eng_init` zeroes the record with the buffers in it,
  and nothing is buffered once there is an adapter. So the
  buffers are empty whenever they are sent, and what the
  modem knows is what has been set directly since it came
  up.

  Key definitions include:
    * `lastServer`
    * `Current`
    * `Direct`
    * `Settled`

  Key theorems include:
    * `frame_step`
    * `serverMsgs_step`
    * `settled_step`
    * `servers_current_iff`
-/

------------------------------------------------------------
-- What Stays
------------------------------------------------------------

namespace D2Common

namespace Eng

variable {ρ ν F : Type}

/- The adapter stays there and the buffers are the same. -/
structure Frame
    (d : LocEngData ρ ν)
    (x : Done ρ ν F) : Prop where
  adapter : x.1.adapter.isSome = d.adapter.isSome
  supl_host : x.1.supl_host = d.supl_host
  c2k_host : x.1.c2k_host = d.c2k_host

theorem frame_refl
    (d : LocEngData ρ ν)
    (out : List (Effect ρ F)) :
    Frame d (d, out) :=
  ⟨rfl, rfl, rfl⟩

theorem frame_andThen
    {d : LocEngData ρ ν}
    (hd : d.adapter.isSome = true)
    {x : Done ρ ν F}
    {f : LocEngData ρ ν → Done ρ ν F}
    (hx : Frame d x)
    (hf :
      ∀ d', d'.adapter.isSome = true → Frame d' (f d')) :
    Frame d (x.andThen f) := by
  have hSecond := hf x.1 (hx.adapter.trans hd)
  exact
    ⟨hSecond.adapter.trans hx.adapter,
      hSecond.supl_host.trans hx.supl_host,
      hSecond.c2k_host.trans hx.c2k_host⟩

/- A record with an adapter is framed by all reports. -/
theorem frame_rules :
    ReportRules
      (fun d x => d.adapter.isSome = true → Frame d x :
        LocEngData ρ ν → Done ρ ν F → Prop) where
  refl d _ := frame_refl d []
  andThen hx hf hd := frame_andThen hd (hx hd) hf
  status_cb d _ _ := frame_refl d _
  session d _ _ hAdapter _ hd := by
    rcases hAdapter with hSome | hSame
    · exact ⟨hSome.trans hd.symm, rfl, rfl⟩
    · exact ⟨congrArg Option.isSome hSame, rfl, rfl⟩
  location_cb d _ _ := frame_refl d _
  sv_status_cb d _ _ := frame_refl d _
  nmea_cb _ _ _ _ := ⟨rfl, rfl, rfl⟩

theorem frame_updateAidingData
    (d : LocEngData ρ ν) :
    Frame d (updateAidingData (F := F) d) := by
  unfold updateAidingData
  split
  · exact ⟨rfl, rfl, rfl⟩
  · exact frame_refl d _

theorem frame_reportStatus
    (status : GpsStatusValue)
    (a : LocEngAdapter)
    (d : LocEngData ρ ν)
    (hd : d.adapter.isSome = true) :
    Frame d (reportStatus (F := F) status a d) := by
  unfold reportStatus
  apply frame_andThen hd
  · split
    · exact ⟨rfl, rfl, rfl⟩
    · exact ⟨rfl, rfl, rfl⟩
  · intro d _
    exact ⟨rfl, rfl, rfl⟩

theorem frame_niStep
    (i : Ni.Input ρ)
    (d : LocEngData ρ ν) :
    Frame d (niStep (F := F) i d) :=
  ⟨rfl, rfl, rfl⟩

theorem frame_handleEngineDown
    (a : LocEngAdapter)
    (d : LocEngData ρ ν)
    (hd : d.adapter.isSome = true) :
    Frame d (handleEngineDown (F := F) a d) :=
  frame_andThen hd (frame_niStep .reset d)
    (frame_reportStatus .engineOff a)

theorem frame_handleEngineUp
    (P : Platform ν F)
    (result : ApiErr)
    (a : LocEngAdapter)
    (d : LocEngData ρ ν)
    (hd : d.adapter.isSome = true) :
    Frame d (handleEngineUp P result a d) := by
  apply frame_andThen hd
  · exact
      frame_andThen hd (frame_refl d _)
        (frame_reportStatus .engineOn a)
  · exact frame_rules.restartSession result a

theorem frame_agpsInit
    (P : Platform ν F)
    (d : LocEngData ρ ν)
    (callbacks : Option Bool) :
    Frame d (agpsInit P d callbacks) := by
  unfold agpsInit
  split
  · split
    · exact ⟨rfl, rfl, rfl⟩
    · exact ⟨rfl, rfl, rfl⟩
  · exact frame_refl d _

theorem frame_updateNetworkAvailability
    (d : LocEngData ρ ν)
    (available : Bool)
    (apn : Option CString) :
    Frame d
      (updateNetworkAvailability (F := F) d available apn) := by
  unfold updateNetworkAvailability
  dsimp only
  split
  · exact ⟨rfl, rfl, rfl⟩
  · exact ⟨rfl, rfl, rfl⟩

theorem frame_withAdapter
    {d : LocEngData ρ ν}
    {f : LocEngAdapter → LocEngData ρ ν → Done ρ ν F}
    (hf : ∀ a, d.adapter.isSome = true → Frame d (f a d)) :
    Frame d (withAdapter d f) := by
  unfold withAdapter
  split
  next a hAdapter => exact hf a (by simp [hAdapter])
  next => exact frame_refl d _

/- Whether an input sets up or changes a server. -/
def Input.setsServer : Input ρ → Bool
| .init _ _ _ => true
| .setServerProxy _ _ _ => true
| _ => false

theorem frame_step
    (P : Platform ν F)
    (d : LocEngData ρ ν)
    {i : Input ρ}
    (hOther : i.setsServer = false) :
    Frame d (step P d i) := by
  cases i with
  | init callbacks setCapabilities nmea1Hz => contradiction
  | agpsInit callbacks => exact frame_agpsInit P d callbacks
  | setServerProxy type hostname port => contradiction
  | updateNetworkAvailability available apn =>
      exact frame_updateNetworkAvailability d available apn
  | positionMode posMode =>
      apply frame_withAdapter
      intro a hd
      exact ⟨hd.symm, rfl, rfl⟩
  | startFix result =>
      apply frame_withAdapter
      intro a hd
      exact frame_rules.startHandler result a d hd
  | stopFix result =>
      apply frame_withAdapter
      intro a hd
      exact frame_rules.stopHandler result a d hd
  | delAidData f =>
      apply frame_withAdapter
      intro a _
      have hSame :=
        frame_updateAidingData (F := F)
          { d with aiding_data_for_deletion := f }
      exact
        ⟨hSame.adapter, hSame.supl_host, hSame.c2k_host⟩
  | reportPosition r =>
      apply frame_withAdapter
      intro a hd
      exact frame_rules.reportPosition P r a d hd
  | reportSv svStatus =>
      apply frame_withAdapter
      intro a hd
      exact frame_rules.reportSv P svStatus d hd
  | reportStatus status =>
      apply frame_withAdapter
      intro a hd
      apply frame_andThen hd
      · exact frame_reportStatus status a d hd
      · intro d _
        exact frame_updateAidingData d
  | reportNmea nmea =>
      apply frame_withAdapter
      intro a _
      exact frame_refl d _
  | niInit => exact frame_niStep .init d
  | requestNi notif passThrough created =>
      apply frame_withAdapter
      intro a _
      exact frame_niStep _ d
  | niRespond notif_id user_response =>
      exact frame_niStep (.respond notif_id user_response) d
  | niThread t turn =>
      exact frame_niStep (.thread t turn) d
  | engineDown =>
      apply frame_withAdapter
      intro a hd
      exact frame_handleEngineDown a d hd
  | engineUp result =>
      apply frame_withAdapter
      intro a hd
      exact frame_handleEngineUp P result a d hd

end Eng

end D2Common

------------------------------------------------------------
-- Server Messages
------------------------------------------------------------

namespace D2Common

namespace Eng

variable {ρ ν F : Type}

/- The message to the server of a type that an output is. -/
def serverMsgTo
    (type : LocServerType) :
    Effect ρ F → Option (AdapterMsg F)
| .sendMsg msg =>
    if msg.serverType = some type then some msg else none
| _ => none

/- The messages to the server of a type. -/
def serverMsgs
    (type : LocServerType)
    (out : List (Effect ρ F)) : List (AdapterMsg F) :=
  out.filterMap (serverMsgTo type)

theorem serverMsgs_of_only
    {type : LocServerType}
    {x : Done ρ ν F}
    (hx : Only (fun f => serverMsgTo type f = none) x) :
    serverMsgs type x.2 = [] :=
  List.filterMap_eq_nil_iff.mpr hx

theorem ordinary_serverMsgTo
    (type : LocServerType) :
    Ordinary
      (fun f : Effect ρ F => serverMsgTo type f = none) where
  api _ := rfl
  status_cb _ := rfl
  ni _ := rfl

/- A setting is a message to its own server only. -/
theorem serverMsgs_serverMsg
    (resolve : Resolver)
    (type type' : LocServerType)
    (hostname : CString)
    (port : BitVec 32) :
    serverMsgs (ρ := ρ) type
        [.sendMsg (serverMsg (F := F) resolve type' hostname
          port)] =
      if type' = type
      then [serverMsg resolve type' hostname port]
      else [] := by
  unfold serverMsgs
  rw [List.filterMap_cons, List.filterMap_nil]
  unfold serverMsgTo
  dsimp only
  rw [serverType_serverMsg]
  by_cases hSame : type' = type
  · simp [hSame]
  · simp [hSame]

/- Empty buffers send nothing. -/
theorem agpsReinit_of_empty
    (resolve : Resolver)
    {supl c2k : HostBuf}
    (hSupl : supl.host_set = false)
    (hC2k : c2k.host_set = false) :
    agpsReinit (F := F) resolve supl c2k = [] := by
  simp [agpsReinit, HostBuf.replay, hSupl, hC2k]

theorem serverType_of_mem_reinit
    (conf : Cfg.Store F)
    (agpsStatus : Bool)
    {msg : AdapterMsg F}
    (hMsg : msg ∈ reinit conf agpsStatus) :
    msg.serverType = none := by
  unfold reinit at hMsg
  split at hMsg
  · simp only [List.cons_append, List.nil_append,
      List.mem_cons, List.not_mem_nil, or_false] at hMsg
    rcases hMsg with
      rfl | rfl | rfl | rfl | rfl | rfl | rfl <;> rfl
  · simp only [List.cons_append, List.nil_append,
      List.append_nil, List.mem_cons, List.not_mem_nil,
      or_false] at hMsg
    rcases hMsg with
      rfl | rfl | rfl | rfl | rfl | rfl <;> rfl

/- The buffers as soon as there is an adapter. -/
structure Emptied (d : LocEngData ρ ν) : Prop where
  supl_host : d.supl_host.host_set = false
  c2k_host : d.c2k_host.host_set = false

theorem only_handleEngineUp
    (type : LocServerType)
    (P : Platform ν F)
    (result : ApiErr)
    (a : LocEngAdapter)
    {d : LocEngData ρ ν}
    (hEmptied : Emptied d) :
    Only (fun f => serverMsgTo type f = none)
      (handleEngineUp P result a d) := by
  have hp := ordinary_serverMsgTo (ρ := ρ) (F := F) type
  apply only_andThen
  · apply only_andThen
    · rw [agpsReinit_of_empty P.resolve hEmptied.supl_host
        hEmptied.c2k_host, ite_self, List.append_nil]
      apply only_map
      intro msg hMsg
      simp [serverMsgTo,
        serverType_of_mem_reinit P.conf d.agpsStatus hMsg]
    · exact only_reportStatus hp .engineOn a
  · exact (only_sessionRules hp).restartSession result a

theorem only_agpsInit
    (type : LocServerType)
    (P : Platform ν F)
    {d : LocEngData ρ ν}
    (hEmptied : d.adapter.isSome = true → Emptied d)
    (callbacks : Option Bool) :
    Only (fun f => serverMsgTo type f = none)
      (agpsInit P d callbacks) := by
  unfold agpsInit
  split
  next a status_cb hAdapter hNone =>
    split
    · have hd := hEmptied (by simp [hAdapter])
      dsimp only
      rw [agpsReinit_of_empty P.resolve hd.supl_host
        hd.c2k_host]
      cases P.supportsAgpsRequests with
      | true => exact only_singleton _ rfl
      | false => exact only_nil _
    · exact only_nil _
  next => exact only_nil d

theorem only_locEngInit
    (type : LocServerType)
    (P : Platform ν F)
    (d : LocEngData ρ ν)
    (callbacks : Callbacks)
    (setCapabilities nmea1Hz : Bool) :
    Only (fun f => serverMsgTo type f = none)
      (locEngInit P d callbacks setCapabilities
        nmea1Hz) := by
  unfold locEngInit
  cases d.adapter with
  | some a => exact only_singleton d rfl
  | none =>
      cases setCapabilities <;>
        simp [Only, serverMsgTo, AdapterMsg.serverType]

theorem only_updateNetworkAvailability
    (type : LocServerType)
    (d : LocEngData ρ ν)
    (available : Bool)
    (apn : Option CString) :
    Only (fun f : Effect ρ F => serverMsgTo type f = none)
      (updateNetworkAvailability d available apn) := by
  unfold updateNetworkAvailability
  dsimp only
  split
  · exact only_singleton _ rfl
  · exact only_nil _

/- Only `loc_eng_set_server_proxy` sends to a server. -/
theorem serverMsgs_step
    (type : LocServerType)
    (P : Platform ν F)
    {d : LocEngData ρ ν}
    (hEmptied : d.adapter.isSome = true → Emptied d)
    {i : Input ρ}
    (hOther :
      ∀ type hostname port,
        i ≠ .setServerProxy type hostname port) :
    serverMsgs type (step P d i).2 = [] := by
  have hp := ordinary_serverMsgTo (ρ := ρ) (F := F) type
  have hReports :=
    only_reportRules (ν := ν) hp (fun _ => rfl) (fun _ => rfl)
      (fun _ => rfl)
  apply serverMsgs_of_only
  cases i with
  | init callbacks setCapabilities nmea1Hz =>
      exact only_locEngInit type P d callbacks
        setCapabilities nmea1Hz
  | agpsInit callbacks =>
      exact only_agpsInit type P hEmptied callbacks
  | setServerProxy type hostname port =>
      exact absurd rfl (hOther type hostname port)
  | updateNetworkAvailability available apn =>
      exact only_updateNetworkAvailability type d available
        apn
  | reportPosition r => exact hReports.step P d rfl
  | reportSv svStatus => exact hReports.step P d rfl
  | reportNmea nmea => exact hReports.step P d rfl
  | engineUp result =>
      unfold step withAdapter
      cases hAdapter : d.adapter with
      | none => exact only_nil d
      | some a =>
          exact only_handleEngineUp type P result a
            (hEmptied (by simp [hAdapter]))
  | _ => exact only_step hp P d rfl

end Eng

end D2Common

------------------------------------------------------------
-- Settings Over Runs
------------------------------------------------------------

namespace D2Common

namespace Eng

variable {ρ ν F : Type}

/- The host and port that an input sets for a type. -/
def Input.setting
    (type : LocServerType) :
    Input ρ → Option (CString × BitVec 32)
| .setServerProxy type' hostname port =>
    if type' = type then some (hostname, port) else none
| _ => none

/- The most recent setting of a type. -/
def lastSetting
    (type : LocServerType)
    (h : List (Event ρ ν F)) :
    Option (CString × BitVec 32) :=
  (h.filterMap fun e => e.input.setting type).getLast?

/- A step of `loc_eng_handle_engine_up`. -/
def isUp (e : Event ρ ν F) : Bool :=
  match e.input with
  | .engineUp _ => e.before.adapter.isSome
  | _ => false

/- The messages to a server since the modem came up. -/
def sentSinceUp
    (type : LocServerType)
    (h : List (Event ρ ν F)) : List (AdapterMsg F) :=
  h.foldl
    (fun sent e =>
      (if isUp e then [] else sent) ++
        serverMsgs type e.output)
    []

/- The last of them. -/
def lastServer
    (type : LocServerType)
    (h : List (Event ρ ν F)) : Option (AdapterMsg F) :=
  (sentSinceUp type h).getLast?

/-
  `loc_eng_agps_init` gets past its checks, or the modem
  comes up.
-/
def Completes (e : Event ρ ν F) : Prop :=
  match e.input with
  | .agpsInit (some _) =>
      e.before.adapter.isSome = true ∧
        e.before.agps_status_cb = false
  | .engineUp _ => e.before.adapter.isSome = true
  | _ => False

/-
  The law: when one of the two completes, the last message
  to each server that was set carries its last setting.
-/
def Current
    (P : Platform ν F)
    (h : List (Event ρ ν F))
    (e : Event ρ ν F) : Prop :=
  Completes e →
    ∀ type hostname port,
      lastSetting type h = some (hostname, port) →
        lastServer type (h ++ [e]) =
          some (serverMsg P.resolve type hostname port)

/- A server is set while there is an adapter. -/
def setDirectly
    (type : LocServerType)
    (e : Event ρ ν F) : Bool :=
  e.before.adapter.isSome &&
    (e.input.setting type).isSome

/- A server was set directly since the modem came up. -/
def KnownToModem
    (type : LocServerType)
    (h : List (Event ρ ν F)) : Prop :=
  History.Open (fun e => setDirectly type e = true)
    (fun e => isUp e = true) h

/-
  The condition: no server was set before the modem comes up
  again, and at `loc_eng_agps_init` each server that was set
  has been set directly since the modem came up.
-/
def Direct
    (h : List (Event ρ ν F))
    (e : Event ρ ν F) : Prop :=
  Completes e →
    ∀ type,
      (lastSetting type h).isSome = true →
        isUp e = false ∧ KnownToModem type h

/- Settings of the two servers, with hosts that resolve. -/
def Admitted
    (P : Platform ν F)
    (i : Input ρ) : Prop :=
  ∀ type hostname port,
    i = .setServerProxy type hostname port →
      Sendable P.resolve type hostname

theorem lastSetting_concat
    (type : LocServerType)
    (h : List (Event ρ ν F))
    (e : Event ρ ν F) :
    lastSetting type (h ++ [e]) =
      (e.input.setting type).or (lastSetting type h) := by
  unfold lastSetting
  rw [List.filterMap_append, List.getLast?_append]
  cases hSetting : e.input.setting type with
  | none => simp [hSetting]
  | some s => simp [hSetting]

theorem lastServer_concat
    (type : LocServerType)
    (h : List (Event ρ ν F))
    (e : Event ρ ν F) :
    lastServer type (h ++ [e]) =
      (serverMsgs type e.output).getLast?.or
        (if isUp e then none else lastServer type h) := by
  unfold lastServer sentSinceUp
  rw [List.foldl_concat, List.getLast?_append]
  cases isUp e <;> rfl

theorem knownToModem_concat
    (type : LocServerType)
    (h : List (Event ρ ν F))
    (e : Event ρ ν F) :
    KnownToModem type (h ++ [e]) ↔
      setDirectly type e = true ∨
        (KnownToModem type h ∧ isUp e = false) := by
  unfold KnownToModem
  rw [History.open_concat, Bool.not_eq_true]

end Eng

end D2Common

------------------------------------------------------------
-- What The Modem Knows
------------------------------------------------------------

namespace D2Common

namespace Eng

variable {ρ ν F : Type}

/-
  The invariant: the buffers are empty when there is an
  adapter, and the modem knows the last setting of a server
  that was set directly since it came up, and no other.
-/
structure Settled
    (P : Platform ν F)
    (h : List (Event ρ ν F))
    (d : LocEngData ρ ν) : Prop where
  emptied : d.adapter.isSome = true → Emptied d
  adapter :
    ∀ type, KnownToModem type h → d.adapter.isSome = true
  known :
    ∀ type,
      KnownToModem type h →
        ∃ hostname port,
          lastSetting type h = some (hostname, port) ∧
            lastServer type h =
              some (serverMsg P.resolve type hostname port)
  unknown :
    ∀ type,
      ¬ KnownToModem type h → lastServer type h = none

theorem settled_nil
    (P : Platform ν F) :
    Settled P [] (system (ρ := ρ) P).init where
  emptied hAdapter := by contradiction
  adapter _ hKnown := (History.not_open_nil hKnown).elim
  known _ hKnown := (History.not_open_nil hKnown).elim
  unknown _ _ := rfl

/- The adapter stays, and with it the buffers are empty. -/
theorem emptied_step
    (P : Platform ν F)
    {d : LocEngData ρ ν}
    (hEmptied : d.adapter.isSome = true → Emptied d)
    (i : Input ρ) :
    (d.adapter.isSome = true →
        (step P d i).1.adapter.isSome = true) ∧
      ((step P d i).1.adapter.isSome = true →
        Emptied (step P d i).1) := by
  by_cases hOther : i.setsServer = false
  · have hFrame := frame_step P d hOther
    rw [hFrame.adapter]
    refine ⟨id, ?_⟩
    intro hAdapter
    have hd := hEmptied hAdapter
    exact
      ⟨hFrame.supl_host ▸ hd.supl_host,
        hFrame.c2k_host ▸ hd.c2k_host⟩
  · cases hAdapter : d.adapter with
    | none =>
        refine ⟨by simp, ?_⟩
        cases i with
        | init callbacks setCapabilities nmea1Hz =>
            intro _
            simp only [step, locEngInit, hAdapter]
            exact ⟨rfl, rfl⟩
        | setServerProxy type hostname port =>
            intro hSome
            cases type <;>
              simp [step, setServerProxy, hAdapter] at hSome
        | _ => exact absurd rfl hOther
    | some a =>
        have hd := hEmptied (by simp [hAdapter])
        cases i with
        | init callbacks setCapabilities nmea1Hz =>
            simp only [step, locEngInit, hAdapter]
            exact ⟨fun _ => rfl, fun _ => hd⟩
        | setServerProxy type hostname port =>
            simp only [step, setServerProxy, hAdapter]
            exact ⟨fun _ => rfl, fun _ => hd⟩
        | _ => exact absurd rfl hOther

/- A step that sets no server sends nothing to one. -/
theorem lastServer_of_other
    (P : Platform ν F)
    {h : List (Event ρ ν F)}
    {d : LocEngData ρ ν}
    (hEmptied : d.adapter.isSome = true → Emptied d)
    {i : Input ρ}
    (hOther :
      ∀ type hostname port,
        i ≠ .setServerProxy type hostname port)
    (type : LocServerType) :
    lastServer type (h ++ [(system P).event d i]) =
      if isUp ((system P).event d i) then none
      else lastServer type h := by
  rw [lastServer_concat]
  have hNone := serverMsgs_step type P hEmptied hOther
  rw [show ((system P).event d i).output =
    (step P d i).2 from rfl, hNone]
  rfl

/- A step that sets no server. -/
theorem settled_of_other
    (P : Platform ν F)
    {h : List (Event ρ ν F)}
    {d : LocEngData ρ ν}
    (hSettled : Settled P h d)
    {i : Input ρ}
    (hOther :
      ∀ type hostname port,
        i ≠ .setServerProxy type hostname port) :
    Settled P (h ++ [(system P).event d i]) (step P d i).1 := by
  have hAfter := emptied_step P hSettled.emptied i
  have hSetting : ∀ type, i.setting type = none := by
    intro type
    cases i with
    | setServerProxy type hostname port =>
        exact absurd rfl (hOther type hostname port)
    | _ => rfl
  have hServer :=
    lastServer_of_other (h := h) P hSettled.emptied hOther
  have hKnown :
      ∀ type,
        KnownToModem type (h ++ [(system P).event d i]) ↔
          KnownToModem type h ∧
            isUp ((system P).event d i) = false := by
    intro type
    rw [knownToModem_concat]
    simp [setDirectly, Transducer.event, hSetting type]
  refine ⟨hAfter.2, ?_, ?_, ?_⟩
  · intro type hNow
    exact hAfter.1
      (hSettled.adapter type ((hKnown type).mp hNow).1)
  · intro type hNow
    rcases (hKnown type).mp hNow with ⟨hBefore, hUp⟩
    rw [lastSetting_concat, hServer type, hUp]
    rw [show ((system P).event d i).input = i from rfl,
      hSetting type]
    exact hSettled.known type hBefore
  · intro type hNow
    rw [hServer type]
    cases hUp : isUp ((system P).event d i) with
    | true => rfl
    | false =>
        apply hSettled.unknown type
        intro hBefore
        exact hNow ((hKnown type).mpr ⟨hBefore, hUp⟩)

/- A setting is sent if there is an adapter. -/
theorem serverMsgs_setServerProxy
    (P : Platform ν F)
    (d : LocEngData ρ ν)
    {type' : LocServerType}
    {hostname : CString}
    (hSendable : Sendable P.resolve type' hostname)
    (port : BitVec 32)
    (type : LocServerType) :
    serverMsgs type
        (setServerProxy P d type' hostname port).2 =
      if d.adapter.isSome = true ∧ type' = type
      then [serverMsg P.resolve type' hostname port]
      else [] := by
  cases hAdapter : d.adapter with
  | none =>
      rcases hSendable.buffered with rfl | rfl <;>
        simp [setServerProxy, hAdapter, serverMsgs]
  | some a =>
      simp only [setServerProxy, hAdapter,
        setServer_of_sendable hSendable]
      simpa using
        serverMsgs_serverMsg P.resolve type type' hostname
          port

theorem settled_of_setServerProxy
    (P : Platform ν F)
    {h : List (Event ρ ν F)}
    {d : LocEngData ρ ν}
    (hSettled : Settled P h d)
    {type' : LocServerType}
    {hostname : CString}
    (hSendable : Sendable P.resolve type' hostname)
    (port : BitVec 32) :
    Settled P
      (h ++ [(system P).event d
        (.setServerProxy type' hostname port)])
      (step P d (.setServerProxy type' hostname port)).1 := by
  have hAfter :=
    emptied_step P hSettled.emptied
      (.setServerProxy type' hostname port)
  have hServer :
      ∀ type,
        lastServer type
            (h ++ [(system P).event d
              (.setServerProxy type' hostname port)]) =
          if d.adapter.isSome = true ∧ type' = type
          then
            some (serverMsg P.resolve type' hostname port)
          else lastServer type h := by
    intro type
    rw [lastServer_concat]
    have hMsgs :=
      serverMsgs_setServerProxy P d hSendable port type
    rw [show ((system P).event d
        (.setServerProxy type' hostname port)).output =
      (setServerProxy P d type' hostname port).2 from rfl,
      hMsgs]
    split <;> rfl
  have hKnown :
      ∀ type,
        KnownToModem type
            (h ++ [(system P).event d
              (.setServerProxy type' hostname port)]) ↔
          (d.adapter.isSome = true ∧ type' = type) ∨
            KnownToModem type h := by
    intro type
    rw [knownToModem_concat]
    by_cases hSame : type' = type <;>
      simp [setDirectly, Transducer.event, Input.setting,
        isUp, hSame]
  refine ⟨hAfter.2, ?_, ?_, ?_⟩
  · intro type hNow
    apply hAfter.1
    rcases (hKnown type).mp hNow with hDirect | hBefore
    · exact hDirect.1
    · exact hSettled.adapter type hBefore
  · intro type hNow
    rw [lastSetting_concat, hServer type]
    by_cases hSame : type' = type
    · subst hSame
      have hAdapter : d.adapter.isSome = true := by
        rcases (hKnown type').mp hNow with hDirect | hBefore
        · exact hDirect.1
        · exact hSettled.adapter type' hBefore
      refine ⟨hostname, port, ?_, ?_⟩
      · simp [Transducer.event, Input.setting]
      · simp [hAdapter]
    · rcases (hKnown type).mp hNow with hDirect | hBefore
      · exact absurd hDirect.2 hSame
      · simpa [Transducer.event, Input.setting, hSame]
          using hSettled.known type hBefore
  · intro type hNow
    rw [hServer type, if_neg]
    · apply hSettled.unknown type
      intro hBefore
      exact hNow ((hKnown type).mpr (Or.inr hBefore))
    · intro hDirect
      exact hNow ((hKnown type).mpr (Or.inl hDirect))

theorem settled_step
    (P : Platform ν F)
    {h : List (Event ρ ν F)}
    {d : LocEngData ρ ν}
    (hSettled : Settled P h d)
    {i : Input ρ}
    (hAdmitted : Admitted P i) :
    Settled P (h ++ [(system P).event d i]) (step P d i).1 := by
  cases i with
  | setServerProxy type hostname port =>
      exact settled_of_setServerProxy P hSettled
        (hAdmitted type hostname port rfl) port
  | _ =>
      apply settled_of_other P hSettled
      intro type hostname port hInput
      contradiction

/-
  The last message to a server after one of the two calls
  has completed: they send nothing.
-/
theorem lastServer_of_completes
    (P : Platform ν F)
    {h : List (Event ρ ν F)}
    {d : LocEngData ρ ν}
    (hSettled : Settled P h d)
    {i : Input ρ}
    (hCompletes : Completes ((system P).event d i))
    (type : LocServerType) :
    lastServer type (h ++ [(system P).event d i]) =
      if isUp ((system P).event d i) then none
      else lastServer type h := by
  have hOther :
      ∀ type hostname port,
        i ≠ .setServerProxy type hostname port := by
    rintro type hostname port rfl
    exact hCompletes
  exact lastServer_of_other P hSettled.emptied hOther type

theorem current_iff
    (P : Platform ν F)
    {h : List (Event ρ ν F)}
    {d : LocEngData ρ ν}
    (hSettled : Settled P h d)
    (i : Input ρ) :
    Current P h ((system P).event d i) ↔
      Direct h ((system P).event d i) := by
  constructor
  · intro hCurrent hCompletes type hSet
    rcases Option.isSome_iff_exists.mp hSet with
      ⟨⟨hostname, port⟩, hSetting⟩
    have hLast :=
      hCurrent hCompletes type hostname port hSetting
    rw [lastServer_of_completes P hSettled hCompletes type]
      at hLast
    cases hUp : isUp ((system P).event d i) with
    | true => simp [hUp] at hLast
    | false =>
        refine ⟨rfl, ?_⟩
        by_contra hUnknown
        rw [hUp, hSettled.unknown type hUnknown] at hLast
        simp at hLast
  · intro hDirect hCompletes type hostname port hSetting
    rcases hDirect hCompletes type (by simp [hSetting]) with
      ⟨hUp, hKnown⟩
    rw [lastServer_of_completes P hSettled hCompletes type,
      hUp]
    rcases hSettled.known type hKnown with
      ⟨hostname', port', hSetting', hServer⟩
    rw [hSetting] at hSetting'
    cases hSetting'
    exact hServer

/-
  In every run the servers are current if and only if each
  of them has been set directly since the modem came up.
-/
theorem servers_current_iff
    (P : Platform ν F)
    (is : List (Input ρ))
    (hAdmitted : ∀ i ∈ is, Admitted P i) :
    History.Along (Current P) ((system P).history is) ↔
      History.Along Direct ((system P).history is) := by
  apply (system P).along_congr (A := Admitted P)
    (I := Settled P) (settled_nil P) _ _ is hAdmitted
  · intro h d i hSettled hi
    exact settled_step P hSettled hi
  · intro h d i hSettled _
    exact current_iff P hSettled i

/- A SUPL server that is set after `loc_eng_init`. -/
def serverAfterInit : List (Input Unit) :=
  [.init ⟨true, true, true, true⟩ false false,
    .setServerProxy .supl ['h'] 7275,
    .agpsInit (some true)]

theorem servers_current_iff_afterInit :
    History.Along (Current barePlatform)
        ((system barePlatform).history serverAfterInit) ↔
      History.Along Direct
        ((system barePlatform).history serverAfterInit) := by
  apply servers_current_iff barePlatform serverAfterInit
  intro i hi type hostname port hInput
  subst hInput
  simp only [serverAfterInit, List.mem_cons,
    List.not_mem_nil, reduceCtorEq, or_false, false_or,
    Input.setServerProxy.injEq] at hi
  rcases hi with ⟨rfl, rfl, rfl⟩
  exact ⟨Or.inl rfl, by decide, rfl⟩

/- The same server set before. -/
def serverBeforeInit : List (Input Unit) :=
  [.setServerProxy .supl ['h'] 7275,
    .init ⟨true, true, true, true⟩ false false,
    .agpsInit (some true)]

theorem serverBeforeInit_not_current :
    ¬ History.Along (Current barePlatform)
        ((system barePlatform).history serverBeforeInit) := by
  intro hAlong
  rw [History.along_iff_take] at hAlong
  have hLast := hAlong 2 (by decide)
  have hSent :=
    hLast ⟨rfl, rfl⟩ .supl ['h'] 7275 (by decide)
  exact absurd hSent (by decide)

end Eng

end D2Common
