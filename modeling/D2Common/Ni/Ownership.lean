import D2Common.Foundations.Custody
import D2Common.Ni.Cancelled

/-
  Who owns the payload of a request.

  A payload is handed to the request handler. From there it
  goes to a record, from a record to a message, and with a
  message to the queue of the adapter, where the destructor
  of the message frees it. The handler frees it when it is
  busy, and does not before the module has been set up.

  Key definitions include:
    * `WithQueue`
    * `held`
    * `owners`
    * `Heard`

  Key theorems include:
    * `balanced_ni`
    * `owned_step`
    * `owned_once_iff`
-/

------------------------------------------------------------
-- Messages In The Queue
------------------------------------------------------------

namespace D2Common

namespace Ni

variable {ρ : Type}

/- The module and the messages queued at the adapter. -/
structure WithQueue (ρ : Type) where
  ni : NiData ρ
  queued : List (InformNiResponse ρ)
deriving DecidableEq

/-
  A step of the module, or the first message leaves the
  queue: it is run and deleted, or only deleted.
-/
inductive QueueInput (ρ : Type) where
  | ni (i : Input ρ)
  | consume (run : Bool)
deriving DecidableEq

/-
  What the module does, the call of `informNiResponse`, and
  a payload freed by the destructor of its message.
-/
inductive QueueOutput (ρ : Type) where
  | ni (f : Effect ρ)
  | informNiResponse (mResponse : CInt) (mPayload : Request ρ)
  | destructed (r : Request ρ)
deriving DecidableEq

/- The message that an effect puts into the queue. -/
def Effect.queues : Effect ρ → Option (InformNiResponse ρ)
| .sendMsg msg => some msg
| _ => none

/- `LocEngInformNiResponse::proc`. -/
def InformNiResponse.proc
    (msg : InformNiResponse ρ) : QueueOutput ρ :=
  .informNiResponse msg.mResponse msg.mPayload

/- `~LocEngInformNiResponse`. -/
def InformNiResponse.destruct
    (msg : InformNiResponse ρ) : QueueOutput ρ :=
  .destructed msg.mPayload

def queueStep
    (m : WithQueue ρ) :
    QueueInput ρ → WithQueue ρ × List (QueueOutput ρ)
| .ni i =>
    let (ni, out) := step m.ni i
    ({ ni := ni
       queued := m.queued ++ out.filterMap Effect.queues },
      out.map .ni)
| .consume run =>
    match m.queued with
    | [] => (m, [])
    | msg :: queued =>
        ({ m with queued := queued },
          (if run then [msg.proc] else []) ++ [msg.destruct])

/- The module and the queue from the zeroed state on. -/
def queueSystem :
    Transducer (WithQueue ρ) (QueueInput ρ)
      (QueueOutput ρ) where
  init := ⟨NiData.zero, []⟩
  step := queueStep

/- One step of a run. -/
abbrev QueueEvent (ρ : Type) :=
  Transducer.Event (WithQueue ρ) (QueueInput ρ)
    (QueueOutput ρ)

end Ni

end D2Common

------------------------------------------------------------
-- Where Payloads Are
------------------------------------------------------------

namespace D2Common

namespace Ni

variable {ρ : Type}

/- The payloads that are held as `rawRequest`. -/
def rawRequests (d : NiData ρ) : List (Request ρ) :=
  d.session.rawRequest.toList ++
    d.sessionEs.rawRequest.toList

/- The payload of the message that a thread leaves with. -/
def Thread.payload (th : Thread ρ) : Option (Request ρ) :=
  match th.phase with
  | .leaving (some msg) => some msg.mPayload
  | _ => none

/- The payloads of messages that are not queued yet. -/
def carried (d : NiData ρ) : List (Request ρ) :=
  d.threads.filterMap Thread.payload

/- The payloads that belong to a message. -/
def messages (m : WithQueue ρ) : List (Request ρ) :=
  carried m.ni ++
    m.queued.map InformNiResponse.mPayload

/- The payload that an effect frees. -/
def Effect.frees : Effect ρ → Option (Request ρ)
| .free r => some r
| _ => none

/- The payload that an output frees. -/
def QueueOutput.frees : QueueOutput ρ → Option (Request ρ)
| .ni f => f.frees
| .informNiResponse _ _ => none
| .destructed r => some r

/- The payload handed to the request handler in a step. -/
def broughtBy
    (d : NiData ρ) : Input ρ → List (Request ρ)
| .request _ passThrough _ => (d.bring passThrough).toList
| _ => []

/- A payload that comes before `loc_eng_ni_init`. -/
def lostBy
    (d : NiData ρ)
    (i : Input ρ) : List (Request ρ) :=
  if d.hasNotifyCb then [] else broughtBy d i

/- Before `loc_eng_ni_init` no request is taken up. -/
def Quiet (d : NiData ρ) : Prop :=
  d.hasNotifyCb = false →
    d.session.rawRequest = none ∧
      d.sessionEs.rawRequest = none

/- One step of the module keeps the balance. -/
def Balances
    (d : NiData ρ)
    (i : Input ρ)
    (d' : NiData ρ)
    (out : List (Effect ρ)) : Prop :=
  ((rawRequests d ++ carried d) ++ broughtBy d i).Perm
    ((rawRequests d' ++ carried d') ++
      ((out.filterMap Effect.queues).map
          InformNiResponse.mPayload ++
        (out.filterMap Effect.frees ++ lostBy d i)))

end Ni

end D2Common

------------------------------------------------------------
-- One Step Of The Module
------------------------------------------------------------

namespace D2Common

namespace Ni

variable {ρ : Type}

/- A record gives up its payload for another. -/
theorem rawRequests_put
    (d : NiData ρ)
    (x : SessionName)
    (p : Session ρ) :
    (rawRequests d ++ p.rawRequest.toList).Perm
      (rawRequests (d.put x p) ++
        (d.get x).rawRequest.toList) := by
  classical
  apply List.perm_iff_count.mpr
  intro r
  cases x with
  | session =>
      simp only [rawRequests, NiData.put, NiData.get,
        List.count_append]
      omega
  | sessionEs =>
      simp only [rawRequests, NiData.put, NiData.get,
        List.count_append]
      omega

theorem carried_put
    (d : NiData ρ)
    (x : SessionName)
    (p : Session ρ) :
    carried (d.put x p) = carried d := by
  simp [carried]

/- A thread gives up its payload for another. -/
theorem carried_move
    {d : NiData ρ}
    {t : Nat}
    {th : Thread ρ}
    (hThread : d.threads[t]? = some th)
    (phase : Phase ρ) :
    (carried d ++ (Thread.payload
        { th with phase := phase }).toList).Perm
      (carried (d.move t phase) ++ th.payload.toList) :=
  Custody.filterMap_modify_perm Thread.payload
    (fun th => { th with phase := phase }) hThread

theorem rawRequests_move
    (d : NiData ρ)
    (t : Nat)
    (phase : Phase ρ) :
    rawRequests (d.move t phase) = rawRequests d := rfl

/- A thread that is early has no message. -/
theorem payload_of_early
    {th : Thread ρ}
    (hEarly : th.phase.early = true) :
    th.payload = none := by
  unfold Thread.payload
  cases hPhase : th.phase with
  | starting => rfl
  | waiting => rfl
  | leaving msg =>
      rw [hPhase] at hEarly
      contradiction
  | gone => rfl

/-
  What the locked section takes out of a record is in the
  message, or is freed.
-/
theorem taken_split
    (p : Session ρ) :
    p.rawRequest.toList =
      (p.message.map InformNiResponse.mPayload).toList ++
        p.ignored.filterMap Effect.frees := by
  unfold Session.message Session.ignored
  cases hRaw : p.rawRequest with
  | none => simp
  | some r =>
      by_cases hIgnore : p.resp = ignore
      · simp [hIgnore, Effect.frees]
      · simp [hIgnore]

theorem queues_ignored
    (p : Session ρ) :
    p.ignored.filterMap Effect.queues = [] := by
  apply List.filterMap_eq_nil_iff.mpr
  intro f hf
  rcases ignored_output hf with ⟨r, -, -, rfl⟩
  rfl

theorem payload_leaving
    (th : Thread ρ)
    (msg : Option (InformNiResponse ρ)) :
    Thread.payload { th with phase := .leaving msg } =
      msg.map InformNiResponse.mPayload := by
  cases msg <;> rfl

theorem balances_took
    {d : NiData ρ}
    {t : Nat}
    {th : Thread ρ}
    (hThread : d.threads[t]? = some th)
    (hEarly : th.phase.early = true)
    (turn : Turn)
    {p : Session ρ}
    (hRaw :
      p.rawRequest = (d.get th.pSession).rawRequest) :
    Balances d (.thread t turn)
      (lockedSection d t th.pSession p).1
      (lockedSection d t th.pSession p).2 := by
  have hPut := rawRequests_put d th.pSession p.taken
  have hMove :=
    carried_move
      (d := d.put th.pSession p.taken)
      (by simpa using hThread) (.leaving p.message)
  rw [payload_of_early hEarly, payload_leaving,
    carried_put] at hMove
  rw [← hRaw, taken_split p] at hPut
  unfold Balances lockedSection
  dsimp only
  rw [queues_ignored, rawRequests_move]
  classical
  apply List.perm_iff_count.mpr
  intro r
  have hRecord := hPut.count_eq r
  have hThreads := hMove.count_eq r
  simp only [List.count_append, rawRequest_taken,
    Option.toList_none, List.count_nil, broughtBy, lostBy,
    ite_self, List.map_nil] at hRecord hThreads ⊢
  omega

end Ni

end D2Common

------------------------------------------------------------
-- Every Step Of The Module
------------------------------------------------------------

namespace D2Common

namespace Ni

variable {ρ : Type}

/- Steps that leave all payloads where they are. -/
theorem balances_same
    {d d' : NiData ρ}
    {i : Input ρ}
    {out : List (Effect ρ)}
    (hRaw : rawRequests d' = rawRequests d)
    (hCarried : carried d' = carried d)
    (hNone : broughtBy d i = [])
    (hOut : out = []) :
    Balances d i d' out := by
  unfold Balances
  rw [hRaw, hCarried, hOut, lostBy, hNone]
  simp

theorem rawRequests_of_get
    {d d' : NiData ρ}
    (hGet :
      ∀ x, (d'.get x).rawRequest = (d.get x).rawRequest) :
    rawRequests d' = rawRequests d :=
  congrArg₂ (fun a b => a.toList ++ b.toList)
    (hGet .session) (hGet .sessionEs)

theorem balances_refused
    (d : NiData ρ)
    (notif : Notification)
    (passThrough : Option ρ)
    (created : Bool)
    (hRefused :
      d.hasNotifyCb = true →
        pSession d notif.ni_type = none) :
    Balances d (.request notif passThrough created)
      (requestHandler d notif passThrough created).1
      (requestHandler d notif passThrough created).2 := by
  unfold Balances requestHandler broughtBy lostBy
  cases hReady : d.hasNotifyCb with
  | false => simp [rawRequests, carried, broughtBy]
  | true =>
      rw [hRefused hReady]
      change
        List.Perm
          (_ ++ (passThrough.map (Request.mk d.calls)).toList)
          _
      cases passThrough with
      | none => simp [rawRequests, carried]
      | some payload =>
          simp [rawRequests, carried, Effect.queues,
            Effect.frees, List.filterMap_cons]

theorem balances_saved
    (d : NiData ρ)
    (x : SessionName)
    (notif : Notification)
    (passThrough : Option ρ)
    (created : Bool)
    (hReady : d.hasNotifyCb = true)
    (hFree : pSession d notif.ni_type = some x) :
    Balances d (.request notif passThrough created)
      (saveRequest d x notif (d.bring passThrough) created).1
      (saveRequest d x notif (d.bring passThrough)
        created).2 := by
  let p :=
    (d.get x).saved (d.bring passThrough)
      (d.reqIDCounter + 1) notif.timeout
  let d' :=
    (saveRequest d x notif (d.bring passThrough) created).1
  have hEmpty : (d.get x).rawRequest = none := by
    simpa [Session.busy] using (not_busy_of_pSession hFree).1
  have hRaw : rawRequests d' = rawRequests (d.put x p) :=
    rfl
  have hCarried : carried d' = carried d := by
    have hStarting :
        (if created then
            [(⟨d.calls, x, .starting⟩ : Thread ρ)]
          else []).filterMap Thread.payload = [] := by
      cases created <;> rfl
    change
      List.filterMap Thread.payload (d.threads ++ _) = _
    rw [List.filterMap_append, hStarting, List.append_nil]
    rfl
  have hPut := rawRequests_put d x p
  have hOut :
      (saveRequest d x notif (d.bring passThrough)
          created).2.filterMap Effect.queues = [] ∧
        (saveRequest d x notif (d.bring passThrough)
          created).2.filterMap Effect.frees = [] := by
    unfold saveRequest
    by_cases hMute : notif.notify_flags = privacyOverride <;>
      simp [hMute, Effect.queues, Effect.frees]
  unfold Balances
  change
    List.Perm _ ((rawRequests d' ++ carried d') ++ _)
  rw [hOut.1, hOut.2, hRaw, hCarried]
  classical
  apply List.perm_iff_count.mpr
  intro r
  have hRecord := hPut.count_eq r
  have hNew : p.rawRequest = d.bring passThrough := rfl
  rw [hEmpty, hNew] at hRecord
  simp only [List.count_append, broughtBy, lostBy, hReady,
    if_true, List.map_nil, List.count_nil,
    Option.toList_none] at hRecord ⊢
  omega

theorem balances_reset
    (d : NiData ρ)
    (hReady : d.hasNotifyCb = true) :
    Balances d .reset (resetOnEngineRestart d).1
      (resetOnEngineRestart d).2 := by
  have hDropped :
      ∀ p : Session ρ,
        p.dropped.filterMap Effect.queues = [] ∧
          p.dropped.filterMap Effect.frees =
            p.rawRequest.toList := by
    intro p
    unfold Session.dropped
    cases p.rawRequest with
    | none => exact ⟨rfl, rfl⟩
    | some r => exact ⟨rfl, rfl⟩
  have hSessions :
      rawRequests (resetOnEngineRestart d).1 = [] := by
    have hGet := get_resetOnEngineRestart d hReady
    change
      ((resetOnEngineRestart d).1.get .session
          ).rawRequest.toList ++
        ((resetOnEngineRestart d).1.get .sessionEs
          ).rawRequest.toList = []
    rw [hGet, hGet, rawRequest_reset, rawRequest_reset]
    rfl
  have hCarried :
      carried (resetOnEngineRestart d).1 = carried d := by
    unfold resetOnEngineRestart
    rw [if_neg (by simp [hReady])]
    rfl
  have hOut :
      (resetOnEngineRestart d).2 =
        d.sessionEs.dropped ++ d.session.dropped := by
    unfold resetOnEngineRestart
    rw [if_neg (by simp [hReady])]
  unfold Balances
  rw [hSessions, hCarried, hOut]
  classical
  apply List.perm_iff_count.mpr
  intro r
  simp only [List.filterMap_append, hDropped, rawRequests,
    broughtBy, lostBy, ite_self, List.count_append,
    List.map_nil, List.count_nil, List.append_nil]
  omega

theorem balances_left
    {d : NiData ρ}
    {t : Nat}
    {th : Thread ρ}
    {msg : Option (InformNiResponse ρ)}
    (hThread : d.threads[t]? = some th)
    (hPhase : th.phase = .leaving msg) :
    Balances d (.thread t .leave)
      (threadLeave d t th.pSession msg).1
      (threadLeave d t th.pSession msg).2 := by
  let p : Session ρ :=
    { d.get th.pSession with respTimeLeft := 0, reqID := 0 }
  have hPut := rawRequests_put d th.pSession p
  have hSame :
      p.rawRequest = (d.get th.pSession).rawRequest := rfl
  have hMove :=
    carried_move (d := d.put th.pSession p)
      (by simpa using hThread) .gone
  have hMsg :
      th.payload = msg.map InformNiResponse.mPayload := by
    unfold Thread.payload
    rw [hPhase]
    cases msg <;> rfl
  have hGone :
      Thread.payload { th with phase := (.gone : Phase ρ) } =
        none :=
    rfl
  have hOut :
      (((msg.map Effect.sendMsg).toList).filterMap
            Effect.queues).map InformNiResponse.mPayload =
          (msg.map InformNiResponse.mPayload).toList ∧
        ((msg.map Effect.sendMsg).toList).filterMap
          Effect.frees = [] := by
    cases msg with
    | none => exact ⟨rfl, rfl⟩
    | some msg => exact ⟨rfl, rfl⟩
  rw [hMsg, hGone, carried_put] at hMove
  rw [hSame] at hPut
  change
    Balances d (.thread t .leave)
      ((d.put th.pSession p).move t .gone)
      (msg.map Effect.sendMsg).toList
  unfold Balances
  rw [hOut.1, hOut.2, rawRequests_move]
  classical
  apply List.perm_iff_count.mpr
  intro r
  have hRecord := hPut.count_eq r
  have hThreads := hMove.count_eq r
  simp only [List.count_append, Option.toList_none,
    List.count_nil, broughtBy, lostBy,
    ite_self] at hRecord hThreads ⊢
  omega

/- Every step of the module keeps the balance. -/
theorem balanced_ni
    {d : NiData ρ}
    (hQuiet : Quiet d)
    (i : Input ρ) :
    Balances d i (step d i).1 (step d i).2 := by
  have hMove := move_of_step d i
  generalize hAfter : (step d i).1 = d' at hMove ⊢
  generalize hOutput : (step d i).2 = out at hMove ⊢
  cases hMove with
  | idle i hRequest hThread =>
      apply balances_same rfl rfl _ rfl
      cases i with
      | request notif passThrough created =>
          exact absurd rfl (hRequest _ _ _)
      | _ => rfl
  | init hFirst =>
      have hGet :
          ∀ x, ((init d).get x).rawRequest =
            (d.get x).rawRequest := by
        intro x
        rw [rawRequest_init d hFirst]
        cases x with
        | session => exact (hQuiet hFirst).1.symm
        | sessionEs => exact (hQuiet hFirst).2.symm
      have hThreads : (init d).threads = d.threads := by
        unfold init
        split <;> rfl
      apply balances_same (rawRequests_of_get hGet) _ rfl rfl
      unfold carried
      rw [hThreads]
  | refused notif passThrough created out hRefused hOut =>
      have hSame :=
        balances_refused d notif passThrough created hRefused
      rw [← hAfter, ← hOutput]
      exact hSame
  | saved x notif passThrough created hReady hFree =>
      exact balances_saved d x notif passThrough created
        hReady hFree
  | responded notif_id user_response x hReady hFound =>
      have hGet :
          ∀ y,
            ((respond d notif_id user_response).get
              y).rawRequest = (d.get y).rawRequest := by
        intro y
        rcases get_respond d notif_id user_response y with
          hEq | ⟨-, hEq⟩ | ⟨-, -, hEq⟩
        · rw [hEq]
        · rw [hEq]
          rfl
        · rw [hEq]
          rfl
      apply balances_same (rawRequests_of_get hGet) _ rfl rfl
      unfold carried
      rw [threads_respond]
  | reset hReady => exact balances_reset d hReady
  | parked t th hThread hPhase =>
      have hMoved := carried_move hThread .waiting
      have hBefore : th.payload = none := by
        apply payload_of_early
        rw [hPhase]
        rfl
      have hWaiting :
          Thread.payload
            { th with phase := (.waiting : Phase ρ) } = none :=
        rfl
      rw [hBefore, hWaiting] at hMoved
      unfold Balances
      rw [rawRequests_move]
      simpa [broughtBy, lostBy] using
        hMoved.append_left (rawRequests d)
  | took t turn th timedOut hThread hEarly hTimedOut hRecvd =>
      apply balances_took hThread hEarly
      cases timedOut <;> rfl
  | left t th msg hThread hPhase =>
      exact balances_left hThread hPhase

theorem quiet_step
    {d : NiData ρ}
    (hQuiet : Quiet d)
    (i : Input ρ) :
    Quiet (step d i).1 := by
  have hMove := move_of_step d i
  generalize (step d i).1 = d' at hMove ⊢
  generalize (step d i).2 = out at hMove
  intro hFirst
  have hBefore : d.hasNotifyCb = false := by
    cases hReady : d.hasNotifyCb with
    | false => rfl
    | true =>
        have hStays := hasNotifyCb_of_move hMove hReady
        rw [hFirst] at hStays
        contradiction
  have hNone :
      ∀ x, (d.get x).rawRequest = none →
        (d'.get x).rawRequest = none := by
    intro x hx
    cases hMove with
    | idle i hRequest hThread => exact hx
    | init hUnset =>
        unfold init at hFirst
        rw [if_neg (by simp [hUnset])] at hFirst
        contradiction
    | refused notif passThrough created out hRefused hOut =>
        cases x <;> exact hx
    | saved y notif passThrough created hReady hFree =>
        rw [hBefore] at hReady
        contradiction
    | responded notif_id user_response y hReady hFound =>
        rw [hBefore] at hReady
        contradiction
    | reset hReady =>
        rw [hBefore] at hReady
        contradiction
    | parked t th hThread hPhase =>
        rw [get_move]
        exact hx
    | took t turn th timedOut hThread hEarly hTimedOut
        hRecvd =>
        rw [get_lockedSection]
        split
        · rfl
        · exact hx
    | left t th msg hThread hPhase =>
        rw [get_threadLeave]
        split
        next hSame => exact hSame ▸ hx
        next => exact hx
  exact
    ⟨hNone .session (hQuiet hBefore).1,
      hNone .sessionEs (hQuiet hBefore).2⟩

end Ni

end D2Common

------------------------------------------------------------
-- All Runs
------------------------------------------------------------

namespace D2Common

namespace Ni

variable {ρ : Type}

/- The payloads that are in a record or in a message. -/
def held (m : WithQueue ρ) : List (Request ρ) :=
  rawRequests m.ni ++ messages m

/- The payloads handed over in a step. -/
def QueueInput.brings
    (m : WithQueue ρ) : QueueInput ρ → List (Request ρ)
| .ni i => broughtBy m.ni i
| .consume _ => []

/- The payloads that a step loses. -/
def QueueInput.loses
    (m : WithQueue ρ) : QueueInput ρ → List (Request ρ)
| .ni i => lostBy m.ni i
| .consume _ => []

/- All payloads handed to the request handler. -/
def brought
    (h : List (QueueEvent ρ)) : List (Request ρ) :=
  h.flatMap fun e => e.input.brings e.before

/- All payloads freed, as often as they are. -/
def freed (h : List (QueueEvent ρ)) : List (Request ρ) :=
  h.flatMap fun e => e.output.filterMap QueueOutput.frees

/- The payloads that came before the module was set up. -/
def lost (h : List (QueueEvent ρ)) : List (Request ρ) :=
  h.flatMap fun e => e.input.loses e.before

/- What a step keeps no more: it is freed, or lost. -/
def gone (h : List (QueueEvent ρ)) : List (Request ρ) :=
  h.flatMap fun e =>
    e.output.filterMap QueueOutput.frees ++
      e.input.loses e.before

/- The books balance, and payloads are told apart. -/
structure Owned
    (h : List (QueueEvent ρ))
    (m : WithQueue ρ) : Prop where
  balanced : Custody.Balanced (brought h) (held m) (gone h)
  numbered :
    Custody.Numbered Request.call (brought h) m.ni.calls
  quiet : Quiet m.ni

theorem owned_init :
    Owned [] ((queueSystem (ρ := ρ)).init) where
  balanced := Custody.balanced_nil
  numbered := Custody.numbered_nil 0
  quiet _ := ⟨rfl, rfl⟩

/- What a step of the module and the queue moves. -/
theorem balanced_queueStep
    {m : WithQueue ρ}
    (hQuiet : Quiet m.ni)
    (i : QueueInput ρ) :
    (held m ++ i.brings m).Perm
      (held (queueStep m i).1 ++
        ((queueStep m i).2.filterMap QueueOutput.frees ++
          i.loses m)) := by
  cases i with
  | ni i =>
      have hBalance := balanced_ni hQuiet i
      have hFrees :
          ((step m.ni i).2.map QueueOutput.ni).filterMap
              QueueOutput.frees =
            (step m.ni i).2.filterMap Effect.frees := by
        rw [List.filterMap_map]
        rfl
      classical
      apply List.perm_iff_count.mpr
      intro r
      have hCount := hBalance.count_eq r
      simp only [queueStep, held, messages,
        QueueInput.brings, QueueInput.loses, hFrees,
        List.map_append, List.count_append] at hCount ⊢
      omega
  | consume run =>
      unfold queueStep
      cases hQueued : m.queued with
      | nil =>
          simp [QueueInput.brings, QueueInput.loses]
      | cons msg queued =>
          have hFrees :
              ((if run then [msg.proc] else []) ++
                  [msg.destruct]).filterMap
                QueueOutput.frees = [msg.mPayload] := by
            cases run <;> rfl
          dsimp only
          rw [hFrees]
          classical
          apply List.perm_iff_count.mpr
          intro r
          simp only [held, messages, hQueued,
            QueueInput.brings, QueueInput.loses,
            List.map_cons, List.append_nil,
            List.count_append, List.count_cons,
            List.count_nil]
          omega

/- A message that leaves the queue changes nothing else. -/
theorem ni_consume
    (m : WithQueue ρ)
    (run : Bool) :
    (queueStep m (.consume run)).1.ni = m.ni := by
  cases hQueued : m.queued with
  | nil => simp [queueStep, hQueued]
  | cons msg queued => simp [queueStep, hQueued]

theorem calls_requestHandler
    (d : NiData ρ)
    (notif : Notification)
    (passThrough : Option ρ)
    (created : Bool) :
    (requestHandler d notif passThrough created).1.calls =
      d.calls + 1 := by
  unfold requestHandler
  split
  · rfl
  · dsimp only
    split
    · simp [saveRequest]
    · rfl

/- A payload is numbered by the call that brings it. -/
theorem brings_numbered
    {m : WithQueue ρ}
    {l : List (Request ρ)}
    (hNumbered :
      Custody.Numbered Request.call l m.ni.calls)
    (i : QueueInput ρ) :
    Custody.Numbered Request.call (l ++ i.brings m)
      (queueStep m i).1.ni.calls := by
  have hOther :
      i.brings m = [] →
        Custody.Numbered Request.call (l ++ i.brings m)
          (queueStep m i).1.ni.calls := by
    intro hNone
    rw [hNone, List.append_nil]
    apply hNumbered.mono
    cases i with
    | ni i => exact calls_of_move (move_of_step m.ni i)
    | consume run =>
        have hSame := congrArg NiData.calls (ni_consume m run)
        exact Nat.le_of_eq hSame.symm
  cases hBrings : i.brings m with
  | nil => exact hBrings ▸ hOther hBrings
  | cons r rest =>
      cases i with
      | consume run => contradiction
      | ni i =>
          cases i with
          | request notif passThrough created =>
              change
                Custody.Numbered _ _
                  (requestHandler m.ni notif passThrough
                    created).1.calls
              rw [calls_requestHandler]
              cases passThrough with
              | none => contradiction
              | some payload =>
                  have hOne :
                      [(⟨m.ni.calls, payload⟩ :
                          Request ρ)] = r :: rest :=
                    hBrings
                  rw [← hOne]
                  exact hNumbered.concat rfl
          | init => contradiction
          | respond notif_id user_response => contradiction
          | reset => contradiction
          | thread t turn => contradiction

theorem owned_step
    {h : List (QueueEvent ρ)}
    {m : WithQueue ρ}
    (hOwned : Owned h m)
    (i : QueueInput ρ) :
    Owned (h ++ [queueSystem.event m i])
      (queueStep m i).1 := by
  constructor
  · unfold brought gone
    rw [List.flatMap_append, List.flatMap_append,
      List.flatMap_singleton, List.flatMap_singleton]
    exact
      hOwned.balanced.concat
        (balanced_queueStep hOwned.quiet i)
  · unfold brought
    rw [List.flatMap_append, List.flatMap_singleton]
    exact brings_numbered hOwned.numbered i
  · cases i with
    | ni i => exact quiet_step hOwned.quiet i
    | consume run =>
        rw [ni_consume]
        exact hOwned.quiet

theorem owned_run
    (is : List (QueueInput ρ)) :
    Owned (queueSystem.history is) (queueSystem.run is) :=
  queueSystem.history_induction_of_all owned_init
    (fun _ _ i hOwned => owned_step hOwned i) is

variable [DecidableEq ρ]

/-
  How many own a payload: the records that hold it, the
  messages it belongs to, and the times it has been freed.
-/
def owners
    (h : List (QueueEvent ρ))
    (m : WithQueue ρ)
    (r : Request ρ) : Nat :=
  (rawRequests m.ni).count r + (messages m).count r +
    (freed h).count r

/- A payload is owned once, or it has been lost. -/
theorem owners_or_lost
    {h : List (QueueEvent ρ)}
    {m : WithQueue ρ}
    (hOwned : Owned h m)
    {r : Request ρ}
    (hr : r ∈ brought h) :
    owners h m r + (lost h).count r = 1 := by
  have hOnce :=
    hOwned.balanced.count_eq_one hOwned.numbered.nodup hr
  have hGone :
      (gone h).count r =
        (freed h).count r + (lost h).count r := by
    rw [← List.count_append]
    exact
      (List.flatMap_append_perm h _ _).symm.count_eq r
  unfold owners
  rw [hGone, held, List.count_append] at hOnce
  omega

/-
  Every payload that was handed over is held by exactly one
  session, or belongs to exactly one message, or has been
  freed exactly once.
-/
def OwnedOnce
    (h : List (QueueEvent ρ))
    (m : WithQueue ρ) : Prop :=
  ∀ r ∈ brought h, owners h m r = 1

instance
    (h : List (QueueEvent ρ))
    (m : WithQueue ρ) : Decidable (OwnedOnce h m) :=
  inferInstanceAs (Decidable (∀ r ∈ brought h, _))

theorem ownedOnce_iff
    {h : List (QueueEvent ρ)}
    {m : WithQueue ρ}
    (hOwned : Owned h m) :
    OwnedOnce h m ↔ lost h = [] := by
  constructor
  · intro hOnce
    apply List.eq_nil_iff_forall_not_mem.mpr
    intro r hr
    have hBrought : r ∈ brought h := by
      rcases List.mem_flatMap.mp hr with ⟨e, he, hLost⟩
      refine List.mem_flatMap.mpr ⟨e, he, ?_⟩
      revert hLost
      cases e.input with
      | ni i =>
          change r ∈ lostBy _ i → r ∈ broughtBy _ i
          unfold lostBy
          split
          · simp
          · exact id
      | consume run => exact id
    have hSum := owners_or_lost hOwned hBrought
    have hPos := List.count_pos_iff.mpr hr
    rw [hOnce r hBrought] at hSum
    omega
  · intro hNone r hr
    have hSum := owners_or_lost hOwned hr
    rw [hNone] at hSum
    simpa using hSum

/-
  The condition: no request with a payload is handed to the
  module before `loc_eng_ni_init`.
-/
def Heard (e : QueueEvent ρ) : Prop :=
  ∀ notif payload created,
    e.input = .ni (.request notif (some payload) created) →
      e.before.ni.hasNotifyCb = true

omit [DecidableEq ρ] in
theorem loses_iff
    (m : WithQueue ρ)
    (i : QueueInput ρ) :
    i.loses m = [] ↔ Heard (queueSystem.event m i) := by
  constructor
  · intro hNone notif payload created hInput
    have hi :
        i = .ni (.request notif (some payload) created) :=
      hInput
    subst hi
    by_contra hUnset
    have hFalse : m.ni.hasNotifyCb = false :=
      (Bool.not_eq_true _).mp hUnset
    simp [QueueInput.loses, lostBy, hFalse, broughtBy,
      NiData.bring] at hNone
  · intro hHeard
    cases i with
    | consume run => rfl
    | ni i =>
        change lostBy m.ni i = []
        cases i with
        | request notif passThrough created =>
            cases passThrough with
            | none => simp [lostBy, broughtBy, NiData.bring]
            | some payload =>
                have hReady := hHeard notif payload created rfl
                exact if_pos hReady
        | _ => simp [lostBy, broughtBy]

/-
  In every run all payloads are owned exactly once, at any
  time, if and only if none comes before the module has been
  set up.
-/
theorem owned_once_iff
    (is : List (QueueInput ρ)) :
    (∀ js, js <+: is →
        OwnedOnce (queueSystem.history js)
          (queueSystem.run js)) ↔
      History.Along (fun _ e => Heard e)
        (queueSystem.history is) := by
  let I : List (QueueEvent ρ) → WithQueue ρ → Prop :=
    fun h m => Owned h m ∧ lost h = []
  have hStep :
      ∀ h m i, I h m →
        (I (h ++ [queueSystem.event m i])
            (queueStep m i).1 ↔
          Heard (queueSystem.event m i)) := by
    rintro h m i ⟨hOwned, hNone⟩
    rw [← loses_iff]
    have hLost :
        lost (h ++ [queueSystem.event m i]) = i.loses m := by
      unfold lost at hNone ⊢
      rw [List.flatMap_append, List.flatMap_singleton, hNone]
      rfl
    constructor
    · intro hAfter
      exact hLost.symm.trans hAfter.2
    · intro hLoses
      exact ⟨owned_step hOwned i, hLost.trans hLoses⟩
  rw [← queueSystem.forall_prefix_iff_along
    (C := fun _ e => Heard e) ⟨owned_init, rfl⟩ hStep]
  constructor
  · intro hAll js hPrefix
    have hOwned := owned_run js
    exact ⟨hOwned, (ownedOnce_iff hOwned).mp (hAll js hPrefix)⟩
  · intro hAll js hPrefix
    rcases hAll js hPrefix with ⟨hOwned, hNone⟩
    exact (ownedOnce_iff hOwned).mpr hNone

/- A request that comes before `loc_eng_ni_init`. -/
def earlyRequest : List (QueueInput Unit) :=
  [.ni (.request ⟨1, 0, 0⟩ (some ()) true)]

theorem earlyRequest_leaks :
    owners (queueSystem.history earlyRequest)
        (queueSystem.run earlyRequest) ⟨0, ()⟩ = 0 ∧
      ¬ ∀ js, js <+: earlyRequest →
        OwnedOnce (queueSystem.history js)
          (queueSystem.run js) := by
  refine ⟨by decide, ?_⟩
  intro hAll
  have hOnce := hAll earlyRequest (List.prefix_refl _)
  exact absurd hOnce (by decide)

end Ni

end D2Common
