import Mathlib.Data.List.Basic

/-
  Network-initiated requests: the handlers and the thread.

  The module keeps one record for ordinary requests and one
  for emergency requests. A request that is taken up fills
  its record and spawns a thread; the user's answer and a
  modem restart write to the record; the thread wakes, takes
  the payload out under the lock and leaves without it.

  A payload is named by the call that brought it, so that
  two requests never share one, whatever `malloc` does.

  Key definitions include:
    * `NiData`
    * `requestHandler`
    * `respond`
    * `resetOnEngineRestart`
    * `threadEnter`, `threadWake`, `threadLeave`
-/

------------------------------------------------------------
-- Data
------------------------------------------------------------

namespace D2Common

namespace Ni

/- A C `int`; the compiled counter wraps around. -/
abbrev CInt := BitVec 32

/- `GPS_NI_TYPE_EMERGENCY_SUPL`. -/
def emergencySupl : UInt32 := 4

/- `GPS_NI_PRIVACY_OVERRIDE`. -/
def privacyOverride : UInt32 := 4

/- `GPS_NI_RESPONSE_ACCEPT`. -/
def accept : CInt := 1

/- `GPS_NI_RESPONSE_NORESP`. -/
def noresp : CInt := 3

/- `GPS_NI_RESPONSE_IGNORE`. -/
def ignore : CInt := 4

/- `LOC_NI_NO_RESPONSE_TIME`, in seconds. -/
def noResponseTime : CInt := 20

/- The fields of `GpsNiNotification` that are acted on. -/
structure Notification where
  ni_type : UInt32
  notify_flags : UInt32
  timeout : CInt
deriving DecidableEq

/- A payload and the number of the call that brought it. -/
structure Request (ρ : Type) where
  call : Nat
  passThrough : ρ
deriving DecidableEq

/- `loc_eng_ni_session_s_type`. -/
structure Session (ρ : Type) where
  respTimeLeft : CInt
  respRecvd : Bool
  rawRequest : Option (Request ρ)
  reqID : CInt
  resp : CInt
deriving DecidableEq

/- The record that a thread was given as its argument. -/
inductive SessionName where
  | session
  | sessionEs
deriving DecidableEq

/- `LocEngInformNiResponse`. -/
structure InformNiResponse (ρ : Type) where
  mResponse : CInt
  mPayload : Request ρ
deriving DecidableEq

/-
  Where a thread is: before its first lock, blocked in
  `pthread_cond_timedwait`, past the unlock with the message
  it has made, or gone.
-/
inductive Phase (ρ : Type) where
  | starting
  | waiting
  | leaving (msg : Option (InformNiResponse ρ))
  | gone
deriving DecidableEq

/- A thread that runs `ni_thread_proc`, and the call that
spawned it. -/
structure Thread (ρ : Type) where
  call : Nat
  pSession : SessionName
  phase : Phase ρ
deriving DecidableEq

/-
  `loc_eng_ni_data_s_type`, whether `ni_notify_cb` is set,
  the threads in the order of their creation, and how often
  the request handler has been called.
-/
structure NiData (ρ : Type) where
  hasNotifyCb : Bool
  session : Session ρ
  sessionEs : Session ρ
  reqIDCounter : CInt
  threads : List (Thread ρ)
  calls : Nat
deriving DecidableEq

/-
  What becomes visible outside: the call of `ni_notify_cb`
  for a session and a request, a muted session, a payload
  that is freed, a message queued at the adapter.
-/
inductive Effect (ρ : Type) where
  | ni_notify_cb
      (x : SessionName)
      (call : Nat)
      (notification_id : CInt)
  | muteOneSession
  | free (r : Request ρ)
  | sendMsg (msg : InformNiResponse ρ)
deriving DecidableEq

variable {ρ : Type}

/- A record as `memset` leaves it. -/
def Session.zero : Session ρ :=
  ⟨0, false, none, 0, 0⟩

/- The record of a session. -/
def NiData.get
    (d : NiData ρ) : SessionName → Session ρ
| .session => d.session
| .sessionEs => d.sessionEs

/- The record of a session, replaced. -/
def NiData.put
    (d : NiData ρ)
    (x : SessionName)
    (p : Session ρ) : NiData ρ :=
  match x with
  | .session => { d with session := p }
  | .sessionEs => { d with sessionEs := p }

namespace NiData

@[simp] theorem get_put
    (d : NiData ρ)
    (x y : SessionName)
    (p : Session ρ) :
    (d.put x p).get y = if y = x then p else d.get y := by
  cases x <;> cases y <;> rfl

@[simp] theorem threads_put
    (d : NiData ρ)
    (x : SessionName)
    (p : Session ρ) :
    (d.put x p).threads = d.threads := by
  cases x <;> rfl

@[simp] theorem calls_put
    (d : NiData ρ)
    (x : SessionName)
    (p : Session ρ) :
    (d.put x p).calls = d.calls := by
  cases x <;> rfl

@[simp] theorem hasNotifyCb_put
    (d : NiData ρ)
    (x : SessionName)
    (p : Session ρ) :
    (d.put x p).hasNotifyCb = d.hasNotifyCb := by
  cases x <;> rfl

@[simp] theorem reqIDCounter_put
    (d : NiData ρ)
    (x : SessionName)
    (p : Session ρ) :
    (d.put x p).reqIDCounter = d.reqIDCounter := by
  cases x <;> rfl

end NiData

end Ni

end D2Common

------------------------------------------------------------
-- Handlers
------------------------------------------------------------

namespace D2Common

namespace Ni

variable {ρ : Type}

/- The module before anything has happened to it. -/
def NiData.zero : NiData ρ :=
  ⟨false, Session.zero, Session.zero, 0, [], 0⟩

/- `loc_eng_ni_init` with a callback; `resp` is not set. -/
def init (d : NiData ρ) : NiData ρ :=
  if d.hasNotifyCb then d
  else
    { d with
      sessionEs :=
        { Session.zero with resp := d.sessionEs.resp }
      session :=
        { Session.zero with resp := d.session.resp }
      hasNotifyCb := true }

/- Whether a request is in progress in a session. -/
def Session.busy (p : Session ρ) : Bool :=
  p.rawRequest.isSome

/- `pSession` of the request handler; `none` is `NULL`. -/
def pSession
    (d : NiData ρ)
    (ni_type : UInt32) : Option SessionName :=
  if ni_type = emergencySupl then
    if d.sessionEs.busy then none else some .sessionEs
  else if d.session.busy || d.sessionEs.busy then none
  else some .session

/- The seconds that the thread of a request waits. -/
def waitingTime (timeout : CInt) : CInt :=
  5 + (if timeout != 0 then timeout else noResponseTime)

/- The record of a request that is taken up. -/
def Session.saved
    (p : Session ρ)
    (r : Option (Request ρ))
    (reqID : CInt)
    (timeout : CInt) : Session ρ :=
  { p with
    rawRequest := r
    reqID := reqID
    respTimeLeft := waitingTime timeout }

/-
  The part of `loc_eng_ni_request_handler` for a request
  that is taken up. `created` says whether `pthread_create`
  succeeds.
-/
def saveRequest
    (d : NiData ρ)
    (x : SessionName)
    (notif : Notification)
    (r : Option (Request ρ))
    (created : Bool) : NiData ρ × List (Effect ρ) :=
  let reqID := d.reqIDCounter + 1
  let p := (d.get x).saved r reqID notif.timeout
  let thread : Thread ρ := ⟨d.calls, x, .starting⟩
  let muted :=
    if notif.notify_flags = privacyOverride
    then [.muteOneSession] else []
  ({ d.put x p with
      reqIDCounter := reqID
      threads :=
        d.threads ++ (if created then [thread] else [])
      calls := d.calls + 1 },
    muted ++ [.ni_notify_cb x d.calls reqID])

/- `loc_eng_ni_request_handler`. -/
def requestHandler
    (d : NiData ρ)
    (notif : Notification)
    (passThrough : Option ρ)
    (created : Bool) : NiData ρ × List (Effect ρ) :=
  let r := passThrough.map (Request.mk d.calls)
  if !d.hasNotifyCb then ({ d with calls := d.calls + 1 }, [])
  else
    match pSession d notif.ni_type with
    | some x => saveRequest d x notif r created
    | none =>
        ({ d with calls := d.calls + 1 },
          (r.map Effect.free).toList)

/- The session that `loc_eng_ni_respond` finds by its id. -/
def found
    (d : NiData ρ)
    (notif_id : CInt) : Option SessionName :=
  if notif_id = d.sessionEs.reqID && d.sessionEs.busy then
    some .sessionEs
  else if notif_id = d.session.reqID && d.session.busy then
    some .session
  else none

/- A response is written into a session's record. -/
def Session.signal
    (p : Session ρ)
    (resp : CInt) : Session ρ :=
  { p with resp := resp, respRecvd := true }

/- `loc_eng_ni_respond`. -/
def respond
    (d : NiData ρ)
    (notif_id : CInt)
    (user_response : CInt) : NiData ρ :=
  if !d.hasNotifyCb then d
  else
    match found d notif_id with
    | none => d
    | some .session =>
        { d with session := d.session.signal user_response }
    | some .sessionEs =>
        { d with
          session :=
            if user_response = accept && d.session.busy
            then d.session.signal ignore else d.session
          sessionEs := d.sessionEs.signal user_response }

/- What a modem restart does to a session's record. -/
def Session.reset (p : Session ρ) : Session ρ :=
  if p.busy then
    { p with rawRequest := none, respRecvd := true }
  else p

/- The payload that a modem restart frees. -/
def Session.dropped (p : Session ρ) : List (Effect ρ) :=
  (p.rawRequest.map Effect.free).toList

/- `loc_eng_ni_reset_on_engine_restart`. -/
def resetOnEngineRestart
    (d : NiData ρ) : NiData ρ × List (Effect ρ) :=
  if !d.hasNotifyCb then (d, [])
  else
    ({ d with
        session := d.session.reset
        sessionEs := d.sessionEs.reset },
      d.sessionEs.dropped ++ d.session.dropped)

end Ni

end D2Common

------------------------------------------------------------
-- The Thread
------------------------------------------------------------

namespace D2Common

namespace Ni

variable {ρ : Type}

/-
  What the thread makes of the payload: a message, or it
  frees the payload when the response is to be ignored.
-/
def Session.message
    (p : Session ρ) : Option (InformNiResponse ρ) :=
  if p.resp != ignore then
    p.rawRequest.map (InformNiResponse.mk p.resp)
  else none

/- The payload that the thread frees. -/
def Session.ignored (p : Session ρ) : List (Effect ρ) :=
  if p.resp != ignore then []
  else (p.rawRequest.map Effect.free).toList

/- The record when the thread unlocks it. -/
def Session.taken (p : Session ρ) : Session ρ :=
  { p with respRecvd := false, rawRequest := none }

/- A thread in another phase. -/
def NiData.move
    (d : NiData ρ)
    (t : Nat)
    (phase : Phase ρ) : NiData ρ :=
  { d with
    threads :=
      d.threads.modify t (fun th => { th with phase := phase }) }

/-
  `ni_thread_proc` from the end of its loop to the unlock,
  with the record as the loop leaves it.
-/
def lockedSection
    (d : NiData ρ)
    (t : Nat)
    (x : SessionName)
    (p : Session ρ) : NiData ρ × List (Effect ρ) :=
  ((d.put x p.taken).move t (.leaving p.message), p.ignored)

/- The thread locks its record for the first time. -/
def threadEnter
    (d : NiData ρ)
    (t : Nat)
    (x : SessionName) : NiData ρ × List (Effect ρ) :=
  if (d.get x).respRecvd then lockedSection d t x (d.get x)
  else (d.move t .waiting, [])

/-
  `pthread_cond_timedwait` returns, by a signal, by a time
  out or for no reason.
-/
def threadWake
    (d : NiData ρ)
    (t : Nat)
    (x : SessionName)
    (timedOut : Bool) : NiData ρ × List (Effect ρ) :=
  if timedOut then
    lockedSection d t x { d.get x with resp := noresp }
  else if (d.get x).respRecvd then
    lockedSection d t x (d.get x)
  else (d, [])

/- `ni_thread_proc` behind the unlock. -/
def threadLeave
    (d : NiData ρ)
    (t : Nat)
    (x : SessionName)
    (msg : Option (InformNiResponse ρ)) :
    NiData ρ × List (Effect ρ) :=
  let p := { d.get x with respTimeLeft := 0, reqID := 0 }
  ((d.put x p).move t .gone, (msg.map Effect.sendMsg).toList)

/- What happens next to a thread. -/
inductive Turn where
  | enter
  | wake (timedOut : Bool)
  | leave
deriving DecidableEq

/- One turn of a thread; a turn out of order does nothing. -/
def threadTurn
    (d : NiData ρ)
    (t : Nat)
    (turn : Turn) : NiData ρ × List (Effect ρ) :=
  match d.threads[t]? with
  | none => (d, [])
  | some th =>
      match turn, th.phase with
      | .enter, .starting => threadEnter d t th.pSession
      | .wake timedOut, .waiting =>
          threadWake d t th.pSession timedOut
      | .leave, .leaving msg => threadLeave d t th.pSession msg
      | _, _ => (d, [])

end Ni

end D2Common
