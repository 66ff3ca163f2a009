import D2Common.Foundations.Transducer
import D2Common.Ni.Handlers

/-
  Runs of the network-initiated module.

  The handlers, the part of the thread that holds the lock
  and the part behind it are atomic. A run is any order of
  these steps, with any answers and any time outs.

  Key definitions include:
    * `step`
    * `system`
    * `Move`

  Key theorems include:
    * `move_of_step`
    * `lastNotified_concat`
-/

------------------------------------------------------------
-- Steps
------------------------------------------------------------

namespace D2Common

namespace Ni

variable {ρ : Type}

/- The steps of the module. -/
inductive Input (ρ : Type) where
  | init
  | request
      (notif : Notification)
      (passThrough : Option ρ)
      (created : Bool)
  | respond (notif_id : CInt) (user_response : CInt)
  | reset
  | thread (t : Nat) (turn : Turn)
deriving DecidableEq

def step
    (d : NiData ρ) :
    Input ρ → NiData ρ × List (Effect ρ)
| .init => (init d, [])
| .request notif passThrough created =>
    requestHandler d notif passThrough created
| .respond notif_id user_response =>
    (respond d notif_id user_response, [])
| .reset => resetOnEngineRestart d
| .thread t turn => threadTurn d t turn

/- The module from its zeroed state on. -/
def system :
    Transducer (NiData ρ) (Input ρ) (Effect ρ) where
  init := NiData.zero
  step := step

/- One step of a run. -/
abbrev Event (ρ : Type) :=
  Transducer.Event (NiData ρ) (Input ρ) (Effect ρ)

/- Whether a thread has not yet been through its section. -/
def Phase.early : Phase ρ → Bool
| .starting => true
| .waiting => true
| .leaving _ => false
| .gone => false

/- The record as the loop of the thread leaves it. -/
def Session.loopExit
    (p : Session ρ)
    (timedOut : Bool) : Session ρ :=
  if timedOut then { p with resp := noresp } else p

/- The request of a handler call that brings a payload. -/
def NiData.bring
    (d : NiData ρ)
    (passThrough : Option ρ) : Option (Request ρ) :=
  passThrough.map (Request.mk d.calls)

/-
  What a step can do. There is one constructor for each way
  through the handlers and the thread that leaves a mark of
  its own; `idle` stands for all that leave none.
-/
inductive Move
    (d : NiData ρ) :
    Input ρ → NiData ρ → List (Effect ρ) → Prop
  | idle
      (i : Input ρ)
      (hRequest :
        ∀ notif passThrough created,
          i ≠ .request notif passThrough created)
      (hThread :
        ∀ t th msg,
          i = .thread t .leave →
            d.threads[t]? = some th →
              th.phase ≠ .leaving msg) :
      Move d i d []
  | init
      (hFirst : d.hasNotifyCb = false) :
      Move d .init (init d) []
  | refused
      (notif : Notification)
      (passThrough : Option ρ)
      (created : Bool)
      (out : List (Effect ρ))
      (hRefused :
        d.hasNotifyCb = true →
          pSession d notif.ni_type = none)
      (hOut :
        ∀ f ∈ out, ∃ r, d.bring passThrough = some r ∧
          f = .free r) :
      Move d (.request notif passThrough created)
        { d with calls := d.calls + 1 } out
  | saved
      (x : SessionName)
      (notif : Notification)
      (passThrough : Option ρ)
      (created : Bool)
      (hReady : d.hasNotifyCb = true)
      (hFree : pSession d notif.ni_type = some x) :
      Move d (.request notif passThrough created)
        (saveRequest d x notif (d.bring passThrough)
          created).1
        (saveRequest d x notif (d.bring passThrough)
          created).2
  | responded
      (notif_id user_response : CInt)
      (x : SessionName)
      (hReady : d.hasNotifyCb = true)
      (hFound : found d notif_id = some x) :
      Move d (.respond notif_id user_response)
        (respond d notif_id user_response) []
  | reset
      (hReady : d.hasNotifyCb = true) :
      Move d .reset (resetOnEngineRestart d).1
        (resetOnEngineRestart d).2
  | parked
      (t : Nat)
      (th : Thread ρ)
      (hThread : d.threads[t]? = some th)
      (hPhase : th.phase = .starting) :
      Move d (.thread t .enter) (d.move t .waiting) []
  | took
      (t : Nat)
      (turn : Turn)
      (th : Thread ρ)
      (timedOut : Bool)
      (hThread : d.threads[t]? = some th)
      (hEarly : th.phase.early = true)
      (hTimedOut :
        timedOut = true →
          turn = .wake true ∧ th.phase = .waiting)
      (hRecvd :
        timedOut = false →
          (d.get th.pSession).respRecvd = true) :
      Move d (.thread t turn)
        (lockedSection d t th.pSession
          ((d.get th.pSession).loopExit timedOut)).1
        (lockedSection d t th.pSession
          ((d.get th.pSession).loopExit timedOut)).2
  | left
      (t : Nat)
      (th : Thread ρ)
      (msg : Option (InformNiResponse ρ))
      (hThread : d.threads[t]? = some th)
      (hPhase : th.phase = .leaving msg) :
      Move d (.thread t .leave)
        (threadLeave d t th.pSession msg).1
        (threadLeave d t th.pSession msg).2

/- A turn of a thread that does nothing. -/
theorem idle_turn
    (d : NiData ρ)
    (t : Nat)
    (turn : Turn)
    (hIdle :
      turn = .leave →
        ∀ th msg,
          d.threads[t]? = some th →
            th.phase ≠ .leaving msg) :
    Move d (.thread t turn) d [] := by
  apply Move.idle
  · simp
  · intro t' th msg hInput hThread
    simp only [Input.thread.injEq] at hInput
    rcases hInput with ⟨rfl, hTurn⟩
    exact hIdle hTurn th msg hThread

/- The same for a thread in a phase of its own. -/
theorem idle_phase
    (d : NiData ρ)
    (t : Nat)
    (turn : Turn)
    (th : Thread ρ)
    (hThread : d.threads[t]? = some th)
    (hPhase :
      turn = .leave → ∀ msg, th.phase ≠ .leaving msg) :
    Move d (.thread t turn) d [] := by
  apply idle_turn
  intro hTurn th' msg hThread'
  rw [hThread] at hThread'
  cases hThread'
  exact hPhase hTurn msg

theorem move_of_request
    (d : NiData ρ)
    (notif : Notification)
    (passThrough : Option ρ)
    (created : Bool) :
    Move d (.request notif passThrough created)
      (requestHandler d notif passThrough created).1
      (requestHandler d notif passThrough created).2 := by
  have hCalls :
      d.hasNotifyCb = false ∨
          pSession d notif.ni_type = none →
        ∃ out,
          requestHandler d notif passThrough created =
            ({ d with calls := d.calls + 1 }, out) ∧
          ∀ f ∈ out, ∃ r, d.bring passThrough = some r ∧
            f = .free r := by
    intro hRefused
    cases hReady : d.hasNotifyCb with
    | false =>
        exact ⟨[], by simp [requestHandler, hReady], by simp⟩
    | true =>
        have hBusy : pSession d notif.ni_type = none := by
          simpa [hReady] using hRefused
        refine
          ⟨((d.bring passThrough).map Effect.free).toList,
            by simp [requestHandler, hReady, hBusy,
              NiData.bring], ?_⟩
        intro f hf
        rw [Option.mem_toList] at hf
        rcases Option.map_eq_some_iff.mp hf with
          ⟨r, hr, rfl⟩
        exact ⟨r, hr, rfl⟩
  by_cases hRefused :
    d.hasNotifyCb = false ∨ pSession d notif.ni_type = none
  · rcases hCalls hRefused with ⟨out, hEq, hOut⟩
    rw [hEq]
    apply Move.refused
    · intro hReady
      simpa [hReady] using hRefused
    · exact hOut
  · push Not at hRefused
    have hReady : d.hasNotifyCb = true := by
      simpa using hRefused.1
    rcases Option.ne_none_iff_exists'.mp hRefused.2 with
      ⟨x, hFree⟩
    have hEq :
        requestHandler d notif passThrough created =
          saveRequest d x notif (d.bring passThrough)
            created := by
      simp [requestHandler, hReady, hFree, NiData.bring]
    rw [hEq]
    exact Move.saved x notif passThrough created hReady hFree

theorem move_of_respond
    (d : NiData ρ)
    (notif_id user_response : CInt) :
    Move d (.respond notif_id user_response)
      (respond d notif_id user_response) [] := by
  cases hReady : d.hasNotifyCb with
  | false =>
      simp only [respond, hReady]
      exact Move.idle _ (by simp) (by simp)
  | true =>
      cases hFound : found d notif_id with
      | none =>
          simp only [respond, hReady, hFound]
          exact Move.idle _ (by simp) (by simp)
      | some x =>
          exact Move.responded notif_id user_response x
            hReady hFound

theorem move_of_enter
    (d : NiData ρ)
    (t : Nat)
    (th : Thread ρ)
    (hThread : d.threads[t]? = some th)
    (hPhase : th.phase = .starting) :
    Move d (.thread t .enter)
      (threadEnter d t th.pSession).1
      (threadEnter d t th.pSession).2 := by
  unfold threadEnter
  cases hRecvd : (d.get th.pSession).respRecvd with
  | true =>
      apply Move.took t .enter th false hThread
      · rw [hPhase]
        rfl
      · simp
      · intro _
        exact hRecvd
  | false =>
      exact Move.parked t th hThread hPhase

theorem move_of_wake
    (d : NiData ρ)
    (t : Nat)
    (th : Thread ρ)
    (timedOut : Bool)
    (hThread : d.threads[t]? = some th)
    (hPhase : th.phase = .waiting) :
    Move d (.thread t (.wake timedOut))
      (threadWake d t th.pSession timedOut).1
      (threadWake d t th.pSession timedOut).2 := by
  have hEarly : th.phase.early = true := by
    rw [hPhase]
    rfl
  unfold threadWake
  cases timedOut with
  | true =>
      apply Move.took t (.wake true) th true hThread hEarly
      · intro _
        exact ⟨rfl, hPhase⟩
      · simp
  | false =>
      cases hRecvd : (d.get th.pSession).respRecvd with
      | true =>
          apply Move.took t (.wake false) th false hThread
            hEarly
          · simp
          · intro _
            exact hRecvd
      | false =>
          exact idle_turn d t (.wake false) (by simp)

theorem move_of_turn
    (d : NiData ρ)
    (t : Nat)
    (turn : Turn)
    (th : Thread ρ)
    (hThread : d.threads[t]? = some th) :
    Move d (.thread t turn) (threadTurn d t turn).1
      (threadTurn d t turn).2 := by
  rcases th with ⟨call, x, phase⟩
  unfold threadTurn
  rw [hThread]
  cases phase with
  | starting =>
      cases turn with
      | enter => exact move_of_enter d t _ hThread rfl
      | wake timedOut => exact idle_phase d t _ _ hThread (by simp)
      | leave => exact idle_phase d t _ _ hThread (by simp)
  | waiting =>
      cases turn with
      | enter => exact idle_phase d t _ _ hThread (by simp)
      | wake timedOut =>
          exact move_of_wake d t _ timedOut hThread rfl
      | leave => exact idle_phase d t _ _ hThread (by simp)
  | leaving msg =>
      cases turn with
      | enter => exact idle_phase d t _ _ hThread (by simp)
      | wake timedOut => exact idle_phase d t _ _ hThread (by simp)
      | leave => exact Move.left t _ msg hThread rfl
  | gone =>
      cases turn with
      | enter => exact idle_phase d t _ _ hThread (by simp)
      | wake timedOut => exact idle_phase d t _ _ hThread (by simp)
      | leave => exact idle_phase d t _ _ hThread (by simp)

/- Every step is one of the moves. -/
theorem move_of_step
    (d : NiData ρ)
    (i : Input ρ) :
    Move d i (step d i).1 (step d i).2 := by
  cases i with
  | init =>
      cases hFirst : d.hasNotifyCb with
      | false => exact Move.init hFirst
      | true =>
          simp only [step, init, hFirst]
          exact Move.idle _ (by simp) (by simp)
  | request notif passThrough created =>
      exact move_of_request d notif passThrough created
  | respond notif_id user_response =>
      exact move_of_respond d notif_id user_response
  | reset =>
      cases hReady : d.hasNotifyCb with
      | false =>
          simp only [step, resetOnEngineRestart, hReady]
          exact Move.idle _ (by simp) (by simp)
      | true => exact Move.reset hReady
  | thread t turn =>
      cases hThread : d.threads[t]? with
      | none =>
          simp only [step, threadTurn, hThread]
          exact idle_turn d t turn (by simp [hThread])
      | some th => exact move_of_turn d t turn th hThread

end Ni

end D2Common

------------------------------------------------------------
-- Records
------------------------------------------------------------

namespace D2Common

namespace Ni

variable {ρ : Type}

/-
  A response leaves a record alone, or writes the user's
  answer to the session that is found, or tells the ordinary
  session to ignore its request.
-/
theorem get_respond
    (d : NiData ρ)
    (notif_id user_response : CInt)
    (y : SessionName) :
    (respond d notif_id user_response).get y = d.get y ∨
      (found d notif_id = some y ∧
        (respond d notif_id user_response).get y =
          (d.get y).signal user_response) ∨
      (y = .session ∧
        found d notif_id = some .sessionEs ∧
        (respond d notif_id user_response).get y =
          (d.get y).signal ignore) := by
  unfold respond
  cases d.hasNotifyCb with
  | false => exact Or.inl rfl
  | true =>
      cases hFound : found d notif_id with
      | none => exact Or.inl rfl
      | some x =>
          cases x with
          | session =>
              cases y with
              | session => exact Or.inr (Or.inl ⟨rfl, rfl⟩)
              | sessionEs => exact Or.inl rfl
          | sessionEs =>
              cases y with
              | sessionEs => exact Or.inr (Or.inl ⟨rfl, rfl⟩)
              | session =>
                  by_cases hSilence :
                    (user_response = accept &&
                      d.session.busy) = true
                  · refine Or.inr (Or.inr ⟨rfl, rfl, ?_⟩)
                    exact if_pos hSilence
                  · exact Or.inl (if_neg hSilence)

@[simp] theorem busy_signal
    (p : Session ρ)
    (resp : CInt) :
    (p.signal resp).busy = p.busy := rfl

@[simp] theorem rawRequest_signal
    (p : Session ρ)
    (resp : CInt) :
    (p.signal resp).rawRequest = p.rawRequest := rfl

@[simp] theorem reqID_signal
    (p : Session ρ)
    (resp : CInt) :
    (p.signal resp).reqID = p.reqID := rfl

@[simp] theorem rawRequest_taken
    (p : Session ρ) : p.taken.rawRequest = none := rfl

@[simp] theorem rawRequest_reset
    (p : Session ρ) : p.reset.rawRequest = none := by
  unfold Session.reset
  cases hRaw : p.rawRequest with
  | none => simp [Session.busy, hRaw]
  | some r => simp [Session.busy, hRaw]

theorem busy_iff
    (p : Session ρ) :
    p.busy = true ↔ ∃ r, p.rawRequest = some r :=
  Option.isSome_iff_exists

theorem not_busy
    {p : Session ρ}
    (hRaw : p.rawRequest = none) : p.busy = false := by
  simp [Session.busy, hRaw]

@[simp] theorem rawRequest_init
    (d : NiData ρ)
    (hFirst : d.hasNotifyCb = false)
    (x : SessionName) :
    ((init d).get x).rawRequest = none := by
  unfold init
  rw [if_neg (by simp [hFirst])]
  cases x <;> rfl

@[simp] theorem get_resetOnEngineRestart
    (d : NiData ρ)
    (hReady : d.hasNotifyCb = true)
    (x : SessionName) :
    (resetOnEngineRestart d).1.get x =
      (d.get x).reset := by
  unfold resetOnEngineRestart
  rw [if_neg (by simp [hReady])]
  cases x <;> rfl

@[simp] theorem get_saveRequest
    (d : NiData ρ)
    (x y : SessionName)
    (notif : Notification)
    (r : Option (Request ρ))
    (created : Bool) :
    (saveRequest d x notif r created).1.get y =
      if y = x then
        (d.get x).saved r (d.reqIDCounter + 1)
          notif.timeout
      else d.get y := by
  cases x <;> cases y <;> rfl

@[simp] theorem get_threadLeave
    (d : NiData ρ)
    (t : Nat)
    (x y : SessionName)
    (msg : Option (InformNiResponse ρ)) :
    (threadLeave d t x msg).1.get y =
      if y = x then
        { d.get x with respTimeLeft := 0, reqID := 0 }
      else d.get y := by
  cases x <;> cases y <;> rfl

@[simp] theorem get_lockedSection
    (d : NiData ρ)
    (t : Nat)
    (x y : SessionName)
    (p : Session ρ) :
    (lockedSection d t x p).1.get y =
      if y = x then p.taken else d.get y := by
  cases x <;> cases y <;> rfl

/- The payloads of a reset are freed, and nobody is told. -/
theorem reset_output
    (d : NiData ρ)
    (hReady : d.hasNotifyCb = true)
    {f : Effect ρ}
    (hf : f ∈ (resetOnEngineRestart d).2) :
    ∃ r, f = .free r := by
  unfold resetOnEngineRestart at hf
  rw [if_neg (by simp [hReady])] at hf
  simp only [Session.dropped, List.mem_append,
    Option.mem_toList, Option.map_eq_some_iff] at hf
  rcases hf with ⟨r, -, hr⟩ | ⟨r, -, hr⟩
  · exact ⟨r, hr.symm⟩
  · exact ⟨r, hr.symm⟩

/- The locked section frees at most. -/
theorem ignored_output
    {p : Session ρ}
    {f : Effect ρ}
    (hf : f ∈ p.ignored) :
    ∃ r, p.rawRequest = some r ∧ p.resp = ignore ∧
      f = .free r := by
  unfold Session.ignored at hf
  by_cases hIgnore : p.resp = ignore
  · rw [if_neg (by simp [hIgnore])] at hf
    simp only [Option.mem_toList,
      Option.map_eq_some_iff] at hf
    rcases hf with ⟨r, hRaw, hr⟩
    exact ⟨r, hRaw, hIgnore, hr.symm⟩
  · rw [if_pos (by simpa using hIgnore)] at hf
    simp at hf

/- Where only payloads are freed, no one is notified. -/
theorem not_notified_of_freed
    {out : List (Effect ρ)}
    (hFreed : ∀ f ∈ out, ∃ r, f = .free r)
    (x : SessionName)
    (call : Nat)
    (id : CInt) :
    Effect.ni_notify_cb x call id ∉ out := by
  intro hMem
  rcases hFreed _ hMem with ⟨r, hr⟩
  contradiction

/- A record is only taken for a request when it is free. -/
theorem not_busy_of_pSession
    {d : NiData ρ}
    {ni_type : UInt32}
    {x : SessionName}
    (hFree : pSession d ni_type = some x) :
    (d.get x).busy = false ∧
      (x = .session → d.sessionEs.busy = false) := by
  unfold pSession at hFree
  split at hFree
  · split at hFree
    · simp at hFree
    · cases hFree
      constructor
      · simpa [NiData.get] using ‹¬ d.sessionEs.busy = true›
      · simp
  · split at hFree
    · simp at hFree
    · cases hFree
      have hBoth :
          d.session.busy = false ∧
            d.sessionEs.busy = false := by
        simpa using ‹¬ (d.session.busy || _) = true›
      exact ⟨hBoth.1, fun _ => hBoth.2⟩

end Ni

end D2Common

------------------------------------------------------------
-- Threads
------------------------------------------------------------

namespace D2Common

namespace Ni

variable {ρ : Type}

@[simp] theorem get_move
    (d : NiData ρ)
    (t : Nat)
    (phase : Phase ρ)
    (x : SessionName) :
    (d.move t phase).get x = d.get x := by
  cases x <;> rfl

/- A thread after a move was there before, or is moved. -/
theorem mem_threads_move
    {d : NiData ρ}
    {t : Nat}
    {phase : Phase ρ}
    {th th' : Thread ρ}
    (hThread : d.threads[t]? = some th)
    (hMem : th' ∈ (d.move t phase).threads) :
    th' ∈ d.threads ∨ th' = { th with phase := phase } := by
  rcases List.mem_iff_getElem?.mp hMem with ⟨n, hn⟩
  simp only [NiData.move, List.getElem?_modify] at hn
  by_cases hEq : t = n
  · subst hEq
    right
    simpa [hThread] using hn.symm
  · left
    simp only [if_neg hEq] at hn
    exact List.mem_iff_getElem?.mpr ⟨n, by simpa using hn⟩

theorem message_some
    {p : Session ρ}
    {msg : InformNiResponse ρ}
    (hMsg : p.message = some msg) :
    p.resp ≠ ignore ∧
      p.rawRequest = some msg.mPayload ∧
        msg.mResponse = p.resp := by
  unfold Session.message at hMsg
  by_cases hIgnore : p.resp = ignore
  · simp [hIgnore] at hMsg
  · rw [if_pos (by simpa using hIgnore)] at hMsg
    rcases Option.map_eq_some_iff.mp hMsg with
      ⟨r, hRaw, rfl⟩
    exact ⟨hIgnore, hRaw, rfl⟩

@[simp] theorem threads_respond
    (d : NiData ρ)
    (notif_id user_response : CInt) :
    (respond d notif_id user_response).threads =
      d.threads := by
  unfold respond
  split
  · rfl
  · split <;> rfl

/- The threads after a request has been taken up. -/
theorem mem_threads_saveRequest
    {d : NiData ρ}
    {x : SessionName}
    {notif : Notification}
    {r : Option (Request ρ)}
    {created : Bool}
    {th : Thread ρ}
    (hth : th ∈ (saveRequest d x notif r created).1.threads) :
    th ∈ d.threads ∨ th = ⟨d.calls, x, .starting⟩ := by
  simp only [saveRequest, List.mem_append] at hth
  rcases hth with hth | hth
  · exact Or.inl hth
  · right
    cases created with
    | true => simpa using hth
    | false => simp at hth

/-
  A message on its way was so before, or it has just been
  made of the record that a thread emptied.
-/
theorem leaving_of_move
    {d d' : NiData ρ}
    {i : Input ρ}
    {out : List (Effect ρ)}
    {th : Thread ρ}
    {msg : InformNiResponse ρ}
    (hMove : Move d i d' out)
    (hth : th ∈ d'.threads)
    (hPhase : th.phase = .leaving (some msg)) :
    th ∈ d.threads ∨
      ∃ t turn th₀ timedOut,
        i = .thread t turn ∧ d.threads[t]? = some th₀ ∧
          (timedOut = true →
            turn = .wake true ∧ th₀.phase = .waiting) ∧
          ((d.get th₀.pSession).loopExit timedOut).message =
            some msg ∧
          (d'.get th₀.pSession).rawRequest = none := by
  cases hMove with
  | idle i hRequest hThread => exact Or.inl hth
  | init hFirst =>
      left
      simpa [init, hFirst] using hth
  | refused notif passThrough created out hRefused hOut =>
      exact Or.inl hth
  | saved x notif passThrough created hReady hFree =>
      rcases mem_threads_saveRequest hth with hOld | rfl
      · exact Or.inl hOld
      · contradiction
  | responded notif_id user_response x hReady hFound =>
      left
      simpa using hth
  | reset hReady =>
      left
      simpa [resetOnEngineRestart, hReady] using hth
  | parked t th₀ hThread hPhase₀ =>
      rcases mem_threads_move hThread hth with hOld | rfl
      · exact Or.inl hOld
      · contradiction
  | took t turn th₀ timedOut hThread hEarly hTimedOut
      hRecvd =>
      rcases mem_threads_move (by simpa using hThread)
          hth with
        hOld | rfl
      · left
        simpa using hOld
      · right
        refine
          ⟨t, turn, th₀, timedOut, rfl, hThread, hTimedOut,
            by simpa using hPhase, ?_⟩
        simp
  | left t th₀ msg' hThread hPhase₀ =>
      rcases mem_threads_move (by simpa using hThread)
          hth with
        hOld | rfl
      · left
        simpa using hOld
      · contradiction

/- Only a thread that leaves queues a message. -/
theorem sendMsg_of_move
    {d d' : NiData ρ}
    {i : Input ρ}
    {out : List (Effect ρ)}
    {msg : InformNiResponse ρ}
    (hMove : Move d i d' out)
    (hMsg : .sendMsg msg ∈ out) :
    ∃ t th, i = .thread t .leave ∧
      d.threads[t]? = some th ∧
        th.phase = .leaving (some msg) := by
  cases hMove with
  | idle i hRequest hThread => simp at hMsg
  | init hFirst => simp at hMsg
  | refused notif passThrough created out hRefused hOut =>
      rcases hOut _ hMsg with ⟨r, -, hr⟩
      simp at hr
  | saved x notif passThrough created hReady hFree =>
      simp [saveRequest] at hMsg
  | responded notif_id user_response x hReady hFound =>
      simp at hMsg
  | reset hReady =>
      rcases reset_output d hReady hMsg with ⟨r, hr⟩
      simp at hr
  | parked t th hThread hPhase => simp at hMsg
  | took t turn th timedOut hThread hEarly hTimedOut hRecvd =>
      rcases ignored_output hMsg with ⟨r, -, -, hr⟩
      simp at hr
  | left t th msg' hThread hPhase =>
      refine ⟨t, th, rfl, hThread, ?_⟩
      cases msg' with
      | none => simp [threadLeave] at hMsg
      | some msg' =>
          have hSame : msg = msg' := by
            simpa [threadLeave] using hMsg
          rw [hSame]
          exact hPhase

end Ni

end D2Common

------------------------------------------------------------
-- Notices
------------------------------------------------------------

namespace D2Common

namespace Ni

variable {ρ : Type}

/- The id that a call of `ni_notify_cb` reports for `x`. -/
def noticeFor
    (x : SessionName) : Effect ρ → Option CInt
| .ni_notify_cb y _ notification_id =>
    if y = x then some notification_id else none
| _ => none

/- The ids reported for a session, oldest first. -/
def notices
    (x : SessionName)
    (h : List (Event ρ)) : List CInt :=
  (h.flatMap (·.output)).filterMap (noticeFor x)

/- The id last reported for a session. -/
def lastNotified
    (x : SessionName)
    (h : List (Event ρ)) : Option CInt :=
  (notices x h).getLast?

theorem lastNotified_concat
    (x : SessionName)
    (h : List (Event ρ))
    (e : Event ρ) :
    lastNotified x (h ++ [e]) =
      ((e.output.filterMap (noticeFor x)).getLast?).or
        (lastNotified x h) := by
  simp [lastNotified, notices, List.getLast?_append]

/- Steps without a notice for `x` leave the last one. -/
theorem lastNotified_of_no_notice
    {x : SessionName}
    {h : List (Event ρ)}
    {e : Event ρ}
    (hNone :
      ∀ call id, Effect.ni_notify_cb x call id ∉ e.output) :
    lastNotified x (h ++ [e]) = lastNotified x h := by
  have hNil : e.output.filterMap (noticeFor x) = [] := by
    apply List.filterMap_eq_nil_iff.mpr
    intro f hf
    cases f with
    | ni_notify_cb y call id =>
        have hyx : y ≠ x := by
          rintro rfl
          exact hNone call id hf
        simp [noticeFor, hyx]
    | muteOneSession => rfl
    | free r => rfl
    | sendMsg msg => rfl
  rw [lastNotified_concat, hNil]
  rfl

theorem notices_saveRequest
    (d : NiData ρ)
    (x y : SessionName)
    (notif : Notification)
    (r : Option (Request ρ))
    (created : Bool) :
    (saveRequest d x notif r created).2.filterMap
        (noticeFor y) =
      if x = y then [d.reqIDCounter + 1] else [] := by
  unfold saveRequest
  by_cases hMute : notif.notify_flags = privacyOverride
  · by_cases hxy : x = y <;>
      simp [hMute, noticeFor, List.filterMap_cons, hxy]
  · by_cases hxy : x = y <;>
      simp [hMute, noticeFor, hxy]

end Ni

end D2Common
