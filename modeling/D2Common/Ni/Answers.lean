import D2Common.Ni.Runs

/-
  Which request an answer belongs to.

  The record of a session is used again for the next
  request. What the user said about a request, and the
  threads that still wait for it, can outlive the request
  when the modem restarts; the next request then finds an
  answer that was never meant for it.

  Key definitions include:
    * `Belongs`
    * `Orderly`
    * `Sound`

  Key theorems include:
    * `sound_move`
    * `answers_belong`
-/

------------------------------------------------------------
-- The Origin Of An Answer
------------------------------------------------------------

namespace D2Common

namespace Ni

variable {ρ : Type}

/- A request was reported under an id. -/
def NotifiedAs
    (h : List (Event ρ))
    (r : Request ρ)
    (id : CInt) : Prop :=
  ∃ e ∈ h, ∃ x, Effect.ni_notify_cb x r.call id ∈ e.output

/- A request is in progress in one of the sessions. -/
def InProgress
    (d : NiData ρ)
    (r : Request ρ) : Prop :=
  d.session.rawRequest = some r ∨
    d.sessionEs.rawRequest = some r

instance
    [DecidableEq ρ]
    (d : NiData ρ)
    (r : Request ρ) : Decidable (InProgress d r) :=
  inferInstanceAs (Decidable (_ ∨ _))

/-
  The user gave a response with the id of a request while
  the request was in progress.
-/
def GivenFor
    (h : List (Event ρ))
    (resp : CInt)
    (r : Request ρ) : Prop :=
  ∃ e ∈ h, ∃ id,
    e.input = .respond id resp ∧
      InProgress e.before r ∧ NotifiedAs h r id

/- The thread that was spawned for a request timed out. -/
def TimedOut
    (h : List (Event ρ))
    (r : Request ρ) : Prop :=
  ∃ e ∈ h, ∃ t th,
    e.input = .thread t (.wake true) ∧
      e.before.threads[t]? = some th ∧
        th.phase = .waiting ∧ th.call = r.call

/- An answer belongs to the request it answers. -/
def Belongs
    (h : List (Event ρ))
    (msg : InformNiResponse ρ) : Prop :=
  GivenFor h msg.mResponse msg.mPayload ∨
    (msg.mResponse = noresp ∧ TimedOut h msg.mPayload)

/- The answers that a step queues belong to their requests. -/
def AnswersBelong
    (h : List (Event ρ))
    (e : Event ρ) : Prop :=
  ∀ msg, .sendMsg msg ∈ e.output → Belongs h msg

variable {h : List (Event ρ)}
variable {e : Event ρ}
variable {r : Request ρ}

theorem NotifiedAs.concat
    {id : CInt}
    (hNotified : NotifiedAs h r id) :
    NotifiedAs (h ++ [e]) r id := by
  rcases hNotified with ⟨e', he', hOut⟩
  exact ⟨e', List.mem_append_left _ he', hOut⟩

theorem GivenFor.concat
    {resp : CInt}
    (hGiven : GivenFor h resp r) :
    GivenFor (h ++ [e]) resp r := by
  rcases hGiven with
    ⟨e', he', id, hInput, hIn, hNotified⟩
  exact ⟨e', List.mem_append_left _ he', id, hInput, hIn,
    hNotified.concat⟩

theorem Belongs.concat
    {msg : InformNiResponse ρ}
    (hBelongs : Belongs h msg) :
    Belongs (h ++ [e]) msg := by
  rcases hBelongs with hGiven | ⟨hNoresp, e', he', hTimed⟩
  · exact Or.inl hGiven.concat
  · right
    exact ⟨hNoresp, e', List.mem_append_left _ he', hTimed⟩

theorem inProgress_of_get
    {d : NiData ρ}
    {x : SessionName}
    (hRaw : (d.get x).rawRequest = some r) :
    InProgress d r := by
  cases x with
  | session => exact Or.inl hRaw
  | sessionEs => exact Or.inr hRaw

end Ni

end D2Common

------------------------------------------------------------
-- Orderly Steps
------------------------------------------------------------

namespace D2Common

namespace Ni

variable {ρ : Type}

/- The session that takes up a request with a payload. -/
def takenBy
    (d : NiData ρ) : Input ρ → Option SessionName
| .request notif (some _) _ =>
    if d.hasNotifyCb then pSession d notif.ni_type else none
| _ => none

/- The session that a response finds, and the id it has. -/
def reachedBy
    (d : NiData ρ) : Input ρ → Option (SessionName × CInt)
| .respond id _ =>
    if d.hasNotifyCb then (found d id).map (·, id) else none
| _ => none

/-
  Nothing is left of earlier requests in a session: no
  answer is waiting in the record, and no thread is waiting
  for one.
-/
def Idle
    (d : NiData ρ)
    (x : SessionName) : Prop :=
  (d.get x).respRecvd = false ∧
    ∀ th ∈ d.threads,
      th.pSession = x → th.phase.early = false

instance
    (d : NiData ρ)
    (x : SessionName) : Decidable (Idle d x) :=
  inferInstanceAs (Decidable (_ ∧ _))

/-
  The condition on a step: a request is taken up by an idle
  session, and a response that finds a session has the id
  last reported for it.
-/
def Orderly
    (h : List (Event ρ))
    (e : Event ρ) : Prop :=
  (∀ x ∈ takenBy e.before e.input, Idle e.before x) ∧
    ∀ a ∈ reachedBy e.before e.input,
      lastNotified a.1 h = some a.2

instance
    (h : List (Event ρ))
    (e : Event ρ) : Decidable (Orderly h e) :=
  inferInstanceAs (Decidable (_ ∧ _))

/-
  What orderly steps preserve. A thread that waits in the
  session of a request was spawned for it, an answer in the
  record was given for it, it is known by the id last
  reported, and so are the messages on their way.
-/
structure Sound
    (h : List (Event ρ))
    (d : NiData ρ) : Prop where
  waiting :
    ∀ x r, (d.get x).rawRequest = some r →
      ∀ th ∈ d.threads,
        th.pSession = x →
          th.phase.early = true → th.call = r.call
  recvd :
    ∀ x r, (d.get x).rawRequest = some r →
      (d.get x).respRecvd = true →
        (d.get x).resp = ignore ∨
          GivenFor h (d.get x).resp r
  named :
    ∀ x r, (d.get x).rawRequest = some r →
      ∃ id, lastNotified x h = some id ∧
        NotifiedAs h r id
  leaving :
    ∀ th ∈ d.threads, ∀ msg,
      th.phase = .leaving (some msg) → Belongs h msg

theorem sound_zero :
    Sound [] (NiData.zero : NiData ρ) := by
  have hRaw :
      ∀ x, ((NiData.zero : NiData ρ).get x).rawRequest =
        none := by
    intro x
    cases x <;> rfl
  constructor
  · simp [hRaw]
  · simp [hRaw]
  · simp [hRaw]
  · simp [NiData.zero]

/- Two records hold the same request and the same answer. -/
def Session.Agree (p q : Session ρ) : Prop :=
  p.rawRequest = q.rawRequest ∧
    p.respRecvd = q.respRecvd ∧ p.resp = q.resp

theorem Session.agree_of_eq
    {p q : Session ρ}
    (hEq : p = q) : p.Agree q := by
  rw [hEq]
  exact ⟨rfl, rfl, rfl⟩

/-
  A step keeps the invariant when it empties a record or
  leaves its request and its answer, and when the threads
  that wait afterwards were waiting before.
-/
theorem sound_of_emptied
    {h : List (Event ρ)}
    {e : Event ρ}
    (hSound : Sound h e.before)
    (hNone :
      ∀ x call id,
        Effect.ni_notify_cb x call id ∉ e.output)
    (hEmptied :
      ∀ x, (e.after.get x).rawRequest = none ∨
        (e.after.get x).Agree (e.before.get x))
    (hThreads :
      ∀ th ∈ e.after.threads,
        (th.phase.early = true →
          ∃ th' ∈ e.before.threads,
            th'.pSession = th.pSession ∧
              th'.call = th.call ∧
                th'.phase.early = true) ∧
        ∀ msg, th.phase = .leaving (some msg) →
          Belongs (h ++ [e]) msg) :
    Sound (h ++ [e]) e.after := by
  have hKept :
      ∀ x r, (e.after.get x).rawRequest = some r →
        (e.after.get x).Agree (e.before.get x) := by
    intro x r hRaw
    rcases hEmptied x with hNil | hSame
    · rw [hNil] at hRaw
      contradiction
    · exact hSame
  constructor
  · intro x r hRaw th hth hx hEarly
    rcases (hThreads th hth).1 hEarly with
      ⟨th', hth', hOwner, hCall, hEarly'⟩
    rw [(hKept x r hRaw).1] at hRaw
    rw [← hCall]
    exact hSound.waiting x r hRaw th' hth'
      (hOwner.trans hx) hEarly'
  · intro x r hRaw hRecvd
    rcases hKept x r hRaw with ⟨hRaw', hRecvd', hResp⟩
    rw [hRaw'] at hRaw
    rw [hRecvd'] at hRecvd
    rw [hResp]
    rcases hSound.recvd x r hRaw hRecvd with
      hIgnore | hGiven
    · exact Or.inl hIgnore
    · exact Or.inr hGiven.concat
  · intro x r hRaw
    rw [(hKept x r hRaw).1] at hRaw
    rcases hSound.named x r hRaw with ⟨id, hLast, hAs⟩
    rw [lastNotified_of_no_notice (hNone x)]
    exact ⟨id, hLast, hAs.concat⟩
  · intro th hth msg hPhase
    exact (hThreads th hth).2 msg hPhase

/- Threads that were there before are no obstacle. -/
theorem sound_threads
    {h : List (Event ρ)}
    {e : Event ρ}
    (hSound : Sound h e.before)
    {th : Thread ρ}
    (hth : th ∈ e.before.threads) :
    (th.phase.early = true →
      ∃ th' ∈ e.before.threads,
        th'.pSession = th.pSession ∧
          th'.call = th.call ∧ th'.phase.early = true) ∧
    ∀ msg, th.phase = .leaving (some msg) →
      Belongs (h ++ [e]) msg := by
  constructor
  · intro hEarly
    exact ⟨th, hth, rfl, rfl, hEarly⟩
  · intro msg hPhase
    exact (hSound.leaving th hth msg hPhase).concat

/- An answer that reaches a session is given for it. -/
theorem sound_responded
    {h : List (Event ρ)}
    {d : NiData ρ}
    {notif_id user_response : CInt}
    (hSound : Sound h d)
    (hLast :
      ∀ x, found d notif_id = some x →
        lastNotified x h = some notif_id) :
    Sound
      (h ++
        [⟨d, .respond notif_id user_response, [],
          respond d notif_id user_response⟩])
      (respond d notif_id user_response) := by
  have hRaw :
      ∀ x, ((respond d notif_id user_response).get
        x).rawRequest = (d.get x).rawRequest := by
    intro x
    rcases get_respond d notif_id user_response x with
      hGet | ⟨-, hGet⟩ | ⟨-, -, hGet⟩ <;>
      rw [hGet]
    · rfl
    · rfl
  constructor
  · intro x r hx th hth
    rw [threads_respond] at hth
    rw [hRaw] at hx
    exact hSound.waiting x r hx th hth
  · intro x r hx hRecvd
    rw [hRaw] at hx
    rcases get_respond d notif_id user_response x with
      hGet | ⟨hFound, hGet⟩ | ⟨-, -, hGet⟩
    · rw [hGet] at hRecvd ⊢
      rcases hSound.recvd x r hx hRecvd with
        hIgnore | hGiven
      · exact Or.inl hIgnore
      · exact Or.inr hGiven.concat
    · rw [hGet]
      right
      rcases hSound.named x r hx with ⟨id, hID, hAs⟩
      rw [hLast x hFound] at hID
      cases hID
      refine ⟨_, List.mem_append_right _
        (List.mem_singleton.mpr rfl), notif_id, rfl,
        inProgress_of_get hx, hAs.concat⟩
    · rw [hGet]
      exact Or.inl rfl
  · intro x r hx
    rw [hRaw] at hx
    rcases hSound.named x r hx with ⟨id, hID, hAs⟩
    rw [lastNotified_of_no_notice (by simp)]
    exact ⟨id, hID, hAs.concat⟩
  · intro th hth msg hPhase
    rw [threads_respond] at hth
    exact (hSound.leaving th hth msg hPhase).concat

/- A request that an idle session takes up starts afresh. -/
theorem sound_saved
    {h : List (Event ρ)}
    {d : NiData ρ}
    {x : SessionName}
    {notif : Notification}
    {passThrough : Option ρ}
    {created : Bool}
    {i : Input ρ}
    (hSound : Sound h d)
    (hIdle : passThrough.isSome = true → Idle d x) :
    Sound
      (h ++
        [⟨d, i,
          (saveRequest d x notif (d.bring passThrough)
            created).2,
          (saveRequest d x notif (d.bring passThrough)
            created).1⟩])
      (saveRequest d x notif (d.bring passThrough)
        created).1 := by
  have hNew :
      ∀ r, d.bring passThrough = some r →
        r.call = d.calls ∧ Idle d x := by
    intro r hr
    rcases Option.map_eq_some_iff.mp hr with ⟨p, hp, rfl⟩
    exact ⟨rfl, hIdle (by simp [hp])⟩
  constructor
  · intro y r hy th hth hOwner hEarly
    rw [get_saveRequest] at hy
    by_cases hyx : y = x
    · rw [if_pos hyx] at hy
      rcases hNew r hy with ⟨hCall, -, hNoThread⟩
      rcases mem_threads_saveRequest hth with hOld | rfl
      · have hLate := hNoThread th hOld (hOwner.trans hyx)
        rw [hLate] at hEarly
        contradiction
      · exact hCall.symm
    · rw [if_neg hyx] at hy
      rcases mem_threads_saveRequest hth with hOld | rfl
      · exact hSound.waiting y r hy th hOld hOwner hEarly
      · exact absurd hOwner.symm hyx
  · intro y r hy hRecvd
    rw [get_saveRequest] at hy hRecvd ⊢
    by_cases hyx : y = x
    · rw [if_pos hyx] at hy hRecvd
      have hFalse := (hNew r hy).2.1
      have hTrue : (d.get x).respRecvd = true := hRecvd
      rw [hFalse] at hTrue
      contradiction
    · rw [if_neg hyx] at hy hRecvd ⊢
      rcases hSound.recvd y r hy hRecvd with
        hIgnore | hGiven
      · exact Or.inl hIgnore
      · exact Or.inr hGiven.concat
  · intro y r hy
    rw [get_saveRequest] at hy
    rw [lastNotified_concat, notices_saveRequest]
    by_cases hyx : y = x
    · rw [if_pos hyx] at hy
      refine ⟨d.reqIDCounter + 1, by simp [hyx], ?_⟩
      refine ⟨_, List.mem_append_right _
        (List.mem_singleton.mpr rfl), x, ?_⟩
      rw [(hNew r hy).1]
      simp [saveRequest]
    · rw [if_neg hyx] at hy
      rw [if_neg (Ne.symm hyx)]
      rcases hSound.named y r hy with ⟨id, hID, hAs⟩
      exact ⟨id, by simpa using hID, hAs.concat⟩
  · intro th hth msg hPhase
    rcases mem_threads_saveRequest hth with hOld | rfl
    · exact (hSound.leaving th hOld msg hPhase).concat
    · contradiction

/- The message of a locked section belongs to its payload. -/
theorem belongs_message
    {h : List (Event ρ)}
    {d : NiData ρ}
    {t : Nat}
    {turn : Turn}
    {th : Thread ρ}
    {timedOut : Bool}
    {msg : InformNiResponse ρ}
    {out : List (Effect ρ)}
    {d' : NiData ρ}
    (hSound : Sound h d)
    (hThread : d.threads[t]? = some th)
    (hEarly : th.phase.early = true)
    (hTimedOut :
      timedOut = true →
        turn = .wake true ∧ th.phase = .waiting)
    (hRecvd :
      timedOut = false →
        (d.get th.pSession).respRecvd = true)
    (hMsg :
      ((d.get th.pSession).loopExit timedOut).message =
        some msg) :
    Belongs (h ++ [⟨d, .thread t turn, out, d'⟩]) msg := by
  have hth := List.mem_of_getElem? hThread
  rcases message_some hMsg with ⟨hResp, hRaw, hEq⟩
  cases timedOut with
  | true =>
      right
      rcases hTimedOut rfl with ⟨rfl, hWaiting⟩
      refine ⟨hEq, _, List.mem_append_right _
        (List.mem_singleton.mpr rfl), t, th, rfl, hThread,
        hWaiting, ?_⟩
      exact hSound.waiting th.pSession _ hRaw th hth rfl
        hEarly
  | false =>
      left
      rw [hEq]
      rcases hSound.recvd th.pSession _ hRaw
          (hRecvd rfl) with
        hIgnore | hGiven
      · exact absurd hIgnore hResp
      · exact hGiven.concat

end Ni

end D2Common

------------------------------------------------------------
-- Orderly Runs
------------------------------------------------------------

namespace D2Common

namespace Ni

variable {ρ : Type}

theorem sound_move
    {h : List (Event ρ)}
    {d d' : NiData ρ}
    {i : Input ρ}
    {out : List (Effect ρ)}
    (hSound : Sound h d)
    (hMove : Move d i d' out)
    (hOrderly : Orderly h ⟨d, i, out, d'⟩) :
    Sound (h ++ [⟨d, i, out, d'⟩]) d' := by
  cases hMove with
  | idle i hRequest hThread =>
      apply sound_of_emptied hSound (by simp)
      · intro x
        exact Or.inr (Session.agree_of_eq rfl)
      · intro th hth
        exact sound_threads hSound hth
  | init hFirst =>
      apply sound_of_emptied hSound (by simp)
      · intro x
        exact Or.inl (rawRequest_init d hFirst x)
      · intro th hth
        apply sound_threads hSound
        simpa [init, hFirst] using hth
  | refused notif passThrough created out hRefused hOut =>
      apply sound_of_emptied hSound
      · exact not_notified_of_freed fun f hf =>
          (hOut f hf).imp fun r hr => hr.2
      · intro x
        right
        cases x <;> exact Session.agree_of_eq rfl
      · intro th hth
        exact sound_threads hSound hth
  | saved x notif passThrough created hReady hFree =>
      apply sound_saved hSound
      intro hSome
      rcases Option.isSome_iff_exists.mp hSome with ⟨p, rfl⟩
      apply hOrderly.1 x
      simp [takenBy, hReady, hFree]
  | responded notif_id user_response x hReady hFound =>
      apply sound_responded hSound
      intro y hy
      have hReached := hOrderly.2 (y, notif_id)
      exact hReached (by simp [reachedBy, hReady, hy])
  | reset hReady =>
      apply sound_of_emptied hSound
      · exact not_notified_of_freed fun f hf =>
          reset_output d hReady hf
      · intro x
        left
        simp [hReady]
      · intro th hth
        apply sound_threads hSound
        simpa [resetOnEngineRestart, hReady] using hth
  | parked t th hThread hPhase =>
      apply sound_of_emptied hSound (by simp)
      · intro x
        exact Or.inr
          (Session.agree_of_eq (get_move d t .waiting x))
      · intro th' hth'
        rcases mem_threads_move hThread hth' with
          hOld | rfl
        · exact sound_threads hSound hOld
        · constructor
          · intro _
            refine ⟨th, List.mem_of_getElem? hThread, rfl,
              rfl, ?_⟩
            rw [hPhase]
            rfl
          · simp
  | took t turn th timedOut hThread hEarly hTimedOut hRecvd =>
      apply sound_of_emptied hSound
      · exact not_notified_of_freed fun f hf =>
          (ignored_output hf).imp fun r hr => hr.2.2
      · intro x
        rw [get_lockedSection]
        by_cases hx : x = th.pSession
        · left
          simp [hx]
        · exact Or.inr (Session.agree_of_eq (if_neg hx))
      · intro th' hth'
        have hPut :
            (d.put th.pSession
              ((d.get th.pSession).loopExit
                timedOut).taken).threads[t]? =
              some th := by
          simpa using hThread
        rcases mem_threads_move hPut hth' with hOld | rfl
        · rw [NiData.threads_put] at hOld
          exact sound_threads hSound hOld
        · constructor
          · simp [Phase.early]
          · intro msg hMsg
            exact belongs_message hSound hThread hEarly
              hTimedOut hRecvd (by simpa using hMsg)
  | left t th msg hThread hPhase =>
      apply sound_of_emptied hSound
      · intro x call id hMem
        simp [threadLeave] at hMem
      · intro x
        right
        rw [get_threadLeave]
        by_cases hx : x = th.pSession
        · rw [if_pos hx, hx]
          exact ⟨rfl, rfl, rfl⟩
        · exact Session.agree_of_eq (if_neg hx)
      · intro th' hth'
        rcases mem_threads_move (by simpa using hThread)
            hth' with
          hOld | rfl
        · rw [NiData.threads_put] at hOld
          exact sound_threads hSound hOld
        · simp [Phase.early]

/- The message that a step queues was on its way before. -/
theorem answersBelong_move
    {h : List (Event ρ)}
    {d d' : NiData ρ}
    {i : Input ρ}
    {out : List (Effect ρ)}
    (hSound : Sound h d)
    (hMove : Move d i d' out) :
    AnswersBelong h ⟨d, i, out, d'⟩ := by
  intro msg hMsg
  rcases sendMsg_of_move hMove hMsg with
    ⟨t, th, -, hThread, hPhase⟩
  exact hSound.leaving th (List.mem_of_getElem? hThread) msg
    hPhase

/-
  In a run of orderly steps every answer belongs to the
  request it answers.
-/
theorem answers_belong
    (is : List (Input ρ))
    (hOrderly :
      History.Along Orderly (system.history is)) :
    History.Along AnswersBelong (system.history is) := by
  have hBoth :
      Sound (system.history is) (system.run is) ∧
        History.Along AnswersBelong (system.history is) := by
    apply system.history_induction
      (I := fun h d =>
        Sound h d ∧ History.Along AnswersBelong h)
      (C := Orderly) _ _ is hOrderly
    · exact ⟨sound_zero, History.along_nil⟩
    · rintro h d i ⟨hSound, hBelong⟩ hStep
      have hMove := move_of_step d i
      refine ⟨sound_move hSound hMove hStep, ?_⟩
      rw [History.along_concat]
      exact ⟨hBelong, answersBelong_move hSound hMove⟩
  exact hBoth.2

/- A request that is answered and a second that times out. -/
def inTurn : List (Input Unit) :=
  [.init,
    .request ⟨2, 0, 0⟩ (some ()) true,
    .thread 0 .enter,
    .respond 1 accept,
    .thread 0 (.wake false),
    .thread 0 .leave,
    .request ⟨2, 0, 0⟩ (some ()) true,
    .thread 1 .enter,
    .thread 1 (.wake true),
    .thread 1 .leave]

theorem answers_belong_inTurn :
    History.Along AnswersBelong (system.history inTurn) :=
  answers_belong inTurn (by decide)

/-
  The modem restarts during a request, and the next request
  arrives before the thread of the first one has woken. It
  takes the new payload with an answer to an earlier one.
-/
def staleAnswer : List (Input Unit) :=
  [.init,
    .request ⟨2, 0, 0⟩ (some ()) true,
    .thread 0 .enter,
    .respond 1 accept,
    .thread 0 (.wake false),
    .thread 0 .leave,
    .request ⟨2, 0, 0⟩ (some ()) true,
    .thread 1 .enter,
    .reset,
    .request ⟨2, 0, 0⟩ (some ()) true,
    .thread 1 (.wake false),
    .thread 1 .leave]

theorem staleAnswer_belongs_to_none :
    ¬ History.Along AnswersBelong
        (system.history staleAnswer) := by
  intro hAlong
  rw [History.along_iff_take] at hAlong
  have hQueued :=
    hAlong 11 (by decide) ⟨accept, ⟨2, ()⟩⟩ (by decide)
  rcases hQueued with ⟨e, he, id, hInput, hIn, -⟩ | hTimed
  · have hOnly :
        ∀ e ∈ (system.history staleAnswer).take 11,
          InProgress e.before ⟨2, ()⟩ →
            e.input = .thread 1 (.wake false) := by
      decide
    rw [hOnly e he hIn] at hInput
    contradiction
  · exact absurd hTimed.1 (by decide)

end Ni

end D2Common
