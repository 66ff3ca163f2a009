import D2Common.Ni.Runs

/-
  What becomes of an ordinary request when the user accepts
  an emergency request beside it.

  The ordinary session is told to ignore its request. That
  is a note in its record, which the user's own answer to
  the ordinary request, or the time out of its thread, can
  write over before the thread has read it.

  Key definitions include:
    * `Cancelled`
    * `Undisturbed`
    * `Silenced`

  Key theorems include:
    * `apart_move`
    * `noted_move`
    * `cancelled_silenced`
-/

------------------------------------------------------------
-- Whose Payload It Is
------------------------------------------------------------

namespace D2Common

namespace Ni

variable {ρ : Type}

/- An answer for a request is queued or on its way. -/
def Answered
    (h : List (Event ρ))
    (d : NiData ρ)
    (r : Request ρ) : Prop :=
  ∃ msg : InformNiResponse ρ, msg.mPayload = r ∧
    ((∃ th ∈ d.threads, th.phase = .leaving (some msg)) ∨
      ∃ e ∈ h, .sendMsg msg ∈ e.output)

/-
  A payload is in one place only: in one of the records, or
  in an answer.
-/
structure Apart
    (h : List (Event ρ))
    (d : NiData ρ) : Prop where
  known :
    ∀ x r, (d.get x).rawRequest = some r → r.call < d.calls
  past :
    ∀ r, Answered h d r → r.call < d.calls
  records :
    ∀ x y r r', (d.get x).rawRequest = some r →
      (d.get y).rawRequest = some r' →
        x ≠ y → r.call ≠ r'.call
  answered :
    ∀ x r r', (d.get x).rawRequest = some r →
      Answered h d r' → r.call ≠ r'.call

/-
  A record keeps its payload, or loses it, or gets the one
  of the present call; nothing else changes then.
-/
theorem rawRequest_of_move
    {d d' : NiData ρ}
    {i : Input ρ}
    {out : List (Effect ρ)}
    (hMove : Move d i d' out)
    (x : SessionName) :
    (d'.get x).rawRequest = (d.get x).rawRequest ∨
      (d'.get x).rawRequest = none ∨
      ∃ r, (d'.get x).rawRequest = some r ∧
        r.call = d.calls ∧ d.calls < d'.calls ∧
          ∀ y, y ≠ x → d'.get y = d.get y := by
  cases hMove with
  | idle i hRequest hThread => exact Or.inl rfl
  | init hFirst =>
      exact Or.inr (Or.inl (rawRequest_init d hFirst x))
  | refused notif passThrough created out hRefused hOut =>
      left
      cases x <;> rfl
  | saved y notif passThrough created hReady hFree =>
      by_cases hxy : x = y
      · cases hr : d.bring passThrough with
        | none =>
            right
            left
            simp [hxy, Session.saved]
        | some r =>
            right
            right
            rcases Option.map_eq_some_iff.mp hr with
              ⟨p, -, rfl⟩
            refine ⟨⟨d.calls, p⟩, ?_, rfl, ?_, ?_⟩
            · simp [hxy, Session.saved]
            · exact Nat.lt_succ_self _
            · intro z hz
              rw [get_saveRequest, if_neg (hxy ▸ hz)]
      · left
        rw [get_saveRequest, if_neg hxy]
  | responded notif_id user_response y hReady hFound =>
      left
      rcases get_respond d notif_id user_response x with
        hGet | ⟨-, hGet⟩ | ⟨-, -, hGet⟩
      · rw [hGet]
      · rw [hGet]
        rfl
      · rw [hGet]
        rfl
  | reset hReady =>
      right
      left
      simp [hReady]
  | parked t th hThread hPhase =>
      left
      rw [get_move]
  | took t turn th timedOut hThread hEarly hTimedOut hRecvd =>
      rw [get_lockedSection]
      by_cases hx : x = th.pSession
      · right
        left
        rw [if_pos hx]
        rfl
      · left
        rw [if_neg hx]
  | left t th msg hThread hPhase =>
      left
      rw [get_threadLeave]
      by_cases hx : x = th.pSession
      · rw [if_pos hx, hx]
      · rw [if_neg hx]

/- A payload in a record was there, or has just come. -/
theorem held_of_move
    {d d' : NiData ρ}
    {i : Input ρ}
    {out : List (Effect ρ)}
    (hMove : Move d i d' out)
    {x : SessionName}
    {r : Request ρ}
    (hRaw : (d'.get x).rawRequest = some r) :
    (d.get x).rawRequest = some r ∨
      r.call = d.calls ∧ d.calls < d'.calls ∧
        ∀ y, y ≠ x → d'.get y = d.get y := by
  rcases rawRequest_of_move hMove x with
    hSame | hNone | ⟨s, hNew, hCome⟩
  · exact Or.inl (hSame ▸ hRaw)
  · rw [hNone] at hRaw
    contradiction
  · rw [hNew] at hRaw
    cases hRaw
    exact Or.inr hCome

theorem calls_of_move
    {d d' : NiData ρ}
    {i : Input ρ}
    {out : List (Effect ρ)}
    (hMove : Move d i d' out) :
    d.calls ≤ d'.calls := by
  cases hMove with
  | idle i hRequest hThread => exact Nat.le_refl _
  | init hFirst =>
      unfold init
      split <;> exact Nat.le_refl _
  | refused notif passThrough created out hRefused hOut =>
      exact Nat.le_succ _
  | saved y notif passThrough created hReady hFree =>
      exact Nat.le_succ _
  | responded notif_id user_response y hReady hFound =>
      unfold respond
      split
      · exact Nat.le_refl _
      · split <;> exact Nat.le_refl _
  | reset hReady =>
      unfold resetOnEngineRestart
      split <;> exact Nat.le_refl _
  | parked t th hThread hPhase => exact Nat.le_refl _
  | took t turn th timedOut hThread hEarly hTimedOut hRecvd =>
      simp [lockedSection, NiData.move]
  | left t th msg hThread hPhase =>
      simp [threadLeave, NiData.move]

/-
  An answer for a request was there before, or a thread has
  just made it of a record that it emptied.
-/
theorem answered_of_move
    {h : List (Event ρ)}
    {d d' : NiData ρ}
    {i : Input ρ}
    {out : List (Effect ρ)}
    {r : Request ρ}
    (hMove : Move d i d' out)
    (hAnswered :
      Answered (h ++ [⟨d, i, out, d'⟩]) d' r) :
    Answered h d r ∨
      ∃ t turn th timedOut,
        i = .thread t turn ∧ d.threads[t]? = some th ∧
          (timedOut = true →
            turn = .wake true ∧ th.phase = .waiting) ∧
          ((d.get th.pSession).loopExit timedOut).resp ≠
            ignore ∧
          (d.get th.pSession).rawRequest = some r ∧
          (d'.get th.pSession).rawRequest = none := by
  rcases hAnswered with
    ⟨msg, rfl, ⟨th, hth, hPhase⟩ | ⟨e, he, hOut⟩⟩
  · rcases leaving_of_move hMove hth hPhase with
      hOld | ⟨t, turn, th₀, timedOut, hInput, hThread,
        hTimedOut, hMsg, hNone⟩
    · left
      exact ⟨msg, rfl, Or.inl ⟨th, hOld, hPhase⟩⟩
    · right
      rcases message_some hMsg with ⟨hResp, hRaw, -⟩
      refine ⟨t, turn, th₀, timedOut, hInput, hThread,
        hTimedOut, hResp, ?_, hNone⟩
      cases timedOut <;> exact hRaw
  · left
    rcases List.mem_append.mp he with he | he
    · exact ⟨msg, rfl, Or.inr ⟨e, he, hOut⟩⟩
    · rw [List.mem_singleton.mp he] at hOut
      rcases sendMsg_of_move hMove hOut with
        ⟨t, th, -, hThread, hPhase⟩
      exact ⟨msg, rfl,
        Or.inl ⟨th, List.mem_of_getElem? hThread, hPhase⟩⟩

theorem apart_zero :
    Apart [] (NiData.zero : NiData ρ) := by
  have hRaw :
      ∀ x, ((NiData.zero : NiData ρ).get x).rawRequest =
        none := by
    intro x
    cases x <;> rfl
  have hNone :
      ∀ r, ¬ Answered [] (NiData.zero : NiData ρ) r := by
    rintro r ⟨msg, -, ⟨th, hth, -⟩ | ⟨e, he, -⟩⟩
    · simp [NiData.zero] at hth
    · simp at he
  constructor
  · simp [hRaw]
  · intro r hAnswered
    exact absurd hAnswered (hNone r)
  · simp [hRaw]
  · simp [hRaw]

theorem apart_move
    {h : List (Event ρ)}
    {d d' : NiData ρ}
    {i : Input ρ}
    {out : List (Effect ρ)}
    (hApart : Apart h d)
    (hMove : Move d i d' out) :
    Apart (h ++ [⟨d, i, out, d'⟩]) d' := by
  have hCalls := calls_of_move hMove
  have hPast :
      ∀ r, Answered (h ++ [⟨d, i, out, d'⟩]) d' r →
        r.call < d.calls := by
    intro r hAnswered
    rcases answered_of_move hMove hAnswered with
      hOld | ⟨t, turn, th, timedOut, -, -, -, -, hRaw, -⟩
    · exact hApart.past r hOld
    · exact hApart.known _ r hRaw
  constructor
  · intro x r hRaw
    rcases held_of_move hMove hRaw with hOld | ⟨hCall, _, -⟩
    · have hKnown := hApart.known x r hOld
      omega
    · omega
  · intro r hAnswered
    have hLess := hPast r hAnswered
    omega
  · intro x y r r' hx hy hxy
    rcases held_of_move hMove hx with
      hOld | ⟨hCall, -, hElse⟩
    · rcases held_of_move hMove hy with
        hOld' | ⟨hCall', -, -⟩
      · exact hApart.records x y r r' hOld hOld' hxy
      · have hKnown := hApart.known x r hOld
        omega
    · rw [hElse y (Ne.symm hxy)] at hy
      have hKnown := hApart.known y r' hy
      omega
  · intro x r r' hx hAnswered
    have hLess := hPast r' hAnswered
    rcases held_of_move hMove hx with hHeld | ⟨hCall, -, -⟩
    · rcases answered_of_move hMove hAnswered with
        hOld | ⟨t, turn, th, timedOut, -, -, -, -, hRaw,
          hGone⟩
      · exact hApart.answered x r r' hHeld hOld
      · apply hApart.records x th.pSession r r' hHeld hRaw
        rintro rfl
        rw [hGone] at hx
        contradiction
    · omega

end Ni

end D2Common

------------------------------------------------------------
-- Cancelled Requests
------------------------------------------------------------

namespace D2Common

namespace Ni

variable {ρ : Type}

/-
  The ordinary request that is in progress when the user's
  ACCEPT for the emergency session is processed.
-/
def cancelledBy
    (d : NiData ρ) : Input ρ → Option (Request ρ)
| .respond id user_response =>
    if d.hasNotifyCb && user_response == accept &&
        found d id == some .sessionEs then
      d.session.rawRequest
    else none
| _ => none

/- A request has been cancelled in this way. -/
def Cancelled
    (h : List (Event ρ))
    (r : Request ρ) : Prop :=
  ∃ e ∈ h, cancelledBy e.before e.input = some r

instance
    [DecidableEq ρ]
    (h : List (Event ρ))
    (r : Request ρ) : Decidable (Cancelled h r) :=
  inferInstanceAs (Decidable (∃ e ∈ h, _ = _))

/-
  Whether a step writes over the note in the record of the
  ordinary session: a response other than to ignore it, or
  the time out of a thread.
-/
def overwrites
    (d : NiData ρ) : Input ρ → Bool
| .respond id user_response =>
    found d id == some .session && user_response != ignore
| .thread t (.wake true) =>
    (d.threads[t]?).any fun th =>
      th.pSession == .session &&
        match th.phase with
        | .waiting => true
        | _ => false
| _ => false

/-
  The condition on a step: while a cancelled request is
  still in progress, nothing writes over the note.
-/
def Undisturbed
    (h : List (Event ρ))
    (e : Event ρ) : Prop :=
  ∀ r ∈ e.before.session.rawRequest,
    Cancelled h r → overwrites e.before e.input = false

instance
    [DecidableEq ρ]
    (h : List (Event ρ))
    (e : Event ρ) : Decidable (Undisturbed h e) :=
  inferInstanceAs (Decidable (∀ r ∈ _, _ → _ = _))

/-
  No answer has been queued for a request, and its payload
  is still held or has been freed.
-/
def Silenced
    (h : List (Event ρ))
    (d : NiData ρ)
    (r : Request ρ) : Prop :=
  (∀ e ∈ h, ∀ msg,
    .sendMsg msg ∈ e.output → msg.mPayload ≠ r) ∧
  (d.session.rawRequest = some r ∨
    ∃ e ∈ h, .free r ∈ e.output)

/-
  What is known of a cancelled request: the note is in its
  record as long as it is in progress, and no answer for it
  has been made.
-/
structure Noted
    (h : List (Event ρ))
    (d : NiData ρ)
    (r : Request ρ) : Prop where
  ready : d.hasNotifyCb = true
  old : r.call < d.calls
  unanswered : ¬ Answered h d r
  elsewhere : d.sessionEs.rawRequest ≠ some r
  note :
    d.session.rawRequest = some r →
      d.session.resp = ignore
  held :
    d.session.rawRequest = some r ∨
      ∃ e ∈ h, .free r ∈ e.output

theorem silenced_of_noted
    {h : List (Event ρ)}
    {d : NiData ρ}
    {r : Request ρ}
    (hNoted : Noted h d r) : Silenced h d r := by
  refine ⟨?_, hNoted.held⟩
  intro e he msg hMsg hPayload
  exact hNoted.unanswered
    ⟨msg, hPayload, Or.inr ⟨e, he, hMsg⟩⟩

theorem hasNotifyCb_of_move
    {d d' : NiData ρ}
    {i : Input ρ}
    {out : List (Effect ρ)}
    (hMove : Move d i d' out)
    (hReady : d.hasNotifyCb = true) :
    d'.hasNotifyCb = true := by
  cases hMove with
  | idle i hRequest hThread => exact hReady
  | init hFirst =>
      rw [hFirst] at hReady
      contradiction
  | refused notif passThrough created out hRefused hOut =>
      exact hReady
  | saved y notif passThrough created hReady' hFree =>
      simp [saveRequest, hReady]
  | responded notif_id user_response y hReady' hFound =>
      unfold respond
      split
      · exact hReady
      · split <;> exact hReady
  | reset hReady' =>
      simp [resetOnEngineRestart, hReady]
  | parked t th hThread hPhase => exact hReady
  | took t turn th timedOut hThread hEarly hTimedOut hRecvd =>
      simpa [lockedSection, NiData.move] using hReady
  | left t th msg hThread hPhase =>
      simpa [threadLeave, NiData.move] using hReady

/- The step that cancels a request leaves the note. -/
theorem cancelledBy_some
    {d : NiData ρ}
    {i : Input ρ}
    {r : Request ρ}
    (hBy : cancelledBy d i = some r) :
    d.hasNotifyCb = true ∧ d.session.rawRequest = some r ∧
      ∃ id, i = .respond id accept ∧
        found d id = some .sessionEs := by
  unfold cancelledBy at hBy
  split at hBy
  · split at hBy
    · simp_all
    · simp at hBy
  · simp at hBy

theorem respond_cancels
    {d : NiData ρ}
    {id : CInt}
    {r : Request ρ}
    (hReady : d.hasNotifyCb = true)
    (hRaw : d.session.rawRequest = some r)
    (hFound : found d id = some .sessionEs) :
    (respond d id accept).session =
      d.session.signal ignore := by
  have hBusy : d.session.busy = true :=
    (busy_iff _).mpr ⟨r, hRaw⟩
  simp [respond, hReady, hFound, hBusy]

/- Where the note stays, no thread of the session times out. -/
theorem not_timedOut_of_kept
    {d : NiData ρ}
    {t : Nat}
    {turn : Turn}
    {th : Thread ρ}
    {timedOut : Bool}
    (hKept : overwrites d (.thread t turn) = false)
    (hThread : d.threads[t]? = some th)
    (hOwner : th.pSession = .session)
    (hTimedOut :
      timedOut = true →
        turn = .wake true ∧ th.phase = .waiting) :
    timedOut = false := by
  cases timedOut with
  | false => rfl
  | true =>
      rcases hTimedOut rfl with ⟨rfl, hWaiting⟩
      simp [overwrites, hThread, hOwner, hWaiting] at hKept

/-
  While nothing writes over the note, the payload stays
  where it is, or it is freed.
-/
theorem note_of_move
    {d d' : NiData ρ}
    {i : Input ρ}
    {out : List (Effect ρ)}
    {r : Request ρ}
    (hMove : Move d i d' out)
    (hReady : d.hasNotifyCb = true)
    (hRaw : d.session.rawRequest = some r)
    (hNote : d.session.resp = ignore)
    (hKept : overwrites d i = false) :
    (d'.session.rawRequest = some r ∧
        d'.session.resp = ignore) ∨
      (d'.session.rawRequest = none ∧ .free r ∈ out) := by
  have hBusy : d.session.busy = true :=
    (busy_iff _).mpr ⟨r, hRaw⟩
  have hSame :
      d'.get .session = d.get .session →
        d'.session.rawRequest = some r ∧
          d'.session.resp = ignore := by
    intro hGet
    have hEq : d'.session = d.session := hGet
    rw [hEq]
    exact ⟨hRaw, hNote⟩
  cases hMove with
  | idle i hRequest hThread => exact Or.inl ⟨hRaw, hNote⟩
  | init hFirst =>
      rw [hFirst] at hReady
      contradiction
  | refused notif passThrough created out hRefused hOut =>
      exact Or.inl ⟨hRaw, hNote⟩
  | saved y notif passThrough created hReady' hFree =>
      left
      apply hSame
      cases y with
      | session =>
          have hIdle := (not_busy_of_pSession hFree).1
          have hTaken : d.session.busy = false := hIdle
          rw [hBusy] at hTaken
          contradiction
      | sessionEs => simp
  | responded notif_id user_response y hReady' hFound =>
      left
      rcases get_respond d notif_id user_response
          .session with
        hGet | ⟨hFound', hGet⟩ | ⟨-, -, hGet⟩
      · exact hSame hGet
      · have hEq :
            (respond d notif_id user_response).session =
              d.session.signal user_response := hGet
        have hIgnore : user_response = ignore := by
          simpa [overwrites, hFound'] using hKept
        rw [hEq, hIgnore]
        exact ⟨hRaw, rfl⟩
      · have hEq :
            (respond d notif_id user_response).session =
              d.session.signal ignore := hGet
        rw [hEq]
        exact ⟨hRaw, rfl⟩
  | reset hReady' =>
      right
      simp [resetOnEngineRestart, hReady, Session.dropped,
        hRaw]
  | parked t th hThread hPhase =>
      exact Or.inl ⟨hRaw, hNote⟩
  | took t turn th timedOut hThread hEarly hTimedOut hRecvd =>
      cases hOwner : th.pSession with
      | sessionEs => exact Or.inl ⟨hRaw, hNote⟩
      | session =>
          right
          have hInTime :=
            not_timedOut_of_kept hKept hThread hOwner hTimedOut
          subst hInTime
          simp [lockedSection, Session.ignored,
            Session.loopExit, NiData.get, NiData.put,
            NiData.move, hNote, hRaw, Session.taken]
  | left t th msg hThread hPhase =>
      left
      cases hOwner : th.pSession with
      | session => exact ⟨hRaw, hNote⟩
      | sessionEs => exact ⟨hRaw, hNote⟩

/- The step that cancels a request. -/
theorem noted_new
    {h : List (Event ρ)}
    {d d' : NiData ρ}
    {i : Input ρ}
    {out : List (Effect ρ)}
    {r : Request ρ}
    (hApart : Apart h d)
    (hMove : Move d i d' out)
    (hBy : cancelledBy d i = some r)
    (hAfter : d' = (step d i).1) :
    Noted (h ++ [⟨d, i, out, d'⟩]) d' r := by
  rcases cancelledBy_some hBy with
    ⟨hReady, hRaw, id, rfl, hFound⟩
  have hCalls := calls_of_move hMove
  have hSession :
      d'.session = d.session.signal ignore := by
    rw [hAfter]
    exact respond_cancels hReady hRaw hFound
  have hOwn : (d.get .session).rawRequest = some r := hRaw
  constructor
  · exact hasNotifyCb_of_move hMove hReady
  · have hKnown := hApart.known .session r hOwn
    omega
  · intro hAnswered
    rcases answered_of_move hMove hAnswered with
      hOld | ⟨t, turn, th, timedOut, hInput, -⟩
    · exact hApart.answered .session r r hOwn hOld rfl
    · contradiction
  · intro hEs
    have hKept :
        (d.get .sessionEs).rawRequest = some r := by
      rcases get_respond d id accept .sessionEs with
        hGet | ⟨-, hGet⟩ | ⟨hNe, -, -⟩
      · rw [← hGet, ← hEs, hAfter]
        rfl
      · have hSignal := congrArg Session.rawRequest hGet
        rw [rawRequest_signal] at hSignal
        rw [← hSignal, ← hEs, hAfter]
        rfl
      · contradiction
    exact hApart.records .session .sessionEs r r hOwn hKept
      (by decide) rfl
  · intro _
    rw [hSession]
    rfl
  · left
    rw [hSession]
    exact hRaw

/- A cancelled request stays so in undisturbed steps. -/
theorem noted_move
    {h : List (Event ρ)}
    {d d' : NiData ρ}
    {i : Input ρ}
    {out : List (Effect ρ)}
    {r : Request ρ}
    (hNoted : Noted h d r)
    (hMove : Move d i d' out)
    (hKept :
      d.session.rawRequest = some r →
        overwrites d i = false) :
    Noted (h ++ [⟨d, i, out, d'⟩]) d' r := by
  have hCalls := calls_of_move hMove
  have hOld := hNoted.old
  have hStays :
      ∀ x, (d.get x).rawRequest ≠ some r →
        (d'.get x).rawRequest ≠ some r := by
    intro x hNe hRaw
    rcases held_of_move hMove hRaw with
      hHeld | ⟨hCall, -, -⟩
    · exact hNe hHeld
    · omega
  have hRecord :
      (d'.session.rawRequest = some r →
        d'.session.resp = ignore) ∧
      (d'.session.rawRequest = some r ∨
        ∃ e ∈ h ++ [⟨d, i, out, d'⟩],
          .free r ∈ Transducer.Event.output e) := by
    by_cases hRaw : d.session.rawRequest = some r
    · rcases note_of_move hMove hNoted.ready hRaw
          (hNoted.note hRaw) (hKept hRaw) with
        ⟨hRaw', hNote⟩ | ⟨hNone, hFree⟩
      · exact ⟨fun _ => hNote, Or.inl hRaw'⟩
      · refine ⟨?_, Or.inr ⟨_, List.mem_append_right _
          (List.mem_singleton.mpr rfl), hFree⟩⟩
        intro hRaw'
        rw [hNone] at hRaw'
        contradiction
    · refine ⟨fun hRaw' => absurd hRaw'
        (hStays .session hRaw), ?_⟩
      rcases hNoted.held with hHeld | ⟨e, he, hFree⟩
      · exact absurd hHeld hRaw
      · exact Or.inr
          ⟨e, List.mem_append_left _ he, hFree⟩
  constructor
  · exact hasNotifyCb_of_move hMove hNoted.ready
  · omega
  · intro hAnswered
    rcases answered_of_move hMove hAnswered with
      hBefore | ⟨t, turn, th, timedOut, hInput, hThread,
        hTimedOut, hResp, hRaw, -⟩
    · exact hNoted.unanswered hBefore
    · cases hOwner : th.pSession with
      | sessionEs =>
          rw [hOwner] at hRaw
          exact hNoted.elsewhere hRaw
      | session =>
          rw [hOwner] at hRaw hResp
          have hHeld : d.session.rawRequest = some r := hRaw
          have hNot := hKept hHeld
          rw [hInput] at hNot
          have hInTime :=
            not_timedOut_of_kept hNot hThread hOwner hTimedOut
          subst hInTime
          exact hResp (hNoted.note hHeld)
  · exact hStays .sessionEs hNoted.elsewhere
  · exact hRecord.1
  · exact hRecord.2

/-
  In an undisturbed run no answer is ever queued for a
  cancelled request: its payload is freed.
-/
theorem cancelled_silenced
    (is : List (Input ρ))
    (hUndisturbed :
      History.Along Undisturbed (system.history is))
    (r : Request ρ)
    (hCancelled : Cancelled (system.history is) r) :
    Silenced (system.history is) (system.run is) r := by
  have hAll :
      Apart (system.history is) (system.run is) ∧
        ∀ r, Cancelled (system.history is) r →
          Noted (system.history is) (system.run is) r := by
    apply system.history_induction
      (I := fun h d =>
        Apart h d ∧ ∀ r, Cancelled h r → Noted h d r)
      (C := Undisturbed) _ _ is hUndisturbed
    · refine ⟨apart_zero, ?_⟩
      rintro r ⟨e, he, -⟩
      simp at he
    · rintro h d i ⟨hApart, hNoted⟩ hStep
      have hMove := move_of_step d i
      refine ⟨apart_move hApart hMove, ?_⟩
      rintro r ⟨e, he, hBy⟩
      rcases List.mem_append.mp he with he | he
      · have hOld : Cancelled h r := ⟨e, he, hBy⟩
        apply noted_move (hNoted r hOld) hMove
        intro hRaw
        exact hStep r hRaw hOld
      · rw [List.mem_singleton.mp he] at hBy
        exact noted_new hApart hMove hBy rfl
  exact silenced_of_noted (hAll.2 r hCancelled)

/-
  An ordinary and an emergency request; the user accepts the
  second, and the threads wake.
-/
def acceptedEs (next : List (Input Unit)) :
    List (Input Unit) :=
  [.init,
    .request ⟨2, 0, 0⟩ (some ()) true,
    .request ⟨4, 0, 0⟩ (some ()) true,
    .thread 0 .enter,
    .thread 1 .enter,
    .respond 2 accept] ++ next

theorem cancelled_silenced_woken :
    Silenced
      (system.history
        (acceptedEs
          [.thread 1 (.wake false), .thread 0 (.wake false),
            .thread 0 .leave, .thread 1 .leave]))
      (system.run
        (acceptedEs
          [.thread 1 (.wake false), .thread 0 (.wake false),
            .thread 0 .leave, .thread 1 .leave]))
      ⟨0, ()⟩ :=
  cancelled_silenced _ (by decide) _ (by decide)

/-
  The user answers the ordinary request as well before its
  thread has read the note.
-/
theorem accepted_twice_not_silenced :
    ¬ ∀ is r,
        Cancelled (system.history is) r →
          Silenced (ρ := Unit) (system.history is)
            (system.run is) r := by
  intro hAll
  have hSilenced :=
    hAll
      (acceptedEs
        [.respond 1 accept, .thread 0 (.wake false),
          .thread 0 .leave])
      ⟨0, ()⟩ (by decide)
  exact
    hSilenced.1 _ (List.get_mem _ ⟨8, by decide⟩)
      ⟨accept, ⟨0, ()⟩⟩ (by decide) rfl

end Ni

end D2Common
