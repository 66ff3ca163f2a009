import D2Common.Agps.Nifs

/-
  Retries of a data call.

  A start on a busy modem is tried again when a timer
  expires. The file compares what the machine makes of the
  results of its starts with the policy that gives a request
  four retries and ends every other failure in a fallback.

  The counter of the retries is cleared by a fallback only,
  so what one request has used the next one lacks, and a
  result that `sendRsrcRequest` does not know ends in
  neither a retry nor a fallback.

  Key definitions include:
    * `Retry.policy`
    * `Retry.attempts`
    * `Retry.WithinAfter`

  Key theorems include:
    * `Retry.loop_eq_policy_iff`
    * `Retry.ran_attempts`
    * `Retry.retry_budget_iff`
-/

------------------------------------------------------------
-- The Policy
------------------------------------------------------------

namespace D2Common

namespace Agps

namespace Retry

/-
  What a request for a handle is to make of the results of
  its starts, after some retries: a success ends it, a busy
  modem is tried again while the retries last, and anything
  else is a fallback. A retry comes with its timer, whose
  request is made once it expires.
-/
def policy
    (mID : Handle) : Nat → List Int → List Emission
| _, [] => []
| made, r :: rs =>
    .sendRsrcRequest .requestAgpsDataConn ::
      .openAndStartDataCall r ::
        if r = locApiAdapterErrSuccess then
          []
        else if
          r = locApiAdapterErrEngineBusy ∧
            made < maxStartDataCallRetries then
          .locTimerStart .started ::
            if rs = [] then []
            else
              .requestSuplES mID :: policy mID (made + 1) rs
        else
          [.requestATL mID agpsTypeSupl]

/- What the machine makes of them with its counter. -/
def loop
    (mID : Handle) : BitVec 8 → List Int → List Emission
| _, [] => []
| retries, r :: rs =>
    Roster.startOut [.ds mID false] retries ⟨r, .started⟩ ++
      if
        Roster.startOutcome retries ⟨r, .started⟩ =
          .retry then
        if rs = [] then []
        else .requestSuplES mID :: loop mID (retries + 1) rs
      else
        []

/- The number of results at the front that say busy. -/
def busyFirst (rs : List Int) : Nat :=
  (rs.takeWhile (· == locApiAdapterErrEngineBusy)).length

/- The results that the machine has an answer for. -/
def Known (r : Int) : Prop :=
  r = locApiAdapterErrSuccess ∨
    r = locApiAdapterErrUnsupported ∨ r = -1

/-
  Nothing has been used up before, or what is left is enough
  for the busy results; and the first other result that is
  reached is known.
-/
def WithinAfter
    (made used : Nat)
    (rs : List Int) : Prop :=
  (used = 0 ∨
      made + busyFirst rs + used ≤ maxStartDataCallRetries) ∧
    (maxStartDataCallRetries < made + busyFirst rs ∨
      ∀ r, rs[busyFirst rs]? = some r → Known r)

theorem busyFirst_busy
    (rs : List Int) :
    busyFirst (locApiAdapterErrEngineBusy :: rs) =
      busyFirst rs + 1 := by
  simp [busyFirst]

theorem busyFirst_other
    {r : Int}
    (hOther : r ≠ locApiAdapterErrEngineBusy)
    (rs : List Int) :
    busyFirst (r :: rs) = 0 := by
  simp [busyFirst, hOther]

theorem withinAfter_busy
    (made used : Nat)
    (rs : List Int) :
    WithinAfter made used
        (locApiAdapterErrEngineBusy :: rs) ↔
      WithinAfter (made + 1) used rs := by
  have hCount :
      made + (busyFirst rs + 1) = made + 1 + busyFirst rs := by
    omega
  unfold WithinAfter
  rw [busyFirst_busy, hCount, List.getElem?_cons_succ]

theorem withinAfter_other
    {made used : Nat}
    {r : Int}
    (hOther : r ≠ locApiAdapterErrEngineBusy)
    (hLow : made + used ≤ maxStartDataCallRetries)
    (rs : List Int) :
    WithinAfter made used (r :: rs) ↔ Known r := by
  have hMade : ¬ maxStartDataCallRetries < made := by omega
  unfold WithinAfter
  rw [busyFirst_other hOther]
  simp [hLow, hMade]

/- A start on a busy modem, with retries left or without. -/
theorem startOutcome_busy
    (retries : BitVec 8)
    (timer : TimerStart)
    (hLow : retries.toNat ≤ maxStartDataCallRetries) :
    Roster.startOutcome retries
        ⟨locApiAdapterErrEngineBusy, timer⟩ =
      if retries.toNat < maxStartDataCallRetries then .retry
      else .fallback := by
  have hNext : (retries + 1).toNat = retries.toNat + 1 := by
    unfold maxStartDataCallRetries at hLow
    rw [BitVec.toNat_add]
    simp
    omega
  unfold Roster.startOutcome
  rw [if_pos rfl, hNext]
  by_cases hLeft : retries.toNat < maxStartDataCallRetries
  · rw [if_pos hLeft, if_neg (by omega)]
  · rw [if_neg hLeft, if_pos (by omega)]

theorem startOutcome_other
    {r : Int}
    (hOther : r ≠ locApiAdapterErrEngineBusy)
    (retries : BitVec 8)
    (timer : TimerStart) :
    Roster.startOutcome retries ⟨r, timer⟩ =
      if r = locApiAdapterErrSuccess then .started
      else if
        r = locApiAdapterErrUnsupported ∨ r = -1 then
        .fallback
      else .unrecognized := by
  unfold Roster.startOutcome
  simp only [if_neg hOther]
  by_cases hUnsupported : r = locApiAdapterErrUnsupported
  · subst hUnsupported
    simp [locApiAdapterErrUnsupported,
      locApiAdapterErrSuccess]
  · simp [hUnsupported]

theorem handle_of_single (mID : Handle) :
    Roster.connHandle [.ds mID false] = mID := rfl

/- Other results do not depend on what has been used. -/
theorem loop_eq_policy_other
    (mID : Handle)
    (retries : BitVec 8)
    (made : Nat)
    {r : Int}
    (hOther : r ≠ locApiAdapterErrEngineBusy)
    (rs : List Int) :
    loop mID retries (r :: rs) = policy mID made (r :: rs) ↔
      Known r := by
  unfold loop policy Roster.startOut Known
  rw [startOutcome_other hOther, handle_of_single]
  by_cases hSuccess : r = locApiAdapterErrSuccess
  · simp [hSuccess]
  · by_cases hFallback :
        r = locApiAdapterErrUnsupported ∨ r = -1
    · simp [hSuccess, hFallback, hOther]
    · simp [hSuccess, hFallback, hOther]

/- With a retry left on both sides the two go on alike. -/
theorem loop_eq_policy_retry
    (mID : Handle)
    {retries : BitVec 8}
    {made : Nat}
    (hLeft : retries.toNat < maxStartDataCallRetries)
    (hMade : made < maxStartDataCallRetries)
    (rs : List Int) :
    loop mID retries (locApiAdapterErrEngineBusy :: rs) =
        policy mID made (locApiAdapterErrEngineBusy :: rs) ↔
      loop mID (retries + 1) rs =
        policy mID (made + 1) rs := by
  have hOutcome :=
    startOutcome_busy retries .started (Nat.le_of_lt hLeft)
  rw [if_pos hLeft] at hOutcome
  rw [loop, policy, Roster.startOut, hOutcome]
  have hBusy :
      locApiAdapterErrEngineBusy ≠
        locApiAdapterErrSuccess := by
    decide
  simp only [if_true, if_neg hBusy, hMade, and_self]
  cases rs with
  | nil => simp [loop, policy]
  | cons r rs => simp

/- Without one the machine falls back. -/
theorem loop_eq_policy_spent
    (mID : Handle)
    {retries : BitVec 8}
    {made : Nat}
    (hSpent : retries.toNat = maxStartDataCallRetries)
    (hMade : made ≤ maxStartDataCallRetries)
    (rs : List Int) :
    loop mID retries (locApiAdapterErrEngineBusy :: rs) =
        policy mID made (locApiAdapterErrEngineBusy :: rs) ↔
      made = maxStartDataCallRetries := by
  have hOutcome :=
    startOutcome_busy retries .started (Nat.le_of_eq hSpent)
  rw [if_neg (by omega)] at hOutcome
  rw [loop, policy, Roster.startOut, hOutcome,
    handle_of_single]
  have hBusy :
      locApiAdapterErrEngineBusy ≠
        locApiAdapterErrSuccess := by
    decide
  by_cases hLeft : made < maxStartDataCallRetries
  · simp [hBusy, hLeft]
    omega
  · simp [hBusy, hLeft]
    omega

/-
  The machine keeps to the policy exactly if the counter it
  starts with and the results allow for it.
-/
theorem loop_eq_policy_iff
    (mID : Handle)
    {retries : BitVec 8}
    {made used : Nat}
    (hCount : retries.toNat = made + used)
    (hLow : made + used ≤ maxStartDataCallRetries)
    (rs : List Int) :
    loop mID retries rs = policy mID made rs ↔
      WithinAfter made used rs := by
  induction rs generalizing retries made with
  | nil =>
      apply iff_of_true rfl
      exact ⟨Or.inr (by simpa [busyFirst] using hLow),
        Or.inr (by simp)⟩
  | cons r rs ih =>
      by_cases hBusy : r = locApiAdapterErrEngineBusy
      · subst hBusy
        rw [withinAfter_busy]
        by_cases hLeft :
            retries.toNat < maxStartDataCallRetries
        · rw [loop_eq_policy_retry mID hLeft (by omega)]
          apply ih
          · unfold maxStartDataCallRetries at hLeft
            rw [BitVec.toNat_add]
            simp
            omega
          · omega
        · rw [loop_eq_policy_spent mID (by omega)
            (by omega)]
          unfold WithinAfter
          constructor
          · intro hMade
            exact ⟨Or.inl (by omega), Or.inl (by omega)⟩
          · rintro ⟨hUsed | hEnough, -⟩
            · omega
            · omega
      · rw [withinAfter_other hBusy hLow]
        exact loop_eq_policy_other mID retries made hBusy rs

end Retry

end Agps

end D2Common

------------------------------------------------------------
-- The Machine's Attempts
------------------------------------------------------------

namespace D2Common

namespace Agps

namespace Retry

open Nifs (Input ran ran_cons step)

/-
  The inputs after a start: a timer expires, if one runs,
  and the request it has queued is processed.
-/
def later : List Int → List Input
| [] => []
| r :: rs =>
    .timerFires ::
      .queuedRequest ⟨r, .started⟩ :: later rs

/- A request from the modem, and the results of its starts. -/
def attempts
    (mID : Handle) : List Int → List Input
| [] => []
| r :: rs => .requestSuplEs mID ⟨r, .started⟩ :: later rs

/- The machine in Released, with the list it then has. -/
structure Asked
    (sm : AgpsStateMachine)
    (l : List Subscriber)
    (retries : BitVec 8) : Prop where
  ds : sm.mRetries = some retries
  many : sm.mEnforceSingleSubscriber = false
  state : sm.mStatePtr = .released
  list : sm.mSubscribers = l

/- No timer runs, and none has queued a request. -/
structure Ready
    (e : Nifs)
    (l : List Subscriber)
    (retries : BitVec 8) : Prop where
  nif : ∃ sm, e.ds_nif = some sm ∧ Asked sm l retries
  timers : e.retryTimers = 0
  queue : e.retryQueue = []

/- One timer runs, for the only handle on the list. -/
structure Delayed
    (e : Nifs)
    (mID : Handle)
    (retries : BitVec 8) : Prop where
  nif :
    ∃ sm, e.ds_nif = some sm ∧
      Asked sm [.ds mID false] retries
  timers : e.retryTimers = 1
  queue : e.retryQueue = []

variable {mID : Handle}
variable {retries : BitVec 8}

theorem added_of_asked
    {l : List Subscriber}
    (hList : l = [] ∨ l = [.ds mID false]) :
    Roster.added (.ds mID false) l = [.ds mID false] := by
  rcases hList with rfl | rfl
  · rfl
  · simp [Roster.added]

theorem call_of_asked
    {sm : AgpsStateMachine}
    {l : List Subscriber}
    (hAsked : Asked sm l retries)
    (hList : l = [] ∨ l = [.ds mID false])
    (env : DataCall) :
    sm.call env (.subscribeRsrc (.ds mID false)) =
      ({ sm with
          mSubscribers := [.ds mID false]
          mRetries :=
            some (Roster.startRetries retries env)
          mStatePtr :=
            if Roster.startReturn retries env = 0 then
              .pending
            else
              .released },
        Roster.startOut [.ds mID false] retries env) := by
  have hAdmits : ¬ sm.Refuses := by
    simp [AgpsStateMachine.Refuses, hAsked.many]
  rw [AgpsStateMachine.call_eq]
  simp only [Roster.respond, Roster.subscribe]
  rw [if_neg hAdmits]
  simp [Roster.move, hAsked.state, Roster.start,
    hAsked.list, added_of_asked hList, Roster.request,
    hAsked.ds]

theorem countP_startsTimer
    (l : List Subscriber)
    (r : Int) :
    (Roster.startOut l retries ⟨r, .started⟩).countP
        LocEng.startsTimer =
      if
        Roster.startOutcome retries ⟨r, .started⟩ =
          .retry then 1
      else 0 := by
  unfold Roster.startOut
  cases Roster.startOutcome retries ⟨r, .started⟩ <;> rfl

theorem queuedHandle_startOut
    (l : List Subscriber)
    (env : DataCall) :
    (Roster.startOut l retries env).filterMap
        LocEng.queuedHandle = [] := by
  unfold Roster.startOut
  cases Roster.startOutcome retries env <;> rfl

/- The engine after one start. -/
theorem request_of_ready
    {e : Nifs}
    {l : List Subscriber}
    (hReady : Ready e l retries)
    (hList : l = [] ∨ l = [.ds mID false])
    (r : Int) :
    let env : DataCall := ⟨r, .started⟩
    let x := e.ofLocEng (e.toLocEng.requestSuplEs mID env)
    x.2 = Roster.startOut [.ds mID false] retries env ∧
      (Roster.startOutcome retries env = .retry →
        Delayed x.1 mID (retries + 1)) ∧
        (Roster.startOutcome retries env ≠ .retry →
          x.1.retryTimers = 0 ∧ x.1.retryQueue = []) := by
  intro env x
  rcases hReady with ⟨⟨sm, hNif, hAsked⟩, hTimers, hQueue⟩
  have hx : x =
      e.ofLocEng
        (e.toLocEng.returned
          (sm.call env (.subscribeRsrc (.ds mID false)))) := by
    simp only [x, LocEng.requestSuplEs, hNif]
  rw [call_of_asked hAsked hList env] at hx
  have hTimersAfter : x.1.retryTimers =
      if Roster.startOutcome retries env = .retry then 1
      else 0 := by
    rw [hx]
    simp only [Nifs.ofLocEng, LocEng.returned, hTimers,
      Nat.zero_add]
    exact countP_startsTimer [.ds mID false] r
  have hQueueAfter : x.1.retryQueue = [] := by
    rw [hx]
    simp only [Nifs.ofLocEng, LocEng.returned, hQueue,
      queuedHandle_startOut, List.append_nil]
  refine ⟨by rw [hx]; rfl, ?_, ?_⟩
  · intro hRetry
    rw [if_pos hRetry] at hTimersAfter
    have hReturn : Roster.startReturn retries env ≠ 0 := by
      simp [Roster.startReturn, hRetry, env,
        TimerStart.nonNull]
    have hRetries :
        Roster.startRetries retries env = retries + 1 := by
      simp [Roster.startRetries, hRetry]
    refine ⟨?_, hTimersAfter, hQueueAfter⟩
    rw [hx]
    exact
      ⟨_, rfl, by rw [hRetries], hAsked.many,
        if_neg hReturn, rfl⟩
  · intro hOther
    rw [if_neg hOther] at hTimersAfter
    exact ⟨hTimersAfter, hQueueAfter⟩

/- Without a timer nothing more happens. -/
theorem ran_later_of_quiet
    (abi : DmnConn.Abi)
    {e : Nifs}
    (hTimers : e.retryTimers = 0)
    (hQueue : e.retryQueue = [])
    (rs : List Int) :
    (ran abi e (later rs)).2 = [] := by
  induction rs with
  | nil => rfl
  | cons r rs ih =>
      have hFires : step abi e .timerFires = (e, []) := by
        simp [step, LocEng.timerFires, hTimers,
          Nifs.ofLocEng]
      have hQueued :
          step abi e (.queuedRequest ⟨r, .started⟩) =
            (e, []) := by
        simp [step, LocEng.queuedRequest, hQueue,
          Nifs.ofLocEng]
      rw [later, ran_cons, hFires, ran_cons, hQueued]
      exact ih

/- The timer's request is one more start for the handle. -/
theorem ran_later_of_delayed
    (abi : DmnConn.Abi)
    {e : Nifs}
    (hDelayed : Delayed e mID retries)
    (r : Int)
    (rs : List Int) :
    ∃ e', Ready e' [.ds mID false] retries ∧
      (ran abi e (later (r :: rs))).2 =
        .requestSuplES mID ::
          (ran abi e' (attempts mID (r :: rs))).2 := by
  rcases hDelayed with
    ⟨⟨sm, hNif, hAsked⟩, hTimers, hQueue⟩
  have hFound :
      sm.findSubscriber (.ofGroup .broadcastActive) =
        some (.ds mID false) := by
    rw [AgpsStateMachine.findSubscriber_ofGroup, hAsked.list]
    rfl
  have hFires :
      e.toLocEng.timerFires =
        ({ e.toLocEng with
            retryTimers := 0
            retryQueue := [mID] },
          [.requestSuplES mID]) := by
    simp [LocEng.timerFires, hTimers, hNif,
      DSStateMachine.retryCallback, hFound, Exec.emit,
      LocEng.returned, LocEng.startsTimer,
      LocEng.queuedHandle, LocEng.fallbackHandle, hQueue,
      Subscriber.ID]
  refine
    ⟨{ e with
        toLocEng :=
          { e.toLocEng with
            retryTimers := 0
            retryQueue := [] } },
      ⟨⟨sm, hNif, hAsked⟩, rfl, rfl⟩, ?_⟩
  have hStep :
      step abi e .timerFires =
        ({ e with
            toLocEng :=
              { e.toLocEng with
                retryTimers := 0
                retryQueue := [mID] } },
          [.requestSuplES mID]) := by
    simp only [step, hFires, Nifs.ofLocEng]
  rw [later, ran_cons, hStep]
  rfl

/- The run of a request is the loop of its machine. -/
theorem ran_attempts
    (abi : DmnConn.Abi)
    {e : Nifs}
    {l : List Subscriber}
    (hReady : Ready e l retries)
    (hList : l = [] ∨ l = [.ds mID false])
    (rs : List Int) :
    (ran abi e (attempts mID rs)).2 =
      loop mID retries rs := by
  induction rs generalizing e l retries with
  | nil => rfl
  | cons r rs ih =>
      have hFirst := request_of_ready hReady hList r
      rw [attempts, ran_cons, loop]
      simp only [step]
      rw [hFirst.1]
      congr 1
      by_cases hRetry :
          Roster.startOutcome retries ⟨r, .started⟩ = .retry
      · rw [if_pos hRetry]
        cases rs with
        | nil => rfl
        | cons r' rs =>
            rcases ran_later_of_delayed abi
                (hFirst.2.1 hRetry) r' rs with
              ⟨e', hReady', hRan⟩
            rw [hRan, if_neg (List.cons_ne_nil _ _),
              ih hReady' (Or.inr rfl)]
      · rw [if_neg hRetry]
        have hQuiet := hFirst.2.2 hRetry
        exact ran_later_of_quiet abi hQuiet.1 hQuiet.2 rs

/-
  The retry budget of a request that finds the machine in
  Released with nobody on its list and no retry under way,
  after any history: the starts keep to the policy if and
  only if what earlier requests have left of the counter is
  enough, and the machine knows the result that ends them.
-/
theorem retry_budget_iff
    (abi : DmnConn.Abi)
    (is : List Input)
    (mID : Handle)
    (results : List Int)
    (sm : AgpsStateMachine)
    (hNif : ((Nifs.engine abi).run is).ds_nif = some sm)
    (hState : sm.mStatePtr = .released)
    (hNil : sm.mSubscribers = [])
    (hTimers : ((Nifs.engine abi).run is).retryTimers = 0)
    (hQueue : ((Nifs.engine abi).run is).retryQueue = []) :
    (ran abi ((Nifs.engine abi).run is)
          (attempts mID results)).2 =
        policy mID 0 results ↔
      WithinAfter 0 sm.retries.toNat results := by
  have hSm := Nifs.inv_run abi is .ds_nif sm hNif
  rcases Option.isSome_iff_exists.mp hSm.ds with
    ⟨retries, hRetries⟩
  have hCounter : sm.retries = retries := by
    simp [AgpsStateMachine.retries, hRetries]
  have hLow := hSm.sound.retries
  have hReady :
      Ready ((Nifs.engine abi).run is) [] retries :=
    ⟨⟨sm, hNif, hRetries, hSm.single, hState, hNil⟩,
      hTimers, hQueue⟩
  rw [hCounter] at hLow ⊢
  rw [ran_attempts abi hReady (Or.inl rfl)]
  exact loop_eq_policy_iff mID (Nat.zero_add _).symm
    (by omega) results

/- The engine with its data services machine. -/
def initialized : List Input :=
  [.agpsInit true true true, .dataClientInit 0]

theorem retry_budget_iff_initialized :
    (ran .ilp32 ((Nifs.engine .ilp32).run initialized)
          (attempts 9 [6, 0])).2 =
        policy 9 0 [6, 0] ↔
      WithinAfter 0 0 [6, 0] :=
  retry_budget_iff .ilp32 initialized 9 [6, 0]
    DSStateMachine.new rfl rfl rfl rfl rfl

/-
  A call that came up at the first retry and went down: the
  counter keeps that retry.
-/
def usedBefore : List Input :=
  initialized ++ attempts 1 [6, 0] ++
    [.suplEsOpened, .suplEsClosed noDataCall]

/-
  A result that is not known, and four busy results after
  such a call.
-/
theorem retry_budget_fails :
    let e := (Nifs.engine .ilp32).run initialized
    let e' := (Nifs.engine .ilp32).run usedBefore
    (ran .ilp32 e (attempts 9 [1])).2 ≠ policy 9 0 [1] ∧
      (e'.ds_nif =
          some { DSStateMachine.new with
            mRetries := some 1 } ∧
        e'.retryTimers = 0 ∧ e'.retryQueue = []) ∧
        (ran .ilp32 e' (attempts 9 [6, 6, 6, 6])).2 ≠
          policy 9 0 [6, 6, 6, 6] := by
  decide

end Retry

end Agps

end D2Common
