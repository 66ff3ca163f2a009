import D2Common.Core.LocApiBase.Opening
import D2Common.Ni.Handlers

/-
  What the modem tells reaches the adapters.

  Reports go to every adapter in the table. A request goes to
  one after the other until an adapter handles it. An adapter
  puts a message of its own into the queue of the task, or
  leaves a report to its proxy.

  The loops over the table are taken slot by slot: nothing
  locks the table, and other threads may go over it or change
  it between two slots. An adapter that is in the table all
  the while can be missed when another one is removed, since
  the last one is put into its place.

  Key definitions include:
    * `Report`
    * `Request`
    * `Errand`
    * `Delivery.program`
    * `Delivery.due`

  Key theorems include:
    * `Delivery.due_cons`
    * `Delivery.coming_called`
    * `Delivery.delivered_in_order`
-/

------------------------------------------------------------
-- Reports And Requests
------------------------------------------------------------

namespace D2Common

namespace LocApiBase

/- What is reported to all adapters; `δ` are the contents. -/
inductive Report (δ : Type) where
  | handleEngineDownEvent
  | handleEngineUpEvent
  | reportPosition (content : δ)
  | reportSv (content : δ)
  | reportStatus (content : δ)
  | reportNmea (content : δ)
deriving DecidableEq

/- What one adapter is to handle. -/
inductive Request (δ : Type) where
  | reportXtraServer (content : δ)
  | requestXtraData
  | requestTime
  | requestLocation
  | requestATL (connHandle agps_type : BitVec 32)
  | releaseATL (connHandle : BitVec 32)
  | requestSuplES (connHandle : BitVec 32)
  | reportDataCallOpened
  | reportDataCallClosed
  | requestNiNotify (notif : Ni.Notification) (data : δ)
deriving DecidableEq

variable {α δ : Type}

/- Messages of adapters, each with the adapter it is from. -/
inductive AdapterMsg (α δ : Type) where
  | report (adapter : α) (r : Report δ)
  | request (adapter : α) (q : Request δ)
deriving DecidableEq

/- The reports that an adapter shows to its proxy first. -/
def Report.asksUlp : Report δ → Bool
| .reportPosition _ => true
| .reportSv _ => true
| .reportStatus _ => true
| _ => false

/-
  A method of `LocEngAdapter` for a report; `mUlp` is what
  the proxy returns for it.
-/
def onReport
    (mUlp : Bool)
    (adapter : α)
    (r : Report δ) : List (AdapterMsg α δ) :=
  if r.asksUlp && mUlp then [] else [.report adapter r]

/- A request as the adapter passes it on. -/
def Request.passed : Request δ → Request δ
| .requestNiNotify notif data =>
    .requestNiNotify
      { notif with timeout := Ni.noResponseTime } data
| q => q

/- The requests that `LocEngAdapter` has a method for. -/
def Request.known : Request δ → Bool
| .requestLocation => false
| _ => true

/-
  A method of `LocEngAdapter` for a request, and whether it
  handles it; the others are those of `LocAdapterBase`.
-/
def onRequest
    (mSupportsAgpsRequests : Bool)
    (adapter : α)
    (q : Request δ) : List (AdapterMsg α δ) × Bool :=
  if q.known then
    (if mSupportsAgpsRequests then
        [.request adapter q.passed] else [],
      mSupportsAgpsRequests)
  else ([], false)

/-
  What goes over the table: `TO_ALL_ADAPTERS` with a report,
  where `mUlp` is what the proxy of each adapter returns, or
  `TO_1ST_HANDLING_ADAPTER` with a request.
-/
inductive Errand (α δ : Type) where
  | report (r : Report δ) (mUlp : α → Bool)
  | request (q : Request δ)

/- The body of the loop, and whether the loop ends with it. -/
def Errand.visit
    (mSupportsAgpsRequests : α → Bool)
    (adapter : α) :
    Errand α δ → List (AdapterMsg α δ) × Bool
| .report r mUlp => (onReport (mUlp adapter) adapter r, false)
| .request q =>
    onRequest (mSupportsAgpsRequests adapter) adapter q

end LocApiBase

end D2Common

------------------------------------------------------------
-- The Program
------------------------------------------------------------

namespace D2Common

namespace LocApiBase

namespace Delivery

/- A loop over the table, and the slot that comes next. -/
structure Round (α δ : Type) where
  errand : Errand α δ
  i : Nat

/-
  The table, removals that are still to close the API, a
  field of each adapter, and the loop that each of the
  threads `T` is in.
-/
structure State (α δ T : Type) where
  mLocAdapters : Adapters α
  closing : Nat
  mSupportsAgpsRequests : α → Bool
  rounds : T → Option (Round α δ)

/- All messages in the queue. -/
inductive Msg (α δ : Type) where
  | api (m : LocApiBase.Msg)
  | adapter (m : AdapterMsg α δ)
deriving DecidableEq

/-
  Calls: changes of the table and of the field of an adapter,
  the start of a loop and its next slot, and `proc` of a
  message.
-/
inductive Call (α δ T : Type) where
  | change (c : LocApiBase.Call α)
  | close
  | setSupports (adapter : α) (mSupportsAgpsRequests : Bool)
  | start (t : T) (errand : Errand α δ)
  | next (t : T)
  | proc (m : Msg α δ)

/- The thread that a step of a loop is of. -/
def Call.thread
    {α δ T : Type} : Call α δ T → Option T
| .start t _ => some t
| .next t => some t
| _ => none

/- What a call does. -/
inductive Said (α δ : Type) where
  | sendMsg (m : Msg α δ)
  | close
  | open (mask : EventMask)
  | proc (m : AdapterMsg α δ)
deriving DecidableEq

variable {α δ T : Type}

def Said.msg : Said α δ → Option (Msg α δ)
| .sendMsg m => some m
| _ => none

/- What a change of the table does before it closes. -/
def saidOf : Output → Option (Said α δ)
| .sendOpenMsg mMask => some (.sendMsg (.api (.openMsg mMask)))
| .close => none

/- Messages of adapters are sent. -/
def sendAll
    (msgs : List (AdapterMsg α δ)) : List (Said α δ) :=
  msgs.map fun m => .sendMsg (.adapter m)

/-
  What comes before a loop: `LocApiBase::handleEngineUpEvent`
  queues a message of its own.
-/
def before : Errand α δ → List (Said α δ)
| .report .handleEngineUpEvent _ => [.sendMsg (.api .ssr)]
| _ => []

section Calls

variable [DecidableEq α] [DecidableEq T]
variable (evtMask : α → EventMask)
variable (mExcludedMask : EventMask)

/- A thread goes on with a loop, or has come to its end. -/
def State.setRound
    (s : State α δ T)
    (t : T)
    (round : Option (Round α δ)) : State α δ T :=
  { s with rounds := Function.update s.rounds t round }

/- The next slot of a loop. -/
def visitSlot
    (s : State α δ T)
    (t : T)
    (round : Round α δ) : State α δ T × List (Said α δ) :=
  if hi : round.i < maxAdapters then
    match s.mLocAdapters[round.i] with
    | none => (s.setRound t none, [])
    | some adapter =>
        let r :=
          round.errand.visit s.mSupportsAgpsRequests adapter
        (s.setRound t
            (if r.2 then none
            else some { round with i := round.i + 1 }),
          sendAll r.1)
  else (s.setRound t none, [])

/- One call. A thread is in one loop at a time. -/
def called
    (s : State α δ T) :
    Call α δ T → State α δ T × List (Said α δ)
| .change c =>
    let r :=
      (system evtMask mExcludedMask).step s.mLocAdapters c
    ({ s with
        mLocAdapters := r.1
        closing := s.closing + r.2.count .close },
      r.2.filterMap saidOf)
| .close =>
    if s.closing = 0 then (s, [])
    else ({ s with closing := s.closing - 1 }, [.close])
| .setSupports adapter mSupportsAgpsRequests =>
    ({ s with
        mSupportsAgpsRequests :=
          Function.update s.mSupportsAgpsRequests adapter
            mSupportsAgpsRequests },
      [])
| .start t errand =>
    match s.rounds t with
    | none =>
        (s.setRound t (some ⟨errand, 0⟩), before errand)
    | some _ => (s, [])
| .next t =>
    match s.rounds t with
    | none => (s, [])
    | some round => visitSlot s t round
| .proc (.api .ssr) =>
    (s,
      [.close,
        .open
          (getEvtMask evtMask mExcludedMask s.mLocAdapters)])
| .proc (.api (.openMsg mMask)) => (s, [.open mMask])
| .proc (.adapter m) => (s, [.proc m])

/- The location API when nothing has been added. -/
def State.init : State α δ T where
  mLocAdapters := Vector.replicate maxAdapters none
  closing := 0
  mSupportsAgpsRequests := fun _ => false
  rounds := fun _ => none

/- The location API and its adapters behind the task. -/
def program :
    Program (State α δ T) (Call α δ T) (Msg α δ)
      (Said α δ) where
  machine :=
    { init := .init
      step := called evtMask mExcludedMask }
  proc := .proc
  sends := Said.msg

end Calls

end Delivery

end LocApiBase

end D2Common

------------------------------------------------------------
-- What Is Due To An Adapter
------------------------------------------------------------

namespace D2Common

namespace LocApiBase

namespace Delivery

variable {α δ T : Type}

/- The adapters that are registered, and the field. -/
structure Office (α : Type) where
  adapters : List α
  mSupportsAgpsRequests : α → Bool

/- What happens to the API, its adapters and the threads. -/
abbrev Act (α δ T : Type) :=
  Mailbox.Act T (Call α δ T) (Msg α δ) (Said α δ)

/- The adapter that a message is from. -/
def AdapterMsg.owner : AdapterMsg α δ → α
| .report adapter _ => adapter
| .request adapter _ => adapter

section Due

variable [DecidableEq α]

/- A message of this adapter. -/
def ownedBy
    (adapter : α) : Msg α δ → Option (AdapterMsg α δ)
| .api _ => none
| .adapter m =>
    if AdapterMsg.owner m = adapter then some m else none

/-
  What an adapter is to send: every report, if the adapter is
  registered and its proxy does not keep it, and a request,
  if it is the first adapter that handles it.
-/
def due
    (adapter : α)
    (l : List α)
    (mSupportsAgpsRequests : α → Bool) :
    Errand α δ → List (AdapterMsg α δ)
| .report r mUlp =>
    if adapter ∈ l ∧ (r.asksUlp && mUlp adapter) = false then
      [.report adapter r]
    else []
| .request q =>
    if q.known = true ∧
        l.find? mSupportsAgpsRequests = some adapter then
      [.request adapter q.passed]
    else []

variable (evtMask : α → EventMask)
variable (mExcludedMask : EventMask)

/- The adapters after a call. -/
def Office.after
    (o : Office α) : Call α δ T → Office α
| .change c =>
    { o with
      adapters :=
        (register evtMask mExcludedMask o.adapters c).1 }
| .setSupports adapter mSupportsAgpsRequests =>
    { o with
      mSupportsAgpsRequests :=
        Function.update o.mSupportsAgpsRequests adapter
          mSupportsAgpsRequests }
| _ => o

variable [DecidableEq T]

/- What the call of a thread makes the adapter owe. -/
def Office.owes
    (o : Office α)
    (t : T)
    (adapter : α) : Call α δ T → List (AdapterMsg α δ)
| .start u errand =>
    if u = t then
      due adapter o.adapters o.mSupportsAgpsRequests errand
    else []
| _ => []

/-
  A call that is at odds with a loop of the thread that is
  under way: a removal, the addition of this adapter, a
  change of what an adapter supports, or another loop of the
  same thread.
-/
def Call.disturbs
    (t : T)
    (adapter : α) : Call α δ T → Bool
| .change (.addAdapter other) => decide (other = adapter)
| .change (.removeAdapter _) => true
| .setSupports _ _ => true
| .start u _ => decide (u = t)
| _ => false

/-
  What is noted of a run for a thread and an adapter: the
  API, the adapters, what is owed, and whether no call has
  been at odds with a loop of the thread.
-/
structure Noted (α δ T : Type) where
  state : State α δ T
  office : Office α
  owed : List (AdapterMsg α δ)
  calm : Bool

def Noted.after
    (t : T)
    (adapter : α)
    (x : Noted α δ T) : Act α δ T → Noted α δ T
| .called _ c _ =>
    { state := (called evtMask mExcludedMask x.state c).1
      office := x.office.after evtMask mExcludedMask c
      owed := x.owed ++ x.office.owes t adapter c
      calm :=
        x.calm &&
          !((x.state.rounds t).isSome &&
            c.disturbs t adapter) }
| _ => x

def noted
    (t : T)
    (adapter : α)
    (acts : List (Act α δ T)) : Noted α δ T :=
  acts.foldl (Noted.after evtMask mExcludedMask t adapter)
    ⟨.init, ⟨[], fun _ => false⟩, [], true⟩

/- The messages of an adapter that a thread has sent and the
loop has handled. -/
def handledFor
    (t : T)
    (adapter : α)
    (acts : List (Act α δ T)) : List (AdapterMsg α δ) :=
  ((acts.filterMap Mailbox.Act.handling).filterMap
    (Mailbox.sender (some t))).filterMap (ownedBy adapter)

/- What a loop has still to make the adapter send. -/
def coming
    (adapter : α)
    (o : Office α) :
    Option (Round α δ) → List (AdapterMsg α δ)
| none => []
| some round =>
    due adapter (o.adapters.drop round.i)
      o.mSupportsAgpsRequests round.errand

end Due

section Sent

variable [DecidableEq α]

/- The messages of an adapter among those of a call. -/
def ownedIn
    (adapter : α)
    (out : List (Said α δ)) : List (AdapterMsg α δ) :=
  (out.filterMap Said.msg).filterMap (ownedBy adapter)

theorem ownedIn_sendAll
    (adapter : α)
    (msgs : List (AdapterMsg α δ)) :
    ownedIn adapter (sendAll msgs) =
      msgs.filter (fun m => AdapterMsg.owner m = adapter) := by
  unfold ownedIn sendAll
  induction msgs with
  | nil => rfl
  | cons m msgs ih =>
      rw [List.filterMap_filterMap] at ih ⊢
      rw [List.map_cons, List.filterMap_cons, ih,
        List.filter_cons]
      by_cases hOwn : AdapterMsg.owner m = adapter <;>
        simp [Said.msg, ownedBy, hOwn]

/-
  Going on by one adapter: what it sends, and what is due
  behind it unless the loop ends there.
-/
theorem due_cons
    {a : α}
    {l : List α}
    (hFresh : a ∉ l)
    (adapter : α)
    (mSupportsAgpsRequests : α → Bool)
    (errand : Errand α δ) :
    let r := errand.visit mSupportsAgpsRequests a
    ownedIn adapter (sendAll r.1) ++
        (if r.2 then []
        else due adapter l mSupportsAgpsRequests errand) =
      due adapter (a :: l) mSupportsAgpsRequests errand := by
  intro r
  rw [ownedIn_sendAll]
  cases errand with
  | report report mUlp =>
      simp only [r, Errand.visit, onReport, due]
      by_cases hSame : a = adapter
      · subst hSame
        cases report.asksUlp && mUlp a <;>
          simp [hFresh, AdapterMsg.owner]
      · have hOther : adapter ≠ a := fun h => hSame h.symm
        cases report.asksUlp && mUlp a <;>
          simp [hSame, hOther, AdapterMsg.owner]
  | request q =>
      simp only [r, Errand.visit, onRequest, due]
      cases hKnown : q.known with
      | false => simp
      | true =>
          cases hSupports : mSupportsAgpsRequests a with
          | false => simp [hSupports]
          | true =>
              by_cases hSame : a = adapter
              · subst hSame
                simp [hSupports, AdapterMsg.owner]
              · simp [hSupports, hSame, AdapterMsg.owner]

/- More adapters behind the others do not matter to one. -/
theorem due_append
    {adapter : α}
    {more : List α}
    (hOther : adapter ∉ more)
    (l : List α)
    (mSupportsAgpsRequests : α → Bool)
    (errand : Errand α δ) :
    due adapter (l ++ more) mSupportsAgpsRequests errand =
      due adapter l mSupportsAgpsRequests errand := by
  cases errand with
  | report report mUlp => simp [due, hOther]
  | request q =>
      have hMore :
          more.find? mSupportsAgpsRequests ≠ some adapter :=
        fun hFound =>
          hOther (List.mem_of_find?_eq_some hFound)
      simp only [due, List.find?_append]
      cases l.find? mSupportsAgpsRequests with
      | none => simp [hMore]
      | some first => simp

variable [DecidableEq T]

/- The next slot, for the thread that is in the loop. -/
theorem coming_visitSlot
    {s : State α δ T}
    {o : Office α}
    (hLists : Lists s.mLocAdapters o.adapters)
    (hSupports :
      s.mSupportsAgpsRequests = o.mSupportsAgpsRequests)
    (adapter : α)
    (t : T)
    (round : Round α δ) :
    let r := visitSlot s t round
    ownedIn adapter r.2 ++ coming adapter o (r.1.rounds t) =
      coming adapter o (some round) := by
  have hEnd
      (hNone : o.adapters.drop round.i = []) :
      coming adapter o none =
        coming adapter o (some round) := by
    rw [coming, coming, hNone]
    cases round.errand <;> simp [due]
  unfold visitSlot
  split
  · next hi =>
      split
      · next hFree =>
          have hLast :=
            (hLists.holds.eq_none_iff hi).mp hFree
          simp only [State.setRound, Function.update_self]
          exact hEnd (List.drop_eq_nil_of_le hLast)
      · next a hSlot =>
          have hEntry := hLists.holds.entry round.i hi
          rw [hSlot] at hEntry
          rcases List.getElem?_eq_some_iff.mp hEntry.symm with
            ⟨hLt, hGet⟩
          have hDrop :
              o.adapters.drop round.i =
                a :: o.adapters.drop (round.i + 1) := by
            rw [List.drop_eq_getElem_cons hLt, hGet]
          have hFresh : a ∉ o.adapters.drop (round.i + 1) := by
            have hNodup :=
              hLists.nodup.sublist
                (List.drop_sublist round.i o.adapters)
            rw [hDrop] at hNodup
            exact (List.nodup_cons.mp hNodup).1
          have hCons :=
            due_cons hFresh adapter
              o.mSupportsAgpsRequests round.errand
          simp only [State.setRound, Function.update_self,
            hSupports]
          rw [coming, hDrop, ← hCons]
          split <;> rfl
  · next hi =>
      have hFits := hLists.holds.fits
      simp only [State.setRound, Function.update_self]
      exact hEnd (List.drop_eq_nil_of_le (by omega))

omit [DecidableEq α] in
/- The next slot of another thread's loop. -/
theorem rounds_visitSlot
    (s : State α δ T)
    {t u : T}
    (hOther : t ≠ u)
    (round : Round α δ) :
    (visitSlot s u round).1.rounds t = s.rounds t := by
  unfold visitSlot
  split
  · split <;>
      simp only [State.setRound,
        Function.update_of_ne hOther]
  · simp only [State.setRound, Function.update_of_ne hOther]

variable (evtMask : α → EventMask)
variable (mExcludedMask : EventMask)

/- Only loops make adapters send. -/
theorem ownedIn_of_no_thread
    (s : State α δ T)
    {c : Call α δ T}
    (hNone : c.thread = none)
    (adapter : α) :
    ownedIn adapter (called evtMask mExcludedMask s c).2 =
      [] := by
  cases c with
  | change c =>
      simp only [called, ownedIn, List.filterMap_filterMap]
      rw [List.filterMap_eq_nil_iff]
      intro out _
      cases out <;> rfl
  | close =>
      simp only [called]
      split <;> rfl
  | setSupports other supports => rfl
  | start u errand => cases hNone
  | next u => cases hNone
  | proc m =>
      cases m with
      | api m => cases m <;> rfl
      | adapter m => rfl

/-
  A call that is not at odds with a loop of a thread: what
  the thread makes an adapter send with it, and has still to,
  is what it had to before and what the call makes it owe.
-/
theorem coming_called
    {s : State α δ T}
    {o : Office α}
    (hLists : Lists s.mLocAdapters o.adapters)
    (hSupports :
      s.mSupportsAgpsRequests = o.mSupportsAgpsRequests)
    {t : T}
    {adapter : α}
    {c : Call α δ T}
    (hCalm :
      ((s.rounds t).isSome && c.disturbs t adapter) = false) :
    let r := called evtMask mExcludedMask s c
    (if c.thread = some t then ownedIn adapter r.2 else []) ++
        coming adapter (o.after evtMask mExcludedMask c)
          (r.1.rounds t) =
      coming adapter o (s.rounds t) ++
        o.owes t adapter c := by
  have hNoRound
      (hDisturbs : c.disturbs t adapter = true) :
      s.rounds t = none := by
    simpa [hDisturbs] using hCalm
  cases c with
  | change c =>
      simp only [Call.thread, reduceCtorEq, if_false, called,
        Office.owes, List.append_nil, List.nil_append]
      cases hRound : s.rounds t with
      | none => rfl
      | some round =>
          cases c with
          | removeAdapter other =>
              rw [hNoRound rfl] at hRound
              cases hRound
          | addAdapter other =>
              have hOther : adapter ∉ [other] := by
                intro hMem
                rw [List.mem_singleton] at hMem
                have hSame :=
                  hNoRound (by simp [Call.disturbs, hMem])
                rw [hSame] at hRound
                cases hRound
              simp only [Office.after, register, enlist]
              split
              · rfl
              · simp only [coming, List.drop_append]
                apply due_append
                exact
                  fun hMem => hOther (List.mem_of_mem_drop hMem)
  | close =>
      simp only [Call.thread, reduceCtorEq, if_false, called,
        Office.owes, List.append_nil, List.nil_append]
      split <;> rfl
  | setSupports other supports =>
      have hNone := hNoRound rfl
      simp only [called, hNone]
      rfl
  | start u errand =>
      by_cases hOwn : u = t
      · subst hOwn
        have hNone := hNoRound (by simp [Call.disturbs])
        have hBefore : ownedIn adapter (before errand) = [] := by
          cases errand with
          | report r mUlp => cases r <;> rfl
          | request q => rfl
        simp only [Call.thread, if_true, called, hNone,
          hBefore, State.setRound, Function.update_self,
          Office.owes]
        rfl
      · have hOther : t ≠ u := fun h => hOwn h.symm
        have hRound :
            (called evtMask mExcludedMask s
                (.start u errand)).1.rounds t =
              s.rounds t := by
          simp only [called]
          split
          · simp only [State.setRound,
              Function.update_of_ne hOther]
          · rfl
        simp only [Call.thread, Option.some.injEq, hOwn,
          if_false, hRound, Office.owes, List.append_nil,
          List.nil_append]
        rfl
  | next u =>
      by_cases hOwn : u = t
      · subst hOwn
        simp only [Call.thread, if_true, called, Office.owes,
          List.append_nil, Office.after]
        cases hRound : s.rounds u with
        | none =>
            simp only [hRound]
            rfl
        | some round =>
            exact
              coming_visitSlot hLists hSupports adapter u round
      · have hOther : t ≠ u := fun h => hOwn h.symm
        have hRound :
            (called evtMask mExcludedMask s
                (.next u)).1.rounds t =
              s.rounds t := by
          simp only [called]
          split
          · rfl
          · exact rounds_visitSlot s hOther _
        simp only [Call.thread, Option.some.injEq, hOwn,
          if_false, hRound, Office.owes, List.append_nil,
          List.nil_append]
        rfl
  | proc m =>
      simp only [Call.thread, reduceCtorEq, if_false,
        Office.owes, List.append_nil, List.nil_append]
      cases m with
      | api m => cases m <;> rfl
      | adapter m => rfl

end Sent

end Delivery

end LocApiBase

end D2Common

------------------------------------------------------------
-- Everything Is Delivered
------------------------------------------------------------

namespace D2Common

namespace LocApiBase

namespace Delivery

section Runs

variable {α δ T A : Type}
variable [DecidableEq α] [DecidableEq T] [DecidableEq A]
variable (evtMask : α → EventMask)
variable (mExcludedMask : EventMask)

/-
  The table lists the adapters that are registered, and a
  thread has been made to send what was owed, but for what
  its loop has still to come to.
-/
structure Posted
    (t : T)
    (adapter : α)
    (acts : List (Act α δ T))
    (s : State α δ T) : Prop where
  state :
    (noted evtMask mExcludedMask t adapter acts).state = s
  lists :
    Lists s.mLocAdapters
      (noted evtMask mExcludedMask t adapter
        acts).office.adapters
  supports :
    s.mSupportsAgpsRequests =
      (noted evtMask mExcludedMask t adapter
        acts).office.mSupportsAgpsRequests
  sent :
    (noted evtMask mExcludedMask t adapter acts).calm =
        true →
      (acts.flatMap
          (Mailbox.Act.sentBy
            (program evtMask mExcludedMask)
            (some t))).filterMap (ownedBy adapter) ++
          coming adapter
            (noted evtMask mExcludedMask t adapter
              acts).office
            (s.rounds t) =
        (noted evtMask mExcludedMask t adapter acts).owed

/- The adapters after a call, in the table and noted. -/
theorem after_called
    {s : State α δ T}
    {o : Office α}
    (hLists : Lists s.mLocAdapters o.adapters)
    (hSupports :
      s.mSupportsAgpsRequests = o.mSupportsAgpsRequests)
    (c : Call α δ T) :
    let s' := (called evtMask mExcludedMask s c).1
    let o' := o.after evtMask mExcludedMask c
    Lists s'.mLocAdapters o'.adapters ∧
      s'.mSupportsAgpsRequests =
        o'.mSupportsAgpsRequests := by
  have hVisit
      (u : T)
      (round : Round α δ) :
      (visitSlot s u round).1.mLocAdapters =
          s.mLocAdapters ∧
        (visitSlot s u round).1.mSupportsAgpsRequests =
          s.mSupportsAgpsRequests := by
    unfold visitSlot
    split
    · split <;> exact ⟨rfl, rfl⟩
    · exact ⟨rfl, rfl⟩
  cases c with
  | change c =>
      exact
        ⟨(lists_step evtMask mExcludedMask hLists c).1,
          hSupports⟩
  | close =>
      simp only [called]
      split <;> exact ⟨hLists, hSupports⟩
  | setSupports other supports =>
      refine ⟨hLists, ?_⟩
      simp only [called, Office.after, hSupports]
  | start u errand =>
      simp only [called]
      split <;> exact ⟨hLists, hSupports⟩
  | next u =>
      simp only [called]
      split
      · exact ⟨hLists, hSupports⟩
      · next round _ =>
          rw [(hVisit u round).1, (hVisit u round).2]
          exact ⟨hLists, hSupports⟩
  | proc m =>
      cases m with
      | api m => cases m <;> exact ⟨hLists, hSupports⟩
      | adapter m => exact ⟨hLists, hSupports⟩

/- A thread goes on with its own loops only. -/
def fits : Act α δ T → Prop
| .called v c _ => ∀ u ∈ c.thread, u = v
| _ => True

variable {evtMask}
variable {mExcludedMask}
variable {t : T}
variable {adapter : α}
variable {acts : List (Act α δ T)}

theorem noted_concat
    (a : Act α δ T) :
    noted evtMask mExcludedMask t adapter (acts ++ [a]) =
      (noted evtMask mExcludedMask t adapter acts).after
        evtMask mExcludedMask t adapter a := by
  simp [noted]

/- An act of which nothing is noted. -/
theorem Posted.quiet
    {s : State α δ T}
    (hPosted :
      Posted evtMask mExcludedMask t adapter acts s)
    {a : Act α δ T}
    (hNote :
      ∀ x : Noted α δ T,
        x.after evtMask mExcludedMask t adapter a = x)
    (hSent :
      a.sentBy (program evtMask mExcludedMask) (some t) =
        []) :
    Posted evtMask mExcludedMask t adapter (acts ++ [a])
      s := by
  have hNoted :
      noted evtMask mExcludedMask t adapter (acts ++ [a]) =
        noted evtMask mExcludedMask t adapter acts :=
    (noted_concat a).trans (hNote _)
  refine ⟨?_, ?_, ?_, ?_⟩
  · rw [hNoted]
    exact hPosted.state
  · rw [hNoted]
    exact hPosted.lists
  · rw [hNoted]
    exact hPosted.supports
  · rw [hNoted, List.flatMap_append, List.flatMap_singleton,
      hSent, List.append_nil]
    exact hPosted.sent

theorem posted_called
    {s : State α δ T}
    (hPosted :
      Posted evtMask mExcludedMask t adapter acts s)
    {v : T}
    {c : Call α δ T}
    (hOwn : ∀ u ∈ c.thread, u = v) :
    Posted evtMask mExcludedMask t adapter
      (acts ++
        [.called v c (called evtMask mExcludedMask s c).2])
      (called evtMask mExcludedMask s c).1 := by
  have hAfter :=
    after_called evtMask mExcludedMask hPosted.lists
      hPosted.supports c
  have hNoted :
      noted evtMask mExcludedMask t adapter
          (acts ++
            [.called v c
              (called evtMask mExcludedMask s c).2]) =
        _ :=
    noted_concat _
  simp only [Noted.after, hPosted.state] at hNoted
  have hBy :
      ((Mailbox.Act.called v c
            (called evtMask mExcludedMask s c).2).sentBy
          (program evtMask mExcludedMask)
          (some t)).filterMap (ownedBy adapter) =
        if c.thread = some t then
          ownedIn adapter
            (called evtMask mExcludedMask s c).2
        else [] := by
    simp only [Mailbox.Act.sentBy, Option.some.injEq]
    cases hThread : c.thread with
    | none =>
        have hNone :=
          ownedIn_of_no_thread evtMask mExcludedMask s hThread
            adapter
        simp only [reduceCtorEq, if_false]
        split
        · exact hNone
        · rfl
    | some u =>
        have hSame : u = v := hOwn u hThread
        subst hSame
        simp only [Option.some.injEq]
        split <;> rfl
  refine ⟨?_, ?_, ?_, ?_⟩
  · rw [hNoted]
  · rw [hNoted]
    exact hAfter.1
  · rw [hNoted]
    exact hAfter.2
  · rw [hNoted]
    intro hCalm
    simp only [Bool.and_eq_true, Bool.not_eq_true'] at hCalm
    have hComing :=
      coming_called evtMask mExcludedMask hPosted.lists
        hPosted.supports hCalm.2
    rw [List.flatMap_append, List.filterMap_append,
      List.flatMap_singleton, hBy, List.append_assoc,
      hComing, ← List.append_assoc, hPosted.sent hCalm.1]

/- The loop of the task goes over no table. -/
theorem posted_handled
    {s : State α δ T}
    (hPosted :
      Posted evtMask mExcludedMask t adapter acts s)
    (w : Option T)
    (m : Msg α δ) :
    Posted evtMask mExcludedMask t adapter
      (acts ++
        [.handled w m
          (called evtMask mExcludedMask s (.proc m)).2])
      (called evtMask mExcludedMask s (.proc m)).1 := by
  have hSame :
      (called evtMask mExcludedMask s (.proc m)).1 = s := by
    cases m with
    | api m => cases m <;> rfl
    | adapter m => rfl
  rw [hSame]
  exact
    hPosted.quiet (fun _ => rfl)
      (by simp [Mailbox.Act.sentBy])

variable (evtMask)
variable (mExcludedMask)
variable (t)
variable (adapter)

theorem posted_kept :
    Mailbox.Kept (T := T)
      (program (δ := δ) (T := T) evtMask mExcludedMask) fits
      (fun acts s =>
        Posted evtMask mExcludedMask t adapter acts
          s.actor) where
  init := ⟨rfl, lists_init, rfl, fun _ => rfl⟩
  called hPosted _ hFits := posted_called hPosted hFits
  passed hPosted _ := hPosted.quiet (fun _ => rfl) rfl
  handled hPosted _ _ := posted_handled hPosted _ _

/- The location API and its adapters behind their task. -/
def onTask
    (A T : Type)
    [DecidableEq A]
    [DecidableEq T]
    (δ : Type)
    (evtMask : α → EventMask)
    (mExcludedMask : EventMask) :
    Transducer
      (MsgTask.Serving.State A T (State α δ T) (Msg α δ))
      (MsgTask.Serving.Input A T (Call α δ T))
      (MsgTask.Serving.Output T (Call α δ T) (Msg α δ)
        (Said α δ)) :=
  MsgTask.Serving.system A T (program evtMask mExcludedMask)

/-
  In every interleaving of threads that add and remove
  adapters and report what the modem tells, adapter by
  adapter, with the loop of the task, in which the queue
  refuses nothing: if nothing is at odds with the loops of a
  thread, what it has made an adapter send are exactly its
  reports when the adapter was registered, and those of its
  requests that the adapter was the first one to support, all
  in the order in which the thread has made them. They are
  handled in this order, except for the last of them, which
  wait, and when nothing waits and the thread is in no loop
  all of them have been handled.
-/
theorem delivered_in_order
    (is : List (MsgTask.Serving.Input A T (Call α δ T)))
    (hLegal :
      History.Along
        (fun _ e => MsgTask.Serving.legal e = true)
        ((onTask A T δ evtMask mExcludedMask).history is))
    (hTaken :
      ∀ a ∈
          MsgTask.Serving.acts
            ((onTask A T δ evtMask mExcludedMask).history is),
        a.refused = false)
    (hOwn :
      ∀ v c, .call v c ∈ is → ∀ u ∈ c.thread, u = v) :
    let acts :=
      MsgTask.Serving.acts
        ((onTask A T δ evtMask mExcludedMask).history is)
    let s := (onTask A T δ evtMask mExcludedMask).run is
    let x := noted evtMask mExcludedMask t adapter acts
    x.calm = true →
      ∃ waiting,
        x.owed = handledFor t adapter acts ++ waiting ∧
          (MsgTask.Serving.Drained s →
            s.actor.rounds t = none → waiting = []) := by
  have hFits :
      ∀ a ∈
          MsgTask.Serving.acts
            ((onTask A T δ evtMask mExcludedMask).history is),
        fits a := by
    intro a hMem
    cases a with
    | called v c out =>
        exact
          hOwn v c (MsgTask.Serving.call_mem_of_called hMem)
    | _ => trivial
  rcases (MsgTask.Serving.refines (A := A) (T := T)
      (program evtMask mExcludedMask)).run is hLegal with
    ⟨js, hPresents, hActs⟩
  change
    MsgTask.Serving.acts
        ((onTask A T δ evtMask mExcludedMask).history is) =
      _ at hActs
  dsimp only
  rw [hActs] at hTaken hFits ⊢
  intro hCalm
  have hPosted :=
    (posted_kept evtMask mExcludedMask t adapter).run js
      hTaken hFits
  have hOrder :=
    (Mailbox.orderly_run
      (program evtMask mExcludedMask) js).sent_eq hTaken
      (some t)
  have hSent := hPosted.sent hCalm
  rw [hOrder, List.filterMap_append, List.append_assoc]
    at hSent
  refine ⟨_, hSent.symm, ?_⟩
  intro hDrained hNoRound
  rcases MsgTask.Serving.idle_of_drained hPresents hDrained with
    ⟨hBox, hOutbox⟩
  have hActor :
      ((onTask A T δ evtMask mExcludedMask).run is).actor =
        _ :=
    hPresents.actor
  rw [hActor] at hNoRound
  rw [hBox, hOutbox, hNoRound]
  rfl

end Runs

/-
  One thread adds two adapters and begins a report to them.
  Between the first and the second one another thread makes a
  request, and everything is handled in the end.
-/
def reportingRun :
    List
      (MsgTask.Serving.Input Nat Bool (Call Nat Nat Bool)) :=
  [.call false (.change (.addAdapter 2)),
    .send (some false) (some 0),
    .call false (.change (.addAdapter 3)),
    .send (some false) (some 1),
    .call false (.setSupports 3 true),
    .call true
      (.start true (.report (.reportStatus 7) fun _ => false)),
    .call true (.next true), .send (some true) (some 2),
    .call false (.start false (.request .requestTime)),
    .call false (.next false),
    .call true (.next true), .send (some true) (some 3),
    .call false (.next false), .send (some false) (some 4),
    .call true (.next true)] ++
  List.replicate 15 .loop

theorem delivered_in_order_reportingRun :
    let acts :=
      MsgTask.Serving.acts
        ((onTask Nat Bool Nat numberMask 0#32).history
          reportingRun)
    let x := noted numberMask 0#32 true 3 acts
    x.owed = [.report 3 (.reportStatus 7)] ∧
      x.owed = handledFor true 3 acts := by
  rcases delivered_in_order numberMask 0#32 true 3
      reportingRun (by decide +kernel) (by decide +kernel)
      (by
        intro v c hMem
        simp only [reportingRun, List.cons_append,
          List.mem_cons, List.nil_append,
          List.mem_replicate, reduceCtorEq, and_false,
          or_false, false_or,
          MsgTask.Serving.Input.call.injEq] at hMem
        rcases hMem with
          ⟨rfl, rfl⟩ | ⟨rfl, rfl⟩ | ⟨rfl, rfl⟩ |
            ⟨rfl, rfl⟩ | ⟨rfl, rfl⟩ | ⟨rfl, rfl⟩ |
            ⟨rfl, rfl⟩ | ⟨rfl, rfl⟩ | ⟨rfl, rfl⟩ |
            ⟨rfl, rfl⟩ <;>
          simp [Call.thread])
      (by decide +kernel) with
    ⟨waiting, hOwed, hNone⟩
  refine ⟨by decide +kernel, ?_⟩
  rw [hNone ?_ ?_, List.append_nil] at hOwed
  · exact hOwed
  · exact
      MsgTask.Serving.drained_of_idleTask (by decide +kernel)
        (by
          intro w
          rcases w with _ | _ | _ <;> decide +kernel)
  · exact
      Option.isNone_iff_eq_none.mp (by decide +kernel)

end Delivery

end LocApiBase

end D2Common
