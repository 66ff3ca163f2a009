import D2Common.Core.LocApiBase
import D2Common.Core.MsgTask.Served

/-
  What the location API is opened for.

  Adding an adapter queues a message that opens the API for
  the events of the adapter, removing one queues a message
  that opens it for those of the others, or closes it when
  none is left. When the modem comes up again, a message is
  queued that closes the API and opens it for the adapters
  there are by then. Between a change of the table and the
  message or the call of `close` that goes with it, and
  between a message and its handling, other threads may do
  anything. An adapter that comes before the API is closed
  for want of adapters may be left without its events, until
  the modem restarts.

  Key definitions include:
    * `program`
    * `opened`
    * `noted`
    * `Opens`

  Key theorems include:
    * `opens_kept`
    * `events_covered`
-/

------------------------------------------------------------
-- Calls And Messages
------------------------------------------------------------

namespace D2Common

namespace LocApiBase

/- `LocSsrMsg` and `LocOpenMsg`. -/
inductive Msg where
  | ssr
  | openMsg (mMask : EventMask)
deriving DecidableEq

/-
  A call that changes the table, the end of a removal that
  has emptied it, `handleEngineUpEvent`, and `proc` of a
  message.
-/
inductive ApiCall (α : Type) where
  | change (c : Call α)
  | close
  | handleEngineUpEvent
  | proc (m : Msg)

/- What a call does: it queues, closes, opens or delivers. -/
inductive Said (α : Type) where
  | sendMsg (m : Msg)
  | close
  | open (mask : EventMask)
  | handleEngineUpEvent (adapter : α)

variable {α : Type}

/- What a change of the table does before it closes. -/
def Output.said : Output → Option (Said α)
| .sendOpenMsg mMask => some (.sendMsg (.openMsg mMask))
| .close => none

/-
  The table, and how many removals have emptied it and are
  still to close the API.
-/
structure ApiState (α : Type) where
  mLocAdapters : Adapters α
  closing : Nat

/- The message that is queued, if any. -/
def Said.msg : Said α → Option Msg
| .sendMsg m => some m
| _ => none

section Calls

variable [DecidableEq α]
variable (evtMask : α → EventMask)
variable (mExcludedMask : EventMask)

/- One call. -/
def called
    (s : ApiState α) :
    ApiCall α → ApiState α × List (Said α)
| .change c =>
    let r :=
      (system evtMask mExcludedMask).step s.mLocAdapters c
    (⟨r.1, s.closing + r.2.count .close⟩,
      r.2.filterMap Output.said)
| .close =>
    if s.closing = 0 then (s, [])
    else ({ s with closing := s.closing - 1 }, [.close])
| .handleEngineUpEvent =>
    (s,
      .sendMsg .ssr ::
        toAllAdapters
          (fun out adapter =>
            out ++ [.handleEngineUpEvent adapter])
          s.mLocAdapters [])
| .proc .ssr =>
    (s,
      [.close,
        .open
          (getEvtMask evtMask mExcludedMask s.mLocAdapters)])
| .proc (.openMsg mMask) => (s, [.open mMask])

/- The location API as the program behind the task. -/
def program :
    Program (ApiState α) (ApiCall α) Msg (Said α) where
  machine :=
    { init := ⟨Vector.replicate maxAdapters none, 0⟩
      step := called evtMask mExcludedMask }
  proc := .proc
  sends := Said.msg

end Calls

/- The events that the API is open for, after one more. -/
def Said.opens
    (mask : EventMask) : Said α → EventMask
| .close => 0#32
| .open more => mask ||| more
| _ => mask

/- What happens to the API and its threads. -/
abbrev Act (T α : Type) :=
  Mailbox.Act T (ApiCall α) Msg (Said α)

variable {T : Type}

/-
  The events that `open` has been called for since the last
  call of `close`.
-/
def opened (acts : List (Act T α)) : EventMask :=
  (acts.flatMap Mailbox.Act.out).foldl Said.opens 0#32

/- Every event of one mask is one of another. -/
def Covers (mask events : EventMask) : Prop :=
  ∀ i, events.getLsbD i = true → mask.getLsbD i = true

section Noted

variable [DecidableEq α]
variable (evtMask : α → EventMask)
variable (mExcludedMask : EventMask)

/- A call does not close the API over an adapter. -/
def ApiCall.orderly
    (s : ApiState α) : ApiCall α → Bool
| .close =>
    s.closing == 0 ||
      decide
        (s.mLocAdapters = Vector.replicate maxAdapters none)
| _ => true

/-
  What is noted of a run: the table, and whether no removal
  has closed the API over an adapter since the last restart
  of the modem that was handled.
-/
structure Noted (α : Type) where
  state : ApiState α
  calm : Bool

def Noted.after
    (x : Noted α) : Act T α → Noted α
| .called _ c _ =>
    { state := (called evtMask mExcludedMask x.state c).1
      calm := x.calm && c.orderly x.state }
| .handled _ m _ => { x with calm := x.calm || m == .ssr }
| .passed _ _ _ => x

def noted (acts : List (Act T α)) : Noted α :=
  acts.foldl (Noted.after evtMask mExcludedMask)
    ⟨⟨Vector.replicate maxAdapters none, 0⟩, true⟩

end Noted

/- An adapter is in the table. -/
def Registered
    (mLocAdapters : Adapters α)
    (adapter : α) : Prop :=
  ∃ i, ∃ hi : i < maxAdapters, mLocAdapters[i] = some adapter

end LocApiBase

end D2Common

------------------------------------------------------------
-- Masks
------------------------------------------------------------

namespace D2Common

namespace LocApiBase

variable {α T : Type}

theorem covers_or
    {mask events : EventMask}
    (hCovers : Covers mask events)
    (more : EventMask) :
    Covers (mask ||| more) events := by
  intro i hi
  rw [BitVec.getLsbD_or, hCovers i hi, Bool.true_or]

theorem covers_or_right
    {more events : EventMask}
    (hCovers : Covers more events)
    (mask : EventMask) :
    Covers (mask ||| more) events := by
  intro i hi
  rw [BitVec.getLsbD_or, hCovers i hi, Bool.or_true]

theorem Covers.trans
    {a b c : EventMask}
    (hFirst : Covers a b)
    (hSecond : Covers b c) :
    Covers a c :=
  fun i hi => hFirst i (hSecond i hi)

section Masks

variable (evtMask : α → EventMask)
variable (mExcludedMask : EventMask)

/- The events of an adapter that are not excluded. -/
def wanted (adapter : α) : EventMask :=
  evtMask adapter &&& ~~~ mExcludedMask

theorem covers_wanted
    (adapter : α) :
    Covers (evtMask adapter)
      (wanted evtMask mExcludedMask adapter) := by
  intro i hi
  rw [wanted, BitVec.getLsbD_and, Bool.and_eq_true] at hi
  exact hi.1

theorem covers_foldl
    (l : List α)
    {mask events : EventMask}
    (hCovers : Covers mask events) :
    Covers
      (l.foldl (fun mask a => mask ||| evtMask a) mask)
      events := by
  induction l generalizing mask with
  | nil => exact hCovers
  | cons a l ih => exact ih (covers_or hCovers _)

theorem covers_orMasks
    {l : List α}
    {adapter : α}
    (hMem : adapter ∈ l) :
    Covers (orMasks evtMask l) (evtMask adapter) := by
  rcases List.append_of_mem hMem with ⟨before, after, rfl⟩
  unfold orMasks
  rw [List.foldl_append, List.foldl_cons]
  apply covers_foldl
  exact covers_or_right (fun _ hi => hi) _

/- All events of some adapters, without those excluded. -/
def wantedBy (l : List α) : EventMask :=
  orMasks evtMask l &&& ~~~ mExcludedMask

theorem covers_wantedBy
    {l : List α}
    {adapter : α}
    (hMem : adapter ∈ l) :
    Covers (wantedBy evtMask mExcludedMask l)
      (wanted evtMask mExcludedMask adapter) := by
  intro i hi
  rw [wanted, BitVec.getLsbD_and, Bool.and_eq_true] at hi
  rw [wantedBy, BitVec.getLsbD_and,
    covers_orMasks evtMask hMem i hi.1, hi.2]
  rfl

/- The API after a message, with these adapters. -/
def Msg.opens
    (l : List α)
    (mask : EventMask) : Msg → EventMask
| .ssr => wantedBy evtMask mExcludedMask l
| .openMsg more => mask ||| more

/- The API after all messages that wait. -/
def settle
    (l : List α)
    (mask : EventMask)
    (msgs : List Msg) : EventMask :=
  msgs.foldl (Msg.opens evtMask mExcludedMask l) mask

/-
  More adapters and a wider mask leave no event out that was
  covered before.
-/
theorem covers_settle
    {l k : List α}
    (hMore : ∀ adapter ∈ l, adapter ∈ k)
    {mask mask' : EventMask}
    (hMask : Covers mask' mask)
    (msgs : List Msg) :
    Covers (settle evtMask mExcludedMask k mask' msgs)
      (settle evtMask mExcludedMask l mask msgs) := by
  have hUnion :
      Covers (wantedBy evtMask mExcludedMask k)
        (wantedBy evtMask mExcludedMask l) := by
    have hOr :
        ∀ (l : List α) (mask : EventMask),
          (∀ adapter ∈ l, adapter ∈ k) →
            Covers (orMasks evtMask k) mask →
              Covers (orMasks evtMask k)
                (l.foldl
                  (fun mask a => mask ||| evtMask a)
                  mask) := by
      intro l
      induction l with
      | nil => exact fun _ _ hMask => hMask
      | cons a l ih =>
          intro mask hAll hMask
          apply ih
          · exact
              fun b hb => hAll b (List.mem_cons_of_mem _ hb)
          · intro i hi
            rw [BitVec.getLsbD_or, Bool.or_eq_true] at hi
            rcases hi with hi | hi
            · exact hMask i hi
            · exact
                covers_orMasks evtMask
                  (hAll a List.mem_cons_self) i hi
    have hAll :=
      hOr l 0#32 hMore (fun i hi => by simp at hi)
    intro i hi
    rw [wantedBy, BitVec.getLsbD_and, Bool.and_eq_true] at hi
    rw [wantedBy, BitVec.getLsbD_and, hAll i hi.1, hi.2]
    rfl
  induction msgs generalizing mask mask' with
  | nil => exact hMask
  | cons m msgs ih =>
      apply ih
      cases m with
      | ssr => exact hUnion
      | openMsg more =>
          intro i hi
          simp only [Msg.opens, BitVec.getLsbD_or,
            Bool.or_eq_true] at hi ⊢
          exact hi.imp (hMask i) id

/- What is covered for an adapter stays so. -/
theorem covers_settle_of_mem
    {l : List α}
    {adapter : α}
    (hMem : adapter ∈ l)
    {mask : EventMask}
    (hCovers :
      Covers mask (wanted evtMask mExcludedMask adapter))
    (msgs : List Msg) :
    Covers (settle evtMask mExcludedMask l mask msgs)
      (wanted evtMask mExcludedMask adapter) := by
  induction msgs generalizing mask with
  | nil => exact hCovers
  | cons m msgs ih =>
      apply ih
      cases m with
      | ssr =>
          exact covers_wantedBy evtMask mExcludedMask hMem
      | openMsg more => exact covers_or hCovers more

theorem settle_concat
    (l : List α)
    (mask : EventMask)
    (msgs : List Msg)
    (m : Msg) :
    settle evtMask mExcludedMask l mask (msgs ++ [m]) =
      m.opens evtMask mExcludedMask l
        (settle evtMask mExcludedMask l mask msgs) := by
  simp [settle]

/- `proc` leaves the table as it is. -/
theorem actor_proc
    [DecidableEq α]
    (s : ApiState α)
    (m : Msg) :
    (called evtMask mExcludedMask s (.proc m)).1 = s := by
  cases m <;> rfl

/- `proc` does to the API what its message stands for. -/
theorem opened_proc
    [DecidableEq α]
    {evtMask : α → EventMask}
    {mExcludedMask : EventMask}
    {s : ApiState α}
    {l : List α}
    (hLists : Lists s.mLocAdapters l)
    (m : Msg)
    (mask : EventMask) :
    (called evtMask mExcludedMask s
        (.proc m)).2.foldl Said.opens mask =
      m.opens evtMask mExcludedMask l mask := by
  cases m with
  | ssr =>
      simp only [called, List.foldl_cons, List.foldl_nil,
        Said.opens, Msg.opens]
      rw [getEvtMask_eq evtMask mExcludedMask hLists.holds,
        BitVec.zero_or]
      rfl
  | openMsg more => rfl

end Masks

theorem opened_concat
    (acts : List (Act T α))
    (a : Act T α) :
    opened (acts ++ [a]) =
      a.out.foldl Said.opens (opened acts) := by
  simp [opened, List.flatMap_append, List.foldl_append]

theorem noted_concat
    [DecidableEq α]
    (evtMask : α → EventMask)
    (mExcludedMask : EventMask)
    (acts : List (Act T α))
    (a : Act T α) :
    noted evtMask mExcludedMask (acts ++ [a]) =
      (noted evtMask mExcludedMask acts).after evtMask
        mExcludedMask a := by
  simp [noted]

/- A change of the table does not close the API yet. -/
theorem opens_said
    (out : List Output)
    (mask : EventMask) :
    (out.filterMap (Output.said (α := α))).foldl Said.opens
        mask =
      mask := by
  induction out with
  | nil => rfl
  | cons o out ih => cases o <;> exact ih

/- An empty table has no adapters. -/
theorem eq_nil_of_empty
    {mLocAdapters : Adapters α}
    {l : List α}
    (hLists : Lists mLocAdapters l)
    (hEmpty :
      mLocAdapters = Vector.replicate maxAdapters none) :
    l = [] := by
  cases l with
  | nil => rfl
  | cons adapter l =>
      have hEntry := hLists.holds.entry 0 (by decide)
      subst hEmpty
      simp at hEntry

end LocApiBase

end D2Common

------------------------------------------------------------
-- No Event Is Left Out
------------------------------------------------------------

namespace D2Common

namespace LocApiBase

open Slots (swapRemove)

section Runs

variable {α T : Type} [DecidableEq α] [DecidableEq T]
variable (evtMask : α → EventMask)
variable (mExcludedMask : EventMask)

/-
  A thread has still to queue a message that opens the API
  for some events.
-/
def InOutbox
    (outbox : Option T → List Msg)
    (events : EventMask) : Prop :=
  ∃ w more, .openMsg more ∈ outbox w ∧ Covers more events

/-
  The events of some adapters are covered when the messages
  that wait have been handled, or a thread has still to queue
  the message that does it.
-/
def Coming
    (l : List α)
    (mask : EventMask)
    (box : List (Option T × Msg))
    (outbox : Option T → List Msg) : Prop :=
  ∀ adapter ∈ l,
    Covers
        (settle evtMask mExcludedMask l mask
          (box.map Prod.snd))
        (wanted evtMask mExcludedMask adapter) ∨
      InOutbox outbox (wanted evtMask mExcludedMask adapter)

/-
  The events of every registered adapter are covered or come
  to be, unless the API was closed over an adapter.
-/
structure Opens
    (acts : List (Act T α))
    (s : Mailbox.State T (ApiState α) Msg) : Prop where
  state : (noted evtMask mExcludedMask acts).state = s.actor
  coming :
    ∃ l, Lists s.actor.mLocAdapters l ∧
      ((noted evtMask mExcludedMask acts).calm = true →
        Coming evtMask mExcludedMask l (opened acts) s.box
          s.outbox)

/- A thread that had nothing to queue gets something. -/
theorem inOutbox_update
    {outbox : Option T → List Msg}
    {w : Option T}
    (hIdle : outbox w = [])
    (msgs : List Msg)
    {events : EventMask}
    (hIn : InOutbox outbox events) :
    InOutbox (Function.update outbox w msgs) events := by
  rcases hIn with ⟨v, more, hMem, hCovers⟩
  have hOther : v ≠ w := by
    rintro rfl
    rw [hIdle] at hMem
    cases hMem
  refine ⟨v, more, ?_, hCovers⟩
  rw [Function.update_of_ne hOther]
  exact hMem

/- What a thread has been given to queue. -/
theorem inOutbox_self
    (outbox : Option T → List Msg)
    (w : Option T)
    {more events : EventMask}
    (hCovers : Covers more events) :
    InOutbox
      (Function.update outbox w [.openMsg more]) events := by
  refine ⟨w, more, ?_, hCovers⟩
  rw [Function.update_self]
  exact List.mem_singleton.mpr rfl

variable {evtMask}
variable {mExcludedMask}
variable {acts : List (Act T α)}
variable {s : Mailbox.State T (ApiState α) Msg}

/-
  More adapters, of which the new ones have their messages
  still to queue.
-/
omit [DecidableEq α] [DecidableEq T] in
theorem Coming.more
    {l k : List α}
    {mask : EventMask}
    {box : List (Option T × Msg)}
    {outbox : Option T → List Msg}
    (hComing :
      Coming evtMask mExcludedMask l mask box outbox)
    (hMore : ∀ adapter ∈ l, adapter ∈ k)
    (hNew :
      ∀ adapter ∈ k,
        adapter ∈ l ∨
          InOutbox outbox
            (wanted evtMask mExcludedMask adapter)) :
    Coming evtMask mExcludedMask k mask box outbox := by
  intro adapter hMem
  rcases hNew adapter hMem with hOld | hIn
  · refine (hComing adapter hOld).imp_left ?_
    exact
      (covers_settle evtMask mExcludedMask hMore
        (fun _ hi => hi) _).trans
  · exact Or.inr hIn

/- A change of the table. -/
theorem coming_register
    {l : List α}
    {mask : EventMask}
    {box : List (Option T × Msg)}
    {outbox : Option T → List Msg}
    (hNodup : l.Nodup)
    (w : Option T)
    (c : Call α)
    (hComing :
      ∀ msgs,
        Coming evtMask mExcludedMask l mask box
          (Function.update outbox w msgs)) :
    let r := register evtMask mExcludedMask l c
    Coming evtMask mExcludedMask r.1 mask box
      (Function.update outbox w
        ((r.2.filterMap (Output.said (α := α))).filterMap
          Said.msg)) := by
  cases c with
  | addAdapter adapter =>
      simp only [register, enlist]
      split
      · exact hComing _
      · refine
          (hComing _).more
            (fun _ ha => List.mem_append_left _ ha) ?_
        intro other hMem
        rcases List.mem_append.mp hMem with hMem | hMem
        · exact Or.inl hMem
        · rw [List.mem_singleton.mp hMem]
          exact
            Or.inr
              (inOutbox_self outbox w
                (covers_wanted evtMask mExcludedMask adapter))
  | removeAdapter adapter =>
      simp only [register, delist]
      split
      · next hPresent =>
          have hk := List.idxOf_lt_length_of_mem hPresent
          have hPerm := Slots.swapRemove_perm_erase hk hNodup
          rw [List.getElem_idxOf hk] at hPerm
          intro other hMem
          have hLeft := hPerm.mem_iff.mp hMem
          have hNone : l.erase adapter ≠ [] :=
            List.ne_nil_of_mem hLeft
          simp only [removed, if_neg hNone]
          exact
            Or.inr
              (inOutbox_self outbox w
                (covers_wantedBy evtMask mExcludedMask hLeft))
      · exact hComing _

/- `proc`, for the messages that wait behind its own. -/
omit [DecidableEq α] [DecidableEq T] in
theorem coming_proc
    {l : List α}
    {mask : EventMask}
    {box : List (Option T × Msg)}
    {outbox : Option T → List Msg}
    (hComing :
      Coming evtMask mExcludedMask l mask box outbox)
    (m : Msg) :
    Coming evtMask mExcludedMask l
      (m.opens evtMask mExcludedMask l mask) box outbox := by
  intro adapter hMem
  refine (hComing adapter hMem).imp_left ?_
  intro hCovers
  cases m with
  | ssr =>
      exact
        covers_settle_of_mem evtMask mExcludedMask hMem
          (covers_wantedBy evtMask mExcludedMask hMem) _
  | openMsg more =>
      exact
        (covers_settle evtMask mExcludedMask
          (fun _ ha => ha)
          (covers_or (fun _ hi => hi) more) _).trans hCovers

/- The events of a restart leave the API as it is. -/
omit [DecidableEq T] in
theorem opened_handleEngineUpEvent
    {l : List α}
    (hLists : Lists s.actor.mLocAdapters l)
    (mask : EventMask) :
    (called evtMask mExcludedMask s.actor
        .handleEngineUpEvent).2.foldl Said.opens mask =
      mask := by
  have hDelivered (out : List (Said α)) :
      (l.foldl
          (fun out adapter =>
            out ++ [Said.handleEngineUpEvent adapter])
          out).foldl Said.opens mask =
        out.foldl Said.opens mask := by
    clear hLists
    induction l generalizing out with
    | nil => rfl
    | cons adapter l ih =>
        rw [List.foldl_cons, ih, List.foldl_append]
        rfl
  simp only [called, List.foldl_cons]
  rw [toAllAdapters_eq_foldl _ hLists.holds]
  exact hDelivered []

theorem opens_called
    (hOpens : Opens evtMask mExcludedMask acts s)
    {t : T}
    (hIdle : s.outbox (some t) = [])
    (c : ApiCall α) :
    Opens evtMask mExcludedMask
      (acts ++
        [.called t c
          (called evtMask mExcludedMask s.actor c).2])
      (s.called (program evtMask mExcludedMask)
        (some t) c) := by
  rcases hOpens with ⟨hState, l, hLists, hComing⟩
  have hNoted :
      noted evtMask mExcludedMask
          (acts ++
            [.called t c
              (called evtMask mExcludedMask s.actor c).2]) =
        ⟨(called evtMask mExcludedMask s.actor c).1,
          (noted evtMask mExcludedMask acts).calm &&
            c.orderly s.actor⟩ := by
    rw [noted_concat, Noted.after, hState]
  have hKept
      (hCalm :
        ((noted evtMask mExcludedMask acts).calm &&
          c.orderly s.actor) = true)
      (msgs : List Msg) :
      Coming evtMask mExcludedMask l (opened acts) s.box
        (Function.update s.outbox (some t) msgs) := by
    rw [Bool.and_eq_true] at hCalm
    exact
      fun adapter hMem =>
        (hComing hCalm.1 adapter hMem).imp_right
          (inOutbox_update hIdle msgs)
  refine ⟨by rw [hNoted]; rfl, ?_⟩
  rw [hNoted, opened_concat]
  cases c with
  | change c =>
      have hStep :=
        lists_step evtMask mExcludedMask hLists c
      refine ⟨_, hStep.1, ?_⟩
      intro hCalm
      simp only [Mailbox.Act.out, Mailbox.State.called,
        program, called, opens_said, hStep.2]
      exact
        coming_register hLists.nodup (some t) c
          (hKept hCalm)
  | close =>
      simp only [Mailbox.Act.out, Mailbox.State.called,
        program, called]
      split
      · exact ⟨l, hLists, fun hCalm => hKept hCalm _⟩
      · next hClosing =>
          refine ⟨l, hLists, ?_⟩
          intro hCalm adapter hMem
          simp only [ApiCall.orderly, Bool.and_eq_true,
            Bool.or_eq_true, beq_iff_eq, hClosing, false_or,
            decide_eq_true_eq] at hCalm
          rw [eq_nil_of_empty hLists hCalm.2] at hMem
          cases hMem
  | handleEngineUpEvent =>
      refine ⟨l, hLists, ?_⟩
      intro hCalm
      simp only [Mailbox.Act.out]
      rw [opened_handleEngineUpEvent hLists]
      exact hKept hCalm _
  | proc m =>
      refine ⟨l, ?_, ?_⟩
      · simp only [Mailbox.State.called, program]
        rw [actor_proc]
        exact hLists
      · intro hCalm
        simp only [Mailbox.Act.out]
        rw [opened_proc hLists]
        exact coming_proc (hKept hCalm _) m

/- A thread passes on a message, which is taken. -/
theorem opens_passed
    (hOpens : Opens evtMask mExcludedMask acts s)
    {w : Option T}
    {m : Msg}
    {rest : List Msg}
    (hOutbox : s.outbox w = m :: rest) :
    Opens evtMask mExcludedMask (acts ++ [.passed w m true])
      { s with
        box := s.box ++ [(w, m)]
        outbox := Function.update s.outbox w rest } := by
  rcases hOpens with ⟨hState, l, hLists, hComing⟩
  have hNoted :
      noted evtMask mExcludedMask
          (acts ++ [.passed w m true]) =
        noted evtMask mExcludedMask acts :=
    noted_concat _ _ _ _
  refine ⟨by rw [hNoted]; exact hState, l, hLists, ?_⟩
  intro hCalm adapter hMem
  rw [hNoted] at hCalm
  have hOpened :
      opened (acts ++ [.passed w m true]) = opened acts :=
    opened_concat _ _
  have hSettle :
      settle evtMask mExcludedMask l (opened acts)
          ((s.box ++ [(w, m)]).map Prod.snd) =
        m.opens evtMask mExcludedMask l
          (settle evtMask mExcludedMask l (opened acts)
            (s.box.map Prod.snd)) := by
    rw [List.map_append]
    exact settle_concat evtMask mExcludedMask l _ _ m
  rw [hOpened, hSettle]
  rcases hComing hCalm adapter hMem with hCovers | hIn
  · left
    cases m with
    | ssr => exact covers_wantedBy evtMask mExcludedMask hMem
    | openMsg more => exact covers_or hCovers more
  · rcases hIn with ⟨v, more, hMore, hCovers⟩
    by_cases hSame : v = w
    · subst hSame
      rw [hOutbox] at hMore
      rcases List.mem_cons.mp hMore with rfl | hMore
      · exact Or.inl (covers_or_right hCovers _)
      · refine Or.inr ⟨v, more, ?_, hCovers⟩
        simp only [Function.update_self]
        exact hMore
    · refine Or.inr ⟨v, more, ?_, hCovers⟩
      simp only [Function.update_of_ne hSame]
      exact hMore

/-
  The loop handles the next message. A restart opens the API
  for every adapter, whatever was before.
-/
theorem opens_handled
    (hOpens : Opens evtMask mExcludedMask acts s)
    {w : Option T}
    {m : Msg}
    {box : List (Option T × Msg)}
    (hIdle : s.outbox none = [])
    (hBox : s.box = (w, m) :: box) :
    Opens evtMask mExcludedMask
      (acts ++
        [.handled w m
          (called evtMask mExcludedMask s.actor (.proc m)).2])
      (Mailbox.State.called (program evtMask mExcludedMask)
        { s with box := box } none (.proc m)) := by
  rcases hOpens with ⟨hState, l, hLists, hComing⟩
  have hActor :
      (Mailbox.State.called (program evtMask mExcludedMask)
        { s with box := box } none (.proc m)).actor =
        s.actor :=
    actor_proc evtMask mExcludedMask s.actor m
  have hNoted :
      noted evtMask mExcludedMask
          (acts ++
            [.handled w m
              (called evtMask mExcludedMask s.actor
                (.proc m)).2]) =
        { noted evtMask mExcludedMask acts with
          calm :=
            (noted evtMask mExcludedMask acts).calm ||
              m == .ssr } := by
    rw [noted_concat, Noted.after]
  refine
    ⟨by rw [hNoted, hActor]; exact hState, l,
      by rw [hActor]; exact hLists, ?_⟩
  rw [hNoted, opened_concat]
  intro hCalm adapter hMem
  simp only [Mailbox.Act.out]
  rw [opened_proc hLists]
  rw [Bool.or_eq_true, beq_iff_eq] at hCalm
  rcases hCalm with hCalm | rfl
  · rcases hComing hCalm adapter hMem with hCovers | hIn
    · left
      rw [hBox, List.map_cons] at hCovers
      exact hCovers
    · exact Or.inr (inOutbox_update hIdle _ hIn)
  · left
    exact
      covers_settle_of_mem evtMask mExcludedMask hMem
        (covers_wantedBy evtMask mExcludedMask hMem) _

/- The events stay covered in every run of the mailbox. -/
theorem opens_kept
    (evtMask : α → EventMask)
    (mExcludedMask : EventMask) :
    Mailbox.Kept (T := T) (program evtMask mExcludedMask)
      (fun _ => True) (Opens evtMask mExcludedMask) where
  init := by
    refine ⟨rfl, [], lists_init, ?_⟩
    intro _ adapter hMem
    cases hMem
  called hOpens hIdle _ := opens_called hOpens hIdle _
  passed hOpens hOutbox := opens_passed hOpens hOutbox
  handled hOpens hIdle hBox :=
    opens_handled hOpens hIdle hBox

variable {A : Type} [DecidableEq A]

/- The location API behind its task. -/
def onTask
    (A T : Type)
    [DecidableEq A]
    [DecidableEq T]
    (evtMask : α → EventMask)
    (mExcludedMask : EventMask) :
    Transducer
      (MsgTask.Serving.State A T (ApiState α) Msg)
      (MsgTask.Serving.Input A T (ApiCall α))
      (MsgTask.Serving.Output T (ApiCall α) Msg (Said α)) :=
  MsgTask.Serving.system A T (program evtMask mExcludedMask)

/-
  In every interleaving of threads that add and remove
  adapters, of restarts of the modem and of the loop in
  which the queue refuses nothing and, since the last restart
  that was handled, no removal has closed the API over an
  adapter: whenever nothing waits and no thread has a message
  to queue, the calls of `open` since the last call of
  `close` cover all events of every adapter in the table, but
  for the excluded ones.
-/
theorem events_covered
    (evtMask : α → EventMask)
    (mExcludedMask : EventMask)
    (is : List (MsgTask.Serving.Input A T (ApiCall α)))
    (hLegal :
      History.Along
        (fun _ e => MsgTask.Serving.legal e = true)
        ((onTask A T evtMask mExcludedMask).history is))
    (hTaken :
      ∀ a ∈
          MsgTask.Serving.acts
            ((onTask A T evtMask mExcludedMask).history is),
        a.refused = false)
    (hCalm :
      (noted evtMask mExcludedMask
          (MsgTask.Serving.acts
            ((onTask A T evtMask
              mExcludedMask).history is))).calm =
        true)
    (hDrained :
      MsgTask.Serving.Drained
        ((onTask A T evtMask mExcludedMask).run is))
    (adapter : α)
    (hRegistered :
      Registered
        ((onTask A T evtMask
          mExcludedMask).run is).actor.mLocAdapters
        adapter) :
    Covers
      (opened
        (MsgTask.Serving.acts
          ((onTask A T evtMask mExcludedMask).history is)))
      (evtMask adapter &&& ~~~ mExcludedMask) := by
  rcases (MsgTask.Serving.refines (A := A) (T := T)
      (program evtMask mExcludedMask)).run is hLegal with
    ⟨js, hPresents, hActs⟩
  change
    MsgTask.Serving.acts
        ((onTask A T evtMask mExcludedMask).history is) =
      _ at hActs
  rw [hActs] at hTaken hCalm ⊢
  rcases (opens_kept evtMask mExcludedMask).run js hTaken
      (fun _ _ => trivial) with
    ⟨-, l, hLists, hComing⟩
  rcases MsgTask.Serving.idle_of_drained hPresents hDrained with
    ⟨hBox, hOutbox⟩
  rcases hRegistered with ⟨i, hi, hSlot⟩
  have hMem : adapter ∈ l := by
    have hSame :
        ((onTask A T evtMask mExcludedMask).run is).actor =
          _ :=
      hPresents.actor
    rw [← hSame] at hLists
    rw [hLists.holds.entry i hi] at hSlot
    exact List.mem_of_getElem? hSlot
  rcases hComing hCalm adapter hMem with
    hCovers | ⟨w, more, hIn, -⟩
  · rw [hBox] at hCovers
    exact hCovers
  · rw [hOutbox w] at hIn
    cases hIn

end Runs

/- An adapter whose events are the number that it is. -/
def numberMask (n : Nat) : EventMask := BitVec.ofNat 32 n

/-
  An adapter is added and removed, which closes the API, and
  another one is added after that. Then the modem restarts.
-/
def addingRun :
    List (MsgTask.Serving.Input Nat Unit (ApiCall Nat)) :=
  [.call () (.change (.addAdapter 2)),
    .send (some ()) (some 0), .loop, .loop, .loop,
    .call () (.change (.removeAdapter 2)), .call () .close,
    .call () (.change (.addAdapter 3)),
    .send (some ()) (some 1), .loop, .loop, .loop,
    .call () .handleEngineUpEvent,
    .send (some ()) (some 2), .loop, .loop, .loop]

theorem events_covered_addingRun :
    Covers
      (opened
        (MsgTask.Serving.acts
          ((onTask Nat Unit numberMask 0#32).history
            addingRun)))
      (numberMask 3 &&& ~~~ 0#32) :=
  events_covered numberMask 0#32 addingRun
    (by decide +kernel) (by decide +kernel)
    (by decide +kernel)
    (MsgTask.Serving.drained_of_idleTask (by decide +kernel)
      (by
        intro w
        rcases w with _ | ⟨⟨⟩⟩ <;> decide +kernel))
    3 ⟨0, by decide, by decide +kernel⟩

end LocApiBase

end D2Common
