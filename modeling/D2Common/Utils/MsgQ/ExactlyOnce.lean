import D2Common.Utils.MsgQ
import Mathlib.Data.List.Forall2

/-
  Every message once, and in order.

  The messages sent are those that have left the queue,
  followed by those that are in it, both in the order of
  sending. A message leaves into one receiver or by a flush,
  which deallocates it when its sender has said how. The
  books have a page for each step, so that it can be read
  off them which steps discard messages.

  Key definitions include:
    * `Leaves`
    * `Ledger`
    * `Unblocked`
    * `SndLaw`
    * `RcvLaw`
    * `Inv`

  Key theorems include:
    * `ledger_concat`
    * `inv_step`
    * `queue_exactly_once`
-/

------------------------------------------------------------
-- The Ledger
------------------------------------------------------------

namespace D2Common

namespace MsgQ

open LinkedList (ListState Obj Represents)

/- How a message leaves the queue. -/
inductive Fate (T : Type) where
  | delivered (t : T)
  | deallocated
  | dropped

variable {A α δ T : Type}

/- One step of the queue. -/
abbrev Event (A α δ T : Type) :=
  Transducer.Event (Option (State A α δ T)) (Input A α δ T)
    (Output α δ T)

/- The message of a send that has succeeded. -/
def sentBy (e : Event A α δ T) : List (Obj α δ) :=
  match e.input, e.output with
  | .snd _ (some msg_obj) dealloc, [.snd .success] =>
      [(msg_obj, dealloc)]
  | _, _ => []

/- The receiver that a message has been delivered to. -/
def receipt : Output α δ T → Option (T × α)
| .rcv t .success (some msg_obj) => some (t, msg_obj)
| _ => none

/- A call that deallocates a message. -/
def deallocCall : Output α δ T → Option (δ × α)
| .dealloc f msg_obj => some (f, msg_obj)
| _ => none

/- The messages sent with success, in order. -/
def sent (h : List (Event A α δ T)) : List (Obj α δ) :=
  h.flatMap sentBy

/- The messages delivered, in order. -/
def received (h : List (Event A α δ T)) : List (T × α) :=
  h.flatMap fun e => e.output.filterMap receipt

/- The calls that deallocate messages. -/
def deallocated (h : List (Event A α δ T)) :
    List (δ × α) :=
  h.flatMap fun e => e.output.filterMap deallocCall

/- The delivery that a message's fate is. -/
def delivery : Obj α δ × Fate T → Option (T × α)
| (x, .delivered t) => some (t, x.1)
| _ => none

/- The call that a message's fate is. -/
def fateCall : Obj α δ × Fate T → List (δ × α)
| (x, .deallocated) => x.deallocCall
| _ => []

/- A message that a flush discards. -/
def discarded (x : Obj α δ) : Obj α δ × Fate T :=
  (x, if x.2.isSome then .deallocated else .dropped)

/-
  What a message can come to in a step: a flush discards it
  and every other step delivers it.
-/
def Ends :
    Input A α δ T → Obj α δ × Fate T → Prop
| .flush, x => x = discarded x.1
| _, x => ∃ t, x.2 = .delivered t

/-
  The page of one step: the messages that leave the queue in
  it are those that it delivers and those that it discards,
  and it deallocates no others.
-/
structure Leaves
    (e : Event A α δ T)
    (left : List (Obj α δ × Fate T)) : Prop where
  received :
    e.output.filterMap receipt = left.filterMap delivery
  deallocated :
    (e.output.filterMap deallocCall).Perm
      (left.flatMap fateCall)
  ends : ∀ x ∈ left, Ends e.input x

/-
  The books of a run: `gone` are the messages that have left
  and `queued` those in the queue, both oldest first. Each
  step of the run has its page.
-/
structure Ledger
    (h : List (Event A α δ T))
    (gone : List (Obj α δ × Fate T))
    (queued : List (Obj α δ)) : Prop where
  sent : sent h = gone.map Prod.fst ++ queued
  received : received h = gone.filterMap delivery
  deallocated :
    (deallocated h).Perm (gone.flatMap fateCall)
  dropped :
    ∀ x, (x, Fate.dropped) ∈ gone → x.2 = none
  pages :
    ∃ pages : List (List (Obj α δ × Fate T)),
      pages.flatten = gone ∧ List.Forall₂ Leaves h pages

theorem ledger_nil :
    Ledger ([] : List (Event A α δ T)) [] [] :=
  ⟨rfl, rfl, List.Perm.refl _, by simp,
    [], rfl, List.Forall₂.nil⟩

/- Only a message without a function is dropped. -/
theorem eq_none_of_dropped
    {i : Input A α δ T}
    {x : Obj α δ}
    (hEnds : Ends i (x, .dropped)) :
    x.2 = none := by
  cases i with
  | flush =>
      rcases x with ⟨data, _ | f⟩
      · rfl
      · simp [Ends, discarded] at hEnds
  | _ =>
      rcases hEnds with ⟨t, hFate⟩
      cases hFate

/-
  A step that sends the messages `arrived`, after which the
  messages `left` are gone.
-/
theorem ledger_concat
    {h : List (Event A α δ T)}
    {gone left : List (Obj α δ × Fate T)}
    {queued queued' : List (Obj α δ)}
    (hLedger : Ledger h gone queued)
    {e : Event A α δ T}
    (hSent :
      queued ++ sentBy e = left.map Prod.fst ++ queued')
    (hLeaves : Leaves e left) :
    Ledger (h ++ [e]) (gone ++ left) queued' := by
  constructor
  · have hBefore := hLedger.sent
    unfold MsgQ.sent at hBefore ⊢
    rw [List.flatMap_append, List.flatMap_singleton, hBefore,
      List.map_append, List.append_assoc, hSent,
      List.append_assoc]
  · have hBefore := hLedger.received
    unfold MsgQ.received at hBefore ⊢
    rw [List.flatMap_append, List.flatMap_singleton, hBefore,
      List.filterMap_append, hLeaves.received]
  · have hBefore := hLedger.deallocated
    unfold MsgQ.deallocated at hBefore ⊢
    rw [List.flatMap_append, List.flatMap_singleton,
      List.flatMap_append]
    exact hBefore.append hLeaves.deallocated
  · intro x hx
    rcases List.mem_append.mp hx with hx | hx
    · exact hLedger.dropped x hx
    · exact eq_none_of_dropped (hLeaves.ends _ hx)
  · rcases hLedger.pages with ⟨pages, hGone, hPages⟩
    refine ⟨pages ++ [left], ?_, ?_⟩
    · rw [List.flatten_append, hGone, List.flatten_singleton]
    · exact
        List.rel_append hPages
          (List.Forall₂.cons hLeaves List.Forall₂.nil)

/- Messages are delivered in the order of sending. -/
theorem received_sublist
    {h : List (Event A α δ T)}
    {gone : List (Obj α δ × Fate T)}
    {queued : List (Obj α δ)}
    (hLedger : Ledger h gone queued) :
    List.Sublist ((received h).map Prod.snd)
      ((sent h).map Prod.fst) := by
  have hGone :
      List.Sublist ((gone.filterMap delivery).map Prod.snd)
        ((gone.map Prod.fst).map Prod.fst) := by
    clear hLedger
    induction gone with
    | nil => exact List.Sublist.refl _
    | cons x gone ih =>
        rcases x with ⟨x, t | _ | _⟩
        · exact ih.cons_cons _
        · exact ih.cons _
        · exact ih.cons _
  rw [hLedger.sent, hLedger.received, List.map_append]
  exact hGone.trans (List.sublist_append_left _ _)

end MsgQ

end D2Common

------------------------------------------------------------
-- The Invariant
------------------------------------------------------------

namespace D2Common

namespace MsgQ

open LinkedList (ListState Obj Represents)

variable {A α δ T : Type}

/- The queue has been unblocked. -/
def Unblocked (h : List (Event A α δ T)) : Prop :=
  ∃ e ∈ h, e.input = .unblock

theorem unblocked_concat
    (h : List (Event A α δ T))
    (e : Event A α δ T) :
    Unblocked (h ++ [e]) ↔
      Unblocked h ∨ e.input = .unblock := by
  simp [Unblocked, or_and_right, exists_or]

/-
  There is no fault, the list holds the messages that the
  books say are queued, and the flag tells of `unblock`.
-/
def Inv
    (h : List (Event A α δ T))
    (s : Option (State A α δ T)) : Prop :=
  ∃ q cells gone,
    s = some q ∧
    Represents q.msg_list cells ∧
    (q.unblocked = true ↔ Unblocked h) ∧
    Ledger h gone (cells.map Prod.snd).reverse

theorem inv_init :
    Inv ([] : List (Event A α δ T)) (some State.init) :=
  ⟨State.init, [], [], rfl, LinkedList.represents_init,
    by simp [State.init, Unblocked], ledger_nil⟩

variable [DecidableEq A] [DecidableEq T]

/-
  Allocation succeeds where it is asked for, at an address
  where nothing is allocated.
-/
def malloced (e : Event A α δ T) : Bool :=
  match e.input with
  | .snd elem (some _) _ =>
      e.before.all fun q =>
        q.unblocked ||
          elem.any fun a => (q.msg_list.heap a).isNone
  | _ => true

theorem event_of_exec
    {q q' : State A α δ T}
    {i : Input A α δ T}
    {out : List (Output α δ T)}
    (hExec : exec q i = some (q', out)) :
    (system A α δ T).event (some q) i =
      ⟨some q, i, out, some q'⟩ := by
  simp [Transducer.event, system, hExec]

/-
  What a step does: the messages `left` leave the front of
  the queue, and one that it sends is put at the end.
-/
structure Moves
    (q : State A α δ T)
    (cells : List (A × Obj α δ))
    (i : Input A α δ T)
    (q' : State A α δ T)
    (cells' : List (A × Obj α δ))
    (out : List (Output α δ T))
    (left : List (Obj α δ × Fate T)) : Prop where
  exec : exec q i = some (q', out)
  represents : Represents q'.msg_list cells'
  unblocked :
    q'.unblocked = true ↔ q.unblocked = true ∨ i = .unblock
  queued :
    (cells.map Prod.snd).reverse ++
        sentBy ⟨some q, i, out, some q'⟩ =
      left.map Prod.fst ++ (cells'.map Prod.snd).reverse
  leaves : Leaves ⟨some q, i, out, some q'⟩ left

/- A step that leaves the queue as it is. -/
theorem moves_nothing
    {q : State A α δ T}
    {cells : List (A × Obj α δ)}
    (hs : Represents q.msg_list cells)
    {i : Input A α δ T}
    {q' : State A α δ T}
    {out : List (Output α δ T)}
    (hExec : exec q i = some (q', out))
    (hList : q'.msg_list = q.msg_list)
    (hUnblocked :
      q'.unblocked = true ↔
        q.unblocked = true ∨ i = .unblock)
    (hSent : sentBy ⟨some q, i, out, some q'⟩ = [])
    (hReceived : out.filterMap receipt = [])
    (hCalls : out.filterMap deallocCall = []) :
    Moves q cells i q' cells out [] where
  exec := hExec
  represents := hList ▸ hs
  unblocked := hUnblocked
  queued := by simp [hSent]
  leaves := ⟨hReceived, by simp [hCalls], by simp⟩

theorem moves_snd
    {q : State A α δ T}
    {cells : List (A × Obj α δ)}
    (hs : Represents q.msg_list cells)
    {elem : Option A}
    {msg_obj : Option α}
    {dealloc : Option δ}
    (hMalloc :
      malloced
        ((system A α δ T).event (some q)
          (.snd elem msg_obj dealloc)) = true) :
    ∃ q' cells' out left,
      Moves q cells (.snd elem msg_obj dealloc) q' cells' out
        left := by
  cases msg_obj with
  | none =>
      exact
        ⟨q, cells, _, [],
          moves_nothing hs rfl rfl (by simp) rfl rfl rfl⟩
  | some msg_obj =>
      cases hUnblocked : q.unblocked with
      | true =>
          have hExec :
              exec q (.snd elem (some msg_obj) dealloc) =
                some (q, [.snd .unavailableResource]) := by
            simp [exec, snd, hUnblocked]
          exact
            ⟨q, cells, _, [],
              moves_nothing hs hExec rfl (by simp) rfl rfl
                rfl⟩
      | false =>
          have hElem :
              elem.any
                (fun a => (q.msg_list.heap a).isNone) =
                  true := by
            simpa [malloced, Transducer.event, hUnblocked]
              using hMalloc
          cases elem with
          | none => contradiction
          | some a =>
              have hFree : q.msg_list.heap a = none :=
                Option.isNone_iff_eq_none.mp hElem
              rcases LinkedList.represents_add hs hFree
                msg_obj dealloc with ⟨l, hAdd, hAfter⟩
              refine ⟨{ q with msg_list := l }, _,
                [.snd .success], [], ?_, hAfter, ?_, ?_,
                rfl, List.Perm.refl _, by simp⟩
              · simp [exec, snd, hUnblocked, hAdd,
                  LinkedList.Reply.of, convert]
              · simp
              · simp [sentBy]

/- A receiver that has got to the test of its loop. -/
theorem moves_rcvLoop
    {q : State A α δ T}
    {cells : List (A × Obj α δ)}
    (hs : Represents q.msg_list cells)
    {i : Input A α δ T}
    {t : T}
    (hInput : i = .rcv t ∨ i = .wake t)
    (hExec : exec q i = rcvLoop q t) :
    ∃ q' cells' out left,
      Moves q cells i q' cells' out left := by
  have hOther : i ≠ .unblock := by
    rcases hInput with rfl | rfl <;> simp
  have hSent :
      ∀ q' out, sentBy ⟨some q, i, out, some q'⟩ = [] := by
    intro q' out
    rcases hInput with rfl | rfl <;> rfl
  unfold rcvLoop at hExec
  by_cases hWait :
      (q.msg_list.empty && !q.unblocked) = true
  · rw [if_pos hWait] at hExec
    exact
      ⟨_, cells, [], [],
        moves_nothing hs hExec rfl (by simp [hOther])
          (hSent _ _) rfl rfl⟩
  · rw [if_neg hWait] at hExec
    rcases List.eq_nil_or_concat' cells with
      rfl | ⟨cells, c, rfl⟩
    · rw [LinkedList.remove_of_empty hs] at hExec
      exact
        ⟨_, [], _, [],
          moves_nothing hs hExec rfl (by simp [hOther])
            (hSent _ _) rfl rfl⟩
    · rcases LinkedList.represents_remove hs with
        ⟨l, hRemove, hAfter⟩
      rw [hRemove] at hExec
      refine ⟨_, cells, _, [(c.2, .delivered t)], hExec,
        hAfter, ?_, ?_, rfl, List.Perm.refl _, ?_⟩
      · simp [hOther]
      · simp [hSent]
      · intro x hx
        rw [List.mem_singleton.mp hx]
        rcases hInput with rfl | rfl <;> exact ⟨t, rfl⟩

/- The outputs of a flush. -/
def flushOutput (calls : List (δ × α)) : List (Output α δ T) :=
  (calls.map fun c => .dealloc c.1 c.2) ++ [.flush .success]

omit [DecidableEq A] [DecidableEq T] in
theorem filterMap_flushOutput
    (calls : List (δ × α)) :
    (flushOutput (T := T) calls).filterMap receipt = [] ∧
      (flushOutput (T := T) calls).filterMap deallocCall =
        calls := by
  induction calls with
  | nil => exact ⟨rfl, rfl⟩
  | cons c calls ih =>
      exact ⟨ih.1, congrArg (List.cons c) ih.2⟩

omit [DecidableEq A] [DecidableEq T] in
theorem discarded_spec (x : Obj α δ) :
    delivery (discarded (T := T) x) = none ∧
      fateCall (discarded (T := T) x) = x.deallocCall := by
  rcases x with ⟨data, _ | f⟩ <;> exact ⟨rfl, rfl⟩

theorem moves_flush
    {q : State A α δ T}
    {cells : List (A × Obj α δ)}
    (hs : Represents q.msg_list cells) :
    ∃ q' cells' out left,
      Moves q cells .flush q' cells' out left := by
  rcases LinkedList.represents_flush hs with
    ⟨l, hFlush, hAfter⟩
  let calls := (cells.map Prod.snd).flatMap Obj.deallocCall
  rw [← List.flatMap_map] at hFlush
  rcases filterMap_flushOutput (T := T) calls with
    ⟨hReceipts, hCalls⟩
  refine ⟨{ q with msg_list := l }, [], flushOutput calls,
    (cells.map Prod.snd).reverse.map discarded, ?_, hAfter,
    by simp, ?_, ?_, ?_, ?_⟩
  · unfold exec flush
    rw [hFlush]
    rfl
  · simp [sentBy, discarded, Function.comp_def]
  · rw [hReceipts]
    symm
    apply List.filterMap_eq_nil_iff.mpr
    intro x hx
    rcases List.mem_map.mp hx with ⟨y, -, rfl⟩
    exact (discarded_spec y).1
  · rw [hCalls, List.flatMap_map]
    have hSame :
        (cells.map Prod.snd).reverse.flatMap
            (fun x => fateCall (discarded (T := T) x)) =
          (cells.map Prod.snd).reverse.flatMap
            Obj.deallocCall := by
      apply List.flatMap_congr
      intro x _
      exact (discarded_spec x).2
    rw [hSame]
    exact (List.reverse_perm _).symm.flatMap_right _
  · intro x hx
    rcases List.mem_map.mp hx with ⟨y, -, rfl⟩
    rfl

/- Every step does so. -/
theorem moves_exec
    {q : State A α δ T}
    {cells : List (A × Obj α δ)}
    (hs : Represents q.msg_list cells)
    (i : Input A α δ T)
    (hMalloc :
      malloced ((system A α δ T).event (some q) i) = true) :
    ∃ q' cells' out left,
      Moves q cells i q' cells' out left := by
  have hIdle :
      ∀ t, i = .rcv t ∨ i = .wake t →
        exec q i = some (q, []) →
          ∃ q' cells' out left,
            Moves q cells i q' cells' out left := by
    rintro t (rfl | rfl) hExec
    · exact
        ⟨q, cells, [], [],
          moves_nothing hs hExec rfl (by simp) rfl rfl rfl⟩
    · exact
        ⟨q, cells, [], [],
          moves_nothing hs hExec rfl (by simp) rfl rfl rfl⟩
  cases i with
  | snd elem msg_obj dealloc => exact moves_snd hs hMalloc
  | rcv t =>
      by_cases hWaiting : q.waiting t = true
      · exact hIdle t (Or.inl rfl) (if_pos hWaiting)
      · have hExec : exec q (.rcv t) = rcv q t :=
          if_neg hWaiting
        by_cases hUnblocked : q.unblocked = true
        · rw [rcv, if_pos hUnblocked] at hExec
          exact
            ⟨q, cells, _, [],
              moves_nothing hs hExec rfl (by simp) rfl rfl
                rfl⟩
        · rw [rcv, if_neg hUnblocked] at hExec
          exact moves_rcvLoop hs (Or.inl rfl) hExec
  | wake t =>
      by_cases hWaiting : q.waiting t = true
      · exact moves_rcvLoop hs (Or.inr rfl) (if_pos hWaiting)
      · exact hIdle t (Or.inr rfl) (if_neg hWaiting)
  | flush => exact moves_flush hs
  | unblock =>
      by_cases hUnblocked : q.unblocked = true
      · exact
          ⟨q, cells, _, [],
            moves_nothing hs (if_pos hUnblocked) rfl
              (by simp [hUnblocked]) rfl rfl rfl⟩
      · exact
          ⟨_, cells, _, [],
            moves_nothing hs (if_neg hUnblocked) rfl
              (by simp) rfl rfl rfl⟩

theorem inv_step
    {h : List (Event A α δ T)}
    {s : Option (State A α δ T)}
    (hInv : Inv h s)
    (i : Input A α δ T)
    (hMalloc :
      malloced ((system A α δ T).event s i) = true) :
    Inv (h ++ [(system A α δ T).event s i])
      ((system A α δ T).step s i).1 := by
  rcases hInv with
    ⟨q, cells, gone, rfl, hs, hUnblocked, hLedger⟩
  rcases moves_exec hs i hMalloc with
    ⟨q', cells', out, left, hMoves⟩
  have hEvent := event_of_exec hMoves.exec
  have hAfter :
      ((system A α δ T).step (some q) i).1 = some q' :=
    congrArg Transducer.Event.after hEvent
  rw [hAfter, hEvent]
  refine ⟨q', cells', gone ++ left, rfl, hMoves.represents,
    ?_, ?_⟩
  · rw [hMoves.unblocked, hUnblocked, unblocked_concat]
  · exact
      ledger_concat hLedger hMoves.queued hMoves.leaves

end MsgQ

end D2Common

------------------------------------------------------------
-- All Runs
------------------------------------------------------------

namespace D2Common

namespace MsgQ

open LinkedList (ListState Obj Represents WellFormed)

variable {A α δ T : Type}

/-
  A send of a message that is not null succeeds if and only
  if the queue has not been unblocked.
-/
def SndLaw
    (h : List (Event A α δ T))
    (e : Event A α δ T) : Prop :=
  ∀ elem msg_obj dealloc,
    e.input = .snd elem (some msg_obj) dealloc →
      (e.output = [.snd .success] ↔ ¬ Unblocked h)

/-
  A receive that a thread starts after the queue has been
  unblocked fails and leaves the queue as it is.
-/
def RcvLaw
    (h : List (Event A α δ T))
    (e : Event A α δ T) : Prop :=
  ∀ t,
    e.input = .rcv t →
      (∀ q, e.before = some q → q.waiting t = false) →
        Unblocked h →
          e.output = [.rcv t .unavailableResource none] ∧
            e.after = e.before

variable [DecidableEq A] [DecidableEq T]

theorem sndLaw_of_inv
    {h : List (Event A α δ T)}
    {s : Option (State A α δ T)}
    (hInv : Inv h s)
    (i : Input A α δ T)
    (hMalloc :
      malloced ((system A α δ T).event s i) = true) :
    SndLaw h ((system A α δ T).event s i) := by
  rcases hInv with ⟨q, cells, gone, rfl, hs, hUnblocked, -⟩
  intro elem msg_obj dealloc hInput
  have hi : i = .snd elem (some msg_obj) dealloc := hInput
  subst hi
  rw [← hUnblocked]
  cases hFlag : q.unblocked with
  | true =>
      have hExec :
          exec q (.snd elem (some msg_obj) dealloc) =
            some (q, [.snd .unavailableResource]) := by
        simp [exec, snd, hFlag]
      rw [event_of_exec hExec]
      simp
  | false =>
      have hElem :
          elem.any (fun a => (q.msg_list.heap a).isNone) =
            true := by
        simpa [malloced, Transducer.event, hFlag] using
          hMalloc
      rcases Option.any_eq_true _ _ |>.mp hElem with
        ⟨a, rfl, hFree⟩
      rcases LinkedList.represents_add hs
        (Option.isNone_iff_eq_none.mp hFree) msg_obj
        dealloc with ⟨l, hAdd, -⟩
      have hExec :
          exec q (.snd (some a) (some msg_obj) dealloc) =
            some ({ q with msg_list := l },
              [.snd .success]) := by
        simp [exec, snd, hFlag, hAdd, LinkedList.Reply.of,
          convert]
      rw [event_of_exec hExec]
      simp

theorem rcvLaw_of_inv
    {h : List (Event A α δ T)}
    {s : Option (State A α δ T)}
    (hInv : Inv h s)
    (i : Input A α δ T) :
    RcvLaw h ((system A α δ T).event s i) := by
  rcases hInv with ⟨q, cells, gone, rfl, -, hUnblocked, -⟩
  intro t hInput hStarts hAfter
  have hi : i = .rcv t := hInput
  subst hi
  have hWaiting : q.waiting t = false := hStarts q rfl
  have hFlag : q.unblocked = true := hUnblocked.mpr hAfter
  have hExec :
      exec q (.rcv t) =
        some (q, [.rcv t .unavailableResource none]) := by
    simp [exec, rcv, hWaiting, hFlag]
  rw [event_of_exec hExec]
  exact ⟨rfl, rfl⟩

/-
  In every run of the queue: there is no fault, the list is
  well formed and holds the messages queued, the messages
  sent are those gone and those queued, only flushes discard
  any of them, they are delivered in the order of sending,
  and the two laws hold.
-/
theorem queue_exactly_once
    (is : List (Input A α δ T))
    (hMalloc :
      History.Along (fun _ e => malloced e = true)
        ((system A α δ T).history is)) :
    (∃ q chain gone queued,
      (system A α δ T).run is = some q ∧
      WellFormed q.msg_list chain ∧
      chain.reverse.map q.msg_list.content =
        queued.map some ∧
      Ledger ((system A α δ T).history is) gone queued) ∧
    List.Sublist
      ((received ((system A α δ T).history is)).map Prod.snd)
      ((sent ((system A α δ T).history is)).map Prod.fst) ∧
    History.Along SndLaw ((system A α δ T).history is) ∧
    History.Along RcvLaw ((system A α δ T).history is) := by
  have hInv :
      Inv ((system A α δ T).history is)
        ((system A α δ T).run is) :=
    (system A α δ T).history_induction inv_init
      (fun h s i hI hEvent => inv_step hI i hEvent) is hMalloc
  rcases hInv with
    ⟨q, cells, gone, hRun, hs, hUnblocked, hLedger⟩
  refine ⟨⟨q, cells.map Prod.fst, gone, _, hRun,
    LinkedList.wellFormed_of_represents hs, ?_, hLedger⟩,
    received_sublist hLedger, ?_, ?_⟩
  · rw [← List.map_reverse, ← List.map_reverse, List.map_map,
      List.map_map]
    apply List.map_congr_left
    intro c hc
    exact hs.stored c (List.mem_reverse.mp hc)
  · exact
      (system A α δ T).along_of_invariant inv_init
        (fun h s i hI hEvent => inv_step hI i hEvent)
        (fun h s i hI hEvent => sndLaw_of_inv hI i hEvent)
        is hMalloc
  · exact
      (system A α δ T).along_of_invariant inv_init
        (fun h s i hI hEvent => inv_step hI i hEvent)
        (fun h s i hI _ => rcvLaw_of_inv hI i)
        is hMalloc

/-
  Two receivers, one of which waits and wakes up too early;
  one message is flushed, and the queue is unblocked.
-/
def twoReceivers : List (Input Nat Nat Unit Bool) :=
  [.rcv true,
    .wake true,
    .snd (some 0) (some 10) (some ()),
    .snd (some 1) (some 11) (some ()),
    .rcv false,
    .flush,
    .unblock,
    .wake true,
    .rcv false]

theorem queue_exactly_once_twoReceivers :
    (∃ q chain gone queued,
      (system Nat Nat Unit Bool).run twoReceivers = some q ∧
      WellFormed q.msg_list chain ∧
      chain.reverse.map q.msg_list.content =
        queued.map some ∧
      Ledger ((system Nat Nat Unit Bool).history twoReceivers)
        gone queued) ∧
    List.Sublist
      ((received ((system Nat Nat Unit Bool).history
        twoReceivers)).map Prod.snd)
      ((sent ((system Nat Nat Unit Bool).history
        twoReceivers)).map Prod.fst) ∧
    History.Along SndLaw
      ((system Nat Nat Unit Bool).history twoReceivers) ∧
    History.Along RcvLaw
      ((system Nat Nat Unit Bool).history twoReceivers) :=
  queue_exactly_once twoReceivers (by decide)

/- A message without a function to deallocate it. -/
def flushedUndealloced : List (Input Nat Nat Unit Bool) :=
  [.snd (some 0) (some 10) none, .flush]

/-
  It was sent, but is neither delivered nor deallocated nor
  queued; and null is not sent by a queue that has not been
  unblocked.
-/
theorem flushed_not_deallocated :
    (History.Along (fun _ e => malloced e = true)
        ((system Nat Nat Unit Bool).history
          flushedUndealloced) ∧
      sent ((system Nat Nat Unit Bool).history
        flushedUndealloced) = [(10, none)] ∧
      received ((system Nat Nat Unit Bool).history
        flushedUndealloced) = [] ∧
      deallocated ((system Nat Nat Unit Bool).history
        flushedUndealloced) = [] ∧
      ((system Nat Nat Unit Bool).run
        flushedUndealloced).map (fun q => q.msg_list.p_head) =
          some none) ∧
      ((system Nat Nat Unit Bool).step
        (system Nat Nat Unit Bool).init
        (.snd (some 0) none none)).2 =
          [.snd .invalidParameter] := by
  decide

end MsgQ

end D2Common
