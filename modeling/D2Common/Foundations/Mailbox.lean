import D2Common.Foundations.Parts
import Mathlib.Data.List.Basic
import Mathlib.Logic.Function.Basic

/-
  A program behind a mailbox.

  Threads call a program, and what a call tells may be
  messages that the thread sends on when the call is over.
  Messages go into one mailbox. A thread of its own takes
  them out again and calls the program with them, one after
  the other. The other threads go on meanwhile, so that
  their calls and their sending come in any order in between.

  Key definitions include:
    * `Program`
    * `Mailbox.Act`
    * `Mailbox.system`
    * `Transducer.Refines`

  Key theorems include:
    * `Mailbox.orderly_run`
    * `Mailbox.Kept.run`
    * `Transducer.Refines.run`
-/

------------------------------------------------------------
-- Refinement
------------------------------------------------------------

namespace D2Common

namespace Transducer

variable {σ τ ι κ ω ψ χ : Type}

/- What is heard of the outputs along a history. -/
def heard
    (hears : ω → Option χ)
    (h : List (Event σ ι ω)) : List χ :=
  h.flatMap fun e => e.output.filterMap hears

/-
  Every step of one machine that meets a condition is some
  steps of another, which tell what is heard of it.
-/
structure Refines
    (M : Transducer σ ι ω)
    (N : Transducer τ κ ψ)
    (R : σ → τ → Prop)
    (hears : ω → Option χ)
    (tells : ψ → Option χ)
    (C : Event σ ι ω → Prop) : Prop where
  init : R M.init N.init
  step :
    ∀ s t i,
      R s t →
        C (M.event s i) →
          ∃ js,
            R (M.step s i).1 (N.runFrom t js) ∧
              (M.step s i).2.filterMap hears =
                N.saidFrom tells t js

/- The outputs of a step of a history are those of a step. -/
theorem output_of_mem
    {M : Transducer σ ι ω}
    {s : σ}
    {is : List ι}
    {e : Event σ ι ω}
    (hMem : e ∈ M.historyFrom s is) :
    e.output = (M.step e.before e.input).2 := by
  induction is generalizing s with
  | nil => cases hMem
  | cons i is ih =>
      rcases List.mem_cons.mp hMem with rfl | hMem
      · rfl
      · exact ih hMem

/- Then every run of the one is a run of the other. -/
theorem Refines.run
    {M : Transducer σ ι ω}
    {N : Transducer τ κ ψ}
    {R : σ → τ → Prop}
    {hears : ω → Option χ}
    {tells : ψ → Option χ}
    {C : Event σ ι ω → Prop}
    (hRefines : Refines M N R hears tells C)
    (is : List ι)
    (hAlong :
      History.Along (fun _ e => C e) (M.history is)) :
    ∃ js,
      R (M.run is) (N.run js) ∧
        heard hears (M.history is) =
          N.saidFrom tells N.init js := by
  induction is using List.reverseRecOn with
  | nil => exact ⟨[], hRefines.init, rfl⟩
  | append_singleton is i ih =>
      rw [history_concat] at hAlong ⊢
      rcases (History.along_concat _ _).mp hAlong with
        ⟨hBefore, hLast⟩
      rcases ih hBefore with ⟨js, hR, hSaid⟩
      rcases hRefines.step _ _ i hR hLast with
        ⟨ks, hR', hSaid'⟩
      refine ⟨js ++ ks, ?_, ?_⟩
      · have hRun : N.run (js ++ ks) = N.runFrom (N.run js) ks :=
          N.runFrom_append N.init js ks
        rw [run_concat, hRun]
        exact hR'
      · unfold heard at hSaid ⊢
        rw [List.flatMap_append, hSaid, saidFrom_append,
          List.flatMap_singleton]
        exact congrArg _ hSaid'

end Transducer

end D2Common

------------------------------------------------------------
-- Programs And Their Mailbox
------------------------------------------------------------

namespace D2Common

/-
  A machine with what it is called with to handle a message,
  and which of its outputs are messages.
-/
structure Program (σ ι μ ω : Type) where
  machine : Transducer σ ι ω
  proc : μ → ι
  sends : ω → Option μ

namespace Mailbox

/-
  What happens to the program: a thread calls it, a message
  of a thread is handled, a thread passes on a message,
  which is taken or not. The thread that handles messages is
  `none`.
-/
inductive Act (T ι μ ω : Type) where
  | called (t : T) (i : ι) (out : List ω)
  | handled (w : Option T) (m : μ) (out : List ω)
  | passed (w : Option T) (m : μ) (taken : Bool)

/-
  The program, the mailbox with the thread that each message
  is from, and what each thread has still to pass on.
-/
structure State (T σ μ : Type) where
  actor : σ
  box : List (Option T × μ)
  outbox : Option T → List μ

/-
  A thread calls the program, or passes on its next message,
  or the next message is handled.
-/
inductive Input (T ι : Type) where
  | call (t : T) (i : ι)
  | pass (w : Option T) (taken : Bool)
  | handle

variable {T σ ι μ ω : Type} [DecidableEq T]

/- A call, after which the thread has messages to pass on. -/
def State.called
    (p : Program σ ι μ ω)
    (s : State T σ μ)
    (w : Option T)
    (i : ι) : State T σ μ :=
  { s with
    actor := (p.machine.step s.actor i).1
    outbox :=
      Function.update s.outbox w
        ((p.machine.step s.actor i).2.filterMap p.sends) }

/- What a thread has to pass on when one has changed. -/
theorem mem_update
    {outbox : Option T → List μ}
    {v w : Option T}
    {msgs : List μ}
    {m : μ}
    (hMem : m ∈ Function.update outbox v msgs w) :
    w = v ∧ m ∈ msgs ∨ m ∈ outbox w := by
  by_cases hSame : w = v
  · subst hSame
    rw [Function.update_self] at hMem
    exact Or.inl ⟨rfl, hMem⟩
  · rw [Function.update_of_ne hSame] at hMem
    exact Or.inr hMem

/- A thread that has messages to pass on calls nothing. -/
def step
    (p : Program σ ι μ ω)
    (s : State T σ μ) :
    Input T ι → State T σ μ × List (Act T ι μ ω)
| .call t i =>
    if (s.outbox (some t)).isEmpty then
      (s.called p (some t) i,
        [.called t i (p.machine.step s.actor i).2])
    else (s, [])
| .pass w taken =>
    match s.outbox w with
    | [] => (s, [])
    | m :: rest =>
        ({ s with
            box := if taken then s.box ++ [(w, m)] else s.box
            outbox := Function.update s.outbox w rest },
          [.passed w m taken])
| .handle =>
    if (s.outbox none).isEmpty then
      match s.box with
      | [] => (s, [])
      | (w, m) :: box =>
          ({ s with box := box }.called p none (p.proc m),
            [.handled w m
              (p.machine.step s.actor (p.proc m)).2])
    else (s, [])

/- The program before anything has called it. -/
def system
    (T : Type)
    [DecidableEq T]
    (p : Program σ ι μ ω) :
    Transducer (State T σ μ) (Input T ι) (Act T ι μ ω) where
  init := ⟨p.machine.init, [], fun _ => []⟩
  step := step p

end Mailbox

end D2Common

------------------------------------------------------------
-- Order
------------------------------------------------------------

namespace D2Common

namespace Mailbox

variable {T σ ι μ ω : Type}

/- The call that an act is, with what it has told. -/
def Act.answer
    (p : Program σ ι μ ω) :
    Act T ι μ ω → Option (ι × List ω)
| .called _ i out => some (i, out)
| .handled _ m out => some (p.proc m, out)
| .passed _ _ _ => none

/- What a call has told. -/
def Act.out : Act T ι μ ω → List ω
| .called _ _ out => out
| .handled _ _ out => out
| .passed _ _ _ => []

/- Whether a message is passed on and not taken. -/
def Act.refused : Act T ι μ ω → Bool
| .passed _ _ false => true
| _ => false

/- The message that is handled. -/
def Act.handling : Act T ι μ ω → Option (Option T × μ)
| .handled w m _ => some (w, m)
| _ => none

/- The message that is put into the mailbox. -/
def Act.putting : Act T ι μ ω → Option (Option T × μ)
| .passed w m true => some (w, m)
| _ => none

variable [DecidableEq T]

/- The messages that the call of a thread tells. -/
def Act.sentBy
    (p : Program σ ι μ ω)
    (w : Option T) : Act T ι μ ω → List μ
| .called t _ out =>
    if some t = w then out.filterMap p.sends else []
| .handled _ _ out =>
    if none = w then out.filterMap p.sends else []
| .passed _ _ _ => []

/- The message that a thread passes on. -/
def Act.passedBy
    (w : Option T) : Act T ι μ ω → Option μ
| .passed v m _ => if v = w then some m else none
| _ => none

/-
  What the acts so far say of a state: the program is called
  as if by one caller, every message that is put is handled
  or waits, in the order of putting, and what a thread has
  been told to send it has passed on, in that order, except
  for what it has still to pass on.
-/
structure Orderly
    (p : Program σ ι μ ω)
    (acts : List (Act T ι μ ω))
    (actor : σ)
    (box : List (Option T × μ))
    (outbox : Option T → List μ) : Prop where
  actor :
    actor =
      p.machine.run
        ((acts.filterMap (Act.answer p)).map Prod.fst)
  answers :
    p.machine.transcript
        ((acts.filterMap (Act.answer p)).map Prod.fst) =
      acts.filterMap (Act.answer p)
  box :
    acts.filterMap Act.putting =
      acts.filterMap Act.handling ++ box
  outbox :
    ∀ w,
      acts.flatMap (Act.sentBy p w) =
        acts.filterMap (Act.passedBy w) ++ outbox w

variable {p : Program σ ι μ ω}
variable {acts : List (Act T ι μ ω)}
variable {actor : σ}
variable {box : List (Option T × μ)}
variable {outbox : Option T → List μ}

/- A call of a thread that has passed on everything. -/
theorem Orderly.answered
    (hOrderly : Orderly p acts actor box outbox)
    (w : Option T)
    (hIdle : outbox w = [])
    (i : ι)
    {a : Act T ι μ ω}
    {box' : List (Option T × μ)}
    (hAnswer :
      a.answer p = some (i, (p.machine.step actor i).2))
    (hPutting : a.putting = none)
    (hHandling : box = a.handling.toList ++ box')
    (hSent :
      ∀ v,
        a.sentBy p v =
          if w = v then
            (p.machine.step actor i).2.filterMap p.sends
          else [])
    (hPassed : ∀ v, a.passedBy v = none) :
    Orderly p (acts ++ [a]) (p.machine.step actor i).1 box'
      (Function.update outbox w
        ((p.machine.step actor i).2.filterMap p.sends)) where
  actor := by
    rw [List.filterMap_append, List.map_append,
      List.filterMap_cons_some hAnswer]
    simp only [List.filterMap_nil, List.map_cons,
      List.map_nil]
    rw [Transducer.run_concat, ← hOrderly.actor]
  answers := by
    rw [List.filterMap_append, List.map_append,
      List.filterMap_cons_some hAnswer]
    simp only [List.filterMap_nil, List.map_cons,
      List.map_nil]
    rw [Transducer.transcript_concat, hOrderly.answers,
      ← hOrderly.actor]
  box := by
    have hNone : [a].filterMap Act.putting = [] := by
      simp [hPutting]
    have hOne :
        [a].filterMap Act.handling = a.handling.toList := by
      cases hHandle : a.handling <;> simp [hHandle]
    rw [List.filterMap_append, List.filterMap_append, hNone,
      hOne, hOrderly.box, hHandling]
    simp
  outbox := by
    intro v
    have hNone : [a].filterMap (Act.passedBy v) = [] := by
      simp [hPassed]
    rw [List.flatMap_append, List.filterMap_append, hNone,
      hOrderly.outbox, List.flatMap_singleton, hSent,
      List.append_nil]
    by_cases hSame : w = v
    · subst hSame
      rw [if_pos rfl, hIdle, Function.update_self,
        List.append_nil]
    · rw [if_neg hSame, List.append_nil,
        Function.update_of_ne (Ne.symm hSame)]

/- Passing on a message is not a call. -/
omit [DecidableEq T] in
theorem answers_passed
    (w : Option T)
    (m : μ)
    (taken : Bool) :
    (acts ++ [Act.passed w m taken]).filterMap
        (Act.answer p) =
      acts.filterMap (Act.answer p) := by
  rw [List.filterMap_append]
  exact List.append_nil _

/- A message that is passed on. -/
theorem Orderly.passed
    (hOrderly : Orderly p acts actor box outbox)
    {w : Option T}
    {m : μ}
    {rest : List μ}
    (hOutbox : outbox w = m :: rest)
    (taken : Bool) :
    Orderly p (acts ++ [.passed w m taken]) actor
      (if taken then box ++ [(w, m)] else box)
      (Function.update outbox w rest) where
  actor := by
    rw [answers_passed]
    exact hOrderly.actor
  answers := by
    rw [answers_passed]
    exact hOrderly.answers
  box := by
    have hHandling :
        [(Act.passed w m taken : Act T ι μ ω)].filterMap
            Act.handling =
          [] := rfl
    rw [List.filterMap_append, List.filterMap_append,
      hHandling, hOrderly.box, List.append_nil]
    cases taken with
    | false => exact List.append_nil _
    | true => exact List.append_assoc _ _ _
  outbox := by
    intro v
    have hBefore := hOrderly.outbox v
    have hNone :
        [Act.passed w m taken].flatMap (Act.sentBy p v) =
          [] := rfl
    rw [List.flatMap_append, hNone, hBefore,
      List.filterMap_append, List.append_nil]
    by_cases hSame : w = v
    · subst hSame
      rw [hOutbox, Function.update_self]
      simp [Act.passedBy]
    · rw [Function.update_of_ne (Ne.symm hSame)]
      simp [Act.passedBy, hSame]

theorem orderly_init :
    Orderly p ([] : List (Act T ι μ ω)) p.machine.init []
      (fun _ => []) :=
  ⟨rfl, rfl, rfl, fun _ => rfl⟩

theorem orderly_step
    {s : State T σ μ}
    (hOrderly : Orderly p acts s.actor s.box s.outbox)
    (i : Input T ι) :
    Orderly p (acts ++ (step p s i).2) (step p s i).1.actor
      (step p s i).1.box (step p s i).1.outbox := by
  have hSame :
      Orderly p (acts ++ []) s.actor s.box s.outbox := by
    rw [List.append_nil]
    exact hOrderly
  cases i with
  | call t i =>
      simp only [step]
      split
      · next hIdle =>
          refine
            hOrderly.answered (some t)
              (List.isEmpty_iff.mp hIdle) i rfl rfl rfl ?_
              (fun _ => rfl)
          intro v
          rfl
      · exact hSame
  | pass w taken =>
      simp only [step]
      split
      · exact hSame
      · next m rest hOutbox =>
          exact hOrderly.passed hOutbox taken
  | handle =>
      simp only [step]
      split
      · next hIdle =>
          split
          · exact hSame
          · next w m box hBox =>
              refine
                hOrderly.answered none
                  (List.isEmpty_iff.mp hIdle) (p.proc m) rfl
                  rfl hBox ?_ (fun _ => rfl)
              intro v
              rfl
      · exact hSame

/- Whatever the threads do, all goes on in order. -/
theorem orderly_run
    (p : Program σ ι μ ω)
    (is : List (Input T ι)) :
    Orderly p ((system T p).saidFrom some (system T p).init is)
      ((system T p).run is).actor ((system T p).run is).box
      ((system T p).run is).outbox := by
  induction is using List.reverseRecOn with
  | nil => exact orderly_init
  | append_singleton is i ih =>
      rw [Transducer.saidFrom_append, Transducer.saidFrom_cons,
        Transducer.saidFrom_nil, List.append_nil,
        List.filterMap_some, Transducer.run_concat]
      exact orderly_step ih i

/- The message, if it is from a thread. -/
def sender
    (w : Option T)
    (x : Option T × μ) : Option μ :=
  if x.1 = w then some x.2 else none

/- What is passed on is put, if nothing is refused. -/
theorem passedBy_eq
    (hTaken : ∀ a ∈ acts, a.refused = false)
    (w : Option T) :
    acts.filterMap (Act.passedBy w) =
      (acts.filterMap Act.putting).filterMap (sender w) := by
  rw [List.filterMap_filterMap]
  apply List.filterMap_congr
  intro a hMem
  cases a with
  | called t i out => rfl
  | handled v m out => rfl
  | passed v m taken =>
      cases taken with
      | true => rfl
      | false => cases hTaken _ hMem

/-
  If nothing is refused, what a thread has been told to send
  has been handled, waits to be handled or is still to be
  passed on, in that order.
-/
theorem Orderly.sent_eq
    (hOrderly : Orderly p acts actor box outbox)
    (hTaken : ∀ a ∈ acts, a.refused = false)
    (w : Option T) :
    acts.flatMap (Act.sentBy p w) =
      (acts.filterMap Act.handling).filterMap (sender w) ++
        (box.filterMap (sender w) ++ outbox w) := by
  rw [hOrderly.outbox, passedBy_eq hTaken, hOrderly.box,
    List.filterMap_append, List.append_assoc]

/- What a call has told, it has told in some state. -/
theorem Orderly.exists_state
    (hOrderly : Orderly p acts actor box outbox)
    {a : Act T ι μ ω}
    (hMem : a ∈ acts)
    {i : ι}
    {out : List ω}
    (hAnswer : a.answer p = some (i, out)) :
    ∃ s, out = (p.machine.step s i).2 := by
  have hAnswered :
      (i, out) ∈ acts.filterMap (Act.answer p) :=
    List.mem_filterMap.mpr ⟨a, hMem, hAnswer⟩
  rw [← hOrderly.answers, Transducer.transcript] at hAnswered
  rcases List.mem_map.mp hAnswered with ⟨e, hEvent, hEq⟩
  cases hEq
  exact ⟨e.before, Transducer.output_of_mem hEvent⟩

end Mailbox

end D2Common

------------------------------------------------------------
-- What A Run Keeps
------------------------------------------------------------

namespace D2Common

namespace Mailbox

variable {T σ ι μ ω : Type} [DecidableEq T]

/-
  What holds of the acts so far and of a state, and is kept
  by every call of a thread, every message that is taken and
  every message that is handled, if the acts meet a
  condition.
-/
structure Kept
    (p : Program σ ι μ ω)
    (C : Act T ι μ ω → Prop)
    (I : List (Act T ι μ ω) → State T σ μ → Prop) :
    Prop where
  init : I [] ⟨p.machine.init, [], fun _ => []⟩
  called :
    ∀ {acts s t i},
      I acts s →
        s.outbox (some t) = [] →
          C (.called t i (p.machine.step s.actor i).2) →
            I (acts ++
                [.called t i (p.machine.step s.actor i).2])
              (s.called p (some t) i)
  passed :
    ∀ {acts s w m rest},
      I acts s →
        s.outbox w = m :: rest →
          I (acts ++ [.passed w m true])
            { s with
              box := s.box ++ [(w, m)]
              outbox := Function.update s.outbox w rest }
  handled :
    ∀ {acts s w m box},
      I acts s →
        s.outbox none = [] →
          s.box = (w, m) :: box →
            I (acts ++
                [.handled w m
                  (p.machine.step s.actor (p.proc m)).2])
              (State.called p { s with box := box } none
                (p.proc m))

variable {p : Program σ ι μ ω}
variable {C : Act T ι μ ω → Prop}
variable {I : List (Act T ι μ ω) → State T σ μ → Prop}

theorem Kept.step
    (hKept : Kept p C I)
    {acts : List (Act T ι μ ω)}
    {s : State T σ μ}
    (hBefore : I acts s)
    (i : Input T ι)
    (hTaken : ∀ a ∈ (Mailbox.step p s i).2, a.refused = false)
    (hMeets : ∀ a ∈ (Mailbox.step p s i).2, C a) :
    I (acts ++ (Mailbox.step p s i).2)
      (Mailbox.step p s i).1 := by
  have hSame : I (acts ++ []) s := by
    rw [List.append_nil]
    exact hBefore
  cases i with
  | call t i =>
      simp only [Mailbox.step] at hTaken hMeets ⊢
      split
      · next hIdle =>
          rw [if_pos hIdle] at hMeets
          exact
            hKept.called hBefore (List.isEmpty_iff.mp hIdle)
              (hMeets _ (List.mem_singleton.mpr rfl))
      · exact hSame
  | pass w taken =>
      simp only [Mailbox.step] at hTaken ⊢
      split
      · exact hSame
      · next m rest hOutbox =>
          simp only [hOutbox] at hTaken
          have hWas := hTaken _ (List.mem_singleton.mpr rfl)
          cases taken with
          | true => exact hKept.passed hBefore hOutbox
          | false => cases hWas
  | handle =>
      simp only [Mailbox.step]
      split
      · next hIdle =>
          split
          · exact hSame
          · next w m box hBox =>
              exact
                hKept.handled hBefore
                  (List.isEmpty_iff.mp hIdle) hBox
      · exact hSame

/- Then it holds in every run that refuses nothing. -/
theorem Kept.run
    (hKept : Kept p C I)
    (is : List (Input T ι))
    (hTaken :
      ∀ a ∈ (system T p).saidFrom some (system T p).init is,
        a.refused = false)
    (hMeets :
      ∀ a ∈ (system T p).saidFrom some (system T p).init is,
        C a) :
    I ((system T p).saidFrom some (system T p).init is)
      ((system T p).run is) := by
  induction is using List.reverseRecOn with
  | nil => exact hKept.init
  | append_singleton is i ih =>
      rw [Transducer.saidFrom_append, Transducer.saidFrom_cons,
        Transducer.saidFrom_nil, List.append_nil,
        List.filterMap_some] at hTaken hMeets ⊢
      rw [Transducer.run_concat]
      refine hKept.step (ih ?_ ?_) i ?_ ?_
      · exact fun a ha => hTaken a (List.mem_append_left _ ha)
      · exact fun a ha => hMeets a (List.mem_append_left _ ha)
      · exact fun a ha => hTaken a (List.mem_append_right _ ha)
      · exact fun a ha => hMeets a (List.mem_append_right _ ha)

end Mailbox

end D2Common
