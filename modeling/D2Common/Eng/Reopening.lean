import D2Common.Eng.OnTask

/-
  What is done when the modem comes up again.

  The location API is told by a thread of its own. It puts a
  message into the queue that closes the API and opens it
  anew, and lets the adapter put one that tells the engine.
  Other threads, and the engine itself, put messages of
  theirs in between.

  Key definitions include:
    * `Stage`
    * `stagesBy`
    * `reportedBy`

  Key theorems include:
    * `stages_of_acts`
    * `stages_sent`
    * `restarts_after_reopening`
-/

------------------------------------------------------------
-- Stages
------------------------------------------------------------

namespace D2Common

namespace Eng

variable {A T ρ ν F : Type}

/-
  The stages of a restart: the location API is closed and
  opened, and the engine handles `LocEngUp`.
-/
inductive Stage where
  | close
  | open (mask : LocApiBase.EventMask)
  | engineUp
deriving DecidableEq

/- What the location API is made to do. -/
def Said.stage : Said ρ F → Option Stage
| .close => some .close
| .open mask => some (.open mask)
| _ => none

/- All stages of one restart, in order. -/
def allStages (evtMask : LocApiBase.EventMask) : List Stage :=
  [.close, .open evtMask, .engineUp]

/- The stages that a message is there for. -/
def Msg.stages
    (evtMask : LocApiBase.EventMask) :
    Msg ρ F → List Stage
| .ssr => [.close, .open evtMask]
| .engineUp _ => [.engineUp]
| _ => []

/- The stage that the engine itself is there for. -/
def Msg.told : Msg ρ F → List Stage
| .engineUp _ => [.engineUp]
| _ => []

/-
  The stages that are gone through when a message of a
  thread is handled.
-/
def stagesBy
    [DecidableEq T]
    (w : Option T) : Act T ρ F → List Stage
| .handled v m out =>
    if v = w then out.filterMap Said.stage ++ m.told else []
| _ => []

/- A thread reports a restart, and there is an engine. -/
def reportedBy
    [DecidableEq T]
    (t : T)
    (e : MsgTask.Serving.Event A T (LocEngData ρ ν)
      (Call ρ F) (Msg ρ F) (Said ρ F)) : Bool :=
  match e.input with
  | .call u (.handleEngineUpEvent _) =>
      u = t && (e.before.outbox (some u)).isEmpty &&
        e.before.actor.adapter.isSome
  | _ => false

end Eng

end D2Common

------------------------------------------------------------
-- What Is Done And What Is Sent
------------------------------------------------------------

namespace D2Common

namespace Eng

variable {A T ρ ν F : Type}
variable [DecidableEq A] [DecidableEq T]

/- Effects of the engine are no stages. -/
omit [DecidableEq A] [DecidableEq T] in
theorem stage_effects
    (out : List (Effect ρ F)) :
    (out.map Said.effect).filterMap Said.stage = [] := by
  rw [List.filterMap_map]
  exact List.filterMap_eq_nil_iff.mpr (fun _ _ => rfl)

/- `proc` goes through the stages of its message. -/
omit [DecidableEq A] in
theorem stagesBy_proc
    (P : Platform ν F)
    (evtMask : LocApiBase.EventMask)
    (d : LocEngData ρ ν)
    (w : Option T)
    (m : Msg ρ F) :
    stagesBy w (.handled w m (m.proc P evtMask d).2) =
      m.stages evtMask := by
  have hNone
      {out : List (Said ρ F)}
      (hOut : ∀ x ∈ out, x.stage = none) :
      out.filterMap Said.stage = [] :=
    List.filterMap_eq_nil_iff.mpr hOut
  simp only [stagesBy, if_true]
  cases m with
  | eng m =>
      simp only [Msg.proc, stage_effects]
      rfl
  | engineUp result =>
      simp only [Msg.proc, stage_effects]
      rfl
  | adapter m =>
      have hPlain :
          ∀ x ∈ ((Msg.adapter m).proc P evtMask d).2,
            x.stage = none := by
        intro x hx
        cases m <;>
          simp only [Msg.proc, List.mem_map] at hx <;>
          rcases hx with ⟨y, -, rfl⟩ <;>
          rfl
      simp only [hNone hPlain]
      rfl
  | ssr => rfl

/- What is done of a run is what its messages are for. -/
omit [DecidableEq A] in
theorem stages_of_acts
    (P : Platform ν F)
    (evtMask : LocApiBase.EventMask)
    {acts : List (Act T ρ F)}
    (hDone :
      ∀ v m out, .handled v m out ∈ acts →
        ∃ d, out = (m.proc P evtMask d).2)
    (w : Option T) :
    acts.flatMap (stagesBy w) =
      ((acts.filterMap Mailbox.Act.handling).filterMap
        (Mailbox.sender w)).flatMap (Msg.stages evtMask) := by
  induction acts with
  | nil => rfl
  | cons a acts ih =>
      have hRest :=
        ih fun v m out hMem =>
          hDone v m out (List.mem_cons_of_mem _ hMem)
      rw [List.flatMap_cons, hRest]
      cases a with
      | called t c out => rfl
      | passed v m taken => rfl
      | handled v m out =>
          rcases hDone v m out List.mem_cons_self with
            ⟨d, rfl⟩
          have hHandling :
              (.handled v m (m.proc P evtMask d).2 :
                  Act T ρ F).handling =
                some (v, m) := rfl
          rw [List.filterMap_cons_some hHandling]
          by_cases hSame : v = w
          · subst hSame
            have hSender :
                Mailbox.sender v (v, m) = some m :=
              if_pos rfl
            rw [List.filterMap_cons_some hSender,
              List.flatMap_cons, stagesBy_proc]
          · have hSender :
                Mailbox.sender w (v, m) = none :=
              if_neg hSame
            rw [List.filterMap_cons_none hSender]
            simp only [stagesBy, if_neg hSame,
              List.nil_append]

/- A call puts messages for a whole restart, or for none. -/
omit [DecidableEq A] [DecidableEq T] in
theorem stages_called
    (P : Platform ν F)
    (evtMask : LocApiBase.EventMask)
    (d : LocEngData ρ ν)
    (c : Call ρ F) :
    ((called P evtMask d c).2.filterMap Said.msg).flatMap
        (Msg.stages evtMask) =
      match c with
      | .handleEngineUpEvent _ =>
          if d.adapter.isSome then allStages evtMask else []
      | _ => [] := by
  have hNone
      {out : List (Said ρ F)}
      (hOut :
        ∀ x ∈ out, ∀ m ∈ x.msg, m.stages evtMask = []) :
      (out.filterMap Said.msg).flatMap
        (Msg.stages evtMask) = [] := by
    apply List.flatMap_eq_nil_iff.mpr
    intro m hm
    rcases List.mem_filterMap.mp hm with ⟨x, hx, hMsg⟩
    exact hOut x hx m hMsg
  have hEffects (out : List (Effect ρ F)) :
      ∀ x ∈ out.map (Said.effect (ρ := ρ)),
        ∀ m ∈ x.msg, m.stages evtMask = [] := by
    intro x hx m hm
    rcases List.mem_map.mp hx with ⟨f, -, rfl⟩
    cases f <;> cases hm
    rfl
  cases c with
  | direct c => exact hNone (hEffects _)
  | post m =>
      simp only [called]
      split <;> rfl
  | handleEngineUpEvent result =>
      simp only [called]
      split <;> rfl
  | cleanup result =>
      simp only [called]
      split
      · rfl
      · split <;> rfl
  | proc m =>
      apply hNone
      cases m with
      | eng m => exact hEffects _
      | engineUp result => exact hEffects _
      | adapter m =>
          intro x hx n hn
          cases m <;>
            simp only [called, Msg.proc,
              List.mem_map] at hx <;>
            rcases hx with ⟨y, -, rfl⟩ <;>
            cases hn
          rfl
      | ssr =>
          intro x hx n hn
          rcases List.mem_cons.mp hx with rfl | hx
          · cases hn
          · rw [List.mem_singleton.mp hx] at hn
            cases hn

end Eng

end D2Common

------------------------------------------------------------
-- Every Restart In Its Order
------------------------------------------------------------

namespace D2Common

namespace Eng

variable {A T ρ ν F : Type}
variable [DecidableEq A] [DecidableEq T]

/- What a thread sends at one step of a run. -/
theorem stages_sent
    (P : Platform ν F)
    (evtMask : LocApiBase.EventMask)
    (t : T)
    (s : MsgTask.Serving.State A T (LocEngData ρ ν)
      (Msg ρ F))
    (i : TaskInput A T ρ F) :
    (((((onTask A T P evtMask).step s i).2.filterMap
            MsgTask.Serving.Output.act?).flatMap
          (Mailbox.Act.sentBy (program P evtMask)
            (some t))).flatMap (Msg.stages evtMask)) =
      if reportedBy t ((onTask A T P evtMask).event s i) then
        allStages evtMask
      else [] := by
  cases i with
  | call u c =>
      by_cases hIdle : (s.outbox (some u)).isEmpty = true
      · have hActs :
            ((onTask A T P evtMask).step s
                (.call u c)).2.filterMap
                  MsgTask.Serving.Output.act? =
              [.called u c
                (called P evtMask s.actor c).2] := by
          simp only [onTask, MsgTask.Serving.system,
            MsgTask.Serving.step]
          rw [if_pos hIdle]
          rfl
        rw [hActs]
        simp only [List.flatMap_singleton,
          Mailbox.Act.sentBy, Option.some.injEq]
        by_cases hSame : u = t
        · subst hSame
          rw [if_pos rfl]
          refine
            (stages_called P evtMask s.actor c).trans ?_
          cases c <;>
            simp [reportedBy, Transducer.event, hIdle]
        · rw [if_neg hSame]
          cases c <;>
            simp [reportedBy, Transducer.event, hSame]
      · have hActs :
            ((onTask A T P evtMask).step s
                (.call u c)).2.filterMap
                  MsgTask.Serving.Output.act? = [] := by
          simp only [onTask, MsgTask.Serving.system,
            MsgTask.Serving.step]
          rw [if_neg hIdle]
          rfl
        rw [hActs]
        cases c <;>
          simp [reportedBy, Transducer.event, hIdle]
  | send w elem =>
      simp only [onTask, MsgTask.Serving.system,
        MsgTask.Serving.step, reportedBy, Transducer.event]
      split
      · rfl
      · simp only [MsgTask.Serving.State.moved,
          MsgTask.Serving.heard_moved]
        rfl
  | unblock =>
      simp only [onTask, MsgTask.Serving.system,
        MsgTask.Serving.step, MsgTask.Serving.State.moved,
        MsgTask.Serving.heard_moved, reportedBy,
        Transducer.event]
      rfl
  | loop =>
      simp only [onTask, MsgTask.Serving.system,
        MsgTask.Serving.step, reportedBy, Transducer.event]
      split
      · split
        · simp only [MsgTask.Serving.State.moved,
            MsgTask.Serving.heard_moved]
          rfl
        · simp only [MsgTask.Serving.State.moved,
            MsgTask.Serving.heard_moved]
          rfl
      · rfl

/- What a thread has sent in a run: all of its restarts. -/
theorem stages_run
    (P : Platform ν F)
    (evtMask : LocApiBase.EventMask)
    (t : T)
    (is : List (TaskInput A T ρ F)) :
    ((doneIn A P evtMask is).flatMap
          (Mailbox.Act.sentBy (program P evtMask)
            (some t))).flatMap (Msg.stages evtMask) =
      (List.replicate
        (((onTask A T P evtMask).history is).countP
          (reportedBy t))
        (allStages evtMask)).flatten := by
  induction is using List.reverseRecOn with
  | nil => rfl
  | append_singleton is i ih =>
      have hDone :
          doneIn A P evtMask (is ++ [i]) =
            doneIn A P evtMask is ++
              ((onTask A T P evtMask).step
                ((onTask A T P evtMask).run is)
                i).2.filterMap
                  MsgTask.Serving.Output.act? := by
        unfold doneIn MsgTask.Serving.acts Transducer.heard
        rw [Transducer.history_concat, List.flatMap_append,
          List.flatMap_singleton]
        rfl
      rw [hDone, List.flatMap_append, List.flatMap_append, ih,
        stages_sent, Transducer.history_concat,
        List.countP_append, List.countP_singleton]
      split
      · rw [List.replicate_succ', List.flatten_append,
          List.flatten_singleton]
      · rw [Nat.add_zero, List.append_nil]

/-
  In every interleaving in which the queue refuses nothing,
  what is done for the restarts of the modem that one thread
  reports to an engine: for each of them, one after the
  other, the location API is closed and opened for its
  events, and then the engine handles `LocEngUp`. Only the
  last of these stages are still to come, and none are when
  nothing waits.
-/
theorem restarts_after_reopening
    (P : Platform ν F)
    (evtMask : LocApiBase.EventMask)
    (is : List (TaskInput A T ρ F))
    (hLegal :
      History.Along
        (fun _ e => MsgTask.Serving.legal e = true)
        ((onTask A T P evtMask).history is))
    (hTaken :
      ∀ a ∈ doneIn A P evtMask is, a.refused = false)
    (t : T) :
    ∃ coming,
      (doneIn A P evtMask is).flatMap (stagesBy (some t)) ++
            coming =
          (List.replicate
            (((onTask A T P evtMask).history is).countP
              (reportedBy t))
            [.close, .open evtMask, .engineUp]).flatten ∧
        (MsgTask.Serving.Drained
            ((onTask A T P evtMask).run is) →
          coming = []) := by
  rcases (MsgTask.Serving.refines (A := A) (T := T)
      (program P evtMask)).run is hLegal with
    ⟨js, hPresents, hActs⟩
  change doneIn A P evtMask is = _ at hActs
  have hOrderly :=
    Mailbox.orderly_run (T := T) (program P evtMask) js
  rw [← hActs] at hOrderly
  have hDone :
      ∀ v m out,
        .handled v m out ∈ doneIn A P evtMask is →
          ∃ d, out = (m.proc P evtMask d).2 :=
    fun v m out hMem => hOrderly.exists_state hMem rfl
  have hSent := stages_run P evtMask t is
  rw [hOrderly.sent_eq hTaken (some t), List.flatMap_append,
    ← stages_of_acts P evtMask hDone] at hSent
  refine ⟨_, hSent, ?_⟩
  intro hDrained
  rcases MsgTask.Serving.idle_of_drained hPresents hDrained with
    ⟨hBox, hOutbox⟩
  rw [hBox, hOutbox (some t)]
  rfl

set_option maxRecDepth 8000 in
theorem restarts_after_reopening_startRun :
    (doneIn Nat barePlatform 0#32 startRun).flatMap
          (stagesBy (some ())) =
        [.close, .open 0#32, .engineUp] ∧
      ∃ coming,
        (doneIn Nat barePlatform 0#32 startRun).flatMap
                (stagesBy (some ())) ++
              coming =
            (List.replicate
              (((onTask Nat Unit barePlatform
                    0#32).history startRun).countP
                (reportedBy ()))
              [.close, .open 0#32, .engineUp]).flatten ∧
          (MsgTask.Serving.Drained
              ((onTask Nat Unit barePlatform 0#32).run
                startRun) →
            coming = []) :=
  ⟨by decide,
    restarts_after_reopening barePlatform 0#32 startRun
      (by decide) (by decide) ()⟩

end Eng

end D2Common
