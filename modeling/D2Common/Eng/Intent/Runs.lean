import D2Common.Eng.Intent

/-
  Sessions are what the framework has asked for last.

  The requests are those of one thread, which its messages
  keep in order. Other threads deliver what the modem tells,
  restarts of the modem and new proxies, in any order in
  between. What the calls have asked for by now is what the
  engine will serve when it has handled all that waits. The
  proxy has it too, if no request has come while the proxy
  was being replaced.

  Key definitions include:
    * `Session.noted`
    * `Session.Faithful`

  Key theorems include:
    * `Session.faithful_kept`
    * `Session.session_follows_calls`
-/

------------------------------------------------------------
-- Before There Is An Adapter
------------------------------------------------------------

namespace D2Common

namespace Eng

namespace Session

variable {ρ ν F : Type}

/- Without an adapter nothing is asked for. -/
theorem asks_of_absent
    (standaloneOnly : Bool)
    {d : LocEngData ρ ν}
    (hAbsent : d.adapter = none)
    (c : Call ρ F)
    (i : Intent) :
    c.asks standaloneOnly d i = i := by
  cases c <;> simp [Call.asks, hAbsent]

/-
  A call without an adapter either leaves it so and queues
  nothing, or makes an adapter that has no session.
-/
theorem called_of_absent
    (P : Platform ν F)
    (evtMask : LocApiBase.EventMask)
    (standaloneOnly : Bool)
    {s : State ρ ν}
    (hAbsent : s.eng.adapter = none)
    (hHanding : s.handing = none)
    (hRecords : Records s.mUlp Intent.nothing)
    {c : Call ρ F}
    {asker : Bool}
    (hRegular : c.regular asker = true) :
    let r := called P evtMask standaloneOnly s c
    (Records r.1.mUlp Intent.nothing ∧
        r.1.handing = none) ∧
      (∀ m ∈ r.2.filterMap Said.msg, m.ofEngine) ∧
        (r.1.eng.adapter = none ∧
            r.2.filterMap Said.msg = [] ∨
          r.1.eng.adapter = some .new) := by
  have hNone : s.eng.adapter.isSome = false := by
    rw [hAbsent]
    rfl
  have hNothing
      (hSame :
        called P evtMask standaloneOnly s c = (s, [])) :
      let r := called P evtMask standaloneOnly s c
      (Records r.1.mUlp Intent.nothing ∧
          r.1.handing = none) ∧
        (∀ m ∈ r.2.filterMap Said.msg, m.ofEngine) ∧
          (r.1.eng.adapter = none ∧
              r.2.filterMap Said.msg = [] ∨
            r.1.eng.adapter = some .new) := by
    rw [hSame]
    exact
      ⟨⟨hRecords, hHanding⟩, by simp,
        Or.inl ⟨hAbsent, rfl⟩⟩
  cases c with
  | direct c =>
      refine ⟨?_, ?_, ?_⟩
      · simp only [called, hNone, onEngine]
        exact ⟨⟨rfl, fun p hp => by cases hp⟩, hHanding⟩
      · exact ofEngine_effects _
      · rcases adapter_direct P s.eng c with hSame | ⟨-, hNew⟩
        · left
          have hStays :
              (Eng.called P evtMask s.eng
                (.direct c : Eng.Call ρ F)).1.adapter =
                none :=
            hSame.trans hAbsent
          refine ⟨hStays, ?_⟩
          have hSent :=
            sent_of_no_adapter P evtMask
              (c := (.direct c : Eng.Call ρ F)) rfl
              (by rw [hStays]; rfl)
          simp only [called, onEngine, List.filterMap_map]
          have hEach :
              (Said.msg ∘ Said.eng : Eng.Said ρ F → _) =
                fun x => x.msg.map Msg.eng := rfl
          rw [hEach, ← List.map_filterMap, hSent]
          rfl
        · exact Or.inr hNew
  | locCleanup result =>
      exact hNothing (by simp [called, hAbsent])
  | goOn =>
      exact hNothing (by simp [called, State.goOn, hHanding])
  | proc m => cases hRegular
  | _ =>
      exact
        hNothing
          (by simp [called, onEngine, Eng.called, hNone])

end Session

end Eng

end D2Common

------------------------------------------------------------
-- Any Order
------------------------------------------------------------

namespace D2Common

namespace Eng

namespace Session

variable {T ρ ν F : Type}

/- What happens to the engine, its proxy and its threads. -/
abbrev Act (T ρ F : Type) :=
  Mailbox.Act T (Call ρ F) (Msg ρ F) (Said ρ F)

section Noted

variable (P : Platform ν F)
variable (evtMask : LocApiBase.EventMask)
variable (standaloneOnly : Bool)

/-
  What is noted of a run: the engine and its proxy, what the
  calls have asked for, and whether none of the requests has
  come during a hand-over.
-/
structure Noted (ρ ν : Type) where
  state : State ρ ν
  asked : Intent
  calm : Bool

def Noted.after
    (x : Noted ρ ν) : Act T ρ F → Noted ρ ν
| .called _ c _ =>
    { state := (called P evtMask standaloneOnly x.state c).1
      asked := c.asks standaloneOnly x.state.eng x.asked
      calm :=
        x.calm && !(c.requests && x.state.handing.isSome) }
| .handled _ m _ =>
    { x with
      state :=
        (called P evtMask standaloneOnly x.state
          (.proc m)).1 }
| .passed _ _ _ => x

def noted (acts : List (Act T ρ F)) : Noted ρ ν :=
  acts.foldl (Noted.after P evtMask standaloneOnly)
    ⟨⟨LocEngData.zero P.nmeaZero, .new, none⟩, .nothing,
      true⟩

theorem noted_concat
    (acts : List (Act T ρ F))
    (a : Act T ρ F) :
    noted (ρ := ρ) P evtMask standaloneOnly (acts ++ [a]) =
      (noted P evtMask standaloneOnly acts).after P evtMask
        standaloneOnly a := by
  simp [noted]

end Noted

variable [DecidableEq T]

/- The calls of threads, of which one asks, are regular. -/
def fits (asker : T) : Act T ρ F → Prop
| .called t c _ => c.regular (decide (t = asker)) = true
| _ => True

/- All that waits, and then what the asker has to queue. -/
def pending
    (asker : T)
    (s : Mailbox.State T (State ρ ν) (Msg ρ F)) :
    List (Msg ρ F) :=
  s.box.map Prod.snd ++ s.outbox (some asker)

/-
  The engine will serve what has been asked for when it has
  handled what waits, and the proxy has recorded it.
-/
structure Faithful
    (P : Platform ν F)
    (evtMask : LocApiBase.EventMask)
    (standaloneOnly : Bool)
    (asker : T)
    (acts : List (Act T ρ F))
    (s : Mailbox.State T (State ρ ν) (Msg ρ F)) :
    Prop where
  state :
    (noted P evtMask standaloneOnly acts).state = s.actor
  steadyBox : ∀ x ∈ s.box, x.2.steady = true
  steadyOutbox : ∀ w, ∀ m ∈ s.outbox w, m.steady = true
  others :
    ∀ w, w ≠ some asker →
      ∀ m ∈ s.outbox w, m.ofSession = false
  current :
    (noted P evtMask standaloneOnly acts).calm = true →
      Current s.actor
        (noted P evtMask standaloneOnly acts).asked
  absent :
    s.actor.eng.adapter = none →
      s.box = [] ∧ (∀ w, s.outbox w = []) ∧
        (noted P evtMask standaloneOnly acts).asked =
            .nothing ∧
          Records s.actor.mUlp .nothing ∧
            s.actor.handing = none
  periodic :
    ∀ a, s.actor.eng.adapter = some a →
      a.mFixCriteria.recurrence ≠ recurrenceSingle
  serves :
    Serves
      ((pending asker s).foldl Msg.asks (view s.actor.eng))
      (noted P evtMask standaloneOnly acts).asked

omit [DecidableEq T] in
theorem faithful_init
    (P : Platform ν F)
    (evtMask : LocApiBase.EventMask)
    (standaloneOnly : Bool)
    (asker : T) :
    Faithful (ρ := ρ) P evtMask standaloneOnly asker []
      ⟨⟨LocEngData.zero P.nmeaZero, .new, none⟩, [],
        fun _ => []⟩ where
  state := rfl
  steadyBox x hx := by cases hx
  steadyOutbox w m hm := by cases hm
  others w _ m hm := by cases hm
  current _ :=
    current_of_none ⟨rfl, fun p hp => by cases hp⟩ rfl
  absent _ :=
    ⟨rfl, fun _ => rfl, rfl,
      ⟨rfl, fun p hp => by cases hp⟩, rfl⟩
  periodic a ha := by cases ha
  serves := ⟨rfl, fun p hp => by cases hp⟩

variable {P : Platform ν F}
variable {evtMask : LocApiBase.EventMask}
variable {standaloneOnly : Bool}
variable {asker : T}
variable {acts : List (Act T ρ F)}
variable {s : Mailbox.State T (State ρ ν) (Msg ρ F)}

/- What is noted of a call, when the engine is known. -/
omit [DecidableEq T] in
theorem noted_called
    (hState :
      (noted P evtMask standaloneOnly acts).state = s.actor)
    (t : T)
    (c : Call ρ F)
    (out : List (Said ρ F)) :
    noted P evtMask standaloneOnly
        (acts ++ [.called t c out]) =
      { state :=
          (called P evtMask standaloneOnly s.actor c).1
        asked :=
          c.asks standaloneOnly s.actor.eng
            (noted P evtMask standaloneOnly acts).asked
        calm :=
          (noted P evtMask standaloneOnly acts).calm &&
            !(c.requests && s.actor.handing.isSome) } := by
  rw [noted_concat, Noted.after, hState]

/- A thread calls while there is an adapter. -/
theorem faithful_called
    (hFaithful :
      Faithful P evtMask standaloneOnly asker acts s)
    {t : T}
    (hIdle : s.outbox (some t) = [])
    {c : Call ρ F}
    (hFits : c.regular (decide (t = asker)) = true)
    {a : LocEngAdapter}
    (hAdapter : s.actor.eng.adapter = some a) :
    Faithful P evtMask standaloneOnly asker
      (acts ++
        [.called t c
          (called P evtMask standaloneOnly s.actor c).2])
      (s.called (program P evtMask standaloneOnly)
        (some t) c) := by
  have hRegular :=
    regular_called P evtMask standaloneOnly hAdapter hFits
  have hNoted :=
    noted_called hFaithful.state t c
      (called P evtMask standaloneOnly s.actor c).2
  have hStays :
      (called P evtMask standaloneOnly s.actor
          c).1.eng.adapter =
        some a :=
    hRegular.adapter.trans hAdapter
  have hView :
      view
          (called P evtMask standaloneOnly s.actor c).1.eng =
        view s.actor.eng := by
    rw [view, view, hRegular.adapter]
  refine
    ⟨by rw [hNoted]; rfl, hFaithful.steadyBox, ?_, ?_, ?_,
      ?_, ?_, ?_⟩
  · intro w m hMem
    rcases Mailbox.mem_update hMem with ⟨-, hNew⟩ | hOld
    · exact hRegular.steady m hNew
    · exact hFaithful.steadyOutbox w m hOld
  · intro w hOther m hMem
    rcases Mailbox.mem_update hMem with ⟨rfl, hNew⟩ | hOld
    · apply hRegular.others _ m hNew
      apply decide_eq_false
      rintro rfl
      exact hOther rfl
    · exact hFaithful.others w hOther m hOld
  · rw [hNoted]
    intro hCalm
    simp only [Bool.and_eq_true, Bool.not_eq_true',
      Bool.and_eq_false_iff] at hCalm
    refine
      hRegular.current ?_ _ (hFaithful.current hCalm.1)
    intro hRequests
    rcases hCalm.2 with hNot | hNone
    · rw [hRequests] at hNot
      cases hNot
    · simpa using hNone
  · intro hNone
    exact absurd (hStays.symm.trans hNone) (by simp)
  · intro b hb
    have hSame := hStays.symm.trans hb
    cases hSame
    exact hFaithful.periodic a hAdapter
  · rw [hNoted]
    by_cases hAsker : t = asker
    · subst hAsker
      have hServes := hFaithful.serves
      rw [pending, hIdle, List.append_nil] at hServes
      simp only [pending, Mailbox.State.called, program,
        Function.update_self, List.foldl_append, hView]
      rw [← hRegular.asks]
      exact hServes.foldl _
    · have hQuiet :=
        foldl_of_not_session
          (hRegular.others (decide_eq_false hAsker))
          (noted P evtMask standaloneOnly acts).asked
      rw [hRegular.asks] at hQuiet
      have hOutbox :
          (Function.update s.outbox (some t)
              ((called P evtMask standaloneOnly s.actor
                c).2.filterMap Said.msg)) (some asker) =
            s.outbox (some asker) :=
        Function.update_of_ne
          (fun h => hAsker (Option.some.inj h).symm) _ _
      simp only [hQuiet]
      simp only [pending, Mailbox.State.called, program]
      rw [hView, hOutbox]
      exact hFaithful.serves

/- A thread calls while there is none. -/
theorem faithful_called_absent
    (hFaithful :
      Faithful P evtMask standaloneOnly asker acts s)
    {t : T}
    {c : Call ρ F}
    (hFits : c.regular (decide (t = asker)) = true)
    (hAbsent : s.actor.eng.adapter = none) :
    Faithful P evtMask standaloneOnly asker
      (acts ++
        [.called t c
          (called P evtMask standaloneOnly s.actor c).2])
      (s.called (program P evtMask standaloneOnly)
        (some t) c) := by
  rcases hFaithful.absent hAbsent with
    ⟨hBox, hOutbox, hNothing, hRecords, hHanding⟩
  rcases called_of_absent P evtMask standaloneOnly hAbsent
      hHanding hRecords hFits with
    ⟨⟨hRecords, hHanding⟩, hEngine, hAfter⟩
  have hNoted :=
    noted_called hFaithful.state t c
      (called P evtMask standaloneOnly s.actor c).2
  rw [asks_of_absent standaloneOnly hAbsent, hNothing]
    at hNoted
  have hMine
      {w : Option T}
      {m : Msg ρ F}
      (hMem :
        m ∈
          (s.called (program P evtMask standaloneOnly)
            (some t) c).outbox w) :
      m.ofEngine := by
    rcases Mailbox.mem_update hMem with ⟨-, hNew⟩ | hOld
    · exact hEngine m hNew
    · rw [hOutbox w] at hOld
      cases hOld
  refine
    ⟨by rw [hNoted]; rfl, ?_, ?_, ?_, ?_, ?_, ?_, ?_⟩
  · exact hFaithful.steadyBox
  · exact fun w m hMem => (hMine hMem).steady
  · exact fun w _ m hMem => (hMine hMem).not_session
  · rw [hNoted]
    exact fun _ => current_of_none hRecords hHanding
  · intro hNone
    refine
      ⟨hBox, ?_, by rw [hNoted], hRecords, hHanding⟩
    rcases hAfter with ⟨-, hQuiet⟩ | hNew
    · intro w
      by_cases hSame : w = some t
      · subst hSame
        exact (Function.update_self _ _ _).trans hQuiet
      · exact
          (Function.update_of_ne hSame _ _).trans (hOutbox w)
    · exact absurd (hNew.symm.trans hNone) (by simp)
  · intro a ha
    rcases hAfter with ⟨hNone, -⟩ | hNew
    · exact absurd (hNone.symm.trans ha) (by simp)
    · cases hNew.symm.trans ha
      decide
  · rw [hNoted, foldl_of_not_session]
    · have hFix :
          (view
            (called P evtMask standaloneOnly s.actor
              c).1.eng).fix =
            false := by
        unfold view
        rcases hAfter with ⟨hNone, -⟩ | hNew
        · rw [hNone]
        · rw [hNew]
          rfl
      exact ⟨hFix, fun p hp => by cases hp⟩
    · intro m hMem
      rw [pending] at hMem
      rcases List.mem_append.mp hMem with hMem | hMem
      · have hEmpty :
            (s.called (program P evtMask standaloneOnly)
              (some t) c).box =
              [] := hBox
        rw [hEmpty] at hMem
        cases hMem
      · exact (hMine hMem).not_session

/- A thread passes on a message, which is taken. -/
theorem faithful_passed
    (hFaithful :
      Faithful P evtMask standaloneOnly asker acts s)
    {w : Option T}
    {m : Msg ρ F}
    {rest : List (Msg ρ F)}
    (hOutbox : s.outbox w = m :: rest) :
    Faithful P evtMask standaloneOnly asker
      (acts ++ [.passed w m true])
      { s with
        box := s.box ++ [(w, m)]
        outbox := Function.update s.outbox w rest } := by
  have hHead : m ∈ s.outbox w := by
    rw [hOutbox]
    exact List.mem_cons_self
  have hLess
      {v : Option T}
      {n : Msg ρ F}
      (hMem : n ∈ Function.update s.outbox w rest v) :
      n ∈ s.outbox v := by
    rcases Mailbox.mem_update hMem with ⟨rfl, hRest⟩ | hOld
    · rw [hOutbox]
      exact List.mem_cons_of_mem _ hRest
    · exact hOld
  have hNoted :
      noted P evtMask standaloneOnly
          (acts ++ [.passed w m true]) =
        noted P evtMask standaloneOnly acts :=
    noted_concat _ _ _ _ _
  refine
    ⟨by rw [hNoted]; exact hFaithful.state, ?_, ?_, ?_, ?_,
      ?_, hFaithful.periodic, ?_⟩
  · intro x hx
    rcases List.mem_append.mp hx with hx | hx
    · exact hFaithful.steadyBox x hx
    · rw [List.mem_singleton.mp hx]
      exact hFaithful.steadyOutbox w m hHead
  · exact fun v n hn => hFaithful.steadyOutbox v n (hLess hn)
  · exact
      fun v hv n hn => hFaithful.others v hv n (hLess hn)
  · rw [hNoted]
    exact hFaithful.current
  · intro hNone
    have hEmpty := (hFaithful.absent hNone).2.1 w
    rw [hOutbox] at hEmpty
    cases hEmpty
  · rw [hNoted]
    have hServes := hFaithful.serves
    rw [pending, List.foldl_append] at hServes ⊢
    simp only [List.map_append, List.map_cons, List.map_nil,
      List.foldl_append, List.foldl_cons, List.foldl_nil]
    by_cases hAsker : w = some asker
    · subst hAsker
      rw [hOutbox, List.foldl_cons] at hServes
      rw [Function.update_self]
      exact hServes
    · rw [Function.update_of_ne (Ne.symm hAsker),
        asks_of_not_session
          (hFaithful.others w hAsker m hHead)]
      exact hServes

/- The loop handles the next message. -/
theorem faithful_handled
    (hFaithful :
      Faithful P evtMask standaloneOnly asker acts s)
    {w : Option T}
    {m : Msg ρ F}
    {box : List (Option T × Msg ρ F)}
    (hBox : s.box = (w, m) :: box) :
    Faithful P evtMask standaloneOnly asker
      (acts ++
        [.handled w m
          (called P evtMask standaloneOnly s.actor
            (.proc m)).2])
      (Mailbox.State.called
        (program P evtMask standaloneOnly)
        { s with box := box } none (.proc m)) := by
  have hSteady : m.steady = true := by
    apply hFaithful.steadyBox (w, m)
    rw [hBox]
    exact List.mem_cons_self
  cases hAdapter : s.actor.eng.adapter with
  | none =>
      have hEmpty := (hFaithful.absent hAdapter).1
      rw [hBox] at hEmpty
      cases hEmpty
  | some a =>
      have hPeriodic := hFaithful.periodic a hAdapter
      have hEngine :
          ∀ n ∈
              (called P evtMask standaloneOnly s.actor
                (.proc m)).2.filterMap Said.msg,
            n.ofEngine := by
        cases m with
        | eng m => exact ofEngine_proc P evtMask _ m
        | setUlpProxy ulp => exact fun n hn => by cases hn
      have hNoted :
          noted P evtMask standaloneOnly
              (acts ++
                [.handled w m
                  (called P evtMask standaloneOnly s.actor
                    (.proc m)).2]) =
            { noted P evtMask standaloneOnly acts with
              state :=
                (called P evtMask standaloneOnly s.actor
                  (.proc m)).1 } := by
        rw [noted_concat, Noted.after, hFaithful.state]
      have hShows :
          Shows
            (called P evtMask standaloneOnly s.actor
              (.proc m)).1.eng.adapter
            (m.asks (view s.actor.eng)) := by
        cases m with
        | eng m =>
            simp only [called, onEngine, eng_settled]
            exact
              shows_proc P evtMask hPeriodic hAdapter hSteady
        | setUlpProxy ulp =>
            simp only [called, eng_settled]
            exact shows_view hAdapter hPeriodic
      refine
        ⟨by rw [hNoted]; rfl, ?_, ?_, ?_, ?_, ?_, ?_, ?_⟩
      · intro x hx
        apply hFaithful.steadyBox x
        rw [hBox]
        exact List.mem_cons_of_mem _ hx
      · intro v n hn
        rcases Mailbox.mem_update hn with ⟨-, hNew⟩ | hOld
        · exact (hEngine n hNew).steady
        · exact hFaithful.steadyOutbox v n hOld
      · intro v hv n hn
        rcases Mailbox.mem_update hn with ⟨-, hNew⟩ | hOld
        · exact (hEngine n hNew).not_session
        · exact hFaithful.others v hv n hOld
      · rw [hNoted]
        intro hCalm
        have hSettled := (hFaithful.current hCalm).settled
        cases m with
        | eng m => exact ⟨hSettled.1, hSettled.2⟩
        | setUlpProxy ulp =>
            exact hSettled.setUlpProxy hSteady
      · intro hNone
        rcases hShows.exists_adapter with ⟨b, hb, -⟩
        exact absurd (hb.symm.trans hNone) (by simp)
      · intro b hb
        rcases hShows.exists_adapter with ⟨c, hc, hOk, -⟩
        cases hc.symm.trans hb
        exact hOk
      · rw [hNoted]
        have hServes := hFaithful.serves
        rw [pending, hBox, List.map_cons, List.cons_append,
          List.foldl_cons] at hServes
        have hOutbox :
            (Function.update s.outbox none
                ((called P evtMask standaloneOnly s.actor
                  (.proc m)).2.filterMap Said.msg))
                (some asker) =
              s.outbox (some asker) :=
          Function.update_of_ne (by simp) _ _
        simp only [pending, Mailbox.State.called, program]
        rw [hOutbox]
        exact (hShows.alike.foldl _).serves hServes

theorem faithful_kept
    (asker : T)
    (P : Platform ν F)
    (evtMask : LocApiBase.EventMask)
    (standaloneOnly : Bool) :
    Mailbox.Kept
      (program (ρ := ρ) P evtMask standaloneOnly)
      (fits asker)
      (Faithful P evtMask standaloneOnly asker) where
  init := faithful_init P evtMask standaloneOnly asker
  called := by
    intro acts s t c hFaithful hIdle hFits
    cases hAdapter : s.actor.eng.adapter with
    | none =>
        exact
          faithful_called_absent hFaithful hFits hAdapter
    | some a =>
        exact faithful_called hFaithful hIdle hFits hAdapter
  passed hFaithful hOutbox := faithful_passed hFaithful hOutbox
  handled hFaithful _ hBox := faithful_handled hFaithful hBox

variable {A : Type} [DecidableEq A]

/- The engine and its proxy behind the task. -/
def onTask
    (A T : Type)
    [DecidableEq A]
    [DecidableEq T]
    (P : Platform ν F)
    (evtMask : LocApiBase.EventMask)
    (standaloneOnly : Bool) :
    Transducer
      (MsgTask.Serving.State A T (State ρ ν) (Msg ρ F))
      (MsgTask.Serving.Input A T (Call ρ F))
      (MsgTask.Serving.Output T (Call ρ F) (Msg ρ F)
        (Said ρ F)) :=
  MsgTask.Serving.system A T
    (program P evtMask standaloneOnly)

/-
  In every interleaving of the framework, the location API,
  the loop and new proxies in which one thread asks for
  sessions, the modem refuses none of them and the queue
  refuses nothing: whenever nothing waits the engine has a
  session if and only if one was asked for, with the criteria
  that were asked for last, but for their mode. The proxy in
  use has recorded what was asked for last, if no request has
  come while a proxy was being replaced.
-/
theorem session_follows_calls
    (P : Platform ν F)
    (evtMask : LocApiBase.EventMask)
    (standaloneOnly : Bool)
    (asker : T)
    (is : List (MsgTask.Serving.Input A T (Call ρ F)))
    (hLegal :
      History.Along
        (fun _ e => MsgTask.Serving.legal e = true)
        ((onTask A T P evtMask standaloneOnly).history is))
    (hTaken :
      ∀ a ∈
          MsgTask.Serving.acts
            ((onTask A T P evtMask
              standaloneOnly).history is),
        a.refused = false)
    (hCalls :
      ∀ t c,
        .call t c ∈ is →
          c.regular (decide (t = asker)) = true) :
    let s := (onTask A T P evtMask standaloneOnly).run is
    let x :=
      noted P evtMask standaloneOnly
        (MsgTask.Serving.acts
          ((onTask A T P evtMask standaloneOnly).history is))
    (x.calm = true → Records s.actor.mUlp x.asked) ∧
      (MsgTask.Serving.Drained s →
        Serves (view s.actor.eng) x.asked) := by
  have hFits :
      ∀ a ∈
          MsgTask.Serving.acts
            ((onTask A T P evtMask
              standaloneOnly).history is),
        fits asker a := by
    intro a hMem
    cases a with
    | called t c out =>
        exact
          hCalls t c (MsgTask.Serving.call_mem_of_called hMem)
    | _ => trivial
  rcases (MsgTask.Serving.refines (A := A) (T := T)
      (program P evtMask standaloneOnly)).run is hLegal with
    ⟨js, hPresents, hActs⟩
  change
    MsgTask.Serving.acts
        ((onTask A T P evtMask standaloneOnly).history is) =
      _ at hActs
  dsimp only
  rw [hActs] at hTaken hFits ⊢
  have hFaithful :=
    (faithful_kept asker P evtMask standaloneOnly).run js
      hTaken hFits
  have hActor :
      ((onTask A T P evtMask standaloneOnly).run is).actor =
        _ :=
    hPresents.actor
  refine ⟨?_, ?_⟩
  · rw [hActor]
    exact fun hCalm => (hFaithful.current hCalm).records
  · intro hDrained
    rcases MsgTask.Serving.idle_of_drained hPresents
        hDrained with
      ⟨hBox, hOutbox⟩
    have hServes := hFaithful.serves
    rw [pending, hBox, hOutbox] at hServes
    rw [hActor]
    exact hServes

/-
  A session is asked for with its criteria, while the loop
  sends and makes the settings of the modem. A new proxy
  comes, which the loop is giving the session.
-/
def askingRun :
    List (MsgTask.Serving.Input Nat Bool (Call Unit Unit)) :=
  [.call true
      (.direct (.init ⟨true, true, true, true⟩ false false)),
    .send (some true) (some 0),
    .send (some true) (some 1),
    .loop, .loop,
    .call true (.locSetPositionMode 1 0 500 50 0),
    .send (some true) (some 2),
    .call true (.locStart .success),
    .call false (.setUlpProxy .null),
    .send (some true) (some 3),
    .send (some false) (some 4)] ++
  (List.range 6).map (fun n => .send none (some (n + 5))) ++
  List.replicate 12 .loop ++
  List.replicate 2 (.call false .goOn) ++
  List.replicate 20 .loop

/- The engine in that run. -/
def asking :
    Transducer
      (MsgTask.Serving.State Nat Bool (State Unit Unit)
        (Msg Unit Unit))
      (MsgTask.Serving.Input Nat Bool (Call Unit Unit))
      (MsgTask.Serving.Output Bool (Call Unit Unit)
        (Msg Unit Unit) (Said Unit Unit)) :=
  onTask Nat Bool barePlatform 0#32 false

set_option maxRecDepth 8000 in
theorem session_follows_calls_askingRun :
    let s := asking.run askingRun
    let x :=
      noted barePlatform 0#32 false
        (MsgTask.Serving.acts (asking.history askingRun))
    x.asked =
        ⟨true, some ⟨.msBased, 0, 1000, 50, 0, [], []⟩⟩ ∧
      Records s.actor.mUlp x.asked ∧
        Serves (view s.actor.eng) x.asked := by
  have hFollows :=
    session_follows_calls barePlatform 0#32 false true
      askingRun (by decide) (by decide)
      (by
        intro t c hMem
        simp only [askingRun, List.cons_append,
          List.mem_cons, List.nil_append, List.mem_append,
          List.mem_map, List.mem_replicate, reduceCtorEq,
          and_false, exists_false, or_false, false_or,
          MsgTask.Serving.Input.call.injEq] at hMem
        rcases hMem with
          ⟨rfl, rfl⟩ | ⟨rfl, rfl⟩ | ⟨rfl, rfl⟩ |
            ⟨rfl, rfl⟩ | ⟨-, rfl, rfl⟩ <;>
          rfl)
  refine ⟨rfl, hFollows.1 rfl, hFollows.2 ?_⟩
  exact
    ⟨⟨_, _, rfl, rfl, rfl, rfl⟩,
      fun w => by rcases w with _ | _ | _ <;> rfl⟩

end Session

end Eng

end D2Common
