import D2Common.Agps.Nifs.Askers
import D2Common.Core.MsgTask.Served
import D2Common.DmnConn.ServerLoop
import D2Common.DmnConn.ServerProc

/-
  The daemon's connection from end to end.

  Clients write frames into the request pipe. The server
  thread takes them out one by one, and sends a message to
  the task of the engine for every request and release that
  it can serve. The task calls the machines with the message
  and the machines answer, at once or when the framework has
  brought a connection up or down. Modem, framework and data
  services reach the same machines all the while.

  Key definitions include:
    * `Service.program`
    * `Service.asked`
    * `Service.written`
    * `Service.Wanted`

  Key theorems include:
    * `Service.turn_cases`
    * `Service.requests_served_in_order`
    * `Service.answers_to_who_asked`
-/

------------------------------------------------------------
-- The Service
------------------------------------------------------------

namespace D2Common

namespace DmnConn

namespace Service

open Agps (Emission IPv6Addr Nifs)

/- The server thread over the request pipe, and the
machines. -/
structure State where
  thelper : Thelper (List UInt8)
  nifs : Nifs

/- What else reaches the machines. -/
abbrev Entry := { i : Nifs.Input // i.ofDaemon = false }

/-
  The messages of the task. `tail` is what lies behind the
  object that the engine builds for the client.
-/
inductive Msg where
  | reqRel (msg : LocMsg) (tail : IPv6Addr)
  | entry (i : Entry)

/-
  What a thread does: a client writes a frame, the server
  thread takes a turn with a buffer from `malloc`, and some
  other caller acts on the machines, at once or by a message.
-/
inductive Call (abi : Abi) where
  | write (f : Frame abi)
  | turn (mem : Mem) (tail : IPv6Addr)
  | entry (i : Entry)
  | post (i : Entry)
  | proc (m : Msg)

inductive Said where
  | sendMsg (m : Msg)
  | emission (em : Emission)

def Said.msg : Said → Option Msg
| .sendMsg m => some m
| .emission _ => none

/- What a turn of the thread has queued is sent. -/
def sendAll
    (tail : IPv6Addr)
    (outcomes : List (Outcome Unit)) : List Said :=
  outcomes.flatMap fun outcome =>
    outcome.sent.map fun sent => .sendMsg (.reqRel sent.2 tail)

/-
  A turn of the server thread. Before it has been launched
  there is none, and while the pipe is empty its read waits.
-/
def turn
    (abi : Abi)
    (s : State)
    (mem : Mem)
    (tail : IPv6Addr) : State × List Said :=
  if s.nifs.loc_api_handle.isNone ||
      s.thelper.context.isEmpty then
    (s, [])
  else
    let r :=
      (serverThread abi s.nifs.loc_api_handle []).step
        s.thelper mem
    ({ s with thelper := r.1 }, sendAll tail r.2)

/- The machines have been called. -/
def State.processed
    (s : State)
    (r : Nifs × List Emission) : State × List Said :=
  ({ s with nifs := r.1 }, r.2.map .emission)

def called
    (abi : Abi)
    (s : State) : Call abi → State × List Said
| .write f =>
    ({ s with
        thelper :=
          { s.thelper with
            context := s.thelper.context ++ f.bytes } },
      [])
| .turn mem tail => turn abi s mem tail
| .entry i => s.processed (Nifs.step abi s.nifs i.1)
| .post i => (s, [.sendMsg (.entry i)])
| .proc (.reqRel msg tail) =>
    s.processed (s.nifs.proc tail msg)
| .proc (.entry i) => s.processed (Nifs.step abi s.nifs i.1)

/- The service behind the task of the engine. -/
def program
    (abi : Abi) : Program State (Call abi) Msg Said where
  machine :=
    { init := ⟨⟨0, []⟩, Nifs.cleared⟩
      step := called abi }
  proc := .proc
  sends := Said.msg

end Service

end DmnConn

end D2Common

------------------------------------------------------------
-- Frames And Requests
------------------------------------------------------------

namespace D2Common

namespace DmnConn

namespace Service

open Agps (Emission IPv6Addr Nifs Subscriber)

variable {T : Type}
variable {abi : Abi}

/- What happens to the service and its threads. -/
abbrev Act (T : Type) (abi : Abi) :=
  Mailbox.Act T (Call abi) Msg Said

/- A frame that the buffer of a turn has room for. -/
def Fits (f : Frame abi) : Bool :=
  decide (f.msgsz ≤ sizeofBuffer abi)

/-
  What a frame asks for, if it is anything. The buffer is
  taken to be zero, as it does not count for the frames that
  leave no choice.
-/
def asked (f : Frame abi) : Option LocMsg :=
  message abi (Known.patch (fun _ => 0) 0 f.bytes)

def Act.writes : Act T abi → Option (Frame abi)
| .called _ (.write f) _ => some f
| _ => none

/- The frames that the clients have written. -/
def written (acts : List (Act T abi)) : List (Frame abi) :=
  acts.filterMap Act.writes

def Msg.request : Msg → Option LocMsg
| .reqRel msg _ => some msg
| .entry _ => none

/- The requests and releases that have been processed. -/
def processed (acts : List (Act T abi)) : List LocMsg :=
  (acts.filterMap Mailbox.Act.handling).filterMap
    fun x => x.2.request

/-
  Turns are taken by one thread, what clients write leaves
  no choice for the message, and messages are processed by
  the task only.
-/
def Proper
    (daemon : T)
    (t : T) : Call abi → Prop
| .turn _ _ => t = daemon
| .write f => Settled abi f.bytes
| .proc _ => False
| _ => True

def Regular
    (daemon : T) : Act T abi → Prop
| .called t c _ => Proper daemon t c
| _ => True

/- A request was written that this is the client of. -/
def Wanted
    (fs : List (Frame abi))
    (s : Subscriber) : Prop :=
  ∃ f ∈ fs, ∃ msg tail,
    asked f = some msg ∧ msg.mIsReq = true ∧
      s = (msg.client tail).subscriber

theorem message_eq_asked
    {f : Frame abi}
    (hSettled : Settled abi f.bytes)
    (mem : Mem) :
    message abi (Known.patch mem 0 f.bytes) = asked f :=
  Known.decided_iff_patch.mp
    (decided_message_iff.mpr hSettled) mem (fun _ => 0)

theorem dispatched_asked
    {f : Frame abi}
    (hSettled : Settled abi f.bytes)
    (mem : Mem) :
    dispatched () (f, mem) =
      .returned 0 ((asked f).map (Prod.mk ())).toList := by
  unfold dispatched
  rw [dispatch_some, message_eq_asked hSettled]

theorem bytes_ne_nil
    (f : Frame abi)
    (rest : List UInt8) :
    (f.bytes ++ rest).isEmpty = false := by
  have hLength := f.length_bytes
  have hWord := f.word_le
  have hPos : 0 < abi.word := by cases abi <;> decide
  cases hBytes : f.bytes with
  | nil =>
      rw [hBytes, List.length_nil] at hLength
      omega
  | cons b bytes => rfl

end Service

end DmnConn

end D2Common

------------------------------------------------------------
-- The Line Of Frames
------------------------------------------------------------

namespace D2Common

namespace DmnConn

namespace Service

open Agps (Emission IPv6Addr Nifs)

variable {T : Type}
variable {abi : Abi}

/- The bytes of frames one after the other. -/
def bytesOf (fs : List (Frame abi)) : List UInt8 :=
  fs.flatMap Frame.bytes

/-
  The thread with the frames that are still before it. A
  frame that does not fit has ended it.
-/
inductive Before :
    List (Frame abi) → Thelper (List UInt8) → Prop where
  | reading (fs : List (Frame abi)) :
      Before fs ⟨0, bytesOf fs⟩
  | ended
      (f : Frame abi)
      (fs : List (Frame abi))
      (hLarge : Fits f = false)
      (t : Thelper (List UInt8))
      (hExit : t.thread_exit ≠ 0) :
      Before (f :: fs) t

/-
  What a turn can do: nothing, take out the next frame and
  send what it asks for, or end at a frame that is too large.
-/
inductive Turn
    (fs : List (Frame abi))
    (s : State)
    (tail : IPv6Addr)
    (r : State × List Said) : Prop where
  | idle (hSame : r = (s, []))
  | took
      (f : Frame abi)
      (rest : List (Frame abi))
      (hFs : fs = f :: rest)
      (hFits : Fits f = true)
      (hState : r.1 = ⟨⟨0, bytesOf rest⟩, s.nifs⟩)
      (hSaid :
        r.2 =
          (asked f).toList.map fun msg =>
            .sendMsg (.reqRel msg tail))
  | stopped
      (hBefore : Before fs r.1.thelper)
      (hNifs : r.1.nifs = s.nifs)
      (hSaid : r.2 = [])

/- A turn leaves the machines alone. -/
theorem Turn.nifs
    {fs : List (Frame abi)}
    {s : State}
    {tail : IPv6Addr}
    {r : State × List Said}
    (hTurn : Turn fs s tail r) :
    r.1.nifs = s.nifs := by
  cases hTurn with
  | idle hSame => rw [hSame]
  | took f rest hFs hFits hState hSaid => rw [hState]
  | stopped hBefore hNifs hSaid => exact hNifs

/- What a turn tells is a message that a frame asks for. -/
theorem Turn.of_mem
    {fs : List (Frame abi)}
    {s : State}
    {tail : IPv6Addr}
    {r : State × List Said}
    (hTurn : Turn fs s tail r)
    {o : Said}
    (hMem : o ∈ r.2) :
    ∃ f ∈ fs, ∃ msg,
      asked f = some msg ∧ o = .sendMsg (.reqRel msg tail) := by
  cases hTurn with
  | idle hSame =>
      rw [hSame] at hMem
      cases hMem
  | stopped hBefore hNifs hSaid =>
      rw [hSaid] at hMem
      cases hMem
  | took f rest hFs hFits hState hSaid =>
      rw [hSaid] at hMem
      rcases List.mem_map.mp hMem with ⟨msg, hMsg, hEq⟩
      refine ⟨f, ?_, msg, Option.mem_toList.mp hMsg, hEq.symm⟩
      rw [hFs]
      exact List.mem_cons_self

theorem turn_cases
    {fs : List (Frame abi)}
    {s : State}
    (hBefore : Before fs s.thelper)
    (hSettled : ∀ f ∈ fs, Settled abi f.bytes)
    (mem : Mem)
    (tail : IPv6Addr) :
    Turn fs s tail (turn abi s mem tail) := by
  rcases s with ⟨t, e⟩
  unfold turn
  cases hHandle : e.loc_api_handle with
  | none => exact Turn.idle (by simp)
  | some handle =>
      cases hBefore with
      | ended f rest hLarge t hExit =>
          have hStay :
              (serverThread abi (some handle) []).step t mem =
                (t, []) :=
            if_pos hExit
          apply Turn.idle
          simp only [hStay]
          split <;> rfl
      | reading fs =>
          cases fs with
          | nil => exact Turn.idle (by simp [bytesOf])
          | cons f rest =>
              have hBytes :
                  bytesOf (f :: rest) =
                    f.bytes ++ bytesOf rest := rfl
              rw [hBytes]
              simp only [Option.isNone_some, Bool.false_or,
                bytes_ne_nil, Bool.false_eq_true, if_false]
              by_cases hFits : f.msgsz ≤ sizeofBuffer abi
              · have hStep :=
                  turn_of_le (d := (f, mem)) handle hFits []
                    (bytesOf rest)
                rw [hStep]
                refine
                  Turn.took f rest rfl
                    (decide_eq_true hFits) rfl ?_
                rw [dispatched_asked
                  (hSettled f List.mem_cons_self)]
                cases asked f <;> rfl
              · have hLarge : sizeofBuffer abi < f.msgsz :=
                  BitVec.not_le.mp hFits
                have hStep :=
                  turn_of_lt (d := (f, mem)) handle hLarge []
                    (bytesOf rest)
                rw [hStep]
                exact
                  Turn.stopped
                    (Before.ended f rest
                      (decide_eq_false hFits) _
                      (by decide : (1 : UInt8) ≠ 0))
                    rfl rfl

end Service

end DmnConn

end D2Common

------------------------------------------------------------
-- What A Run Keeps
------------------------------------------------------------

namespace D2Common

namespace DmnConn

namespace Service

open Agps (Emission IPv6Addr Nifs Subscriber)

variable {T : Type}
variable {abi : Abi}

theorem written_concat
    (acts : List (Act T abi))
    (a : Act T abi) :
    written (acts ++ [a]) =
      written acts ++ (Act.writes a).toList := by
  unfold written
  rw [List.filterMap_append]
  cases hWrites : Act.writes a <;> simp [hWrites]

/- A request that a message is about has been written. -/
def Msg.Asked
    (fs : List (Frame abi)) : Msg → Prop
| .reqRel msg _ => ∃ f ∈ fs, asked f = some msg
| .entry _ => True

theorem Msg.Asked.mono
    {fs gs : List (Frame abi)}
    {m : Msg}
    (hAsked : m.Asked fs)
    (hMore : ∀ f ∈ fs, f ∈ gs) :
    m.Asked gs := by
  cases m with
  | reqRel msg tail =>
      rcases hAsked with ⟨f, hf, hEq⟩
      exact ⟨f, hMore f hf, hEq⟩
  | entry i => trivial

theorem Wanted.mono
    {fs gs : List (Frame abi)}
    {s : Subscriber}
    (hWanted : Wanted fs s)
    (hMore : ∀ f ∈ fs, f ∈ gs) :
    Wanted gs s := by
  rcases hWanted with ⟨f, hf, hRest⟩
  exact ⟨f, hMore f hf, hRest⟩

/- What is said to clients, or in the name of a client, is
about clients that have asked. -/
def Justified
    (before : List (Act T abi))
    (a : Act T abi) : Prop :=
  ∀ em, .emission em ∈ a.out →
    em.Concerns (Wanted (written before))

variable [DecidableEq T]

/- The requests and releases that a thread has to send. -/
def requestsBy
    (w : Option T)
    (acts : List (Act T abi)) : List LocMsg :=
  (acts.flatMap (Mailbox.Act.sentBy (program abi) w)).filterMap
    Msg.request

theorem requestsBy_concat
    (w : Option T)
    (acts : List (Act T abi))
    (a : Act T abi) :
    requestsBy w (acts ++ [a]) =
      requestsBy w acts ++
        (a.sentBy (program abi) w).filterMap Msg.request := by
  unfold requestsBy
  rw [List.flatMap_append, List.filterMap_append,
    List.flatMap_singleton]

/-
  The frames before the thread are the last ones written. Of
  those it has taken out every one fitted, and the thread has
  had to send what they ask for. Nobody else has.
-/
structure Line
    (daemon : T)
    (acts : List (Act T abi))
    (s : State) : Prop where
  settled : ∀ f ∈ written acts, Settled abi f.bytes
  place :
    ∃ turned rest,
      written acts = turned ++ rest ∧
        (∀ f ∈ turned, Fits f = true) ∧
        Before rest s.thelper ∧
        requestsBy (some daemon) acts =
          turned.filterMap asked
  others :
    ∀ w, w ≠ some daemon → requestsBy w acts = []

variable {daemon : T}
variable {acts : List (Act T abi)}

/- An act that writes no frame. -/
theorem Line.concat
    {s s' : State}
    (hLine : Line daemon acts s)
    {a : Act T abi}
    (hWrites : Act.writes a = none)
    (hPlace :
      ∃ turned rest,
        written acts = turned ++ rest ∧
          (∀ f ∈ turned, Fits f = true) ∧
          Before rest s'.thelper ∧
          requestsBy (some daemon) acts ++
              (a.sentBy (program abi)
                (some daemon)).filterMap Msg.request =
            turned.filterMap asked)
    (hOthers :
      ∀ w, w ≠ some daemon →
        (a.sentBy (program abi) w).filterMap Msg.request =
          []) :
    Line daemon (acts ++ [a]) s' := by
  have hWritten : written (acts ++ [a]) = written acts := by
    rw [written_concat, hWrites]
    exact List.append_nil _
  constructor
  · rw [hWritten]
    exact hLine.settled
  · rw [hWritten, requestsBy_concat]
    exact hPlace
  · intro w hOther
    rw [requestsBy_concat, hLine.others w hOther,
      hOthers w hOther]
    rfl

/- An act that has nothing to do with the pipe. -/
theorem Line.quiet
    {s s' : State}
    (hLine : Line daemon acts s)
    {a : Act T abi}
    (hWrites : Act.writes a = none)
    (hSent :
      ∀ w,
        (a.sentBy (program abi) w).filterMap Msg.request =
          [])
    (hSame : s'.thelper = s.thelper) :
    Line daemon (acts ++ [a]) s' := by
  refine hLine.concat hWrites ?_ (fun w _ => hSent w)
  rw [hSame, hSent, List.append_nil]
  exact hLine.place

/- A client writes one frame more. -/
theorem Before.write
    {fs : List (Frame abi)}
    {t : Thelper (List UInt8)}
    (hBefore : Before fs t)
    (f : Frame abi) :
    Before (fs ++ [f])
      { t with context := t.context ++ f.bytes } := by
  cases hBefore with
  | reading fs =>
      have hBytes :
          bytesOf fs ++ f.bytes = bytesOf (fs ++ [f]) := by
        simp [bytesOf]
      dsimp only
      rw [hBytes]
      exact Before.reading (fs ++ [f])
  | ended g rest hLarge t hExit =>
      exact Before.ended g (rest ++ [f]) hLarge _ hExit

theorem line_write
    {s : State}
    (hLine : Line daemon acts s)
    (t : T)
    {f : Frame abi}
    (hSettled : Settled abi f.bytes) :
    Line daemon (acts ++ [.called t (.write f) []])
      (called abi s (.write f)).1 := by
  have hWritten :
      written (acts ++ [Mailbox.Act.called t (.write f) []]) =
        written acts ++ [f] :=
    written_concat acts _
  have hRequests (w : Option T) :
      requestsBy w
          (acts ++ [Mailbox.Act.called t (.write f) []]) =
        requestsBy w acts := by
    rw [requestsBy_concat]
    simp [Mailbox.Act.sentBy]
  rcases hLine.place with
    ⟨turned, rest, hAll, hFits, hPlace, hDaemon⟩
  constructor
  · rw [hWritten]
    intro g hg
    rcases List.mem_append.mp hg with hg | hg
    · exact hLine.settled g hg
    · rw [List.mem_singleton.mp hg]
      exact hSettled
  · refine
      ⟨turned, rest ++ [f], ?_, hFits, hPlace.write f,
        (hRequests _).trans hDaemon⟩
    rw [hWritten, hAll, List.append_assoc]
  · intro w hOther
    rw [hRequests]
    exact hLine.others w hOther

/- What a turn sends is all of one kind. -/
theorem filterMap_sent
    (msgs : List LocMsg)
    (tail : IPv6Addr) :
    ((msgs.map fun msg =>
            Said.sendMsg (.reqRel msg tail)).filterMap
        (program abi).sends).filterMap Msg.request =
      msgs := by
  rw [List.filterMap_map, List.filterMap_filterMap]
  exact List.filterMap_some

theorem line_turn
    {s : State}
    (hLine : Line daemon acts s)
    (mem : Mem)
    (tail : IPv6Addr) :
    Line daemon
      (acts ++
        [.called daemon (.turn mem tail)
          (turn abi s mem tail).2])
      (turn abi s mem tail).1 := by
  rcases hLine.place with
    ⟨turned, rest, hAll, hFits, hPlace, hDaemon⟩
  have hRest : ∀ f ∈ rest, Settled abi f.bytes := by
    intro f hf
    apply hLine.settled
    rw [hAll]
    exact List.mem_append_right _ hf
  have hOthers :
      ∀ w, w ≠ some daemon →
        ((Mailbox.Act.called daemon (.turn mem tail)
              (turn abi s mem tail).2 : Act T abi).sentBy
            (program abi) w).filterMap Msg.request =
          [] := by
    intro w hOther
    simp [Mailbox.Act.sentBy, Ne.symm hOther]
  refine hLine.concat rfl ?_ hOthers
  simp only [Mailbox.Act.sentBy, if_true, hDaemon]
  cases turn_cases hPlace hRest mem tail with
  | idle hSame =>
      rw [hSame]
      exact
        ⟨turned, rest, hAll, hFits, hPlace,
          List.append_nil _⟩
  | stopped hBefore hNifs hSaid =>
      rw [hSaid]
      exact
        ⟨turned, rest, hAll, hFits, hBefore,
          List.append_nil _⟩
  | took f rest' hRestEq hFit hState hSaid =>
      subst hRestEq
      refine ⟨turned ++ [f], rest', ?_, ?_, ?_, ?_⟩
      · rw [hAll, List.append_assoc]
        rfl
      · intro g hg
        rcases List.mem_append.mp hg with hg | hg
        · exact hFits g hg
        · rw [List.mem_singleton.mp hg]
          exact hFit
      · rw [hState]
        exact Before.reading rest'
      · rw [hSaid, filterMap_sent, List.filterMap_append]
        cases hAsked : asked f <;> simp [hAsked]

end Service

end DmnConn

end D2Common

------------------------------------------------------------
-- Where Everything Comes From
------------------------------------------------------------

namespace D2Common

namespace DmnConn

namespace Service

open Agps (Emission IPv6Addr Nifs)

variable {T : Type} [DecidableEq T]
variable {abi : Abi}
variable {daemon : T}
variable {acts : List (Act T abi)}

/-
  The messages under way and the clients on the lists of the
  machines go back to frames that have been written, and so
  does all that has been said to clients.
-/
structure Tended
    (daemon : T)
    (acts : List (Act T abi))
    (s : Mailbox.State T State Msg) : Prop where
  line : Line daemon acts s.actor
  box : ∀ x ∈ s.box, x.2.Asked (written acts)
  outbox : ∀ w, ∀ m ∈ s.outbox w, m.Asked (written acts)
  lists : Nifs.From (Wanted (written acts)) s.actor.nifs
  justified : History.Along Justified acts

/- One act more, after which nothing is new that does not go
back to the frames before it. -/
theorem Tended.concat
    {s s' : Mailbox.State T State Msg}
    (hTended : Tended daemon acts s)
    {a : Act T abi}
    (hLine : Line daemon (acts ++ [a]) s'.actor)
    (hBox : ∀ x ∈ s'.box, x.2.Asked (written acts))
    (hOutbox :
      ∀ w, ∀ m ∈ s'.outbox w, m.Asked (written acts))
    (hLists :
      Nifs.From (Wanted (written acts)) s'.actor.nifs)
    (hJustified : Justified acts a) :
    Tended daemon (acts ++ [a]) s' := by
  have hMore :
      ∀ f ∈ written acts, f ∈ written (acts ++ [a]) := by
    intro f hf
    rw [written_concat]
    exact List.mem_append_left _ hf
  exact
    ⟨hLine, fun x hx => (hBox x hx).mono hMore,
      fun w m hm => (hOutbox w m hm).mono hMore,
      hLists.mono (fun s hs => hs.mono hMore),
      (History.along_concat _ _).mpr
        ⟨hTended.justified, hJustified⟩⟩

/- The thread that has made a call has new messages to send. -/
theorem asked_update
    {s : Mailbox.State T State Msg}
    (hTended : Tended daemon acts s)
    (w : Option T)
    {said : List Said}
    (hSaid :
      ∀ m, .sendMsg m ∈ said → m.Asked (written acts)) :
    ∀ v,
      ∀ m ∈ Function.update s.outbox w
          (said.filterMap Said.msg) v,
        m.Asked (written acts) := by
  intro v m hm
  rcases Mailbox.mem_update hm with ⟨-, hNew⟩ | hOld
  · rcases List.mem_filterMap.mp hNew with ⟨o, ho, hMsg⟩
    cases o with
    | sendMsg m' =>
        cases hMsg
        exact hSaid _ ho
    | emission em => cases hMsg
  · exact hTended.outbox v m hOld

/- Machines send no messages to the task. -/
theorem filterMap_emissions
    (out : List Emission) :
    (out.map Said.emission).filterMap Said.msg = [] := by
  rw [List.filterMap_map, List.filterMap_eq_nil_iff]
  exact fun em _ => rfl

theorem mem_emissions
    {out : List Emission}
    {em : Emission}
    (hMem : Said.emission em ∈ out.map Said.emission) :
    em ∈ out := by
  rcases List.mem_map.mp hMem with ⟨em', hMem, hEq⟩
  cases hEq
  exact hMem

/- A caller that is not the daemon acts on the machines. -/
theorem tended_entry
    {s : Mailbox.State T State Msg}
    (hTended : Tended daemon acts s)
    (t : T)
    (i : Entry) :
    Tended daemon
      (acts ++
        [.called t (.entry i)
          (called abi s.actor (.entry i)).2])
      (s.called (program abi) (some t) (.entry i)) := by
  have hStep := Nifs.from_step abi hTended.lists i.2
  refine
    hTended.concat ?_ hTended.box
      (asked_update hTended _ ?_) hStep.1 ?_
  · refine hTended.line.quiet rfl ?_ rfl
    intro w
    simp only [Mailbox.Act.sentBy]
    split
    · change List.filterMap _ (List.filterMap Said.msg _) = []
      rw [called, State.processed, filterMap_emissions]
      rfl
    · rfl
  · intro m hm
    rcases List.mem_map.mp hm with ⟨em, -, hEq⟩
    cases hEq
  · intro em hMem
    exact hStep.2 em (mem_emissions hMem)

theorem tended_post
    {s : Mailbox.State T State Msg}
    (hTended : Tended daemon acts s)
    (t : T)
    (i : Entry) :
    Tended daemon
      (acts ++
        [.called t (.post i)
          (called abi s.actor (.post i)).2])
      (s.called (program abi) (some t) (.post i)) := by
  refine
    hTended.concat ?_ hTended.box
      (asked_update hTended _ ?_) hTended.lists ?_
  · refine hTended.line.quiet rfl ?_ rfl
    intro w
    simp only [Mailbox.Act.sentBy]
    split <;> rfl
  · intro m hm
    cases List.mem_singleton.mp hm
    trivial
  · intro em hMem
    cases List.mem_singleton.mp hMem

theorem tended_write
    {s : Mailbox.State T State Msg}
    (hTended : Tended daemon acts s)
    (t : T)
    {f : Frame abi}
    (hSettled : Settled abi f.bytes) :
    Tended daemon
      (acts ++
        [.called t (.write f)
          (called abi s.actor (.write f)).2])
      (s.called (program abi) (some t) (.write f)) := by
  refine
    hTended.concat (line_write hTended.line t hSettled)
      hTended.box (asked_update hTended _ ?_) hTended.lists ?_
  · intro m hm
    cases hm
  · intro em hMem
    cases hMem

theorem tended_turn
    {s : Mailbox.State T State Msg}
    (hTended : Tended daemon acts s)
    (mem : Mem)
    (tail : IPv6Addr) :
    Tended daemon
      (acts ++
        [.called daemon (.turn mem tail)
          (called abi s.actor (.turn mem tail)).2])
      (s.called (program abi) (some daemon)
        (.turn mem tail)) := by
  rcases hTended.line.place with
    ⟨turned, rest, hAll, -, hPlace, -⟩
  have hRest : ∀ f ∈ rest, f ∈ written acts := by
    rw [hAll]
    exact fun f hf => List.mem_append_right _ hf
  have hTurn :=
    turn_cases hPlace
      (fun f hf => hTended.line.settled f (hRest f hf)) mem
      tail
  refine
    hTended.concat (line_turn hTended.line mem tail)
      hTended.box (asked_update hTended _ ?_) ?_ ?_
  · intro m hm
    rcases hTurn.of_mem hm with ⟨f, hf, msg, hAsked, hEq⟩
    cases hEq
    exact ⟨f, hRest f hf, hAsked⟩
  · change
      Nifs.From (Wanted (written acts))
        (turn abi s.actor mem tail).1.nifs
    rw [hTurn.nifs]
    exact hTended.lists
  · intro em hMem
    rcases hTurn.of_mem hMem with ⟨f, -, msg, -, hEq⟩
    cases hEq

/- The task processes the next message. -/
theorem tended_handled
    {s : Mailbox.State T State Msg}
    (hTended : Tended daemon acts s)
    {w : Option T}
    {m : Msg}
    {box : List (Option T × Msg)}
    (hBox : s.box = (w, m) :: box) :
    Tended daemon
      (acts ++
        [.handled w m (called abi s.actor (.proc m)).2])
      (Mailbox.State.called (program abi)
        { s with box := box } none (.proc m)) := by
  have hAsked : m.Asked (written acts) := by
    apply hTended.box (w, m)
    rw [hBox]
    exact List.mem_cons_self
  have hProc :
      ∃ r : Nifs × List Emission,
        called abi s.actor (.proc m) = s.actor.processed r ∧
          Nifs.From (Wanted (written acts)) r.1 ∧
          ∀ em ∈ r.2, em.Concerns (Wanted (written acts)) := by
    cases m with
    | entry i =>
        exact ⟨_, rfl, Nifs.from_step abi hTended.lists i.2⟩
    | reqRel msg tail =>
        refine
          ⟨_, rfl, Nifs.from_proc hTended.lists tail ?_⟩
        rcases hAsked with ⟨f, hf, hEq⟩
        exact fun hReq => ⟨f, hf, msg, tail, hEq, hReq, rfl⟩
  rcases hProc with ⟨r, hEq, hLists, hSaid⟩
  have hStep :
      (program abi).machine.step s.actor (.proc m) =
        s.actor.processed r :=
    hEq
  refine hTended.concat ?_ ?_ (asked_update hTended _ ?_) ?_ ?_
  · refine hTended.line.quiet rfl ?_ ?_
    · intro v
      simp only [Mailbox.Act.sentBy]
      split
      · rw [hEq]
        change
          List.filterMap _ (List.filterMap Said.msg _) = []
        rw [State.processed, filterMap_emissions]
        rfl
      · rfl
    · simp only [Mailbox.State.called, hStep]
      rfl
  · intro x hx
    apply hTended.box x
    rw [hBox]
    exact List.mem_cons_of_mem _ hx
  · intro m' hm'
    change
      Said.sendMsg m' ∈ (called abi s.actor (.proc m)).2 at hm'
    rw [hEq] at hm'
    rcases List.mem_map.mp hm' with ⟨em, -, hNot⟩
    cases hNot
  · simp only [Mailbox.State.called, hStep]
    exact hLists
  · intro em hMem
    change
      Said.emission em ∈
        (called abi s.actor (.proc m)).2 at hMem
    rw [hEq] at hMem
    exact hSaid em (mem_emissions hMem)

theorem tended_passed
    {s : Mailbox.State T State Msg}
    (hTended : Tended daemon acts s)
    {w : Option T}
    {m : Msg}
    {rest : List Msg}
    (hOutbox : s.outbox w = m :: rest) :
    Tended daemon (acts ++ [.passed w m true])
      { s with
        box := s.box ++ [(w, m)]
        outbox := Function.update s.outbox w rest } := by
  have hAll : ∀ m' ∈ m :: rest, m'.Asked (written acts) := by
    rw [← hOutbox]
    exact hTended.outbox w
  refine
    hTended.concat
      (hTended.line.quiet rfl (fun _ => rfl) rfl) ?_ ?_
      hTended.lists ?_
  · intro x hx
    rcases List.mem_append.mp hx with hx | hx
    · exact hTended.box x hx
    · rw [List.mem_singleton.mp hx]
      exact hAll m List.mem_cons_self
  · intro v m' hm'
    rcases Mailbox.mem_update hm' with ⟨-, hRest⟩ | hOld
    · exact hAll m' (List.mem_cons_of_mem _ hRest)
    · exact hTended.outbox v m' hOld
  · intro em hMem
    cases hMem

theorem tended_init :
    Tended daemon ([] : List (Act T abi))
      ⟨(program abi).machine.init, [], fun _ => []⟩ where
  line :=
    { settled := by simp [written]
      place :=
        ⟨[], [], rfl, by simp, Before.reading [], rfl⟩
      others := fun _ _ => rfl }
  box := by simp
  outbox := by simp
  lists := Nifs.from_cleared
  justified := by
    intro before a after hSplit
    simp at hSplit

theorem tended_kept
    (abi : Abi)
    (daemon : T) :
    Mailbox.Kept (T := T) (program abi) (Regular daemon)
      (Tended daemon) where
  init := tended_init
  called := by
    intro acts s t i hTended _ hRegular
    cases i with
    | write f => exact tended_write hTended t hRegular
    | turn mem tail =>
        cases hRegular
        exact tended_turn hTended mem tail
    | entry i => exact tended_entry hTended t i
    | post i => exact tended_post hTended t i
    | proc m => exact hRegular.elim
  passed hTended hOutbox := tended_passed hTended hOutbox
  handled hTended _ hBox := tended_handled hTended hBox

end Service

end DmnConn

end D2Common

------------------------------------------------------------
-- From End To End
------------------------------------------------------------

namespace D2Common

namespace DmnConn

namespace Service

open Agps (Emission IPv6Addr Nifs)

section Runs

variable {A T : Type} [DecidableEq A] [DecidableEq T]
variable {abi : Abi}
variable {daemon : T}
variable {acts : List (Act T abi)}

/- The frames before the first that does not fit. -/
def served (fs : List (Frame abi)) : List (Frame abi) :=
  fs.takeWhile Fits

omit [DecidableEq T] in
/- What is asked for by the frames that are still to be
served, if any are. -/
theorem served_before
    {fs : List (Frame abi)}
    {t : Thelper (List UInt8)}
    (hBefore : Before fs t)
    (hDone : t.context = [] ∨ t.thread_exit ≠ 0) :
    served fs = [] := by
  cases hBefore with
  | ended f rest hLarge t hExit =>
      simp [served, hLarge]
  | reading fs =>
      cases fs with
      | nil => rfl
      | cons f rest =>
          rcases hDone with hEmpty | hExit
          · have hSome := bytes_ne_nil f (bytesOf rest)
            change f.bytes ++ bytesOf rest = [] at hEmpty
            rw [hEmpty] at hSome
            cases hSome
          · exact absurd rfl hExit

/- Only the server thread has sent what is processed. -/
theorem processed_eq
    {actor : State}
    {box : List (Option T × Msg)}
    {outbox : Option T → List Msg}
    (hOrderly :
      Mailbox.Orderly (program abi) acts actor box outbox)
    (hTaken : ∀ a ∈ acts, a.refused = false)
    (hOthers :
      ∀ w, w ≠ some daemon → requestsBy w acts = []) :
    processed acts =
      ((acts.filterMap Mailbox.Act.handling).filterMap
        (Mailbox.sender (some daemon))).filterMap
          Msg.request := by
  have hSender :
      ∀ x ∈ acts.filterMap Mailbox.Act.handling,
        x.2.request =
          (Mailbox.sender (some daemon) x).bind
            Msg.request := by
    rintro ⟨w, m⟩ hMem
    unfold Mailbox.sender
    by_cases hSame : w = some daemon
    · rw [if_pos hSame]
      rfl
    · rw [if_neg hSame]
      have hNone := hOthers w hSame
      unfold requestsBy at hNone
      rw [hOrderly.sent_eq hTaken w, List.filterMap_append]
        at hNone
      apply
        List.filterMap_eq_nil_iff.mp
          (List.append_eq_nil_iff.mp hNone).1 m
      exact
        List.mem_filterMap.mpr
          ⟨(w, m), hMem, if_pos rfl⟩
  exact
    (List.filterMap_congr hSender).trans
      List.filterMap_filterMap.symm

/- The service behind the queue of the task. -/
def onTask
    (A T : Type)
    [DecidableEq A]
    [DecidableEq T]
    (abi : Abi) :
    Transducer
      (MsgTask.Serving.State A T State Msg)
      (MsgTask.Serving.Input A T (Call abi))
      (MsgTask.Serving.Output T (Call abi) Msg Said) :=
  MsgTask.Serving.system A T (program abi)

/- All that the service and its threads do in a run. -/
def actsOf
    (is : List (MsgTask.Serving.Input A T (Call abi))) :
    List (Act T abi) :=
  MsgTask.Serving.acts ((onTask A T abi).history is)

theorem regular_of_proper
    {is : List (MsgTask.Serving.Input A T (Call abi))}
    (hProper : ∀ t c, .call t c ∈ is → Proper daemon t c) :
    ∀ a ∈ actsOf is, Regular daemon a := by
  intro a hMem
  cases a with
  | called t c out =>
      exact
        hProper t c
          (MsgTask.Serving.call_mem_of_called hMem)
  | handled w m out => trivial
  | passed w m taken => trivial

/- A run behind the queue is one behind a mailbox. -/
theorem tended_run
    (is : List (MsgTask.Serving.Input A T (Call abi)))
    (hLegal :
      History.Along
        (fun _ e => MsgTask.Serving.legal e = true)
        ((onTask A T abi).history is))
    (hTaken : ∀ a ∈ actsOf is, a.refused = false)
    (hProper : ∀ t c, .call t c ∈ is → Proper daemon t c) :
    ∃ s : Mailbox.State T State Msg,
      MsgTask.Serving.Presents ((onTask A T abi).run is) s ∧
        Mailbox.Orderly (program abi) (actsOf is) s.actor
          s.box s.outbox ∧
        Tended daemon (actsOf is) s := by
  have hRegular := regular_of_proper hProper
  rcases (MsgTask.Serving.refines (A := A) (T := T)
      (program abi)).run is hLegal with
    ⟨js, hPresents, hActs⟩
  change actsOf is = _ at hActs
  rw [hActs] at hTaken hRegular ⊢
  exact
    ⟨_, hPresents, Mailbox.orderly_run (program abi) js,
      (tended_kept abi daemon).run js hTaken hRegular⟩

/-
  In every interleaving of the clients, the server thread,
  the other callers and the task, in which the queue refuses
  nothing: what the task processes is, in order, what the
  frames of the clients ask for, each once and with its own
  contents, up to the first frame that the buffer of the
  thread has no room for. What is not processed still waits,
  and nothing does once the queue is empty, and the pipe is
  too or the thread has ended. Without a frame that is too
  large the thread does not end.
-/
theorem requests_served_in_order
    (is : List (MsgTask.Serving.Input A T (Call abi)))
    (hLegal :
      History.Along
        (fun _ e => MsgTask.Serving.legal e = true)
        ((onTask A T abi).history is))
    (hTaken : ∀ a ∈ actsOf is, a.refused = false)
    (hProper : ∀ t c, .call t c ∈ is → Proper daemon t c) :
    let s := (onTask A T abi).run is
    let t := s.actor.thelper
    ∃ waiting,
      (served (written (actsOf is))).filterMap asked =
          processed (actsOf is) ++ waiting ∧
        (MsgTask.Serving.Drained s →
          (t.context = [] ∨ t.thread_exit ≠ 0) →
            waiting = []) ∧
        ((∀ f ∈ written (actsOf is), Fits f = true) →
          t.thread_exit = 0) := by
  rcases tended_run is hLegal hTaken hProper with
    ⟨s, hPresents, hOrderly, hTended⟩
  rcases hTended.line.place with
    ⟨turned, rest, hAll, hFits, hPlace, hDaemon⟩
  dsimp only
  rw [hPresents.actor]
  have hServed :
      served (written (actsOf is)) = turned ++ served rest := by
    rw [hAll]
    exact List.takeWhile_append_of_pos hFits
  have hSent :
      turned.filterMap asked =
        processed (actsOf is) ++
          (s.box.filterMap (Mailbox.sender (some daemon)) ++
            s.outbox (some daemon)).filterMap
              Msg.request := by
    rw [← hDaemon,
      processed_eq hOrderly hTaken hTended.line.others,
      requestsBy, hOrderly.sent_eq hTaken (some daemon),
      List.filterMap_append]
  refine
    ⟨_, (by rw [hServed, List.filterMap_append, hSent,
      List.append_assoc]), ?_, ?_⟩
  · intro hDrained hDone
    rcases MsgTask.Serving.idle_of_drained hPresents hDrained
      with ⟨hBox, hOutbox⟩
    rw [hBox, hOutbox, served_before hPlace hDone]
    rfl
  · intro hRoom
    generalize s.actor.thelper = t at hPlace ⊢
    cases hPlace with
    | reading fs => rfl
    | ended f fs hLarge t hExit =>
        have hFit : Fits f = true := by
          apply hRoom f
          rw [hAll]
          exact List.mem_append_right _ List.mem_cons_self
        rw [hLarge] at hFit
        cases hFit

end Runs

/- The daemon asks for a connection to an address. -/
def bitRequest : Frame .ilp32 where
  msgsz := 44
  body :=
    [0, 0, 0, 0, 0, 0, 0, 0, 0xF0, 0, 0, 0,
      0, 0, 0, 0, 3, 0, 0, 0, 1, 2, 3, 4] ++
      List.replicate 16 7
  whole := by decide

/- The machines are made, and the request is served. -/
def bitRun :
    List
      (MsgTask.Serving.Input Nat Unit (Call .ilp32)) :=
  [.call () (.entry ⟨.agpsInit true true true, rfl⟩),
    .call () (.write bitRequest),
    .call () (.turn (fun _ => 0) (Vector.replicate 16 0)),
    .send (some ()) (some 0), .loop, .loop, .loop]

theorem bitRun_proper
    (t : Unit)
    (c : Call .ilp32)
    (hMem : .call t c ∈ bitRun) :
    Proper () t c := by
  simp only [bitRun, List.mem_cons,
    MsgTask.Serving.Input.call.injEq, reduceCtorEq,
    List.not_mem_nil, or_false] at hMem
  rcases hMem with ⟨-, rfl⟩ | ⟨-, rfl⟩ | ⟨-, rfl⟩
  · trivial
  · change Settled _ _
    decide
  · rfl

theorem requests_served_in_order_bitRun :
    let s := (onTask Nat Unit .ilp32).run bitRun
    let t := s.actor.thelper
    ∃ waiting,
      (served (written (actsOf bitRun))).filterMap asked =
          processed (actsOf bitRun) ++ waiting ∧
        (MsgTask.Serving.Drained s →
          (t.context = [] ∨ t.thread_exit ≠ 0) →
            waiting = []) ∧
        ((∀ f ∈ written (actsOf bitRun), Fits f = true) →
          t.thread_exit = 0) :=
  requests_served_in_order bitRun (by decide) (by decide)
    bitRun_proper

end Service

end DmnConn

end D2Common
