import D2Common.Agps.Nifs.Apn
import D2Common.Agps.Nifs.Releases

/-
  Where the clients of the daemon come from.

  A client of the daemon gets on the list of a machine only
  by a request message of its own, and stays there as it has
  asked. So whatever a machine says to a client of the
  daemon, or asks the framework for in its name, goes back
  to a request that was made.

  Key definitions include:
    * `Subscriber.sender`
    * `AllFrom`
    * `Emission.Concerns`

  Key theorems include:
    * `from_call`
    * `Nifs.from_step`
    * `Nifs.from_proc`
-/

------------------------------------------------------------
-- Clients Of The Daemon
------------------------------------------------------------

namespace D2Common

namespace Agps

/- Over whose pipe a subscriber is answered, if over one. -/
def Subscriber.sender : Subscriber → Option SenderId
| .bit _ _ => some .gpsoneDaemon
| .wifi _ _ senderId _ _ => some senderId
| _ => none

/- A status that gives neither an address nor a network. -/
def AGpsExtStatus.NamesNothing
    (ext : AGpsExtStatus) : Prop :=
  (ext.ipv4Addr = none ∨ ext.ipv4Addr = some inaddrNone) ∧
    ext.ssid = [] ∧ ext.password = []

/-
  What is said to a client of the daemon, or asked for in
  its name, is about a client with a property.
-/
def Emission.Concerns
    (P : Subscriber → Prop) : Emission → Prop
| .dataConn sender _ => ∃ s, P s ∧ s.sender = some sender
| .requestRsrc ext =>
    ext.NamesNothing ∨
      ∃ s, P s ∧
        ext = nifRequest ext.type ext.status (some s)
| _ => True

/-
  Every client of the daemon on a list was one with a
  property when it came.
-/
def AllFrom
    (P : Subscriber → Prop)
    (l : List Subscriber) : Prop :=
  ∀ s ∈ l, s.sender.isSome = true → P s.clone

variable {P : Subscriber → Prop}
variable {sm : AgpsStateMachine}

@[simp] theorem sender_clone
    (s : Subscriber) :
    s.clone.sender = s.sender := by
  cases s <;> rfl

@[simp] theorem sender_inactivated
    (s : Subscriber) :
    s.inactivated.sender = s.sender := by
  cases s <;> rfl

@[simp] theorem nifRequest_clone
    (type : AGpsExtType)
    (action : AGpsStatusValue)
    (s : Subscriber) :
    nifRequest type action (some s.clone) =
      nifRequest type action (some s) := by
  cases s <;>
    simp [nifRequest, Subscriber.clone,
      Subscriber.setIPAddresses, Subscriber.setWifiInfo,
      Function.comp_def]

/- A status for anyone else names nothing. -/
theorem namesNothing_of_sender
    {s : Subscriber}
    (hSender : s.sender = none)
    (type : AGpsExtType)
    (action : AGpsStatusValue) :
    (nifRequest type action (some s)).NamesNothing := by
  cases s with
  | atl id mode tail => exact ⟨Or.inr rfl, rfl, rfl⟩
  | ds id inactive => exact ⟨Or.inl rfl, rfl, rfl⟩
  | bit ipv4 ipv6 => cases hSender
  | wifi ssid password senderId inactive tail => cases hSender

/- An answer over a pipe goes to the one who is told. -/
theorem concerns_notice
    {s : Subscriber}
    (hFrom : s.sender.isSome = true → P s.clone)
    {addressee : Addressee}
    {st : AgpsRsrcStatus} :
    ∀ em ∈ s.notice addressee sm st, em.Concerns P := by
  intro em hMem
  rcases List.mem_cons.mp hMem with rfl | hAnswer
  · trivial
  · cases s with
    | bit ipv4 ipv6 =>
        have hOne : em.Concerns P := by
          cases st <;>
            simp only [Subscriber.answer,
              List.mem_singleton, List.not_mem_nil]
              at hAnswer <;>
            exact hAnswer ▸ ⟨_, hFrom rfl, rfl⟩
        exact hOne
    | wifi ssid password senderId inactive tail =>
        have hOne : em.Concerns P := by
          cases st <;>
            simp only [Subscriber.answer,
              List.mem_singleton, List.not_mem_nil]
              at hAnswer <;>
            exact hAnswer ▸ ⟨_, hFrom rfl, rfl⟩
        exact hOne
    | atl id mode tail =>
        cases st <;>
          simp only [Subscriber.answer, List.mem_singleton,
            List.not_mem_nil] at hAnswer <;>
          exact hAnswer ▸ trivial
    | ds id inactive =>
        cases st <;>
          simp only [Subscriber.answer, List.mem_singleton,
            List.not_mem_nil] at hAnswer <;>
          exact hAnswer ▸ trivial

theorem concerns_emitted
    (hList : AllFrom P sm.mSubscribers)
    {c : Call}
    (hCaller :
      ∀ s, c = .subscribeRsrc s →
        s.sender.isSome = true → P s.clone)
    {em : Emission}
    (hEmitted : Emitted sm c em) :
    em.Concerns P := by
  cases hEmitted with
  | notice s addressee st hWho hMem =>
      refine concerns_notice ?_ em hMem
      rcases hWho with hOn | hCall
      · exact hList s hOn
      · exact hCaller s hCall
  | farewell id => trivial
  | action action => trivial
  | dataCall hClass hOf =>
      cases em <;> trivial
  | status hPlain action s hWho =>
      cases s with
      | none => exact Or.inl ⟨Or.inr rfl, rfl, rfl⟩
      | some s =>
          cases hSender : s.sender with
          | none =>
              exact
                Or.inl (namesNothing_of_sender hSender _ _)
          | some senderId =>
              have hSome : s.sender.isSome = true := by
                rw [hSender]
                rfl
              refine
                Or.inr ⟨s.clone, ?_, (nifRequest_clone _ _ _).symm⟩
              rcases hWho s rfl with hOn | ⟨u, hCall, rfl⟩
              · exact hList s hOn hSome
              · rw [Subscriber.clone_clone]
                exact
                  hCaller u hCall
                    ((sender_clone u).symm ▸ hSome)

/- A call from a client with the property, or from no client
of the daemon. -/
theorem from_call
    (hList : AllFrom P sm.mSubscribers)
    {c : Call}
    (hCaller :
      ∀ s, c = .subscribeRsrc s →
        s.sender.isSome = true → P s.clone)
    (env : DataCall) :
    AllFrom P (sm.call env c).1.mSubscribers ∧
      ∀ em ∈ (sm.call env c).2, em.Concerns P := by
  rw [AgpsStateMachine.call_eq]
  constructor
  · refine
      (Roster.closed_all
        (P := fun s => s.sender.isSome = true → P s.clone)
        (fun s hs => by simpa using hs)).respond env hList ?_
    intro s hCall _ t ht
    rcases Roster.mem_added ht with rfl | hOn
    · simpa using hCaller s hCall
    · exact hList t hOn
  · intro em hMem
    exact
      concerns_emitted hList hCaller
        (Roster.emitted_respond sm env c em hMem)

end Agps

end D2Common

------------------------------------------------------------
-- The Engine
------------------------------------------------------------

namespace D2Common

namespace Agps

namespace Nifs

variable {P : Subscriber → Prop}
variable {e : Nifs}

/- All machines have clients with a property only. -/
def From
    (P : Subscriber → Prop)
    (e : Nifs) : Prop :=
  ∀ f, ∀ sm ∈ e.nif f, AllFrom P sm.mSubscribers

theorem from_cleared : From P cleared := by
  intro f sm hSm
  cases f <;> cases hSm

theorem From.mono
    {Q : Subscriber → Prop}
    (hFrom : From P e)
    (hImp : ∀ s, P s → Q s) :
    From Q e :=
  fun f sm hSm s hs hSender =>
    hImp _ (hFrom f sm hSm s hs hSender)

/- One machine is called, and the others are as before. -/
theorem from_of_call
    (hFrom : From P e)
    {g : NifField}
    {sm : AgpsStateMachine}
    (hList : AllFrom P sm.mSubscribers)
    {env : DataCall}
    {c : Call}
    (hCaller :
      ∀ s, c = .subscribeRsrc s →
        s.sender.isSome = true → P s.clone)
    {r : Nifs × List Emission}
    (hNif :
      ∀ f,
        r.1.nif f =
          if f = g then some (sm.call env c).1 else e.nif f)
    (hOut : r.2 = (sm.call env c).2) :
    From P r.1 ∧ ∀ em ∈ r.2, em.Concerns P := by
  rcases from_call hList hCaller env with ⟨hAfter, hSaid⟩
  constructor
  · intro f sm' hSm'
    rw [hNif] at hSm'
    split at hSm'
    · cases hSm'
      exact hAfter
    · exact hFrom f sm' hSm'
  · rw [hOut]
    exact hSaid

theorem concerns_of_lone
    {abi : DmnConn.Abi}
    {i : Input}
    {em : Emission}
    (hLone : Lone abi e i em) :
    em.Concerns P := by
  cases em <;> trivial

/-
  What is no message of the daemon brings none of its
  clients.
-/
theorem from_step
    (abi : DmnConn.Abi)
    (hFrom : From P e)
    {i : Input}
    (hOther : i.ofDaemon = false) :
    From P (step abi e i).1 ∧
      ∀ em ∈ (step abi e i).2, em.Concerns P := by
  cases turned_step abi e i with
  | called g sm env c hSm hGoes hUnopened hClient hOpened
      hMade hNif hOut =>
      refine from_of_call hFrom (hFrom g sm hSm) ?_ hNif hOut
      rintro s rfl hSender
      cases s with
      | bit ipv4 ipv6 => cases hOther.symm.trans hClient
      | wifi ssid password senderId inactive tail =>
          cases hOther.symm.trans hClient
      | atl id mode tail => cases hSender
      | ds id inactive => cases hSender
  | opened g sm env apn bearerType hSm hGoes hOpened hMade
      hNif hOut =>
      refine from_of_call hFrom ?_ ?_ hNif hOut
      · exact hFrom g sm hSm
      · intro s hs
        cases hs
  | alone hAbsent hOpened hMade hNif hOut =>
      constructor
      · intro f sm hSm
        rw [hNif] at hSm
        exact hFrom f sm hSm
      · exact fun em hMem => concerns_of_lone (hOut em hMem)
  | made hNowhere hOpened hNif hOut =>
      constructor
      · intro f sm hSm
        rw [hNif] at hSm
        split at hSm
        · cases hSm
          cases f <;> exact fun s hs => by cases hs
        · exact hFrom f sm hSm
      · rw [hOut]
        exact fun em hMem => by cases hMem
  | restarted hInput hStep =>
      rw [hStep]
      constructor
      · intro f sm' hSm'
        rcases nif_handleEngineUp hSm' with
          ⟨sm, hSm, rfl | rfl⟩
        · exact hFrom f _ hSm
        · exact fun s hs => by cases hs
      · exact fun em hMem => by cases hMem

/- A message of the daemon brings the client that it names. -/
theorem from_proc
    (hFrom : From P e)
    (tail : IPv6Addr)
    {msg : DmnConn.LocMsg}
    (hAsks :
      msg.mIsReq = true → P (msg.client tail).subscriber) :
    From P (e.proc tail msg).1 ∧
      ∀ em ∈ (e.proc tail msg).2, em.Concerns P := by
  cases hNif : e.nif msg.nif with
  | some sm =>
      rw [proc_eq hNif]
      refine
        from_of_call hFrom (hFrom msg.nif sm hNif) ?_
          (fun f => nif_returnedTo e msg.nif f _)
          (snd_returnedTo e msg.nif _)
      intro s hCall _
      cases hReq : msg.mIsReq with
      | false =>
          rw [hReq] at hCall
          cases hCall
      | true =>
          rw [hReq] at hCall
          cases hCall
          rw [Client.clone_subscriber]
          exact hAsks hReq
  | none =>
      cases msg with
      | reqRelBIT mType ipv4 ipv6 isReq =>
          have hNone : e.nif (nifOfType mType) = none := hNif
          simp only [proc, call, hNone]
          exact ⟨hFrom, fun em hMem => by cases hMem⟩
      | reqRelWifi mType senderId ssid password isReq =>
          have hNone : e.wifi_nif = none := hNif
          simp only [proc, hNone]
          refine ⟨hFrom, fun em hMem => ?_⟩
          rw [List.mem_singleton.mp hMem]
          trivial

end Nifs

end Agps

end D2Common
