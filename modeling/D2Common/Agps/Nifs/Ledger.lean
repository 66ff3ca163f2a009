import D2Common.Agps.Nifs.Members
import D2Common.Agps.Plain.Occupancy

/-
  The connections of the whole engine.

  The framework is told about three connections by machines
  that share every message. The file lifts what is known of
  a machine by itself to the engine: the ledger of each
  connection is in order whatever the modem, the daemon, the
  framework and the data services do to the others.

  Key theorems include:
    * `Nifs.connections_in_order`
    * `Nifs.machines_do_not_interfere`
-/

------------------------------------------------------------
-- Releases Follow Requests
------------------------------------------------------------

namespace D2Common

namespace Agps

namespace Plain

/- Every release comes right after a request. -/
def Alternates (told : List AGpsStatusValue) : Prop :=
  ∀ before after,
    told = before ++ .releaseAgpsDataConn :: after →
      before.getLast? = some .requestAgpsDataConn

theorem alternates_nil : Alternates [] := by
  intro before after hSplit
  simp at hSplit

theorem alternates_concat
    {told : List AGpsStatusValue}
    (hTold : Alternates told)
    {status : AGpsStatusValue}
    (hLast :
      status = .releaseAgpsDataConn →
        told.getLast? = some .requestAgpsDataConn) :
    Alternates (told ++ [status]) := by
  intro before after hSplit
  rcases List.eq_nil_or_concat after with
    rfl | ⟨after, last, rfl⟩
  · have hEq := List.append_inj' hSplit rfl
    have hStatus : status = .releaseAgpsDataConn := by
      simpa using hEq.2
    rw [← hEq.1]
    exact hLast hStatus
  · have hAssoc :
        told ++ [status] =
          (before ++ .releaseAgpsDataConn :: after) ++
            [last] := by
      simpa using hSplit
    exact hTold before after
      (List.append_inj' hAssoc rfl).1

/- A machine never lets go what it has not asked for. -/
theorem alternates_run
    (type : AGpsExtType)
    (single : Bool)
    (ops : List Op) :
    Alternates
      (statuses ((machine type single).history ops)) := by
  have hBoth :
      Said ((machine type single).history ops)
          ((machine type single).run ops) ∧
        Alternates
          (statuses ((machine type single).history ops)) := by
    apply (machine type single).history_induction_of_all
      (I := fun h sm => Said h sm ∧ Alternates (statuses h))
    · exact ⟨said_run type single [], alternates_nil⟩
    · rintro h sm op ⟨hSaid, hTold⟩
      have hStep := step_of_call hSaid.inv op
      have hAfter :=
        said_concat ((machine type single).event sm op)
          hSaid hStep
      refine ⟨hAfter, ?_⟩
      rw [statuses_concat]
      have hTalk := (talk_of_step hSaid.inv hStep).2
      change
        Alternates
          (statuses h ++
            (sm.call noDataCall op.call).2.filterMap
              statusOf)
      generalize
        (sm.call noDataCall op.call).2.filterMap statusOf =
          said at hTalk
      cases hTalk with
      | silent hNot hHolds hReleasing =>
          simpa using hTold
      | lapse hLapses hBefore hAfter => simpa using hTold
      | request hNot hBefore hAfter =>
          exact alternates_concat hTold
            (fun hStatus => by cases hStatus)
      | release hNot hBefore hAfter =>
          exact alternates_concat hTold
            (fun _ => hSaid.request hBefore)
  exact hBoth.2

end Plain

end Agps

end D2Common

------------------------------------------------------------
-- The Engine
------------------------------------------------------------

namespace D2Common

namespace Agps

namespace Nifs

variable {f : NifField}

/- WIFI clients are sent to the WIFI machine only. -/
theorem isAtlOrBit_of_asked
    (abi : DmnConn.Abi)
    (hCellular : f = .agnss_nif ∨ f = .internet_nif)
    {e : Nifs}
    {i : Input}
    {c : Client}
    (hAsked : .subscribeRsrc c ∈ asked abi f e i) :
    c.isAtlOrBit = true := by
  have hOther : NifField.wifi_nif ≠ f := by
    rcases hCellular with rfl | rfl <;> decide
  have hProc
      (tail : IPv6Addr)
      (msg : DmnConn.LocMsg)
      (hMem : .subscribeRsrc c ∈ askedByProc tail f msg) :
      c.isAtlOrBit = true := by
    cases msg with
    | reqRelBIT mType ipv4 ipv6 isReq =>
        simp only [askedByProc] at hMem
        split at hMem
        · cases isReq with
          | true =>
              cases List.mem_singleton.mp hMem
              rfl
          | false => cases List.mem_singleton.mp hMem
        · cases hMem
    | reqRelWifi mType senderId ssid password isReq =>
        simp [askedByProc, hOther] at hMem
  have hServed
      (tail : IPv6Addr)
      (outcome : DmnConn.Outcome Unit)
      (hMem :
        .subscribeRsrc c ∈ askedByServed tail f outcome) :
      c.isAtlOrBit = true := by
    unfold askedByServed at hMem
    split at hMem
    · exact hProc tail _ hMem
    · cases hMem
  have hEvent
      (agpsType : AGpsExtType)
      (event : AgpsRsrcStatus) :
      .subscribeRsrc c ∉
        askedByEvent e f agpsType event := by
    unfold askedByEvent
    split
    · split <;> simp
    · simp
  cases i with
  | requestATL mID mType tail env =>
      simp only [asked] at hAsked
      split at hAsked
      · cases List.mem_singleton.mp hAsked
        rfl
      · cases hAsked
  | queuedATL tail =>
      simp only [asked] at hAsked
      split at hAsked
      · split at hAsked
        · cases List.mem_singleton.mp hAsked
          rfl
        · cases hAsked
      · cases hAsked
  | releaseATL mID tail₁ tail₂ =>
      simp only [asked] at hAsked
      unfold askedByReleaseATL at hAsked
      rcases hCellular with rfl | rfl
      · simp at hAsked
      · simp only at hAsked
        split at hAsked <;> simp at hAsked
  | ifRequest pmsg len tail => exact hServed tail _ hAsked
  | ifRelease pmsg len tail => exact hServed tail _ hAsked
  | agpsOpen agpsType apn bearerType env =>
      simp only [asked] at hAsked
      unfold askedByOpen at hAsked
      split at hAsked
      · split at hAsked <;> simp at hAsked
      · cases hAsked
  | agpsClosed agpsType env =>
      exact absurd hAsked (hEvent agpsType .released)
  | agpsOpenFailed agpsType env =>
      exact absurd hAsked (hEvent agpsType .denied)
  | _ => cases hAsked

/-
  In every run of the engine in which no restart of the
  modem takes subscribers from a machine behind its back,
  the framework's account of the machine's connection is in
  order: a release comes only right after a request, the
  last word is the one that the machine's state stands for,
  and there is a subscriber exactly when there is a state to
  keep. The WIFI machine serves one client at a time, and
  only it ever waits for a connection to be closed.
-/
theorem connections_in_order
    (abi : DmnConn.Abi)
    (f : NifField)
    (hPlain : f ≠ .ds_nif)
    (is : List Input)
    (hUnharmed :
      History.Along (fun _ ev => Unharmed f ev)
        ((engine abi).history is)) :
    let told :=
      (member abi f).heard f.hears ((engine abi).history is)
    ∀ sm ∈ ((engine abi).run is).nif f,
      (sm.mStatePtr = .released ↔ sm.mSubscribers = []) ∧
        (sm.mStatePtr = .pending ∨
            sm.mStatePtr = .acquired →
          told.getLast? = some .requestAgpsDataConn) ∧
        (sm.mStatePtr = .releasing →
          told.getLast? = some .releaseAgpsDataConn) ∧
        (∀ before after,
          told = before ++ .releaseAgpsDataConn :: after →
            before.getLast? = some .requestAgpsDataConn) ∧
        (f = .wifi_nif → sm.mSubscribers.length ≤ 1) ∧
        (f ≠ .wifi_nif → sm.mStatePtr ≠ .releasing) := by
  intro told sm hSm
  rcases
      member_statuses abi f hPlain is hUnharmed sm hSm with
    ⟨hRun, hTold⟩
  have hSaid :=
    Plain.said_run f.type (f == .wifi_nif)
      ((member abi f).asks ((engine abi).history is))
  change Plain.Said _ (f.machine.run _) at hSaid
  rw [← hRun] at hSaid
  have hAlternates :=
    Plain.alternates_run f.type (f == .wifi_nif)
      ((member abi f).asks ((engine abi).history is))
  change
    Plain.Alternates
      (Plain.statuses (f.machine.history _)) at hAlternates
  rw [← hTold] at hAlternates
  refine
    ⟨hSaid.inv.empty, ?_, ?_, hAlternates, ?_, ?_⟩
  · intro hHolds
    exact (congrArg List.getLast? hTold).trans
      (hSaid.request hHolds)
  · intro hReleasing
    exact (congrArg List.getLast? hTold).trans
      (hSaid.release hReleasing)
  · rintro rfl
    apply hSaid.inv.single
    rw [hRun]
    exact Plain.mEnforceSingleSubscriber_run _ true _
  · intro hWifi
    rw [hRun]
    apply Plain.never_releasing
    intro c hMem
    rcases (member abi f).exists_of_mem_asks hMem with
      ⟨ev, -, hAsked⟩
    refine isAtlOrBit_of_asked abi ?_ hAsked
    cases f with
    | ds_nif => exact absurd rfl hPlain
    | wifi_nif => exact absurd rfl hWifi
    | agnss_nif => exact Or.inl rfl
    | internet_nif => exact Or.inr rfl

/- A handle that asks AGNSS for its connection and gets it. -/
def grantedRun : List Input :=
  [.agpsInit true true true,
    .requestATL 7 agpsTypeSupl (Vector.replicate 16 0)
      noDataCall,
    .agpsOpen agpsTypeSupl (some [105]) 1 noDataCall]

/- The same, and the handle gives the connection back. -/
def releasedRun : List Input :=
  [.agpsInit true true true,
    .requestATL 7 agpsTypeSupl (Vector.replicate 16 0)
      noDataCall,
    .agpsOpen agpsTypeSupl (some [105]) 1 noDataCall,
    .releaseATL 7 (Vector.replicate 16 0)
      (Vector.replicate 16 0)]

/- The first, with a WIFI client in between. -/
def busyRun : List Input :=
  [.agpsInit true true true,
    .requestATL 7 agpsTypeSupl (Vector.replicate 16 0)
      noDataCall,
    .ifRequest (fun _ => 0) 128 (Vector.replicate 16 0),
    .agpsOpen agpsTypeSupl (some [105]) 1 noDataCall]

theorem connections_in_order_released :
    let told :=
      (member .ilp32 .agnss_nif).heard
        NifField.agnss_nif.hears
        ((engine .ilp32).history releasedRun)
    told = [.requestAgpsDataConn, .releaseAgpsDataConn] ∧
      ∃ sm ∈
          ((engine .ilp32).run releasedRun).nif .agnss_nif,
        (sm.mStatePtr = .released ↔ sm.mSubscribers = []) ∧
          (sm.mStatePtr = .pending ∨
              sm.mStatePtr = .acquired →
            told.getLast? = some .requestAgpsDataConn) ∧
          (sm.mStatePtr = .releasing →
            told.getLast? = some .releaseAgpsDataConn) ∧
          (∀ before after,
            told = before ++ .releaseAgpsDataConn :: after →
              before.getLast? = some .requestAgpsDataConn) ∧
          (NifField.agnss_nif = .wifi_nif →
            sm.mSubscribers.length ≤ 1) ∧
          (NifField.agnss_nif ≠ .wifi_nif →
            sm.mStatePtr ≠ .releasing) :=
  ⟨rfl, _, rfl,
    connections_in_order .ilp32 .agnss_nif (by decide)
      releasedRun
      (unharmed_of_no_engineUp .ilp32 .agnss_nif
        (by simp [releasedRun]))
      _ rfl⟩

/-
  Two runs of the engine that ask the same of a machine
  leave it in the same state and have made the same requests
  of the framework for it, each with the same address and
  the same network, whatever else has happened in either.
-/
theorem machines_do_not_interfere
    (abi : DmnConn.Abi)
    (f : NifField)
    (hPlain : f ≠ .ds_nif)
    (is js : List Input)
    (hIs :
      History.Along (fun _ ev => Unharmed f ev)
        ((engine abi).history is))
    (hJs :
      History.Along (fun _ ev => Unharmed f ev)
        ((engine abi).history js))
    (hSame :
      (member abi f).asks ((engine abi).history is) =
        (member abi f).asks ((engine abi).history js)) :
    ∀ sm ∈ ((engine abi).run is).nif f,
      ∀ sm' ∈ ((engine abi).run js).nif f,
        sm = sm' ∧
          (member abi f).heard f.told
              ((engine abi).history is) =
            (member abi f).heard f.told
              ((engine abi).history js) := by
  intro sm hSm sm' hSm'
  have hOne := member_run abi f hPlain is hIs sm hSm
  have hTwo := member_run abi f hPlain js hJs sm' hSm'
  rw [hSame] at hOne
  exact
    ⟨hOne.1.trans hTwo.1.symm, hOne.2.trans hTwo.2.symm⟩

theorem machines_do_not_interfere_granted :
    ∃ sm ∈ ((engine .ilp32).run grantedRun).nif .agnss_nif,
      ∃ sm' ∈ ((engine .ilp32).run busyRun).nif .agnss_nif,
        sm = sm' ∧
          (member .ilp32 .agnss_nif).heard
              NifField.agnss_nif.told
              ((engine .ilp32).history grantedRun) =
            (member .ilp32 .agnss_nif).heard
              NifField.agnss_nif.told
              ((engine .ilp32).history busyRun) :=
  ⟨_, rfl, _, rfl,
    machines_do_not_interfere .ilp32 .agnss_nif (by decide)
      grantedRun busyRun
      (unharmed_of_no_engineUp .ilp32 .agnss_nif
        (by simp [grantedRun]))
      (unharmed_of_no_engineUp .ilp32 .agnss_nif
        (by simp [busyRun]))
      rfl _ rfl _ rfl⟩

end Nifs

end Agps

end D2Common
