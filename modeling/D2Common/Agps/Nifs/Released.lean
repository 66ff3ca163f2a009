import D2Common.Agps.Nifs.Calls
import D2Common.Agps.Nifs.Closing

/-
  Released emergency handles.

  A release in Pending, Acquired or Releasing leaves the
  record of the handle on the list of `ds_nif`, marked
  inactive. The Released state answers a release as well and
  leaves the record active, and so does an ATL machine that
  answers in its place. The file says which steps of the
  engine keep a released handle from being served again.

  Key definitions include:
    * `Nifs.Gone`
    * `Nifs.StaysOut`

  Key theorems include:
    * `Nifs.kept_step`
    * `Nifs.released_stays_released`
    * `Nifs.released_retried`
-/

------------------------------------------------------------
-- Traces
------------------------------------------------------------

namespace D2Common

namespace Agps

namespace Nifs

/-
  What a trace records: the emergency requests of the modem,
  as they are taken up, its releases that a machine answers,
  and everything the engine emits.
-/
inductive Mark where
  | requestSuplEs (mID : Handle)
  | released (mID : Handle)
  | emitted (e : Emission)
deriving DecidableEq

/- How a message of the modem is recorded. -/
def heads (ev : Event) : List Mark :=
  match ev.input with
  | .requestSuplEs mID _ => [.requestSuplEs mID]
  | .releaseATL mID _ _ =>
      if .atlCloseStatus mID 1 ∈ ev.output then
        [.released mID]
      else []
  | _ => []

def marks (ev : Event) : List Mark :=
  heads ev ++ ev.output.map .emitted

def trace (h : List Event) : List Mark :=
  h.flatMap marks

/- The modem asks for an emergency connection. -/
def Asks
    (mID : Handle)
    (x : Mark) : Prop :=
  x = .requestSuplEs mID

/- A release of the handle is answered with success. -/
def Released
    (mID : Handle)
    (x : Mark) : Prop :=
  x = .released mID

/- What must not be emitted for a released handle. -/
def Reaches
    (mID : Handle)
    (x : Mark) : Prop :=
  ∃ em, x = .emitted em ∧ em.reaches mID = true

/-
  The release of the handle has been answered, and the modem
  has not asked for the handle since.
-/
def Gone
    (mID : Handle)
    (l : List Mark) : Prop :=
  History.Open (Released mID) (Asks mID) l

/-
  A condition on the trace so far, the engine and an input
  holds at every input.
-/
def EveryStep
    (abi : DmnConn.Abi)
    (P : List Mark → Nifs → Input → Prop)
    (is : List Input) : Prop :=
  History.Along
    (fun before ev => P (trace before) ev.before ev.input)
    ((engine abi).history is)

theorem everyStep_nil
    {abi : DmnConn.Abi}
    {P : List Mark → Nifs → Input → Prop} :
    EveryStep abi P [] := History.along_nil

theorem everyStep_concat
    {abi : DmnConn.Abi}
    {P : List Mark → Nifs → Input → Prop}
    (is : List Input)
    (i : Input) :
    EveryStep abi P (is ++ [i]) ↔
      EveryStep abi P is ∧
        P (trace ((engine abi).history is))
          ((engine abi).run is) i := by
  unfold EveryStep
  rw [Transducer.history_concat, History.along_concat]
  rfl

end Nifs

end Agps

end D2Common

------------------------------------------------------------
-- Steps That Keep A Handle Out
------------------------------------------------------------

namespace D2Common

namespace Agps

namespace Nifs

/-
  The steps that keep a released handle out. The first field
  is about the release itself: as long as `ds_nif` serves
  the handle, it is `ds_nif` that the release has to reach,
  and not in Released. The others are about what can happen
  later.
-/
structure StaysOut
    (abi : DmnConn.Abi)
    (mID : Handle)
    (l : List Mark)
    (e : Nifs)
    (i : Input) : Prop where
  released :
    ∀ tail₁ tail₂, i = .releaseATL mID tail₁ tail₂ →
      ∀ sm ∈ e.ds_nif, sm.Serves mID →
        sm.mStatePtr ≠ .released ∧
          ¬ HasHandle e.agnss_nif mID ∧
          ¬ HasHandle e.internet_nif mID
  /- The call of `ds_nif` is not denied to the handle. -/
  denied :
    ∀ event,
      goesTo abi e i = some (.ds_nif, .onRsrcEvent event) →
        Gone mID l →
          ∀ sm ∈ e.ds_nif, sm.Denies event →
            mID ∉ handles sm.mSubscribers
  /- A retry finds the handle on the list, not Acquired. -/
  retried :
    ∀ env, i = .queuedRequest env →
      e.retryQueue.head? = some mID → Gone mID l →
        ∃ sm ∈ e.ds_nif,
          mID ∈ handles sm.mSubscribers ∧
            sm.mStatePtr ≠ .acquired
  /- A queued fallback finds no connection of AGNSS. -/
  fellBack :
    ∀ tail, i = .queuedATL tail →
      e.atlQueue.head? = some mID → Gone mID l →
        ∃ sm ∈ e.agnss_nif, sm.mStatePtr ≠ .acquired
  /- The modem asks for no other connection. -/
  requested :
    ∀ mType tail env, i = .requestATL mID mType tail env →
      ¬ Gone mID l
  /- The framework answers no machine that serves it. -/
  answered :
    ∀ g event, g ≠ .ds_nif →
      goesTo abi e i = some (g, .onRsrcEvent event) →
        event ≠ .released → Gone mID l →
          ∀ sm ∈ e.nif g, sm.mStatePtr = .pending →
            ¬ sm.Serves mID

/- What such steps keep. -/
structure Kept
    (mID : Handle)
    (l : List Mark)
    (e : Nifs) : Prop where
  between :
    History.Between (Released mID) (Asks mID) (Reaches mID) l
  unserved :
    Gone mID l → ∀ sm ∈ e.ds_nif, ¬ sm.Serves mID

end Nifs

end Agps

end D2Common

------------------------------------------------------------
-- Who Calls
------------------------------------------------------------

namespace D2Common

namespace Agps

namespace Nifs

variable {abi : DmnConn.Abi}
variable {e : Nifs}
variable {i : Input}

/- Where a client that is no BIT client comes from. -/
inductive Origin
    (e : Nifs)
    (i : Input)
    (g : NifField)
    (c : Call)
    (s : Subscriber) : Prop
  | asked
      (mType : AGpsExtType)
      (tail : IPv6Addr)
      (env : DataCall)
      (hInput : i = .requestATL s.ID mType tail env)
  | emergency
      (env : DataCall)
      (hInput : i = .requestSuplEs s.ID env)
  | retried
      (env : DataCall)
      (hInput : i = .queuedRequest env)
      (hHead : e.retryQueue.head? = some s.ID)
      (hField : g = .ds_nif)
  | fellBack
      (tail : IPv6Addr)
      (hInput : i = .queuedATL tail)
      (hHead : e.atlQueue.head? = some s.ID)
      (hField : g = .agnss_nif)
  | leaving
      (hCall : c = .unsubscribeRsrc s)
      (hThere : (e.nif g).isSome = true)
  | daemon
      (hField : g = .wifi_nif)
      (hKind : s.isAtlOrDS = false)
      (hHandle : e.loc_api_handle.isSome = true)

theorem isSome_of_unsubscribed
    {nif : Option AgpsStateMachine}
    {s : Subscriber}
    {r : AgpsStateMachine × List Emission}
    (hLeft : LocEng.unsubscribed nif s = some r) :
    nif.isSome = true := by
  rcases call_of_unsubscribed hLeft with ⟨sm, rfl, -⟩
  rfl

theorem origin_of_releaseATL
    {mID : Handle}
    {tail₁ tail₂ : IPv6Addr}
    {g : NifField}
    {c : Call}
    {s : Subscriber}
    (hGoes :
      goesToByReleaseATL e mID tail₁ tail₂ = some (g, c))
    (hClient : clientOf c = some s) :
    Origin e i g c s := by
  unfold goesToByReleaseATL at hGoes
  split at hGoes
  · next r hLeft =>
      cases hGoes
      cases hClient
      exact Origin.leaving rfl (isSome_of_unsubscribed hLeft)
  · split at hGoes
    · next r hLeft =>
        cases hGoes
        cases hClient
        exact
          Origin.leaving rfl (isSome_of_unsubscribed hLeft)
    · split at hGoes
      · next r hLeft =>
          cases hGoes
          cases hClient
          exact
            Origin.leaving rfl (isSome_of_unsubscribed hLeft)
      · cases hGoes

theorem origin_of_served
    {tail : IPv6Addr}
    {outcome : DmnConn.Outcome Unit}
    {g : NifField}
    {c : Call}
    {s : Subscriber}
    (hGoes : goesToByServed tail outcome = some (g, c))
    (hClient : clientOf c = some s)
    (hBit : s.isBit = false)
    (hSent :
      outcome.sent ≠ [] → e.loc_api_handle.isSome = true) :
    Origin e i g c s := by
  unfold goesToByServed at hGoes
  split at hGoes
  · next msg rest hOutcome =>
      have hHandle := hSent (by simp [hOutcome])
      cases msg with
      | reqRelBIT mType ipv4 ipv6 isReq =>
          cases hGoes
          cases isReq <;> cases hClient <;> cases hBit
      | reqRelWifi mType senderId ssid password isReq =>
          cases hGoes
          cases isReq <;> cases hClient <;>
            exact Origin.daemon rfl rfl hHandle
  · cases hGoes

/- Without a handle for its engine the daemon sends nothing. -/
theorem sent_ifRelease_none
    (pmsg : DmnConn.Mem)
    (len : Int) :
    (DmnConn.ifReleaseHandler abi (none : Option Unit) pmsg
      len).sent = [] := by
  unfold DmnConn.ifReleaseHandler DmnConn.ifReqRel
  split
  · rfl
  · split <;> rfl

theorem origin_of_goesTo
    {g : NifField}
    {c : Call}
    {s : Subscriber}
    (hGoes : goesTo abi e i = some (g, c))
    (hClient : clientOf c = some s)
    (hBit : s.isBit = false) :
    Origin e i g c s := by
  cases i with
  | requestATL mID mType tail env =>
      cases hGoes
      cases hClient
      exact Origin.asked mType tail env rfl
  | queuedATL tail =>
      rcases Option.map_eq_some_iff.mp hGoes with
        ⟨mID, hHead, hGoes⟩
      cases hGoes
      cases hClient
      exact Origin.fellBack tail rfl hHead rfl
  | releaseATL mID tail₁ tail₂ =>
      exact origin_of_releaseATL hGoes hClient
  | requestSuplEs mID env =>
      cases hGoes
      cases hClient
      exact Origin.emergency env rfl
  | queuedRequest env =>
      rcases Option.map_eq_some_iff.mp hGoes with
        ⟨mID, hHead, hGoes⟩
      cases hGoes
      cases hClient
      exact Origin.retried env rfl hHead rfl
  | suplEsOpened =>
      cases hGoes
      cases hClient
  | suplEsClosed env =>
      cases hGoes
      cases hClient
  | ifRequest pmsg len tail =>
      apply origin_of_served hGoes hClient hBit
      intro hSent
      cases hHandle : e.loc_api_handle with
      | none =>
          rw [hHandle] at hSent
          exact absurd rfl hSent
      | some locEng => rfl
  | ifRelease pmsg len tail =>
      apply origin_of_served hGoes hClient hBit
      intro hSent
      cases hHandle : e.loc_api_handle with
      | none =>
          rw [hHandle, sent_ifRelease_none] at hSent
          exact absurd rfl hSent
      | some locEng => rfl
  | agpsOpen agpsType apn bearerType env =>
      simp only [goesTo] at hGoes
      split at hGoes <;> cases hGoes
      cases hClient
  | agpsClosed agpsType env =>
      simp only [goesTo] at hGoes
      split at hGoes <;> cases hGoes
      cases hClient
  | agpsOpenFailed agpsType env =>
      simp only [goesTo] at hGoes
      split at hGoes <;> cases hGoes
      cases hClient
  | _ => cases hGoes

end Nifs

end Agps

end D2Common

------------------------------------------------------------
-- What Every Engine Satisfies
------------------------------------------------------------

namespace D2Common

namespace Agps

namespace Nifs

variable {abi : DmnConn.Abi}
variable {e : Nifs}

/-
  The list of Released has active clients only, and whoever
  gives the daemon its handle has made the WIFI machine.
-/
structure Settled (e : Nifs) : Prop where
  inv : Inv e
  resting : ∀ f, ∀ sm ∈ e.nif f, Roster.Resting sm
  launched :
    e.loc_api_handle.isSome = true →
      e.wifi_nif.isSome = true

theorem settled_cleared : Settled cleared where
  inv := inv_cleared
  resting := by
    intro f sm hSm
    cases f <;> cases hSm
  launched := by
    intro hHandle
    cases hHandle

theorem resting_call
    {sm : AgpsStateMachine}
    (hResting : Roster.Resting sm)
    (env : DataCall)
    (c : Call) :
    Roster.Resting (sm.call env c).1 := by
  rw [AgpsStateMachine.call_eq]
  exact Roster.resting_respond env c hResting

theorem resting_step
    (hResting : ∀ f, ∀ sm ∈ e.nif f, Roster.Resting sm)
    (i : Input) :
    ∀ f, ∀ sm ∈ (step abi e i).1.nif f,
      Roster.Resting sm := by
  intro f sm' hSm'
  cases turned_step abi e i with
  | called g sm env c hSm hGoes hUnopened hClient hOpened
      hMade hNif hOut =>
      rw [hNif] at hSm'
      split at hSm'
      · cases hSm'
        exact resting_call (hResting g sm hSm) env c
      · exact hResting f sm' hSm'
  | opened g sm env apn bearerType hSm hGoes hOpened hMade
      hNif hOut =>
      rw [hNif] at hSm'
      split at hSm'
      · cases hSm'
        have hGiven :
            Roster.Resting (given sm apn bearerType) :=
          hResting g sm hSm
        exact resting_call hGiven env _
      · exact hResting f sm' hSm'
  | alone hAbsent hOpened hMade hNif hOut =>
      rw [hNif] at hSm'
      exact hResting f sm' hSm'
  | made hNowhere hOpened hNif hOut =>
      rw [hNif] at hSm'
      split at hSm'
      · cases hSm'
        intro _ t ht
        cases f <;> cases ht
      · exact hResting f sm' hSm'
  | restarted hInput hStep =>
      rw [hStep] at hSm'
      rcases nif_handleEngineUp hSm' with
        ⟨sm, hSm, rfl | rfl⟩
      · exact hResting f _ hSm
      · intro _ t ht
        cases ht

@[simp] theorem loc_api_handle_call
    (e : Nifs)
    (f : NifField)
    (env : DataCall)
    (c : Call) :
    (e.call f env c).1.loc_api_handle =
      e.loc_api_handle := by
  unfold call
  split
  · simp
  · rfl

@[simp] theorem loc_api_handle_served
    (e : Nifs)
    (tail : IPv6Addr)
    (outcome : DmnConn.Outcome Unit) :
    (e.served tail outcome).1.loc_api_handle =
      e.loc_api_handle := by
  unfold served
  split
  · next msg rest hSent =>
      cases msg with
      | reqRelBIT mType ipv4 ipv6 isReq => simp [proc]
      | reqRelWifi mType senderId ssid password isReq =>
          simp only [proc]
          split
          · simp
          · rfl
  · rfl

/- Only `loc_eng_agps_init` gives the daemon a handle. -/
theorem loc_api_handle_step
    (i : Input)
    (hOther : ∀ s h m, i ≠ .agpsInit s h m) :
    (step abi e i).1.loc_api_handle = e.loc_api_handle := by
  cases i with
  | agpsInit statusCb hasAgnss supports =>
      exact absurd rfl (hOther statusCb hasAgnss supports)
  | dataClientInit result =>
      simp only [step, dataClientInit]
      split <;> rfl
  | requestATL mID mType tail env =>
      simp only [step, requestATL]
      split
      · simp
      · rfl
  | queuedATL tail =>
      simp only [step, queuedATL, requestATL]
      split
      · split
        · simp
        · rfl
      · rfl
  | releaseATL mID tail₁ tail₂ =>
      simp only [step, releaseATL]
      split
      · simp
      · split
        · simp
        · split
          · simp
          · rfl
  | ifRequest pmsg len tail => simp [step]
  | ifRelease pmsg len tail => simp [step]
  | agpsOpen agpsType apn bearerType env =>
      simp only [step, agpsOpen]
      split
      · simp
      · rfl
  | agpsClosed agpsType env =>
      simp only [step, agpsClosed, agpsEvent]
      split
      · simp
      · rfl
  | agpsOpenFailed agpsType env =>
      simp only [step, agpsOpenFailed, agpsEvent]
      split
      · simp
      · rfl
  | _ => rfl

/- Machines that are there stay there. -/
theorem isSome_step
    (i : Input)
    (f : NifField)
    (hThere : (e.nif f).isSome = true) :
    ((step abi e i).1.nif f).isSome = true := by
  cases turned_step abi e i with
  | called g sm env c hSm hGoes hUnopened hClient hOpened
      hMade hNif hOut =>
      rw [hNif]
      split
      · rfl
      · exact hThere
  | opened g sm env apn bearerType hSm hGoes hOpened hMade
      hNif hOut =>
      rw [hNif]
      split
      · rfl
      · exact hThere
  | alone hAbsent hOpened hMade hNif hOut =>
      rw [hNif]
      exact hThere
  | made hNowhere hOpened hNif hOut =>
      rw [hNif]
      split
      · rfl
      · exact hThere
  | restarted hInput hStep =>
      rw [hStep]
      unfold handleEngineUp Engine.handleEngineUp
      cases f with
      | ds_nif => exact hThere
      | wifi_nif => exact hThere
      | agnss_nif =>
          simp only [nif] at hThere ⊢
          split
          · simpa using hThere
          · exact hThere
      | internet_nif =>
          simp only [nif] at hThere ⊢
          split
          · simpa using hThere
          · exact hThere

theorem settled_step
    (hSettled : Settled e)
    (i : Input) :
    Settled (step abi e i).1 where
  inv := inv_step abi hSettled.inv i
  resting := resting_step hSettled.resting i
  launched := by
    intro hHandle
    cases i with
    | agpsInit statusCb hasAgnss supports =>
        simp only [step, agpsInit] at hHandle ⊢
        split at hHandle
        · next hCallback =>
            rw [if_pos hCallback]
            exact hSettled.launched hHandle
        · next hCallback =>
            rw [if_neg hCallback]
            rfl
    | _ =>
        rw [loc_api_handle_step _ (by simp)] at hHandle
        exact
          isSome_step _ .wifi_nif (hSettled.launched hHandle)

end Nifs

end Agps

end D2Common

------------------------------------------------------------
-- Gone Handles
------------------------------------------------------------

namespace D2Common

namespace Agps

namespace Nifs

variable {mID : Handle}
variable {l : List Mark}
variable {ev : Event}

theorem mem_heads
    {x : Mark}
    (hx : x ∈ heads ev) :
    (∃ id env, ev.input = .requestSuplEs id env ∧
        x = .requestSuplEs id) ∨
      ∃ id tail₁ tail₂,
        ev.input = .releaseATL id tail₁ tail₂ ∧
          .atlCloseStatus id 1 ∈ ev.output ∧
            x = .released id := by
  unfold heads at hx
  split at hx
  · next id env hInput =>
      exact
        Or.inl ⟨id, env, hInput, List.mem_singleton.mp hx⟩
  · next id tail₁ tail₂ hInput =>
      split at hx
      · next hClosed =>
          exact
            Or.inr
              ⟨id, tail₁, tail₂, hInput, hClosed,
                List.mem_singleton.mp hx⟩
      · cases hx
  · cases hx

/-
  The handle is gone once the messages of a step have been
  recorded if the step answers its release, or if it was
  gone and the modem does not ask for it.
-/
theorem gone_heads
    (hGone : Gone mID (l ++ heads ev)) :
    (∃ tail₁ tail₂,
        ev.input = .releaseATL mID tail₁ tail₂ ∧
          .atlCloseStatus mID 1 ∈ ev.output) ∨
      (Gone mID l ∧
        ∀ env, ev.input ≠ .requestSuplEs mID env) := by
  rcases (History.open_append _ _).mp hGone with
    ⟨before, x, after, hSplit, rfl, -⟩ | ⟨hGone, hAsked⟩
  · left
    have hMem : Mark.released mID ∈ heads ev := by
      simp [hSplit]
    rcases mem_heads hMem with
      ⟨id, env, -, hEq⟩ |
        ⟨id, tail₁, tail₂, hInput, hClosed, hEq⟩
    · cases hEq
    · cases hEq
      exact ⟨tail₁, tail₂, hInput, hClosed⟩
  · right
    refine ⟨hGone, ?_⟩
    intro env hInput
    exact hAsked _ (by simp [heads, hInput]) rfl

/- What is emitted opens and closes nothing. -/
theorem gone_marks
    (hGone : Gone mID (l ++ marks ev)) :
    Gone mID (l ++ heads ev) := by
  unfold marks at hGone
  rw [← List.append_assoc] at hGone
  rcases (History.open_append _ _).mp hGone with
    hOpen | ⟨hGone, -⟩
  · refine absurd hOpen (History.not_open_of_forall_not ?_)
    rintro x hx rfl
    rcases List.mem_map.mp hx with ⟨em, -, hEq⟩
    cases hEq
  · exact hGone

/-
  A step keeps a handle out if nothing it emits reaches the
  handle when that is gone.
-/
theorem between_marks
    (hBetween :
      History.Between (Released mID) (Asks mID)
        (Reaches mID) l)
    (hSilent :
      Gone mID (l ++ heads ev) →
        ∀ em ∈ ev.output, ¬ em.reaches mID = true) :
    History.Between (Released mID) (Asks mID) (Reaches mID)
      (l ++ marks ev) := by
  unfold marks
  rw [← List.append_assoc]
  apply History.between_append_of_not_open
  · apply History.between_append_of_not_open hBetween
    rintro ⟨x, hx, em, rfl, -⟩
    rcases mem_heads hx with
      ⟨id, env, -, hEq⟩ | ⟨id, tail₁, tail₂, -, -, hEq⟩ <;>
      cases hEq
  · rintro ⟨x, hx, em, rfl, hReaches⟩
    rcases List.mem_map.mp hx with ⟨em', hem, hEq⟩
    cases hEq
    refine ⟨fun hGone => hSilent hGone em hem hReaches, ?_⟩
    rintro y hy rfl
    rcases List.mem_map.mp hy with ⟨em'', -, hEq⟩
    cases hEq

end Nifs

end Agps

end D2Common

------------------------------------------------------------
-- The Release
------------------------------------------------------------

namespace D2Common

namespace Agps

namespace Nifs

variable {abi : DmnConn.Abi}
variable {mID : Handle}
variable {l : List Mark}
variable {e : Nifs}

theorem hasHandle_of_unsubscribed
    {nif : Option AgpsStateMachine}
    {s : Subscriber}
    {r : AgpsStateMachine × List Emission}
    (hLeft : LocEng.unsubscribed nif s = some r) :
    HasHandle nif s.ID := by
  rcases call_of_unsubscribed hLeft with ⟨sm, rfl, -⟩
  rw [LocEng.unsubscribed_some] at hLeft
  split at hLeft
  · next hAny =>
      rcases List.any_eq_true.mp hAny with ⟨t, ht, hEq⟩
      refine ⟨sm, rfl, List.mem_map.mpr ⟨t, ht, ?_⟩⟩
      exact Subscriber.ID_eq_of_equals hEq
  · cases hLeft

/- A release unsubscribes the handle from one machine. -/
theorem call_of_releaseATL
    {tail₁ tail₂ : IPv6Addr}
    {g : NifField}
    {c : Call}
    (hGoes :
      goesToByReleaseATL e mID tail₁ tail₂ = some (g, c)) :
    ∃ s, c = .unsubscribeRsrc s ∧ s.ID = mID ∧
      HasHandle (e.nif g) mID ∧
        (g = .ds_nif ∨ g = .agnss_nif ∨
          g = .internet_nif) := by
  unfold goesToByReleaseATL at hGoes
  split at hGoes
  · next r hLeft =>
      cases hGoes
      exact
        ⟨_, rfl, rfl, hasHandle_of_unsubscribed hLeft,
          by simp⟩
  · split at hGoes
    · next r hLeft =>
        cases hGoes
        exact
          ⟨_, rfl, rfl, hasHandle_of_unsubscribed hLeft,
            by simp⟩
    · split at hGoes
      · next r hLeft =>
          cases hGoes
          exact
            ⟨_, rfl, rfl, hasHandle_of_unsubscribed hLeft,
              by simp⟩
      · cases hGoes

/-
  A release that a machine answers reaches nobody, and after
  it the data services do not serve the handle.
-/
theorem kept_of_release
    (hSettled : Settled e)
    {tail₁ tail₂ : IPv6Addr}
    (hOut :
      StaysOut abi mID l e (.releaseATL mID tail₁ tail₂))
    (hClosed :
      .atlCloseStatus mID 1 ∈
        (step abi e (.releaseATL mID tail₁ tail₂)).2) :
    (∀ em ∈ (step abi e (.releaseATL mID tail₁ tail₂)).2,
        ¬ em.reaches mID = true) ∧
      ∀ sm ∈ (step abi e (.releaseATL mID tail₁ tail₂)).1.nif
          .ds_nif,
        ¬ sm.Serves mID := by
  cases turned_step abi e
      (.releaseATL mID tail₁ tail₂) with
  | called g sm env c hSm hGoes hUnopened hClient hOpened
      hMade hNif hOutput =>
      rcases call_of_releaseATL hGoes with
        ⟨s, rfl, rfl, hHas, hField⟩
      refine ⟨?_, ?_⟩
      · intro em hMem
        rw [hOutput] at hMem
        exact Roster.not_reaches_unsubscribe hMem
      · intro sm' hSm' hServed
        rw [hNif] at hSm'
        rcases hField with rfl | rfl | rfl
        · cases hSm'
          rcases Roster.serves_of_call hServed with
            hBefore | ⟨t, hCall, -⟩
          · have hHolds := hSettled.inv .ds_nif sm hSm
            refine
              Roster.not_serves_unsubscribe
                hHolds.sound.ordered
                (fun t ht =>
                  isAtlOrDS_of_admits (hHolds.admits t ht))
                ?_ hServed
            exact
              (hOut.released _ _ rfl sm hSm hBefore).1
          · cases hCall
        · exact
            (hOut.released _ _ rfl sm' hSm' hServed).2.1 hHas
        · exact
            (hOut.released _ _ rfl sm' hSm' hServed).2.2 hHas
  | opened g sm env apn bearerType hSm hGoes hOpened hMade
      hNif hOutput =>
      rcases call_of_releaseATL hGoes with ⟨s, hCall, -⟩
      cases hCall
  | alone hAbsent hOpened hMade hNif hLone =>
      have hFailed := hLone _ hClosed
      simp [Lone] at hFailed
  | made hNowhere hOpened hNif hOutput =>
      rw [hOutput] at hClosed
      cases hClosed
  | restarted hInput hStep =>
      rw [hStep] at hClosed
      cases hClosed

end Nifs

end Agps

end D2Common

------------------------------------------------------------
-- Later Steps
------------------------------------------------------------

namespace D2Common

namespace Agps

namespace Nifs

variable {abi : DmnConn.Abi}
variable {mID : Handle}
variable {l : List Mark}
variable {e : Nifs}
variable {i : Input}

/- Clients of the data services come from the modem. -/
theorem isAtlOrDS_of_goesTo
    {s : Subscriber}
    (hGoes :
      goesTo abi e i = some (.ds_nif, .subscribeRsrc s)) :
    s.isAtlOrDS = true := by
  have hServed
      {tail : IPv6Addr}
      {outcome : DmnConn.Outcome Unit}
      (hGoes :
        goesToByServed tail outcome =
          some (.ds_nif, .subscribeRsrc s))
      (hSent : ∀ sent ∈ outcome.sent, Sendable sent.2) :
      s.isAtlOrDS = true := by
    unfold goesToByServed at hGoes
    split at hGoes
    · next msg rest hOutcome =>
        have hSendable := hSent ((), msg) (by simp [hOutcome])
        cases msg with
        | reqRelBIT mType ipv4 ipv6 isReq =>
            have hAdmits := admits_bit hSendable ipv4 ipv6
            have hField :=
              (Prod.mk.inj (Option.some.inj hGoes)).1
            rw [hField] at hAdmits
            cases hAdmits.1
        | reqRelWifi mType senderId ssid password isReq =>
            cases hGoes
    · cases hGoes
  cases i with
  | requestATL mID mType tail env =>
      have hCall := (Prod.mk.inj (Option.some.inj hGoes)).2
      cases hCall
      rfl
  | queuedATL tail =>
      rcases Option.map_eq_some_iff.mp hGoes with
        ⟨id, -, hGoes⟩
      cases hGoes
  | releaseATL mID tail₁ tail₂ =>
      rcases call_of_releaseATL hGoes with ⟨t, hCall, -⟩
      cases hCall
  | requestSuplEs mID env =>
      cases hGoes
      rfl
  | queuedRequest env =>
      rcases Option.map_eq_some_iff.mp hGoes with
        ⟨id, -, hGoes⟩
      cases hGoes
      rfl
  | ifRequest pmsg len tail =>
      exact
        hServed hGoes (fun sent hSent =>
          sendable_ifRequest hSent)
  | ifRelease pmsg len tail =>
      exact
        hServed hGoes (fun sent hSent =>
          sendable_ifRelease hSent)
  | agpsOpen agpsType apn bearerType env =>
      simp only [goesTo] at hGoes
      split at hGoes
      · cases (Prod.mk.inj (Option.some.inj hGoes)).2
      · cases hGoes
  | agpsClosed agpsType env =>
      simp only [goesTo] at hGoes
      split at hGoes
      · cases (Prod.mk.inj (Option.some.inj hGoes)).2
      · cases hGoes
  | agpsOpenFailed agpsType env =>
      simp only [goesTo] at hGoes
      split at hGoes
      · cases (Prod.mk.inj (Option.some.inj hGoes)).2
      · cases hGoes
  | _ => cases hGoes

/- What the steps that follow a release start from. -/
structure Out
    (abi : DmnConn.Abi)
    (mID : Handle)
    (l : List Mark)
    (e : Nifs)
    (i : Input) : Prop where
  settled : Settled e
  gone : Gone mID l
  unserved : ∀ sm ∈ e.ds_nif, ¬ sm.Serves mID
  unasked : ∀ env, i ≠ .requestSuplEs mID env
  stays : StaysOut abi mID l e i

/-
  A gone handle is put forward only as a retry that is on
  the list, as a fallback that finds no connection, to be
  unsubscribed, or as the handle of a WIFI client.
-/
theorem client_of_out
    (hOut : Out abi mID l e i)
    {g : NifField}
    {c : Call}
    {s : Subscriber}
    (hGoes : goesTo abi e i = some (g, c))
    (hClient : clientOf c = some s)
    (hBit : s.isBit = false)
    (hID : s.ID = mID) :
    (e.nif g).isSome = true ∧
      ∀ sm ∈ e.nif g,
        c = .unsubscribeRsrc s ∨ s.isAtlOrDS = false ∨
          (sm.mStatePtr ≠ .acquired ∧
            (g = .ds_nif ∧
                mID ∈ handles sm.mSubscribers ∨
              g = .agnss_nif)) := by
  subst hID
  cases origin_of_goesTo hGoes hClient hBit with
  | asked mType tail env hInput =>
      exact
        absurd hOut.gone
          (hOut.stays.requested mType tail env hInput)
  | emergency env hInput =>
      exact absurd hInput (hOut.unasked env)
  | retried env hInput hHead hField =>
      rcases hOut.stays.retried env hInput hHead hOut.gone
        with ⟨sm, hSm, hOn, hState⟩
      subst hField
      have hNif : e.nif .ds_nif = some sm := hSm
      refine ⟨by rw [hNif]; rfl, ?_⟩
      intro sm' hSm'
      rw [hNif] at hSm'
      cases hSm'
      exact Or.inr (Or.inr ⟨hState, Or.inl ⟨rfl, hOn⟩⟩)
  | fellBack tail hInput hHead hField =>
      rcases hOut.stays.fellBack tail hInput hHead hOut.gone
        with ⟨sm, hSm, hState⟩
      subst hField
      have hNif : e.nif .agnss_nif = some sm := hSm
      refine ⟨by rw [hNif]; rfl, ?_⟩
      intro sm' hSm'
      rw [hNif] at hSm'
      cases hSm'
      exact Or.inr (Or.inr ⟨hState, Or.inr rfl⟩)
  | leaving hCall hThere =>
      exact ⟨hThere, fun _ _ => Or.inl hCall⟩
  | daemon hField hKind hHandle =>
      subst hField
      exact
        ⟨hOut.settled.launched hHandle,
          fun _ _ => Or.inr (Or.inl hKind)⟩

/- Whoever is found on no record has no handle on the list. -/
theorem not_mem_handles
    {sm : AgpsStateMachine}
    (hHolds : NifField.ds_nif.Holds sm)
    {s : Subscriber}
    (hAbsent : sm.mSubscribers.any (·.equals s) = false) :
    s.ID ∉ handles sm.mSubscribers := by
  intro hOn
  rcases List.mem_map.mp hOn with ⟨t, ht, hID⟩
  have hOther := List.any_eq_false.mp hAbsent t ht
  have hKind := isAtlOrDS_of_admits (hHolds.admits t ht)
  rw [Subscriber.equals_of_isAtlOrDS hKind, hID] at hOther
  simp at hOther

/- A subscribe reaches no handle that is gone. -/
theorem not_reaches_of_subscribe
    (hOut : Out abi mID l e i)
    {g : NifField}
    {sm : AgpsStateMachine}
    {s : Subscriber}
    (hSm : e.nif g = some sm)
    (hGoes : goesTo abi e i = some (g, .subscribeRsrc s))
    {env : DataCall}
    {em : Emission}
    (hMem : em ∈ (sm.call env (.subscribeRsrc s)).2) :
    ¬ em.reaches mID = true := by
  intro hReaches
  have hHolds := hOut.settled.inv g sm hSm
  have hOwn
      (hKind : s.isAtlOrDS = true)
      (hID : s.ID = mID) :
      sm.mStatePtr ≠ .acquired ∧
        (g = .ds_nif ∧ mID ∈ handles sm.mSubscribers ∨
          g = .agnss_nif) := by
    have hBit : s.isBit = false := by
      cases s <;> first | rfl | cases hKind
    rcases
        (client_of_out hOut hGoes rfl hBit hID).2 sm hSm with
      hCall | hOther | hFound
    · cases hCall
    · rw [hKind] at hOther
      cases hOther
    · exact hFound
  rcases Roster.reaches_subscribe hMem hReaches with
    ⟨hKind, hID, hHow⟩ | ⟨hClass, hState, hConn⟩
  · rcases hOwn hKind hID with ⟨hState, hField⟩
    rcases hHow with ⟨hSingle, -⟩ | hAcquired
    · rw [hHolds.single] at hSingle
      rcases hField with ⟨rfl, -⟩ | rfl <;> cases hSingle
    · exact hState hAcquired
  · have hField : g = .ds_nif := by
      rw [hHolds.ds] at hClass
      simpa using hClass
    subst hField
    have hKind := isAtlOrDS_of_goesTo hGoes
    rcases
        Roster.serves_of_start
          (fun t ht =>
            isAtlOrDS_of_admits (hHolds.admits t ht))
          hKind (hOut.settled.resting .ds_nif sm hSm)
          hState hConn with
      hServed | ⟨hID, hAbsent⟩
    · exact hOut.unserved sm hSm hServed
    · rcases (hOwn hKind hID).2 with ⟨-, hOn⟩ | hField
      · exact not_mem_handles hHolds hAbsent (hID ▸ hOn)
      · cases hField

/-
  An event reaches no handle that is gone. The machine may
  have been given a name and a bearer before.
-/
theorem not_reaches_of_event
    (hOut : Out abi mID l e i)
    {g : NifField}
    {sm sm' : AgpsStateMachine}
    {event : AgpsRsrcStatus}
    (hSm : e.nif g = some sm)
    (hGoes : goesTo abi e i = some (g, .onRsrcEvent event))
    (hState : sm'.mStatePtr = sm.mStatePtr)
    (hList : sm'.mSubscribers = sm.mSubscribers)
    (hRetries : sm'.mRetries = sm.mRetries)
    {env : DataCall}
    {em : Emission}
    (hMem : em ∈ (sm'.call env (.onRsrcEvent event)).2) :
    ¬ em.reaches mID = true := by
  intro hReaches
  have hHolds := hOut.settled.inv g sm hSm
  have hServes (h : sm'.Serves mID) : sm.Serves mID := by
    unfold AgpsStateMachine.Serves at h ⊢
    rwa [hList] at h
  have hData (hClass : sm'.mRetries.isSome = true) :
      g = .ds_nif := by
    rw [hRetries, hHolds.ds] at hClass
    simpa using hClass
  have hUnserved
      (hField : g = .ds_nif)
      (h : sm'.Serves mID) : False := by
    subst hField
    exact hOut.unserved sm hSm (hServes h)
  have hAnswered
      (hEvent : event ≠ .released)
      (hPending : sm'.mStatePtr = .pending)
      (h : sm'.Serves mID) : False := by
    by_cases hField : g = .ds_nif
    · exact hUnserved hField h
    · exact
        hOut.stays.answered g event hField hGoes hEvent
          hOut.gone sm hSm (hState.symm.trans hPending)
          (hServes h)
  have hKinds :
      sm'.mRetries.isSome = true →
        ∀ s ∈ sm'.mSubscribers, s.isAtlOrDS = true := by
    intro hClass s hs
    rw [hList] at hs
    have hAdmits := hHolds.admits s hs
    rw [hData hClass] at hAdmits
    exact isAtlOrDS_of_admits hAdmits
  rcases Roster.reaches_event hKinds hMem hReaches with
    ⟨hPending, rfl, hServed⟩ |
      ⟨hDenies, s, hs, hKind, hID, hHow⟩ |
        ⟨hClass, hServed⟩
  · exact hAnswered (by simp) hPending hServed
  · by_cases hField : g = .ds_nif
    · subst hField
      refine
        hOut.stays.denied event hGoes hOut.gone sm hSm ?_
          (List.mem_map.mpr ⟨s, hList ▸ hs, hID⟩)
      unfold AgpsStateMachine.Denies at hDenies ⊢
      rwa [hState, hRetries] at hDenies
    · have hActive : s.isInactive = false := by
        have hPlain := hHolds.admits s (hList ▸ hs)
        cases s with
        | atl id mode tail => rfl
        | ds id inactive =>
            cases g with
            | ds_nif => exact absurd rfl hField
            | _ => cases hPlain
        | bit ipv4 ipv6 => cases hKind
        | wifi ssid password sender inactive tail =>
            cases hKind
      have hPending : sm'.mStatePtr = .pending := by
        rcases hHow with hPending | hInactive
        · exact hPending
        · rw [hActive] at hInactive
          cases hInactive
      refine
        hAnswered ?_ hPending ⟨s, hs, hKind, hID, hActive⟩
      rintro rfl
      exact hField (hData hDenies.1)
  · exact hUnserved (hData hClass) hServed

/- No step reaches a handle that is gone. -/
theorem not_reaches_of_out
    (hOut : Out abi mID l e i)
    {em : Emission}
    (hMem : em ∈ (step abi e i).2) :
    ¬ em.reaches mID = true := by
  cases turned_step abi e i with
  | called g sm env c hSm hGoes hUnopened hClient hOpened
      hMade hNif hOutput =>
      rw [hOutput] at hMem
      cases c with
      | subscribeRsrc s =>
          exact not_reaches_of_subscribe hOut hSm hGoes hMem
      | unsubscribeRsrc s =>
          exact Roster.not_reaches_unsubscribe hMem
      | onRsrcEvent event =>
          exact
            not_reaches_of_event hOut hSm hGoes rfl rfl rfl
              hMem
      | setAPN apn => exact hUnopened.elim
      | setBearer bearer => exact hUnopened.elim
  | opened g sm env apn bearerType hSm hGoes hOpened hMade
      hNif hOutput =>
      rw [hOutput] at hMem
      have hState :
          (given sm apn bearerType).mStatePtr =
            sm.mStatePtr := rfl
      exact
        not_reaches_of_event hOut hSm hGoes hState rfl rfl
          hMem
  | alone hAbsent hOpened hMade hNif hLone =>
      have hKind := hLone em hMem
      intro hReaches
      cases em with
      | atlOpenStatus id isSucc apn bearer type =>
          rcases hKind with
            ⟨-, -, -, g, c, s, hGoes, hClient, hBit, hID⟩
          have hSame : id = mID := by
            simpa [Emission.reaches] using hReaches
          have hThere :=
            (client_of_out hOut hGoes hClient hBit
              (hID.trans hSame)).1
          rw [hAbsent g c hGoes] at hThere
          cases hThere
      | requestSuplES id =>
          rcases hKind with ⟨sm, s, hSm, hFound, hID⟩
          have hSame : id = mID := by
            simpa [Emission.reaches] using hReaches
          rw [AgpsStateMachine.findSubscriber_ofGroup]
            at hFound
          have hs := List.mem_of_find?_eq_some hFound
          have hActive := List.find?_some hFound
          have hHolds := hOut.settled.inv .ds_nif sm hSm
          refine
            hOut.unserved sm hSm
              ⟨s, hs,
                isAtlOrDS_of_admits (hHolds.admits s hs),
                hID.trans hSame, ?_⟩
          simpa using hActive
      | requestATL id type => exact hKind
      | _ => cases hReaches
  | made hNowhere hOpened hNif hOutput =>
      rw [hOutput] at hMem
      cases hMem
  | restarted hInput hStep =>
      rw [hStep] at hMem
      cases hMem

/- No step makes the data services serve a gone handle. -/
theorem unserved_of_out
    (hOut : Out abi mID l e i) :
    ∀ sm ∈ (step abi e i).1.nif .ds_nif,
      ¬ sm.Serves mID := by
  intro sm' hSm' hServed
  cases turned_step abi e i with
  | called g sm env c hSm hGoes hUnopened hClient hOpened
      hMade hNif hOutput =>
      rw [hNif] at hSm'
      split at hSm'
      · next hField =>
          subst hField
          cases hSm'
          rcases Roster.serves_of_call hServed with
            hBefore | ⟨s, rfl, hKind, hID, hAbsent⟩
          · exact hOut.unserved sm hSm hBefore
          · have hBit : s.isBit = false := by
              cases s <;> first | rfl | cases hKind
            have hHolds := hOut.settled.inv .ds_nif sm hSm
            rcases
                (client_of_out hOut hGoes rfl hBit hID).2 sm
                  hSm with
              hCall | hOther | ⟨-, ⟨-, hOn⟩ | hField⟩
            · cases hCall
            · rw [hKind] at hOther
              cases hOther
            · exact
                not_mem_handles hHolds hAbsent (hID ▸ hOn)
            · cases hField
      · exact hOut.unserved sm' hSm' hServed
  | opened g sm env apn bearerType hSm hGoes hOpened hMade
      hNif hOutput =>
      rw [hNif] at hSm'
      split at hSm'
      · next hField =>
          subst hField
          cases hSm'
          rcases Roster.serves_of_call hServed with
            hBefore | ⟨s, hCall, -⟩
          · exact hOut.unserved sm hSm hBefore
          · cases hCall
      · exact hOut.unserved sm' hSm' hServed
  | alone hAbsent hOpened hMade hNif hLone =>
      rw [hNif] at hSm'
      exact hOut.unserved sm' hSm' hServed
  | made hNowhere hOpened hNif hOutput =>
      rw [hNif] at hSm'
      split at hSm'
      · cases hSm'
        rcases hServed with ⟨s, hs, -⟩
        cases hs
      · exact hOut.unserved sm' hSm' hServed
  | restarted hInput hStep =>
      rw [hStep] at hSm'
      rcases nif_handleEngineUp hSm' with
        ⟨sm, hSm, rfl | rfl⟩
      · exact hOut.unserved _ hSm hServed
      · rcases hServed with ⟨s, hs, -⟩
        cases hs

end Nifs

end Agps

end D2Common

------------------------------------------------------------
-- Every Run
------------------------------------------------------------

namespace D2Common

namespace Agps

namespace Nifs

variable {abi : DmnConn.Abi}
variable {mID : Handle}
variable {l : List Mark}
variable {e : Nifs}

/- What a step does for a handle that it leaves gone. -/
theorem out_of_gone
    (hSettled : Settled e)
    (hKept : Kept mID l e)
    {i : Input}
    (hStays : StaysOut abi mID l e i)
    (hGone :
      Gone mID (l ++ heads ((engine abi).event e i))) :
    (∀ em ∈ (step abi e i).2, ¬ em.reaches mID = true) ∧
      ∀ sm ∈ (step abi e i).1.nif .ds_nif,
        ¬ sm.Serves mID := by
  rcases gone_heads hGone with
    ⟨tail₁, tail₂, hInput, hClosed⟩ | ⟨hBefore, hUnasked⟩
  · have hRelease : i = .releaseATL mID tail₁ tail₂ := hInput
    subst hRelease
    exact kept_of_release hSettled hStays hClosed
  · have hOut : Out abi mID l e i :=
      ⟨hSettled, hBefore, hKept.unserved hBefore, hUnasked,
        hStays⟩
    exact
      ⟨fun em hMem => not_reaches_of_out hOut hMem,
        unserved_of_out hOut⟩

theorem kept_step
    (hSettled : Settled e)
    (hKept : Kept mID l e)
    {i : Input}
    (hStays : StaysOut abi mID l e i) :
    Kept mID (l ++ marks ((engine abi).event e i))
      (step abi e i).1 where
  between :=
    between_marks hKept.between fun hGone =>
      (out_of_gone hSettled hKept hStays hGone).1
  unserved := fun hGone =>
    (out_of_gone hSettled hKept hStays (gone_marks hGone)).2

/-
  A released handle stays released: in a run whose steps
  keep it out, nothing is sent for it between the answer to
  its release and the next request of the modem.
-/
theorem released_stays_released
    (abi : DmnConn.Abi)
    (mID : Handle)
    (is : List Input)
    (hRun : EveryStep abi (StaysOut abi mID) is) :
    History.Between (Released mID) (Asks mID) (Reaches mID)
      (trace ((engine abi).history is)) := by
  refine
    ((engine abi).history_induction
      (I := fun h e => Settled e ∧ Kept mID (trace h) e)
      ⟨settled_cleared, ⟨History.between_nil, ?_⟩⟩
      ?_ is hRun).2.between
  · intro _ sm hSm
    cases hSm
  · rintro h e i ⟨hSettled, hKept⟩ hStays
    refine ⟨settled_step hSettled i, ?_⟩
    have hTrace :
        trace (h ++ [(engine abi).event e i]) =
          trace h ++ marks ((engine abi).event e i) := by
      simp [trace]
    rw [hTrace]
    exact kept_step hSettled hKept hStays

/- An input that brings no event to any machine. -/
theorem staysOut_of_request
    (abi : DmnConn.Abi)
    (mID : Handle)
    (l : List Mark)
    (e : Nifs)
    {i : Input}
    (hEvent :
      ∀ g event,
        goesTo abi e i ≠ some (g, .onRsrcEvent event))
    (hReleased :
      ∀ tail₁ tail₂, i = .releaseATL mID tail₁ tail₂ →
        ∀ sm ∈ e.ds_nif, sm.Serves mID →
          sm.mStatePtr ≠ .released ∧
            ¬ HasHandle e.agnss_nif mID ∧
            ¬ HasHandle e.internet_nif mID)
    (hQueued :
      (∀ env, i ≠ .queuedRequest env) ∧
        (∀ tail, i ≠ .queuedATL tail) ∧
          ∀ mType tail env,
            i ≠ .requestATL mID mType tail env) :
    StaysOut abi mID l e i where
  released := hReleased
  denied event hGoes := absurd hGoes (hEvent _ event)
  retried env hInput := absurd hInput (hQueued.1 env)
  fellBack tail hInput := absurd hInput (hQueued.2.1 tail)
  requested mType tail env hInput :=
    absurd hInput (hQueued.2.2 mType tail env)
  answered g event _ hGoes := absurd hGoes (hEvent g event)

/- An event of the data services that denies nothing. -/
theorem staysOut_of_event
    (abi : DmnConn.Abi)
    (mID : Handle)
    (l : List Mark)
    (e : Nifs)
    {i : Input}
    {event : AgpsRsrcStatus}
    (hGoes :
      goesTo abi e i = some (.ds_nif, .onRsrcEvent event))
    (hGranted : ∀ sm ∈ e.ds_nif, ¬ sm.Denies event) :
    StaysOut abi mID l e i where
  released tail₁ tail₂ hInput := by
    subst hInput
    rcases call_of_releaseATL hGoes with ⟨s, hCall, -⟩
    cases hCall
  denied event' hGoes' _ sm hSm hDenies := by
    rw [hGoes] at hGoes'
    cases hGoes'
    exact absurd hDenies (hGranted sm hSm)
  retried env hInput hHead := by
    subst hInput
    simp [goesTo, hHead] at hGoes
  fellBack tail hInput hHead := by
    subst hInput
    simp [goesTo, hHead] at hGoes
  requested mType tail env hInput := by
    subst hInput
    cases (Prod.mk.inj (Option.some.inj hGoes)).2
  answered g event' hField hGoes' := by
    rw [hGoes] at hGoes'
    cases hGoes'
    exact absurd rfl hField

/- Handle 7 is granted, released, and followed by 9. -/
def granted7 : List Input :=
  [.agpsInit true true true, .dataClientInit 0,
    .requestSuplEs 7 dataCallStarted, .suplEsOpened]

def released7 : List Input :=
  granted7 ++
    [.releaseATL 7 (Vector.replicate 16 0)
      (Vector.replicate 16 0)]

def followed7 : List Input :=
  released7 ++ [.requestSuplEs 9 dataCallStarted]

/- When the call of 7 has ended, one is started for 9. -/
theorem released_stays_released_followed7 :
    History.Between (Released 7) (Asks 7) (Reaches 7)
      (trace
        ((engine .ilp32).history
          (followed7 ++ [.suplEsClosed dataCallStarted]))) := by
  have hRequested :
      EveryStep .ilp32 (StaysOut .ilp32 7)
        [.agpsInit true true true, .dataClientInit 0,
          .requestSuplEs 7 dataCallStarted] := by
    refine
      (everyStep_concat [_, _] _).mpr
        ⟨(everyStep_concat [_] _).mpr
          ⟨(everyStep_concat [] _).mpr
            ⟨everyStep_nil, ?_⟩, ?_⟩, ?_⟩ <;>
      exact
        staysOut_of_request _ _ _ _ nofun nofun
          ⟨nofun, nofun, nofun⟩
  have hGranted :
      EveryStep .ilp32 (StaysOut .ilp32 7) granted7 :=
    (everyStep_concat [_, _, _] _).mpr
      ⟨hRequested,
        staysOut_of_event _ _ _ _ rfl fun _ _ => id⟩
  have hAcquired :
      ∀ sm ∈ ((engine .ilp32).run granted7).ds_nif,
        sm.mStatePtr ≠ .released := by
    decide
  have hReleased :
      EveryStep .ilp32 (StaysOut .ilp32 7) released7 := by
    refine
      (everyStep_concat granted7 _).mpr
        ⟨hGranted,
          staysOut_of_request _ _ _ _ ?_ ?_
            ⟨nofun, nofun, nofun⟩⟩
    · intro g event hGoes
      have hCall := (Prod.mk.inj (Option.some.inj hGoes)).2
      cases hCall
    · intro tail₁ tail₂ _ sm hSm _
      refine ⟨hAcquired sm hSm, ?_, ?_⟩ <;>
        rintro ⟨sm, hSm, hOn⟩ <;>
        cases hSm <;>
        cases hOn
  have hFollowed :
      EveryStep .ilp32 (StaysOut .ilp32 7) followed7 :=
    (everyStep_concat released7 _).mpr
      ⟨hReleased,
        staysOut_of_request _ _ _ _ nofun nofun
          ⟨nofun, nofun, nofun⟩⟩
  have hReleasing :
      ∀ sm ∈ ((engine .ilp32).run followed7).ds_nif,
        sm.mStatePtr ≠ .pending := by
    decide
  have hClosed :
      ∀ sm ∈ ((engine .ilp32).run followed7).ds_nif,
        ¬ sm.Denies .released :=
    fun sm hSm hDenies => hReleasing sm hSm hDenies.2
  exact
    released_stays_released .ilp32 7 _
      ((everyStep_concat followed7 _).mpr
        ⟨hFollowed,
          staysOut_of_event _ _ _ _ rfl hClosed⟩)

/-
  Handle 7 is released while its retry timer runs. It stays
  on the list of the Released state as an active record, and
  the timer asks for it again.
-/
theorem released_retried :
    ¬ History.Between (Released 7) (Asks 7) (Reaches 7)
      (trace
        ((engine .ilp32).history
          [.agpsInit true true true, .dataClientInit 0,
            .requestSuplEs 7 dataCallBusy,
            .releaseATL 7 (Vector.replicate 16 0)
              (Vector.replicate 16 0),
            .timerFires])) := by
  intro hBetween
  rcases hBetween
      [.requestSuplEs 7,
        .emitted (.sendRsrcRequest .requestAgpsDataConn),
        .emitted
          (.openAndStartDataCall
            locApiAdapterErrEngineBusy),
        .emitted (.locTimerStart .started)]
      (.released 7)
      [.emitted (.notified .listed (.ds 7 false) .unsubscribe),
        .emitted (.atlCloseStatus 7 1)]
      (.emitted (.requestSuplES 7)) [] (by decide) rfl
      ⟨_, rfl, by decide⟩ with
    ⟨x, hx, hAsks⟩
  rw [hAsks] at hx
  simp at hx

end Nifs

end Agps

end D2Common
