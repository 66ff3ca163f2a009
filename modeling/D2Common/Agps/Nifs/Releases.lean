import D2Common.Agps.Nifs

/-
  The answer to a release from the daemon.

  A BIT client is told at once that it is off the list, and
  a WIFI client stays on the list until the connection is
  down. A release for which the machine finds no record is
  dropped without a word, and one for which it finds the
  record of another client answers that client.

  Key definitions include:
    * `Nifs.Answered`
    * `Nifs.Recorded`

  Key theorems include:
    * `Nifs.answered_iff_recorded`
    * `Nifs.release_answered_iff`
-/

------------------------------------------------------------
-- Messages of the Daemon
------------------------------------------------------------

namespace D2Common

namespace DmnConn

namespace LocMsg

open Agps (Client IPv6Addr NifField SenderId nifOfType)

def mIsReq : LocMsg → Bool
| .reqRelBIT _ _ _ mIsReq => mIsReq
| .reqRelWifi _ _ _ _ mIsReq => mIsReq

/- The machine that a message calls into. -/
def nif : LocMsg → NifField
| .reqRelBIT mType _ _ _ => nifOfType mType
| .reqRelWifi .. => .wifi_nif

/- The client that a message is for. -/
def client
    (tail : IPv6Addr) : LocMsg → Client
| .reqRelBIT _ mIPv4Addr mIPv6Addr _ =>
    .bit mIPv4Addr mIPv6Addr
| .reqRelWifi _ mSenderId mSSID mPassword _ =>
    .wifi (some mSSID) (some mPassword) mSenderId tail

/- Where the daemon's library expects the response. -/
def sender : LocMsg → SenderId
| .reqRelBIT .. => .gpsoneDaemon
| .reqRelWifi _ mSenderId _ _ _ => mSenderId

end LocMsg

end DmnConn

namespace Agps

namespace Nifs

/- A message makes its call if the machine is there. -/
theorem proc_eq
    {e : Nifs}
    {msg : DmnConn.LocMsg}
    {sm : AgpsStateMachine}
    (hNif : e.nif msg.nif = some sm)
    (tail : IPv6Addr) :
    e.proc tail msg =
      e.returnedTo msg.nif
        (sm.call noDataCall
          (reqRel msg.mIsReq
            (msg.client tail).subscriber)) := by
  cases msg with
  | reqRelBIT mType ipv4 ipv6 isReq =>
      simp only [proc, call]
      rw [show e.nif (nifOfType mType) = some sm from hNif]
      rfl
  | reqRelWifi mType senderId ssid password isReq =>
      simp only [proc]
      rw [show e.wifi_nif = some sm from hNif]
      rfl

end Nifs

end Agps

end D2Common

------------------------------------------------------------
-- Responses
------------------------------------------------------------

namespace D2Common

namespace Agps

/- A response to a sender. -/
def Emission.isResponse
    (q : SenderId) : Emission → Bool
| .dataConn sender _ => sender == q
| _ => false

/- How many responses a sender is sent. -/
def responses
    (q : SenderId)
    (out : List Emission) : Nat :=
  out.countP (Emission.isResponse q)

@[simp] theorem responses_append
    (q : SenderId)
    (out out' : List Emission) :
    responses q (out ++ out') =
      responses q out + responses q out' := by
  simp [responses]

/- On a removal only BIT records send a response. -/
theorem responses_notices_unsubscribe
    (q : SenderId)
    (sm : AgpsStateMachine)
    (l : List Subscriber) :
    responses q (notices sm .unsubscribe l) =
      if q = .gpsoneDaemon then
        l.countP Subscriber.isBit
      else
        0 := by
  induction l with
  | nil => simp [notices, responses]
  | cons s l ih =>
      rw [notices_cons, responses_append, ih,
        List.countP_cons]
      by_cases hq : q = .gpsoneDaemon
      · subst hq
        cases s <;>
          simp [responses, Subscriber.notice,
            Subscriber.answer, Emission.isResponse,
            Subscriber.isBit, Nat.add_comm]
      · cases s <;>
          simp [responses, Subscriber.notice,
            Subscriber.answer, Emission.isResponse, hq,
            Ne.symm hq]

theorem responses_releaseOut
    (q : SenderId)
    (sm : AgpsStateMachine) :
    responses q (Roster.releaseOut sm) = 0 := by
  unfold Roster.releaseOut
  split <;> rfl

/- BIT records that equal one subscriber equal each other. -/
theorem Subscriber.equals_of_equals_both
    {a b t : Subscriber}
    (ha : a.isBit = true)
    (hb : b.isBit = true)
    (hat : a.equals t = true)
    (hbt : b.equals t = true) :
    b.equals a = true := by
  have hID : b.ID = a.ID :=
    (ID_eq_of_equals hbt).trans (ID_eq_of_equals hat).symm
  cases a <;> simp [isBit] at ha
  cases b <;> simp [isBit] at hb
  rename_i id addr id' addr'
  have hSame : id' = id := hID
  subst hSame
  by_cases hNone : inaddrNone = id'
  · have hAddr :
        strncmpEq addr.toList t.mIPv6AddrOf.toList =
          true := by
      simp only [equals, Bool.and_eq_true] at hat
      simpa [hNone] using hat.2
    have hAddr' :
        strncmpEq addr'.toList t.mIPv6AddrOf.toList =
          true := by
      simp only [equals, Bool.and_eq_true] at hbt
      simpa [hNone] using hbt.2
    rw [strncmpEq_symm] at hAddr
    have hBoth :
        strncmpEq addr'.toList addr.toList = true :=
      strncmpEq_trans (by simp) (by simp) hAddr' hAddr
    simp [equals, mIPv6AddrOf, ID, hBoth]
  · have hSome : (inaddrNone != id') = true := by
      simpa using hNone
    simp [equals, ID, hSome]

namespace Roster

/- One of the records that leave can be a BIT record. -/
theorem countP_isBit_eq_one_iff
    {l : List Subscriber}
    (hOrdered : Identity.Ordered l)
    (t : Subscriber) :
    (l.filter (·.equals t)).countP Subscriber.isBit = 1 ↔
      ∃ r ∈ l, r.isBit = true ∧ r.equals t = true := by
  have hMany :
      ∀ r r' rest,
        (l.filter (·.equals t)).filter Subscriber.isBit ≠
          r :: r' :: rest := by
    intro r r' rest hSplit
    have hPairs :
        Identity.Ordered (r :: r' :: rest) := by
      rw [← hSplit]
      exact (hOrdered.filter _).filter _
    have hMem : ∀ s ∈ r :: r' :: rest,
        s.isBit = true ∧ s.equals t = true := by
      intro s hs
      rw [← hSplit, List.mem_filter, List.mem_filter] at hs
      exact ⟨hs.2, hs.1.2⟩
    have hEq :=
      Subscriber.equals_of_equals_both
        (hMem r (by simp)).1 (hMem r' (by simp)).1
        (hMem r (by simp)).2 (hMem r' (by simp)).2
    have hNot := (List.pairwise_cons.mp hPairs).1 r' (by simp)
    rw [hEq] at hNot
    exact absurd hNot (by decide)
  have hSome :
      (∃ r ∈ l, r.isBit = true ∧ r.equals t = true) ↔
        ∃ r, r ∈
          (l.filter (·.equals t)).filter
            Subscriber.isBit := by
    simp only [List.mem_filter]
    constructor
    · rintro ⟨r, hr, hBit, hEq⟩
      exact ⟨r, ⟨hr, hEq⟩, hBit⟩
    · rintro ⟨r, ⟨hr, hEq⟩, hBit⟩
      exact ⟨r, hr, hBit, hEq⟩
  rw [hSome, List.countP_eq_length_filter]
  cases hList :
      (l.filter (·.equals t)).filter Subscriber.isBit with
  | nil => simp
  | cons r rest =>
      cases rest with
      | nil => simp
      | cons r' rest => exact absurd hList (hMany r r' rest)

end Roster

end Agps

end D2Common

------------------------------------------------------------
-- What a Release Comes To
------------------------------------------------------------

namespace D2Common

namespace Agps

namespace Nifs

/-
  The client is on the list and waits for the close, and the
  next event that ends the connection sends the response.
-/
def Awaits
    (sm : AgpsStateMachine)
    (q : SenderId)
    (c : Subscriber) : Prop :=
  (∃ t ∈ sm.mSubscribers,
      t.identity = c.identity ∧ t.isInactive = true) ∧
    ∀ event, event = .released ∨ event = .denied →
      responses q
        (sm.call noDataCall (.onRsrcEvent event)).2 = 1

/- The client is sent one response, now or at the close. -/
def Answered
    (q : SenderId)
    (c : Subscriber)
    (r : AgpsStateMachine × List Emission) : Prop :=
  responses q r.2 = 1 ∨ Awaits r.1 q c

/-
  The record that the search finds for the client is its
  own; or the client is one of the daemon itself, and a BIT
  record equals the one that is found.
-/
def Recorded
    (q : SenderId)
    (c : Subscriber)
    (l : List Subscriber) : Prop :=
  ∃ t, l.find? (·.equals c) = some t ∧
    (t.identity = c.identity ∨
      (q = .gpsoneDaemon ∧
        ∃ r ∈ l, r.isBit = true ∧ r.equals t = true))

/- The sender by which a client's response is addressed. -/
def Speaks
    (q : SenderId)
    (c : Subscriber) : Prop :=
  c.identity = .wifi q ∨
    (c.isBit = true ∧ q = .gpsoneDaemon)

theorem speaks_client
    (msg : DmnConn.LocMsg)
    (tail : IPv6Addr) :
    Speaks msg.sender (msg.client tail).subscriber := by
  cases msg with
  | reqRelBIT mType ipv4 ipv6 isReq =>
      exact Or.inr ⟨rfl, rfl⟩
  | reqRelWifi mType q ssid password isReq =>
      exact Or.inl rfl

/- Only a WIFI client can wait for the close. -/
theorem identity_of_inactive
    {q : SenderId}
    {c t : Subscriber}
    (hSpeaks : Speaks q c)
    (hSame : t.identity = c.identity)
    (hInactive : t.isInactive = true) :
    t.identity = .wifi q := by
  rcases hSpeaks with hWifi | ⟨hBit, -⟩
  · exact hSame.trans hWifi
  · rw [← Subscriber.isBit_of_identity_eq hSame] at hBit
    cases t <;> simp_all [Subscriber.isBit,
      Subscriber.isInactive]

@[simp] theorem identity_inactivated
    (s : Subscriber) :
    s.inactivated.identity = s.identity := by
  cases s <;> rfl

theorem exists_wifi
    {t : Subscriber}
    {q : SenderId}
    (hSame : t.identity = .wifi q) :
    ∃ ssid password inactive tail,
      t = .wifi ssid password q inactive tail := by
  cases t with
  | wifi ssid password sender inactive tail =>
      cases hSame
      exact ⟨ssid, password, inactive, tail, rfl⟩
  | bit ipv4 ipv6 =>
      simp only [Subscriber.identity] at hSame
      split at hSame <;> cases hSame
  | atl id mode tail => cases hSame
  | ds id inactive => cases hSame

/- Only the WIFI machine has WIFI records, one at a time. -/
theorem field_of_wifi
    {f : NifField}
    {sm : AgpsStateMachine}
    (hSm : f.Holds sm)
    {t : Subscriber}
    {q : SenderId}
    (ht : t ∈ sm.mSubscribers)
    (hWifi : t.identity = .wifi q) :
    f = .wifi_nif := by
  have hAdmits := hSm.admits t ht
  rcases exists_wifi hWifi with
    ⟨ssid, password, inactive, tail, rfl⟩
  cases f with
  | wifi_nif => rfl
  | agnss_nif => cases hAdmits
  | internet_nif => cases hAdmits
  | ds_nif => exact absurd rfl (hAdmits.2 q)

theorem eq_singleton_of_wifi
    {f : NifField}
    {sm : AgpsStateMachine}
    (hSm : f.Holds sm)
    {t u : Subscriber}
    {q : SenderId}
    (hu : u ∈ sm.mSubscribers)
    (hWifi : u.identity = .wifi q)
    (ht : t ∈ sm.mSubscribers) :
    sm.mSubscribers = [t] := by
  have hField := field_of_wifi hSm hu hWifi
  have hSingle : sm.mSubscribers.length ≤ 1 :=
    hSm.sound.single (by simp [hSm.single, hField])
  cases hList : sm.mSubscribers with
  | nil => simp [hList] at ht
  | cons a l =>
      rw [hList] at ht hSingle
      have hl : l = [] := by
        cases l with
        | nil => rfl
        | cons b l => simp at hSingle
      subst hl
      rw [List.mem_singleton.mp ht]

/- Where a transition answers, the departure does. -/
theorem responses_move
    (q : SenderId)
    {sm : AgpsStateMachine}
    (env : DataCall)
    (t : Subscriber)
    (hState : sm.mStatePtr ≠ .released) :
    responses q (Roster.move sm env (.unsubscribe t)).2 =
      responses q (Roster.leaveOut sm t) := by
  rcases Roster.out_move_unsubscribe sm env t hState with
    hOut | hOut
  · rw [hOut]
  · rw [hOut, responses_append, responses_releaseOut,
      Nat.add_zero]

end Nifs

end Agps

end D2Common

------------------------------------------------------------
-- The Record That Is Found
------------------------------------------------------------

namespace D2Common

namespace Agps

namespace Nifs

variable {f : NifField}
variable {sm : AgpsStateMachine}
variable {q : SenderId}
variable {c t : Subscriber}

theorem not_awaits_of_no_wifi
    (hSpeaks : Speaks q c)
    (hNone :
      ∀ u ∈ sm.mSubscribers, u.identity ≠ .wifi q) :
    ¬ Awaits sm q c := by
  rintro ⟨⟨u, hu, hSame, hInactive⟩, -⟩
  exact hNone u hu
    (identity_of_inactive hSpeaks hSame hInactive)

/- Without a record there is no answer. -/
theorem not_answered_of_none
    (hFind : sm.mSubscribers.find? (·.equals c) = none) :
    ¬ Answered q c
      (sm.call noDataCall (.unsubscribeRsrc c)) := by
  rw [AgpsStateMachine.call_of_find_none noDataCall hFind]
  rintro (hOut | ⟨⟨u, hu, hSame, -⟩, -⟩)
  · simp [responses] at hOut
  · have hNot := List.find?_eq_none.mp hFind u hu
    exact hNot (Subscriber.equals_of_identity_eq hSame)

theorem mRetries_of_plain
    (hSm : f.Holds sm)
    (hPlain : f ≠ .ds_nif) :
    sm.mRetries = none := by
  have hDs := hSm.ds
  rw [beq_eq_false_iff_ne.mpr hPlain] at hDs
  simpa using hDs

/- A plain machine with a record is not in Released. -/
theorem not_released_of_mem
    (hSm : f.Holds sm)
    (hPlain : f ≠ .ds_nif)
    (ht : t ∈ sm.mSubscribers) :
    sm.mStatePtr ≠ .released := by
  intro hState
  have hClass := mRetries_of_plain hSm hPlain
  rw [hSm.sound.idle hClass hState] at ht
  simp at ht

/- A data services machine has nothing for the daemon. -/
theorem responses_leaveOut_ds
    (hKind : t.isDS = true) :
    responses q (Roster.leaveOut sm t) = 0 := by
  unfold Roster.leaveOut
  rw [if_pos (t.waitForCloseComplete_of_isDS hKind),
    if_pos hKind]
  rfl

theorem responses_leaveOut_wifi
    (hWifi : t.identity = .wifi q) :
    ∀ p, responses p (Roster.leaveOut sm t) = 0 := by
  rcases exists_wifi hWifi with
    ⟨ssid, password, inactive, tail, rfl⟩
  exact fun _ => rfl

/- The others are told as they leave. -/
theorem responses_leaveOut_eq_one_iff
    (hOrdered : Identity.Ordered sm.mSubscribers)
    (hWaits : t.waitForCloseComplete = false) :
    responses q (Roster.leaveOut sm t) = 1 ↔
      q = .gpsoneDaemon ∧
        ∃ r ∈ sm.mSubscribers,
          r.isBit = true ∧ r.equals t = true := by
  unfold Roster.leaveOut
  rw [if_neg (by simp [hWaits]),
    responses_notices_unsubscribe,
    ← Roster.countP_isBit_eq_one_iff hOrdered]
  by_cases hq : q = .gpsoneDaemon
  · simp [hq]
  · simp [hq]

/- The WIFI record of a release stays and waits. -/
theorem move_wifi
    (env : DataCall)
    (hList : sm.mSubscribers = [t])
    (hWifi : t.identity = .wifi q)
    (hState : sm.mStatePtr ≠ .released) :
    (Roster.move sm env (.unsubscribe t)).1 =
      { sm with
        mSubscribers := [t.inactivated]
        mStatePtr := .releasing } := by
  rcases exists_wifi hWifi with
    ⟨ssid, password, inactive, tail, rfl⟩
  have hLeft :
      Roster.left (.wifi ssid password q inactive tail)
          sm.mSubscribers =
        [.wifi ssid password q true tail] := by
    simp [hList, Roster.left,
      Subscriber.waitForCloseComplete,
      Subscriber.inactivated]
  unfold Roster.move
  cases hPtr : sm.mStatePtr with
  | released => exact absurd hPtr hState
  | pending =>
      simp [Roster.depart, hLeft, Subscriber.isInactive,
        Subscriber.inactivated]
  | acquired =>
      simp [Roster.depart, hLeft, Subscriber.isInactive,
        Subscriber.inactivated]
  | releasing =>
      simp [Roster.departReleasing, hLeft,
        Subscriber.inactivated]

/- The event that ends the connection answers it. -/
theorem responses_closeDown
    {p : SenderId}
    (hWifi : t.identity = .wifi p)
    (hClass : sm.mRetries = none)
    {event : AgpsRsrcStatus}
    (hEvent : event = .released ∨ event = .denied) :
    responses p
      (AgpsStateMachine.call
        { sm with
          mSubscribers := [t.inactivated]
          mStatePtr := .releasing }
        noDataCall (.onRsrcEvent event)).2 = 1 := by
  rcases exists_wifi hWifi with
    ⟨ssid, password, inactive, tail, rfl⟩
  rw [AgpsStateMachine.call_eq]
  rcases hEvent with rfl | rfl
  · simp [Roster.respond, Roster.release, hClass,
      Roster.move, Roster.closeDown,
      Subscriber.inactivated, Subscriber.isInactive,
      notices, Subscriber.notice, Subscriber.answer,
      responses, Emission.isResponse]
  · simp [Roster.respond, Roster.move, Roster.closeDown,
      Subscriber.inactivated, Subscriber.isInactive,
      notices, Subscriber.notice, Subscriber.answer,
      responses, Emission.isResponse]

theorem answered_iff_of_wifi
    {p : SenderId}
    (hSm : f.Holds sm)
    (hSpeaks : Speaks q c)
    (hFind : sm.mSubscribers.find? (·.equals c) = some t)
    (hWifi : t.identity = .wifi p) :
    Answered q c
        (sm.call noDataCall (.unsubscribeRsrc c)) ↔
      Recorded q c sm.mSubscribers := by
  have ht := List.mem_of_find?_eq_some hFind
  have hList := eq_singleton_of_wifi hSm ht hWifi ht
  have hField := field_of_wifi hSm ht hWifi
  have hPlain : f ≠ .ds_nif := by simp [hField]
  have hClass := mRetries_of_plain hSm hPlain
  have hState := not_released_of_mem hSm hPlain ht
  have hMove := move_wifi noDataCall hList hWifi hState
  have hOut :
      responses q
        (Roster.move sm noDataCall (.unsubscribe t)).2 =
          0 := by
    rw [responses_move q noDataCall t hState]
    exact responses_leaveOut_wifi hWifi q
  have hNotBit : t.isBit = false := by
    rcases exists_wifi hWifi with
      ⟨ssid, password, inactive, tail, rfl⟩
    rfl
  rw [AgpsStateMachine.call_of_find noDataCall hFind]
  constructor
  · rintro (hNow | ⟨⟨u, hu, hSame, -⟩, -⟩)
    · rw [hOut] at hNow
      exact absurd hNow (by decide)
    · rw [hMove] at hu
      cases List.mem_singleton.mp hu
      exact ⟨t, hFind,
        Or.inl (by rw [← hSame, identity_inactivated])⟩
  · rintro ⟨t', hFind', hSame | ⟨-, r, hr, hBit, -⟩⟩
    · cases hFind.symm.trans hFind'
      have hSender : p = q := by
        rcases hSpeaks with hOwn | ⟨hBit, -⟩
        · rw [hSame, hOwn] at hWifi
          exact (Identity.wifi.inj hWifi).symm
        · rw [← Subscriber.isBit_of_identity_eq hSame,
            hNotBit] at hBit
          exact absurd hBit (by decide)
      subst hSender
      right
      rw [hMove]
      refine ⟨⟨t.inactivated, List.mem_singleton_self _,
        by rw [identity_inactivated, hSame], ?_⟩, ?_⟩
      · rcases exists_wifi hWifi with
          ⟨ssid, password, inactive, tail, rfl⟩
        rfl
      · intro event hEvent
        exact responses_closeDown hWifi hClass hEvent
    · rw [hList] at hr
      cases List.mem_singleton.mp hr
      rw [hNotBit] at hBit
      exact absurd hBit (by decide)

/- A data services machine answers no client of the daemon. -/
theorem not_answered_of_ds
    (hSm : NifField.ds_nif.Holds sm)
    (hSpeaks : Speaks q c)
    (hFind : sm.mSubscribers.find? (·.equals c) = some t) :
    ¬ Answered q c
      (sm.call noDataCall (.unsubscribeRsrc c)) := by
  have ht := List.mem_of_find?_eq_some hFind
  have hKind := hSm.admits t ht
  have hAfter :=
    (hSm.unsubscribe noDataCall c).admits
  rintro (hNow | hAwaits)
  · rw [AgpsStateMachine.call_of_find noDataCall hFind] at hNow
    by_cases hState : sm.mStatePtr = .released
    · simp only [Roster.move, hState] at hNow
      cases t with
      | bit ipv4 ipv6 => cases hKind.1
      | wifi ssid password sender inactive tail =>
          exact absurd rfl (hKind.2 sender)
      | atl id mode tail => cases hNow
      | ds id inactive => cases hNow
    · rw [responses_move q noDataCall t hState] at hNow
      cases t with
      | bit ipv4 ipv6 => cases hKind.1
      | wifi ssid password sender inactive tail =>
          exact absurd rfl (hKind.2 sender)
      | ds id inactive =>
          rw [responses_leaveOut_ds rfl] at hNow
          exact absurd hNow (by decide)
      | atl id mode tail =>
          rcases (responses_leaveOut_eq_one_iff
            hSm.sound.ordered rfl).mp hNow with
            ⟨-, r, hr, hBit, -⟩
          rw [(hSm.admits r hr).1] at hBit
          exact absurd hBit (by decide)
  · exact not_awaits_of_no_wifi hSpeaks
      (fun u hu => (hAfter u hu).2 q) hAwaits

theorem not_recorded_of_ds
    (hSm : NifField.ds_nif.Holds sm)
    (hSpeaks : Speaks q c) :
    ¬ Recorded q c sm.mSubscribers := by
  rintro ⟨t, hFind, hSame | ⟨-, r, hr, hBit, -⟩⟩
  · have ht := List.mem_of_find?_eq_some hFind
    rcases hSpeaks with hOwn | ⟨hBit, -⟩
    · exact (hSm.admits t ht).2 q (hSame.trans hOwn)
    · rw [← Subscriber.isBit_of_identity_eq hSame,
        (hSm.admits t ht).1] at hBit
      exact absurd hBit (by decide)
  · rw [(hSm.admits r hr).1] at hBit
    exact absurd hBit (by decide)

theorem answered_iff_of_plain
    (hSm : f.Holds sm)
    (hPlain : f ≠ .ds_nif)
    (hSpeaks : Speaks q c)
    (hFind : sm.mSubscribers.find? (·.equals c) = some t)
    (hWaits : t.waitForCloseComplete = false) :
    Answered q c
        (sm.call noDataCall (.unsubscribeRsrc c)) ↔
      Recorded q c sm.mSubscribers := by
  have ht := List.mem_of_find?_eq_some hFind
  have hState := not_released_of_mem hSm hPlain ht
  have hNoWifi :
      ∀ u ∈ sm.mSubscribers, u.identity ≠ .wifi q := by
    intro u hu hWifi
    have hList := eq_singleton_of_wifi hSm hu hWifi ht
    rw [hList] at hu
    cases List.mem_singleton.mp hu
    rcases exists_wifi hWifi with
      ⟨ssid, password, inactive, tail, rfl⟩
    cases hWaits
  have hNoAwaits :
      ¬ Awaits
        (Roster.move sm noDataCall (.unsubscribe t)).1 q
        c := by
    apply not_awaits_of_no_wifi hSpeaks
    intro u hu
    rw [Roster.mSubscribers_move_unsubscribe sm noDataCall t
      hState] at hu
    rcases Roster.mem_left hu with hu | ⟨hYes, -⟩
    · exact hNoWifi u hu
    · rw [hWaits] at hYes
      exact absurd hYes (by decide)
  rw [AgpsStateMachine.call_of_find noDataCall hFind]
  unfold Answered
  rw [responses_move q noDataCall t hState,
    responses_leaveOut_eq_one_iff hSm.sound.ordered hWaits]
  constructor
  · rintro (hBit | hAwaits)
    · exact ⟨t, hFind, Or.inr hBit⟩
    · exact absurd hAwaits hNoAwaits
  · rintro ⟨t', hFind', hSame | hBit⟩
    · cases hFind.symm.trans hFind'
      left
      rcases hSpeaks with hOwn | ⟨hBit, hq⟩
      · exact absurd (hSame.trans hOwn) (hNoWifi t ht)
      · rw [← Subscriber.isBit_of_identity_eq hSame] at hBit
        exact ⟨hq, t, ht, hBit, t.equals_self⟩
    · cases hFind.symm.trans hFind'
      exact Or.inl hBit

/-
  A release is answered if and only if the record that is
  found for the client is its own, or a BIT record leaves
  with it.
-/
theorem answered_iff_recorded
    (hSm : f.Holds sm)
    (hSpeaks : Speaks q c) :
    Answered q c
        (sm.call noDataCall (.unsubscribeRsrc c)) ↔
      Recorded q c sm.mSubscribers := by
  cases hFind : sm.mSubscribers.find? (·.equals c) with
  | none =>
      apply iff_of_false (not_answered_of_none hFind)
      rintro ⟨t, hSome, -⟩
      rw [hFind] at hSome
      cases hSome
  | some t =>
      by_cases hDs : f = .ds_nif
      · subst hDs
        exact iff_of_false
          (not_answered_of_ds hSm hSpeaks hFind)
          (not_recorded_of_ds hSm hSpeaks)
      · cases hWaits : t.waitForCloseComplete with
        | false =>
            exact answered_iff_of_plain hSm hDs hSpeaks
              hFind hWaits
        | true =>
            cases t with
            | wifi ssid password p inactive tail =>
                exact answered_iff_of_wifi hSm hSpeaks hFind
                  rfl
            | ds id inactive =>
                have ht := List.mem_of_find?_eq_some hFind
                have hKind := hSm.admits _ ht
                cases f with
                | ds_nif => exact absurd rfl hDs
                | agnss_nif => cases hKind
                | internet_nif => cases hKind
                | wifi_nif => cases hKind
            | bit ipv4 ipv6 => cases hWaits
            | atl id mode tail => cases hWaits

end Nifs

end Agps

end D2Common

------------------------------------------------------------
-- Releases in a Run
------------------------------------------------------------

namespace D2Common

namespace Agps

namespace Nifs

/-
  In every reachable state a release message is answered,
  now or at the close, if and only if the search finds the
  client's own record, or one with which a BIT record leaves
  where the daemon itself is to be answered.
-/
theorem release_answered_iff
    (abi : DmnConn.Abi)
    (is : List Input)
    (msg : DmnConn.LocMsg)
    (tail : IPv6Addr)
    (sm : AgpsStateMachine)
    (hNif : ((engine abi).run is).nif msg.nif = some sm)
    (hRelease : msg.mIsReq = false) :
    let r := ((engine abi).run is).proc tail msg
    let c := (msg.client tail).subscriber
    (∃ sm', r.1.nif msg.nif = some sm' ∧
        Answered msg.sender c (sm', r.2)) ↔
      Recorded msg.sender c sm.mSubscribers := by
  intro r c
  have hSm := inv_run abi is msg.nif sm hNif
  have hProc : r =
      ((engine abi).run is).returnedTo msg.nif
        (sm.call noDataCall (.unsubscribeRsrc c)) := by
    have hCall := proc_eq hNif tail
    rw [hRelease] at hCall
    exact hCall
  rw [← answered_iff_recorded hSm (speaks_client msg tail),
    hProc, nif_returnedTo, if_pos rfl, snd_returnedTo]
  constructor
  · rintro ⟨sm', hSm', hAnswered⟩
    cases hSm'
    exact hAnswered
  · intro hAnswered
    exact ⟨_, rfl, hAnswered⟩

/- A release from a WIFI client. -/
def wifiRelease : DmnConn.LocMsg :=
  .reqRelWifi DmnConn.agpsTypeWifi .msapm [1] [2] false

/- The bytes by which that client has asked. -/
def wifiRequest : DmnConn.Mem := fun n =>
  if n = DmnConn.Abi.ilp32.type then 1
  else if n = DmnConn.Abi.ilp32.senderId then 1
  else if n = DmnConn.Abi.ilp32.ssid then 1
  else if n = DmnConn.Abi.ilp32.password then 2
  else 0

/- The client asks and is connected. -/
def connectedRun : List Input :=
  [.agpsInit true true true,
    .ifRequest wifiRequest 128 (Vector.replicate 16 0),
    .agpsOpen DmnConn.agpsTypeWifi (some [105]) 1 noDataCall]

theorem release_answered_iff_wifi :
    let e := (engine .ilp32).run connectedRun
    let r := e.proc (Vector.replicate 16 0) wifiRelease
    let c :=
      (wifiRelease.client (Vector.replicate 16 0)).subscriber
    ∃ sm, e.nif .wifi_nif = some sm ∧
      sm.mStatePtr = .acquired ∧
        Recorded .msapm c sm.mSubscribers ∧
          ∃ sm', r.1.nif .wifi_nif = some sm' ∧
            Answered .msapm c (sm', r.2) := by
  have hRecorded :
      ∀ sm ∈ ((engine .ilp32).run connectedRun).wifi_nif,
        Recorded .msapm
          (wifiRelease.client
            (Vector.replicate 16 0)).subscriber
          sm.mSubscribers := by
    rintro sm ⟨⟩
    exact ⟨_, rfl, Or.inl rfl⟩
  exact
    ⟨_, rfl, rfl, hRecorded _ rfl,
      (release_answered_iff .ilp32 connectedRun wifiRelease
        (Vector.replicate 16 0) _ rfl rfl).mpr
        (hRecorded _ rfl)⟩

/-
  A BIT client that is not on the list releases: nothing is
  sent, now or later.
-/
theorem release_unanswered :
    let e := (engine .ilp32).run [.agpsInit true true true]
    let msg :=
      DmnConn.LocMsg.reqRelBIT agpsTypeSupl 1
        (Vector.replicate 16 0) false
    let r := e.proc (Vector.replicate 16 0) msg
    let c := (msg.client (Vector.replicate 16 0)).subscriber
    (∃ sm, e.nif msg.nif = some sm) ∧
      ¬ ∃ sm', r.1.nif msg.nif = some sm' ∧
        Answered msg.sender c (sm', r.2) := by
  refine
    ⟨⟨AgpsStateMachine.new agpsTypeSupl false, rfl⟩, ?_⟩
  rintro ⟨sm', hSm', hNow | ⟨⟨t, ht, -⟩, -⟩⟩
  · cases hNow
  · cases hSm'
    cases ht

end Nifs

end Agps

end D2Common
