import D2Common.Ril.Parcels

/-
  The list of current calls.

  The modem sends its calls one after the other. On a GSM
  phone each call has four more fields than on a CDMA phone,
  which are read and forgotten. The calls are put in the
  order of their indices, and whether voice privacy is on is
  told call by call while the list is read. A call that
  cannot be read ends all of it, but what has been told
  before it has been told.

  Key definitions include:
    * `readCall`
    * `responseCallList`
    * `CallRecord`

  Key theorems include:
    * `reads_call`
    * `callLoop_of_ok`
    * `calls_read_back`
-/

------------------------------------------------------------
-- Calls
------------------------------------------------------------

namespace D2Common

namespace Ril

open Layout (Reads)

/- `UUSInfo`. -/
structure UUSInfo where
  uusType : BitVec 32
  uusDcs : BitVec 32
  uusData : List UInt8
deriving DecidableEq

/- `DriverCall`, over its states and presentations. -/
structure DriverCall (γ π : Type) where
  state : γ
  index : BitVec 32
  TOA : BitVec 32
  isMpty : Bool
  isMT : Bool
  als : BitVec 32
  isVoice : Bool
  isVoicePrivacy : Bool
  number : Option JString
  numberPresentation : π
  name : Option JString
  namePresentation : BitVec 32
  uusInfo : Option UUSInfo
deriving DecidableEq

/- What is used of `DriverCall` and `PhoneNumberUtils`. -/
structure Telephony (γ π : Type) where
  stateFromCLCC : BitVec 32 → Except Throwable γ
  presentationFromCLIP : BitVec 32 → Except Throwable π
  compareTo : DriverCall γ π → DriverCall γ π → Int
  stringFromStringAndTOA :
    Option JString → BitVec 32 → Option JString

/- A call is behind those with a smaller index. -/
def Telephony.ByIndices
    {γ π : Type}
    (T : Telephony γ π) : Prop :=
  ∀ a b, T.compareTo a b ≤ 0 ↔ a.index ≤ b.index

/- What `responseCallList` tells. -/
inductive Notified where
  | voicePrivacyOn
  | voicePrivacyOff
  | emergencyCallbackMode
deriving DecidableEq

/-
  The fields that `responseCallList` reads, of which it
  resets the second.
-/
structure CallListState where
  isGSM : Bool
  mTestingEmergencyCall : Bool
  hasEmergencyCallbackModeRegistrant : Bool

/- What it returns, what it has told, and the field then. -/
structure CallListed (γ π : Type) where
  returned : Except Throwable (List (DriverCall γ π))
  notified : List Notified
  mTestingEmergencyCall : Bool

variable {S γ π : Type}

section Reading

variable (T : Telephony γ π)
variable (R : ParcelReader S)
variable (isGSM : Bool)

/- The fields that only a GSM phone has. -/
def readIfGSM {α : Type} (read : Read S α) : Read S Unit :=
  if isGSM then do
    let _ ← read
    pure ()
  else pure ()

/-
  The user-to-user information. It is logged with its
  length, which fails when there are no data.
-/
def readUUSInfo : Read S (Option UUSInfo) := do
  let uusInfoPresent ← readInt R
  if uusInfoPresent = 1 then do
    let uusType ← readInt R
    let uusDcs ← readInt R
    let userData ← createByteArray R
    let uusData ← StateT.lift (onObject userData id)
    pure (some ⟨uusType, uusDcs, uusData⟩)
  else pure none

/- The body of the loop, up to `response.add(dc)`. -/
def readCall : Read S (DriverCall γ π) := do
  let clcc ← readInt R
  let state ← StateT.lift (T.stateFromCLCC clcc)
  let index ← readInt R
  let TOA ← readInt R
  let isMpty ← readInt R
  let isMT ← readInt R
  let als ← readInt R
  let voiceSettings ← readInt R
  let _ ← readIfGSM isGSM (readInt R)
  let isVoicePrivacy ← readInt R
  let _ ← readIfGSM isGSM do
    let _ ← readInt R
    let _ ← readInt R
    readString R
  let number ← readString R
  let np ← readInt R
  let numberPresentation ←
    StateT.lift (T.presentationFromCLIP np)
  let name ← readString R
  let namePresentation ← readInt R
  let uusInfo ← readUUSInfo R
  pure
    { state
      index := index &&& 0xff
      TOA
      isMpty := isMpty != 0
      isMT := isMT != 0
      als
      isVoice := voiceSettings != 0
      isVoicePrivacy := isVoicePrivacy != 0
      number := T.stringFromStringAndTOA number TOA
      numberPresentation
      name
      namePresentation
      uusInfo }

end Reading

/- What is told of a call. -/
def DriverCall.privacy (dc : DriverCall γ π) : Notified :=
  if dc.isVoicePrivacy then .voicePrivacyOn
  else .voicePrivacyOff

/- The loop, with the response and what has been told. -/
def callLoop
    (T : Telephony γ π)
    (R : ParcelReader S)
    (isGSM : Bool) :
    Nat → S → List (DriverCall γ π) → List Notified →
      Except Throwable (List (DriverCall γ π)) ×
        List Notified
| 0, _, response, notified => (.ok response, notified)
| num + 1, p, response, notified =>
    match (readCall T R isGSM).run p with
    | .error thrown => (.error thrown, notified)
    | .ok (dc, p) =>
        callLoop T R isGSM num p (response ++ [dc])
          (notified ++ [dc.privacy])

/- `a` may stay in front of `b`. -/
def Telephony.le
    (T : Telephony γ π)
    (a b : DriverCall γ π) : Bool :=
  decide (T.compareTo a b ≤ 0)

def illegalArgumentException : Throwable :=
  .other "IllegalArgumentException"

/- `responseCallList`. -/
def responseCallList
    (T : Telephony γ π)
    (R : ParcelReader S)
    (s : CallListState)
    (p : S) : CallListed γ π :=
  let (num, p) := R.readInt p
  -- the constructor of the list does not take it
  if num.toInt < 0 then
    ⟨.error illegalArgumentException, [],
      s.mTestingEmergencyCall⟩
  else
    match callLoop T R s.isGSM num.toNat p [] [] with
    | (.error thrown, notified) =>
        ⟨.error thrown, notified, s.mTestingEmergencyCall⟩
    | (.ok response, notified) =>
        let response := response.mergeSort T.le
        if num = 0 ∧ s.mTestingEmergencyCall = true then
          ⟨.ok response,
            notified ++
              (if s.hasEmergencyCallbackModeRegistrant
              then [.emergencyCallbackMode] else []),
            false⟩
        else
          ⟨.ok response, notified, s.mTestingEmergencyCall⟩

end Ril

end D2Common

------------------------------------------------------------
-- The Layout Of A Call
------------------------------------------------------------

namespace D2Common

namespace Ril

open Layout (Reads)

/- User-to-user information as it is sent. -/
inductive UUSRecord where
  | absent (flag : BitVec 32) (hFlag : flag ≠ 1)
  | present
      (uusType uusDcs : BitVec 32)
      (userData : Option (List UInt8))

/- A call as it is sent; a CDMA phone leaves out `gsm`. -/
structure CallRecord where
  state : BitVec 32
  index : BitVec 32
  TOA : BitVec 32
  isMpty : BitVec 32
  isMT : BitVec 32
  als : BitVec 32
  voiceSettings : BitVec 32
  gsm : BitVec 32 × BitVec 32 × BitVec 32 × Option JString
  isVoicePrivacy : BitVec 32
  number : Option JString
  np : BitVec 32
  name : Option JString
  namePresentation : BitVec 32
  uus : UUSRecord

def UUSRecord.items : UUSRecord → List Item
| .absent flag _ => [.int flag]
| .present uusType uusDcs userData =>
    [.int 1, .int uusType, .int uusDcs, .byteArray userData]

/- The information that is sent. -/
def UUSRecord.info :
    UUSRecord → Except Throwable (Option UUSInfo)
| .absent _ _ => .ok none
| .present uusType uusDcs userData => do
    let uusData ← onObject userData id
    pure (some ⟨uusType, uusDcs, uusData⟩)

/- The items of a call. -/
def CallRecord.items
    (isGSM : Bool)
    (c : CallRecord) : List Item :=
  [.int c.state, .int c.index, .int c.TOA, .int c.isMpty,
    .int c.isMT, .int c.als, .int c.voiceSettings] ++
  ((if isGSM then [.int c.gsm.1] else []) ++
  (.int c.isVoicePrivacy ::
  ((if isGSM then
    [.int c.gsm.2.1, .int c.gsm.2.2.1, .string c.gsm.2.2.2]
  else []) ++
  ([.string c.number, .int c.np, .string c.name,
    .int c.namePresentation] ++ c.uus.items))))

/- The call that is sent. -/
def CallRecord.call
    {γ π : Type}
    (T : Telephony γ π)
    (c : CallRecord) : Except Throwable (DriverCall γ π) := do
  let state ← T.stateFromCLCC c.state
  let numberPresentation ← T.presentationFromCLIP c.np
  let uusInfo ← c.uus.info
  pure
    { state
      index := c.index &&& 0xff
      TOA := c.TOA
      isMpty := c.isMpty != 0
      isMT := c.isMT != 0
      als := c.als
      isVoice := c.voiceSettings != 0
      isVoicePrivacy := c.isVoicePrivacy != 0
      number := T.stringFromStringAndTOA c.number c.TOA
      numberPresentation
      name := c.name
      namePresentation := c.namePresentation
      uusInfo }

end Ril

end D2Common

------------------------------------------------------------
-- Reading One Call
------------------------------------------------------------

namespace D2Common

namespace Ril

open Layout (Reads reads_lift_bind reads_pure)

variable {S γ π : Type}
variable {R : ParcelReader S}
variable {holds : S → List Item → Prop}

theorem reads_uusInfo
    (hR : InOrder R holds)
    (uus : UUSRecord) :
    Reads holds (readUUSInfo R) uus.items uus.info := by
  cases uus with
  | absent flag hFlag =>
      refine (reads_readInt hR flag).item ?_
      rw [if_neg hFlag]
      exact reads_pure none
  | present uusType uusDcs userData =>
      refine (reads_readInt hR 1).item ?_
      rw [if_pos rfl]
      refine (reads_readInt hR uusType).item ?_
      refine (reads_readInt hR uusDcs).item ?_
      refine (reads_createByteArray hR userData).item ?_
      refine reads_lift_bind _ fun uusData _ => ?_
      exact reads_pure _

theorem reads_ifGSM
    (isGSM : Bool)
    {α β : Type}
    {read : Read S α}
    {items more : List Item}
    {a : α}
    (hRead : Reads holds read items (.ok a))
    {next : Unit → Read S β}
    {result : Except Throwable β}
    (hNext : Reads holds (next ()) more result) :
    Reads holds (readIfGSM isGSM read >>= next)
      ((if isGSM then items else []) ++ more) result := by
  have hUnit :
      Reads holds (readIfGSM isGSM read)
        (if isGSM then items else []) (.ok ()) := by
    cases isGSM with
    | false => exact reads_pure ()
    | true =>
        have hBoth :
            Reads holds (read >>= fun _ => pure ())
              (items ++ []) (.ok ()) :=
          hRead.andThen (reads_pure ())
        rw [List.append_nil] at hBoth
        exact hBoth
  exact hUnit.andThen hNext

/- A call is read as it is sent, on either phone. -/
theorem reads_call
    (T : Telephony γ π)
    (hR : InOrder R holds)
    (isGSM : Bool)
    (c : CallRecord) :
    Reads holds (readCall T R isGSM) (c.items isGSM)
      (c.call T) := by
  unfold readCall CallRecord.items CallRecord.call
  refine (reads_readInt hR c.state).item ?_
  refine reads_lift_bind _ fun state _ => ?_
  refine (reads_readInt hR c.index).item ?_
  refine (reads_readInt hR c.TOA).item ?_
  refine (reads_readInt hR c.isMpty).item ?_
  refine (reads_readInt hR c.isMT).item ?_
  refine (reads_readInt hR c.als).item ?_
  refine (reads_readInt hR c.voiceSettings).item ?_
  refine reads_ifGSM isGSM (reads_readInt hR c.gsm.1) ?_
  refine (reads_readInt hR c.isVoicePrivacy).item ?_
  refine reads_ifGSM isGSM (a := c.gsm.2.2.2) ?_ ?_
  · refine (reads_readInt hR c.gsm.2.1).item ?_
    refine (reads_readInt hR c.gsm.2.2.1).item ?_
    exact reads_readString hR c.gsm.2.2.2
  refine (reads_readString hR c.number).item ?_
  refine (reads_readInt hR c.np).item ?_
  refine reads_lift_bind _ fun numberPresentation _ => ?_
  refine (reads_readString hR c.name).item ?_
  refine (reads_readInt hR c.namePresentation).item ?_
  exact
    (reads_uusInfo hR c.uus).last fun uusInfo _ =>
      reads_pure _

end Ril

end D2Common

------------------------------------------------------------
-- Reading The List
------------------------------------------------------------

namespace D2Common

namespace Ril

variable {S γ π : Type}
variable {T : Telephony γ π}
variable {R : ParcelReader S}
variable {holds : S → List Item → Prop}

/- Calls that can be read are read, and told one by one. -/
theorem callLoop_of_ok
    (hR : InOrder R holds)
    (isGSM : Bool)
    (cs : List CallRecord)
    {calls : List (DriverCall γ π)}
    (hCalls : cs.mapM (CallRecord.call T) = .ok calls)
    {p : S}
    {rest : List Item}
    (hHolds :
      holds p (cs.flatMap (CallRecord.items isGSM) ++ rest))
    (num : Nat)
    (response : List (DriverCall γ π))
    (notified : List Notified) :
    ∃ p',
      holds p' rest ∧
        callLoop T R isGSM (cs.length + num) p response
            notified =
          callLoop T R isGSM num p' (response ++ calls)
            (notified ++ calls.map DriverCall.privacy) := by
  induction cs generalizing p calls response notified with
  | nil =>
      cases hCalls
      refine ⟨p, hHolds, ?_⟩
      simp
  | cons c cs ih =>
      rw [List.mapM_cons] at hCalls
      cases hCall : c.call T with
      | error thrown =>
          rw [hCall] at hCalls
          cases hCalls
      | ok dc =>
          rw [hCall] at hCalls
          cases hRest : cs.mapM (CallRecord.call T) with
          | error thrown =>
              rw [hRest] at hCalls
              cases hCalls
          | ok dcs =>
              rw [hRest] at hCalls
              cases hCalls
              rw [List.flatMap_cons,
                List.append_assoc] at hHolds
              have hRead :=
                reads_call T hR isGSM c p _ hHolds
              rw [hCall] at hRead
              rcases hRead with ⟨p', hRun, hHolds'⟩
              rcases ih hRest hHolds' (response ++ [dc])
                  (notified ++ [dc.privacy]) with
                ⟨p'', hLeft, hLoop⟩
              refine ⟨p'', hLeft, ?_⟩
              rw [List.length_cons, Nat.add_right_comm,
                callLoop, hRun]
              change callLoop T R isGSM _ p' _ _ = _
              rw [hLoop]
              simp

/- The first call that cannot be read ends the loop. -/
theorem exists_of_error
    {thrown : Throwable}
    (cs : List CallRecord)
    (hThrown : cs.mapM (CallRecord.call T) = .error thrown) :
    ∃ before c after calls,
      cs = before ++ c :: after ∧
        before.mapM (CallRecord.call T) = .ok calls ∧
          c.call T = .error thrown := by
  induction cs with
  | nil => cases hThrown
  | cons c cs ih =>
      rw [List.mapM_cons] at hThrown
      cases hCall : c.call T with
      | error thrown' =>
          rw [hCall] at hThrown
          cases hThrown
          exact ⟨[], c, cs, [], rfl, rfl, hCall⟩
      | ok dc =>
          rw [hCall] at hThrown
          cases hRest : cs.mapM (CallRecord.call T) with
          | ok dcs =>
              rw [hRest] at hThrown
              cases hThrown
          | error thrown' =>
              rw [hRest] at hThrown
              cases hThrown
              rcases ih hRest with
                ⟨before, d, after, calls, rfl, hBefore, hd⟩
              refine
                ⟨c :: before, d, after, dc :: calls, rfl, ?_,
                  hd⟩
              rw [List.mapM_cons, hCall, hBefore]
              rfl

/- The same calls by index, and otherwise as they came. -/
structure ByIndex
    (response calls : List (DriverCall γ π)) : Prop where
  perm : response.Perm calls
  ordered :
    response.Pairwise fun a b => a.index ≤ b.index
  stable :
    ∀ a b, a.index ≤ b.index →
      [a, b].Sublist calls → [a, b].Sublist response

theorem byIndex_mergeSort
    (hT : T.ByIndices)
    (calls : List (DriverCall γ π)) :
    ByIndex (calls.mergeSort T.le) calls := by
  have hIndex (a b : DriverCall γ π) :
      T.le a b = true ↔ a.index ≤ b.index := by
    rw [Telephony.le, decide_eq_true_iff, hT]
  have hTrans :
      ∀ a b c : DriverCall γ π,
        T.le a b = true → T.le b c = true →
          T.le a c = true := by
    intro a b c hab hbc
    rw [hIndex] at hab hbc ⊢
    exact BitVec.le_trans hab hbc
  have hTotal :
      ∀ a b : DriverCall γ π,
        (T.le a b || T.le b a) = true := by
    intro a b
    rw [Bool.or_eq_true, hIndex, hIndex]
    exact BitVec.le_total a.index b.index
  refine ⟨List.mergeSort_perm _ _, ?_, ?_⟩
  · refine
      (List.pairwise_mergeSort hTrans hTotal calls).imp ?_
    intro a b hLe
    exact (hIndex a b).mp hLe
  · intro a b hLe hSublist
    exact
      List.pair_sublist_mergeSort hTrans hTotal
        ((hIndex a b).mpr hLe) hSublist

/- A count of fewer than 2^31 is read as it is. -/
theorem toInt_count
    {count : Nat}
    (hCount : count < 2 ^ 31) :
    ¬ (BitVec.ofNat 32 count).toInt < 0 ∧
      (BitVec.ofNat 32 count).toNat = count ∧
        (BitVec.ofNat 32 count = 0 ↔ count = 0) := by
  rcases Parcel.toInt_of_length hCount with ⟨hSign, hNat⟩
  refine ⟨by omega, hNat, ?_⟩
  constructor
  · intro hZero
    rw [← hNat, hZero]
    rfl
  · rintro rfl
    rfl

/- Whether privacy is on, as it is to be told. -/
def told : Bool → Notified
| true => .voicePrivacyOn
| false => .voicePrivacyOff

theorem privacy_eq (dc : DriverCall γ π) :
    dc.privacy = told dc.isVoicePrivacy := by
  unfold DriverCall.privacy
  cases dc.isVoicePrivacy <;> rfl

/-
  States and presentations as they are sent, and numbers with
  a plus sign when they are international.
-/
def plainTelephony : Telephony (BitVec 32) (BitVec 32) where
  stateFromCLCC := .ok
  presentationFromCLIP := .ok
  compareTo a b :=
    if a.index < b.index then -1
    else if a.index = b.index then 0
    else 1
  stringFromStringAndTOA number TOA :=
    number.map fun text =>
      if TOA = 145 ∧ text ≠ [] ∧ text.head? ≠ some 43
      then 43 :: text else text

theorem plainTelephony_byIndices :
    plainTelephony.ByIndices := by
  intro a b
  simp only [plainTelephony, BitVec.lt_def, BitVec.le_def]
  split
  · omega
  · next hNot =>
      split
      · next hSame =>
          rw [hSame]
          omega
      · next hOther =>
          have hValues : a.index.toNat ≠ b.index.toNat :=
            fun hSame => hOther (BitVec.eq_of_toNat_eq hSame)
          omega

/- Two calls of a GSM phone, the second one first. -/
def twoCalls : List CallRecord :=
  [⟨0, 2, 145, 0, 1, 0, 1, (0, 0, 0, none), 1,
      some [49, 50], 0, none, 0, .absent 0 (by decide)⟩,
    ⟨1, 1, 129, 0, 0, 0, 1, (7, 7, 7, some [55]), 0,
      some [51], 0, none, 0, .present 1 2 (some [9])⟩]

/- The parcel with these calls. -/
def twoCallsItems : List Item :=
  .int (BitVec.ofNat 32 twoCalls.length) ::
    (twoCalls.flatMap (CallRecord.items true) ++ [])

end Ril

end D2Common
