import D2Common.Ril.Parcels

/-
  The status of the card.

  The modem sends the state of the card, the indices of the
  applications that are used, and the applications. Only so
  many of them are read. A CDMA phone whose card has a single
  application of the old kind is told that there are three,
  which differ in their kinds only.

  Key definitions include:
    * `readApplication`
    * `responseIccCardStatus`
    * `CardRecord`
    * `Tripled`
    * `CardRecord.Returned`

  Key theorems include:
    * `reads_application`
    * `reads_status`
    * `expand_told`
    * `card_read_back`
-/

------------------------------------------------------------
-- Cards
------------------------------------------------------------

namespace D2Common

namespace Ril

open Layout (Reads)

/- The enumerations of a card. -/
structure CardTypes where
  CardState : Type
  PinState : Type
  AppType : Type
  AppState : Type
  PersoSubState : Type

/- `IccCardApplicationStatus`. -/
structure IccCardApplicationStatus (τ : CardTypes) where
  app_type : τ.AppType
  app_state : τ.AppState
  perso_substate : τ.PersoSubState
  aid : Option JString
  app_label : Option JString
  pin1_replaced : BitVec 32
  pin1 : τ.PinState
  pin2 : τ.PinState

/- `IccCardStatus`. -/
structure IccCardStatus (τ : CardTypes) where
  mCardState : τ.CardState
  mUniversalPinState : τ.PinState
  mGsmUmtsSubscriptionAppIndex : BitVec 32
  mCdmaSubscriptionAppIndex : BitVec 32
  mImsSubscriptionAppIndex : BitVec 32
  mApplications : List (IccCardApplicationStatus τ)

/-
  What is used of these classes: the most applications of a
  card, and what numbers stand for, which may be unknown.
-/
structure CardClasses (τ : CardTypes) where
  CARD_MAX_APPS : Nat
  setCardState : BitVec 32 → Except Throwable τ.CardState
  setUniversalPinState :
    BitVec 32 → Except Throwable τ.PinState
  AppTypeFromRILInt : BitVec 32 → Except Throwable τ.AppType
  AppStateFromRILInt : BitVec 32 → Except Throwable τ.AppState
  PersoSubstateFromRILInt :
    BitVec 32 → Except Throwable τ.PersoSubState
  PinStateFromRILInt : BitVec 32 → Except Throwable τ.PinState

def negativeArraySizeException : Throwable :=
  .other "NegativeArraySizeException"

variable {S : Type}
variable {τ : CardTypes}

/- A number that stands for a member of an enumeration. -/
def readAs
    {α : Type}
    (R : ParcelReader S)
    (fromInt : BitVec 32 → Except Throwable α) :
    Read S α := do
  let n ← readInt R
  StateT.lift (fromInt n)

/- The body of the loop over the applications. -/
def readApplication
    (C : CardClasses τ)
    (R : ParcelReader S) :
    Read S (IccCardApplicationStatus τ) := do
  let app_type ← readAs R C.AppTypeFromRILInt
  let app_state ← readAs R C.AppStateFromRILInt
  let perso_substate ← readAs R C.PersoSubstateFromRILInt
  let aid ← readString R
  let app_label ← readString R
  let pin1_replaced ← readInt R
  let pin1 ← readAs R C.PinStateFromRILInt
  let pin2 ← readAs R C.PinStateFromRILInt
  -- the retries that are left
  let _ ← readInt R
  let _ ← readInt R
  let _ ← readInt R
  let _ ← readInt R
  let _ ← readInt R
  pure
    { app_type, app_state, perso_substate, aid, app_label
      pin1_replaced, pin1, pin2 }

/-
  What is done when there is one application on a CDMA phone:
  2 is the old kind, 4 and 5 are those for CDMA and IMS.
-/
def expanded
    [DecidableEq τ.AppType]
    (C : CardClasses τ)
    (cardStatus : IccCardStatus τ)
    (appStatus : IccCardApplicationStatus τ) :
    Except Throwable (IccCardStatus τ) := do
  let ruim ← C.AppTypeFromRILInt 2
  if appStatus.app_type = ruim then do
    let csim ← C.AppTypeFromRILInt 4
    let isim ← C.AppTypeFromRILInt 5
    pure
      { cardStatus with
        mGsmUmtsSubscriptionAppIndex := 0
        mCdmaSubscriptionAppIndex := 1
        mImsSubscriptionAppIndex := 2
        mApplications :=
          [appStatus, { appStatus with app_type := csim },
            { appStatus with app_type := isim }] }
  else pure cardStatus

/- The `if` behind the loop. -/
def expand
    [DecidableEq τ.AppType]
    (C : CardClasses τ)
    (isGSM : Bool)
    (cardStatus : IccCardStatus τ) :
    Except Throwable (IccCardStatus τ) :=
  match cardStatus.mApplications with
  | [appStatus] =>
      if isGSM then pure cardStatus
      else expanded C cardStatus appStatus
  | _ => pure cardStatus

/- How many applications are read, if it is a number. -/
def applicationCount
    (C : CardClasses τ)
    (numApplications : BitVec 32) : Except Throwable Nat :=
  if numApplications.toInt < 0 then
    .error negativeArraySizeException
  else .ok (min numApplications.toNat C.CARD_MAX_APPS)

/- `responseIccCardStatus`. -/
def responseIccCardStatus
    [DecidableEq τ.AppType]
    (C : CardClasses τ)
    (R : ParcelReader S)
    (isGSM : Bool) : Read S (IccCardStatus τ) := do
  let mCardState ← readAs R C.setCardState
  let mUniversalPinState ← readAs R C.setUniversalPinState
  let mGsmUmtsSubscriptionAppIndex ← readInt R
  let mCdmaSubscriptionAppIndex ← readInt R
  let mImsSubscriptionAppIndex ← readInt R
  let numApplications ← readAs R (applicationCount C)
  let mApplications ←
    Layout.times (readApplication C R) numApplications
  StateT.lift
    (expand C isGSM
      { mCardState, mUniversalPinState
        mGsmUmtsSubscriptionAppIndex
        mCdmaSubscriptionAppIndex, mImsSubscriptionAppIndex
        mApplications })

end Ril

end D2Common

------------------------------------------------------------
-- The Layout Of A Card
------------------------------------------------------------

namespace D2Common

namespace Ril

open Layout (Reads reads_lift reads_lift_bind reads_pure
  reads_times)

/- An application as it is sent. -/
structure ApplicationRecord where
  app_type : BitVec 32
  app_state : BitVec 32
  perso_substate : BitVec 32
  aid : Option JString
  app_label : Option JString
  pin1_replaced : BitVec 32
  pin1 : BitVec 32
  pin2 : BitVec 32
  pin1_num_retries : BitVec 32
  puk1_num_retries : BitVec 32
  pin2_num_retries : BitVec 32
  puk2_num_retries : BitVec 32
  perso_unblock_retries : BitVec 32

/- A card as it is sent. -/
structure CardRecord where
  cardState : BitVec 32
  universalPinState : BitVec 32
  gsmUmtsSubscriptionAppIndex : BitVec 32
  cdmaSubscriptionAppIndex : BitVec 32
  imsSubscriptionAppIndex : BitVec 32
  applications : List ApplicationRecord

def ApplicationRecord.items
    (a : ApplicationRecord) : List Item :=
  [.int a.app_type, .int a.app_state, .int a.perso_substate,
    .string a.aid, .string a.app_label, .int a.pin1_replaced,
    .int a.pin1, .int a.pin2, .int a.pin1_num_retries,
    .int a.puk1_num_retries, .int a.pin2_num_retries,
    .int a.puk2_num_retries, .int a.perso_unblock_retries]

/- The card up to its applications. -/
def CardRecord.head (c : CardRecord) : List Item :=
  [.int c.cardState, .int c.universalPinState,
    .int c.gsmUmtsSubscriptionAppIndex,
    .int c.cdmaSubscriptionAppIndex,
    .int c.imsSubscriptionAppIndex,
    .int (BitVec.ofNat 32 c.applications.length)]

def CardRecord.items (c : CardRecord) : List Item :=
  c.head ++ c.applications.flatMap ApplicationRecord.items

variable {S : Type}
variable {τ : CardTypes}

/- The application that is sent. -/
def ApplicationRecord.status
    (C : CardClasses τ)
    (a : ApplicationRecord) :
    Except Throwable (IccCardApplicationStatus τ) := do
  let app_type ← C.AppTypeFromRILInt a.app_type
  let app_state ← C.AppStateFromRILInt a.app_state
  let perso_substate ← C.PersoSubstateFromRILInt a.perso_substate
  let pin1 ← C.PinStateFromRILInt a.pin1
  let pin2 ← C.PinStateFromRILInt a.pin2
  pure
    { app_type, app_state, perso_substate
      aid := a.aid
      app_label := a.app_label
      pin1_replaced := a.pin1_replaced
      pin1, pin2 }

/- The card that is sent, with so many applications. -/
def CardRecord.status
    (C : CardClasses τ)
    (c : CardRecord) : Except Throwable (IccCardStatus τ) := do
  let mCardState ← C.setCardState c.cardState
  let mUniversalPinState ←
    C.setUniversalPinState c.universalPinState
  let mApplications ←
    (c.applications.take C.CARD_MAX_APPS).mapM
      (ApplicationRecord.status C)
  pure
    { mCardState, mUniversalPinState
      mGsmUmtsSubscriptionAppIndex :=
        c.gsmUmtsSubscriptionAppIndex
      mCdmaSubscriptionAppIndex := c.cdmaSubscriptionAppIndex
      mImsSubscriptionAppIndex := c.imsSubscriptionAppIndex
      mApplications }

variable {R : ParcelReader S}
variable {holds : S → List Item → Prop}

theorem reads_readAs
    (hR : InOrder R holds)
    {α β : Type}
    (fromInt : BitVec 32 → Except Throwable α)
    (n : BitVec 32)
    {items : List Item}
    {next : α → Read S β}
    {results : α → Except Throwable β}
    (hNext :
      ∀ a, fromInt n = .ok a →
        Reads holds (next a) items (results a)) :
    Reads holds (readAs R fromInt >>= next) (.int n :: items)
      (fromInt n >>= results) := by
  have hOne :
      Reads holds (readAs R fromInt) [.int n] (fromInt n) :=
    (reads_readInt hR n).item (reads_lift (fromInt n))
  exact hOne.bind hNext

/- An application is read as it is sent. -/
theorem reads_application
    (C : CardClasses τ)
    (hR : InOrder R holds)
    (a : ApplicationRecord) :
    Reads holds (readApplication C R) a.items
      (a.status C) := by
  unfold readApplication ApplicationRecord.items
    ApplicationRecord.status
  refine reads_readAs hR _ a.app_type fun app_type _ => ?_
  refine reads_readAs hR _ a.app_state fun app_state _ => ?_
  refine
    reads_readAs hR _ a.perso_substate
      fun perso_substate _ => ?_
  refine (reads_readString hR a.aid).item ?_
  refine (reads_readString hR a.app_label).item ?_
  refine (reads_readInt hR a.pin1_replaced).item ?_
  refine reads_readAs hR _ a.pin1 fun pin1 _ => ?_
  refine reads_readAs hR _ a.pin2 fun pin2 _ => ?_
  refine (reads_readInt hR a.pin1_num_retries).item ?_
  refine (reads_readInt hR a.puk1_num_retries).item ?_
  refine (reads_readInt hR a.pin2_num_retries).item ?_
  refine (reads_readInt hR a.puk2_num_retries).item ?_
  refine (reads_readInt hR a.perso_unblock_retries).item ?_
  exact reads_pure _

/- A count of fewer than 2^31 is cut to the maximum. -/
theorem applicationCount_eq
    (C : CardClasses τ)
    {count : Nat}
    (hCount : count < 2 ^ 31) :
    applicationCount C (BitVec.ofNat 32 count) =
      .ok (min count C.CARD_MAX_APPS) := by
  rcases Parcel.toInt_of_length hCount with ⟨hSign, hNat⟩
  unfold applicationCount
  rw [if_neg (by omega), hNat]

/- A card is read as it is sent, up to the maximum. -/
theorem reads_status
    [DecidableEq τ.AppType]
    (C : CardClasses τ)
    (hR : InOrder R holds)
    (isGSM : Bool)
    (c : CardRecord)
    (hCount : c.applications.length < 2 ^ 31) :
    Reads holds (responseIccCardStatus C R isGSM)
      (c.head ++
        (c.applications.take C.CARD_MAX_APPS).flatMap
          ApplicationRecord.items)
      (c.status C >>= expand C isGSM) := by
  have hTimes :=
    reads_times
      (c.applications.take C.CARD_MAX_APPS)
      fun a _ => reads_application C hR a
  rw [List.length_take, Nat.min_comm] at hTimes
  have hCountRead :
      Reads holds (readAs R (applicationCount C))
        [.int (BitVec.ofNat 32 c.applications.length)]
        (.ok (min c.applications.length C.CARD_MAX_APPS)) := by
    rw [← applicationCount_eq C hCount]
    exact
      (reads_readInt hR _).item
        (reads_lift (applicationCount C _))
  unfold CardRecord.status CardRecord.head
    responseIccCardStatus
  simp only [bind_assoc, pure_bind, List.cons_append,
    List.nil_append]
  refine
    reads_readAs hR _ c.cardState fun mCardState _ => ?_
  refine
    reads_readAs hR _ c.universalPinState
      fun mUniversalPinState _ => ?_
  refine
    (reads_readInt hR c.gsmUmtsSubscriptionAppIndex).item ?_
  refine
    (reads_readInt hR c.cdmaSubscriptionAppIndex).item ?_
  refine (reads_readInt hR c.imsSubscriptionAppIndex).item ?_
  refine hCountRead.item ?_
  exact
    hTimes.last fun mApplications _ =>
      reads_lift (expand C isGSM _)

end Ril

end D2Common

------------------------------------------------------------
-- What The Phone Is Told Of A Card
------------------------------------------------------------

namespace D2Common

namespace Ril

open Layout (Reads)

variable {S : Type}
variable {τ : CardTypes}

/- The indices of a card are those of applications. -/
def IccCardStatus.InRange (status : IccCardStatus τ) : Prop :=
  let count := status.mApplications.length
  status.mGsmUmtsSubscriptionAppIndex.toNat < count ∧
    status.mCdmaSubscriptionAppIndex.toNat < count ∧
      status.mImsSubscriptionAppIndex.toNat < count

/- A CDMA phone whose card has a single application. -/
def IccCardStatus.Single
    (isGSM : Bool)
    (sent : IccCardStatus τ)
    (app : IccCardApplicationStatus τ) : Prop :=
  isGSM = false ∧ sent.mApplications = [app]

/-
  Three applications for one of the old kind: they differ in
  their kinds only. That for GSM is the one that was sent,
  and those for CDMA and IMS are of the kinds 4 and 5.
-/
structure Tripled
    (C : CardClasses τ)
    (app : IccCardApplicationStatus τ)
    (sent status : IccCardStatus τ) : Prop where
  ruim : C.AppTypeFromRILInt 2 = .ok app.app_type
  count : status.mApplications.length = 3
  gsm :
    status.mApplications[
        status.mGsmUmtsSubscriptionAppIndex.toNat]? =
      some app
  cdma :
    ∃ csim, C.AppTypeFromRILInt 4 = .ok csim ∧
      status.mApplications[
          status.mCdmaSubscriptionAppIndex.toNat]? =
        some { app with app_type := csim }
  ims :
    ∃ isim, C.AppTypeFromRILInt 5 = .ok isim ∧
      status.mApplications[
          status.mImsSubscriptionAppIndex.toNat]? =
        some { app with app_type := isim }
  indices :
    [status.mGsmUmtsSubscriptionAppIndex,
      status.mCdmaSubscriptionAppIndex,
      status.mImsSubscriptionAppIndex] = [0, 1, 2]
  state : status.mCardState = sent.mCardState
  pin : status.mUniversalPinState = sent.mUniversalPinState

theorem Tripled.inRange
    {C : CardClasses τ}
    {app : IccCardApplicationStatus τ}
    {sent status : IccCardStatus τ}
    (hTripled : Tripled C app sent status) :
    status.InRange := by
  rcases hTripled.cdma with ⟨csim, -, hCdma⟩
  rcases hTripled.ims with ⟨isim, -, hIms⟩
  exact
    ⟨(List.getElem?_eq_some_iff.mp hTripled.gsm).1,
      (List.getElem?_eq_some_iff.mp hCdma).1,
      (List.getElem?_eq_some_iff.mp hIms).1⟩

/- One of the three kinds is unknown to the phone. -/
def UnknownKind
    (C : CardClasses τ)
    (app : IccCardApplicationStatus τ)
    (thrown : Throwable) : Prop :=
  C.AppTypeFromRILInt 2 = .error thrown ∨
    C.AppTypeFromRILInt 2 = .ok app.app_type ∧
      (C.AppTypeFromRILInt 4 = .error thrown ∨
        (∃ csim, C.AppTypeFromRILInt 4 = .ok csim) ∧
          C.AppTypeFromRILInt 5 = .error thrown)

/- What the phone is told of a card that has been read. -/
inductive IccCardStatus.Told
    (C : CardClasses τ)
    (isGSM : Bool)
    (sent : IccCardStatus τ) :
    Except Throwable (IccCardStatus τ) → Prop where
  | asSent
      (hOther :
        ∀ app, sent.Single isGSM app →
          ∃ ruim, C.AppTypeFromRILInt 2 = .ok ruim ∧
            ruim ≠ app.app_type) :
      Told C isGSM sent (.ok sent)
  | tripled
      {app : IccCardApplicationStatus τ}
      {status : IccCardStatus τ}
      (hSingle : sent.Single isGSM app)
      (hTripled : Tripled C app sent status) :
      Told C isGSM sent (.ok status)
  | unknown
      {app : IccCardApplicationStatus τ}
      {thrown : Throwable}
      (hSingle : sent.Single isGSM app)
      (hUnknown : UnknownKind C app thrown) :
      Told C isGSM sent (.error thrown)

theorem expanded_told
    [DecidableEq τ.AppType]
    (C : CardClasses τ)
    {sent : IccCardStatus τ}
    {app : IccCardApplicationStatus τ}
    (hSingle : sent.Single false app) :
    sent.Told C false (expanded C sent app) := by
  unfold expanded
  cases hRuim : C.AppTypeFromRILInt 2 with
  | error thrown => exact .unknown hSingle (Or.inl hRuim)
  | ok ruim =>
      by_cases hKind : app.app_type = ruim
      · subst hKind
        simp only [bind, Except.bind, if_true]
        cases hCsim : C.AppTypeFromRILInt 4 with
        | error thrown =>
            exact
              .unknown hSingle (Or.inr ⟨hRuim, Or.inl hCsim⟩)
        | ok csim =>
            cases hIsim : C.AppTypeFromRILInt 5 with
            | error thrown =>
                exact
                  .unknown hSingle
                    (Or.inr
                      ⟨hRuim, Or.inr ⟨⟨csim, hCsim⟩, hIsim⟩⟩)
            | ok isim =>
                exact
                  .tripled hSingle
                    ⟨hRuim, rfl, rfl, ⟨csim, hCsim, rfl⟩,
                      ⟨isim, hIsim, rfl⟩, rfl, rfl, rfl⟩
      · simp only [bind, Except.bind, if_neg hKind]
        refine .asSent fun app' hSingle' => ⟨ruim, hRuim, ?_⟩
        have hSame : app' = app := by
          have hLists := hSingle'.2.symm.trans hSingle.2
          simpa using hLists
        rw [hSame]
        exact fun hEq => hKind hEq.symm

/- What becomes of a card. -/
theorem expand_told
    [DecidableEq τ.AppType]
    (C : CardClasses τ)
    (isGSM : Bool)
    (sent : IccCardStatus τ) :
    sent.Told C isGSM (expand C isGSM sent) := by
  unfold expand
  split
  · next app hApps =>
      cases isGSM with
      | true =>
          exact .asSent fun app' hSingle => by cases hSingle.1
      | false =>
          rw [if_neg Bool.false_ne_true]
          exact expanded_told C ⟨rfl, hApps⟩
  · next hOther =>
      exact
        .asSent fun app hSingle =>
          absurd hSingle.2 (hOther app)

/- As many applications as were sent, up to the maximum. -/
theorem length_applications
    {C : CardClasses τ}
    {c : CardRecord}
    {status : IccCardStatus τ}
    (hStatus : c.status C = .ok status) :
    status.mApplications.length =
      min C.CARD_MAX_APPS c.applications.length := by
  unfold CardRecord.status at hStatus
  rcases Layout.ok_of_bind hStatus with ⟨mCardState, -, hPin⟩
  rcases Layout.ok_of_bind hPin with
    ⟨mUniversalPinState, -, hApps⟩
  rcases Layout.ok_of_bind hApps with
    ⟨mApplications, hRead, hAll⟩
  cases hAll
  rw [Layout.length_of_mapM _ hRead, List.length_take]

variable {R : ParcelReader S}
variable {holds : S → List Item → Prop}

/-
  What is returned for a card, and what is left then: what
  one of its numbers throws, or what the phone is told.
-/
inductive CardRecord.Returned
    (C : CardClasses τ)
    (isGSM : Bool)
    (c : CardRecord)
    (left : S → Prop) :
    Except Throwable (IccCardStatus τ × S) → Prop where
  | unread
      {thrown : Throwable}
      (hThrown : c.status C = .error thrown) :
      Returned C isGSM c left (.error thrown)
  | thrown
      {sent : IccCardStatus τ}
      {thrown : Throwable}
      (hSent : c.status C = .ok sent)
      (hTold : sent.Told C isGSM (.error thrown)) :
      Returned C isGSM c left (.error thrown)
  | told
      {sent status : IccCardStatus τ}
      {p' : S}
      (hLeft : left p')
      (hSent : c.status C = .ok sent)
      (hCount :
        sent.mApplications.length =
          min C.CARD_MAX_APPS c.applications.length)
      (hTold : sent.Told C isGSM (.ok status))
      (hRange : sent.InRange → status.InRange) :
      Returned C isGSM c left (.ok (status, p'))

/-
  Whatever card the modem sends, what is thrown is what one
  of its numbers throws, and otherwise the phone is told of
  the first applications, no more than there may be. The
  card is told as it is, or, on a CDMA phone that has a
  single application of the old kind, with three for it.
  Only the applications that are too many are left in the
  parcel.
-/
theorem card_read_back
    [DecidableEq τ.AppType]
    (C : CardClasses τ)
    (hR : InOrder R holds)
    (isGSM : Bool)
    (c : CardRecord)
    (hCount : c.applications.length < 2 ^ 31)
    {p : S}
    {rest : List Item}
    (hHolds : holds p (c.items ++ rest)) :
    c.Returned C isGSM
      (fun p' =>
        holds p'
          ((c.applications.drop C.CARD_MAX_APPS).flatMap
            ApplicationRecord.items ++ rest))
      ((responseIccCardStatus C R isGSM).run p) := by
  have hSplit :
      c.items ++ rest =
        (c.head ++
          (c.applications.take C.CARD_MAX_APPS).flatMap
            ApplicationRecord.items) ++
        ((c.applications.drop C.CARD_MAX_APPS).flatMap
          ApplicationRecord.items ++ rest) := by
    have hApps :=
      List.take_append_drop C.CARD_MAX_APPS c.applications
    rw [CardRecord.items]
    conv_lhs => rw [← hApps]
    rw [List.flatMap_append]
    simp only [List.append_assoc]
  rw [hSplit] at hHolds
  have hRead :=
    reads_status C hR isGSM c hCount p _ hHolds
  cases hSent : c.status C with
  | error thrown =>
      have hBind :
          (Except.error thrown >>= expand C isGSM) =
            .error thrown :=
        rfl
      rw [hSent, hBind] at hRead
      rw [hRead]
      exact .unread hSent
  | ok sent =>
      have hBind :
          (Except.ok sent >>= expand C isGSM) =
            expand C isGSM sent :=
        rfl
      have hTold := expand_told C isGSM sent
      rw [hSent, hBind] at hRead
      cases hResult : expand C isGSM sent with
      | error thrown =>
          rw [hResult] at hRead hTold
          rw [hRead]
          exact .thrown hSent hTold
      | ok status =>
          rw [hResult] at hRead hTold
          rcases hRead with ⟨p', hRun, hLeft⟩
          rw [hRun]
          refine
            .told hLeft hSent (length_applications hSent) hTold
              ?_
          intro hRange
          cases hTold with
          | asSent _ => exact hRange
          | tripled _ hTripled => exact hTripled.inRange

/- Enumerations that are numbers. -/
abbrev plainTypes : CardTypes :=
  ⟨BitVec 32, BitVec 32, BitVec 32, BitVec 32, BitVec 32⟩

def plainClasses : CardClasses plainTypes :=
  ⟨8, .ok, .ok, .ok, .ok, .ok, .ok⟩

/- A card with one application of the old kind. -/
def ruimCard : CardRecord :=
  ⟨1, 0, 0, 0, 0,
    [⟨2, 5, 0, some [65], none, 0, 1, 1, 3, 10, 3, 10, 0⟩]⟩

/- It is told with the three kinds, each at its index. -/
theorem card_read_back_ruimCard :
    ∃ app status p',
      (responseIccCardStatus plainClasses Parcel.reader
            false).run
          (Parcel.of (ruimCard.items ++ [])) =
        .ok (status, p') ∧
      Tripled plainClasses app
        ⟨1, 0, 0, 0, 0, [app]⟩ status := by
  have hHolds :
      (Parcel.of (ruimCard.items ++ [])).Holds
        (ruimCard.items ++ []) :=
    Parcel.holds_of (by
      simp [ruimCard, CardRecord.items, CardRecord.head,
        ApplicationRecord.items, Item.Fits])
  have hRead :=
    card_read_back plainClasses inOrder_bytes false ruimCard
      (by decide) hHolds
  cases hRun :
      (responseIccCardStatus plainClasses Parcel.reader
          false).run
        (Parcel.of (ruimCard.items ++ [])) with
  | error thrown =>
      rw [hRun] at hRead
      cases hRead with
      | unread hThrown => cases hThrown
      | thrown hSent hTold =>
          cases hTold with
          | unknown _ hUnknown =>
              simp [UnknownKind, plainClasses] at hUnknown
  | ok result =>
      rw [hRun] at hRead
      cases hRead with
      | told _ hSent _ hTold _ =>
          cases hSent
          cases hTold with
          | asSent hOther =>
              rcases hOther _ ⟨rfl, rfl⟩ with
                ⟨ruim, hRuim, hKind⟩
              cases hRuim
              exact absurd rfl hKind
          | tripled hSingle hTripled =>
              rcases hSingle with ⟨-, hApps⟩
              cases hApps
              exact ⟨_, _, _, rfl, hTripled⟩

end Ril

end D2Common
