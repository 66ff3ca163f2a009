import D2Common.Ril.Solicited

/-
  Which replies reach the one who has asked.

  A reply that is read by `d2lteRIL` is answered exactly
  when no exception is thrown while it is read, and it is
  answered without an exception, whatever its error code is.
  All other replies are answered by the base class.

  Key definitions include:
    * `Pending`
    * `ReportsErrors`
    * `Answered`
    * `StaysError`
    * `Readable`

  Key theorems include:
    * `readReply_completes_iff`
    * `processSolicited_eq`
    * `answered_iff`
    * `staysError_iff`
-/

------------------------------------------------------------
-- Arrays That Can Be Read
------------------------------------------------------------

namespace D2Common

namespace Ril

variable {S μ ω : Type}

/- A call that returns. -/
def Completes
    {α : Type}
    (call : Except Throwable α) : Prop :=
  ∃ value, call = .ok value

/-
  A state of data registration on GSM: the technology is
  only looked at when the network is the first one.
-/
def GsmReadable (response : StringArray) : Prop :=
  4 < response.length →
    response[0]? ≠ some none ∧
      (response[0]? = some (some (literal "1")) →
        response[3]? ≠ some none)

/- A field that is `null`, or a number in some notation. -/
def IsNumber
    (digit : CharDigit)
    (field : Option JString) : Prop :=
  ∀ text, field = some text →
    parseInt digit text 10 ≠ none ∨
      parseInt digit text 16 ≠ none

/- A state of registration on CDMA. -/
def CdmaReadable
    (digit : CharDigit)
    (response : StringArray) : Prop :=
  10 ≤ response.length →
    ∀ i ∈ [6, 7, 8, 9], ∀ field,
      response[i]? = some field → IsNumber digit field

/-
  What is read without an exception: a state of voice
  registration on GSM, which is not looked at and may be
  `null`, and some arrays.
-/
def Readable
    (digit : CharDigit)
    (isGSM : Bool)
    (response : Option StringArray) : RequestCode → Prop
| .voiceRegistrationState =>
    isGSM = true ∨
      ∃ array, response = some array ∧
        CdmaReadable digit array
| .dataRegistrationState =>
    ∃ array, response = some array ∧
      if isGSM then GsmReadable array
      else CdmaReadable digit array
| .operator =>
    ∃ array, response = some array ∧ 2 ≤ array.length
| .other _ => False

theorem completes_ok
    {α : Type}
    (value : α) :
    Completes (.ok value) :=
  ⟨value, rfl⟩

theorem not_completes_error
    {α : Type}
    (thrown : Throwable) :
    ¬ Completes (.error thrown : Except Throwable α) := by
  rintro ⟨value, hValue⟩
  cases hValue

theorem completes_map_iff
    {α β : Type}
    {call : Except Throwable α}
    {f : α → β} :
    Completes (call.map f) ↔ Completes call := by
  cases call with
  | error thrown =>
      exact
        iff_of_false (not_completes_error thrown)
          (not_completes_error thrown)
  | ok value =>
      exact
        iff_of_true (completes_ok (f value))
          (completes_ok value)

/- The indices of the loop must be in the array. -/
theorem operatorLoop_completes_iff
    (digit : CharDigit)
    (file : SpnFile)
    (is : List Nat)
    (response : StringArray)
    (statics : OperatorStatics) :
    Completes
        (operatorLoop digit file is response statics).1 ↔
      ∀ i ∈ is, i < response.length := by
  induction is generalizing response statics with
  | nil => simp [operatorLoop, completes_ok]
  | cons i is ih =>
      rw [List.forall_mem_cons]
      unfold operatorLoop elementAt
      cases hElement : response[i]? with
      | none =>
          have hEnd := List.getElem?_eq_none_iff.mp hElement
          simp [not_completes_error, hEnd]
      | some element =>
          have hIn : i < response.length :=
            (List.getElem?_eq_some_iff.mp hElement).1
          cases element with
          | none => simp [ih, hIn]
          | some element => simp [ih, hIn]

theorem numberField_completes_iff
    (digit : CharDigit)
    (field : Option JString) :
    Completes (numberField digit field) ↔
      IsNumber digit field := by
  unfold numberField IsNumber
  cases field with
  | none => simp [completes_ok]
  | some text =>
      cases hDecimal : parseInt digit text 10 with
      | some n => simp [completes_ok, hDecimal]
      | none =>
          cases hHex : parseInt digit text 16 with
          | some n => simp [completes_ok, hDecimal, hHex]
          | none =>
              simp [not_completes_error, hDecimal, hHex]

/- Each field is looked at as it has been received. -/
theorem numberLoop_completes_iff
    (digit : CharDigit)
    {is : List Nat}
    (hNodup : is.Nodup)
    (response : StringArray) :
    Completes (numberLoop digit is response) ↔
      ∀ i ∈ is, ∃ field,
        response[i]? = some field ∧ IsNumber digit field := by
  induction is generalizing response with
  | nil => simp [numberLoop, completes_ok]
  | cons i is ih =>
      rcases List.nodup_cons.mp hNodup with ⟨hFresh, hRest⟩
      rw [List.forall_mem_cons]
      unfold numberLoop elementAt
      cases hElement : response[i]? with
      | none => simp [not_completes_error]
      | some field =>
          have hField := numberField_completes_iff digit field
          simp only [Option.some.injEq, exists_eq_left',
            ← hField]
          cases hNumber : numberField digit field with
          | error thrown => simp [not_completes_error]
          | ok text =>
              have hOthers :
                  ∀ j ∈ is,
                    (response.set i (some text))[j]? =
                      response[j]? := by
                intro j hj
                have hNe : i ≠ j := by
                  rintro rfl
                  exact hFresh hj
                exact List.getElem?_set_ne hNe
              simp only [completes_ok, true_and]
              rw [ih hRest]
              apply forall₂_congr
              intro j hj
              rw [hOthers j hj]

theorem equalsAt_of_some
    {response : StringArray}
    {i : Nat}
    {text : JString}
    (hElement : response[i]? = some (some text))
    (expected : String) :
    equalsAt response i expected =
      .ok (text == literal expected) := by
  simp [equalsAt, elementAt, hElement, onObject]

theorem equalsAt_of_null
    {response : StringArray}
    {i : Nat}
    (hElement : response[i]? = some none)
    (expected : String) :
    equalsAt response i expected =
      .error .nullPointerException := by
  simp [equalsAt, elementAt, hElement, onObject]

theorem technology_completes_iff
    (response : StringArray) :
    Completes (technology response) ↔
      GsmReadable response := by
  unfold technology GsmReadable
  by_cases hLooks : 4 < response.length
  · have hFirst : response[0]? = some response[0] :=
      List.getElem?_eq_getElem (by omega)
    have hFourth : response[3]? = some response[3] :=
      List.getElem?_eq_getElem (by omega)
    rw [if_pos hLooks]
    simp only [hLooks, forall_const]
    generalize response[0] = first at hFirst
    generalize response[3] = fourth at hFourth
    cases first with
    | none =>
        simp [equalsAt_of_null hFirst, hFirst,
          not_completes_error]
    | some first =>
        rw [equalsAt_of_some hFirst, hFirst]
        cases hOne : first == literal "1" with
        | false =>
            have hNot : first ≠ literal "1" := by
              simpa using hOne
            simp [completes_ok, hNot]
        | true =>
            have hSame : first = literal "1" := by
              simpa using hOne
            subst hSame
            cases fourth with
            | none =>
                simp [equalsAt_of_null hFourth, hFourth,
                  not_completes_error]
            | some fourth =>
                rw [equalsAt_of_some hFourth, hFourth]
                cases fourth == literal "102" <;>
                  simp [completes_ok]
  · rw [if_neg hLooks]
    simp [completes_ok, hLooks]

/- The fields that must be numbers are in a long array. -/
theorem numbers_completes_iff
    (digit : CharDigit)
    {response : StringArray}
    (hLong : 10 ≤ response.length) :
    Completes (numberLoop digit [6, 7, 8, 9] response) ↔
      CdmaReadable digit response := by
  rw [numberLoop_completes_iff digit (by decide)]
  unfold CdmaReadable
  simp only [hLong, forall_const]
  apply forall₂_congr
  intro i hi
  have hIn : i < response.length := by
    have hLast : i ≤ 9 := by
      revert i
      decide
    omega
  rw [List.getElem?_eq_getElem hIn]
  simp

theorem cdmaState_completes_iff
    (digit : CharDigit)
    (response : Option StringArray) :
    Completes (cdmaState digit response) ↔
      ∃ array, response = some array ∧
        CdmaReadable digit array := by
  cases response with
  | none => simp [cdmaState, not_completes_error]
  | some response =>
      simp only [cdmaState, Option.some.injEq,
        exists_eq_left']
      by_cases hLong : 10 ≤ response.length
      · rw [if_pos hLong, completes_map_iff,
          numbers_completes_iff digit hLong]
      · rw [if_neg hLong]
        simp [completes_ok, CdmaReadable, hLong]

theorem gsmState_completes_iff
    (data : Bool)
    (response : Option StringArray) :
    Completes (gsmState data response) ↔
      (data = true →
        ∃ array, response = some array ∧
          GsmReadable array) := by
  cases data with
  | false => simp [gsmState, completes_ok]
  | true =>
      cases response with
      | none => simp [gsmState, not_completes_error]
      | some response =>
          simp [gsmState, completes_map_iff,
            technology_completes_iff]

/-
  A reply is read without an exception exactly when its data
  is one that can be read.
-/
theorem readReply_completes_iff
    (digit : CharDigit)
    (file : SpnFile)
    (base : BaseRIL S μ ω)
    (s : RilState μ)
    (p : S)
    (request : RequestCode) :
    Completes (readReply digit file base s p request).1 ↔
      ∃ response, base.responseStrings p = .ok response ∧
        Readable digit s.isGSM response request := by
  cases hStrings : base.responseStrings p with
  | error thrown =>
      have hNot :
          ¬ Completes
            (readReply digit file base s p request).1 := by
        cases request <;>
          simp [readReply, responseVoiceDataRegistrationState,
            operatorCheck, hStrings, not_completes_error]
      simp [hNot]
  | ok response =>
      simp only [Except.ok.injEq, exists_eq_left']
      cases request with
      | voiceRegistrationState =>
          simp only [readReply,
            responseVoiceDataRegistrationState, hStrings,
            Readable]
          cases s.isGSM with
          | true => simp [gsmState_completes_iff]
          | false => simp [cdmaState_completes_iff]
      | dataRegistrationState =>
          simp only [readReply,
            responseVoiceDataRegistrationState, hStrings,
            Readable]
          cases s.isGSM with
          | true => simp [gsmState_completes_iff]
          | false => simp [cdmaState_completes_iff]
      | operator =>
          cases response with
          | none =>
              simp [readReply, operatorCheck, hStrings,
                Readable, not_completes_error]
          | some response =>
              have hLoop :=
                operatorLoop_completes_iff digit file [0, 1]
                  response s.operators
              have hTwo :
                  (∀ i ∈ [0, 1], i < response.length) ↔
                    2 ≤ response.length := by
                simp
                omega
              rw [hTwo] at hLoop
              simpa [readReply, operatorCheck, hStrings,
                Readable, completes_map_iff] using hLoop
      | other request =>
          simp [readReply, not_completes_error, Readable]

end Ril

end D2Common

------------------------------------------------------------
-- Answers
------------------------------------------------------------

namespace D2Common

namespace Ril

variable {S μ ω : Type}

namespace ParcelClass

variable (C : ParcelClass S)

/- The serial number and the error code of a reply. -/
def serial (p : S) : BitVec 32 :=
  (C.readInt p).1

def error (p : S) : BitVec 32 :=
  (C.readInt (C.readInt p).2).1

/- The data of a reply. -/
def body (p : S) : S :=
  (C.readInt (C.readInt p).2).2

end ParcelClass

/- The reply is for a request that someone waits for. -/
structure Pending
    (C : ParcelClass S)
    (s : RilState μ)
    (p : S)
    (tr : RILRequest μ)
    (message : μ) : Prop where
  found : s.mRequestList (C.serial p) = some tr
  serial : tr.mSerial = C.serial p
  result : tr.mResult = some message

/- What has been sent to one target. -/
def Processed.deliveredTo
    [DecidableEq μ]
    (r : Processed μ ω)
    (message : μ) : List (AsyncResult ω) :=
  (r.delivered.filter fun d => d.1 = message).map Prod.snd

/- No exception leaves the method, and there is one result. -/
def Answered
    [DecidableEq μ]
    (r : Processed μ ω)
    (message : μ) : Prop :=
  Completes r.returned ∧ (r.deliveredTo message).length = 1

/- There is one result, and it carries an exception. -/
def StaysError
    [DecidableEq μ]
    (r : Processed μ ω)
    (message : μ) : Prop :=
  ∃ answer, r.deliveredTo message = [answer] ∧
    answer.exception ≠ none

/-
  The base class takes the request of a reply with an error
  off its list, and reports the error as an exception.
-/
def ReportsErrors
    [DecidableEq μ]
    (C : ParcelClass S)
    (base : BaseRIL S μ ω) : Prop :=
  ∀ s p type tr message,
    Pending C s p tr message →
      C.error p ≠ 0 →
        Completes (base.processSolicited p type s).returned ∧
          StaysError (base.processSolicited p type s) message

theorem setDataPosition_body
    {C : ParcelClass S}
    (hC : Rewinds C)
    (p : S) :
    C.setDataPosition (C.body p) (C.dataPosition p) = p := by
  rw [ParcelClass.body, hC.readInt, hC.readInt, hC.position]

/- The reply is one that `d2lteRIL` reads itself. -/
def Intercepts
    (C : ParcelClass S)
    (p : S)
    (tr : RILRequest μ) : Prop :=
  tr.mRequest.intercepted = true ∧
    (C.error p = 0 ∨ 0 < C.dataAvail (C.body p))

/- A pending reply is finished here, or by the base class. -/
theorem processSolicited_eq
    {C : ParcelClass S}
    (hC : Rewinds C)
    (digit : CharDigit)
    (file : SpnFile)
    (base : BaseRIL S μ ω)
    {s : RilState μ}
    {p : S}
    {tr : RILRequest μ}
    {message : μ}
    (hPending : Pending C s p tr message)
    (type : Int) :
    (Intercepts C p tr →
        processSolicited C digit file base s p type =
          finish C digit file base (s.remove (C.serial p)) tr
            (C.error p) (C.body p)) ∧
      (¬ Intercepts C p tr →
        processSolicited C digit file base s p type =
          base.processSolicited p type s) := by
  have hFound : s.mRequestList (C.readInt p).1 = some tr :=
    hPending.found
  have hRewind := setDataPosition_body hC p
  constructor
  · rintro ⟨hCode, hData⟩
    have hGuard :
        tr.mSerial = (C.readInt p).1 ∧
          ((C.readInt (C.readInt p).2).1 = 0 ∨
            0 < C.dataAvail (C.readInt (C.readInt p).2).2) ∧
            tr.mRequest.intercepted = true :=
      ⟨hPending.serial, hData, hCode⟩
    simp only [processSolicited, hFound, if_pos hGuard]
    rfl
  · intro hNot
    have hGuard :
        ¬ (tr.mSerial = (C.readInt p).1 ∧
          ((C.readInt (C.readInt p).2).1 = 0 ∨
            0 < C.dataAvail (C.readInt (C.readInt p).2).2) ∧
            tr.mRequest.intercepted = true) := by
      rintro ⟨-, hData, hCode⟩
      exact hNot ⟨hCode, hData⟩
    simp only [processSolicited, hFound, if_neg hGuard]
    exact
      congrArg (fun p => base.processSolicited p type s)
        hRewind

/- How a reply that is read here ends. -/
theorem finish_eq
    (C : ParcelClass S)
    (digit : CharDigit)
    (file : SpnFile)
    (base : BaseRIL S μ ω)
    (s : RilState μ)
    {p : S}
    {tr : RILRequest μ}
    {message : μ}
    (hResult : tr.mResult = some message)
    (hIntercepts : Intercepts C p tr) :
    let read :=
      (readReply digit file base s (C.body p) tr.mRequest).1
    let r :=
      finish C digit file base s tr (C.error p) (C.body p)
    (∃ response,
        read = .ok response ∧ r.returned = .ok (some tr) ∧
          r.delivered =
            [(message, ⟨response.map .strings, none⟩)]) ∨
      ∃ thrown,
        read = .error thrown ∧ r.returned = .error thrown ∧
          r.delivered = [] := by
  intro read r
  have hData : C.error p = 0 ∨ 0 < C.dataAvail (C.body p) :=
    hIntercepts.2
  simp only [r, read, finish, if_pos hData]
  rcases readReply digit file base s (C.body p) tr.mRequest with
    ⟨thrown | response, operators⟩
  · exact Or.inr ⟨thrown, rfl, rfl, rfl⟩
  · refine Or.inl ⟨response, rfl, rfl, ?_⟩
    simp [deliver, hResult]

/- The list of requests does not matter to the reading. -/
theorem readReply_remove
    (digit : CharDigit)
    (file : SpnFile)
    (base : BaseRIL S μ ω)
    (s : RilState μ)
    (serial : BitVec 32)
    (p : S)
    (request : RequestCode) :
    readReply digit file base (s.remove serial) p request =
      readReply digit file base s p request := by
  cases request <;> rfl

variable [DecidableEq μ]

/-
  A reply to one of the three requests is answered exactly
  when it is an error without data, or its data is one that
  can be read.
-/
theorem answered_iff
    {C : ParcelClass S}
    (hC : Rewinds C)
    (digit : CharDigit)
    (file : SpnFile)
    {base : BaseRIL S μ ω}
    (hBase : ReportsErrors C base)
    {s : RilState μ}
    {p : S}
    {tr : RILRequest μ}
    {message : μ}
    (hPending : Pending C s p tr message)
    (hCode : tr.mRequest.intercepted = true)
    (type : Int) :
    Answered (processSolicited C digit file base s p type)
        message ↔
      (C.error p ≠ 0 ∧ C.dataAvail (C.body p) = 0) ∨
        ∃ response,
          base.responseStrings (C.body p) = .ok response ∧
            Readable digit s.isGSM response tr.mRequest := by
  rcases processSolicited_eq hC digit file base hPending type with
    ⟨hHere, hThere⟩
  by_cases hIntercepts : Intercepts C p tr
  · have hData :
        ¬ (C.error p ≠ 0 ∧ C.dataAvail (C.body p) = 0) := by
      rintro ⟨hError, hNone⟩
      rcases hIntercepts.2 with hZero | hSome
      · exact hError hZero
      · omega
    rw [hHere hIntercepts, or_iff_right hData,
      ← readReply_completes_iff digit file,
      ← readReply_remove digit file base s (C.serial p)]
    rcases
      finish_eq C digit file base (s.remove (C.serial p))
        hPending.result hIntercepts with
      ⟨response, hRead, hReturned, hDelivered⟩ |
        ⟨thrown, hRead, hReturned, hDelivered⟩
    · rw [hRead]
      refine iff_of_true ⟨⟨_, hReturned⟩, ?_⟩ (completes_ok _)
      simp [Processed.deliveredTo, hDelivered]
    · rw [hRead]
      refine iff_of_false ?_ (not_completes_error _)
      rintro ⟨hCompletes, -⟩
      rw [hReturned] at hCompletes
      exact not_completes_error _ hCompletes
  · have hData : C.error p ≠ 0 ∧ C.dataAvail (C.body p) = 0 := by
      have hNot :
          ¬ (C.error p = 0 ∨ 0 < C.dataAvail (C.body p)) := by
        intro hData
        exact hIntercepts ⟨hCode, hData⟩
      rw [not_or] at hNot
      exact ⟨hNot.1, by omega⟩
    rw [hThere hIntercepts]
    refine iff_of_true ?_ (Or.inl hData)
    rcases hBase s p type tr message hPending hData.1 with
      ⟨hCompletes, answer, hAnswer, -⟩
    refine ⟨hCompletes, ?_⟩
    rw [hAnswer]
    rfl

/-
  A reply with an error is reported as an exception exactly
  when `d2lteRIL` leaves it to the base class: the request
  is none of the three, or there is no data.
-/
theorem staysError_iff
    {C : ParcelClass S}
    (hC : Rewinds C)
    (digit : CharDigit)
    (file : SpnFile)
    {base : BaseRIL S μ ω}
    (hBase : ReportsErrors C base)
    {s : RilState μ}
    {p : S}
    {tr : RILRequest μ}
    {message : μ}
    (hPending : Pending C s p tr message)
    (hError : C.error p ≠ 0)
    (type : Int) :
    StaysError (processSolicited C digit file base s p type)
        message ↔
      tr.mRequest.intercepted = false ∨
        C.dataAvail (C.body p) = 0 := by
  rcases processSolicited_eq hC digit file base hPending type with
    ⟨hHere, hThere⟩
  have hIff :
      Intercepts C p tr ↔
        ¬ (tr.mRequest.intercepted = false ∨
          C.dataAvail (C.body p) = 0) := by
    unfold Intercepts
    simp only [hError, false_or, not_or, Bool.not_eq_false,
      Nat.pos_iff_ne_zero, ne_eq]
  by_cases hIntercepts : Intercepts C p tr
  · rw [hHere hIntercepts]
    refine iff_of_false ?_ (hIff.mp hIntercepts)
    rintro ⟨answer, hAnswer, hException⟩
    rcases
      finish_eq C digit file base (s.remove (C.serial p))
        hPending.result hIntercepts with
      ⟨response, -, -, hDelivered⟩ | ⟨thrown, -, -, hDelivered⟩
    · rw [Processed.deliveredTo, hDelivered] at hAnswer
      have hSame : ⟨response.map .strings, none⟩ = answer := by
        simpa using hAnswer
      exact hException (by rw [← hSame])
    · rw [Processed.deliveredTo, hDelivered] at hAnswer
      simp at hAnswer
  · rw [hThere hIntercepts]
    refine
      iff_of_true
        (hBase s p type tr message hPending hError).2 ?_
    by_contra hNot
    exact hIntercepts (hIff.mpr hNot)

end Ril

end D2Common

------------------------------------------------------------
-- Replies Of Bytes
------------------------------------------------------------

namespace D2Common

namespace Ril

/- The strings of an array, one after the other. -/
def Parcel.readStrings :
    Nat → Parcel → StringArray
| 0, _ => []
| num + 1, p =>
    let (s, p) := p.readString
    s :: p.readStrings num

/- `p.readStringArray()`; there is none of length -1. -/
def Parcel.readStringArray
    (p : Parcel) : Option StringArray :=
  let (num, p) := p.readInt
  if 0 ≤ num.toInt then some (p.readStrings num.toNat)
  else none

/-
  A base class that answers every pending request, and an
  error with an exception.
-/
def plainBase : BaseRIL Parcel Unit Unit where
  responseStrings := fun p => .ok p.readStringArray
  processSolicited := fun p _ s =>
    match s.mRequestList (Parcel.positioned.serial p) with
    | none => ⟨.ok none, [], s⟩
    | some rr =>
        let exception :=
          if Parcel.positioned.error p = 0 then none
          else some (.other "CommandException")
        ⟨.ok (some rr), deliver rr.mResult none exception,
          s.remove (Parcel.positioned.serial p)⟩

theorem plainBase_reportsErrors :
    ReportsErrors Parcel.positioned plainBase := by
  intro s p type tr message hPending hError
  have hReply :
      plainBase.processSolicited p type s =
        ⟨.ok (some tr),
          [(message,
            ⟨none, some (.other "CommandException")⟩)],
          s.remove (Parcel.positioned.serial p)⟩ := by
    simp only [plainBase, hPending.found, hPending.result,
      if_neg hError, deliver]
  rw [hReply]
  refine ⟨completes_ok _, ?_⟩
  exact
    ⟨⟨none, some (.other "CommandException")⟩, rfl, by simp⟩

/- One request is pending, on a GSM phone. -/
def oneRequest (request : RequestCode) : RilState Unit where
  mRequestList := fun serial =>
    if serial = 1 then some ⟨1, request, some ()⟩ else none
  isGSM := true
  operators := ⟨none, none⟩

/- A reply to it with an empty array of strings. -/
def emptyReply (error : UInt8) : Parcel :=
  ⟨[1, 0, 0, 0, error, 0, 0, 0, 0, 0, 0, 0], 0⟩

/- A phone is registered, and uses a technology. -/
def registered : StringArray :=
  [some (literal "1"), none, none, some (literal "102"),
    none]

/- A reply with these strings. -/
def registeredReply : Parcel :=
  Parcel.of
    ([.int 1, .int 0, .int 5] ++ registered.map .string)

theorem oneRequest_pending
    (request : RequestCode)
    (error : UInt8) :
    Pending Parcel.positioned (oneRequest request)
      (emptyReply error) ⟨1, request, some ()⟩ () :=
  ⟨rfl, rfl, rfl⟩

theorem registeredReply_pending :
    Pending Parcel.positioned
      (oneRequest .dataRegistrationState) registeredReply
      ⟨1, .dataRegistrationState, some ()⟩ () :=
  ⟨rfl, rfl, rfl⟩

/- A state of data registration, with its fields. -/
theorem registeredReply_answered :
    Answered
      (processSolicited Parcel.positioned asciiDigit .notFound
        plainBase (oneRequest .dataRegistrationState)
        registeredReply 0)
      () :=
  (answered_iff rewinds_bytes asciiDigit .notFound
    plainBase_reportsErrors registeredReply_pending rfl 0).mpr
    (Or.inr
      ⟨some registered, rfl, registered, rfl,
        fun _ => ⟨by decide, fun _ => by decide⟩⟩)

/- The names of an operator must be there. -/
theorem emptyReply_not_answered :
    ¬ Answered
        (processSolicited Parcel.positioned asciiDigit
          .notFound plainBase (oneRequest .operator)
          (emptyReply 0) 0)
        () := by
  rintro ⟨⟨rr, hReturned⟩, -⟩
  cases hReturned

/- An error of another request stays one, with its data. -/
theorem emptyReply_staysError :
    StaysError
      (processSolicited Parcel.positioned asciiDigit .notFound
        plainBase (oneRequest (.other 1)) (emptyReply 1) 0)
      () :=
  (staysError_iff rewinds_bytes asciiDigit .notFound
    plainBase_reportsErrors (oneRequest_pending (.other 1) 1)
    (by decide) 0).mpr
    (Or.inl rfl)

/- The same error is a success for a state of registration. -/
theorem emptyReply_not_staysError :
    ¬ StaysError
        (processSolicited Parcel.positioned asciiDigit
          .notFound plainBase
          (oneRequest .voiceRegistrationState) (emptyReply 1)
          0)
        () := by
  rintro ⟨answer, hAnswer, hException⟩
  cases hAnswer
  exact hException rfl

end Ril

end D2Common
