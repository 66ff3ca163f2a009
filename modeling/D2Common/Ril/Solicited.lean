import D2Common.Ril.Parcels

/-
  Replies to requests of the radio interface.

  A reply is a parcel with the serial number of its request,
  an error code and data. `d2lteRIL` reads the replies to
  three requests itself and leaves all others to its base
  class, which is a parameter here, as parcels are.

  A request is taken off the list before its reply is read.
  What is thrown while it is read leaves the method.

  Key definitions include:
    * `BaseRIL`
    * `operatorCheck`
    * `responseVoiceDataRegistrationState`
    * `processSolicited`
-/

------------------------------------------------------------
-- Requests
------------------------------------------------------------

namespace D2Common

namespace Ril

/- `RIL_REQUEST_OPERATOR` and so on. -/
inductive RequestCode where
  | voiceRegistrationState
  | dataRegistrationState
  | operator
  | other (request : Int)
deriving DecidableEq

/- The cases of the `switch`. -/
def RequestCode.intercepted : RequestCode → Bool
| .voiceRegistrationState => true
| .dataRegistrationState => true
| .operator => true
| .other _ => false

/- A request; `μ` are the messages that wait for a result. -/
structure RILRequest (μ : Type) where
  mSerial : BitVec 32
  mRequest : RequestCode
  mResult : Option μ

/- An array of strings, each of which may be `null`. -/
abbrev StringArray := List (Option JString)

/- An object; `ω` are those that only the base class has. -/
inductive Obj (ω : Type) where
  | strings (response : StringArray)
  | base (object : ω)

/- `AsyncResult`, with `null` as `none`. -/
structure AsyncResult (ω : Type) where
  result : Option (Obj ω)
  exception : Option Throwable

/- `d2lteRIL`, with the static fields of `Operators`. -/
structure RilState (μ : Type) where
  mRequestList : BitVec 32 → Option (RILRequest μ)
  isGSM : Bool
  operators : OperatorStatics

/-
  A call of `processSolicited`: what it returns or throws,
  the results it has sent to their targets, and the state it
  leaves.
-/
structure Processed (μ ω : Type) where
  returned : Except Throwable (Option (RILRequest μ))
  delivered : List (μ × AsyncResult ω)
  state : RilState μ

/- What `d2lteRIL` uses of the class `RIL`. -/
structure BaseRIL (S μ ω : Type) where
  responseStrings :
    S → Except Throwable (Option StringArray)
  processSolicited :
    S → Int → RilState μ → Processed μ ω

end Ril

end D2Common

------------------------------------------------------------
-- Reading Replies
------------------------------------------------------------

namespace D2Common

namespace Ril

variable {S μ ω : Type}

/- `response[i]`. -/
def elementAt
    (response : StringArray)
    (i : Nat) : Except Throwable (Option JString) :=
  match response[i]? with
  | none => .error .arrayIndexOutOfBoundsException
  | some element => .ok element

/- `response[i].equals(text)`. -/
def equalsAt
    (response : StringArray)
    (i : Nat)
    (text : String) : Except Throwable Bool :=
  match elementAt response i with
  | .error thrown => .error thrown
  | .ok element => onObject element (· == literal text)

/- The `for` loop of `operatorCheck`. -/
def operatorLoop
    (digit : CharDigit)
    (file : SpnFile) :
    List Nat → StringArray → OperatorStatics →
      Except Throwable StringArray × OperatorStatics
| [], response, statics => (.ok response, statics)
| i :: is, response, statics =>
    match elementAt response i with
    | .error thrown => (.error thrown, statics)
    | .ok none =>
        operatorLoop digit file is response statics
    | .ok (some element) =>
        let (answer, statics) :=
          operatorReplace digit file statics (some element)
        operatorLoop digit file is (response.set i answer)
          statics

def operatorCheck
    (digit : CharDigit)
    (file : SpnFile)
    (base : BaseRIL S μ ω)
    (statics : OperatorStatics)
    (p : S) :
    Except Throwable (Option StringArray) × OperatorStatics :=
  match base.responseStrings p with
  | .error thrown => (.error thrown, statics)
  -- `response[0]`
  | .ok none => (.error .nullPointerException, statics)
  | .ok (some response) =>
      let (response, statics) :=
        operatorLoop digit file [0, 1] response statics
      (response.map some, statics)

/- A data technology that is reported as another one. -/
def technology
    (response : StringArray) :
    Except Throwable StringArray :=
  if 4 < response.length then
    match equalsAt response 0 "1" with
    | .error thrown => .error thrown
    | .ok false => .ok response
    | .ok true =>
        match equalsAt response 3 "102" with
        | .error thrown => .error thrown
        | .ok false => .ok response
        | .ok true =>
            .ok (response.set 3 (some (literal "2")))
  else
    .ok response

/- On GSM only a state for data is looked at. -/
def gsmState
    (data : Bool)
    (response : Option StringArray) :
    Except Throwable (Option StringArray) :=
  if data then
    match response with
    -- `response.length`
    | none => .error .nullPointerException
    | some response => (technology response).map some
  else
    .ok response

/- A field that must be a number, which may be in hex. -/
def numberField
    (digit : CharDigit) :
    Option JString → Except Throwable JString
| none => .ok (integerToString integerMaxValue)
| some field =>
    match parseInt digit field 10 with
    | some _ => .ok field
    | none =>
        match parseInt digit field 16 with
        | some n => .ok (integerToString n)
        | none => .error .numberFormatException

/- The `for` loop over the fields that must be numbers. -/
def numberLoop
    (digit : CharDigit) :
    List Nat → StringArray → Except Throwable StringArray
| [], response => .ok response
| i :: is, response =>
    match elementAt response i with
    | .error thrown => .error thrown
    | .ok element =>
        match numberField digit element with
        | .error thrown => .error thrown
        | .ok field =>
            numberLoop digit is (response.set i (some field))

def cdmaState
    (digit : CharDigit)
    (response : Option StringArray) :
    Except Throwable (Option StringArray) :=
  match response with
  -- `response.length`
  | none => .error .nullPointerException
  | some response =>
      if 10 ≤ response.length then
        (numberLoop digit [6, 7, 8, 9] response).map some
      else
        .ok (some response)

def responseVoiceDataRegistrationState
    (digit : CharDigit)
    (isGSM : Bool)
    (base : BaseRIL S μ ω)
    (p : S)
    (data : Bool) : Except Throwable (Option StringArray) :=
  match base.responseStrings p with
  | .error thrown => .error thrown
  | .ok response =>
      if isGSM then gsmState data response
      else cdmaState digit response

end Ril

end D2Common

------------------------------------------------------------
-- Processing Replies
------------------------------------------------------------

namespace D2Common

namespace Ril

variable {S μ ω : Type}

/- The second `switch`, and the static fields after it. -/
def readReply
    (digit : CharDigit)
    (file : SpnFile)
    (base : BaseRIL S μ ω)
    (s : RilState μ)
    (p : S) :
    RequestCode →
      Except Throwable (Option StringArray) × OperatorStatics
| .voiceRegistrationState =>
    (responseVoiceDataRegistrationState digit s.isGSM base p
      false, s.operators)
| .dataRegistrationState =>
    (responseVoiceDataRegistrationState digit s.isGSM base p
      true, s.operators)
| .operator =>
    operatorCheck digit file base s.operators p
| .other _ => (.error .runtimeException, s.operators)

/- `AsyncResult.forMessage`, and `sendToTarget`. -/
def deliver
    (mResult : Option μ)
    (result : Option (Obj ω))
    (exception : Option Throwable) :
    List (μ × AsyncResult ω) :=
  match mResult with
  | none => []
  | some message => [(message, ⟨result, exception⟩)]

/- `findAndRemoveRequestFromList`. -/
def RilState.remove
    (s : RilState μ)
    (serial : BitVec 32) : RilState μ :=
  { s with
    mRequestList := fun serial' =>
      if serial' = serial then none
      else s.mRequestList serial' }

/- What follows when a request has been taken off the list. -/
def finish
    (C : ParcelClass S)
    (digit : CharDigit)
    (file : SpnFile)
    (base : BaseRIL S μ ω)
    (s : RilState μ)
    (rr : RILRequest μ)
    (error : BitVec 32)
    (p : S) : Processed μ ω :=
  if error = 0 ∨ 0 < C.dataAvail p then
    match readReply digit file base s p rr.mRequest with
    | (.error thrown, operators) =>
        ⟨.error thrown, [], { s with operators }⟩
    | (.ok response, operators) =>
        ⟨.ok (some rr),
          deliver rr.mResult (response.map .strings) none,
          { s with operators }⟩
  else
    ⟨.ok (some rr), deliver rr.mResult none none, s⟩

/- `processSolicited`. -/
def processSolicited
    (C : ParcelClass S)
    (digit : CharDigit)
    (file : SpnFile)
    (base : BaseRIL S μ ω)
    (s : RilState μ)
    (p : S)
    (type : Int) : Processed μ ω :=
  let dataPosition := C.dataPosition p
  let (serial, p) := C.readInt p
  let (error, p) := C.readInt p
  let rr :=
    match s.mRequestList serial with
    | none => none
    | some tr =>
        if
          tr.mSerial = serial ∧
            (error = 0 ∨ 0 < C.dataAvail p) ∧
              tr.mRequest.intercepted = true then
          some tr
        else
          none
  match rr with
  | none =>
      base.processSolicited
        (C.setDataPosition p dataPosition) type s
  | some _ =>
      match s.mRequestList serial with
      | none => ⟨.ok none, [], s⟩
      | some rr =>
          finish C digit file base (s.remove serial) rr error p

end Ril

end D2Common
