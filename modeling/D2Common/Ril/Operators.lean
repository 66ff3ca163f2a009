import D2Common.Foundations.Transducer
import D2Common.Ril.Java

/-
  The names of operators.

  A numeric operator code of five or six characters is
  replaced by the name that a configuration file gives for
  it. `operatorReplace` remembers its last query in static
  fields, and reads the file anew for every other one.
  `unOptimizedOperatorReplace` reads the file once for each
  object.

  Both give what the file says: the fields only ever hold a
  query together with its answer, or no answer.

  Key definitions include:
    * `initList`
    * `operatorReplace`
    * `unOptimizedOperatorReplace`
    * `plain`
    * `Remembers`

  Key theorems include:
    * `operatorReplace_eq`
    * `unOptimizedOperatorReplace_eq`
    * `answers_agree`
-/

------------------------------------------------------------
-- The Configuration File
------------------------------------------------------------

namespace D2Common

namespace Ril

/- A `HashMap<String, String>`, the last `put` first. -/
abbrev StringMap :=
  List (Option JString × Option JString)

def StringMap.containsKey
    (map : StringMap)
    (key : Option JString) : Bool :=
  map.any fun entry => entry.1 == key

def StringMap.get
    (map : StringMap)
    (key : Option JString) : Option JString :=
  match map.find? fun entry => entry.1 == key with
  | none => none
  | some entry => entry.2

/- What the parser does when it is asked to go on. -/
inductive NextElement where
  | element (name numeric spn : Option JString)
  -- an `XmlPullParserException` or an `IOException`
  | exception

/-
  `selective-spn-conf.xml` as the parser sees it. Without a
  document that begins as it should there is only an
  exception. No element is left at the end: its name is
  `null`.
-/
inductive SpnFile where
  | notFound
  | found (beginDocument : Bool) (elements : List NextElement)

/- The loop over the elements. -/
def initLoop :
    List NextElement → StringMap → StringMap
| [], init => init
| .exception :: _, init => init
| .element name numeric spn :: elements, init =>
    if name ≠ some (literal "spnOverride") then
      init
    else
      initLoop elements ((numeric, spn) :: init)

/- `initList`. -/
def initList : SpnFile → StringMap
| .notFound => []
| .found false _ => []
| .found true elements => initLoop elements []

end Ril

end D2Common

------------------------------------------------------------
-- The Two Lookups
------------------------------------------------------------

namespace D2Common

namespace Ril

/- The static fields of `Operators`. -/
structure OperatorStatics where
  stored : Option JString
  storedOperators : Option JString

/- Whether a response has the length of a numeric code. -/
def numericLength (response : JString) : Bool :=
  response.length == 5 || response.length == 6

/- The name in the list, or else the code. -/
def nameOf
    (operators : StringMap)
    (response : JString) : Option JString :=
  if operators.containsKey (some response) then
    operators.get (some response)
  else
    some response

/- `operatorReplace`. -/
def operatorReplace
    (digit : CharDigit)
    (file : SpnFile)
    (statics : OperatorStatics)
    (response : Option JString) :
    Option JString × OperatorStatics :=
  match response with
  | none => (none, statics)
  | some response =>
      if !numericLength response then
        (some response, statics)
      else if
        statics.storedOperators ≠ none ∧
          statics.stored = some response then
        (statics.storedOperators, statics)
      else
        match parseInt digit response 10 with
        | none =>
            (some response, ⟨some response, some response⟩)
        | some _ =>
            let storedOperators :=
              nameOf (initList file) response
            (storedOperators,
              ⟨some response, storedOperators⟩)

/-
  `unOptimizedOperatorReplace`; `unOptOperators` is the
  field of its object.
-/
def unOptimizedOperatorReplace
    (digit : CharDigit)
    (file : SpnFile)
    (unOptOperators : Option StringMap)
    (response : Option JString) :
    Option JString × Option StringMap :=
  match response with
  | none => (none, unOptOperators)
  | some response =>
      if !numericLength response then
        (some response, unOptOperators)
      else
        match parseInt digit response 10 with
        | none => (some response, unOptOperators)
        | some _ =>
            let operators :=
              match unOptOperators with
              | none => initList file
              | some operators => operators
            (nameOf operators response, some operators)

end Ril

end D2Common

------------------------------------------------------------
-- What They Answer
------------------------------------------------------------

namespace D2Common

namespace Ril

variable {digit : CharDigit}
variable {file : SpnFile}

/- The answer for a response, whatever was asked before. -/
def plain
    (digit : CharDigit)
    (file : SpnFile) :
    Option JString → Option JString
| none => none
| some response =>
    if numericLength response ∧
        parseInt digit response 10 ≠ none then
      nameOf (initList file) response
    else
      some response

/-
  The static fields hold no answer, or a response of the
  right length and its answer.
-/
def Remembers
    (digit : CharDigit)
    (file : SpnFile)
    (statics : OperatorStatics) : Prop :=
  ∀ response,
    statics.stored = some response →
      statics.storedOperators ≠ none →
        statics.storedOperators =
          plain digit file (some response)

theorem plain_of_not_numericLength
    {response : JString}
    (hLength : numericLength response = false) :
    plain digit file (some response) = some response := by
  simp [plain, hLength]

theorem plain_of_parseInt_none
    (file : SpnFile)
    {response : JString}
    (hParse : parseInt digit response 10 = none) :
    plain digit file (some response) = some response := by
  simp [plain, hParse]

theorem plain_of_parseInt_some
    (file : SpnFile)
    {response : JString}
    {n : Int}
    (hLength : numericLength response = true)
    (hParse : parseInt digit response 10 = some n) :
    plain digit file (some response) =
      nameOf (initList file) response := by
  simp [plain, hLength, hParse]

/- An answer that has just been stored is remembered. -/
theorem remembers_of_eq
    {response : JString}
    {answer : Option JString}
    (hAnswer : answer = plain digit file (some response)) :
    Remembers digit file ⟨some response, answer⟩ := by
  intro response' hStored _
  have hSame : response = response' :=
    Option.some.inj hStored
  exact hSame ▸ hAnswer

/- The fast lookup is right, and remembers what it says. -/
theorem operatorReplace_eq
    {statics : OperatorStatics}
    (hRemembers : Remembers digit file statics)
    (response : Option JString) :
    let r := operatorReplace digit file statics response
    r.1 = plain digit file response ∧
      Remembers digit file r.2 := by
  cases response with
  | none => exact ⟨rfl, hRemembers⟩
  | some response =>
      unfold operatorReplace
      dsimp only
      cases hLength : numericLength response with
      | false =>
          rw [Bool.not_false, if_pos rfl]
          exact
            ⟨(plain_of_not_numericLength hLength).symm,
              hRemembers⟩
      | true =>
          rw [Bool.not_true, if_neg Bool.false_ne_true]
          by_cases hHit :
              statics.storedOperators ≠ none ∧
                statics.stored = some response
          · -- the last query once more
            rw [if_pos hHit]
            exact
              ⟨hRemembers response hHit.2 hHit.1, hRemembers⟩
          · rw [if_neg hHit]
            cases hParse : parseInt digit response 10 with
            | none =>
                have hAnswer :=
                  plain_of_parseInt_none file hParse
                exact
                  ⟨hAnswer.symm, remembers_of_eq hAnswer.symm⟩
            | some n =>
                have hAnswer :=
                  plain_of_parseInt_some file hLength hParse
                exact
                  ⟨hAnswer.symm, remembers_of_eq hAnswer.symm⟩

/- The list of an object is the list of the file. -/
def Loaded
    (file : SpnFile)
    (unOptOperators : Option StringMap) : Prop :=
  ∀ operators,
    unOptOperators = some operators →
      operators = initList file

/- The slow lookup is right for every object. -/
theorem unOptimizedOperatorReplace_eq
    (digit : CharDigit)
    {unOptOperators : Option StringMap}
    (hLoaded : Loaded file unOptOperators)
    (response : Option JString) :
    let r :=
      unOptimizedOperatorReplace digit file unOptOperators
        response
    r.1 = plain digit file response ∧ Loaded file r.2 := by
  cases response with
  | none => exact ⟨rfl, hLoaded⟩
  | some response =>
      unfold unOptimizedOperatorReplace
      dsimp only
      cases hLength : numericLength response with
      | false =>
          rw [Bool.not_false, if_pos rfl]
          exact
            ⟨(plain_of_not_numericLength hLength).symm,
              hLoaded⟩
      | true =>
          rw [Bool.not_true, if_neg Bool.false_ne_true]
          cases hParse : parseInt digit response 10 with
          | none =>
              exact
                ⟨(plain_of_parseInt_none file hParse).symm,
                  hLoaded⟩
          | some n =>
              rw [plain_of_parseInt_some file hLength hParse]
              cases unOptOperators with
              | none =>
                  refine ⟨rfl, ?_⟩
                  intro operators hOperators
                  exact (Option.some.inj hOperators).symm
              | some operators =>
                  have hList := hLoaded operators rfl
                  refine ⟨by rw [hList], ?_⟩
                  intro operators' hOperators
                  rw [← Option.some.inj hOperators]
                  exact hList

end Ril

end D2Common

------------------------------------------------------------
-- Histories Of Calls
------------------------------------------------------------

namespace D2Common

namespace Ril

variable {K : Type}
variable [DecidableEq K]

/- Calls of the two methods; `K` are the objects. -/
inductive Query (K : Type) where
  | operatorReplace (response : Option JString)
  | unOptimizedOperatorReplace
      (object : K)
      (response : Option JString)

/- The static fields, and the field of each object. -/
structure OperatorsState (K : Type) where
  statics : OperatorStatics
  unOptOperators : K → Option StringMap

def OperatorsState.step
    (digit : CharDigit)
    (file : SpnFile)
    (s : OperatorsState K) :
    Query K → OperatorsState K × List (Option JString)
| .operatorReplace response =>
    let (answer, statics) :=
      Ril.operatorReplace digit file s.statics response
    ({ s with statics }, [answer])
| .unOptimizedOperatorReplace object response =>
    let (answer, unOptOperators) :=
      Ril.unOptimizedOperatorReplace digit file
        (s.unOptOperators object) response
    ({ s with
        unOptOperators := fun object' =>
          if object' = object then unOptOperators
          else s.unOptOperators object' },
      [answer])

/- A process in which nothing has been asked. -/
def operators
    (digit : CharDigit)
    (file : SpnFile)
    (K : Type)
    [DecidableEq K] :
    Transducer (OperatorsState K) (Query K)
      (Option JString) where
  init := ⟨⟨none, none⟩, fun _ => none⟩
  step := OperatorsState.step digit file

/- Fields that agree with the file. -/
structure Agrees
    (digit : CharDigit)
    (file : SpnFile)
    (s : OperatorsState K) : Prop where
  remembers : Remembers digit file s.statics
  loaded : ∀ object, Loaded file (s.unOptOperators object)

theorem agrees_step
    {digit : CharDigit}
    {file : SpnFile}
    {s : OperatorsState K}
    (hAgrees : Agrees digit file s)
    (query : Query K) :
    Agrees digit file
      ((operators digit file K).step s query).1 := by
  cases query with
  | operatorReplace response =>
      have hNext := operatorReplace_eq hAgrees.remembers response
      exact ⟨hNext.2, hAgrees.loaded⟩
  | unOptimizedOperatorReplace object response =>
      refine ⟨hAgrees.remembers, ?_⟩
      intro object'
      have hNext :=
        unOptimizedOperatorReplace_eq digit
          (hAgrees.loaded object) response
      by_cases hSame : object' = object
      · simpa [operators, OperatorsState.step, hSame]
          using hNext.2
      · simpa [operators, OperatorsState.step, hSame]
          using hAgrees.loaded object'

theorem agrees_run
    (digit : CharDigit)
    (file : SpnFile)
    (queries : List (Query K)) :
    Agrees digit file
      ((operators digit file K).run queries) := by
  apply (operators digit file K).run_induction
    (A := fun _ => True)
  · refine ⟨?_, ?_⟩
    · intro response hStored
      simp [operators] at hStored
    · intro object operators hOperators
      simp [Ril.operators] at hOperators
  · intro s query hAgrees _
    exact agrees_step hAgrees query
  · simp

/-
  After any calls of the two methods the fast lookup and the
  slow one give the same answer, with any object.
-/
theorem answers_agree
    (digit : CharDigit)
    (file : SpnFile)
    (queries : List (Query K))
    (object : K)
    (response : Option JString) :
    let s := (operators digit file K).run queries
    (operatorReplace digit file s.statics response).1 =
      (unOptimizedOperatorReplace digit file
        (s.unOptOperators object) response).1 := by
  intro s
  have hAgrees := agrees_run digit file queries
  rw [(operatorReplace_eq hAgrees.remembers response).1,
    (unOptimizedOperatorReplace_eq digit
      (hAgrees.loaded object) response).1]

end Ril

end D2Common
