import Mathlib.Data.Prod.Basic
import D2Common.DmnConn.Handler

/-
  What the messages of the daemon connection depend on.

  A frame is what the two reads of a receive bring, and is
  found from the pipe alone. The buffer of a call is then
  its initial contents with the frame written over them, so
  that the messages queued by the call are the same for all
  initial contents exactly when the frame decides them.

  A frame decides the message when it excludes one, or when
  it reaches the end of what the message carries.

  Key definitions include:
    * `frame`
    * `frames`
    * `Possible`
    * `Arrived`
    * `Settled`

  Key theorems include:
    * `msgrcv_frame`
    * `dispatch_some`
    * `decided_of_arrived`
    * `decided_message_iff`
    * `serverRun_independent_iff`
-/

------------------------------------------------------------
-- Frames
------------------------------------------------------------

namespace D2Common

namespace DmnConn

variable {n : Nat}
variable {σ : Type}

/- The result of a read, and the bytes it stores. -/
def taken
    (sz : Nat) : ReadOutcome → Int × List UInt8
| .failed => (-1, [])
| .delivered bytes =>
    (toInt (bytes.take sz).length, bytes.take sz)

/-
  The bytes that a successful receive stores from the start
  of the buffer on.
-/
def frame
    (abi : Abi)
    (read : PipeRead σ)
    (pipe : σ) : Option (List UInt8) × σ :=
  let size := sizeofMsgsz abi.word
  let (outcome, pipe) := read size.toNat pipe
  let (result, head) := taken size.toNat outcome
  if !isHeader abi.word result then
    (none, pipe)
  else
    let msgsz :=
      BitVec.ofNat (8 * abi.word) (littleEndian head)
    if sizeofBuffer abi < msgsz then
      (none, pipe)
    else
      let (outcome, pipe) := read (msgsz - size).toNat pipe
      let (result, body) := taken (msgsz - size).toNat outcome
      if
        result ≠ toInt (msgsz - size).toNat ∨
          toInt msgsz.toNat ≤ 0 then
        (none, pipe)
      else
        (some (head ++ body), pipe)

/- The frames of a run, until a round fails. -/
def frames
    (abi : Abi)
    (read : PipeRead σ) :
    List Bool → σ → List (List UInt8)
| [], _ => []
| malloc :: mallocs, pipe =>
    if malloc then
      match frame abi read pipe with
      | (none, _) => []
      | (some known, pipe) =>
          known :: frames abi read mallocs pipe
    else
      []

theorem piperead_eq
    (read : PipeRead σ)
    (x : Receiver n σ)
    (buf : Nat)
    (sz : BitVec (8 * n)) :
    piperead read x buf sz =
      let t := taken sz.toNat (read sz.toNat x.pipe).1
      (t.1,
        ⟨Known.patch x.mem buf t.2,
          (read sz.toNat x.pipe).2,
          x.requests ++ [⟨buf, sz⟩]⟩) := by
  unfold piperead
  rcases read sz.toNat x.pipe with ⟨outcome, pipe⟩
  cases outcome with
  | failed => simp [taken]
  | delivered bytes => rfl

/- A header has been stored in full. -/
theorem length_of_isHeader
    {abi : Abi}
    {outcome : ReadOutcome}
    (hHeader :
      isHeader abi.word (taken abi.word outcome).1 = true) :
    (taken abi.word outcome).2.length = abi.word := by
  have hFull :
      ∀ k ≤ abi.word,
        isHeader abi.word (toInt k) = true →
          k = abi.word := by
    cases abi <;> decide
  cases outcome with
  | failed =>
      have hNot : isHeader abi.word (-1) = false := by
        cases abi <;> rfl
      rw [taken, hNot] at hHeader
      contradiction
  | delivered bytes =>
      exact hFull _ (List.length_take_le ..) hHeader

/- What is written behind the header leaves it alone. -/
theorem msgszField_patch
    (mem : Mem)
    {head : List UInt8}
    (body : List UInt8)
    (hHead : head.length = n) :
    msgszField n (Known.patch mem 0 (head ++ body)) =
      BitVec.ofNat (8 * n) (littleEndian head) := by
  have hWindow :
      Known.window (Known.patch mem 0 (head ++ body)) 0 n =
        head := by
    rw [← hHead, ← Known.patch_append,
      Known.window_patch_of_le _ _ (Nat.le_refl _),
      Known.window_patch]
  simp only [Known.window, Nat.zero_add] at hWindow
  rw [msgszField, hWindow]

/-
  A receive succeeds when there is a frame, and writes it
  over whatever the buffer has held.
-/
theorem msgrcv_frame
    (abi : Abi)
    (read : PipeRead σ)
    (mem : Mem)
    (pipe : σ) :
    let x : Receiver abi.word σ := ⟨mem, pipe, []⟩
    let r := msgrcv read x (sizeofBuffer abi)
    r.2.pipe = (frame abi read pipe).2 ∧
      match (frame abi read pipe).1 with
      | none => r.1 ≤ 0
      | some known =>
          0 < r.1 ∧ r.2.mem = Known.patch mem 0 known := by
  have hSize := toNat_sizeofMsgsz abi.word
  unfold msgrcv frame
  simp only [piperead_eq, hSize]
  rcases read abi.word pipe with ⟨outcome, pipe⟩
  have hHead :
      isHeader abi.word (taken abi.word outcome).1 = true →
        (taken abi.word outcome).2.length = abi.word :=
    length_of_isHeader
  rcases hTaken : taken abi.word outcome with ⟨result, head⟩
  rw [hTaken] at hHead
  by_cases hHeader : isHeader abi.word result = true
  · have hLength : head.length = abi.word := hHead hHeader
    have hMsgsz := msgszField_patch mem [] hLength
    rw [List.append_nil] at hMsgsz
    simp only [hHeader, hMsgsz, Bool.not_true,
      Bool.false_eq_true, if_false]
    generalize hHeadSz :
      BitVec.ofNat (8 * abi.word) (littleEndian head) =
        msgsz
    by_cases hLarge : sizeofBuffer abi < msgsz
    · simp [hLarge]
    · simp only [hLarge, if_false]
      -- the second read, and the header read once more
      rcases read (msgsz - sizeofMsgsz abi.word).toNat pipe
        with ⟨outcome, pipe⟩
      rcases taken (msgsz - sizeofMsgsz abi.word).toNat outcome
        with ⟨result, body⟩
      have hWrite := Known.patch_append mem 0 head body
      rw [Nat.zero_add, hLength] at hWrite
      simp only [hWrite, msgszField_patch mem body hLength,
        hHeadSz]
      generalize
        toInt (msgsz - sizeofMsgsz abi.word).toNat = expected
      generalize toInt msgsz.toNat = length
      by_cases hRest : result = expected
      · by_cases hLength : length ≤ 0
        · simp [hRest, hLength]
        · simp [hRest, hLength, Int.not_le.mp hLength]
      · simp [hRest]
  · simp [hHeader]

end DmnConn

end D2Common

------------------------------------------------------------
-- Messages
------------------------------------------------------------

namespace D2Common

namespace DmnConn

open Agps (AGpsExtType SenderId)

variable {η σ : Type}

/- A request or release of a kind that is served. -/
structure IfRequest where
  isReq : Bool
  type : AGpsExtType
  senderId : SenderId

/- Whether a control type is one of the handlers'. -/
def ctrlIsReq (ctrlType : UInt8) : Option Bool :=
  if ctrlType = gpsoneLocApiIfRequest then some true
  else if ctrlType = gpsoneLocApiIfRelease then some false
  else none

/- What a buffer asks for, and who asks. -/
def ifRequest
    (abi : Abi)
    (pmsg : Mem) : Option IfRequest :=
  (ctrlIsReq (pmsg abi.ctrlType)).bind fun isReq =>
    (ifRequestType (numberAt pmsg abi.type 4)).bind
      fun type =>
        (ifRequestSenderId (numberAt pmsg abi.senderId 4)).map
          fun senderId => ⟨isReq, type, senderId⟩

/- The message for a request, with the fields it carries. -/
def locMsg
    (abi : Abi)
    (pmsg : Mem)
    (r : IfRequest) : LocMsg :=
  if r.senderId = .gpsoneDaemon then
    .reqRelBIT
      r.type
      (BitVec.ofNat 32
        (numberAt pmsg abi.ipv4Addr abi.word))
      (memcpy16 pmsg abi.ipv6Addr)
      r.isReq
  else
    .reqRelWifi
      r.type
      r.senderId
      (strlcpyAt pmsg abi.ssid Agps.ssidBufSize)
      (strlcpyAt pmsg abi.password Agps.ssidBufSize)
      r.isReq

/- The message that a buffer stands for, if it is any. -/
def message
    (abi : Abi)
    (pmsg : Mem) : Option LocMsg :=
  (ifRequest abi pmsg).map (locMsg abi pmsg)

/- What the two handlers share, in terms of the request. -/
theorem ifReqRel_eq
    {abi : Abi}
    {pmsg : Mem}
    {isReq : Bool}
    (hCtrl :
      ctrlIsReq (pmsg abi.ctrlType) = some isReq)
    (loc_api_handle : Option η) :
    ifReqRel abi loc_api_handle pmsg isReq =
      match ifRequest abi pmsg with
      | none => .returned (-1) []
      | some r =>
          LocMsg.send loc_api_handle (locMsg abi pmsg r) := by
  unfold ifReqRel ifRequest
  rw [hCtrl]
  cases ifRequestType (numberAt pmsg abi.type 4) with
  | none => rfl
  | some type =>
      cases
        ifRequestSenderId (numberAt pmsg abi.senderId 4) with
      | none => rfl
      | some senderId => cases senderId <;> rfl

theorem ifReqRel_some
    {abi : Abi}
    {pmsg : Mem}
    {isReq : Bool}
    (hCtrl :
      ctrlIsReq (pmsg abi.ctrlType) = some isReq)
    (locEng : η) :
    (ifReqRel abi (some locEng) pmsg isReq).ignoreResult =
      .returned 0
        ((message abi pmsg).map (Prod.mk locEng)).toList := by
  rw [ifReqRel_eq hCtrl, message]
  cases ifRequest abi pmsg <;> rfl

theorem ctrlIsReq_release
    {ctrlType : UInt8}
    (hRequest : ¬ ctrlType = gpsoneLocApiIfRequest)
    (hRelease : ctrlType = gpsoneLocApiIfRelease) :
    ctrlIsReq ctrlType = some false := by
  rw [ctrlIsReq, if_neg hRequest, if_pos hRelease]

/- A handler queues the message that the buffer stands for. -/
theorem dispatch_some
    (abi : Abi)
    (locEng : η)
    (pmsg : Mem)
    (length : Int) :
    (dispatch abi (some locEng) pmsg length).ignoreResult =
      .returned 0
        ((message abi pmsg).map (Prod.mk locEng)).toList := by
  unfold dispatch
  split
  · rename_i hRequest
    exact ifReqRel_some (by simp [ctrlIsReq, hRequest]) locEng
  · rename_i hRequest
    split
    · rename_i hRelease
      exact
        ifReqRel_some (ctrlIsReq_release hRequest hRelease)
          locEng
    · rename_i hRelease
      simp [message, ifRequest, ctrlIsReq, hRequest, hRelease,
        Outcome.ignoreResult]

/- Nothing is queued while there is no engine. -/
theorem sent_dispatch_none
    (abi : Abi)
    (pmsg : Mem)
    (length : Int) :
    (dispatch abi (none : Option η) pmsg length).sent =
      [] := by
  unfold dispatch
  split
  · rfl
  · rename_i hRequest
    split
    · rename_i hRelease
      rw [ifReleaseHandler,
        ifReqRel_eq (ctrlIsReq_release hRequest hRelease)]
      cases ifRequest abi pmsg <;> rfl
    · rfl

/- One round of the thread in terms of its frame. -/
theorem serverProc_frame
    (abi : Abi)
    (loc_api_handle : Option η)
    (read : PipeRead σ)
    (mem : Mem)
    (pipe : σ) :
    serverProc abi loc_api_handle read (some mem) pipe =
      match frame abi read pipe with
      | (none, pipe) => (.returned (-1) [], pipe)
      | (some known, pipe) =>
          ((dispatch abi loc_api_handle
            (Known.patch mem 0 known) 0).ignoreResult,
            pipe) := by
  have hFrame := msgrcv_frame abi read mem pipe
  unfold serverProc
  dsimp only at hFrame ⊢
  generalize
    msgrcv read (⟨mem, pipe, []⟩ : Receiver abi.word σ)
      (sizeofBuffer abi) = r at hFrame ⊢
  generalize frame abi read pipe = f at hFrame ⊢
  rcases r with ⟨length, x⟩
  rcases f with ⟨known, pipe'⟩
  cases known with
  | none =>
      rcases hFrame with ⟨hPipe, hLength⟩
      dsimp only at hPipe hLength ⊢
      rw [if_pos hLength, hPipe]
  | some known =>
      rcases hFrame with ⟨hPipe, hLength, hMem⟩
      dsimp only at hPipe hLength hMem ⊢
      rw [if_neg (Int.not_le.mpr hLength), hPipe, hMem]
      rfl

end DmnConn

end D2Common

------------------------------------------------------------
-- Fields
------------------------------------------------------------

namespace D2Common

namespace DmnConn

open Agps (AGpsExtType SenderId)

/- The order of the fields. -/
theorem fields_ordered
    (abi : Abi) :
    abi.ctrlType + 1 ≤ abi.type ∧
      abi.type + 4 ≤ abi.senderId ∧
      abi.senderId + 4 ≤ abi.ipv4Addr ∧
      abi.ipv4Addr + abi.word ≤ abi.ipv6Addr ∧
      abi.ipv6Addr + 16 ≤ abi.ssid ∧
      abi.ssid + Agps.ssidBufSize ≤ abi.password := by
  cases abi <;> decide

theorem littleEndian_inj
    {l m : List UInt8}
    (hLength : l.length = m.length)
    (hEqual : littleEndian l = littleEndian m) :
    l = m := by
  induction l generalizing m with
  | nil => exact (List.length_eq_zero_iff.mp hLength.symm).symm
  | cons b l ih =>
      cases m with
      | nil => contradiction
      | cons c m =>
          simp only [littleEndian] at hEqual
          have hb := b.toNat_lt
          have hc := c.toNat_lt
          have hHead : b = c :=
            UInt8.toNat_inj.mp (by omega)
          have hTail : l = m :=
            ih (by simpa using hLength) (by omega)
          rw [hHead, hTail]

/- The bytes of an enumeration's value. -/
def enumBytes (value : UInt8) : List UInt8 :=
  [value, 0, 0, 0]

/- The value of a field is small when its bytes say so. -/
theorem numberAt_eq_iff
    {pmsg : Mem}
    {off : Nat}
    {value : UInt8} :
    numberAt pmsg off 4 = value.toNat ↔
      Known.window pmsg off 4 = enumBytes value := by
  have hBytes : littleEndian (enumBytes value) = value.toNat :=
    by simp [enumBytes, littleEndian]
  unfold numberAt
  constructor
  · intro hEqual
    exact littleEndian_inj (by simp [enumBytes])
      (hEqual.trans hBytes.symm)
  · intro hWindow
    rw [hWindow, hBytes]

def ctrlTypes : List UInt8 :=
  [gpsoneLocApiIfRequest, gpsoneLocApiIfRelease]

def ifRequestTypes : List UInt8 := [0, 1, 2]

/- `IF_REQUEST_SENDER_ID_GPSONE_DAEMON`. -/
def ifRequestSenderIdGpsoneDaemon : UInt8 := 3

def ifRequestSenderIds : List UInt8 :=
  [0, 1, 2, ifRequestSenderIdGpsoneDaemon]

theorem ctrlIsReq_isSome_iff
    {ctrlType : UInt8} :
    (ctrlIsReq ctrlType).isSome = true ↔
      ctrlType ∈ ctrlTypes := by
  unfold ctrlIsReq ctrlTypes
  split
  · simp [*]
  · split <;> simp [*]

theorem ifRequestType_isSome_iff
    {type : Nat} :
    (ifRequestType type).isSome = true ↔
      ∃ v ∈ ifRequestTypes, type = v.toNat := by
  rcases type with _ | _ | _ | type <;>
    simp [ifRequestType, ifRequestTypes]

theorem ifRequestSenderId_isSome_iff
    {senderId : Nat} :
    (ifRequestSenderId senderId).isSome = true ↔
      ∃ v ∈ ifRequestSenderIds, senderId = v.toNat := by
  rcases senderId with _ | _ | _ | _ | senderId <;>
    simp [ifRequestSenderId, ifRequestSenderIds,
      ifRequestSenderIdGpsoneDaemon]

theorem ifRequestSenderId_eq_daemon_iff
    {senderId : Nat} :
    ifRequestSenderId senderId = some .gpsoneDaemon ↔
      senderId = ifRequestSenderIdGpsoneDaemon.toNat := by
  rcases senderId with _ | _ | _ | _ | senderId <;>
    simp [ifRequestSenderId, ifRequestSenderIdGpsoneDaemon]

theorem ifRequest_isSome_iff
    {abi : Abi}
    {pmsg : Mem} :
    (ifRequest abi pmsg).isSome = true ↔
      pmsg abi.ctrlType ∈ ctrlTypes ∧
        (∃ v ∈ ifRequestTypes,
          Known.window pmsg abi.type 4 = enumBytes v) ∧
        ∃ v ∈ ifRequestSenderIds,
          Known.window pmsg abi.senderId 4 = enumBytes v := by
  simp only [← numberAt_eq_iff, ← ctrlIsReq_isSome_iff,
    ← ifRequestType_isSome_iff,
    ← ifRequestSenderId_isSome_iff]
  unfold ifRequest
  cases ctrlIsReq (pmsg abi.ctrlType) with
  | none => simp
  | some isReq =>
      cases ifRequestType (numberAt pmsg abi.type 4) with
      | none => simp
      | some type => simp

theorem senderId_eq_daemon_iff
    {abi : Abi}
    {pmsg : Mem}
    {r : IfRequest}
    (hRequest : ifRequest abi pmsg = some r) :
    r.senderId = .gpsoneDaemon ↔
      Known.window pmsg abi.senderId 4 =
        enumBytes ifRequestSenderIdGpsoneDaemon := by
  rw [← numberAt_eq_iff, ← ifRequestSenderId_eq_daemon_iff]
  unfold ifRequest at hRequest
  simp only [Option.bind_eq_some_iff, Option.map_eq_some_iff]
    at hRequest
  obtain ⟨_, _, _, _, senderId, hSenderId, rfl⟩ := hRequest
  rw [hSenderId, Option.some_inj]

/- What is asked for is in the fields up to `sender_id`. -/
theorem ifRequest_congr
    {abi : Abi}
    {mem mem' : Mem}
    (hSame : ∀ i < abi.senderId + 4, mem i = mem' i) :
    ifRequest abi mem = ifRequest abi mem' := by
  have hOrder := fields_ordered abi
  have hNumber :
      ∀ off, off + 4 ≤ abi.senderId + 4 →
        numberAt mem off 4 = numberAt mem' off 4 := by
    intro off hOff
    unfold numberAt
    rw [Known.window_eq_window_iff.mpr
      fun i hi => hSame (off + i) (by omega)]
  unfold ifRequest
  rw [hSame abi.ctrlType (by omega),
    hNumber abi.type (by omega),
    hNumber abi.senderId (by omega)]

end DmnConn

end D2Common

------------------------------------------------------------
-- Settled Frames
------------------------------------------------------------

namespace D2Common

namespace DmnConn

open Agps (SenderId)

instance nontrivialUInt8 : Nontrivial UInt8 := ⟨0, 1, by decide⟩

/- What has come does not exclude a message. -/
def Possible
    (abi : Abi)
    (known : List UInt8) : Prop :=
  (∃ c ∈ ctrlTypes, Known.MayBe known abi.ctrlType [c]) ∧
    (∃ v ∈ ifRequestTypes,
      Known.MayBe known abi.type (enumBytes v)) ∧
    ∃ v ∈ ifRequestSenderIds,
      Known.MayBe known abi.senderId (enumBytes v)

instance
    (abi : Abi)
    (known : List UInt8) :
    Decidable (Possible abi known) := by
  unfold Possible
  infer_instance

/- The daemon may be the sender. -/
def FromDaemon
    (abi : Abi)
    (known : List UInt8) : Prop :=
  Known.MayBe known abi.senderId
    (enumBytes ifRequestSenderIdGpsoneDaemon)

instance
    (abi : Abi)
    (known : List UInt8) :
    Decidable (FromDaemon abi known) := by
  unfold FromDaemon
  infer_instance

/-
  What the message carries has come: the addresses in full,
  or the password up to its end. A text ends with a zero, or
  where the engine's copy is full.
-/
def Arrived
    (abi : Abi)
    (known : List UInt8) : Prop :=
  if FromDaemon abi known then
    abi.ipv6Addr + 16 ≤ known.length
  else
    abi.password + (Agps.ssidBufSize - 1) ≤ known.length ∨
      0 ∈ known.drop abi.password

instance
    (abi : Abi)
    (known : List UInt8) :
    Decidable (Arrived abi known) := by
  unfold Arrived
  infer_instance

/- A frame that leaves no choice for the message. -/
def Settled
    (abi : Abi)
    (known : List UInt8) : Prop :=
  Possible abi known → Arrived abi known

instance
    (abi : Abi)
    (known : List UInt8) :
    Decidable (Settled abi known) := by
  unfold Settled
  infer_instance

variable {abi : Abi}
variable {known : List UInt8}
variable {mem mem' : Mem}
variable {r : IfRequest}

theorem possible_of_ifRequest
    (hExtends : Known.Extends known mem)
    (hRequest : ifRequest abi mem = some r) :
    Possible abi known := by
  have hSome : (ifRequest abi mem).isSome = true := by
    rw [hRequest, Option.isSome_some]
  obtain ⟨hCtrl, ⟨v, hv, hType⟩, w, hw, hSenderId⟩ :=
    ifRequest_isSome_iff.mp hSome
  refine ⟨⟨_, hCtrl, ?_⟩, ⟨v, hv, ?_⟩, ⟨w, hw, ?_⟩⟩
  · exact
      Known.mayBe_of_extends hExtends
        (by simp [Known.window])
  · exact Known.mayBe_of_extends hExtends hType
  · exact Known.mayBe_of_extends hExtends hSenderId

theorem fromDaemon_of_ifRequest
    (hExtends : Known.Extends known mem)
    (hRequest : ifRequest abi mem = some r)
    (hDaemon : r.senderId = .gpsoneDaemon) :
    FromDaemon abi known :=
  Known.mayBe_of_extends hExtends
    ((senderId_eq_daemon_iff hRequest).mp hDaemon)

/-
  A message that is not excluded comes about, and from the
  daemon if it can be from the daemon.
-/
theorem exists_ifRequest
    (hPossible : Possible abi known) :
    ∃ mem r,
      Known.Extends known mem ∧
        ifRequest abi mem = some r ∧
        (r.senderId = .gpsoneDaemon ↔
          FromDaemon abi known) := by
  obtain
    ⟨⟨c, hc, hCtrl⟩, ⟨v, hv, hType⟩, w, hw, hSenderId⟩ :=
      hPossible
  obtain ⟨u, hu, hMayBe, hDaemon⟩ :
      ∃ u ∈ ifRequestSenderIds,
        Known.MayBe known abi.senderId (enumBytes u) ∧
        (FromDaemon abi known →
          u = ifRequestSenderIdGpsoneDaemon) := by
    by_cases hFrom : FromDaemon abi known
    · refine ⟨_, ?_, hFrom, fun _ => rfl⟩
      simp [ifRequestSenderIds]
    · exact ⟨w, hw, hSenderId, fun h => absurd h hFrom⟩
  have hOrder := fields_ordered abi
  -- the three fields are written in their order
  let mem₁ : Mem :=
    Known.patch (Known.patch (fun _ => 0) 0 known)
      abi.ctrlType [c]
  let mem₂ : Mem := Known.patch mem₁ abi.type (enumBytes v)
  let mem₃ : Mem :=
    Known.patch mem₂ abi.senderId (enumBytes u)
  have hExtends : Known.Extends known mem₃ :=
    Known.extends_patch
      (Known.extends_patch
        (Known.extends_patch
          (Known.extends_patch_zero _ known) hCtrl)
        hType)
      hMayBe
  have hCtrlType : mem₃ abi.ctrlType = c := by
    have hLast : mem₃ abi.ctrlType = mem₂ abi.ctrlType :=
      Known.patch_of_lt _ _ (by omega)
    have hSecond : mem₂ abi.ctrlType = mem₁ abi.ctrlType :=
      Known.patch_of_lt _ _ (by omega)
    rw [hLast, hSecond]
    exact Known.patch_at _ _ [c] Nat.zero_lt_one
  have hTypeWindow :
      Known.window mem₃ abi.type 4 = enumBytes v := by
    rw [Known.window_patch_of_le _ _ hOrder.2.1]
    exact Known.window_patch _ _ _
  have hSenderIdWindow :
      Known.window mem₃ abi.senderId 4 = enumBytes u :=
    Known.window_patch _ _ _
  have hSome : (ifRequest abi mem₃).isSome = true :=
    ifRequest_isSome_iff.mpr
      ⟨hCtrlType ▸ hc, ⟨v, hv, hTypeWindow⟩,
        u, hu, hSenderIdWindow⟩
  obtain ⟨r, hRequest⟩ := Option.isSome_iff_exists.mp hSome
  refine ⟨mem₃, r, hExtends, hRequest, ?_, ?_⟩
  · exact fromDaemon_of_ifRequest hExtends hRequest
  · intro hFrom
    rw [senderId_eq_daemon_iff hRequest, hSenderIdWindow,
      hDaemon hFrom]

/- The addresses of a message are those in the buffer. -/
theorem locMsg_daemon_inj
    {r' : IfRequest}
    (hDaemon : r.senderId = .gpsoneDaemon)
    (hDaemon' : r'.senderId = .gpsoneDaemon)
    (hSame : locMsg abi mem r = locMsg abi mem' r') :
    Known.window mem abi.ipv6Addr 16 =
      Known.window mem' abi.ipv6Addr 16 := by
  simp only [locMsg, hDaemon, hDaemon', if_true,
    LocMsg.reqRelBIT.injEq] at hSame
  rw [Known.window_eq_window_iff]
  intro i hi
  have hAt :=
    congrArg (fun v : Agps.IPv6Addr => v[i]) hSame.2.2.1
  simpa [memcpy16] using hAt

/- And so are the texts. -/
theorem locMsg_wifi_inj
    {r' : IfRequest}
    (hDaemon : r.senderId ≠ .gpsoneDaemon)
    (hDaemon' : r'.senderId ≠ .gpsoneDaemon)
    (hSame : locMsg abi mem r = locMsg abi mem' r') :
    Known.text 0 mem abi.password (Agps.ssidBufSize - 1) =
      Known.text 0 mem' abi.password
        (Agps.ssidBufSize - 1) := by
  simp only [locMsg, hDaemon, hDaemon', if_false,
    LocMsg.reqRelWifi.injEq] at hSame
  exact hSame.2.2.2.1

/- What is asked for has arrived before what is carried. -/
theorem length_of_arrived
    (hArrived : Arrived abi known) :
    abi.senderId + 4 ≤ known.length := by
  have hOrder := fields_ordered abi
  unfold Arrived at hArrived
  split at hArrived
  · omega
  · rcases hArrived with hLength | hZero
    · omega
    · have hBegun := Known.lt_length_of_mem_drop hZero
      omega

/- The addresses that a message carries have arrived. -/
theorem locMsg_eq_of_addresses
    (hExtends : Known.Extends known mem)
    (hExtends' : Known.Extends known mem')
    (hDaemon : r.senderId = .gpsoneDaemon)
    (hArrived : abi.ipv6Addr + 16 ≤ known.length) :
    locMsg abi mem r = locMsg abi mem' r := by
  have hOrder := fields_ordered abi
  have hIpv4 :
      numberAt mem abi.ipv4Addr abi.word =
        numberAt mem' abi.ipv4Addr abi.word := by
    unfold numberAt
    rw [Known.window_eq_of_extends hExtends hExtends'
      (by omega)]
  have hIpv6 :
      memcpy16 mem abi.ipv6Addr =
        memcpy16 mem' abi.ipv6Addr := by
    have hWindow :=
      Known.window_eq_of_extends hExtends hExtends' hArrived
    unfold memcpy16
    congr 1
    funext i
    exact Known.window_eq_window_iff.mp hWindow i i.isLt
  rw [locMsg, locMsg, if_pos hDaemon, if_pos hDaemon, hIpv4,
    hIpv6]

/- The texts that a message carries have arrived. -/
theorem locMsg_eq_of_texts
    (hExtends : Known.Extends known mem)
    (hExtends' : Known.Extends known mem')
    (hDaemon : r.senderId ≠ .gpsoneDaemon)
    (hArrived :
      abi.password + (Agps.ssidBufSize - 1) ≤ known.length ∨
        0 ∈ known.drop abi.password) :
    locMsg abi mem r = locMsg abi mem' r := by
  have hOrder := fields_ordered abi
  have hBegun : abi.password ≤ known.length := by
    rcases hArrived with hLength | hZero
    · omega
    · exact Nat.le_of_lt (Known.lt_length_of_mem_drop hZero)
  have hSsid :
      strlcpyAt mem abi.ssid Agps.ssidBufSize =
        strlcpyAt mem' abi.ssid Agps.ssidBufSize :=
    Known.text_eq_of_extends hExtends hExtends'
      (Or.inl (by omega))
  have hPassword :
      strlcpyAt mem abi.password Agps.ssidBufSize =
        strlcpyAt mem' abi.password Agps.ssidBufSize :=
    Known.text_eq_of_extends hExtends hExtends' hArrived
  rw [locMsg, locMsg, if_neg hDaemon, if_neg hDaemon, hSsid,
    hPassword]

/- What has arrived decides the message. -/
theorem decided_of_arrived
    (hArrived : Arrived abi known) :
    Known.Decided known (message abi) := by
  intro mem mem' hExtends hExtends'
  have hLength := length_of_arrived hArrived
  have hSame : ifRequest abi mem = ifRequest abi mem' := by
    apply ifRequest_congr
    intro i hi
    rw [Known.extends_iff.mp hExtends i (by omega),
      Known.extends_iff.mp hExtends' i (by omega)]
  unfold message
  rw [← hSame]
  cases hRequest : ifRequest abi mem with
  | none => rfl
  | some r =>
      simp only [Option.map_some, Option.some_inj]
      unfold Arrived at hArrived
      split at hArrived
      · rename_i hFrom
        have hDaemon : r.senderId = .gpsoneDaemon :=
          (senderId_eq_daemon_iff hRequest).mpr
            (Known.window_of_mayBe hExtends hFrom hLength)
        exact
          locMsg_eq_of_addresses hExtends hExtends' hDaemon
            hArrived
      · rename_i hFrom
        exact
          locMsg_eq_of_texts hExtends hExtends'
            (fun hDaemon =>
              hFrom
                (fromDaemon_of_ifRequest hExtends hRequest
                  hDaemon))
            hArrived

/- What has not arrived can turn out either way. -/
theorem not_decided_of_not_arrived
    (hPossible : Possible abi known)
    (hArrived : ¬ Arrived abi known) :
    ¬ Known.Decided known (message abi) := by
  intro hDecided
  have hOrder := fields_ordered abi
  obtain ⟨mem, r, hExtends, hRequest, hDaemon⟩ :=
    exists_ifRequest hPossible
  -- a memory that is the same up to `sender_id` asks the same
  have hLocMsg :
      ∀ mem', Known.Extends known mem' →
        (∀ i < abi.senderId + 4, mem' i = mem i) →
          locMsg abi mem' r = locMsg abi mem r := by
    intro mem' hExtends' hBefore
    have hSame := hDecided mem' mem hExtends' hExtends
    rw [message, message, ifRequest_congr hBefore, hRequest]
      at hSame
    simpa using hSame
  unfold Arrived at hArrived
  split at hArrived
  · rename_i hFrom
    have hTo := hDaemon.mpr hFrom
    obtain ⟨mem', hExtends', hBefore, hNe⟩ :=
      Known.exists_window_ne hExtends (by decide : 0 < 16)
        (Nat.not_le.mp hArrived)
    exact
      hNe
        (locMsg_daemon_inj hTo hTo
          (hLocMsg mem' hExtends' fun i hi =>
            hBefore i (by omega)))
  · rename_i hFrom
    have hTo : r.senderId ≠ .gpsoneDaemon :=
      fun h => hFrom (hDaemon.mp h)
    obtain ⟨hLength, hZero⟩ := not_or.mp hArrived
    obtain ⟨mem', hExtends', hBefore, hNe⟩ :=
      Known.exists_text_ne hExtends
        (by decide : 0 < Agps.ssidBufSize - 1)
        (Nat.not_le.mp hLength) hZero
    exact
      hNe
        (locMsg_wifi_inj hTo hTo
          (hLocMsg mem' hExtends' fun i hi =>
            hBefore i (by omega)))

/- The frame decides the message exactly when it is settled. -/
theorem decided_message_iff :
    Known.Decided known (message abi) ↔
      Settled abi known := by
  constructor
  · intro hDecided hPossible
    by_contra hArrived
    exact
      not_decided_of_not_arrived hPossible hArrived hDecided
  · intro hSettled
    by_cases hPossible : Possible abi known
    · exact decided_of_arrived (hSettled hPossible)
    · have hNone :
          ∀ mem, Known.Extends known mem →
            message abi mem = none := by
        intro mem hExtends
        cases hRequest : ifRequest abi mem with
        | none => rw [message, hRequest, Option.map_none]
        | some r =>
            exact
              absurd
                (possible_of_ifRequest hExtends hRequest)
                hPossible
      intro mem mem' hExtends hExtends'
      rw [hNone mem hExtends, hNone mem' hExtends']

end DmnConn

end D2Common

------------------------------------------------------------
-- Runs
------------------------------------------------------------

namespace D2Common

namespace DmnConn

variable {η σ : Type}

/- What a run queues for its frames, call by call. -/
def sentFor
    (abi : Abi) :
    List (List UInt8) → (Nat → Mem) → List LocMsg
| [], _ => []
| known :: rest, mems =>
    (message abi (Known.patch (mems 0) 0 known)).toList ++
      sentFor abi rest (fun i => mems (i + 1))

theorem serverRun_some
    (abi : Abi)
    (locEng : η)
    (read : PipeRead σ)
    (mallocs : List Bool)
    (mems : Nat → Mem)
    (pipe : σ) :
    serverRun abi (some locEng) read mallocs mems pipe =
      (sentFor abi (frames abi read mallocs pipe) mems).map
        (Prod.mk locEng) := by
  induction mallocs generalizing mems pipe with
  | nil => rfl
  | cons malloc mallocs ih =>
      cases malloc with
      | false => rfl
      | true =>
          simp only [serverRun, frames, if_true,
            serverProc_frame]
          rcases frame abi read pipe with ⟨known, pipe'⟩
          cases known with
          | none => rfl
          | some known =>
              simp only [dispatch_some, sentFor, ih,
                List.map_append, Option.toList_map]
              rfl

/- A run without an engine queues nothing. -/
theorem serverRun_none
    (abi : Abi)
    (read : PipeRead σ)
    (mallocs : List Bool)
    (mems : Nat → Mem)
    (pipe : σ) :
    serverRun abi (none : Option η) read mallocs mems pipe =
      [] := by
  induction mallocs generalizing mems pipe with
  | nil => rfl
  | cons malloc mallocs ih =>
      cases malloc with
      | false => rfl
      | true =>
          simp only [serverRun, if_true, serverProc_frame]
          rcases frame abi read pipe with ⟨known, pipe'⟩
          cases known with
          | none => rfl
          | some known =>
              have hNothing :=
                sent_dispatch_none (η := η) abi
                  (Known.patch (mems 0) 0 known) 0
              dsimp only
              generalize
                dispatch abi (none : Option η)
                  (Known.patch (mems 0) 0 known) 0 =
                  outcome at hNothing ⊢
              cases outcome with
              | crashed => rfl
              | returned result sent =>
                  have hSent : sent = [] := hNothing
                  simp [Outcome.ignoreResult, hSent, ih]

/- The buffers of a run, the first one given apart. -/
def prepend
    (mem : Mem)
    (mems : Nat → Mem) : Nat → Mem
| 0 => mem
| i + 1 => mems i

theorem sentFor_prepend
    (abi : Abi)
    (known : List UInt8)
    (rest : List (List UInt8))
    (mem : Mem)
    (mems : Nat → Mem) :
    sentFor abi (known :: rest) (prepend mem mems) =
      (message abi (Known.patch mem 0 known)).toList ++
        sentFor abi rest mems :=
  rfl

/-
  The initial contents do not matter in a run exactly when
  they do not matter for any of its frames.
-/
theorem sentFor_independent_iff
    (abi : Abi)
    (knowns : List (List UInt8)) :
    (∀ mems mems',
        sentFor abi knowns mems = sentFor abi knowns mems') ↔
      ∀ known ∈ knowns,
        Known.Decided known (message abi) := by
  induction knowns with
  | nil => simp [sentFor]
  | cons known rest ih =>
      rw [List.forall_mem_cons, ← ih,
        Known.decided_iff_patch]
      constructor
      · intro hSame
        constructor
        · intro mem mem'
          have h :=
            hSame (prepend mem fun _ => mem)
              (prepend mem' fun _ => mem)
          rw [sentFor_prepend, sentFor_prepend] at h
          simpa using
            congrArg List.head? (List.append_cancel_right h)
        · intro mems mems'
          have h :=
            hSame (prepend (mems 0) mems)
              (prepend (mems 0) mems')
          rw [sentFor_prepend, sentFor_prepend] at h
          exact List.append_cancel_left h
      · rintro ⟨hFirst, hRest⟩ mems mems'
        simp only [sentFor]
        rw [hFirst (mems 0) (mems' 0), hRest _ _]

/-
  What a run queues is the same for all initial contents of
  its buffers exactly when every frame is settled, or there
  is no engine.
-/
theorem serverRun_independent_iff
    (abi : Abi)
    (loc_api_handle : Option η)
    (read : PipeRead σ)
    (mallocs : List Bool)
    (pipe : σ) :
    (∀ mems mems',
        serverRun abi loc_api_handle read mallocs mems pipe =
          serverRun abi loc_api_handle read mallocs mems'
            pipe) ↔
      loc_api_handle = none ∨
        ∀ known ∈ frames abi read mallocs pipe,
          Settled abi known := by
  cases loc_api_handle with
  | none => simp [serverRun_none]
  | some locEng =>
      have hFrames :=
        sentFor_independent_iff abi
          (frames abi read mallocs pipe)
      simp only [decided_message_iff] at hFrames
      have hInjective :
          Function.Injective
            (List.map (Prod.mk (β := LocMsg) locEng)) :=
        List.map_injective_iff.mpr
          (Prod.mk_right_injective locEng)
      simp only [serverRun_some, hInjective.eq_iff, hFrames]
      simp

/-
  A request of the daemon that ends with `sender_id`: the
  engine is asked to connect to whatever address is in the
  memory behind it.
-/
theorem address_not_received :
    ¬ ∀ mems mems',
      serverRun .ilp32 (some ()) fifoRead [true] mems
          [24, 0, 0, 0, 0, 0, 0, 0, 0, 0, 0, 0,
            0xF0, 0, 0, 0, 0, 0, 0, 0, 3, 0, 0, 0] =
        serverRun .ilp32 (some ()) fifoRead [true] mems'
          [24, 0, 0, 0, 0, 0, 0, 0, 0, 0, 0, 0,
            0xF0, 0, 0, 0, 0, 0, 0, 0, 3, 0, 0, 0] := by
  intro hSame
  have hTwo := hSame (fun _ _ => 0) (fun _ _ => 1)
  revert hTwo
  decide

end DmnConn

end D2Common
