import D2Common.Foundations.Known
import D2Common.Agps.Types
import D2Common.DmnConn.GlueMsg

/-
  Serving one message of the daemon pipe.

  `loc_api_server_proc` allocates a buffer, receives a
  message into it and hands the buffer to the handler for
  its control type. The handlers read the fields of a
  `struct ctrl_msgbuf` from the buffer and queue a message
  for the engine. The buffer is memory, and a field is the
  bytes at its offset, so that a field can be read whether
  or not it has been received.

  The handlers are told how many bytes were received, and do
  not look at it.

  Key definitions include:
    * `Abi`
    * `LocMsg`
    * `ifRequestHandler`
    * `ifReleaseHandler`
    * `serverProc`
    * `serverRun`
-/

------------------------------------------------------------
-- The Message Buffer
------------------------------------------------------------

namespace D2Common

namespace DmnConn

open Agps (AGpsExtType CString Handle IPv6Addr SenderId)

/- The data models the library is built for. -/
inductive Abi where
  | ilp32
  | lp64
deriving DecidableEq, Repr

/- `sizeof(size_t)`, and also `sizeof(unsigned long)`. -/
def Abi.word : Abi → Nat
| .ilp32 => 4
| .lp64 => 8

/- The next offset that is a multiple of an alignment. -/
def alignUp (offset alignment : Nat) : Nat :=
  (offset + alignment - 1) / alignment * alignment

/- Offsets in `struct ctrl_msgbuf`; `msgsz` is at zero. -/
def Abi.reserved1 (abi : Abi) : Nat :=
  abi.word

def Abi.reserved2 (abi : Abi) : Nat :=
  alignUp (abi.reserved1 + 2) 4

def Abi.ctrlType (abi : Abi) : Nat :=
  abi.reserved2 + 4

def Abi.cmsg (abi : Abi) : Nat :=
  alignUp (abi.ctrlType + 1) abi.word

/- `cmsg.cmsg_if_request`, a `struct ctrl_msg_if_request`. -/
def Abi.type (abi : Abi) : Nat :=
  abi.cmsg

def Abi.senderId (abi : Abi) : Nat :=
  abi.type + 4

def Abi.ipv4Addr (abi : Abi) : Nat :=
  alignUp (abi.senderId + 4) abi.word

def Abi.ipv6Addr (abi : Abi) : Nat :=
  abi.ipv4Addr + abi.word

def Abi.ssid (abi : Abi) : Nat :=
  abi.ipv6Addr + 16

def Abi.password (abi : Abi) : Nat :=
  abi.ssid + Agps.ssidBufSize

/- `sizeof(struct ctrl_msgbuf)`. -/
def Abi.sizeofCtrlMsgbuf (abi : Abi) : Nat :=
  alignUp (abi.password + Agps.ssidBufSize) abi.word

/- Memory from the start of the buffer on. -/
abbrev Mem := Nat → UInt8

/- A little-endian number of `k` bytes. -/
def numberAt
    (pmsg : Mem)
    (off k : Nat) : Nat :=
  littleEndian (Known.window pmsg off k)

/-
  `strlcpy(dst, src, size)` with `src` in memory: the text
  that `dst` then holds.
-/
def strlcpyAt
    (pmsg : Mem)
    (src size : Nat) : CString :=
  Known.text 0 pmsg src (size - 1)

/- `memcpy(dst, src, 16)`. -/
def memcpy16
    (pmsg : Mem)
    (src : Nat) : IPv6Addr :=
  Vector.ofFn fun i => pmsg (src + i)

end DmnConn

end D2Common

------------------------------------------------------------
-- Handlers
------------------------------------------------------------

namespace D2Common

namespace DmnConn

open Agps (AGpsExtType CString Handle IPv6Addr SenderId)

def agpsTypeWifi : AGpsExtType := 4
def agpsTypeAny : AGpsExtType := 0

/- The messages that the handlers queue for the engine. -/
inductive LocMsg where
  | reqRelBIT
      (mType : AGpsExtType)
      (mIPv4Addr : Handle)
      (mIPv6Addr : IPv6Addr)
      (mIsReq : Bool)
  | reqRelWifi
      (mType : AGpsExtType)
      (mSenderId : SenderId)
      (mSSID mPassword : CString)
      (mIsReq : Bool)
deriving DecidableEq

/- `GPSONE_LOC_API_IF_REQUEST` and the types after it. -/
def gpsoneLocApiIfRequest : UInt8 := 0xF0
def gpsoneLocApiIfRelease : UInt8 := 0xF1

/- `IF_REQUEST_TYPE_SUPL`, `_WIFI`, `_ANY`. -/
def ifRequestType : Nat → Option AGpsExtType
| 0 => some Agps.agpsTypeSupl
| 1 => some agpsTypeWifi
| 2 => some agpsTypeAny
| _ => none

/-
  `IF_REQUEST_SENDER_ID_QUIPC`, `_MSAPM`, `_MSAPU` and
  `_GPSONE_DAEMON`. `_MODEM` is not served.
-/
def ifRequestSenderId : Nat → Option SenderId
| 0 => some .quipc
| 1 => some .msapm
| 2 => some .msapu
| 3 => some .gpsoneDaemon
| _ => none

/- How a call ends; `η` are the handles of engines. -/
inductive Outcome (η : Type) where
  | returned (result : Int) (sent : List (η × LocMsg))
  -- `msg->send()` has followed a handle that is NULL
  | crashed

/- The messages that a call has queued. -/
def Outcome.sent {η : Type} : Outcome η → List (η × LocMsg)
| .returned _ sent => sent
| .crashed => []

variable {η : Type}

/- `msg->send()`. -/
def LocMsg.send
    (loc_api_handle : Option η)
    (msg : LocMsg) : Outcome η :=
  match loc_api_handle with
  | none => .crashed
  | some locEng => .returned 0 [(locEng, msg)]

/- What the two handlers share: `isReq` tells them apart. -/
def ifReqRel
    (abi : Abi)
    (loc_api_handle : Option η)
    (pmsg : Mem)
    (isReq : Bool) : Outcome η :=
  match ifRequestType (numberAt pmsg abi.type 4) with
  | none => .returned (-1) []
  | some type =>
      match
        ifRequestSenderId (numberAt pmsg abi.senderId 4) with
      | none => .returned (-1) []
      | some .gpsoneDaemon =>
          -- an `unsigned long` that is passed as an `int`
          LocMsg.send loc_api_handle
            (.reqRelBIT
              type
              (BitVec.ofNat 32
                (numberAt pmsg abi.ipv4Addr abi.word))
              (memcpy16 pmsg abi.ipv6Addr)
              isReq)
      | some senderId =>
          LocMsg.send loc_api_handle
            (.reqRelWifi
              type
              senderId
              (strlcpyAt pmsg abi.ssid Agps.ssidBufSize)
              (strlcpyAt pmsg abi.password Agps.ssidBufSize)
              isReq)

/- `loc_eng_dmn_conn_loc_api_server_if_request_handler`. -/
def ifRequestHandler
    (abi : Abi)
    (loc_api_handle : Option η)
    (pmsg : Mem)
    (_len : Int) : Outcome η :=
  match loc_api_handle with
  | none => .returned 1 []
  | some locEng => ifReqRel abi (some locEng) pmsg true

/- `loc_eng_dmn_conn_loc_api_server_if_release_handler`. -/
def ifReleaseHandler
    (abi : Abi)
    (loc_api_handle : Option η)
    (pmsg : Mem)
    (_len : Int) : Outcome η :=
  ifReqRel abi loc_api_handle pmsg false

end DmnConn

end D2Common

------------------------------------------------------------
-- The Server Thread
------------------------------------------------------------

namespace D2Common

namespace DmnConn

variable {η σ : Type}

/- The size of the buffer that is allocated. -/
def sizeofBuffer (abi : Abi) : BitVec (8 * abi.word) :=
  BitVec.ofNat (8 * abi.word) (abi.sizeofCtrlMsgbuf + 256)

/- `loc_api_server_proc` drops the result of a handler. -/
def Outcome.ignoreResult : Outcome η → Outcome η
| .returned _ sent => .returned 0 sent
| .crashed => .crashed

/- The `switch` over `p_cmsgbuf->ctrl_type`. -/
def dispatch
    (abi : Abi)
    (loc_api_handle : Option η)
    (pmsg : Mem)
    (length : Int) : Outcome η :=
  if pmsg abi.ctrlType = gpsoneLocApiIfRequest then
    ifRequestHandler abi loc_api_handle pmsg length
  else if pmsg abi.ctrlType = gpsoneLocApiIfRelease then
    ifReleaseHandler abi loc_api_handle pmsg length
  else
    -- `GPSONE_UNBLOCK`, and types that are not supported
    .returned 0 []

/-
  `loc_api_server_proc`. The buffer is what `malloc` has
  returned, with the contents it came with.
-/
def serverProc
    (abi : Abi)
    (loc_api_handle : Option η)
    (read : PipeRead σ)
    (p_cmsgbuf : Option Mem)
    (pipe : σ) : Outcome η × σ :=
  match p_cmsgbuf with
  | none => (.returned (-1) [], pipe)
  | some mem =>
      let x : Receiver abi.word σ := ⟨mem, pipe, []⟩
      let (length, x) := msgrcv read x (sizeofBuffer abi)
      if length ≤ 0 then
        (.returned (-1) [], x.pipe)
      else
        let outcome :=
          dispatch abi loc_api_handle x.mem length
        (outcome.ignoreResult, x.pipe)

/-
  The loop of the thread, and all it queues. `mallocs` says
  of each round until the thread is told to exit whether
  there is memory, and `mems` what the buffer then holds.
  The thread also exits when a round fails.
-/
def serverRun
    (abi : Abi)
    (loc_api_handle : Option η)
    (read : PipeRead σ) :
    List Bool → (Nat → Mem) → σ → List (η × LocMsg)
| [], _, _ => []
| malloc :: mallocs, mems, pipe =>
    let p_cmsgbuf := if malloc then some (mems 0) else none
    match serverProc abi loc_api_handle read p_cmsgbuf pipe with
    | (.crashed, _) => []
    | (.returned result sent, pipe) =>
        if result < 0 then
          sent
        else
          sent ++
            serverRun abi loc_api_handle read mallocs
              (fun i => mems (i + 1)) pipe

end DmnConn

end D2Common
