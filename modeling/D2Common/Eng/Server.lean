import D2Common.Eng.Adapter

/-
  The AGPS servers.

  A setting that comes before the adapter exists is kept in
  a buffer, and the buffers are sent by the second half of
  `loc_eng_agps_init`; a later setting is sent at once.
  Resolving a host name is a parameter.

  Key definitions include:
    * `setServer`
    * `HostBuf`
    * `agpsReinit`

  Key theorems include:
    * `setServer_of_sendable`
-/

------------------------------------------------------------
-- Setting A Server
------------------------------------------------------------

namespace D2Common

namespace Eng

/- The characters of a C string before the terminator. -/
abbrev CString := List Char

/- What `resolve_in_addr` finds, as `s_addr`. -/
abbrev Resolver := CString → Option (BitVec 32)

/- `MAX_URL_LEN`. -/
def maxUrlLen : Nat := 256

/- `sizeof` of a host buffer. -/
def hostBufSize : Nat := 101

/- `strlcpy` into a buffer of some size. -/
def strlcpy
    (size : Nat)
    (s : CString) : CString :=
  s.take (size - 1)

/- `"%s:%u"` of a host name and a port. -/
def serverUrl
    (hostname : CString)
    (port : BitVec 32) : CString :=
  hostname ++ ':' :: Nat.toDigits 10 port.toNat

/- `htonl` on a little-endian machine. -/
def htonl (x : BitVec 32) : BitVec 32 :=
  x.extractLsb' 0 8 ++ x.extractLsb' 8 8 ++
    x.extractLsb' 16 8 ++ x.extractLsb' 24 8

variable {F : Type}

/- `loc_eng_set_server`: the message it sends, if any. -/
def setServer
    (resolve : Resolver)
    (type : LocServerType)
    (hostname : CString)
    (port : BitVec 32) : List (AdapterMsg F) :=
  match type with
  | .supl =>
      let url := serverUrl hostname port
      if url.length < maxUrlLen then
        [.setServerUrl url url.length]
      else []
  | .cdmaPde | .customPde | .mpc =>
      match resolve hostname with
      | none => []
      | some s_addr =>
          [.setServerIpv4 (htonl s_addr) port type]

/- `supl_host_set`, `supl_host_buf` and `supl_port_buf`, or
the three fields for C2K. -/
structure HostBuf where
  host_set : Bool
  host_buf : CString
  port_buf : BitVec 32
deriving DecidableEq

/- The fields as `memset` leaves them. -/
def HostBuf.zero : HostBuf := ⟨false, [], 0⟩

/- The fields after a setting has been saved. -/
def HostBuf.saved
    (hostname : CString)
    (port : BitVec 32) : HostBuf :=
  ⟨true, strlcpy hostBufSize hostname, port⟩

/- The message for a buffer that has been set. -/
def HostBuf.replay
    (b : HostBuf)
    (resolve : Resolver)
    (type : LocServerType) : List (AdapterMsg F) :=
  if b.host_set then
    setServer resolve type b.host_buf b.port_buf
  else []

/- `loc_eng_agps_reinit`. -/
def agpsReinit
    (resolve : Resolver)
    (supl c2k : HostBuf) : List (AdapterMsg F) :=
  supl.replay resolve .supl ++ c2k.replay resolve .cdmaPde

end Eng

end D2Common

------------------------------------------------------------
-- Settings That Can Be Sent
------------------------------------------------------------

namespace D2Common

namespace Eng

variable {F : Type}

/- The type of server that a message sets. -/
def AdapterMsg.serverType :
    AdapterMsg F → Option LocServerType
| .setServerUrl _ _ => some .supl
| .setServerIpv4 _ _ type => some type
| _ => none

/-
  A setting of one of the two servers that are buffered,
  with a host name that fits the buffer and resolves.
-/
structure Sendable
    (resolve : Resolver)
    (type : LocServerType)
    (hostname : CString) : Prop where
  buffered : type = .supl ∨ type = .cdmaPde
  short : hostname.length < hostBufSize
  resolves : (resolve hostname).isSome = true

/-
  The message that carries a host and a port: the URL of a
  SUPL server, the address of another one.
-/
def serverMsg
    (resolve : Resolver)
    (type : LocServerType)
    (hostname : CString)
    (port : BitVec 32) : AdapterMsg F :=
  match type with
  | .supl =>
      .setServerUrl (serverUrl hostname port)
        (serverUrl hostname port).length
  | _ =>
      .setServerIpv4 (htonl ((resolve hostname).getD 0)) port
        type

theorem serverType_serverMsg
    (resolve : Resolver)
    (type : LocServerType)
    (hostname : CString)
    (port : BitVec 32) :
    (serverMsg (F := F) resolve type hostname
      port).serverType = some type := by
  cases type <;> rfl

/- A number below `2 ^ 32` has at most ten digits. -/
theorem length_toDigits_port
    (port : BitVec 32) :
    (Nat.toDigits 10 port.toNat).length ≤ 10 := by
  have hBound : port.toNat < 10 ^ 10 := by
    have hLess := port.isLt
    omega
  exact (Nat.length_toDigits_le_iff (by decide)
    (by decide)).mpr hBound

theorem length_serverUrl
    {hostname : CString}
    (hShort : hostname.length < hostBufSize)
    (port : BitVec 32) :
    (serverUrl hostname port).length < maxUrlLen := by
  have hDigits := length_toDigits_port port
  simp only [serverUrl, List.length_append,
    List.length_cons, hostBufSize, maxUrlLen] at hShort ⊢
  omega

/- Such a setting is sent as its message. -/
theorem setServer_of_sendable
    {resolve : Resolver}
    {type : LocServerType}
    {hostname : CString}
    (hSendable : Sendable resolve type hostname)
    (port : BitVec 32) :
    setServer (F := F) resolve type hostname port =
      [serverMsg resolve type hostname port] := by
  rcases Option.isSome_iff_exists.mp hSendable.resolves with
    ⟨s_addr, hAddr⟩
  rcases hSendable.buffered with rfl | rfl
  · simp [setServer, serverMsg,
      length_serverUrl hSendable.short port]
  · simp [setServer, serverMsg, hAddr]

end Eng

end D2Common
