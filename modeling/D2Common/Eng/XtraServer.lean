import Mathlib.Data.List.Infix
import D2Common.Eng.Server
import D2Common.Foundations.Checked
import D2Common.Foundations.Rows
import D2Common.Utils.MiscUtils

/-
  The servers of the extra data.

  The message has one buffer with three slots for the URLs
  of the modem. A URL of `gps.conf` replaces one of them, and
  a URL of one known server is left out, so that the next one
  takes its slot. `proc` gives the three slots to the
  callback. URLs are memory that a pointer points to: a
  string goes up to its terminator.

  Key definitions include:
    * `LocEngReportXtraServer`
    * `LocEngReportXtraServer.construct`
    * `LocEngReportXtraServer.proc`
    * `selected`

  Key theorems include:
    * `strcasestr_eq_none_iff`
    * `Copied.copyServer`
    * `selected_servers_iff`
-/

------------------------------------------------------------
-- The Message
------------------------------------------------------------

namespace D2Common

namespace Eng

open Cfg (Param Store cString)
open Checked (int32)

/- `XTRA1_GPSONEXTRA`. -/
def xtra1Gpsonextra : CString :=
  "xtra1.gpsonextra.net".toList

/- `strcasestr`: from where a string is found on. -/
def strcasestr (haystack needle : CString) : Option CString :=
  haystack.tails.find? fun s =>
    (needle.map Char.toLower).isPrefixOf (s.map Char.toLower)

/-
  `strlcpy` to a position of a buffer. There is nothing that
  it does outside the buffer.
-/
def strlcpyTo
    (buf : List Char)
    (pos : Nat)
    (src : CString)
    (size : Nat) : Option (List Char) :=
  if size = 0 then some buf
  else
    let text := strlcpy size src ++ ['\x00']
    if pos + text.length ≤ buf.length then
      some (Rows.overwrite buf pos text)
    else none

/- The string at a position, if it ends in the buffer. -/
def stringAt
    (buf : List Char)
    (pos : Int) : Option CString :=
  if 0 ≤ pos ∧ '\x00' ∈ buf.drop pos.toNat then
    some (cString (buf.drop pos.toNat))
  else none

/- `LocEngReportXtraServer`. -/
structure LocEngReportXtraServer where
  mMaxLen : Int
  mServers : List Char
deriving DecidableEq

variable {F : Type}

/- A URL, unless the parameter of `gps_conf` has another. -/
def overrideUrl
    (gps_conf : Store F)
    (server : Param)
    (url : List Char) : List Char :=
  if (gps_conf.str server).headD '\x00' ≠ '\x00' then
    gps_conf.str server
  else url

/- A URL is copied to `cptr`, which is moved behind it. -/
def copyServer
    (slot : Int)
    (url : List Char)
    (mServers : List Char)
    (cptr : Nat) : Option (List Char × Nat) :=
  match strcasestr (cString url) xtra1Gpsonextra with
  | some _ => some (mServers, cptr)
  | none => do
      let mServers ←
        strlcpyTo mServers cptr (cString url) slot.toNat
      some (mServers, cptr + slot.toNat)

/- `LocEngReportXtraServer::LocEngReportXtraServer`. -/
def LocEngReportXtraServer.construct
    (gps_conf : Store F)
    (url1 url2 url3 : List Char)
    (maxlength : Int) : Option LocEngReportXtraServer := do
  let slot ← int32.check (maxlength + 1)
  let size ← int32.check (3 * slot)
  if size < 0 then none
  else
    let mServers := List.replicate size.toNat '\x00'
    let url1 := overrideUrl gps_conf .xtraServer1 url1
    let url2 := overrideUrl gps_conf .xtraServer2 url2
    let url3 := overrideUrl gps_conf .xtraServer3 url3
    let (mServers, cptr) ← copyServer slot url1 mServers 0
    let (mServers, cptr) ← copyServer slot url2 mServers cptr
    let (mServers, _) ← copyServer slot url3 mServers cptr
    some ⟨maxlength, mServers⟩

/- `proc`: the calls of `report_xtra_server_cb`, if set. -/
def LocEngReportXtraServer.proc
    (report_xtra_server_cb : Bool)
    (msg : LocEngReportXtraServer) :
    Option (List (CString × CString × CString)) :=
  if report_xtra_server_cb then do
    let second ← int32.check (msg.mMaxLen + 1)
    -- `(mMaxLen+1)<<1`
    let third ← int32.check (second * 2)
    let server1 ← stringAt msg.mServers 0
    let server2 ← stringAt msg.mServers second
    let server3 ← stringAt msg.mServers third
    some [(server1, server2, server3)]
  else some []

end Eng

end D2Common

------------------------------------------------------------
-- The Servers That Are Wanted
------------------------------------------------------------

namespace D2Common

namespace Eng

open Cfg (Param Store cString)
open MiscUtils (HoldsString)

/- The known server is in a URL, in any letter case. -/
def IsGpsonextra (url : CString) : Prop :=
  xtra1Gpsonextra.map Char.toLower <:+: url.map Char.toLower

instance (url : CString) : Decidable (IsGpsonextra url) :=
  inferInstanceAs (Decidable (_ <:+: _))

variable {F : Type}

/- The URL of the modem, or the one that replaces it. -/
def effectiveUrl
    (gps_conf : Store F)
    (server : Param)
    (url : List Char) : CString :=
  if cString (gps_conf.str server) = [] then cString url
  else cString (gps_conf.str server)

/- The URLs that are not left out, cut to a length. -/
def keptUrls
    (maxlength : Nat)
    (urls : List CString) : List CString :=
  (urls.filter fun url => ¬ IsGpsonextra url).map
    (List.take maxlength)

/- The servers, with empty strings for those that lack. -/
def selected
    (gps_conf : Store F)
    (url1 url2 url3 : List Char)
    (maxlength : Nat) : List CString :=
  let kept :=
    keptUrls maxlength
      [effectiveUrl gps_conf .xtraServer1 url1,
        effectiveUrl gps_conf .xtraServer2 url2,
        effectiveUrl gps_conf .xtraServer3 url3]
  kept ++ List.replicate (3 - kept.length) []

/-
  The callback gets these servers, and each of them is in
  its slot of the buffer with its terminator.
-/
structure Delivers
    (maxlength : Nat)
    (servers : List CString)
    (msg : LocEngReportXtraServer) : Prop where
  calls :
    ∃ server1 server2 server3,
      servers = [server1, server2, server3] ∧
      msg.proc true = some [(server1, server2, server3)]
  length : msg.mServers.length = 3 * (maxlength + 1)
  slots :
    ∀ i server,
      servers[i]? = some server →
      server.length < maxlength + 1 ∧
      HoldsString (msg.mServers.drop (i * (maxlength + 1)))
        server

/- What is searched for is found if it is there. -/
theorem strcasestr_eq_none_iff (haystack needle : CString) :
    strcasestr haystack needle = none ↔
      ¬ needle.map Char.toLower <:+:
        haystack.map Char.toLower := by
  unfold strcasestr
  rw [List.find?_eq_none, List.infix_iff_prefix_suffix]
  constructor
  · rintro hNone ⟨found, hPrefix, hSuffix⟩
    rcases List.suffix_map_iff.mp hSuffix with
      ⟨s, hTail, rfl⟩
    exact
      hNone s ((List.mem_tails s haystack).mpr hTail)
        (List.isPrefixOf_iff_prefix.mpr hPrefix)
  · intro hNone s hs hFound
    exact
      hNone
        ⟨s.map Char.toLower,
          List.isPrefixOf_iff_prefix.mp hFound,
          ((List.mem_tails s haystack).mp hs).map _⟩

/- An empty string starts with its terminator. -/
theorem cString_eq_nil_iff (buf : List Char) :
    cString buf = [] ↔ buf.headD '\x00' = '\x00' := by
  cases buf with
  | nil => simp [cString]
  | cons c buf => simp [cString]

theorem cString_overrideUrl
    (gps_conf : Store F)
    (server : Param)
    (url : List Char) :
    cString (overrideUrl gps_conf server url) =
      effectiveUrl gps_conf server url := by
  unfold overrideUrl effectiveUrl
  by_cases hEmpty : cString (gps_conf.str server) = []
  · rw [if_pos hEmpty, if_neg]
    exact not_not.mpr ((cString_eq_nil_iff _).mp hEmpty)
  · rw [if_neg hEmpty, if_pos]
    exact fun hHead => hEmpty ((cString_eq_nil_iff _).mpr hHead)

theorem not_mem_cString (buf : List Char) :
    '\x00' ∉ cString buf := by
  intro hMem
  have hNe := List.mem_takeWhile_imp hMem
  simp at hNe

end Eng

end D2Common

------------------------------------------------------------
-- Copying The Servers
------------------------------------------------------------

namespace D2Common

namespace Eng

open Cfg (Param Store cString)
open MiscUtils (HoldsString)
open Rows (rows)

variable {F : Type}

/-
  The servers that have been copied are in the first slots
  of three, and the next one goes behind them.
-/
structure Copied
    (maxlength : Nat)
    (done : List CString)
    (mServers : List Char)
    (cptr : Nat) : Prop where
  room : done.length ≤ 3
  fit : ∀ server ∈ done, server.length ≤ maxlength
  text : ∀ server ∈ done, '\x00' ∉ server
  buffer :
    mServers =
      rows '\x00' (maxlength + 1)
        (done ++ List.replicate (3 - done.length) [])
  next : cptr = done.length * (maxlength + 1)

theorem keptUrls_append
    (maxlength : Nat)
    (urls more : List CString) :
    keptUrls maxlength (urls ++ more) =
      keptUrls maxlength urls ++ keptUrls maxlength more := by
  rw [keptUrls, List.filter_append, List.map_append]
  rfl

theorem length_keptUrls_le
    (maxlength : Nat)
    (urls : List CString) :
    (keptUrls maxlength urls).length ≤ urls.length := by
  rw [keptUrls, List.length_map]
  exact List.length_filter_le _ urls

/- A string is cut to its slot, and fills it up. -/
theorem strlcpyTo_rows
    {maxlength : Nat}
    {done : List CString}
    (hFit : ∀ server ∈ done, server.length ≤ maxlength)
    (url : CString)
    (count : Nat) :
    strlcpyTo
        (rows '\x00' (maxlength + 1)
          (done ++ List.replicate (count + 1) []))
        (done.length * (maxlength + 1)) url (maxlength + 1) =
      some
        (rows '\x00' (maxlength + 1)
          (done ++
            url.take maxlength ::
              List.replicate count [])) := by
  have hRows :
      ∀ server ∈ done, server.length ≤ maxlength + 1 :=
    fun server hServer =>
      Nat.le_succ_of_le (hFit server hServer)
  have hText :
      (url.take maxlength ++ ['\x00']).length ≤
        maxlength + 1 := by
    rw [List.length_append, List.length_singleton]
    exact Nat.succ_le_succ (List.length_take_le _ _)
  have hShort : (url.take maxlength).length < maxlength + 1 :=
    Nat.lt_succ_of_le (List.length_take_le _ _)
  have hTotal :
      (rows '\x00' (maxlength + 1)
          (done ++ List.replicate (count + 1) [])).length =
        done.length * (maxlength + 1) +
          (count * (maxlength + 1) + (maxlength + 1)) := by
    rw [Rows.rows_append, List.length_append,
      Rows.length_rows '\x00' hRows, Rows.rows_replicate_nil,
      List.length_replicate, Nat.succ_mul]
  have hInside :
      done.length * (maxlength + 1) +
          (url.take maxlength ++ ['\x00']).length ≤
        (rows '\x00' (maxlength + 1)
          (done ++ List.replicate (count + 1) [])).length := by
    rw [hTotal]
    omega
  unfold strlcpyTo strlcpy
  rw [if_neg (Nat.succ_ne_zero maxlength), Nat.add_sub_cancel,
    if_pos hInside, Rows.overwrite_rows '\x00' hRows hText]
  -- the terminator is one of those that fill the slot
  rw [Rows.rows_append, Rows.rows_append, Rows.rows_cons,
    Rows.rows_cons, Rows.row_concat '\x00' hShort]

/- One URL is copied, or left out. -/
theorem copyServer_copied
    {maxlength : Nat}
    {urls : List CString}
    {mServers : List Char}
    {cptr : Nat}
    (hCopied :
      Copied maxlength (keptUrls maxlength urls) mServers cptr)
    (hRoom : urls.length < 3)
    (url : List Char) :
    ∃ mServers' cptr',
      copyServer (maxlength + 1) url mServers cptr =
        some (mServers', cptr') ∧
      Copied maxlength
        (keptUrls maxlength (urls ++ [cString url])) mServers'
        cptr' := by
  have hDone :=
    (length_keptUrls_le maxlength urls).trans_lt hRoom
  rw [keptUrls_append]
  generalize keptUrls maxlength urls = done at hCopied hDone ⊢
  unfold copyServer
  by_cases hKnown : IsGpsonextra (cString url)
  · have hKept : keptUrls maxlength [cString url] = [] := by
      simp [keptUrls, hKnown]
    rw [hKept, List.append_nil]
    cases hFound : strcasestr (cString url) xtra1Gpsonextra with
    | none =>
        exact
          absurd hKnown
            ((strcasestr_eq_none_iff _ _).mp hFound)
    | some s => exact ⟨mServers, cptr, rfl, hCopied⟩
  · have hKept :
        keptUrls maxlength [cString url] =
          [(cString url).take maxlength] := by
      simp [keptUrls, hKnown]
    have hNone :
        strcasestr (cString url) xtra1Gpsonextra = none :=
      (strcasestr_eq_none_iff _ _).mpr hKnown
    have hSlots :
        3 - done.length = 3 - (done.length + 1) + 1 := by
      omega
    have hCopy :=
      strlcpyTo_rows hCopied.fit (cString url)
        (3 - (done.length + 1))
    rw [← hSlots, ← hCopied.buffer, ← hCopied.next] at hCopy
    rw [hKept, hNone]
    have hSize :
        ((maxlength : Int) + 1).toNat = maxlength + 1 := by
      omega
    dsimp only
    rw [hSize, hCopy]
    refine ⟨_, _, rfl, ?_⟩
    exact
      { room := by
          rw [List.length_append, List.length_singleton]
          exact hDone
        fit :=
          List.forall_mem_append.mpr
            ⟨hCopied.fit,
              List.forall_mem_singleton.mpr
                (List.length_take_le _ _)⟩
        text :=
          List.forall_mem_append.mpr
            ⟨hCopied.text,
              List.forall_mem_singleton.mpr fun hMem =>
                not_mem_cString url
                  (List.mem_of_mem_take hMem)⟩
        buffer := by
          rw [List.length_append, List.length_singleton,
            List.append_assoc, List.singleton_append]
        next := by
          rw [hCopied.next, List.length_append,
            List.length_singleton, Nat.succ_mul] }

end Eng

end D2Common

------------------------------------------------------------
-- Delivering The Servers
------------------------------------------------------------

namespace D2Common

namespace Eng

open Cfg (Param Store cString)
open Checked (int32 bind_check_of_holds
  bind_check_of_not_holds int32_holds_iff)
open MiscUtils (HoldsString)
open Rows (rows)

variable {F : Type}

theorem stringAt_of_holds
    {buf : List Char}
    {pos : Nat}
    {text : CString}
    (hHolds : HoldsString (buf.drop pos) text) :
    stringAt buf pos = some text := by
  rcases hHolds with ⟨hText, rest, hBuf⟩
  rw [List.append_assoc, List.singleton_append] at hBuf
  have hEnds : '\x00' ∈ buf.drop pos := by
    rw [← hBuf]
    exact List.mem_append_right text List.mem_cons_self
  unfold stringAt
  rw [Int.toNat_natCast, if_pos ⟨Int.natCast_nonneg pos, hEnds⟩,
    ← hBuf, MiscUtils.cString_append hText]

/- Every server is in its slot. -/
theorem holdsString_rows
    {maxlength : Nat}
    {servers : List CString}
    (hFit : ∀ server ∈ servers, server.length ≤ maxlength)
    (hText : ∀ server ∈ servers, '\x00' ∉ server)
    {i : Nat}
    {server : CString}
    (hServer : servers[i]? = some server) :
    HoldsString
      ((rows '\x00' (maxlength + 1) servers).drop
        (i * (maxlength + 1)))
      server := by
  have hMem := List.mem_of_getElem? hServer
  have hShort := hFit server hMem
  rcases
    Rows.drop_rows '\x00'
      (fun text hIn => Nat.le_succ_of_le (hFit text hIn))
      hServer with
    ⟨rest, hDrop⟩
  have hFill :
      maxlength + 1 - server.length =
        maxlength - server.length + 1 := by
    omega
  refine
    ⟨hText server hMem,
      List.replicate (maxlength - server.length) '\x00' ++ rest,
      ?_⟩
  rw [hDrop, Rows.row, hFill, List.replicate_succ]
  simp only [List.append_assoc, List.cons_append,
    List.nil_append]

/- The callback gets what is in the slots. -/
theorem proc_of_holds
    {maxlength : Nat}
    (hSize : int32.Holds (3 * ((maxlength : Int) + 1)))
    {mServers : List Char}
    {server1 server2 server3 : CString}
    (hHolds :
      ∀ i server,
        [server1, server2, server3][i]? = some server →
        HoldsString (mServers.drop (i * (maxlength + 1)))
          server) :
    LocEngReportXtraServer.proc true ⟨maxlength, mServers⟩ =
      some [(server1, server2, server3)] := by
  rw [int32_holds_iff] at hSize
  have hSecond : int32.Holds ((maxlength : Int) + 1) := by
    rw [int32_holds_iff]
    omega
  have hThird : int32.Holds (((maxlength : Int) + 1) * 2) := by
    rw [int32_holds_iff]
    omega
  have hPos1 : ((0 * (maxlength + 1) : Nat) : Int) = 0 := by
    simp
  have hPos2 :
      ((1 * (maxlength + 1) : Nat) : Int) = maxlength + 1 := by
    push_cast
    omega
  have hPos3 :
      ((2 * (maxlength + 1) : Nat) : Int) =
        (maxlength + 1) * 2 := by
    push_cast
    omega
  have hString1 := stringAt_of_holds (hHolds 0 server1 rfl)
  have hString2 := stringAt_of_holds (hHolds 1 server2 rfl)
  have hString3 := stringAt_of_holds (hHolds 2 server3 rfl)
  rw [hPos1] at hString1
  rw [hPos2] at hString2
  rw [hPos3] at hString3
  rw [LocEngReportXtraServer.proc, if_pos rfl,
    bind_check_of_holds hSecond, bind_check_of_holds hThird,
    hString1, hString2, hString3]
  rfl

/- What has been copied is what the callback gets. -/
theorem Copied.delivers
    {maxlength : Nat}
    (hSize : int32.Holds (3 * ((maxlength : Int) + 1)))
    {done : List CString}
    {mServers : List Char}
    {cptr : Nat}
    (hCopied : Copied maxlength done mServers cptr) :
    Delivers maxlength
      (done ++ List.replicate (3 - done.length) [])
      ⟨maxlength, mServers⟩ := by
  have hRoom := hCopied.room
  have hFit :
      ∀ server ∈ done ++ List.replicate (3 - done.length) [],
        server.length ≤ maxlength := by
    refine
      List.forall_mem_append.mpr
        ⟨hCopied.fit, fun server hEmpty => ?_⟩
    rw [List.eq_of_mem_replicate hEmpty]
    exact Nat.zero_le maxlength
  have hText :
      ∀ server ∈ done ++ List.replicate (3 - done.length) [],
        '\x00' ∉ server := by
    refine
      List.forall_mem_append.mpr
        ⟨hCopied.text, fun server hEmpty => ?_⟩
    rw [List.eq_of_mem_replicate hEmpty]
    exact List.not_mem_nil
  have hLength :
      (done ++ List.replicate (3 - done.length) []).length =
        3 := by
    rw [List.length_append, List.length_replicate]
    omega
  have hBuffer := hCopied.buffer
  generalize
    done ++ List.replicate (3 - done.length) [] = servers
    at hFit hText hLength hBuffer ⊢
  have hHolds :
      ∀ i server,
        servers[i]? = some server →
        HoldsString (mServers.drop (i * (maxlength + 1)))
          server := by
    intro i server hServer
    rw [hBuffer]
    exact holdsString_rows hFit hText hServer
  refine
    { calls := ?_
      length := ?_
      slots := fun i server hServer =>
        ⟨Nat.lt_succ_of_le
            (hFit server (List.mem_of_getElem? hServer)),
          hHolds i server hServer⟩ }
  · rcases List.length_eq_three.mp hLength with
      ⟨server1, server2, server3, rfl⟩
    exact
      ⟨server1, server2, server3, rfl,
        proc_of_holds hSize hHolds⟩
  · dsimp only
    rw [hBuffer,
      Rows.length_rows '\x00' fun server hServer =>
        Nat.le_succ_of_le (hFit server hServer),
      hLength]

/- Before the first URL all slots are empty. -/
theorem copied_nil (maxlength : Nat) :
    Copied maxlength []
      (List.replicate (3 * (maxlength + 1)) '\x00') 0 where
  room := Nat.zero_le 3
  fit := by
    intro server hServer
    cases hServer
  text := by
    intro server hServer
    cases hServer
  buffer := by
    rw [List.length_nil, Nat.sub_zero, List.nil_append,
      Rows.rows_replicate_nil]
  next := by
    rw [List.length_nil, Nat.zero_mul]

theorem construct_eq_none
    (gps_conf : Store F)
    (url1 url2 url3 : List Char)
    {maxlength : Int}
    (hSize : ¬ int32.Holds (3 * (maxlength + 1))) :
    LocEngReportXtraServer.construct gps_conf url1 url2 url3
        maxlength =
      none := by
  unfold LocEngReportXtraServer.construct
  by_cases hSlot : int32.Holds (maxlength + 1)
  · rw [bind_check_of_holds hSlot,
      bind_check_of_not_holds hSize]
  · rw [bind_check_of_not_holds hSlot]

/- Three URLs are copied one after the other. -/
theorem construct_delivers
    (gps_conf : Store F)
    (url1 url2 url3 : List Char)
    {maxlength : Nat}
    (hSize : int32.Holds (3 * ((maxlength : Int) + 1))) :
    ∃ msg,
      LocEngReportXtraServer.construct gps_conf url1 url2 url3
          maxlength = some msg ∧
      Delivers maxlength
        (selected gps_conf url1 url2 url3 maxlength) msg := by
  have hSlot : int32.Holds ((maxlength : Int) + 1) := by
    rw [int32_holds_iff] at hSize ⊢
    omega
  have hNonneg : ¬ 3 * ((maxlength : Int) + 1) < 0 := by omega
  have hBuffer :
      (3 * ((maxlength : Int) + 1)).toNat =
        3 * (maxlength + 1) := by
    omega
  have hEmpty : Copied maxlength (keptUrls maxlength [])
      (List.replicate (3 * (maxlength + 1)) '\x00') 0 :=
    copied_nil maxlength
  rcases
    copyServer_copied hEmpty (by simp)
      (overrideUrl gps_conf .xtraServer1 url1) with
    ⟨mServers1, cptr1, hCopy1, hCopied1⟩
  rcases
    copyServer_copied hCopied1 (by simp)
      (overrideUrl gps_conf .xtraServer2 url2) with
    ⟨mServers2, cptr2, hCopy2, hCopied2⟩
  rcases
    copyServer_copied hCopied2 (by simp)
      (overrideUrl gps_conf .xtraServer3 url3) with
    ⟨mServers3, cptr3, hCopy3, hCopied3⟩
  refine ⟨⟨maxlength, mServers3⟩, ?_, ?_⟩
  · rw [LocEngReportXtraServer.construct,
      bind_check_of_holds hSlot, bind_check_of_holds hSize,
      if_neg hNonneg, hBuffer]
    dsimp only
    rw [hCopy1]
    dsimp only [Option.bind_eq_bind, Option.bind_some]
    rw [hCopy2]
    dsimp only [Option.bind_some]
    rw [hCopy3]
    rfl
  · have hDelivers := hCopied3.delivers hSize
    rw [cString_overrideUrl, cString_overrideUrl,
      cString_overrideUrl] at hDelivers
    exact hDelivers

theorem selected_servers_iff
    {maxlength : Int}
    (hLength : 0 ≤ maxlength)
    (gps_conf : Store F)
    (url1 url2 url3 : List Char) :
    (∃ msg,
        LocEngReportXtraServer.construct gps_conf url1 url2
            url3 maxlength = some msg ∧
        Delivers maxlength.toNat
          (selected gps_conf url1 url2 url3 maxlength.toNat)
          msg) ↔
      int32.Holds (3 * (maxlength + 1)) := by
  constructor
  · rintro ⟨msg, hMsg, -⟩
    by_contra hSize
    rw [construct_eq_none gps_conf url1 url2 url3 hSize] at hMsg
    cases hMsg
  · intro hSize
    rcases Int.eq_ofNat_of_zero_le hLength with ⟨length, rfl⟩
    exact construct_delivers gps_conf url1 url2 url3 hSize

/- A configuration with one server. -/
def secondOnly : Store Unit where
  num := fun _ => 0
  dbl := fun _ => ()
  str := fun server =>
    if server = .xtraServer2 then "b.net".toList else []
  valid := fun _ => false

/- The first URL is left out, and the second one replaced. -/
theorem selected_servers_iff_five :
    ∃ msg,
      LocEngReportXtraServer.construct secondOnly
          "http://XTRA1.gpsonextra.net/x".toList
          "a.net".toList "http://c.net".toList 5 = some msg ∧
      Delivers 5
        (selected secondOnly
          "http://XTRA1.gpsonextra.net/x".toList
          "a.net".toList "http://c.net".toList 5) msg :=
  (selected_servers_iff (show (0 : Int) ≤ 5 by decide)
    secondOnly "http://XTRA1.gpsonextra.net/x".toList
    "a.net".toList "http://c.net".toList).mpr (by decide)

example :
    selected secondOnly
        "http://XTRA1.gpsonextra.net/x".toList
        "a.net".toList "http://c.net".toList 5 =
      ["b.net".toList, "http:".toList, []] := by
  decide

/- Three slots of this length are too large for an `int`. -/
theorem largest_slots_fail :
    ¬ ∃ msg,
      LocEngReportXtraServer.construct secondOnly [] [] []
          715827882 = some msg ∧
      Delivers 715827882
        (selected secondOnly [] [] [] 715827882) msg := by
  rintro ⟨msg, hMsg, -⟩
  have hSize :
      ¬ int32.Holds (3 * ((715827882 : Int) + 1)) := by
    rw [int32_holds_iff]
    omega
  rw [construct_eq_none secondOnly [] [] [] hSize] at hMsg
  cases hMsg

end Eng

end D2Common
