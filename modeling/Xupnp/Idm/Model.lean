import Xupnp.Library.Run
import Xupnp.Discovery.Callbacks
import Xupnp.XcalDevice.AccountId

/-!
# The IDM client (`idm_client.c`)

The client lists the broadband gateways of its own account and reports them to
a callback of its caller. A device that comes is asked for four things before
it is listed, and each request runs a main loop of its own until its answer is
there: other callbacks run in between. A call that waits is kept in
`IdmState.calls`, innermost first, and only the innermost can go on. The
account id is one global, read at the start and again by the local server
(`idm_server.c`) on every request for it.
-/

namespace Xupnp.Idm

open Xupnp.Library Xupnp.XcalDevice

/-! ## Records -/

/-- `GwyDeviceData` of the IDM client, without its service proxies. -/
structure GwyDeviceData where
  serialNum : CStr
  gwyipv6 : CStr
  bcastmacaddress : CStr
  receiverid : CStr
  clientip : CStr
deriving DecidableEq

/-- `init_gwydata` -/
def initGwydata : GwyDeviceData := ⟨.empty, .empty, .empty, .empty, .empty⟩

/-- The members of `device_info_t`. -/
inductive InfoField where
  | ipv4
  | ipv6
  | mac
deriving DecidableEq

namespace InfoField

def size : InfoField → ℕ
  | .ipv4 => 16
  | .ipv6 => 128
  | .mac => 18

/-- Where the member starts. -/
def offset : InfoField → ℕ
  | .ipv4 => 0
  | .ipv6 => 16
  | .mac => 144

end InfoField

def deviceInfoSize : ℕ := 162

/-- The bytes of a `device_info_t`. -/
abbrev DeviceInfo := CStr.Buffer deviceInfoSize

namespace DeviceInfo

/-- `memset (&di, 0, sizeof (di))` -/
def zero : DeviceInfo := CStr.strncpy deviceInfoSize []

/-- Write some bytes from an offset on; none if they reach past the end. -/
def write (di : DeviceInfo) (off : ℕ) (l : List UInt8) : Option DeviceInfo :=
  if h : off + l.length ≤ deviceInfoSize then
    some ⟨di.1.take off ++ l ++ di.1.drop (off + l.length), by
      have := di.2
      simp only [List.length_append, List.length_take, List.length_drop]
      omega⟩
  else none

/-- `strncpy (di.field, s, size)` -/
def strncpyField (di : DeviceInfo) (f : InfoField) (s : CStr) : DeviceInfo :=
  (di.write f.offset (CStr.padTo f.size s.bytes)).getD di

/-- `strcpy (di.field, s)`: the string and its NUL, however long it is. -/
def strcpyField (di : DeviceInfo) (f : InfoField) (s : CStr) :
    Option DeviceInfo := di.write f.offset (s.bytes ++ [0])

end DeviceInfo

namespace GwyDeviceData

/-- What `xdevlist` is ordered by. -/
def key (d : GwyDeviceData) : CStr := d.serialNum.strip

/-- `g_strstrip (gwydata->serial_num->str)` -/
def strip (d : GwyDeviceData) : GwyDeviceData :=
  { d with serialNum := d.serialNum.strip }

/-- The string a member of `device_info_t` is copied from. -/
def text (d : GwyDeviceData) : InfoField → CStr
  | .ipv4 => d.clientip
  | .ipv6 => d.gwyipv6
  | .mac => d.bcastmacaddress

/-- `g_string_assign` to that string. -/
def assign (d : GwyDeviceData) (f : InfoField) (s : CStr) : GwyDeviceData :=
  match f with
  | .ipv4 => { d with clientip := s }
  | .ipv6 => { d with gwyipv6 := s }
  | .mac => { d with bcastmacaddress := s }

@[simp] theorem key_strip (d : GwyDeviceData) : d.strip.key = d.key :=
  CStr.strip_strip _

@[simp] theorem key_assign (d : GwyDeviceData) (f : InfoField) (s : CStr) :
    (d.assign f s).key = d.key := by
  cases f <;> rfl

end GwyDeviceData

/-! ## The list -/

def hasSno (sno : Option CStr) (d : GwyDeviceData) : Bool :=
  sno.map CStr.strip = some d.key

/-- `g_list_find_custom (xdevlist, sno, g_list_find_sno)`: the list as the
search leaves it, and the record found. -/
def listFindSno (sno : Option CStr) :
    List GwyDeviceData → List GwyDeviceData × Option GwyDeviceData
  | [] => ([], none)
  | d :: ds =>
      if hasSno sno d then (d.strip :: ds, some d.strip)
      else
        let (ds, found) := listFindSno sno ds
        (d.strip :: ds, found)

/-- `g_list_insert_sorted_with_data (xdevlist, gwydata, g_list_compare_sno)` -/
def listInsertSorted (gwydata : GwyDeviceData) :
    List GwyDeviceData → List GwyDeviceData
  | [] => [gwydata]
  | d :: ds =>
      if gwydata.key ≤ d.key then gwydata.strip :: d.strip :: ds
      else d.strip :: listInsertSorted gwydata.strip ds

/-! ## State -/

/-- The requests `device_proxy_available_cb_bgw` makes, in its order. -/
inductive Request where
  | getClientIP
  | getBcastMacAddress
  | getGatewayIPv6
  | getAccountId
deriving DecidableEq

/-- A call of `device_proxy_available_cb_bgw` that waits for an answer. -/
structure Call where
  request : Request
  gwydata : GwyDeviceData
  di : DeviceInfo

/-- `callback (&di, added, authenticated)`, and the record it is about. -/
structure Report where
  gwydata : GwyDeviceData
  di : DeviceInfo
  added : Bool
  authenticated : Bool

/-- The globals, the calls that wait, and what has been reported, oldest
first. -/
structure IdmState where
  running : Bool
  xdevlist : List GwyDeviceData
  ownSerialNo : CStr
  accountId : CStr
  deviceAddNo : ℕ
  calls : List Call
  reports : List Report

/-! ## The account id -/

/-- `getAccountId` of `idm_library.c`, which is the one of `xdiscovery.c`: a
read that fails leaves `outValue` alone. -/
def getAccountId (source : AccountSource) (outValue : CStr) : CStr :=
  (clientGetAccountId source).getD outValue

/-- `strcasecmp_s ("unknown", …)` finds no difference. -/
def isUnknown (accountId : CStr) : Bool :=
  accountId.bytes.map CStr.lowerByte = CStr.ascii "unknown"

/-- The loop at the start: read until the id is not `unknown`. The result is
the id, and the read that ended the loop. -/
def awaitAccountId : CStr → List AccountSource → Option (CStr × AccountSource)
  | _, [] => none
  | accountId, source :: reads =>
      let accountId := getAccountId source accountId
      if isUnknown accountId then awaitAccountId accountId reads
      else some (accountId, source)

/-- The digits check on the answer of a device. An empty one passes. -/
def validAccount (temp : CStr) : Bool :=
  temp.bytes.all fun b => decide (0x30 ≤ b) && decide (b ≤ 0x39)

/-! ## The callbacks -/

/-- What a device tells of itself. -/
structure DeviceProxy where
  serialNumber : Option CStr
  udn : Option CStr

/-- `device_proxy_available_cb_bgw` up to its first request. -/
def deviceProxyAvailableCbBgw (p : DeviceProxy) (s : IdmState) : IdmState :=
  match listFindSno p.serialNumber s.xdevlist with
  | (ds, some _) => { s with xdevlist := ds }
  | (ds, none) =>
      let s := { s with xdevlist := ds }
      match p.serialNumber, p.udn.bind Discovery.udnId with
      | some sno, some receiverid =>
          let gwydata :=
            { initGwydata with
              serialNum := if ds = [] then sno else sno.strip
              receiverid }
          { s with
            deviceAddNo := s.deviceAddNo + 1
            calls := ⟨.getClientIP, gwydata, .zero⟩ :: s.calls }
      | _, _ => s

/-- `processStringRequest` returns, for one of the three strings. An answer may
lack the value (`NULL`), which `g_string_assign` does not take. -/
def Call.fill (c : Call) (f : InfoField) (result : Option (Option CStr))
    (next : Request) : Call :=
  match result with
  | none => { c with request := next }
  | some temp =>
      let gwydata := c.gwydata.assign f (temp.getD (c.gwydata.text f))
      { request := next
        gwydata
        di := c.di.strncpyField f (gwydata.text f) }

/-- The innermost call returns. -/
def finish (s : IdmState) : IdmState :=
  { s with deviceAddNo := s.deviceAddNo - 1, calls := s.calls.tail }

/-- The device has answered `GetAccountId`: the check, and the end of the
call. -/
def accountAnswered (c : Call) (temp : CStr) (s : IdmState) : IdmState :=
  if validAccount temp then
    let s := { s with accountId := s.accountId.strip }
    if s.accountId = temp then
      finish
        { s with
          xdevlist := listInsertSorted c.gwydata s.xdevlist
          reports := s.reports ++ [⟨c.gwydata, c.di, true, true⟩] }
    else finish s
  else finish s

/-- The request of the innermost call returns. -/
def resume (result : Option (Option CStr)) (s : IdmState) : Option IdmState :=
  match s.calls with
  | [] => none
  | c :: cs =>
      match c.request with
      | .getClientIP =>
          some { s with
            calls := c.fill .ipv4 result .getBcastMacAddress :: cs }
      | .getBcastMacAddress =>
          some { s with calls := c.fill .mac result .getGatewayIPv6 :: cs }
      | .getGatewayIPv6 =>
          some { s with calls := c.fill .ipv6 result .getAccountId :: cs }
      | .getAccountId =>
          match result with
          | none => some (finish s)
          | some none => none  -- `strlen (NULL)`
          | some (some temp) => some (accountAnswered c temp s)

/-- The three copies of `delete_gwyitem` into an uninitialised
`device_info_t`. -/
def copyInfo (di : DeviceInfo) (d : GwyDeviceData) : Option DeviceInfo := do
  let di ← di.strcpyField .ipv4 d.clientip
  let di ← di.strcpyField .mac d.bcastmacaddress
  di.strcpyField .ipv6 d.gwyipv6

/-- `delete_gwyitem` -/
def deleteGwyitem (serialNum : Option CStr) (di : DeviceInfo)
    (s : IdmState) : Option IdmState :=
  match listFindSno serialNum s.xdevlist with
  | (ds, some gwydata) =>
      (copyInfo di gwydata).map fun di =>
        { s with
          xdevlist := ds.eraseP (hasSno serialNum)
          reports := s.reports ++ [⟨gwydata, di, false, false⟩] }
  | (ds, none) => some { s with xdevlist := ds }

/-- `device_proxy_unavailable_cb_bgw` -/
def deviceProxyUnavailableCbBgw (sno : Option CStr) (di : DeviceInfo)
    (s : IdmState) : Option IdmState :=
  let s := { s with ownSerialNo := s.ownSerialNo.strip }
  if sno = some s.ownSerialNo then some s
  else deleteGwyitem sno di s

/-- `get_account_id_cb` of `idm_server.c`. -/
def getAccountIdCb (source : AccountSource) (s : IdmState) : IdmState :=
  { s with accountId := getAccountId source .empty }

/-! ## Steps -/

/-- What a main loop is told, the ones inside a request among them. -/
inductive Notice where
  | available (p : Option DeviceProxy)
  | answer (result : Option (Option CStr))
  | unavailable (sno : Option CStr) (di : DeviceInfo)
  | getAccountId (source : AccountSource)

/-- One callback, up to where it ends or waits. `none` is a crash, or an
answer no call waits for. -/
def callbackStep (s : IdmState) : Notice → Option IdmState
  | .available none => some s
  | .available (some p) => some (deviceProxyAvailableCbBgw p s)
  | .answer result => resume result s
  | .unavailable sno di => deviceProxyUnavailableCbBgw sno di s
  | .getAccountId source => some (getAccountIdCb source s)

/-- Before the first `start_discovery`. -/
def initState : IdmState := ⟨false, [], .empty, .empty, 0, [], []⟩

/-- `start_discovery` up to its main loop. -/
def startDiscovery (serialNum : CStr) (reads : List AccountSource)
    (s : IdmState) : Option IdmState :=
  (awaitAccountId .empty reads).map fun (accountId, _) =>
    { s with running := true, ownSerialNo := serialNum, accountId }

/-- `gssdp_resource_browser_set_active (…, FALSE)` behind the main loop: the
control point reports the devices it still has as unavailable, one after the
other. -/
def setInactive (gone : List (Option CStr × DeviceInfo)) (s : IdmState) :
    Option IdmState :=
  runFrom (fun s (sno, di) => deviceProxyUnavailableCbBgw sno di s) s gone

/-- `remove_entries_in_list`: `g_list_remove_link` clears `next` of the link it
takes out, so the loop ends after the first. -/
def removeEntriesInList (ds : List GwyDeviceData) : List GwyDeviceData :=
  ds.tail

/-- The client is started, is told something, or is stopped while the control
point has these devices. -/
inductive Event where
  | start (serialNum : CStr) (reads : List AccountSource)
  | notice (n : Notice)
  | stop (gone : List (Option CStr × DeviceInfo))

/-- One event. A main loop runs from the start on, and ends when no call
waits. Behind it the devices are reported unavailable, and the rest of the list
is removed. -/
def step (s : IdmState) : Event → Option IdmState
  | .start serialNum reads =>
      if s.running then none else startDiscovery serialNum reads s
  | .notice n => if s.running then callbackStep s n else none
  | .stop gone =>
      if s.running ∧ s.calls.isEmpty then
        (setInactive gone s).map fun s =>
          { s with
            running := false, xdevlist := removeEntriesInList s.xdevlist }
      else none

end Xupnp.Idm
