import Mathlib.Data.Int.Basic
import Xupnp.Library.CString
import Xupnp.Library.Mutex

/-!
# The media browser (`mediabrowser.c`, `mbwsr_rpc_srv.c`)

The browser keeps the UPnP media servers of the network in `msList`, which two
control point callbacks maintain and the handlers of the rbus methods read.
All of them take `locker` around their look at the list. The list is the
guarded state of `Library.Mutex`, and every call here is one of its calls: it
returns, waits for `locker` for ever, or faults.

GUPnP, rbus and the safe C library are parameters (`Platform`), with what is
documented of them in `Platform.Documented`.
-/

namespace Xupnp.MediaBrowser

open Xupnp.Library Locking

variable {S : Type}

/-! ## rbus objects -/

/-- The values that are looked at, and all others by their type. -/
inductive RbusValue where
  | string (s : CStr)
  | int32 (i : Int32)
  | other (type : ℕ)
deriving DecidableEq

/-- The properties of an object, in order. -/
abbrev RbusObject := List (String × RbusValue)

/-- `rbusObject_SetValue`: a new property goes to the end. -/
def setValue (o : RbusObject) (name : String) (value : RbusValue) :
    RbusObject :=
  if o.any fun prop => prop.1 = name then
    o.map fun prop => if prop.1 = name then (name, value) else prop
  else o ++ [(name, value)]

/-- The results of a handler, and of an invocation. -/
inductive RbusError where
  | success
  | invalidMethod
  | timeout
deriving DecidableEq

/-! ## The libraries -/

/-- The arguments of the action `Browse`. -/
structure BrowseAction where
  objectId : Option CStr
  browseFlag : CStr
  filter : CStr
  startingIndex : Int32
  requestedCount : Int32
  sortCriteria : CStr
deriving DecidableEq

/-- How the call of `Browse` ends: with an error, or with what it writes to
its out arguments. -/
inductive BrowseReply where
  | error
  | done (result : Option CStr) (totalMatches : Option ℕ)

/-- The functions of the libraries. `S` are the services GUPnP hands out; a
missing value is a null pointer, a missing result a fault. -/
structure Platform (S : Type) where
  /-- `strcmp_s (dest, dmax, src, &indicator)`: the indicator after `EOK`. -/
  strcmpS : CStr → ℕ → CStr → Option ℤ
  /-- `gupnp_service_proxy_send_action`, or `…_call_action`. -/
  sendAction : Option S → BrowseAction → BrowseReply
  /-- `rbusValue_SetString` -/
  setString : Option CStr → Option RbusValue
  /-- `rbusValue_GetInt32` -/
  getInt32 : RbusValue → Option Int32
  /-- `rbusValue_ToString (value, NULL, 0)` -/
  toText : RbusValue → Option CStr
  /-- What the other side of an invocation finds in an object. -/
  carry : RbusObject → RbusObject

/-- What is documented of them. `strcmp_s` works on some lengths, at least on
those from 1 to 4096, and refuses the others. -/
structure Platform.Documented (p : Platform S) (takes : ℕ → Bool) : Prop where
  takes_short : ∀ n, 0 < n → n ≤ 4096 → takes n = true
  refuses : ∀ d s : CStr, takes d.bytes.length = false →
    p.strcmpS d d.bytes.length s = none
  compares : ∀ d s : CStr, takes d.bytes.length = true →
    ∃ r, p.strcmpS d d.bytes.length s = some r ∧ (r = 0 ↔ d = s)
  set_string : ∀ s, p.setString (some s) = some (.string s)
  get_int32 : ∀ i, p.getInt32 (.int32 i) = some i
  to_text : ∀ s, p.toText (.string s) = some s
  carries : ∀ o, p.carry o = o

/-- Libraries that are as documented, around some media servers. -/
def Platform.plain (sendAction : Option S → BrowseAction → BrowseReply) :
    Platform S where
  strcmpS d n s :=
    if 0 < n ∧ n ≤ 4096 then
      some (if d = s then 0 else if d < s then -1 else 1)
    else none
  sendAction := sendAction
  setString s := s.map .string
  getInt32
    | .int32 i => some i
    | _ => none
  toText
    | .string s => some s
    | .int32 i => some (.decimal i.toInt)
    | .other _ => none
  carry o := o

theorem Platform.plain_documented
    (sendAction : Option S → BrowseAction → BrowseReply) :
    (Platform.plain sendAction).Documented fun n =>
      decide (0 < n ∧ n ≤ 4096) where
  takes_short n h0 hn := decide_eq_true ⟨h0, hn⟩
  refuses d s h := if_neg (of_decide_eq_false h)
  compares d s h := by
    refine ⟨_, if_pos (of_decide_eq_true h), ?_⟩
    by_cases hds : d = s
    · simp [hds]
    · by_cases hlt : d < s <;> simp [hds, hlt]
  set_string _ := rfl
  get_int32 _ := rfl
  to_text _ := rfl
  carries _ := rfl

/-- No media server ever answers. -/
def Platform.offline : Platform Unit := .plain fun _ _ => .error

/-! ## The list -/

/-- `mediaServerCfg` -/
structure MediaServerCfg (S : Type) where
  friendlyname : CStr
  udn : CStr
  browserService : Option S
deriving DecidableEq

/-- `msList`, guarded by `locker`. -/
abbrev Server (S : Type) := Guarded (List (MediaServerCfg S))

abbrev ServerCall (S : Type) := Locking (List (MediaServerCfg S))

/-- `msList` is `NULL`, and nobody holds `locker`. -/
def initServer : Server S := ⟨[], []⟩

/-- `g_list_find_udn` -/
def gListFindUdn (p : Platform S) (udn : CStr) (gwData : MediaServerCfg S) :
    Bool :=
  p.strcmpS udn udn.bytes.length gwData.udn = some 0

/-- `g_list_find_custom (msList, udn, g_list_find_udn)`: the link found, as
its record and its position. -/
def gListFindCustom (p : Platform S) :
    Option CStr → List (MediaServerCfg S) →
      Option (Option (MediaServerCfg S × ℕ))
  | some udn, msList =>
      some (msList.zipIdx.find? fun link => gListFindUdn p udn link.1)
  | none, [] => some none
  | none, _ :: _ => none  -- `strlen (NULL)`

/-! ## The callbacks -/

/-- What GUPnP tells of a device. -/
structure DeviceProxy (S : Type) where
  udn : Option CStr
  friendlyName : Option CStr
  contentDirectory : Option S

/-- `strdup`, which takes no null pointer. -/
def strdup (s : Option CStr) : ServerCall S CStr := read fun _ => s

theorem strdup_some (text : CStr) (s : Server S) :
    strdup (some text) s = .ok (text, s) := rfl

theorem strdup_none (s : Server S) :
    strdup none s = .error .faults := rfl

/-- `device_proxy_available_mr_cb`; `none` is a null pointer among its
arguments. -/
def deviceProxyAvailableMrCb (p : Platform S) :
    Option (DeviceProxy S) → ServerCall S Unit
  | none => pure ()
  | some dproxy => do
      lock
      let msListItem ← read (gListFindCustom p dproxy.udn)
      unlock
      if msListItem.isSome then
        pure ()
      else do
        let udn ← strdup dproxy.udn
        let friendlyname ← strdup dproxy.friendlyName
        let mserver := ⟨friendlyname, udn, dproxy.contentDirectory⟩
        lock
        let _ ← update fun msList => msList ++ [mserver]
        unlock
        pure ()

/-- `device_proxy_unavailable_mr_cb`. What the search finds is not assigned to
`msListItem`. -/
def deviceProxyUnavailableMrCb (p : Platform S) :
    Option (DeviceProxy S) → ServerCall S Unit
  | none => pure ()
  | some dproxy => do
      let msListItem : Option (MediaServerCfg S × ℕ) := none
      lock
      let _ ← read (gListFindCustom p dproxy.udn)
      match msListItem with
      | some link => do
          let _ ← update fun msList => msList.eraseIdx link.2
          unlock
      | none => pure ()

/-! ## Browsing -/

/-- The action `browse_remote_directory` sends. -/
def browseAction (root : Option CStr) (startIndex maxCount : Int32) :
    BrowseAction :=
  { objectId := root
    browseFlag := .lit "BrowseDirectChildren"
    filter := .lit "*"
    startingIndex := startIndex
    requestedCount := maxCount
    sortCriteria := .empty }

/-- `browse_remote_directory`: the status, `*totalResults` and `*result`. The
number of matches goes to a variable of its own. -/
def browseRemoteDirectory (p : Platform S) (browserService : Option S)
    (root : Option CStr) (startIndex maxCount totalResults : Int32)
    (result : Option CStr) : Bool × Int32 × Option CStr :=
  match p.sendAction browserService (browseAction root startIndex maxCount) with
  | .error => (false, totalResults, result)
  | .done newResult _totalMatches => (true, totalResults, newResult)

/-- `browse_remote_dir_with_udn` -/
def browseRemoteDirWithUdn (p : Platform S) (serverUdn pathId : Option CStr)
    (startIndex maxEntries totalCount : Int32) (results : Option CStr) :
    ServerCall S (Bool × Int32 × Option CStr) := do
  lock
  let msListItem ← read (gListFindCustom p serverUdn)
  unlock
  match msListItem with
  | none => pure (false, totalCount, results)
  | some (msConfig, _) =>
      pure (browseRemoteDirectory p msConfig.browserService pathId startIndex
        maxEntries totalCount results)

/-! ## The rbus methods -/

def methodDiscoverMediaDevicesSize : CStr :=
  .lit "Device.Methods.dlna.getDiscoveredDevicesSize()"

def methodGetMediaDeviceAt : CStr :=
  .lit "Device.Methods.dlna.getDiscoveredDeviceAt()"

def methodBrowseContentOnMediaServer : CStr :=
  .lit "Device.Methods.dlna.browseContentOnServer()"

/-- `getServerDetails` between `lock` and `unlock`. `g_list_nth` takes the
index unsigned. -/
def serverDetails (p : Platform S) (inParams outParams : RbusObject)
    (msList : List (MediaServerCfg S)) : Option RbusObject :=
  match inParams with
  | [] => some outParams
  | (_, value) :: _ => do
      let index ← p.getInt32 value
      match msList[index.toUInt32.toNat]? with
      | none => some outParams
      | some mserver => do
          let name ← p.setString (some mserver.friendlyname)
          let udn ← p.setString (some mserver.udn)
          some (setValue (setValue outParams "server.name" name)
            "server.udn" udn)

/-- `getServerDetails` -/
def getServerDetails (p : Platform S) (inParams outParams : RbusObject) :
    ServerCall S RbusObject := do
  let msList ← read some
  if msList.isEmpty then
    pure outParams
  else do
    lock
    let outParams ← read (serverDetails p inParams outParams)
    unlock
    pure outParams

/-- `getServerContents` -/
def getServerContents (p : Platform S) (inParams outParams : RbusObject) :
    ServerCall S RbusObject :=
  match inParams with
  | [(_, udn), (_, path), (_, startIndex), (_, maxResults)] => do
      let startIndex ← read fun _ => p.getInt32 startIndex
      let maxResults ← read fun _ => p.getInt32 maxResults
      let (browsed, totalCount, entries) ←
        browseRemoteDirWithUdn p (p.toText udn) (p.toText path) startIndex
          maxResults 0 none
      if browsed then do
        let xmldata ← read fun _ => p.setString entries
        pure (setValue (setValue outParams "results.xmldata" xmldata)
          "results.size" (.int32 totalCount))
      else pure outParams
  | _ => pure outParams

/-- `strcmp_s (method, strlen (method), methodName, &result) == EOK && !result` -/
def isMethod (p : Platform S) (method methodName : CStr) : Bool :=
  p.strcmpS method method.bytes.length methodName = some 0

/-- The size is put into the answer under `locker`, unless the list is
`NULL`. -/
def discoveredDevicesSize (outParams : RbusObject) :
    ServerCall S RbusObject := do
  let msList ← read some
  if msList.isEmpty then
    pure (setValue outParams "payload.size" (.int32 0))
  else do
    lock
    let outParams ← read fun msList =>
      some (setValue outParams "payload.size"
        (.int32 (Int32.ofNat msList.length)))
    unlock
    pure outParams

/-- `remoteMethodHandler` -/
def remoteMethodHandler (p : Platform S) (methodName : CStr)
    (inParams outParams : RbusObject) :
    ServerCall S (RbusError × RbusObject) :=
  if isMethod p methodDiscoverMediaDevicesSize methodName then do
    let outParams ← discoveredDevicesSize outParams
    pure (.success, outParams)
  else if isMethod p methodGetMediaDeviceAt methodName then do
    let outParams ← getServerDetails p inParams outParams
    pure (.success, outParams)
  else if isMethod p methodBrowseContentOnMediaServer methodName then do
    let outParams ← getServerContents p inParams outParams
    pure (.success, outParams)
  else pure (.invalidMethod, outParams)

/-! ## Calls -/

/-- The calls that look at the list. -/
inductive Call (S : Type) where
  | available (dproxy : Option (DeviceProxy S))
  | unavailable (dproxy : Option (DeviceProxy S))
  | browse (serverUdn pathId : Option CStr)
      (startIndex maxEntries totalCount : Int32) (results : Option CStr)
  | serverDetails (inParams outParams : RbusObject)
  | remoteMethod (methodName : CStr) (inParams outParams : RbusObject)

/-- One call: the state it leaves behind, or why it does not return. -/
def run (p : Platform S) (s : Server S) : Call S → Except NoReturn (Server S)
  | .available dproxy => (deviceProxyAvailableMrCb p dproxy s).map Prod.snd
  | .unavailable dproxy => (deviceProxyUnavailableMrCb p dproxy s).map Prod.snd
  | .browse serverUdn pathId startIndex maxEntries totalCount results =>
      (browseRemoteDirWithUdn p serverUdn pathId startIndex maxEntries
        totalCount results s).map Prod.snd
  | .serverDetails inParams outParams =>
      (getServerDetails p inParams outParams s).map Prod.snd
  | .remoteMethod methodName inParams outParams =>
      (remoteMethodHandler p methodName inParams outParams s).map Prod.snd

/-- One call of a sequence, where nothing follows a call that does not
return. -/
def step (p : Platform S) (s : Server S) (c : Call S) : Option (Server S) :=
  (run p s c).toOption

theorem step_eq_some {p : Platform S} {s s' : Server S} {c : Call S} :
    step p s c = some s' ↔ run p s c = .ok s' := by
  rw [step]
  cases run p s c with
  | ok t => simp [Except.toOption]
  | error stop => simp [Except.toOption]

end Xupnp.MediaBrowser
