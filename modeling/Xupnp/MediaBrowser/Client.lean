import Xupnp.MediaBrowser.Locking

/-!
# The client of the media browser (`mbwsr_rpc_cli.c`)

The client library asks the browser over rbus: how many servers there are,
which one is at an index, and what one of them has in a directory. Both sides
read the properties of an object by position. The lemmas say what a client is
told while `locker` is free.
-/

namespace Xupnp.MediaBrowser

open Xupnp.Library Locking

variable {S : Type}

/-! ## The functions of the library -/

/-- `rbusMethod_Invoke`. A handler that never returns is a timeout. -/
def rbusMethodInvoke (p : Platform S) (methodName : CStr)
    (inParams : RbusObject) (s : Server S) :
    (RbusError × RbusObject) × Server S :=
  match remoteMethodHandler p methodName (p.carry inParams) [] s with
  | .ok ((error, outParams), s') => ((error, p.carry outParams), s')
  | .error _ => ((.timeout, []), s)

theorem rbusMethodInvoke_ok {p : Platform S} {methodName : CStr}
    {inParams outParams : RbusObject} {error : RbusError} {s s' : Server S}
    (h : remoteMethodHandler p methodName (p.carry inParams) [] s =
      .ok ((error, outParams), s')) :
    rbusMethodInvoke p methodName inParams s =
      ((error, p.carry outParams), s') := by
  rw [rbusMethodInvoke, h]

/-- `getMediaServer`: the status, and the two out arguments. -/
def getMediaServer (p : Platform S) (outProps : RbusObject)
    (friendlyName udn : Option CStr) : Bool × Option CStr × Option CStr :=
  if outProps.length % 2 ≠ 0 then (false, friendlyName, udn)
  else
    match outProps with
    | (_, name) :: (_, id) :: _ => (true, p.toText name, p.toText id)
    | _ => (false, friendlyName, udn)

/-- `getDiscoveredMediaServers`: the status and `*size`. -/
def getDiscoveredMediaServers (p : Platform S) (size : Int32) (s : Server S) :
    (Bool × Int32) × Server S :=
  match rbusMethodInvoke p methodDiscoverMediaDevicesSize [] s with
  | ((.success, (_, .int32 payload) :: _), s') => ((true, payload), s')
  | (_, s') => ((false, size), s')

/-- The results of `getDiscoveredMediaServerAt`. -/
structure MediaServerAt where
  status : Bool
  friendlyName : Option CStr
  udn : Option CStr
  err : ℕ
deriving DecidableEq

/-- `getDiscoveredMediaServerAt` -/
def getDiscoveredMediaServerAt (p : Platform S) (index : Int32)
    (friendlyName udn : Option CStr) (s : Server S) :
    MediaServerAt × Server S :=
  match rbusMethodInvoke p methodGetMediaDeviceAt
      (setValue [] "pos" (.int32 index)) s with
  | ((.success, outProps), s') =>
      match outProps with
      | [] => (⟨true, friendlyName, udn, 1⟩, s')
      | _ :: _ =>
          let (status, friendlyName, udn) :=
            getMediaServer p outProps friendlyName udn
          (⟨true, friendlyName, udn, if status then 0 else 1⟩, s')
  | (_, s') => (⟨false, friendlyName, udn, 0⟩, s')

/-- The results of `browseContentOnServer`. -/
structure BrowseContent where
  status : Bool
  totalCount : Int32
  contentList : Option CStr
  err : ℕ
deriving DecidableEq

/-- The object `browseContentOnServer` sends. -/
def browseParams (p : Platform S) (serverUdn pathId : Option CStr)
    (startIndex maxEntries : Int32) : Option RbusObject := do
  let udn ← p.setString serverUdn
  let path ← p.setString pathId
  some (setValue (setValue (setValue (setValue [] "udn" udn) "path" path)
    "start_index" (.int32 startIndex)) "max_results" (.int32 maxEntries))

/-- `browseContentOnServer`, without a result if it faults. -/
def browseContentOnServer (p : Platform S) (serverUdn pathId : Option CStr)
    (startIndex maxEntries : Int32) (s : Server S) :
    Option (BrowseContent × Server S) := do
  let inParams ← browseParams p serverUdn pathId startIndex maxEntries
  match rbusMethodInvoke p methodBrowseContentOnMediaServer inParams s with
  | ((.success, outProps), s') =>
      match outProps with
      | [] => some (⟨true, -1, none, 1⟩, s')
      | [(_, content)] => some (⟨true, -1, p.toText content, 1⟩, s')
      | (_, content) :: (_, total) :: _ => do
          let totalCount ← p.getInt32 total
          some (⟨true, totalCount, p.toText content, 0⟩, s')
  | (_, s') => some (⟨false, -1, none, 0⟩, s')

/-! ## What the handlers answer -/

section Handlers

variable {p : Platform S} {takes : ℕ → Bool} {s : Server S}

/-- The handler knows a method by its name. -/
theorem isMethod_eq (hp : p.Documented takes) (method methodName : CStr)
    (hpos : 0 < method.bytes.length) (hlen : method.bytes.length ≤ 4096) :
    isMethod p method methodName = decide (method = methodName) := by
  obtain ⟨r, hr, hzero⟩ :=
    hp.compares method methodName (hp.takes_short _ hpos hlen)
  rw [isMethod, hr, decide_eq_decide, Option.some.injEq, hzero]

/-- The state a handler leaves behind: as it was, but for the record. -/
def Unchanged (s s' : Server S) : Prop :=
  s'.data = s.data ∧ s'.locked = false

theorem discoveredDevicesSize_free (hs : s.locked = false)
    (outParams : RbusObject) :
    ∃ s', discoveredDevicesSize outParams s =
        .ok (setValue outParams "payload.size"
          (.int32 (Int32.ofNat s.data.length)), s') ∧ Unchanged s s' := by
  rw [discoveredDevicesSize, bind_ok (read_some rfl)]
  cases hdata : s.data with
  | nil => exact ⟨s, rfl, rfl, hs⟩
  | cons ms msList =>
      rw [List.isEmpty_cons, if_neg Bool.false_ne_true, ← hdata]
      exact ⟨_, critical_ok (quiet_read _) hs (read_some rfl), rfl,
        locked_section _ _⟩

theorem getServerDetails_free (hs : s.locked = false)
    (inParams outParams : RbusObject) {answer : RbusObject}
    (hnil : s.data = [] → answer = outParams)
    (h : serverDetails p inParams outParams s.data = some answer) :
    ∃ s', getServerDetails p inParams outParams s = .ok (answer, s') ∧
      Unchanged s s' := by
  rw [getServerDetails, bind_ok (read_some rfl)]
  cases hdata : s.data with
  | nil => exact ⟨s, by rw [hnil hdata]; rfl, rfl, hs⟩
  | cons ms msList =>
      rw [List.isEmpty_cons, if_neg Bool.false_ne_true,
        critical_ok (quiet_read _) hs (read_some h)]
      exact ⟨_, rfl, rfl, locked_section _ _⟩

theorem browseRemoteDirWithUdn_free (hs : s.locked = false)
    {serverUdn : Option CStr} {ms : MediaServerCfg S} {i : ℕ}
    (hfind : gListFindCustom p serverUdn s.data = some (some (ms, i)))
    (pathId : Option CStr) (startIndex maxEntries totalCount : Int32)
    (results : Option CStr) :
    ∃ s', browseRemoteDirWithUdn p serverUdn pathId startIndex maxEntries
        totalCount results s =
        .ok (browseRemoteDirectory p ms.browserService pathId startIndex
          maxEntries totalCount results, s') ∧ Unchanged s s' := by
  rw [browseRemoteDirWithUdn,
    critical_ok (quiet_read _) hs (read_some hfind)]
  exact ⟨_, rfl, rfl, locked_section _ _⟩

end Handlers

/-! ## What a client is told -/

section Told

variable {p : Platform S} {takes : ℕ → Bool} {s : Server S}

theorem handler_size (hp : p.Documented takes) (inParams outParams : RbusObject) :
    remoteMethodHandler p methodDiscoverMediaDevicesSize inParams outParams =
      (do
        let outParams ← discoveredDevicesSize outParams
        pure (.success, outParams)) := by
  rw [remoteMethodHandler, isMethod_eq hp _ _ (by decide) (by decide),
    if_pos (by decide)]

theorem handler_at (hp : p.Documented takes) (inParams outParams : RbusObject) :
    remoteMethodHandler p methodGetMediaDeviceAt inParams outParams =
      (do
        let outParams ← getServerDetails p inParams outParams
        pure (.success, outParams)) := by
  rw [remoteMethodHandler, isMethod_eq hp _ _ (by decide) (by decide),
    if_neg (by decide), isMethod_eq hp _ _ (by decide) (by decide),
    if_pos (by decide)]

theorem handler_browse (hp : p.Documented takes)
    (inParams outParams : RbusObject) :
    remoteMethodHandler p methodBrowseContentOnMediaServer inParams outParams =
      (do
        let outParams ← getServerContents p inParams outParams
        pure (.success, outParams)) := by
  rw [remoteMethodHandler, isMethod_eq hp _ _ (by decide) (by decide),
    if_neg (by decide), isMethod_eq hp _ _ (by decide) (by decide),
    if_neg (by decide), isMethod_eq hp _ _ (by decide) (by decide),
    if_pos (by decide)]

/-- **The number of servers**, as far as an `int` holds it. -/
theorem getDiscoveredMediaServers_free (hp : p.Documented takes)
    (hs : s.locked = false) (size : Int32) :
    ∃ s', getDiscoveredMediaServers p size s =
        ((true, Int32.ofNat s.data.length), s') ∧ Unchanged s s' := by
  obtain ⟨s', hsize, hsame⟩ := discoveredDevicesSize_free hs []
  have hinvoke := rbusMethodInvoke_ok (by
    rw [handler_size hp (p.carry []) []]
    exact bind_ok hsize)
  refine ⟨s', ?_, hsame⟩
  rw [getDiscoveredMediaServers, hinvoke, hp.carries]
  rfl

/-- **The server at an index**, taken as an unsigned number. -/
theorem getDiscoveredMediaServerAt_free (hp : p.Documented takes)
    (hs : s.locked = false) (index : Int32) (friendlyName udn : Option CStr) :
    ∃ s', getDiscoveredMediaServerAt p index friendlyName udn s =
        (match s.data[index.toUInt32.toNat]? with
          | some ms => ⟨true, some ms.friendlyname, some ms.udn, 0⟩
          | none => ⟨true, friendlyName, udn, 1⟩, s') ∧ Unchanged s s' := by
  have hparams : p.carry (setValue [] "pos" (.int32 index)) =
      [("pos", .int32 index)] := hp.carries _
  cases hms : s.data[index.toUInt32.toNat]? with
  | none =>
      have hdetails : serverDetails p [("pos", .int32 index)] [] s.data =
          some [] := by
        simp [serverDetails, hp.get_int32, hms]
      obtain ⟨s', hanswer, hsame⟩ :=
        getServerDetails_free hs _ _ (fun _ => rfl) hdetails
      have hinvoke := rbusMethodInvoke_ok (by
        rw [handler_at hp, hparams]
        exact bind_ok hanswer)
      refine ⟨s', ?_, hsame⟩
      rw [getDiscoveredMediaServerAt, hinvoke, hp.carries]
  | some ms =>
      have hdetails : serverDetails p [("pos", .int32 index)] [] s.data =
          some [("server.name", .string ms.friendlyname),
            ("server.udn", .string ms.udn)] := by
        simp [serverDetails, hp.get_int32, hp.set_string, hms, setValue]
      have hnil : s.data = [] → [("server.name", RbusValue.string ms.friendlyname),
          ("server.udn", .string ms.udn)] = [] := by
        intro hnil
        rw [hnil] at hms
        cases hms
      obtain ⟨s', hanswer, hsame⟩ :=
        getServerDetails_free hs _ _ hnil hdetails
      have hinvoke := rbusMethodInvoke_ok (by
        rw [handler_at hp, hparams]
        exact bind_ok hanswer)
      refine ⟨s', ?_, hsame⟩
      rw [getDiscoveredMediaServerAt, hinvoke, hp.carries]
      simp [getMediaServer, hp.to_text]

/-- **A page of a directory.** The client gets what the media server answers,
but for the number of matches: that is always 0. -/
theorem browseContentOnServer_free (hp : p.Documented takes)
    (hs : s.locked = false) {udn path : CStr} {startIndex maxEntries : Int32}
    {ms : MediaServerCfg S} {i : ℕ}
    (hfind : gListFindCustom p (some udn) s.data = some (some (ms, i)))
    {result : CStr} {totalMatches : Option ℕ}
    (hbrowse : p.sendAction ms.browserService
      (browseAction (some path) startIndex maxEntries) =
        .done (some result) totalMatches) :
    ∃ s', browseContentOnServer p (some udn) (some path) startIndex maxEntries
        s = some (⟨true, 0, some result, 0⟩, s') ∧ Unchanged s s' := by
  obtain ⟨s', hrun, hsame⟩ := browseRemoteDirWithUdn_free hs hfind (some path)
    startIndex maxEntries 0 none
  refine ⟨s', ?_, hsame⟩
  have hparams : browseParams p (some udn) (some path) startIndex maxEntries =
      some [("udn", .string udn), ("path", .string path),
        ("start_index", .int32 startIndex),
        ("max_results", .int32 maxEntries)] := by
    simp [browseParams, hp.set_string, setValue]
  have hcontents : getServerContents p
      [("udn", .string udn), ("path", .string path),
        ("start_index", .int32 startIndex),
        ("max_results", .int32 maxEntries)] [] s =
      .ok ([("results.xmldata", .string result),
        ("results.size", .int32 0)], s') := by
    rw [getServerContents, bind_ok (read_some (hp.get_int32 _)),
      bind_ok (read_some (hp.get_int32 _)), hp.to_text, hp.to_text,
      bind_ok hrun, browseRemoteDirectory, hbrowse]
    exact bind_ok (read_some (hp.set_string _))
  have hinvoke := rbusMethodInvoke_ok (by
    rw [handler_browse hp, hp.carries]
    exact bind_ok hcontents)
  rw [browseContentOnServer, hparams]
  simp [hinvoke, hp.carries, hp.get_int32, hp.to_text]

end Told

end Xupnp.MediaBrowser
