import Xupnp.XcalDevice.SysEvents

/-!
# The getters of the device library (`xdevice_library.h`)

`xcal-device-main.c` passes its buffers to the getters of a library, of which
there are two. A getter writes a value into the buffer or leaves it alone, and
that is all the callbacks need to know of it (`XdeviceLibrary`). The getters of
the video library are given for all the variables that are served.
-/

namespace Xupnp.XcalDevice

open Xupnp.Library

/-! ## What the callbacks see -/

/-- What a buffer holds: `G_TYPE_STRING`, `G_TYPE_INT` or `G_TYPE_BOOLEAN`. -/
inductive Value where
  | string (s : CStr)
  | int (n : Int32)
  | boolean (b : Bool)
deriving DecidableEq

/-- The getters that `xcal-device-main.c` fills the buffers of the variables
with. -/
inductive Getter where
  | getBaseUrl
  | getTrmUrl
  | getPlaybackUrl
  | getGatewayIp
  | getGatewayIpv6
  | getGatewayStbIp
  | getIpv6Prefix
  | getHostMacAddress
  | getBcastMacAddress
  | getRecvDevType
  | getDeviceType
  | getBuildVersion
  | getDnsConfig
  | getSystemsIds
  | getRouteDataGateway
  | getIpSubnet
  | getTimeZone
  | getRawOffSet
  | getDstOffset
  | getDstSavings
  | getUsesDayLightTime
  | getDeviceName
  | getHosts
  | getIsGateway
  | getRequiresTRM
  | getModelNumber
  | getMake
  | getAccountId
  | getReceiverId
deriving DecidableEq

/-- A library at some time: what each getter would write, if it would write. -/
structure XdeviceLibrary where
  getTuneReady : Bool
  getIsuseGliDiagEnabled : Bool
  get : Getter → Option Value

/-! ## The video library -/

/-- The globals of the video library, and what the outside would answer it. -/
structure VideoLibrary where
  xcal : XcalState
  idConfig : IdConfig
  gwyip : CStr
  gwyipv6 : CStr
  gwystbip : CStr
  recvId : CStr
  trmurl : CStr
  devicetype : CStr
  recvdevtype : CStr
  buildversion : CStr
  modelnumber : CStr
  make : CStr
  requirestrm : Bool
  allowGwy : Bool
  /-- `CLIENT_XCAL_SERVER` -/
  client : Bool
  /-- `getmacaddress` of `hostMacIf` and of `bcastIf`, where they are set. -/
  hostMac : Option CStr
  bcastMac : Option CStr
  /-- Does `parseipv6prefix` succeed, and `ipv6prefix` after it. -/
  parseipv6prefix : Bool
  ipv6prefix : CStr
  /-- What `parsednsconfig`, `parsedevicename`, `getetchosts`, `getRouteData`,
  `getRFCParameter` and `getID` find. -/
  dnsconfig : Option CStr
  devicename : Option CStr
  etchosts : Option CStr
  dataGatewayIPaddress : Option CStr
  accountId : Option CStr
  receiverId : CStr

/-- `strcpy_s (outValue, dmax, str)` -/
def copied (dmax : ℕ) (str : CStr) : Option Value :=
  some (.string (strcpied dmax str))

/-- The same after `check_empty (str)`. -/
def copiedUnlessEmpty (dmax : ℕ) (str : CStr) : Option Value :=
  if str = .empty then none else copied dmax str

def ruiUrlSize : ℕ := 2048

namespace VideoLibrary

/-- The getters. -/
def get (lib : VideoLibrary) : Getter → Option Value
  | .getBaseUrl =>
      if lib.gwyip ≠ .empty ∧ lib.recvId ≠ .empty then
        copied maxOutvalue (.lit "http://" ++ lib.gwyip
          ++ .lit ":8080/videoStreamInit?recorderId=" ++ lib.recvId)
      else none
  | .getTrmUrl => copiedUnlessEmpty maxOutvalue lib.trmurl
  | .getPlaybackUrl => copiedUnlessEmpty urlSize lib.xcal.playbackurl
  | .getGatewayIp => copiedUnlessEmpty maxOutvalue lib.gwyip
  | .getGatewayIpv6 =>
      if lib.client then none else copiedUnlessEmpty maxOutvalue lib.gwyipv6
  | .getGatewayStbIp =>
      if lib.client then none else copiedUnlessEmpty maxOutvalue lib.gwystbip
  | .getIpv6Prefix =>
      if lib.parseipv6prefix ∨ lib.ipv6prefix = .empty then
        copied maxOutvalue lib.ipv6prefix
      else none
  | .getHostMacAddress =>
      if lib.client then none else lib.hostMac.bind (copied maxOutvalue)
  | .getBcastMacAddress => lib.bcastMac.bind (copied maxOutvalue)
  | .getRecvDevType => copiedUnlessEmpty maxOutvalue lib.recvdevtype
  | .getDeviceType => copiedUnlessEmpty maxOutvalue lib.devicetype
  | .getBuildVersion => copiedUnlessEmpty maxOutvalue lib.buildversion
  | .getDnsConfig => lib.dnsconfig.bind (copied maxOutvalue)
  | .getSystemsIds =>
      if lib.xcal.systemids = .empty then none
      else
        match updatesystemids lib.idConfig lib.xcal.ids lib.xcal.systemids with
        | (true, systemids) => copied maxOutvalue systemids
        | (false, _) => none
  | .getRouteDataGateway => lib.dataGatewayIPaddress.bind (copied maxOutvalue)
  | .getIpSubnet => copied maxOutvalue .empty
  | .getTimeZone => copiedUnlessEmpty maxOutvalue lib.xcal.zone.dsgtimezone
  | .getRawOffSet => some (.int lib.xcal.zone.rawOffset)
  | .getDstOffset => some (.int lib.xcal.zone.dstOffset)
  | .getDstSavings => some (.int lib.xcal.zone.dstSavings)
  | .getUsesDayLightTime => some (.boolean lib.xcal.zone.usesDaylightTime)
  | .getDeviceName => lib.devicename.bind (copied maxOutvalue)
  | .getHosts => lib.etchosts.bind (copied ruiUrlSize)
  | .getIsGateway => some (.boolean lib.allowGwy)
  | .getRequiresTRM => some (.boolean lib.requirestrm)
  | .getModelNumber => copiedUnlessEmpty maxOutvalue lib.modelnumber
  | .getMake => copiedUnlessEmpty maxOutvalue lib.make
  | .getAccountId => lib.accountId.bind (copied maxOutvalue)
  | .getReceiverId => copiedUnlessEmpty maxOutvalue lib.receiverId

/-- The video library behind its header. -/
def library (lib : VideoLibrary) : XdeviceLibrary where
  getTuneReady := lib.xcal.getTuneReady
  getIsuseGliDiagEnabled := lib.idConfig.useGliDiag
  get := lib.get

/-- The getter of the playback URL, on a buffer. -/
theorem get_getPlaybackUrl (lib : VideoLibrary) (outValue : CStr) :
    (lib.get .getPlaybackUrl).getD (.string outValue) =
      .string (lib.xcal.getPlaybackUrl outValue) := by
  show (copiedUnlessEmpty _ _).getD _ = _
  rw [copiedUnlessEmpty, XcalState.getPlaybackUrl]
  split <;> rfl

/-- The getter of the system ids, on a buffer. -/
theorem get_getSystemsIds (lib : VideoLibrary) (outValue : CStr) :
    (lib.get .getSystemsIds).getD (.string outValue) =
      .string (lib.xcal.getSystemsIds lib.idConfig outValue) := by
  rw [get, XcalState.getSystemsIds]
  split
  · rfl
  · cases updatesystemids lib.idConfig lib.xcal.ids lib.xcal.systemids with
    | mk done systemids => cases done <;> rfl

end VideoLibrary

end Xupnp.XcalDevice
