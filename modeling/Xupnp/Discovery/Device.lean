import Xupnp.WhiteList.Model

/-!
# Device records, settings and the daemon's state

The data `xdiscovery.c` works on: a record for each discovered device
(`GwyDeviceData`), what a remote device offers (`DeviceProxy`), the build
options and the configuration, and the global variables (`XState`). What the
daemon does to the outside (white list calls, shell commands) is recorded in
`XState.trace`, oldest first.
-/

namespace Xupnp.Discovery

open Xupnp.Library Xupnp.WhiteList

/-! ## Device records -/

/-- `GwyDeviceData`. Of the service proxies only whether there is an identity
service (`sproxy_i != NULL`) is ever looked at. -/
structure GwyDeviceData where
  serialNum : CStr
  isgateway : Bool
  requirestrm : Bool
  gwyip : CStr
  gwyipv6 : CStr
  gatewaystbip : CStr
  ipv6prefix : CStr
  devicename : CStr
  bcastmacaddress : CStr
  hostmacaddress : CStr
  recvdevtype : CStr
  devicetype : CStr
  buildversion : CStr
  dsgtimezone : CStr
  rawoffset : ℤ
  dstoffset : ℤ
  dstsavings : ℤ
  usesdaylighttime : Bool
  baseurl : CStr
  basetrmurl : CStr
  playbackurl : CStr
  dataGatewayIPaddress : CStr
  dnsconfig : CStr
  etchosts : CStr
  systemids : CStr
  receiverid : CStr
  devFoundFlag : Bool
  isRouteSet : Bool
  isOwnGateway : Bool
  isDevRefactored : Bool
  sproxyI : Bool
  modelclass : CStr
  modelnumber : CStr
  deviceid : CStr
  hardwarerevision : CStr
  softwarerevision : CStr
  managementurl : CStr
  make : CStr
  accountid : CStr
  ipSubNet : CStr
  clientip : CStr
deriving DecidableEq

/-- `init_gwydata` -/
def initGwydata : GwyDeviceData where
  serialNum := .empty
  isgateway := false
  requirestrm := true
  gwyip := .empty
  gwyipv6 := .empty
  gatewaystbip := .empty
  ipv6prefix := .empty
  devicename := .empty
  bcastmacaddress := .empty
  hostmacaddress := .empty
  recvdevtype := .empty
  devicetype := .empty
  buildversion := .empty
  dsgtimezone := .empty
  rawoffset := 0
  dstoffset := 0
  dstsavings := 0
  usesdaylighttime := false
  baseurl := .empty
  basetrmurl := .empty
  playbackurl := .empty
  dataGatewayIPaddress := .empty
  dnsconfig := .empty
  etchosts := .empty
  systemids := .empty
  receiverid := .empty
  devFoundFlag := false
  isRouteSet := false
  isOwnGateway := false
  isDevRefactored := false
  sproxyI := false
  modelclass := .empty
  modelnumber := .empty
  deviceid := .empty
  hardwarerevision := .empty
  softwarerevision := .empty
  managementurl := .empty
  make := .empty
  accountid := .empty
  ipSubNet := .empty
  clientip := .empty

namespace GwyDeviceData

/-- What `xdevlist` is ordered by: the serial number without the white space
around it. -/
def key (d : GwyDeviceData) : CStr := d.serialNum.strip

/-- The fields the daemon strips in place, wherever it compares or checks
them. -/
inductive Field where
  | serialNum
  | gwyip
  | gwyipv6
  | ipv6Prefix
  | devicetype
  | dsgtimezone
  | playbackurl
  | dnsconfig
  | etchosts
  | receiverid

/-- `g_strstrip (gwydata->field->str)` -/
def strip (d : GwyDeviceData) : Field → GwyDeviceData
  | .serialNum => { d with serialNum := d.serialNum.strip }
  | .gwyip => { d with gwyip := d.gwyip.strip }
  | .gwyipv6 => { d with gwyipv6 := d.gwyipv6.strip }
  | .ipv6Prefix => { d with ipv6prefix := d.ipv6prefix.strip }
  | .devicetype => { d with devicetype := d.devicetype.strip }
  | .dsgtimezone => { d with dsgtimezone := d.dsgtimezone.strip }
  | .playbackurl => { d with playbackurl := d.playbackurl.strip }
  | .dnsconfig => { d with dnsconfig := d.dnsconfig.strip }
  | .etchosts => { d with etchosts := d.etchosts.strip }
  | .receiverid => { d with receiverid := d.receiverid.strip }

/-- `gwydata->isRouteSet = TRUE`, if `b`. -/
def markRoute (d : GwyDeviceData) (b : Bool) : GwyDeviceData :=
  { d with isRouteSet := b || d.isRouteSet }

/-- The record without the white space around the fields that are stripped in
place, and without the daemon's own mark. -/
def normal (d : GwyDeviceData) : GwyDeviceData :=
  { d with
    serialNum := d.serialNum.strip
    gwyip := d.gwyip.strip
    gwyipv6 := d.gwyipv6.strip
    ipv6prefix := d.ipv6prefix.strip
    devicetype := d.devicetype.strip
    dsgtimezone := d.dsgtimezone.strip
    playbackurl := d.playbackurl.strip
    dnsconfig := d.dnsconfig.strip
    etchosts := d.etchosts.strip
    receiverid := d.receiverid.strip
    isRouteSet := false }

@[simp] theorem key_normal (d : GwyDeviceData) : d.normal.key = d.key :=
  CStr.strip_strip _

@[simp] theorem normal_strip (d : GwyDeviceData) (f : Field) :
    (d.strip f).normal = d.normal := by
  cases f <;> simp [strip, normal]

@[simp] theorem normal_markRoute (d : GwyDeviceData) (b : Bool) :
    (d.markRoute b).normal = d.normal := rfl

@[simp] theorem key_strip (d : GwyDeviceData) (f : Field) :
    (d.strip f).key = d.key := by
  rw [← key_normal, normal_strip, key_normal]

end GwyDeviceData

/-! ## Remote devices -/

/-- The services a device may offer (`XDISC_SERVICE…`). -/
inductive Service where
  | discovery
  | identity
  | media
  | time
  | gwCfg
  | qamCfg
deriving DecidableEq

/-- The actions the daemon calls. -/
inductive Action where
  | getIsGateway
  | getAccountId
  | getRecvDevType
  | getBuildVersion
  | getDeviceName
  | getDeviceType
  | getBcastMacAddress
  | getBaseUrl
  | getBaseTrmUrl
  | getGatewayIP
  | getClientIP
  | getGatewayIPv6
  | getGatewayStbIP
  | getIpv6Prefix
  | getDnsConfig
  | getPlaybackUrl
  | getSystemIds
  | getTimeZone
  | getHosts
  | getRequiresTRM
  | getHostMacAddress
  | getRawOffSet
  | getDSTSavings
  | getUsesDaylightTime
  | getDSTOffset
  | getDataGatewayIPaddress
  | getModelClass
  | getModelNumber
  | getDeviceId
  | getHardwareRevision
  | getSoftwareRevision
  | getManagementUrl
  | getMake
  | getReceiverId
  | getIPSubNet
deriving DecidableEq

/-- A service as it answers; `none` is a call that reports an error. -/
structure ServiceProxy where
  string : Action → Option CStr
  boolean : Action → Option Bool
  int : Action → Option ℤ

/-- A remote device at the time of an event, as the control point sees it. -/
structure DeviceProxy where
  serialNumber : Option CStr
  udn : Option CStr
  upc : Option CStr
  hasService : Service → Bool
  service : Service → ServiceProxy

/-! ## Settings -/

/-- The build options, the configuration file and what `main` finds out once.
`configure` defines `CLIENT_XCAL_SERVER` in every `BROADBAND` build. -/
structure Settings where
  broadband : Bool
  clientXcalServer : Bool
  enableRoute : Bool
  tzUpdate : Bool
  rfcEnabled : Bool
  ipaddress : CStr
  gwSetupFile : CStr
  gwIf : CStr
  gwPriority : ℤ
  enableGwSetup : Bool
  broadband_imp : broadband = true → clientXcalServer = true

/-! ## Effects and state -/

/-- What the daemon does to the outside. -/
inductive Effect where
  /-- `dpnode_insert` or `dpnode_delete` -/
  | whiteList (op : DpOp)
  /-- `system (GwRouteParam->str)`, built from this record -/
  | gwSetup (gwdata : GwyDeviceData)
  /-- `route del default gw …` -/
  | routeDel (gwyip : CStr)
  /-- `/etc/Xupnp/addRouteToMocaBridge.sh … &` -/
  | addRouteToMocaBridge (subnetip : CStr)

/-- The global variables. -/
structure XState where
  xdevlist : List GwyDeviceData
  ownSerialNo : CStr
  bSerialNum : Bool
  selfDeviceDiscovered : Bool
  gatewayDetected : ℤ
  partialDiscovery : Bool
  ipMode : CStr
  outputcontents : CStr
  trace : List Effect

/-- What the outside answers during one event: what `getserialnum` can read,
whether a HEAD request to a URL succeeds, and what is in the uninitialised
locals of `dpnode_insert` and `dpnode_delete`. -/
structure Io where
  serialNumber : Option CStr
  soupStatusFromUrl : CStr → Bool
  insertLocals : Locals
  deleteLocals : Locals

/-- `getserialnum` -/
def getserialnum (io : Io) (s : XState) : XState :=
  match io.serialNumber with
  | some n => { s with ownSerialNo := n, bSerialNum := true }
  | none => s

/-- The globals when the main loop starts; `serialNumber` is what `main` could
read. -/
def startState (serialNumber : Option CStr) : XState where
  xdevlist := []
  ownSerialNo := serialNumber.getD .empty
  bSerialNum := serialNumber.isSome
  selfDeviceDiscovered := false
  gatewayDetected := 0
  partialDiscovery := false
  ipMode := .lit "ipv4"
  outputcontents := .empty
  trace := []

end Xupnp.Discovery
