import Xupnp.Discovery.DeviceList

/-!
# Asking a device for its data (`process_gw_services…`)

The requests fill a fresh record field by field. A request that fails leaves
its field alone, or ends the whole inquiry where the datum is mandatory.
-/

namespace Xupnp.Discovery

open Xupnp.Library Xupnp.WhiteList

/-- Why an inquiry gives no record: a mandatory request failed, or it never
returns. -/
inductive Stop where
  | refused
  | diverges
deriving DecidableEq

/-! ## The daemon's own address -/

/-- The copying loop of `replace_string`: `skip` bytes of the occurrence just
replaced are still to be passed over. -/
def replaceFrom (sub rep : List UInt8) : ℕ → List UInt8 → List UInt8
  | _, [] => []
  | skip + 1, _ :: l => replaceFrom sub rep skip l
  | 0, b :: l =>
      if sub.isPrefixOf (b :: l) then
        rep ++ replaceFrom sub rep (sub.length - 1) l
      else b :: replaceFrom sub rep 0 l

/-- `replace_string`. The loop that counts the occurrences of an empty
`sub_string` never ends. -/
def replaceString (src sub rep : CStr) : Except Stop CStr :=
  if sub = .empty then .error .diverges
  else .ok (.ofBytes (replaceFrom sub.bytes rep.bytes 0 src.bytes))

def localHostIP : CStr := .lit "127.0.0.1"

/-- `replace_hn_with_local` -/
def replaceHnWithLocal (d : GwyDeviceData) : Except Stop GwyDeviceData := do
  let playbackurl ← replaceString d.playbackurl d.gwyip localHostIP
  let baseurl ← replaceString d.baseurl d.gwyip localHostIP
  let basetrmurl ← replaceString d.basetrmurl d.gwyip localHostIP
  .ok { d with playbackurl, baseurl, basetrmurl }

/-- `replace_local_device_ip` -/
def replaceLocalDeviceIp (cfg : Settings) (d : GwyDeviceData) :
    Except Stop GwyDeviceData :=
  let d := d.strip .gwyip
  if d.gwyip = cfg.ipaddress.strip then
    replaceHnWithLocal { d with isOwnGateway := true }
  else .ok d

/-- The call at the end of an inquiry, in builds without an XCAL server. -/
def replaceUnlessServer (cfg : Settings) (d : GwyDeviceData) :
    Except Stop GwyDeviceData :=
  if cfg.clientXcalServer || d.isOwnGateway then .ok d
  else replaceLocalDeviceIp cfg d

/-! ## The inquiries -/

/-- A request whose failure ends the inquiry. -/
def mandatory {α : Type} : Option α → Except Stop α
  | some a => .ok a
  | none => .error .refused

/-- The first requests of `process_gw_services`, for every kind of device. -/
def gwServicesHead (p : ServiceProxy) (d : GwyDeviceData) :
    Except Stop GwyDeviceData := do
  let isgateway ← mandatory (p.boolean .getIsGateway)
  let bcastmacaddress ← mandatory (p.string .getBcastMacAddress)
  .ok
    { d with
      isgateway
      recvdevtype := (p.string .getRecvDevType).getD d.recvdevtype
      buildversion := (p.string .getBuildVersion).getD d.buildversion
      devicename := (p.string .getDeviceName).getD d.devicename
      devicetype := ((p.string .getDeviceType).getD d.devicetype).strip
      bcastmacaddress }

/-- The requests for a device whose type does not contain `XI`. -/
def gwServicesGateway (p : ServiceProxy) (d : GwyDeviceData) :
    Except Stop GwyDeviceData := do
  let baseurl ← mandatory (p.string .getBaseUrl)
  let basetrmurl ← mandatory (p.string .getBaseTrmUrl)
  let playbackurl ← mandatory (p.string .getPlaybackUrl)
  let requirestrm ← mandatory (p.boolean .getRequiresTRM)
  .ok
    { d with
      baseurl
      basetrmurl
      gwyip := (p.string .getGatewayIP).getD d.gwyip
      clientip := (p.string .getClientIP).getD d.clientip
      gwyipv6 := (p.string .getGatewayIPv6).getD d.gwyipv6
      gatewaystbip := (p.string .getGatewayStbIP).getD d.gatewaystbip
      ipv6prefix := (p.string .getIpv6Prefix).getD d.ipv6prefix
      dnsconfig := (p.string .getDnsConfig).getD d.dnsconfig
      playbackurl
      systemids := (p.string .getSystemIds).getD d.systemids
      dsgtimezone := (p.string .getTimeZone).getD d.dsgtimezone
      etchosts := (p.string .getHosts).getD d.etchosts
      requirestrm
      hostmacaddress := (p.string .getHostMacAddress).getD d.hostmacaddress
      rawoffset := (p.int .getRawOffSet).getD d.rawoffset
      dstsavings := (p.int .getDSTSavings).getD d.dstsavings
      usesdaylighttime :=
        (p.boolean .getUsesDaylightTime).getD d.usesdaylighttime
      dstoffset := (p.int .getDSTOffset).getD d.dstoffset }

/-- The request for a device whose type contains `XI`. -/
def gwServicesXi (p : ServiceProxy) (d : GwyDeviceData) : GwyDeviceData :=
  { d with
    dataGatewayIPaddress :=
      (p.string .getDataGatewayIPaddress).getD d.dataGatewayIPaddress }

/-- The requests that depend on the device type. -/
def gwServicesByType (p : ServiceProxy) (d : GwyDeviceData) :
    Except Stop GwyDeviceData :=
  if d.devicetype.containsCase (.lit "XI") then .ok (gwServicesXi p d)
  else gwServicesGateway p d

/-- `process_gw_services` up to its call of `update_gwylist`. -/
def gwServicesData (cfg : Settings) (p : ServiceProxy) (d : GwyDeviceData) :
    Except Stop GwyDeviceData := do
  let d ← gwServicesHead p d
  let d ← gwServicesByType p d
  let d ← replaceUnlessServer cfg d
  .ok { d with devFoundFlag := true, isDevRefactored := false }

/-- `process_gw_services_identity`: no datum is mandatory. -/
def processGwServicesIdentity (p : ServiceProxy) (d : GwyDeviceData) :
    GwyDeviceData :=
  { d with
    accountid := (p.string .getAccountId).getD d.accountid
    recvdevtype := (p.string .getRecvDevType).getD d.recvdevtype
    buildversion := (p.string .getBuildVersion).getD d.buildversion
    devicename := (p.string .getDeviceName).getD d.devicename
    devicetype := (p.string .getDeviceType).getD d.devicetype
    modelclass := (p.string .getModelClass).getD d.modelclass
    modelnumber := (p.string .getModelNumber).getD d.modelnumber
    deviceid := (p.string .getDeviceId).getD d.deviceid
    hardwarerevision :=
      (p.string .getHardwareRevision).getD d.hardwarerevision
    softwarerevision :=
      (p.string .getSoftwareRevision).getD d.softwarerevision
    managementurl := (p.string .getManagementUrl).getD d.managementurl
    make := (p.string .getMake).getD d.make
    receiverid := (p.string .getReceiverId).getD d.receiverid
    clientip := (p.string .getClientIP).getD d.clientip
    bcastmacaddress :=
      (p.string .getBcastMacAddress).getD d.bcastmacaddress }

/-- `process_gw_services_media_config` -/
def processGwServicesMediaConfig (p : ServiceProxy) (d : GwyDeviceData) :
    GwyDeviceData :=
  { d with playbackurl := (p.string .getPlaybackUrl).getD d.playbackurl }

/-- `process_gw_services_time_config` -/
def processGwServicesTimeConfig (p : ServiceProxy) (d : GwyDeviceData) :
    GwyDeviceData :=
  { d with
    dsgtimezone := (p.string .getTimeZone).getD d.dsgtimezone
    rawoffset := (p.int .getRawOffSet).getD d.rawoffset
    dstsavings := (p.int .getDSTSavings).getD d.dstsavings
    usesdaylighttime :=
      (p.boolean .getUsesDaylightTime).getD d.usesdaylighttime
    dstoffset := (p.int .getDSTOffset).getD d.dstoffset }

/-- The data of `process_gw_services_gateway_config`. -/
def gatewayConfigData (p : ServiceProxy) (isgateway : Bool)
    (d : GwyDeviceData) : GwyDeviceData :=
  { d with
    dataGatewayIPaddress :=
      (p.string .getDataGatewayIPaddress).getD d.dataGatewayIPaddress
    gatewaystbip := (p.string .getGatewayStbIP).getD d.gatewaystbip
    ipv6prefix := (p.string .getIpv6Prefix).getD d.ipv6prefix
    dnsconfig := (p.string .getDnsConfig).getD d.dnsconfig
    devicename := (p.string .getDeviceName).getD d.devicename
    bcastmacaddress := (p.string .getBcastMacAddress).getD d.bcastmacaddress
    gwyipv6 := (p.string .getGatewayIPv6).getD d.gwyipv6
    gwyip := (p.string .getGatewayIP).getD d.gwyip
    hostmacaddress := (p.string .getHostMacAddress).getD d.hostmacaddress
    etchosts := (p.string .getHosts).getD d.etchosts
    isgateway
    ipSubNet := (p.string .getIPSubNet).getD d.ipSubNet }

/-- A subnet that is not empty is routed to the MoCA bridge. -/
def mocaRoute (subnet : Option CStr) : List Effect :=
  match subnet with
  | some subnet =>
      if subnet = .empty then [] else [.addRouteToMocaBridge subnet]
  | none => []

/-- `process_gw_services_gateway_config` -/
def processGwServicesGatewayConfig (p : ServiceProxy) (d : GwyDeviceData) :
    Except Stop (GwyDeviceData × List Effect) := do
  let isgateway ← mandatory (p.boolean .getIsGateway)
  .ok (gatewayConfigData p isgateway d, mocaRoute (p.string .getIPSubNet))

/-- `process_gw_services_qam_config` -/
def processGwServicesQamConfig (cfg : Settings) (p : ServiceProxy)
    (d : GwyDeviceData) : Except Stop GwyDeviceData :=
  replaceUnlessServer cfg
    { d with
      basetrmurl := (p.string .getBaseTrmUrl).getD d.basetrmurl
      systemids := (p.string .getSystemIds).getD d.systemids
      requirestrm := (p.boolean .getRequiresTRM).getD d.requirestrm }

end Xupnp.Discovery
