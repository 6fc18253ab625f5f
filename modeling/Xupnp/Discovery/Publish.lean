import Xupnp.Library.Inet
import Xupnp.Library.Tokens
import Xupnp.Discovery.Device

/-!
# Publishing the device list (`sendDiscoveryResult`)

A publication prints every listed record into one JSON document and, on the
way, strips fields in place, counts gateways, sets the IP mode and hands the
first gateways that pass the gate to the setup script. What is printed of a
record is `deviceMembers`; what happens to it otherwise is `publishDevice`.
-/

namespace Xupnp.Discovery

open Xupnp.Library Xupnp.WhiteList

/-! ## The address checks -/

/-- `checkvalidip`. The address is parsed as it stands, and stripped only
then. -/
def checkvalidip (ipAddress : CStr) : Bool :=
  let validip4 := Inet.pton4 ipAddress.bytes
  let validip6 := Inet.pton6 ipAddress.bytes
  let ipAddress := ipAddress.strip
  if ipAddress.contains (.lit "null") || ipAddress == .empty then true
  else validip4 || validip6

/-- `" ;\n\0"` -/
def isHostDelim (b : UInt8) : Bool := b == 0x20 || b == 0x3B || b == 0x0A

/-- `checkvalidhostname`: one valid token is enough, and an empty one is
valid. -/
def checkvalidhostname (hostname : CStr) : Bool :=
  let hostname := hostname.strip
  if hostname.contains (.lit "null") || hostname == .empty then true
  else (hostname.tokens isHostDelim).any checkvalidip

/-! ## The document -/

def yesNo (b : Bool) : CStr := if b then .lit "yes" else .lit "no"

/-- The members printed for a record, in the order of the source. -/
def deviceMembers (d : GwyDeviceData) : List (String × CStr) :=
  [("sno", d.serialNum),
    ("isgateway", yesNo d.isgateway),
    ("deviceName", d.devicename),
    ("recvDevType", d.recvdevtype),
    ("DevType", d.devicetype),
    ("bcastMacAddress", d.bcastmacaddress)]
  ++ (if d.sproxyI then
      [("accountId", d.accountid),
        ("modelNumber", d.modelnumber),
        ("modelClass", d.modelclass),
        ("make", d.make),
        ("softwareRevision", d.buildversion)]
      ++ (if d.recvdevtype ≠ .lit "broadband" then
          [("hardwareRevision", d.hardwarerevision),
            ("managementUrl", d.managementurl)]
        else [])
    else [("buildVersion", d.buildversion)])
  ++ (if d.devicetype.strip.containsCase (.lit "XI") = false then
      [("gatewayip", d.gwyip),
        ("gatewayipv6", d.gwyipv6),
        ("hostMacAddress", d.hostmacaddress)]
      ++ (if d.recvdevtype ≠ .lit "hybrid" then
          [("IPSubNet", d.ipSubNet)]
        else [])
      ++ (if d.recvdevtype ≠ .lit "broadband" then
          [("gatewayStbIP", d.gatewaystbip),
            ("ipv6Prefix", d.ipv6prefix),
            ("timezone", d.dsgtimezone),
            ("rawoffset", .decimal d.rawoffset),
            ("dstoffset", .decimal d.dstoffset),
            ("dstsavings", .decimal d.dstsavings),
            ("usesdaylighttime", yesNo d.usesdaylighttime),
            ("requiresTRM",
              if d.requirestrm then .lit "true" else .lit "false"),
            ("baseTrmUrl", d.basetrmurl),
            ("systemids", d.systemids),
            ("playbackUrl", d.playbackurl),
            ("dnsconfig", d.dnsconfig),
            ("hosts", d.etchosts)]
        else [])
      ++ (if d.sproxyI then
          [("dataGatewayIPaddress", d.dataGatewayIPaddress),
            ("clientip", d.clientip)]
        else [])
    else
      [("clientip", d.clientip),
        ("dataGatewayIPaddress", d.dataGatewayIPaddress)])
  ++ [("receiverid", d.receiverid)]

/-- `"name":"value"` -/
def printMember (m : String × CStr) : CStr :=
  .lit "\"" ++ .lit m.1 ++ .lit "\":\"" ++ m.2 ++ .lit "\""

/-- The members of one record. All but the last end in a comma and a new
line. -/
def printMembers : List (String × CStr) → CStr
  | [] => .empty
  | [m] => printMember m ++ .lit "\n\t\t\x7d"
  | m :: ms => printMember m ++ .lit ",\n\t\t\t" ++ printMembers ms

/-- What the loop prints for one record. -/
def printDevice (d : GwyDeviceData) : CStr :=
  .lit "\n\t\t\x7b\n\t\t\t" ++ printMembers (deviceMembers d)

/-- What the loop prints. -/
def printDevices : List GwyDeviceData → CStr
  | [] => .empty
  | [d] => printDevice d
  | d :: ds => printDevice d ++ .lit "," ++ printDevices ds

/-- `localOutputContents` when it is written out. -/
def discoveryDocument (ds : List GwyDeviceData) : CStr :=
  .lit "\x7b\n\"xmediagateways\":\n\t[" ++ printDevices ds
    ++ .lit "\n\t]\n\x7d\n"

/-! ## What happens to one record -/

/-- The `if` in front of the gateway script. Each check strips its field in
place, and the checks stop at the first that fails. -/
def gwSetupGate (cfg : Settings) (slotLeft : Bool) (gwdata : GwyDeviceData) :
    Bool × GwyDeviceData :=
  if !(cfg.enableGwSetup && slotLeft && gwdata.isgateway) then (false, gwdata)
  else if !checkvalidhostname gwdata.dnsconfig then
    (false, gwdata.strip .dnsconfig)
  else
    let gwdata := gwdata.strip .dnsconfig
    if !checkvalidhostname gwdata.etchosts then
      (false, gwdata.strip .etchosts)
    else
      let gwdata := gwdata.strip .etchosts
      if !checkvalidip gwdata.gwyip then (false, gwdata.strip .gwyip)
      else
        let gwdata := gwdata.strip .gwyip
        (checkvalidip gwdata.gwyipv6, gwdata.strip .gwyipv6)

/-- ` "%s"` -/
def quotedArg (s : CStr) : CStr := .lit " \"" ++ s ++ .lit "\""

/-- The arguments of the gateway script. -/
def gwRouteArgs (cfg : Settings) (gwdata : GwyDeviceData) : List CStr :=
  [gwdata.gwyip, gwdata.dnsconfig, gwdata.etchosts, cfg.gwIf,
    .decimal cfg.gwPriority, gwdata.ipv6prefix, gwdata.gwyipv6,
    gwdata.devicetype]

/-- `GwRouteParam` -/
def gwRouteParam (cfg : Settings) (gwdata : GwyDeviceData) : CStr :=
  (gwRouteArgs cfg gwdata).foldl (fun s arg => s ++ quotedArg arg)
    cfg.gwSetupFile

/-- Is this the device the daemon runs on? -/
def noteSelf (s : XState) (gwdata : GwyDeviceData) : XState :=
  if s.selfDeviceDiscovered then s
  else
    let s := { s with ownSerialNo := s.ownSerialNo.strip }
    if s.ownSerialNo = gwdata.serialNum then
      { s with selfDeviceDiscovered := true }
    else s

/-- `ipMode`, by the stripped prefix of a gateway that passed. -/
def noteIpMode (s : XState) (gwdata : GwyDeviceData) : XState :=
  if gwdata.ipv6prefix.contains (.lit "null") || gwdata.ipv6prefix = .empty then
    { s with ipMode := .lit "ipv4" }
  else { s with ipMode := .lit "ipv6" }

/-- The loop's own variables, and the globals. -/
structure Publication where
  firstXG1GwData : Bool
  firstXG2GwData : Bool
  globals : XState

/-- `system (GwRouteParam->str)`, and which of the two slots it takes. -/
def callGwSetup (p : Publication) (gwdata : GwyDeviceData) : Publication where
  firstXG1GwData := false
  firstXG2GwData := p.firstXG2GwData && p.firstXG1GwData
  globals :=
    { p.globals with trace := p.globals.trace ++ [.gwSetup gwdata] }

/-- The loop body, its printing apart. -/
def publishDevice (cfg : Settings) (p : Publication) (gwdata : GwyDeviceData) :
    Publication × GwyDeviceData :=
  let gwdata := gwdata.strip .devicetype
  let s := p.globals
  let s :=
    if cfg.clientXcalServer && gwdata.isgateway then
      { s with gatewayDetected := s.gatewayDetected + 1 }
    else s
  let p := { p with globals := noteSelf s gwdata }
  let (passed, gwdata) :=
    gwSetupGate cfg (p.firstXG1GwData || p.firstXG2GwData) gwdata
  if passed then
    let p := if cfg.enableRoute then callGwSetup p gwdata else p
    let gwdata := (gwdata.markRoute cfg.enableRoute).strip .ipv6Prefix
    let p := { p with globals := noteIpMode p.globals gwdata }
    (p, if cfg.tzUpdate then gwdata.strip .dsgtimezone else gwdata)
  else (p, gwdata)

/-- The loop. -/
def publishDevices (cfg : Settings) :
    Publication → List GwyDeviceData → Publication × List GwyDeviceData
  | p, [] => (p, [])
  | p, d :: ds =>
      let (p, d) := publishDevice cfg p d
      let (p, ds) := publishDevices cfg p ds
      (p, d :: ds)

/-- `sendDiscoveryResult` -/
def sendDiscoveryResult (cfg : Settings) (io : Io) (s : XState) : XState :=
  let s := if s.bSerialNum then s else getserialnum io s
  let (p, ds) := publishDevices cfg ⟨true, true, s⟩ s.xdevlist
  { p.globals with
    xdevlist := ds
    outputcontents := discoveryDocument s.xdevlist }

end Xupnp.Discovery
