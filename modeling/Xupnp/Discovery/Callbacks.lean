import Xupnp.Discovery.Services

/-!
# The callbacks of the control points

Four control points report devices that come and go, and the devices notify of
changed variables. A callback runs to its end before the next event: this is
`step`, and `none` is a callback that never returns or that writes past a
buffer.
-/

namespace Xupnp.Discovery

open Xupnp.Library Xupnp.WhiteList

/-- The device types searched for. Those with an X1 name only exist under
`rfc_enabled`. -/
inductive ControlPoint where
  | basicDevice
  | x1Renderer
  | x1VideoGateway
  | x1BroadbandGateway
deriving DecidableEq

/-- `if (g_strrstr (udn, "uuid:")) g_strndup (udn + 5, …)` -/
def udnId (udn : CStr) : Option CStr :=
  if udn.contains (.lit "uuid:") then some (udn.dropBytes 5) else none

/-! ## A device becomes available -/

/-- What each callback asks a new device for, and the record it makes of the
answers. -/
def inquiry (cfg : Settings) (p : DeviceProxy) :
    ControlPoint → GwyDeviceData → Except Stop (GwyDeviceData × List Effect)
  | .basicDevice, d => do
      let d ← gwServicesData cfg (p.service .discovery) d
      .ok (d, [])
  | .x1Renderer, d =>
      let d := { d with sproxyI := p.hasService .identity }
      let d := processGwServicesIdentity (p.service .identity) d
      let d := processGwServicesMediaConfig (p.service .media) d
      .ok ({ d with isDevRefactored := true }, [])
  | .x1VideoGateway, d => do
      let d := { d with sproxyI := p.hasService .identity }
      let d := processGwServicesIdentity (p.service .identity) d
      let d := processGwServicesMediaConfig (p.service .media) d
      let d := processGwServicesTimeConfig (p.service .time) d
      let r ← processGwServicesGatewayConfig (p.service .gwCfg) d
      let d ← processGwServicesQamConfig cfg (p.service .qamCfg) r.1
      .ok ({ d with isDevRefactored := true }, r.2)
  | .x1BroadbandGateway, d => do
      let d := { d with sproxyI := p.hasService .identity }
      let d := processGwServicesIdentity (p.service .identity) d
      let d := processGwServicesTimeConfig (p.service .time) d
      let r ← processGwServicesGatewayConfig (p.service .gwCfg) d
      .ok ({ r.1 with isDevRefactored := true }, r.2)

/-- A mandatory datum is missing: two of the callbacks note it. -/
def noteRefused (cp : ControlPoint) (s : XState) : XState :=
  match cp with
  | .basicDevice | .x1VideoGateway => { s with partialDiscovery := true }
  | .x1Renderer | .x1BroadbandGateway => s

/-- A serial number that is listed: take over a changed IPv6 prefix, and
publish it. -/
def refreshIpv6Prefix (cfg : Settings) (io : Io) (sno : Option CStr)
    (gwdata : GwyDeviceData) (answer : Option CStr) (s : XState) : XState :=
  match answer with
  | some temp =>
      if temp.strip = gwdata.ipv6prefix then s
      else
        sendDiscoveryResult cfg io
          { s with
            xdevlist := modifyFound (hasSno sno)
              (fun d => { d with ipv6prefix := temp.strip }) s.xdevlist }
  | none => s

/-- The part the callbacks share once the serial number is known to be new:
fill a record and list it. `sno` has been stripped if anything was listed. -/
def addDevice (cfg : Settings) (io : Io) (cp : ControlPoint) (p : DeviceProxy)
    (s : XState) : Option XState :=
  match p.serialNumber, p.udn.bind udnId with
  | some sno, some receiverid =>
      let gwydata :=
        { initGwydata with
          serialNum := if s.xdevlist = [] then sno else sno.strip
          receiverid }
      match inquiry cfg p cp gwydata with
      | .ok (gwydata, effects) =>
          some (updateGwylist cfg io gwydata
            { s with trace := s.trace ++ effects })
      | .error .refused => some (noteRefused cp s)
      | .error .diverges => none
  | _, _ => some s

/-- `device_proxy_available_cb` -/
def deviceProxyAvailableCb (cfg : Settings) (io : Io) (p : DeviceProxy)
    (s : XState) : Option XState :=
  if cfg.rfcEnabled ∧ p.upc = some (.lit "10000") then some s
  else
    match listFindSno p.serialNumber s.xdevlist with
    | (ds, some gwdata) =>
        some (refreshIpv6Prefix cfg io p.serialNumber gwdata
          ((p.service .discovery).string .getIpv6Prefix)
          { s with xdevlist := ds })
    | (ds, none) =>
        if p.hasService .discovery then
          addDevice cfg io .basicDevice p { s with xdevlist := ds }
        else some { s with xdevlist := ds }

/-- `device_proxy_available_cb_client` and `device_proxy_available_cb_bgw`: a
device that is listed already is left alone. -/
def deviceProxyAvailableCbClient (cfg : Settings) (io : Io)
    (cp : ControlPoint) (p : DeviceProxy) (s : XState) : Option XState :=
  match listFindSno p.serialNumber s.xdevlist with
  | (ds, some _) => some { s with xdevlist := ds }
  | (ds, none) => addDevice cfg io cp p { s with xdevlist := ds }

/-- `device_proxy_available_cb_gw` -/
def deviceProxyAvailableCbGw (cfg : Settings) (io : Io) (p : DeviceProxy)
    (s : XState) : Option XState :=
  match listFindSno p.serialNumber s.xdevlist with
  | (ds, some gwdata) =>
      some (refreshIpv6Prefix cfg io p.serialNumber gwdata
        ((p.service .gwCfg).string .getIpv6Prefix) { s with xdevlist := ds })
  | (ds, none) =>
      addDevice cfg io .x1VideoGateway p { s with xdevlist := ds }

/-! ## A device goes away -/

def outPlayUrlSize : ℕ := 180

/-- The URL to probe, as `checkDeviceExists` builds it in `outPlayUrl`: none if
`strcpy_s` refuses the playback URL, and no result at all if the `strcat` after
it writes past the end. -/
def copyPlayUrl (d : GwyDeviceData) : Option (Option CStr) :=
  let outPlayUrl := d.playbackurl.strip ++ .lit "&live=ocap://0xffff"
  if outPlayUrlSize ≤ d.playbackurl.strip.bytes.length then some none
  else if outPlayUrlSize ≤ outPlayUrl.bytes.length then none
  else some (some outPlayUrl)

/-- `checkDeviceExists`: the list as the scan leaves it, and `outPlayUrl` if
the result is `TRUE`. -/
def checkDeviceExists (sno : Option CStr) :
    List GwyDeviceData → Option (List GwyDeviceData × Option CStr)
  | [] => some ([], none)
  | d :: ds =>
      let d := d.strip .serialNum
      if hasSno sno d then
        if d.isgateway then
          (copyPlayUrl d).map fun url => (d.strip .playbackurl :: ds, url)
        else some (d :: ds, some .empty)
      else if ∀ n ∈ sno, n.strip < d.serialNum then some (d :: ds, none)
      else
        (checkDeviceExists sno ds).map fun (ds, found) => (d :: ds, found)

/-- Delete the device, and publish the list without it. -/
def deleteAndPublish (cfg : Settings) (io : Io) (sno : Option CStr)
    (s : XState) : XState :=
  match deleteGwyitem cfg io sno s with
  | (s, true) => sendDiscoveryResult cfg io s
  | (s, false) => s

/-- `device_proxy_unavailable_cb`, equally `device_proxy_unavailable_cb_gw`: a
gateway stays while its playback URL answers. -/
def deviceProxyUnavailableCb (cfg : Settings) (io : Io) (sno : Option CStr)
    (s : XState) : Option XState :=
  let s := { s with ownSerialNo := s.ownSerialNo.strip }
  if sno = some s.ownSerialNo then some s
  else
    match checkDeviceExists sno s.xdevlist with
    | none => none
    | some (ds, none) => some { s with xdevlist := ds }
    | some (ds, some gwyPlayUrl) =>
        let s := { s with xdevlist := ds }
        if gwyPlayUrl ≠ .empty ∧ io.soupStatusFromUrl gwyPlayUrl then some s
        else some (deleteAndPublish cfg io sno s)

/-- `device_proxy_unavailable_cb_client`, equally
`device_proxy_unavailable_cb_bgw` -/
def deviceProxyUnavailableCbClient (cfg : Settings) (io : Io)
    (sno : Option CStr) (s : XState) : Option XState :=
  let s := { s with ownSerialNo := s.ownSerialNo.strip }
  if sno = some s.ownSerialNo then some s
  else some (deleteAndPublish cfg io sno s)

/-! ## A variable of a device changes -/

/-- The variables `on_last_change` knows. -/
inductive Variable where
  | playbackUrl
  | systemIds
  | dataGatewayIPaddress
  | dnsConfig
  | timeZone
  | ipSubNet
  | other
deriving DecidableEq

/-- The record of a notification: the receiver id is the one of the UDN. -/
def hasReceiverid (receiverid : CStr) (d : GwyDeviceData) : Bool :=
  d.receiverid.strip = receiverid.strip

/-- `g_list_find_custom (xdevlist, receiverid, g_list_find_udn)` -/
def listFindUdn (receiverid : CStr) :
    List GwyDeviceData → List GwyDeviceData × Option GwyDeviceData :=
  listFindCustom (·.strip .receiverid) (hasReceiverid receiverid)

/-- What the notification changes in the record it has found; `none` if it
tells nothing new. -/
def setVariable (cfg : Settings) (v : Variable) (value : CStr)
    (d : GwyDeviceData) :
    Except Stop (Option (GwyDeviceData × List Effect)) :=
  let value := value.strip
  match v with
  | .playbackUrl =>
      if value = d.playbackurl then .ok none
      else do
        let d ← replaceLocalDeviceIp cfg { d with playbackurl := value }
        .ok (some (d, []))
  | .systemIds =>
      .ok (if value = d.systemids then none
        else some ({ d with systemids := value }, []))
  | .dataGatewayIPaddress =>
      .ok (if value = d.dataGatewayIPaddress then none
        else some ({ d with dataGatewayIPaddress := value }, []))
  | .dnsConfig =>
      .ok (if value = d.dnsconfig then none
        else some ({ d with dnsconfig := value }, []))
  | .timeZone =>
      .ok (if value = d.dsgtimezone then none
        else some ({ d with dsgtimezone := value }, []))
  | .ipSubNet =>
      .ok (if value = d.ipSubNet then none
        else some ({ d with ipSubNet := value },
          mocaRoute (some value)))
  | .other => .ok none

/-- `on_last_change` -/
def onLastChange (cfg : Settings) (io : Io) (udn : Option CStr)
    (v : Variable) (value : CStr) (s : XState) : Option XState :=
  match udn.bind udnId with
  | none => some s
  | some receiverid =>
      match listFindUdn receiverid s.xdevlist with
      | (ds, none) => some { s with xdevlist := ds }
      | (ds, some gwdata) =>
          match setVariable cfg v value gwdata with
          | .error _ => none
          | .ok none => some { s with xdevlist := ds }
          | .ok (some (gwdata, effects)) =>
              some (sendDiscoveryResult cfg io
                { s with
                  xdevlist := modifyFound (hasReceiverid receiverid)
                    (fun _ => gwdata) ds
                  trace := s.trace ++ effects })

/-! ## Runs -/

/-- What the main loop is told. -/
inductive Notice where
  | available (cp : ControlPoint) (p : DeviceProxy)
  | unavailable (cp : ControlPoint) (serialNumber : Option CStr)
  | lastChange (udn : Option CStr) (v : Variable) (value : CStr)

/-- A notice, and what the outside answers while it is handled. -/
structure Event where
  io : Io
  notice : Notice

/-- One callback. -/
def step (cfg : Settings) (s : XState) (e : Event) : Option XState :=
  match e.notice with
  | .available .basicDevice p => deviceProxyAvailableCb cfg e.io p s
  | .available .x1Renderer p =>
      deviceProxyAvailableCbClient cfg e.io .x1Renderer p s
  | .available .x1VideoGateway p => deviceProxyAvailableCbGw cfg e.io p s
  | .available .x1BroadbandGateway p =>
      deviceProxyAvailableCbClient cfg e.io .x1BroadbandGateway p s
  | .unavailable .basicDevice sno => deviceProxyUnavailableCb cfg e.io sno s
  | .unavailable .x1VideoGateway sno => deviceProxyUnavailableCb cfg e.io sno s
  | .unavailable .x1Renderer sno =>
      deviceProxyUnavailableCbClient cfg e.io sno s
  | .unavailable .x1BroadbandGateway sno =>
      deviceProxyUnavailableCbClient cfg e.io sno s
  | .lastChange udn v value => onLastChange cfg e.io udn v value s

end Xupnp.Discovery
