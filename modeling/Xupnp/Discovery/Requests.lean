import Xupnp.Library.MainLoop
import Xupnp.Discovery.Callbacks

/-!
# The requests in their order

`process_gw_services` and its sisters send one request after another and wait
for each answer. Here they are computations that ask; the lemmas at the end
say that with the answers of a device they make the records of the services.
-/

namespace Xupnp.Discovery

open Xupnp.Library Xupnp.WhiteList

/-! ## Requests -/

/-- An action of a service, by the type of what it returns. -/
inductive ServiceRequest where
  | string (service : Service) (action : Action)
  | boolean (service : Service) (action : Action)
  | int (service : Service) (action : Action)
deriving DecidableEq

/-- `none` is a call that reports an error. -/
abbrev ServiceRequest.Answer : ServiceRequest → Type
  | .string _ _ => Option CStr
  | .boolean _ _ => Option Bool
  | .int _ _ => Option ℤ

/-- What a device answers. -/
def DeviceProxy.answers (p : DeviceProxy) : ∀ r : ServiceRequest, r.Answer
  | .string service action => (p.service service).string action
  | .boolean service action => (p.service service).boolean action
  | .int service action => (p.service service).int action

/-- An inquiry under way. -/
abbrev Inquiry := Asking ServiceRequest ServiceRequest.Answer Stop

def processStringRequest (service : Service) (action : Action) :
    Inquiry (Option CStr) := .ask (.string service action) .done

def processBooleanRequest (service : Service) (action : Action) :
    Inquiry (Option Bool) := .ask (.boolean service action) .done

def processIntRequest (service : Service) (action : Action) :
    Inquiry (Option ℤ) := .ask (.int service action) .done

/-- A request whose failure ends the inquiry. -/
def required {β : Type} (request : Inquiry (Option β)) : Inquiry β := do
  let answer ← request
  .ofExcept (mandatory answer)

/-! ## The inquiries -/

/-- The first requests of `process_gw_services`. -/
def askGwServicesHead (d : GwyDeviceData) : Inquiry GwyDeviceData := do
  let isgateway ← required (processBooleanRequest .discovery .getIsGateway)
  let recvdevtype ← processStringRequest .discovery .getRecvDevType
  let buildversion ← processStringRequest .discovery .getBuildVersion
  let devicename ← processStringRequest .discovery .getDeviceName
  let devicetype ← processStringRequest .discovery .getDeviceType
  let bcastmacaddress ←
    required (processStringRequest .discovery .getBcastMacAddress)
  pure
    { d with
      isgateway
      recvdevtype := recvdevtype.getD d.recvdevtype
      buildversion := buildversion.getD d.buildversion
      devicename := devicename.getD d.devicename
      devicetype := (devicetype.getD d.devicetype).strip
      bcastmacaddress }

/-- The requests for a device whose type does not contain `XI`. -/
def askGwServicesGateway (d : GwyDeviceData) : Inquiry GwyDeviceData := do
  let baseurl ← required (processStringRequest .discovery .getBaseUrl)
  let basetrmurl ← required (processStringRequest .discovery .getBaseTrmUrl)
  let gwyip ← processStringRequest .discovery .getGatewayIP
  let clientip ← processStringRequest .discovery .getClientIP
  let gwyipv6 ← processStringRequest .discovery .getGatewayIPv6
  let gatewaystbip ← processStringRequest .discovery .getGatewayStbIP
  let ipv6prefix ← processStringRequest .discovery .getIpv6Prefix
  let dnsconfig ← processStringRequest .discovery .getDnsConfig
  let playbackurl ← required (processStringRequest .discovery .getPlaybackUrl)
  let systemids ← processStringRequest .discovery .getSystemIds
  let dsgtimezone ← processStringRequest .discovery .getTimeZone
  let etchosts ← processStringRequest .discovery .getHosts
  let requirestrm ←
    required (processBooleanRequest .discovery .getRequiresTRM)
  let hostmacaddress ← processStringRequest .discovery .getHostMacAddress
  let rawoffset ← processIntRequest .discovery .getRawOffSet
  let dstsavings ← processIntRequest .discovery .getDSTSavings
  let usesdaylighttime ←
    processBooleanRequest .discovery .getUsesDaylightTime
  let dstoffset ← processIntRequest .discovery .getDSTOffset
  pure
    { d with
      baseurl
      basetrmurl
      gwyip := gwyip.getD d.gwyip
      clientip := clientip.getD d.clientip
      gwyipv6 := gwyipv6.getD d.gwyipv6
      gatewaystbip := gatewaystbip.getD d.gatewaystbip
      ipv6prefix := ipv6prefix.getD d.ipv6prefix
      dnsconfig := dnsconfig.getD d.dnsconfig
      playbackurl
      systemids := systemids.getD d.systemids
      dsgtimezone := dsgtimezone.getD d.dsgtimezone
      etchosts := etchosts.getD d.etchosts
      requirestrm
      hostmacaddress := hostmacaddress.getD d.hostmacaddress
      rawoffset := rawoffset.getD d.rawoffset
      dstsavings := dstsavings.getD d.dstsavings
      usesdaylighttime := usesdaylighttime.getD d.usesdaylighttime
      dstoffset := dstoffset.getD d.dstoffset }

/-- The request for a device whose type contains `XI`. -/
def askGwServicesXi (d : GwyDeviceData) : Inquiry GwyDeviceData := do
  let address ← processStringRequest .discovery .getDataGatewayIPaddress
  pure { d with dataGatewayIPaddress := address.getD d.dataGatewayIPaddress }

/-- The requests that depend on the device type. -/
def askGwServicesByType (d : GwyDeviceData) : Inquiry GwyDeviceData :=
  if d.devicetype.containsCase (.lit "XI") then askGwServicesXi d
  else askGwServicesGateway d

/-- `process_gw_services` up to its call of `update_gwylist`. -/
def askGwServices (cfg : Settings) (d : GwyDeviceData) :
    Inquiry GwyDeviceData := do
  let d ← askGwServicesHead d
  let d ← askGwServicesByType d
  let d ← Asking.ofExcept (replaceUnlessServer cfg d)
  pure { d with devFoundFlag := true, isDevRefactored := false }

/-- `process_gw_services_identity` -/
def askGwServicesIdentity (d : GwyDeviceData) : Inquiry GwyDeviceData := do
  let accountid ← processStringRequest .identity .getAccountId
  let recvdevtype ← processStringRequest .identity .getRecvDevType
  let buildversion ← processStringRequest .identity .getBuildVersion
  let devicename ← processStringRequest .identity .getDeviceName
  let devicetype ← processStringRequest .identity .getDeviceType
  let modelclass ← processStringRequest .identity .getModelClass
  let modelnumber ← processStringRequest .identity .getModelNumber
  let deviceid ← processStringRequest .identity .getDeviceId
  let hardwarerevision ← processStringRequest .identity .getHardwareRevision
  let softwarerevision ← processStringRequest .identity .getSoftwareRevision
  let managementurl ← processStringRequest .identity .getManagementUrl
  let make ← processStringRequest .identity .getMake
  let receiverid ← processStringRequest .identity .getReceiverId
  let clientip ← processStringRequest .identity .getClientIP
  let bcastmacaddress ← processStringRequest .identity .getBcastMacAddress
  pure
    { d with
      accountid := accountid.getD d.accountid
      recvdevtype := recvdevtype.getD d.recvdevtype
      buildversion := buildversion.getD d.buildversion
      devicename := devicename.getD d.devicename
      devicetype := devicetype.getD d.devicetype
      modelclass := modelclass.getD d.modelclass
      modelnumber := modelnumber.getD d.modelnumber
      deviceid := deviceid.getD d.deviceid
      hardwarerevision := hardwarerevision.getD d.hardwarerevision
      softwarerevision := softwarerevision.getD d.softwarerevision
      managementurl := managementurl.getD d.managementurl
      make := make.getD d.make
      receiverid := receiverid.getD d.receiverid
      clientip := clientip.getD d.clientip
      bcastmacaddress := bcastmacaddress.getD d.bcastmacaddress }

/-- `process_gw_services_media_config` -/
def askGwServicesMediaConfig (d : GwyDeviceData) : Inquiry GwyDeviceData := do
  let playbackurl ← processStringRequest .media .getPlaybackUrl
  pure { d with playbackurl := playbackurl.getD d.playbackurl }

/-- `process_gw_services_time_config` -/
def askGwServicesTimeConfig (d : GwyDeviceData) : Inquiry GwyDeviceData := do
  let dsgtimezone ← processStringRequest .time .getTimeZone
  let rawoffset ← processIntRequest .time .getRawOffSet
  let dstsavings ← processIntRequest .time .getDSTSavings
  let usesdaylighttime ← processBooleanRequest .time .getUsesDaylightTime
  let dstoffset ← processIntRequest .time .getDSTOffset
  pure
    { d with
      dsgtimezone := dsgtimezone.getD d.dsgtimezone
      rawoffset := rawoffset.getD d.rawoffset
      dstsavings := dstsavings.getD d.dstsavings
      usesdaylighttime := usesdaylighttime.getD d.usesdaylighttime
      dstoffset := dstoffset.getD d.dstoffset }

/-- `process_gw_services_gateway_config` -/
def askGwServicesGatewayConfig (d : GwyDeviceData) :
    Inquiry (GwyDeviceData × List Effect) := do
  let address ← processStringRequest .gwCfg .getDataGatewayIPaddress
  let gatewaystbip ← processStringRequest .gwCfg .getGatewayStbIP
  let ipv6prefix ← processStringRequest .gwCfg .getIpv6Prefix
  let dnsconfig ← processStringRequest .gwCfg .getDnsConfig
  let devicename ← processStringRequest .gwCfg .getDeviceName
  let bcastmacaddress ← processStringRequest .gwCfg .getBcastMacAddress
  let gwyipv6 ← processStringRequest .gwCfg .getGatewayIPv6
  let gwyip ← processStringRequest .gwCfg .getGatewayIP
  let hostmacaddress ← processStringRequest .gwCfg .getHostMacAddress
  let etchosts ← processStringRequest .gwCfg .getHosts
  let isgateway ← required (processBooleanRequest .gwCfg .getIsGateway)
  let ipSubNet ← processStringRequest .gwCfg .getIPSubNet
  pure
    ({ d with
        dataGatewayIPaddress := address.getD d.dataGatewayIPaddress
        gatewaystbip := gatewaystbip.getD d.gatewaystbip
        ipv6prefix := ipv6prefix.getD d.ipv6prefix
        dnsconfig := dnsconfig.getD d.dnsconfig
        devicename := devicename.getD d.devicename
        bcastmacaddress := bcastmacaddress.getD d.bcastmacaddress
        gwyipv6 := gwyipv6.getD d.gwyipv6
        gwyip := gwyip.getD d.gwyip
        hostmacaddress := hostmacaddress.getD d.hostmacaddress
        etchosts := etchosts.getD d.etchosts
        isgateway
        ipSubNet := ipSubNet.getD d.ipSubNet },
      mocaRoute ipSubNet)

/-- `process_gw_services_qam_config` -/
def askGwServicesQamConfig (cfg : Settings) (d : GwyDeviceData) :
    Inquiry GwyDeviceData := do
  let basetrmurl ← processStringRequest .qamCfg .getBaseTrmUrl
  let systemids ← processStringRequest .qamCfg .getSystemIds
  let requirestrm ← processBooleanRequest .qamCfg .getRequiresTRM
  .ofExcept (replaceUnlessServer cfg
    { d with
      basetrmurl := basetrmurl.getD d.basetrmurl
      systemids := systemids.getD d.systemids
      requirestrm := requirestrm.getD d.requirestrm })

/-! ## Why an inquiry stops -/

/-- `E` holds of every reason for which an inquiry may stop. -/
structure Allows (cfg : Settings) (E : Stop → Prop) : Prop where
  refused : E .refused
  replace : ∀ d e, replaceUnlessServer cfg d = .error e → E e

section Stops

variable {cfg : Settings} {E : Stop → Prop}

theorem stops_ask {β : Type} (r : ServiceRequest) (k : r.Answer → β) :
    Asking.Stops E (.ask r fun a => .done (k a) : Inquiry β) := fun _ => trivial

theorem stops_required {β : Type} {request : Inquiry (Option β)}
    (hE : E .refused) (hrequest : request.Stops E) :
    (required request).Stops E := by
  refine hrequest.bind fun answer => Asking.Stops.ofExcept fun e he => ?_
  cases answer with
  | none =>
      obtain rfl := Except.error.inj he
      exact hE
  | some b => cases he

theorem stops_askGwServicesHead (hE : E .refused) (d : GwyDeviceData) :
    (askGwServicesHead d).Stops E := by
  refine .bind (stops_required hE (stops_ask _ id)) fun _ => ?_
  iterate 4 refine .bind (stops_ask _ id) fun _ => ?_
  refine .bind (stops_required hE (stops_ask _ id)) fun _ => ?_
  exact trivial

theorem stops_askGwServicesGateway (hE : E .refused) (d : GwyDeviceData) :
    (askGwServicesGateway d).Stops E := by
  iterate 2 refine .bind (stops_required hE (stops_ask _ id)) fun _ => ?_
  iterate 6 refine .bind (stops_ask _ id) fun _ => ?_
  refine .bind (stops_required hE (stops_ask _ id)) fun _ => ?_
  iterate 3 refine .bind (stops_ask _ id) fun _ => ?_
  refine .bind (stops_required hE (stops_ask _ id)) fun _ => ?_
  iterate 5 refine .bind (stops_ask _ id) fun _ => ?_
  exact trivial

theorem stops_askGwServices (hE : Allows cfg E) (d : GwyDeviceData) :
    (askGwServices cfg d).Stops E := by
  refine (stops_askGwServicesHead hE.refused d).bind fun d => ?_
  refine .bind ?_ fun d =>
    (Asking.Stops.ofExcept (hE.replace d)).bind fun _ => trivial
  rw [askGwServicesByType]
  split
  · exact fun _ => trivial
  · exact stops_askGwServicesGateway hE.refused d

theorem stops_askGwServicesIdentity (d : GwyDeviceData) :
    (askGwServicesIdentity d).Stops E := by
  iterate 15 refine .bind (stops_ask _ id) fun _ => ?_
  exact trivial

theorem stops_askGwServicesMediaConfig (d : GwyDeviceData) :
    (askGwServicesMediaConfig d).Stops E := fun _ => trivial

theorem stops_askGwServicesTimeConfig (d : GwyDeviceData) :
    (askGwServicesTimeConfig d).Stops E := by
  iterate 5 refine .bind (stops_ask _ id) fun _ => ?_
  exact trivial

theorem stops_askGwServicesGatewayConfig (hE : E .refused)
    (d : GwyDeviceData) : (askGwServicesGatewayConfig d).Stops E := by
  iterate 10 refine .bind (stops_ask _ id) fun _ => ?_
  refine .bind (stops_required hE (stops_ask _ id)) fun _ => ?_
  refine .bind (stops_ask _ id) fun _ => ?_
  exact trivial

theorem stops_askGwServicesQamConfig (hE : Allows cfg E) (d : GwyDeviceData) :
    (askGwServicesQamConfig cfg d).Stops E := by
  iterate 3 refine .bind (stops_ask _ id) fun _ => ?_
  exact .ofExcept (hE.replace _)

end Stops

/-! ## The answers of a device -/

section Answered

variable (cfg : Settings) (p : DeviceProxy) (d : GwyDeviceData)

@[simp] theorem answered_processStringRequest (service : Service)
    (action : Action) :
    (processStringRequest service action).answered p.answers =
      .ok ((p.service service).string action) := rfl

@[simp] theorem answered_processBooleanRequest (service : Service)
    (action : Action) :
    (processBooleanRequest service action).answered p.answers =
      .ok ((p.service service).boolean action) := rfl

@[simp] theorem answered_processIntRequest (service : Service)
    (action : Action) :
    (processIntRequest service action).answered p.answers =
      .ok ((p.service service).int action) := rfl

@[simp] theorem answered_required {β : Type} (request : Inquiry (Option β)) :
    (required request).answered p.answers =
      request.answered p.answers >>= mandatory := by
  rw [required, Asking.answered_bind]
  congr 1
  funext answer
  exact Asking.answered_ofExcept _

theorem answered_askGwServices :
    (askGwServices cfg d).answered p.answers =
      gwServicesData cfg (p.service .discovery) d := by
  have hhead : (askGwServicesHead d).answered p.answers =
      gwServicesHead (p.service .discovery) d := by
    simp only [askGwServicesHead, Asking.answered_bind, answered_required,
      answered_processStringRequest, answered_processBooleanRequest]
    rfl
  have htype : ∀ d : GwyDeviceData, (askGwServicesByType d).answered p.answers =
      gwServicesByType (p.service .discovery) d := by
    intro d
    rw [askGwServicesByType, gwServicesByType]
    split
    · rfl
    · simp only [askGwServicesGateway, Asking.answered_bind, answered_required,
        answered_processStringRequest, answered_processBooleanRequest,
        answered_processIntRequest]
      rfl
  rw [askGwServices, Asking.answered_bind, hhead, gwServicesData]
  congr 1
  funext d
  rw [Asking.answered_bind, htype]
  congr 1
  funext d
  rw [Asking.answered_bind, Asking.answered_ofExcept]
  rfl

theorem answered_askGwServicesIdentity :
    (askGwServicesIdentity d).answered p.answers =
      .ok (processGwServicesIdentity (p.service .identity) d) := rfl

theorem answered_askGwServicesMediaConfig :
    (askGwServicesMediaConfig d).answered p.answers =
      .ok (processGwServicesMediaConfig (p.service .media) d) := rfl

theorem answered_askGwServicesTimeConfig :
    (askGwServicesTimeConfig d).answered p.answers =
      .ok (processGwServicesTimeConfig (p.service .time) d) := rfl

theorem answered_askGwServicesGatewayConfig :
    (askGwServicesGatewayConfig d).answered p.answers =
      processGwServicesGatewayConfig (p.service .gwCfg) d := by
  simp only [askGwServicesGatewayConfig, Asking.answered_bind,
    answered_required, answered_processStringRequest,
    answered_processBooleanRequest]
  rfl

theorem answered_askGwServicesQamConfig :
    (askGwServicesQamConfig cfg d).answered p.answers =
      processGwServicesQamConfig cfg (p.service .qamCfg) d := by
  simp only [askGwServicesQamConfig, Asking.answered_bind,
    answered_processStringRequest, answered_processBooleanRequest,
    Asking.answered_ofExcept]
  rfl

end Answered

end Xupnp.Discovery
