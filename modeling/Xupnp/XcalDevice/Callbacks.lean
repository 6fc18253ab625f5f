import Xupnp.Library.ReadThrough
import Xupnp.XcalDevice.Getters

/-!
# The callbacks of the variables (`xcal-device-main.c`)

Every variable has a buffer of its own, which its action callback and its query
callback both answer from. As a rule only the action has the library fill the
buffer first.
-/

namespace Xupnp.XcalDevice

open Xupnp.Library

/-! ## Variables and callbacks -/

/-- The variables with both callbacks; `query_rui_url_cb` is connected to
nothing. -/
inductive Variable where
  | url
  | trmUrl
  | playbackUrl
  | gatewayIP
  | gatewayIPv6
  | gatewayStbIP
  | ipv6Prefix
  | hostMacAddress
  | bcastMacAddress
  | recvDevType
  | deviceType
  | buildVersion
  | dnsConfig
  | systemIds
  | dataGatewayIPaddress
  | ipSubNet
  | timeZone
  | rawOffSet
  | dstSavings
  | usesDaylightTime
  | deviceName
  | dstOffset
  | hosts
  | isGateway
  | requiresTRM
  | modelClass
  | modelNumber
  | deviceId
  | hardwareRevision
  | softwareRevision
  | managementURL
  | make
  | receiverId
  | accountId
  | clientIP
deriving DecidableEq

/-- What the buffers hold at the start. -/
def Variable.initial : Variable → Value
  | .rawOffSet | .dstSavings | .dstOffset => .int 0
  | .usesDaylightTime | .isGateway | .requiresTRM => .boolean false
  | _ => .string .empty

abbrev Buffers := Variable → Value

/-- A callback calls a getter on the buffer of its variable, or none, and
answers with the buffer, or with something else. -/
structure Callback where
  buffer : Variable
  getter : XdeviceLibrary → Option Getter
  instead : XdeviceLibrary → Option Value

namespace Callback

def plain (X : Variable) : Callback where
  buffer := X
  getter _ := none
  instead _ := none

def refreshed (X : Variable) (get : Getter) : Callback where
  buffer := X
  getter _ := some get
  instead _ := none

/-- What is written into the buffer. -/
def fetched (cb : Callback) (lib : XdeviceLibrary) : Option Value :=
  (cb.getter lib).bind lib.get

def read (cb : Callback) (lib : XdeviceLibrary) :
    ReadThrough.Read Variable Value where
  cell := cb.buffer
  fetched := cb.fetched lib

/-- What is answered. -/
def answer (cb : Callback) (lib : XdeviceLibrary) (buffers : Buffers) : Value :=
  match cb.instead lib with
  | some v => v
  | none => ReadThrough.fill buffers (cb.read lib) cb.buffer

/-- The answer about the playback URL while `getTuneReady` is false. -/
def outOfTune (lib : XdeviceLibrary) : Option Value :=
  if lib.getTuneReady then none else some (.string (.lit "NULL"))

/-! ### Actions -/

def getUrlCb : Callback := .refreshed .url .getBaseUrl
def getTrmUrlCb : Callback := .refreshed .trmUrl .getTrmUrl

def getPlaybackUrlCb : Callback where
  buffer := .playbackUrl
  getter lib := if lib.getTuneReady then some .getPlaybackUrl else none
  instead := outOfTune

def getGwyipCb : Callback := .refreshed .gatewayIP .getGatewayIp
def getGwyipv6Cb : Callback := .refreshed .gatewayIPv6 .getGatewayIpv6
def getGwystbipCb : Callback := .refreshed .gatewayStbIP .getGatewayStbIp
def getIpv6prefixCb : Callback := .refreshed .ipv6Prefix .getIpv6Prefix
def getHostmacaddressCb : Callback :=
  .refreshed .hostMacAddress .getHostMacAddress
def getBcastmacaddressCb : Callback := .plain .bcastMacAddress
def getRecvdevtypeCb : Callback := .refreshed .recvDevType .getRecvDevType
def getDevicetypeCb : Callback := .refreshed .deviceType .getDeviceType
def getBuildversionCb : Callback := .refreshed .buildVersion .getBuildVersion
def getDnsconfigCb : Callback := .refreshed .dnsConfig .getDnsConfig
def getSystemidsCb : Callback := .refreshed .systemIds .getSystemsIds

def getDataGatewayIPaddressCb (rfcEnabled : Bool) : Callback :=
  .refreshed .dataGatewayIPaddress
    (if rfcEnabled then .getGatewayStbIp else .getRouteDataGateway)

def getIpsubnetCb : Callback := .refreshed .ipSubNet .getIpSubnet

def getTimezoneCb : Callback where
  buffer := .timeZone
  getter lib := if lib.getIsuseGliDiagEnabled then some .getTimeZone else none
  instead _ := none

def getRawoffsetCb : Callback := .refreshed .rawOffSet .getRawOffSet
def getDstsavingsCb : Callback := .refreshed .dstSavings .getDstSavings
def getUsesdaylighttimeCb : Callback :=
  .refreshed .usesDaylightTime .getUsesDayLightTime
def getDevicenameCb : Callback := .refreshed .deviceName .getDeviceName
def getDstoffsetCb : Callback := .refreshed .dstOffset .getDstOffset
def getHostsCb : Callback := .refreshed .hosts .getHosts
def getIsgatewayCb : Callback := .refreshed .isGateway .getIsGateway
def getRequirestrmCb : Callback := .refreshed .requiresTRM .getRequiresTRM
def getModelclassCb : Callback := .refreshed .modelClass .getDeviceType
def getModelnumberCb : Callback := .refreshed .modelNumber .getModelNumber
def getDeviceidCb : Callback := .plain .deviceId
def getHardwarerevisionCb : Callback := .plain .hardwareRevision
def getSoftwarerevisionCb : Callback := .plain .softwareRevision
def getManagementurlCb : Callback := .plain .managementURL
def getMakeCb : Callback := .refreshed .make .getMake
def getRecevIdCb : Callback := .plain .receiverId
def getAccountIdCb : Callback := .plain .accountId
def getClientIpCb : Callback := .plain .clientIP

/-! ### Queries -/

def queryUrlCb : Callback := .plain .url
def queryTrmUrlCb : Callback := .plain .trmUrl

def queryPlaybackUrlCb : Callback where
  buffer := .playbackUrl
  getter _ := none
  instead := outOfTune

def queryGwyipCb : Callback := .plain .gatewayIP
def queryGwyipv6Cb : Callback := .plain .gatewayIPv6
def queryGwystbipCb : Callback := .plain .gatewayStbIP
def queryIpv6prefixCb : Callback := .plain .ipv6Prefix
def queryHostmacaddressCb : Callback := .plain .hostMacAddress
def queryBcastmacaddressCb : Callback := .plain .bcastMacAddress
def queryRecvdevtypeCb : Callback := .plain .recvDevType
def queryDevicetypeCb : Callback := .plain .deviceType
def queryBuildversionCb : Callback := .plain .buildVersion
def queryDnsconfigCb : Callback := .plain .dnsConfig
def querySystemidsCb : Callback := .plain .systemIds
def queryDataGatewayIPaddressCb : Callback := .plain .dataGatewayIPaddress
def queryIpsubnetCb : Callback := .refreshed .ipSubNet .getIpSubnet

-- The test is the other way round.
def queryTimezoneCb : Callback where
  buffer := .timeZone
  getter lib := if lib.getIsuseGliDiagEnabled then none else some .getTimeZone
  instead _ := none

def queryRawoffsetCb : Callback := .plain .rawOffSet
def queryDstsavingsCb : Callback := .plain .dstSavings
def queryUsesdaylighttimeCb : Callback := .plain .usesDaylightTime
def queryDevicenameCb : Callback := .plain .deviceName
def queryDstoffsetCb : Callback := .plain .dstOffset
def queryHostsCb : Callback := .plain .hosts
def queryIsgatewayCb : Callback := .plain .isGateway
def queryRequirestrmCb : Callback := .plain .requiresTRM
def queryModelclassCb : Callback := .plain .modelClass
def queryModelnumberCb : Callback := .plain .modelNumber
def queryDeviceidCb : Callback := .plain .deviceId
def queryHardwarerevisionCb : Callback := .plain .hardwareRevision
def querySoftwarerevisionCb : Callback := .plain .softwareRevision
def queryManagementurlCb : Callback := .plain .managementURL
def queryMakeCb : Callback := .plain .make
def queryRecevIdCb : Callback := .plain .receiverId
def queryAccountIdCb : Callback := .plain .accountId
def queryClientIpCb : Callback := .plain .clientIP

end Callback

/-- What is connected to `action-invoked`. -/
def actionInvoked (rfcEnabled : Bool) : Variable → Callback
  | .url => .getUrlCb
  | .trmUrl => .getTrmUrlCb
  | .playbackUrl => .getPlaybackUrlCb
  | .gatewayIP => .getGwyipCb
  | .gatewayIPv6 => .getGwyipv6Cb
  | .gatewayStbIP => .getGwystbipCb
  | .ipv6Prefix => .getIpv6prefixCb
  | .hostMacAddress => .getHostmacaddressCb
  | .bcastMacAddress => .getBcastmacaddressCb
  | .recvDevType => .getRecvdevtypeCb
  | .deviceType => .getDevicetypeCb
  | .buildVersion => .getBuildversionCb
  | .dnsConfig => .getDnsconfigCb
  | .systemIds => .getSystemidsCb
  | .dataGatewayIPaddress => .getDataGatewayIPaddressCb rfcEnabled
  | .ipSubNet => .getIpsubnetCb
  | .timeZone => .getTimezoneCb
  | .rawOffSet => .getRawoffsetCb
  | .dstSavings => .getDstsavingsCb
  | .usesDaylightTime => .getUsesdaylighttimeCb
  | .deviceName => .getDevicenameCb
  | .dstOffset => .getDstoffsetCb
  | .hosts => .getHostsCb
  | .isGateway => .getIsgatewayCb
  | .requiresTRM => .getRequirestrmCb
  | .modelClass => .getModelclassCb
  | .modelNumber => .getModelnumberCb
  | .deviceId => .getDeviceidCb
  | .hardwareRevision => .getHardwarerevisionCb
  | .softwareRevision => .getSoftwarerevisionCb
  | .managementURL => .getManagementurlCb
  | .make => .getMakeCb
  | .receiverId => .getRecevIdCb
  | .accountId => .getAccountIdCb
  | .clientIP => .getClientIpCb

/-- What is connected to `query-variable`. -/
def queryVariable : Variable → Callback
  | .url => .queryUrlCb
  | .trmUrl => .queryTrmUrlCb
  | .playbackUrl => .queryPlaybackUrlCb
  | .gatewayIP => .queryGwyipCb
  | .gatewayIPv6 => .queryGwyipv6Cb
  | .gatewayStbIP => .queryGwystbipCb
  | .ipv6Prefix => .queryIpv6prefixCb
  | .hostMacAddress => .queryHostmacaddressCb
  | .bcastMacAddress => .queryBcastmacaddressCb
  | .recvDevType => .queryRecvdevtypeCb
  | .deviceType => .queryDevicetypeCb
  | .buildVersion => .queryBuildversionCb
  | .dnsConfig => .queryDnsconfigCb
  | .systemIds => .querySystemidsCb
  | .dataGatewayIPaddress => .queryDataGatewayIPaddressCb
  | .ipSubNet => .queryIpsubnetCb
  | .timeZone => .queryTimezoneCb
  | .rawOffSet => .queryRawoffsetCb
  | .dstSavings => .queryDstsavingsCb
  | .usesDaylightTime => .queryUsesdaylighttimeCb
  | .deviceName => .queryDevicenameCb
  | .dstOffset => .queryDstoffsetCb
  | .hosts => .queryHostsCb
  | .isGateway => .queryIsgatewayCb
  | .requiresTRM => .queryRequirestrmCb
  | .modelClass => .queryModelclassCb
  | .modelNumber => .queryModelnumberCb
  | .deviceId => .queryDeviceidCb
  | .hardwareRevision => .queryHardwarerevisionCb
  | .softwareRevision => .querySoftwarerevisionCb
  | .managementURL => .queryManagementurlCb
  | .make => .queryMakeCb
  | .receiverId => .queryRecevIdCb
  | .accountId => .queryAccountIdCb
  | .clientIP => .queryClientIpCb

/-! ## What they have in common -/

theorem buffer_actionInvoked (rfcEnabled : Bool) (X : Variable) :
    (actionInvoked rfcEnabled X).buffer = X := by
  cases X <;> rfl

theorem buffer_queryVariable (X : Variable) :
    (queryVariable X).buffer = X := by
  cases X <;> rfl

theorem instead_eq (rfcEnabled : Bool) (X : Variable) :
    (actionInvoked rfcEnabled X).instead = (queryVariable X).instead := by
  cases X <;> rfl

theorem answer_of_instead_none {cb : Callback} {lib : XdeviceLibrary}
    {X : Variable} (hX : cb.buffer = X) (h : cb.instead lib = none)
    (buffers : Buffers) :
    cb.answer lib buffers = (cb.fetched lib).getD (buffers X) := by
  rw [Callback.answer, h]
  show ReadThrough.fill buffers (cb.read lib) (cb.read lib).cell = _
  rw [ReadThrough.fill_cell]
  show (cb.fetched lib).getD (buffers cb.buffer) = _
  rw [hX]

end Xupnp.XcalDevice
