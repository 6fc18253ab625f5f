import Xupnp.Library.OutBuffer
import Xupnp.XcalDevice.IpSubnet
import Xupnp.XcalDevice.TokenReads

/-!
# The string getters of the broadband library

`xcal-device-main.c` passes buffers of 256 bytes to the getters and takes what
is in them for a string. The getters fill them in three ways: `strcpy_s`, which
is a plain `strcpy` in some builds, `strncpy` and `sprintf`. One of them stores
nothing at all. `get_serves_iff` says for every getter in which states of the
library the buffer holds what is served.
-/

namespace Xupnp.XcalDevice

open Xupnp.Library

/-! ## The library -/

/-- The hardware address of an interface. -/
structure HwAddr where
  (b0 b1 b2 b3 b4 b5 : UInt8)

/-- A digit of `%x`. -/
def lowerHex (b : UInt8) : UInt8 := if b < 10 then 0x30 + b else 0x57 + b

/-- `%.2x` -/
def hexByte (b : UInt8) : List UInt8 := [lowerHex (b / 16), lowerHex (b % 16)]

/-- The text of `getmacaddress`. -/
def HwAddr.text (a : HwAddr) : CStr :=
  .ofBytes (List.intercalate [0x3A]
    ([a.b0, a.b1, a.b2, a.b3, a.b4, a.b5].map hexByte))

/-- The strings of `ConfSettings` that are served, `NULL` where they are not
set. -/
structure BroadbandConf where
  bcastIf : Option CStr
  hostMacIf : Option CStr
  cvpIf : Option CStr
  cvpXmlFile : Option CStr
  devXmlPath : Option CStr
  devXmlFile : Option CStr
  devKeyPath : Option CStr
  devKeyFile : Option CStr
  devCertPath : Option CStr
  devCertFile : Option CStr

/-- The build, the globals of the library after `xdeviceInit`, and what the
outside would answer it. -/
structure BroadbandLibrary where
  safeLib : SafeLib
  /-- `CLIENT_XCAL_SERVER` -/
  client : Bool
  devConf : BroadbandConf
  url : CStr
  trmurl : CStr
  gwyip : CStr
  gwyipv6 : CStr
  gwystbip : CStr
  systemids : CStr
  dsgtimezone : CStr
  serialNum : CStr
  recvId : CStr
  hostmacaddress : CStr
  bcastmacaddress : CStr
  eroutermacaddress : CStr
  devicename : CStr
  buildversion : CStr
  recvdevtype : CStr
  devicetype : CStr
  make : CStr
  dataGatewayIPaddress : CStr
  /-- `getmacaddress`, for each interface. -/
  hwaddr : CStr → HwAddr
  /-- `AccountID` of syscfg. -/
  accountId : Option CStr
  route : Option RouteRun

/-- The getters that `xcal-device-main.c` passes a buffer of `MAXSIZE` to in a
broadband build. -/
inductive StringGetter where
  | getBaseUrl
  | getTrmUrl
  | getGatewayIp
  | getGatewayIpv6
  | getGatewayStbIp
  | getHostMacAddress
  | getBcastMacAddress
  | getRecvDevType
  | getDeviceType
  | getBuildVersion
  | getSystemsIds
  | getRouteDataGateway
  | getIpSubnet
  | getTimeZone
  | getDeviceName
  | getModelNumber
  | getMake
  | getSerialNum
  | getBcastIf
  | getCVPIf
  | getCVPXmlFile
  | getAccountId
  | getReceiverId
  | getUUID
  | getDevXmlPath
  | getDevXmlFile (refactor : Bool)
  | getDevKeyPath
  | getDevKeyFile
  | getDevCertPath
  | getDevCertFile
deriving DecidableEq

/-- A call of a getter: its result, the bytes it stores at `outValue`, one over
the other, and the library afterwards. -/
structure GetterCall where
  result : Bool
  writes : List (List UInt8)
  lib : BroadbandLibrary

/-- The memory at `outValue` after the call. -/
def GetterCall.memory (mem : List UInt8) (call : GetterCall) : List UInt8 :=
  call.writes.foldl store mem

/-! ## The code -/

/-- What `fgets` stores, and the NUL in place of a new line. -/
def pieceWrites (piece : List UInt8) : List (List UInt8) :=
  if piece.getLast? = some 0x0A then [piece ++ [0], piece.dropLast ++ [0]]
  else [piece ++ [0]]

namespace BroadbandLibrary

variable (lib : BroadbandLibrary)

/-- The getter returns `FALSE` and stores nothing. -/
def refused : GetterCall := ⟨false, [], lib⟩

/-- `strcpy_s (outValue, MAX_OUTVALUE, src)` -/
def copied (src : CStr) : GetterCall :=
  let (stored, eok) := strcpyS lib.safeLib maxOutvalue src
  ⟨eok, [stored.terminated], lib⟩

/-- The same after `check_empty (src)`. -/
def copiedUnlessEmpty (src : CStr) : GetterCall :=
  if src = .empty then lib.refused else lib.copied src

/-- The same after `check_null (src)`. -/
def copiedIfSet : Option CStr → GetterCall
  | none => lib.refused
  | some src => lib.copiedUnlessEmpty src

/-- `MAX_FILE_LENGTH` -/
def maxFileLength : ℕ := 256

/-- `strncpy (outValue, src, MAX_FILE_LENGTH)` after `check_null (src)` and
`check_empty (src)`. -/
def strncpied : Option CStr → GetterCall
  | none => lib.refused
  | some src =>
      if src = .empty then lib.refused
      else ⟨true, [CStr.padTo maxFileLength src.bytes], lib⟩

/-- `sprintf` -/
def printed (text : CStr) : GetterCall := ⟨true, [text.terminated], lib⟩

def baseUrl : CStr :=
  .lit "http://" ++ lib.gwyip ++ .lit ":8080/videoStreamInit?recorderId="
    ++ lib.recvId

/-- `BROADBAND_DEVICE_XML_FILE` -/
def broadbandDeviceXmlFile : CStr := .lit "X1BroadbandGateway.xml"

/-- `"%s/%s"` -/
def xmlFile (path file : CStr) : CStr := path ++ .lit "/" ++ file

/-- What is done with a new `recv_id`. -/
def withUid (f : BroadbandLibrary → CStr → GetterCall) : Option GetterCall :=
  (getUidfromRecvId lib.eroutermacaddress lib.recvId).map fun
    | (true, recvId) => f { lib with recvId } recvId
    | (false, recvId) => refused { lib with recvId }

/-- The end of `getUUID`. -/
def uuidCall (recvId : CStr) : GetterCall :=
  if recvId = .empty then lib.refused
  else lib.printed (.lit "uuid:" ++ recvId)

/-- The getters. There is no result where a `NULL` is read. -/
def get : StringGetter → Option GetterCall
  | .getBaseUrl => some
      (if lib.gwyip ≠ .empty ∧ lib.recvId ≠ .empty then
        ⟨true, [], { lib with url := lib.baseUrl }⟩
      else lib.refused)
  | .getTrmUrl => some (lib.copiedUnlessEmpty lib.trmurl)
  | .getGatewayIp => some (lib.copiedUnlessEmpty lib.gwyip)
  | .getGatewayIpv6 => some
      (if lib.client then lib.refused else lib.copiedUnlessEmpty lib.gwyipv6)
  | .getGatewayStbIp => some
      (if lib.client then lib.refused else lib.copiedUnlessEmpty lib.gwystbip)
  | .getHostMacAddress => some
      (if lib.client then lib.refused
      else
        match lib.devConf.hostMacIf with
        | none => lib.refused
        | some ifname =>
            let hostmac := (lib.hwaddr ifname).text
            copied { lib with hostmacaddress := hostmac } hostmac)
  | .getBcastMacAddress => some
      (match lib.devConf.bcastIf with
      | none => lib.refused
      | some ifname =>
          let bcastmac := (lib.hwaddr ifname).text
          copied { lib with bcastmacaddress := bcastmac } bcastmac)
  | .getRecvDevType => some (lib.copiedUnlessEmpty lib.recvdevtype)
  | .getDeviceType => some (lib.copiedUnlessEmpty lib.devicetype)
  | .getBuildVersion => some (lib.copiedUnlessEmpty lib.buildversion)
  | .getSystemsIds => some (lib.copiedUnlessEmpty lib.systemids)
  | .getRouteDataGateway =>
      some (lib.copiedUnlessEmpty lib.dataGatewayIPaddress)
  | .getIpSubnet => some
      (match lib.route with
      | none => lib.refused
      | some run =>
          ⟨run.status == 0, (subnetPieces run).flatMap pieceWrites, lib⟩)
  | .getTimeZone => some (lib.copiedUnlessEmpty lib.dsgtimezone)
  | .getDeviceName => some (lib.copied lib.devicename)
  | .getModelNumber => some (lib.copiedUnlessEmpty lib.devicename)
  | .getMake => some (lib.copiedUnlessEmpty lib.make)
  | .getSerialNum => some (lib.copiedUnlessEmpty lib.serialNum)
  | .getBcastIf => lib.devConf.bcastIf.map lib.copiedUnlessEmpty
  -- The declaration of `rc` in `getCVPIf` lacks its semicolon.
  | .getCVPIf =>
      if lib.client then none else lib.devConf.cvpIf.map lib.copiedUnlessEmpty
  | .getCVPXmlFile =>
      if lib.client then none
      else lib.devConf.cvpXmlFile.map lib.copiedUnlessEmpty
  | .getAccountId => some
      (match syscfgGet lib.accountId 24 with
      | none => lib.refused
      | some temp => lib.copied temp)
  | .getReceiverId => lib.withUid copiedUnlessEmpty
  | .getUUID => lib.withUid uuidCall
  | .getDevXmlPath => some (lib.copiedIfSet lib.devConf.devXmlPath)
  | .getDevXmlFile refactor =>
      match lib.devConf.devXmlFile with
      | none => some lib.refused
      | some file =>
          if refactor then
            lib.devConf.devXmlPath.map fun path =>
              lib.printed (xmlFile path broadbandDeviceXmlFile)
          else if file = .empty then some lib.refused
          else
            lib.devConf.devXmlPath.map fun path =>
              lib.printed (xmlFile path file)
  | .getDevKeyPath => some (lib.strncpied lib.devConf.devKeyPath)
  | .getDevKeyFile => some (lib.strncpied lib.devConf.devKeyFile)
  | .getDevCertPath => some (lib.strncpied lib.devConf.devCertPath)
  | .getDevCertFile => some (lib.strncpied lib.devConf.devCertFile)

end BroadbandLibrary

end Xupnp.XcalDevice
