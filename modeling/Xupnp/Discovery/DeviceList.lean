import Xupnp.Discovery.Publish

/-!
# The device list (`xdevlist`)

`update_gwylist` and `delete_gwyitem`, with the list functions they compare
serial numbers with. Every comparison strips the serial numbers it looks at in
place, so a search changes the entries it passes.
-/

namespace Xupnp.Discovery

open Xupnp.Library Xupnp.WhiteList

/-! ## Searching and inserting -/

/-- `g_list_find_custom` with a comparison that changes the records it looks
at: the list as the search leaves it, and the record found. -/
def listFindCustom (touch : GwyDeviceData → GwyDeviceData)
    (hit : GwyDeviceData → Bool) :
    List GwyDeviceData → List GwyDeviceData × Option GwyDeviceData
  | [] => ([], none)
  | d :: ds =>
      let d := touch d
      if hit d then (d :: ds, some d)
      else
        let (ds, found) := listFindCustom touch hit ds
        (d :: ds, found)

/-- Change the record a search finds, in place. -/
def modifyFound (hit : GwyDeviceData → Bool)
    (f : GwyDeviceData → GwyDeviceData) :
    List GwyDeviceData → List GwyDeviceData
  | [] => []
  | d :: ds => if hit d then f d :: ds else d :: modifyFound hit f ds

/-- The record has this serial number. One that is `NULL` none has. -/
def hasSno (sno : Option CStr) (d : GwyDeviceData) : Bool :=
  sno.map CStr.strip = some d.key

/-- `g_list_find_custom (xdevlist, sno, g_list_find_sno)` -/
def listFindSno (sno : Option CStr) :
    List GwyDeviceData → List GwyDeviceData × Option GwyDeviceData :=
  listFindCustom (·.strip .serialNum) (hasSno sno)

/-- `g_list_insert_sorted_with_data (xdevlist, gwydata, g_list_compare_sno)`:
in front of the first record whose serial number is not smaller. Into an empty
list nothing is compared, and nothing stripped. -/
def listInsertSorted (gwydata : GwyDeviceData) :
    List GwyDeviceData → List GwyDeviceData
  | [] => [gwydata]
  | d :: ds =>
      let gwydata := gwydata.strip .serialNum
      let d := d.strip .serialNum
      if gwydata.serialNum ≤ d.serialNum then gwydata :: d :: ds
      else d :: listInsertSorted gwydata ds

/-! ## The white list calls -/

def isXG (d : GwyDeviceData) : Bool := d.devicetype.strip.contains (.lit "XG")

def isXIDOrXI3 (d : GwyDeviceData) : Bool :=
  d.devicetype.strip.contains (.lit "XID")
    || d.devicetype.strip.contains (.lit "XI3")

/-- The address `update_gwylist` puts on the white list for a record: by the
device type alone. -/
def insertAddr (d : GwyDeviceData) : Option ℕ :=
  if isXG d then Inet.aton d.gwyip
  else if isXIDOrXI3 d then Inet.aton d.clientip
  else none

/-- The address `delete_gwyitem` takes off the white list: by `isgateway`
first. -/
def deleteAddr (d : GwyDeviceData) : Option ℕ :=
  if d.isgateway then
    if isXG d then Inet.aton d.gwyip else none
  else if isXIDOrXI3 d then Inet.aton d.clientip
  else none

/-- The white list is kept for refactored devices in `BROADBAND` builds. -/
def keepsWhiteList (cfg : Settings) (d : GwyDeviceData) : Bool :=
  cfg.broadband && cfg.rfcEnabled && d.isDevRefactored

/-- The address an update puts on the white list, if the list is kept for the
record. -/
def listedAddr (cfg : Settings) (d : GwyDeviceData) : Option ℕ :=
  if keepsWhiteList cfg d then insertAddr d else none

/-- The address a delete takes off the white list. -/
def unlistedAddr (cfg : Settings) (d : GwyDeviceData) : Option ℕ :=
  if keepsWhiteList cfg d then deleteAddr d else none

def insertCall (cfg : Settings) (io : Io) (d : GwyDeviceData) : List DpOp :=
  ((listedAddr cfg d).map fun a : ℕ =>
    DpOp.insert a d.bcastmacaddress io.insertLocals).toList

def deleteCall (cfg : Settings) (io : Io) (d : GwyDeviceData) : List DpOp :=
  ((unlistedAddr cfg d).map fun a : ℕ =>
    DpOp.delete a (.lit " ") io.deleteLocals).toList

/-! ## `delete_gwyitem` and `update_gwylist` -/

/-- `delete_gwyitem`, and whether it found the record. -/
def deleteGwyitem (cfg : Settings) (io : Io) (serialNum : Option CStr)
    (s : XState) : XState × Bool :=
  match listFindSno serialNum s.xdevlist with
  | (ds, some gwdata) =>
      ({ s with
          xdevlist := ds.eraseP (hasSno serialNum)
          gatewayDetected :=
            if cfg.clientXcalServer && gwdata.isgateway
                && s.gatewayDetected != 0 then
              s.gatewayDetected - 1
            else s.gatewayDetected
          trace := s.trace ++
            (deleteCall cfg io gwdata).map Effect.whiteList }, true)
  | (ds, none) => ({ s with xdevlist := ds }, false)

/-- What `update_gwylist` does to the routes before it replaces an entry: under
`ENABLE_ROUTE` it deletes the route of the *new* record, if that one is marked
as set and differs from the stored one. -/
def clearRoute (cfg : Settings) (stored gwydata : GwyDeviceData) :
    List Effect :=
  if cfg.enableRoute && cfg.enableGwSetup && gwydata.isRouteSet
      && stored.gwyip.strip != gwydata.gwyip.strip then
    [.routeDel gwydata.gwyip.strip]
  else []

/-- The second half of `update_gwylist`: insert, put on the white list,
publish. -/
def insertAndPublish (cfg : Settings) (io : Io) (gwydata : GwyDeviceData)
    (s : XState) : XState :=
  let gwydata :=
    if keepsWhiteList cfg gwydata then gwydata.strip .devicetype else gwydata
  sendDiscoveryResult cfg io
    { s with
      xdevlist := listInsertSorted gwydata s.xdevlist
      trace := s.trace ++ (insertCall cfg io gwydata).map Effect.whiteList }

/-- `update_gwylist`. Its result is `TRUE` for every record: the entry it has
found it can delete. -/
def updateGwylist (cfg : Settings) (io : Io) (gwydata : GwyDeviceData)
    (s : XState) : XState :=
  let sno := some gwydata.serialNum
  match listFindSno sno s.xdevlist with
  | (ds, some stored) =>
      let gwydata := (gwydata.strip .serialNum).strip .gwyip
      let s :=
        { s with
          xdevlist := modifyFound (hasSno sno) (·.strip .gwyip) ds
          trace := s.trace ++ clearRoute cfg stored gwydata }
      insertAndPublish cfg io gwydata (deleteGwyitem cfg io sno s).1
  | (ds, none) =>
      insertAndPublish cfg io
        (if ds = [] then gwydata else gwydata.strip .serialNum)
        { s with xdevlist := ds }

end Xupnp.Discovery
