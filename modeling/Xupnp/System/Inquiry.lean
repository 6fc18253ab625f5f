import Xupnp.Library.Serving
import Xupnp.Discovery.Handlers
import Xupnp.Discovery.Mandatory
import Xupnp.Discovery.Steps
import Xupnp.System.ServedDevice

/-!
# The daemon asks an xcal-device

The requests of `xdiscovery.c` arrive one by one at an `xcal-device`, which
serves others in between and whose library changes. The record is nevertheless
what one device would have answered in one go (`served_eq_inquiry`); no
mandatory datum is ever missing, and what does not change during the inquiry is
noted as it is (`inquiry_served`).
-/

namespace Xupnp.System

open Xupnp.Library Xupnp.XcalDevice
open Xupnp.Discovery hiding Variable

/-! ## What is asked -/

/-- An action with the type it is called with. -/
def request (service : Service) (action : Action) : ServiceRequest :=
  match action with
  | .getIsGateway | .getRequiresTRM | .getUsesDaylightTime =>
      .boolean service action
  | .getRawOffSet | .getDSTSavings | .getDSTOffset => .int service action
  | _ => .string service action

def headActions : List Action :=
  [.getIsGateway, .getRecvDevType, .getBuildVersion, .getDeviceName,
    .getDeviceType, .getBcastMacAddress]

def gatewayActions : List Action :=
  [.getBaseUrl, .getBaseTrmUrl, .getGatewayIP, .getClientIP, .getGatewayIPv6,
    .getGatewayStbIP, .getIpv6Prefix, .getDnsConfig, .getPlaybackUrl,
    .getSystemIds, .getTimeZone, .getHosts, .getRequiresTRM,
    .getHostMacAddress, .getRawOffSet, .getDSTSavings, .getUsesDaylightTime,
    .getDSTOffset]

def xiActions : List Action := [.getDataGatewayIPaddress]

def identityActions : List Action :=
  [.getAccountId, .getRecvDevType, .getBuildVersion, .getDeviceName,
    .getDeviceType, .getModelClass, .getModelNumber, .getDeviceId,
    .getHardwareRevision, .getSoftwareRevision, .getManagementUrl, .getMake,
    .getReceiverId, .getClientIP, .getBcastMacAddress]

def mediaActions : List Action := [.getPlaybackUrl]

def timeActions : List Action :=
  [.getTimeZone, .getRawOffSet, .getDSTSavings, .getUsesDaylightTime,
    .getDSTOffset]

def gwCfgActions : List Action :=
  [.getDataGatewayIPaddress, .getGatewayStbIP, .getIpv6Prefix, .getDnsConfig,
    .getDeviceName, .getBcastMacAddress, .getGatewayIPv6, .getGatewayIP,
    .getHostMacAddress, .getHosts, .getIsGateway, .getIPSubNet]

def qamActions : List Action :=
  [.getBaseTrmUrl, .getSystemIds, .getRequiresTRM]

/-- The requests of an inquiry. -/
def requests (cfg : Settings) (a : Announcement) :
    ControlPoint → GwyDeviceData → Inquiry (GwyDeviceData × List Effect)
  | .basicDevice, d => do
      let d ← askGwServices cfg d
      pure (d, [])
  | .x1Renderer, d => do
      let d ← Handler.askRenderer { d with sproxyI := a.hasService .identity }
      pure (d, [])
  | .x1VideoGateway, d => do
      let r ← Handler.askVideoGateway
        { d with sproxyI := a.hasService .identity }
      let d ← askGwServicesQamConfig cfg r.1
      pure ({ d with isDevRefactored := true }, r.2)
  | .x1BroadbandGateway, d => do
      let r ← Handler.askBroadbandGateway
        { d with sproxyI := a.hasService .identity }
      pure ({ r.1 with isDevRefactored := true }, r.2)

/-- They are those of `inquiry`. -/
theorem answered_requests (cfg : Settings) (p : DeviceProxy) (cp : ControlPoint)
    (d : GwyDeviceData) :
    (requests cfg p.announcement cp d).answered p.answers =
      inquiry cfg p cp d := by
  cases cp with
  | basicDevice =>
      rw [requests, Asking.answered_bind, answered_askGwServices]
      rfl
  | x1Renderer =>
      rw [requests, Asking.answered_bind, answered_askRenderer]
      rfl
  | x1VideoGateway =>
      rw [requests, Asking.answered_bind, answered_askVideoGateway, inquiry]
      congr 1
      funext r
      rw [Asking.answered_bind, answered_askGwServicesQamConfig]
      rfl
  | x1BroadbandGateway =>
      rw [requests, Asking.answered_bind, answered_askBroadbandGateway]
      rfl

/-! ### In their order -/

/-- The requests of a part of an inquiry. -/
def part (service : Service) (actions : List Action) : List ServiceRequest :=
  actions.map (request service)

/-- All that may be asked. -/
def everyRequest : ControlPoint → List ServiceRequest
  | .basicDevice =>
      part .discovery headActions ++
        (part .discovery gatewayActions ++ part .discovery xiActions)
  | .x1Renderer =>
      part .identity identityActions ++ part .media mediaActions
  | .x1VideoGateway =>
      (part .identity identityActions ++ (part .media mediaActions ++
        (part .time timeActions ++ part .gwCfg gwCfgActions))) ++
      part .qamCfg qamActions
  | .x1BroadbandGateway =>
      part .identity identityActions ++
        (part .time timeActions ++ part .gwCfg gwCfgActions)

section Order

variable {β : Type} {rs : List ServiceRequest}

theorem along_request (r : ServiceRequest) {f : r.Answer → Inquiry β}
    (hf : ∀ a, (f a).Along rs) :
    ((Asking.ask r .done : Inquiry r.Answer) >>= f).Along (r :: rs) :=
  ⟨rs, List.Sublist.refl _, hf⟩

theorem along_ofExcept (x : Except Stop β) :
    (Asking.ofExcept x : Inquiry β).Along rs := Asking.Along.ofExcept x

theorem along_required {γ : Type} {q : Inquiry (Option γ)} {f : γ → Inquiry β}
    {r : ServiceRequest} (hq : q.Along [r]) (hf : ∀ c, (f c).Along rs) :
    (required q >>= f).Along (r :: rs) := by
  have hrequired : (required q).Along ([r] ++ []) :=
    hq.bind fun answer => along_ofExcept (mandatory answer)
  exact hrequired.bind hf

/-- A single request. -/
theorem along_one (r : ServiceRequest) :
    (Asking.ask r .done : Inquiry r.Answer).Along [r] :=
  ⟨[], List.Sublist.refl _, fun _ => trivial⟩

theorem along_askGwServicesHead (d : GwyDeviceData) :
    (askGwServicesHead d).Along (part .discovery headActions) := by
  refine along_required (along_one _) fun _ => ?_
  iterate 4 refine along_request _ fun _ => ?_
  exact along_required (along_one _) fun _ => trivial

theorem along_askGwServicesGateway (d : GwyDeviceData) :
    (askGwServicesGateway d).Along (part .discovery gatewayActions) := by
  iterate 2 refine along_required (along_one _) fun _ => ?_
  iterate 6 refine along_request _ fun _ => ?_
  refine along_required (along_one _) fun _ => ?_
  iterate 3 refine along_request _ fun _ => ?_
  refine along_required (along_one _) fun _ => ?_
  iterate 5 refine along_request _ fun _ => ?_
  exact trivial

theorem along_askGwServices (cfg : Settings) (d : GwyDeviceData) :
    (askGwServices cfg d).Along (everyRequest .basicDevice) := by
  refine (along_askGwServicesHead d).bind fun d => ?_
  have htype : (askGwServicesByType d).Along
      (part .discovery gatewayActions ++ part .discovery xiActions) := by
    rw [askGwServicesByType]
    split
    · have hxi : (askGwServicesXi d).Along (part .discovery xiActions) :=
        along_request _ fun _ => trivial
      exact hxi.mono (List.sublist_append_right _ _)
    · exact (along_askGwServicesGateway d).mono (List.sublist_append_left _ _)
  rw [← List.append_nil (part _ gatewayActions ++ _)]
  refine htype.bind fun d => ?_
  have hreplace : (Asking.ofExcept (replaceUnlessServer cfg d) :
      Inquiry GwyDeviceData).Along [] := along_ofExcept _
  exact hreplace.bind fun _ => trivial

theorem along_askGwServicesIdentity (d : GwyDeviceData) :
    (askGwServicesIdentity d).Along (part .identity identityActions) := by
  iterate 15 refine along_request _ fun _ => ?_
  exact trivial

theorem along_askGwServicesMediaConfig (d : GwyDeviceData) :
    (askGwServicesMediaConfig d).Along (part .media mediaActions) :=
  along_request _ fun _ => trivial

theorem along_askGwServicesTimeConfig (d : GwyDeviceData) :
    (askGwServicesTimeConfig d).Along (part .time timeActions) := by
  iterate 5 refine along_request _ fun _ => ?_
  exact trivial

theorem along_askGwServicesGatewayConfig (d : GwyDeviceData) :
    (askGwServicesGatewayConfig d).Along (part .gwCfg gwCfgActions) := by
  iterate 10 refine along_request _ fun _ => ?_
  refine along_required (along_one _) fun _ => ?_
  refine along_request _ fun _ => ?_
  exact trivial

theorem along_askGwServicesQamConfig (cfg : Settings) (d : GwyDeviceData) :
    (askGwServicesQamConfig cfg d).Along (part .qamCfg qamActions) := by
  iterate 3 refine along_request _ fun _ => ?_
  exact along_ofExcept _

theorem along_requests (cfg : Settings) (a : Announcement) (cp : ControlPoint)
    (d : GwyDeviceData) :
    (requests cfg a cp d).Along (everyRequest cp) := by
  rw [← List.append_nil (everyRequest cp)]
  cases cp with
  | basicDevice => exact (along_askGwServices cfg d).bind fun _ => trivial
  | x1Renderer =>
      refine Asking.Along.bind ?_ fun _ => trivial
      refine (along_askGwServicesIdentity _).bind fun d => ?_
      rw [← List.append_nil (part .media mediaActions)]
      exact (along_askGwServicesMediaConfig d).bind fun _ => trivial
  | x1VideoGateway =>
      rw [everyRequest, List.append_assoc]
      refine Asking.Along.bind ?_ fun r =>
        (along_askGwServicesQamConfig cfg r.1).bind fun _ => trivial
      refine (along_askGwServicesIdentity _).bind fun d => ?_
      refine (along_askGwServicesMediaConfig d).bind fun d => ?_
      refine (along_askGwServicesTimeConfig d).bind fun d => ?_
      exact along_askGwServicesGatewayConfig d
  | x1BroadbandGateway =>
      refine Asking.Along.bind ?_ fun _ => trivial
      refine (along_askGwServicesIdentity _).bind fun d => ?_
      refine (along_askGwServicesTimeConfig d).bind fun d => ?_
      exact along_askGwServicesGatewayConfig d

end Order

/-- No request comes twice. -/
theorem nodup_everyRequest (cp : ControlPoint) : (everyRequest cp).Nodup := by
  cases cp <;> decide +kernel

/-! ## One device in one go -/

/-- A device that answers so. -/
def deviceProxy (a : Announcement) (o : ∀ r : ServiceRequest, r.Answer) :
    DeviceProxy where
  serialNumber := a.serialNumber
  udn := a.udn
  upc := a.upc
  hasService := a.hasService
  service s :=
    { string := fun action => o (.string s action)
      boolean := fun action => o (.boolean s action)
      int := fun action => o (.int s action) }

theorem answers_deviceProxy (a : Announcement)
    (o : ∀ r : ServiceRequest, r.Answer) : (deviceProxy a o).answers = o := by
  funext r
  cases r <;> rfl

/-- **The inquiry of a device that serves others** makes the record of one that
answers in one go, and whose answers are possible. -/
theorem served_eq_inquiry {b : DeviceBuild} {moments : ℕ → Moment}
    {S : Variable → XcalDevice.Value → Prop} {buffers : Buffers}
    (h : Keeps b moments S buffers) (cfg : Settings) (a : Announcement)
    (cp : ControlPoint) (d : GwyDeviceData) :
    ∃ p : DeviceProxy,
      (requests cfg a cp d).served (serve b moments) 0 buffers =
        inquiry cfg p cp d ∧
      ∀ r, Possible b S r (p.answers r) := by
  obtain ⟨o, ho, hpossible⟩ :=
    Asking.served_eq_answered (fun n t r => serve_keeps n r)
      (along_requests cfg a cp d) (nodup_everyRequest cp) 0 h
  refine ⟨deviceProxy a o, ?_, ?_⟩
  · rw [ho, ← answered_requests, answers_deviceProxy]
    rfl
  · rw [answers_deviceProxy]
    exact hpossible

/-! ## What is noted -/

/-- What a field of a record may hold. -/
inductive Datum where
  | string (s : CStr)
  | boolean (b : Bool)
  | int (n : ℤ)
deriving DecidableEq

/-- The value of a variable, as the daemon has it. -/
def datumOf : XcalDevice.Value → Datum
  | .string s => .string s
  | .boolean b => .boolean b
  | .int n => .int n.toInt

/-- The field an action is asked for. -/
def noted (d : GwyDeviceData) : Action → Datum
  | .getIsGateway => .boolean d.isgateway
  | .getAccountId => .string d.accountid
  | .getRecvDevType => .string d.recvdevtype
  | .getBuildVersion => .string d.buildversion
  | .getDeviceName => .string d.devicename
  | .getDeviceType => .string d.devicetype
  | .getBcastMacAddress => .string d.bcastmacaddress
  | .getBaseUrl => .string d.baseurl
  | .getBaseTrmUrl => .string d.basetrmurl
  | .getGatewayIP => .string d.gwyip
  | .getClientIP => .string d.clientip
  | .getGatewayIPv6 => .string d.gwyipv6
  | .getGatewayStbIP => .string d.gatewaystbip
  | .getIpv6Prefix => .string d.ipv6prefix
  | .getDnsConfig => .string d.dnsconfig
  | .getPlaybackUrl => .string d.playbackurl
  | .getSystemIds => .string d.systemids
  | .getTimeZone => .string d.dsgtimezone
  | .getHosts => .string d.etchosts
  | .getRequiresTRM => .boolean d.requirestrm
  | .getHostMacAddress => .string d.hostmacaddress
  | .getRawOffSet => .int d.rawoffset
  | .getDSTSavings => .int d.dstsavings
  | .getUsesDaylightTime => .boolean d.usesdaylighttime
  | .getDSTOffset => .int d.dstoffset
  | .getDataGatewayIPaddress => .string d.dataGatewayIPaddress
  | .getModelClass => .string d.modelclass
  | .getModelNumber => .string d.modelnumber
  | .getDeviceId => .string d.deviceid
  | .getHardwareRevision => .string d.hardwarerevision
  | .getSoftwareRevision => .string d.softwarerevision
  | .getManagementUrl => .string d.managementurl
  | .getMake => .string d.make
  | .getReceiverId => .string d.receiverid
  | .getIPSubNet => .string d.ipSubNet

/-- What a service answers. -/
def told (p : ServiceProxy) (action : Action) : Option Datum :=
  match action with
  | .getIsGateway | .getRequiresTRM | .getUsesDaylightTime =>
      (p.boolean action).map .boolean
  | .getRawOffSet | .getDSTSavings | .getDSTOffset =>
      (p.int action).map .int
  | _ => (p.string action).map .string

def Datum.mapString (f : CStr → CStr) : Datum → Datum
  | .string s => .string (f s)
  | x => x

/-- Without the white space around it, in the two fields where the inquiry
strips that. -/
def trimmed (action : Action) (x : Datum) : Datum :=
  if action ∈ [.getDeviceType, .getGatewayIP] then x.mapString CStr.strip
  else x

/-- With the address of the local host, in the URLs of an own gateway. -/
def localised (d : GwyDeviceData) (action : Action) (x : Datum) : Datum :=
  if d.isOwnGateway ∧ action ∈ [.getPlaybackUrl, .getBaseUrl, .getBaseTrmUrl]
  then x.mapString (withLocalHost d.gwyip)
  else x

/-- The record has taken over what the service answered to these actions, and
nothing else. -/
structure TakesOver (p : ServiceProxy) (actions : List Action)
    (d d' : GwyDeviceData) : Prop where
  noted : ∀ a, trimmed a (noted d' a) =
    trimmed a (if a ∈ actions then (told p a).getD (noted d a) else noted d a)
  own : d'.isOwnGateway = d.isOwnGateway

section TakesOver

variable {p : ServiceProxy} {d d' : GwyDeviceData}

theorem of_mandatory {β γ : Type} {o : Option β} {f : β → Except Stop γ} {c : γ}
    (h : mandatory o >>= f = .ok c) : ∃ b, o = some b ∧ f b = .ok c := by
  cases o with
  | none => cases h
  | some b => exact ⟨b, rfl, h⟩

theorem takesOver_head (h : gwServicesHead p d = .ok d') :
    TakesOver p headActions d d' := by
  obtain ⟨isgateway, hgateway, h⟩ := of_mandatory h
  obtain ⟨address, haddress, h⟩ := of_mandatory h
  obtain rfl := Except.ok.inj h
  refine ⟨fun a => ?_, rfl⟩
  cases a <;>
    simp [trimmed, Datum.mapString, noted, headActions, told, Option.getD_map,
      hgateway, haddress]

theorem takesOver_gateway (h : gwServicesGateway p d = .ok d') :
    TakesOver p gatewayActions d d' ∧ d'.devicetype = d.devicetype := by
  obtain ⟨baseurl, hbase, h⟩ := of_mandatory h
  obtain ⟨basetrmurl, htrm, h⟩ := of_mandatory h
  obtain ⟨playbackurl, hplayback, h⟩ := of_mandatory h
  obtain ⟨requirestrm, hrequires, h⟩ := of_mandatory h
  obtain rfl := Except.ok.inj h
  refine ⟨⟨fun a => ?_, rfl⟩, rfl⟩
  cases a <;>
    simp [trimmed, Datum.mapString, noted, gatewayActions, told,
      Option.getD_map, hbase, htrm, hplayback, hrequires]

theorem takesOver_xi (p : ServiceProxy) (d : GwyDeviceData) :
    TakesOver p xiActions d (gwServicesXi p d) := by
  refine ⟨fun a => ?_, rfl⟩
  cases a <;>
    simp [trimmed, Datum.mapString, noted, xiActions, told, gwServicesXi,
      Option.getD_map]

theorem takesOver_identity (p : ServiceProxy) (d : GwyDeviceData) :
    TakesOver p identityActions d (processGwServicesIdentity p d) := by
  refine ⟨fun a => ?_, rfl⟩
  cases a <;>
    simp [trimmed, Datum.mapString, noted, identityActions, told,
      processGwServicesIdentity, Option.getD_map]

theorem takesOver_media (p : ServiceProxy) (d : GwyDeviceData) :
    TakesOver p mediaActions d (processGwServicesMediaConfig p d) := by
  refine ⟨fun a => ?_, rfl⟩
  cases a <;>
    simp [trimmed, Datum.mapString, noted, mediaActions, told,
      processGwServicesMediaConfig, Option.getD_map]

theorem takesOver_time (p : ServiceProxy) (d : GwyDeviceData) :
    TakesOver p timeActions d (processGwServicesTimeConfig p d) := by
  refine ⟨fun a => ?_, rfl⟩
  cases a <;>
    simp [trimmed, Datum.mapString, noted, timeActions, told,
      processGwServicesTimeConfig, Option.getD_map]

theorem takesOver_gwCfg {isgateway : Bool}
    (h : p.boolean .getIsGateway = some isgateway) :
    TakesOver p gwCfgActions d (gatewayConfigData p isgateway d) := by
  refine ⟨fun a => ?_, rfl⟩
  cases a <;>
    simp [trimmed, Datum.mapString, noted, gwCfgActions, told,
      gatewayConfigData, Option.getD_map, h]

theorem takesOver_qam (p : ServiceProxy) (d : GwyDeviceData) :
    TakesOver p qamActions d
      { d with
        basetrmurl := (p.string .getBaseTrmUrl).getD d.basetrmurl
        systemids := (p.string .getSystemIds).getD d.systemids
        requirestrm := (p.boolean .getRequiresTRM).getD d.requirestrm } := by
  refine ⟨fun a => ?_, rfl⟩
  cases a <;>
    simp [trimmed, Datum.mapString, noted, qamActions, told, Option.getD_map]

end TakesOver

/-! ### All the services -/

/-- A record of type `XI`. -/
def isXi (d : GwyDeviceData) : Bool := d.devicetype.containsCase (.lit "XI")

/-- What a control point has asked for the record. -/
def asked (d : GwyDeviceData) : ControlPoint → List (Service × Action)
  | .basicDevice =>
      headActions.map (.discovery, ·) ++
        (if isXi d then xiActions else gatewayActions).map (.discovery, ·)
  | .x1Renderer =>
      identityActions.map (.identity, ·) ++ mediaActions.map (.media, ·)
  | .x1VideoGateway =>
      identityActions.map (.identity, ·) ++ mediaActions.map (.media, ·)
      ++ timeActions.map (.time, ·) ++ gwCfgActions.map (.gwCfg, ·)
      ++ qamActions.map (.qamCfg, ·)
  | .x1BroadbandGateway =>
      identityActions.map (.identity, ·) ++ timeActions.map (.time, ·)
      ++ gwCfgActions.map (.gwCfg, ·)

/-- The answers to these requests, as they go into the record. -/
def answersTo (p : DeviceProxy) (asked : List (Service × Action)) :
    List (ReadThrough.Read Action Datum) :=
  asked.map fun q => ⟨q.2, told (p.service q.1) q.2⟩

/-- The record is what the answers make of it. -/
structure Made (p : DeviceProxy) (asked : List (Service × Action))
    (d d' : GwyDeviceData) : Prop where
  noted : ∀ a, trimmed a (noted d' a) =
    trimmed a (ReadThrough.run (noted d) (answersTo p asked) a)
  own : d'.isOwnGateway = d.isOwnGateway

section Made

variable {p : DeviceProxy} {d d' d'' : GwyDeviceData}
  {reqs reqs' : List (Service × Action)}

theorem TakesOver.made {service : Service} {actions : List Action}
    (hactions : actions.Nodup)
    (h : TakesOver (p.service service) actions d d') :
    Made p (actions.map (service, ·)) d d' := by
  refine ⟨fun a => ?_, h.own⟩
  have hreads : answersTo p (actions.map (service, ·)) =
      actions.map fun a => ⟨a, told (p.service service) a⟩ := by
    simp [answersTo, Function.comp_def]
  rw [h.noted, hreads, ReadThrough.run_map_apply hactions]

theorem trimmed_run {f g : Action → Datum}
    (h : ∀ a, trimmed a (f a) = trimmed a (g a))
    (reads : List (ReadThrough.Read Action Datum)) (a : Action) :
    trimmed a (ReadThrough.run f reads a) =
      trimmed a (ReadThrough.run g reads a) := by
  induction reads generalizing f g with
  | nil => exact h a
  | cons r reads ih =>
      apply ih
      intro a
      rw [ReadThrough.fill_apply, ReadThrough.fill_apply]
      cases r.into a with
      | none => exact h a
      | some x => rfl

theorem Made.trans (h : Made p reqs d d') (h' : Made p reqs' d' d'') :
    Made p (reqs ++ reqs') d d'' := by
  refine ⟨fun a => ?_, h'.own.trans h.own⟩
  have happend : answersTo p (reqs ++ reqs') =
      answersTo p reqs ++ answersTo p reqs' := List.map_append
  rw [h'.noted, happend, ReadThrough.run_append]
  exact trimmed_run h.noted _ a

end Made

/-! ### The whole inquiry -/

section Inquiry

variable {cfg : Settings} {p : DeviceProxy} {cp : ControlPoint}
  {d d' : GwyDeviceData}

theorem localised_of_not_own (hown : d.isOwnGateway = false) (a : Action)
    (x : Datum) : localised d a x = x := by
  rw [localised, hown]
  simp

/-- No field is both stripped and rewritten. -/
theorem trimmed_localised (d : GwyDeviceData) {a : Action} {x y : Datum}
    (h : trimmed a x = trimmed a y) :
    trimmed a (localised d a x) = trimmed a (localised d a y) := by
  unfold localised
  split
  · next hurl =>
      have hnot : a ∉ [Action.getDeviceType, .getGatewayIP] := by
        rcases hurl with ⟨-, hmem⟩
        simp only [List.mem_cons, List.not_mem_nil, or_false] at hmem
        rcases hmem with rfl | rfl | rfl <;> decide
      unfold trimmed at h
      rw [if_neg hnot, if_neg hnot] at h
      rw [h]
  · exact h

theorem noted_replaceUnlessServer (hown : d.isOwnGateway = false)
    (h : replaceUnlessServer cfg d = .ok d') :
    (∀ a, trimmed a (noted d' a) = trimmed a (localised d' a (noted d a))) ∧
      d'.devicetype = d.devicetype := by
  rw [replaceUnlessServer, hown, Bool.or_false] at h
  split at h
  · obtain rfl := Except.ok.inj h
    refine ⟨fun a => ?_, rfl⟩
    rw [localised_of_not_own hown]
  · rw [replaceLocalDeviceIp_eq] at h
    split at h
    · split at h
      · cases h
      · obtain rfl := Except.ok.inj h
        refine ⟨fun a => ?_, rfl⟩
        cases a <;>
          simp [trimmed, localised, noted, asOwnGateway, Datum.mapString,
            GwyDeviceData.strip]
    · obtain rfl := Except.ok.inj h
      refine ⟨fun a => ?_, rfl⟩
      rw [localised_of_not_own (d := d.strip .gwyip) hown]
      cases a <;>
        simp [trimmed, noted, Datum.mapString, GwyDeviceData.strip]

/-- The requests of the basic device, up to the own address. -/
theorem made_basicDevice {d₁ d₂ : GwyDeviceData}
    (h₁ : gwServicesHead (p.service .discovery) d = .ok d₁)
    (h₂ : gwServicesByType (p.service .discovery) d₁ = .ok d₂)
    (htype : d'.devicetype = d₂.devicetype) :
    Made p (asked d' .basicDevice) d d₂ := by
  have hhead := (takesOver_head h₁).made (by decide)
  refine hhead.trans ?_
  rw [gwServicesByType] at h₂
  have hxi : d₂.devicetype = d₁.devicetype → isXi d' =
      d₁.devicetype.containsCase (.lit "XI") := fun h => by
    rw [isXi, htype, h]
  split at h₂
  · next hd₁ =>
      obtain rfl := Except.ok.inj h₂
      rw [hxi rfl, if_pos hd₁]
      exact (takesOver_xi _ d₁).made (by decide)
  · next hd₁ =>
      obtain ⟨htaken, hsame⟩ := takesOver_gateway h₂
      rw [hxi hsame, if_neg hd₁]
      exact htaken.made (by decide)

/-- The services of an X1 gateway up to its configuration. -/
theorem made_gatewayConfig {reqs : List (Service × Action)}
    {d₁ d₂ : GwyDeviceData} {effects : List Effect}
    (h : Made p reqs d d₁)
    (h₂ : processGwServicesGatewayConfig (p.service .gwCfg) d₁ =
      .ok (d₂, effects)) :
    Made p (reqs ++ gwCfgActions.map (.gwCfg, ·)) d d₂ := by
  obtain ⟨isgateway, hgateway, h₂⟩ := of_mandatory h₂
  obtain ⟨rfl, -⟩ := Prod.mk.inj (Except.ok.inj h₂)
  exact h.trans ((takesOver_gwCfg hgateway).made (by decide))

/-- **What an inquiry notes.** -/
theorem noted_inquiry (hown : d.isOwnGateway = false)
    {effects : List Effect} (h : inquiry cfg p cp d = .ok (d', effects))
    (a : Action) :
    trimmed a (noted d' a) = trimmed a (localised d' a
      (ReadThrough.run (noted d) (answersTo p (asked d' cp)) a)) := by
  -- The marks of the record are not asked for.
  have hidentity : Made p (identityActions.map (.identity, ·)) d
      (processGwServicesIdentity (p.service .identity)
        { d with sproxyI := p.hasService .identity }) := by
    have hmade := (takesOver_identity (p.service .identity)
      { d with sproxyI := p.hasService .identity }).made (by decide)
    exact ⟨hmade.noted, hmade.own⟩
  cases cp with
  | basicDevice =>
      obtain ⟨d₄, hdata, hd'⟩ := except_bind_eq_ok.mp h
      obtain ⟨rfl, -⟩ := Prod.mk.inj (Except.ok.inj hd')
      obtain ⟨d₁, h₁, hdata⟩ := except_bind_eq_ok.mp hdata
      obtain ⟨d₂, h₂, hdata⟩ := except_bind_eq_ok.mp hdata
      obtain ⟨d₃, h₃, hdata⟩ := except_bind_eq_ok.mp hdata
      obtain rfl := Except.ok.inj hdata
      show trimmed a (noted d₃ a) = trimmed a (localised d₃ a
        (ReadThrough.run (noted d) (answersTo p (asked d₃ .basicDevice)) a))
      have hown₂ := (made_basicDevice h₁ h₂ rfl).own.trans hown
      obtain ⟨hnoted, htype⟩ := noted_replaceUnlessServer hown₂ h₃
      have hmade := made_basicDevice h₁ h₂ htype
      rw [hnoted]
      exact trimmed_localised d₃ (hmade.noted a)
  | x1Renderer =>
      obtain ⟨rfl, -⟩ := Prod.mk.inj (Except.ok.inj h)
      have hmade := hidentity.trans
        ((takesOver_media (p.service .media) _).made (by decide))
      refine (hmade.noted a).trans ?_
      rw [localised_of_not_own]
      · rfl
      · exact hmade.own.trans hown
  | x1VideoGateway =>
      obtain ⟨⟨d₁, effects'⟩, h₁, h⟩ := except_bind_eq_ok.mp h
      obtain ⟨d₂, h₂, h⟩ := except_bind_eq_ok.mp h
      obtain ⟨rfl, -⟩ := Prod.mk.inj (Except.ok.inj h)
      have hmade := made_gatewayConfig ((hidentity.trans
        ((takesOver_media (p.service .media) _).made (by decide))).trans
        ((takesOver_time (p.service .time) _).made (by decide))) h₁
      have hmade := hmade.trans
        ((takesOver_qam (p.service .qamCfg) d₁).made (by decide))
      obtain ⟨hnoted, -⟩ :=
        noted_replaceUnlessServer (hmade.own.trans hown) h₂
      show trimmed a (noted d₂ a) = _
      rw [hnoted]
      exact trimmed_localised d₂ (hmade.noted a)
  | x1BroadbandGateway =>
      obtain ⟨⟨d₁, effects'⟩, h₁, h⟩ := except_bind_eq_ok.mp h
      obtain ⟨rfl, -⟩ := Prod.mk.inj (Except.ok.inj h)
      have hmade := made_gatewayConfig (hidentity.trans
        ((takesOver_time (p.service .time) _).made (by decide))) h₁
      refine (hmade.noted a).trans ?_
      rw [localised_of_not_own]
      · rfl
      · exact hmade.own.trans hown

/-! ### Mandatory data -/

theorem ok_ne_refused {β : Type} (b : β) :
    (.ok b : Except Stop β) ≠ .error .refused := by
  intro h
  cases h

theorem bind_ne_refused {β γ : Type} {x : Except Stop β} {f : β → Except Stop γ}
    (hx : x ≠ .error .refused) (hf : ∀ c, f c ≠ .error .refused) :
    x >>= f ≠ .error .refused := by
  cases x with
  | ok c => exact hf c
  | error e =>
      intro h
      obtain rfl := Except.error.inj h
      exact hx rfl

theorem mandatory_ne_refused {β : Type} {o : Option β} (h : o.isSome) :
    mandatory o ≠ .error .refused := by
  cases o with
  | none => cases h
  | some b => exact ok_ne_refused _

/-- The requests whose failure ends an inquiry. -/
def mandatoryRequests : ControlPoint → List (Service × Action)
  | .basicDevice =>
      [.getIsGateway, .getBcastMacAddress, .getBaseUrl, .getBaseTrmUrl,
        .getPlaybackUrl, .getRequiresTRM].map (.discovery, ·)
  | .x1Renderer => []
  | .x1VideoGateway | .x1BroadbandGateway => [(.gwCfg, .getIsGateway)]

theorem gwServicesData_ne_refused (h : ∀ q ∈ mandatoryRequests .basicDevice,
      (told (p.service q.1) q.2).isSome) (d : GwyDeviceData) :
    gwServicesData cfg (p.service .discovery) d ≠ .error .refused := by
  obtain ⟨hgw, hmac, hbase, htrm, hplay, hreq⟩ :
      ((p.service .discovery).boolean .getIsGateway).isSome ∧
      ((p.service .discovery).string .getBcastMacAddress).isSome ∧
      ((p.service .discovery).string .getBaseUrl).isSome ∧
      ((p.service .discovery).string .getBaseTrmUrl).isSome ∧
      ((p.service .discovery).string .getPlaybackUrl).isSome ∧
      ((p.service .discovery).boolean .getRequiresTRM).isSome := by
    simpa [mandatoryRequests, told] using h
  refine bind_ne_refused ?_ fun d₁ => bind_ne_refused ?_ fun d₂ => ?_
  · obtain ⟨d₁, hd₁, -⟩ := (gwServicesHead_spec _ d).2 ⟨hgw, hmac⟩
    rw [hd₁]
    exact ok_ne_refused _
  · rw [gwServicesByType]
    split
    · exact ok_ne_refused _
    · obtain ⟨d₂, hd₂, -⟩ :=
        (gwServicesGateway_spec _ d₁).2 ⟨hbase, htrm, hplay, hreq⟩
      rw [hd₂]
      exact ok_ne_refused _
  · exact bind_ne_refused (replaceUnlessServer_ne_refused cfg d₂)
      fun _ => ok_ne_refused _

/-- **No inquiry is refused** that has all mandatory answers. -/
theorem inquiry_ne_refused (h : ∀ q ∈ mandatoryRequests cp,
      (told (p.service q.1) q.2).isSome) (d : GwyDeviceData) :
    inquiry cfg p cp d ≠ .error .refused := by
  have hgateway : ((p.service .gwCfg).boolean .getIsGateway).isSome →
      ∀ d, processGwServicesGatewayConfig (p.service .gwCfg) d ≠
        .error .refused := fun hgw d =>
    bind_ne_refused (mandatory_ne_refused hgw) fun _ => ok_ne_refused _
  cases cp with
  | basicDevice =>
      exact bind_ne_refused (gwServicesData_ne_refused h d)
        fun _ => ok_ne_refused _
  | x1Renderer => exact ok_ne_refused _
  | x1VideoGateway =>
      refine bind_ne_refused (hgateway ?_ _) fun r => ?_
      · simpa [mandatoryRequests, told] using h
      · exact bind_ne_refused (replaceUnlessServer_ne_refused cfg _)
          fun _ => ok_ne_refused _
  | x1BroadbandGateway =>
      refine bind_ne_refused (hgateway ?_ _) fun _ => ok_ne_refused _
      simpa [mandatoryRequests, told] using h

end Inquiry

/-! ## A device and its daemon -/

section Possible

variable {b : DeviceBuild} {S : Variable → XcalDevice.Value → Prop}
  {p : DeviceProxy} {cp : ControlPoint}

def requestKind : ServiceRequest → Kind
  | .string _ _ => .string
  | .boolean _ _ => .boolean
  | .int _ _ => .int

/-- Both sides agree on the types. -/
theorem requestKind_request (service : Service) (action : Action) :
    requestKind (request service action) =
      variableKind (servedVariable action) := by
  cases action <;> rfl

theorem requestAction_request (service : Service) (action : Action) :
    requestAction (request service action) = (service, action) := by
  cases action <;> rfl

/-- An answer as it goes into the record. -/
def asDatum : ∀ r : ServiceRequest, r.Answer → Option Datum
  | .string _ _, answer => answer.map .string
  | .boolean _ _, answer => answer.map .boolean
  | .int _ _, answer => answer.map .int

theorem told_eq_asDatum (p : DeviceProxy) (service : Service)
    (action : Action) :
    told (p.service service) action =
      asDatum (request service action)
        (p.answers (request service action)) := by
  cases action <;> rfl

theorem asDatum_received {r : ServiceRequest} {w : XcalDevice.Value}
    (h : valueKind w = requestKind r) :
    asDatum r (received w r) = some (datumOf w) := by
  cases r <;> cases w <;> first | rfl | cases h

theorem asDatum_notConnected (r : ServiceRequest) :
    asDatum r (notConnected r) = none := by
  cases r <;> rfl

theorem told_of_connected (hp : ∀ r, Possible b S r (p.answers r))
    {service : Service} {action : Action}
    (h : action ∈ b.connected service) :
    ∃ w, told (p.service service) action = some (datumOf w) ∧
      ∀ v, S (servedVariable action) v → w = v := by
  have hpossible := hp (request service action)
  unfold Possible at hpossible
  rw [requestAction_request] at hpossible
  obtain ⟨w, hkind, hanswer, hw⟩ := (if_pos h).mp hpossible
  refine ⟨w, ?_, hw⟩
  rw [told_eq_asDatum, hanswer]
  exact asDatum_received (hkind.trans (requestKind_request _ _).symm)

theorem told_of_not_connected (hp : ∀ r, Possible b S r (p.answers r))
    {service : Service} {action : Action}
    (h : action ∉ b.connected service) :
    told (p.service service) action = none := by
  have hpossible := hp (request service action)
  unfold Possible at hpossible
  rw [requestAction_request] at hpossible
  rw [told_eq_asDatum, (if_neg h).mp hpossible]
  exact asDatum_notConnected _

/-- All mandatory requests are connected where they are asked. -/
theorem mandatoryRequests_connected (h : cp ∈ b.announced) :
    ∀ q ∈ mandatoryRequests cp, q.2 ∈ b.connected q.1 := by
  obtain ⟨broadband, client, rfcEnabled, created⟩ := b
  revert h
  cases cp <;> cases broadband <;> cases client <;> cases rfcEnabled <;>
    cases created <;> decide

/-- What goes into the field of an action. -/
theorem mem_answersTo {reqs : List (Service × Action)} {action : Action}
    {x : Datum} {r : ReadThrough.Read Action Datum}
    (hr : r ∈ answersTo p reqs) (hx : r.into action = some x) :
    ∃ service, (service, action) ∈ reqs ∧
      told (p.service service) action = some x := by
  obtain ⟨⟨service, action'⟩, hq, rfl⟩ := List.mem_map.mp hr
  obtain ⟨rfl, htold⟩ := Option.ite_none_right_eq_some.mp hx
  exact ⟨service, hq, htold⟩

/-- A steady variable, asked for where the action is connected. -/
theorem run_answersTo_steady (hp : ∀ r, Possible b S r (p.answers r))
    {reqs : List (Service × Action)} {service : Service} {action : Action}
    {v : XcalDevice.Value} (hv : S (servedVariable action) v)
    (hasked : (service, action) ∈ reqs)
    (hconnected : action ∈ b.connected service) (cells : Action → Datum) :
    ReadThrough.run cells (answersTo p reqs) action = datumOf v := by
  obtain ⟨w, hw, hsame⟩ := told_of_connected hp hconnected
  obtain rfl := hsame v hv
  have hread : (⟨action, told (p.service service) action⟩ :
      ReadThrough.Read Action Datum) ∈ answersTo p reqs :=
    List.mem_map.mpr ⟨_, hasked, rfl⟩
  refine ReadThrough.run_learns hread ((if_pos rfl).trans hw) ?_
  intro r hr x hx
  obtain ⟨service', -, hx⟩ := mem_answersTo hr hx
  by_cases hc : action ∈ b.connected service'
  · obtain ⟨w', hw', hsame'⟩ := told_of_connected hp hc
    obtain rfl := hsame' w hv
    exact Option.some.inj (hx.symm.trans hw')
  · cases (told_of_not_connected hp hc).symm.trans hx

/-- An action that is connected nowhere it is asked for. -/
theorem run_answersTo_unconnected (hp : ∀ r, Possible b S r (p.answers r))
    {reqs : List (Service × Action)} {action : Action}
    (hnone : ∀ service, (service, action) ∈ reqs →
      action ∉ b.connected service) (cells : Action → Datum) :
    ReadThrough.run cells (answersTo p reqs) action = cells action := by
  refine ReadThrough.run_keeps rfl fun r hr x hx => ?_
  obtain ⟨service, hasked, hx⟩ := mem_answersTo hr hx
  cases (told_of_not_connected hp (hnone service hasked)).symm.trans hx

end Possible

/-- The video library meets its declarations. -/
theorem typed_library (lib : VideoLibrary) : Typed lib.library := by
  have hcopied : ∀ {dmax : ℕ} {str : CStr} {v : XcalDevice.Value},
      copied dmax str = some v → valueKind v = .string := by
    rintro dmax str v h
    obtain rfl := Option.some.inj h
    rfl
  have hunless : ∀ {dmax : ℕ} {str : CStr} {v : XcalDevice.Value},
      copiedUnlessEmpty dmax str = some v → valueKind v = .string := by
    intro dmax str v h
    exact hcopied (Option.ite_none_left_eq_some.mp h).2
  have hbind : ∀ {dmax : ℕ} {found : Option CStr} {v : XcalDevice.Value},
      found.bind (copied dmax) = some v → valueKind v = .string := by
    intro dmax found v h
    obtain ⟨str, -, h⟩ := Option.bind_eq_some_iff.mp h
    exact hcopied h
  intro g v hv
  cases g with
  | getBaseUrl | getIpv6Prefix =>
      exact hcopied (Option.ite_none_right_eq_some.mp hv).2
  | getGatewayIpv6 | getGatewayStbIp =>
      exact hunless (Option.ite_none_left_eq_some.mp hv).2
  | getHostMacAddress =>
      exact hbind (Option.ite_none_left_eq_some.mp hv).2
  | getSystemsIds =>
      obtain ⟨-, hv⟩ := Option.ite_none_left_eq_some.mp hv
      revert hv
      cases updatesystemids lib.idConfig lib.xcal.ids lib.xcal.systemids with
      | mk done systemids =>
          cases done with
          | false =>
              intro h
              cases h
          | true => exact hcopied
  | getIpSubnet => exact hcopied hv
  | getBcastMacAddress | getDnsConfig | getRouteDataGateway | getDeviceName
  | getHosts | getAccountId => exact hbind hv
  | getRawOffSet | getDstOffset | getDstSavings | getUsesDayLightTime
  | getIsGateway | getRequiresTRM =>
      obtain rfl := Option.some.inj hv
      rfl
  | _ => exact hunless hv

/-- A gateway of the video library, with what it finds at the start. -/
def gatewayBuild : DeviceBuild where
  broadband := false
  clientXcalServer := false
  rfcEnabled := true
  contextCreated := true

/-- Somebody else asks for the time zone all the time, and after two requests
the gateway is without its address. -/
def losesAddress (n : ℕ) : Moment :=
  let box := if n < 2 then easternBox else { easternBox with gwyip := .empty }
  { others := [(easternBox.library, .query .timeZone)]
    lib := box.library
    typed_others := fun q hq => by
      rw [List.mem_singleton.mp hq]
      exact typed_library easternBox
    typed := typed_library box }

/-- Such a gateway announces itself, with all of its services. -/
def gatewayAnnouncement : Announcement where
  serialNumber := some (.lit "G1")
  udn := some (.lit "uuid:1")
  upc := none
  hasService _ := true

end Xupnp.System
