import Xupnp.Discovery.Requests
import Xupnp.XcalDevice.Requests

/-!
# An xcal-device that is asked

The requests of the daemon at their other end: which actions `main` connects
for which service, and how they are answered one by one while others are served
in between and the library changes. `serve_keeps` says which answers are
possible.
-/

namespace Xupnp.System

open Xupnp.Library Xupnp.XcalDevice
open Xupnp.Discovery hiding Variable

/-! ## The device -/

/-- The build options of an `xcal-device`, and what its `main` has found. -/
structure DeviceBuild where
  broadband : Bool
  clientXcalServer : Bool
  /-- `rfc_enabled`, which `main` clears where there are no certificates. -/
  rfcEnabled : Bool
  contextCreated : Bool

/-- The variable an action is about. -/
def servedVariable : Action → Variable
  | .getIsGateway => .isGateway
  | .getAccountId => .accountId
  | .getRecvDevType => .recvDevType
  | .getBuildVersion => .buildVersion
  | .getDeviceName => .deviceName
  | .getDeviceType => .deviceType
  | .getBcastMacAddress => .bcastMacAddress
  | .getBaseUrl => .url
  | .getBaseTrmUrl => .trmUrl
  | .getGatewayIP => .gatewayIP
  | .getClientIP => .clientIP
  | .getGatewayIPv6 => .gatewayIPv6
  | .getGatewayStbIP => .gatewayStbIP
  | .getIpv6Prefix => .ipv6Prefix
  | .getDnsConfig => .dnsConfig
  | .getPlaybackUrl => .playbackUrl
  | .getSystemIds => .systemIds
  | .getTimeZone => .timeZone
  | .getHosts => .hosts
  | .getRequiresTRM => .requiresTRM
  | .getHostMacAddress => .hostMacAddress
  | .getRawOffSet => .rawOffSet
  | .getDSTSavings => .dstSavings
  | .getUsesDaylightTime => .usesDaylightTime
  | .getDSTOffset => .dstOffset
  | .getDataGatewayIPaddress => .dataGatewayIPaddress
  | .getModelClass => .modelClass
  | .getModelNumber => .modelNumber
  | .getDeviceId => .deviceId
  | .getHardwareRevision => .hardwareRevision
  | .getSoftwareRevision => .softwareRevision
  | .getManagementUrl => .managementURL
  | .getMake => .make
  | .getReceiverId => .receiverId
  | .getIPSubNet => .ipSubNet

/-! ### What is connected -/

/-- The actions `main` connects for the `DiscoverFriendlies` service. -/
def discoverFriendlies (broadband : Bool) : List Action :=
  [.getBaseUrl, .getBaseTrmUrl, .getGatewayIP, .getGatewayIPv6]
  ++ (if broadband then [] else [.getIpv6Prefix, .getDnsConfig])
  ++ [.getGatewayStbIP, .getSystemIds, .getTimeZone, .getHosts,
    .getRequiresTRM, .getHostMacAddress, .getRawOffSet, .getDSTOffset,
    .getDSTSavings, .getUsesDaylightTime, .getPlaybackUrl,
    .getDataGatewayIPaddress, .getDeviceName, .getIsGateway,
    .getBcastMacAddress, .getRecvDevType, .getDeviceType, .getBuildVersion,
    .getClientIP]

def registerIdentityConfigurationService : List Action :=
  [.getRecvDevType, .getDeviceType, .getBuildVersion, .getDeviceName,
    .getModelClass, .getModelNumber, .getDeviceId, .getHardwareRevision,
    .getSoftwareRevision, .getManagementUrl, .getMake, .getReceiverId,
    .getAccountId, .getClientIP, .getBcastMacAddress]

def registerMediaConfigurationService : List Action :=
  [.getBaseUrl, .getPlaybackUrl]

def registerGatewayConfigurationService (broadband : Bool) : List Action :=
  [.getGatewayIP, .getGatewayIPv6]
  ++ (if broadband then [] else [.getIpv6Prefix, .getDnsConfig])
  ++ [.getGatewayStbIP, .getHosts, .getHostMacAddress,
    .getDataGatewayIPaddress, .getIsGateway, .getIPSubNet]

def registerQamConfigurationService : List Action :=
  [.getBaseTrmUrl, .getSystemIds, .getRequiresTRM]

def registerTimeConfigurationService : List Action :=
  [.getTimeZone, .getRawOffSet, .getDSTOffset, .getDSTSavings,
    .getUsesDaylightTime]

namespace DeviceBuild

/-- The services of the second device. -/
def registered (b : DeviceBuild) : Service → List Action
  | .discovery => []
  | .identity => registerIdentityConfigurationService
  | .media =>
      if b.broadband then [] else registerMediaConfigurationService
  | .time =>
      if b.broadband || !b.clientXcalServer then
        registerTimeConfigurationService
      else []
  | .gwCfg =>
      if b.broadband || !b.clientXcalServer then
        registerGatewayConfigurationService b.broadband
      else []
  | .qamCfg =>
      if b.broadband || b.clientXcalServer then []
      else registerQamConfigurationService

/-- What `action-invoked` is connected for. -/
def connected (b : DeviceBuild) : Service → List Action
  | .discovery => discoverFriendlies b.broadband
  | service => if b.rfcEnabled then b.registered service else []

/-- The device types the program announces. -/
def announced (b : DeviceBuild) : List ControlPoint :=
  .basicDevice ::
    if b.rfcEnabled && b.contextCreated then
      [if b.broadband then .x1BroadbandGateway
        else if b.clientXcalServer then .x1Renderer
        else .x1VideoGateway]
    else []

end DeviceBuild

/-! ### The types of the values -/

/-- The types the service actions transport. -/
inductive Kind where
  | string
  | boolean
  | int
deriving DecidableEq

def valueKind : XcalDevice.Value → Kind
  | .string _ => .string
  | .boolean _ => .boolean
  | .int _ => .int

/-- The type of the buffer of a variable. -/
def variableKind (X : Variable) : Kind := valueKind X.initial

/-- The type a getter is declared with. -/
def getterKind : Getter → Kind
  | .getRawOffSet | .getDstOffset | .getDstSavings => .int
  | .getUsesDayLightTime | .getIsGateway | .getRequiresTRM => .boolean
  | _ => .string

/-- The getters write what they are declared to write. -/
def Typed (lib : XdeviceLibrary) : Prop :=
  ∀ g, ∀ v ∈ lib.get g, valueKind v = getterKind g

/-- The buffers hold what they are declared to hold. -/
def TypedBuffers (buffers : Buffers) : Prop :=
  ∀ X, valueKind (buffers X) = variableKind X

/-! ### Serving -/

/-- The time until a request of the daemon: what others request before it, and
the library when it comes. -/
structure Moment where
  others : List (XdeviceLibrary × XcalDevice.Request)
  lib : XdeviceLibrary
  typed_others : ∀ q ∈ others, Typed q.1
  typed : Typed lib

/-- What the others read. -/
def Moment.reads (m : Moment) (rfcEnabled : Bool) :
    List (ReadThrough.Read Variable XcalDevice.Value) :=
  m.others.map fun q => (q.2.callback rfcEnabled).read q.1

def requestAction : ServiceRequest → Service × Action
  | .string service action | .boolean service action | .int service action =>
      (service, action)

/-- A value as it arrives with the daemon. -/
def received (v : XcalDevice.Value) : ∀ r : ServiceRequest, r.Answer
  | .string _ _ => match v with | .string s => some s | _ => none
  | .boolean _ _ => match v with | .boolean b => some b | _ => none
  | .int _ _ => match v with | .int n => some n.toInt | _ => none

/-- An action that is not connected is answered with an error. -/
def notConnected : ∀ r : ServiceRequest, r.Answer
  | .string _ _ => none
  | .boolean _ _ => none
  | .int _ _ => none

/-- The answer to the `n`-th request, and the buffers afterwards. -/
def serve (b : DeviceBuild) (moments : ℕ → Moment) (n : ℕ) (buffers : Buffers)
    (r : ServiceRequest) : r.Answer × Buffers :=
  let buffers := ReadThrough.run buffers ((moments n).reads b.rfcEnabled)
  let (service, action) := requestAction r
  if action ∈ b.connected service then
    let callback := actionInvoked b.rfcEnabled (servedVariable action)
    (received (callback.answer (moments n).lib buffers) r,
      ReadThrough.fill buffers (callback.read (moments n).lib))
  else (notConnected r, buffers)

/-- Whenever the daemon might ask for the variable, it is answered `v`: the
library has `v`, or the buffer has it and nothing else is fetched into it. -/
def Steady (b : DeviceBuild) (moments : ℕ → Moment) (buffers : Buffers)
    (X : Variable) (v : XcalDevice.Value) : Prop :=
  (∀ n, (actionInvoked b.rfcEnabled X).instead (moments n).lib = none) ∧
  ((∀ n, (actionInvoked b.rfcEnabled X).fetched (moments n).lib = some v) ∨
    buffers X = v ∧ ∀ n,
      (∀ w ∈ (actionInvoked b.rfcEnabled X).fetched (moments n).lib, w = v) ∧
      ∀ r ∈ (moments n).reads b.rfcEnabled, ∀ w ∈ r.into X, w = v)

/-! ### The answers that are possible -/

section Answers

variable {b : DeviceBuild} {moments : ℕ → Moment} {buffers : Buffers}
  {rfcEnabled : Bool} {lib : XdeviceLibrary} {X : Variable}

/-- The callbacks of a variable call getters of its type. -/
theorem kind_getter {cb : Callback}
    (hcb : cb = actionInvoked rfcEnabled X ∨ cb = queryVariable X) {g : Getter}
    (hg : cb.getter lib = some g) : getterKind g = variableKind X := by
  have hdata : getterKind (if rfcEnabled then Getter.getGatewayStbIp
      else .getRouteDataGateway) = .string := by cases rfcEnabled <;> rfl
  rcases hcb with rfl | rfl
  · cases X with
    | playbackUrl =>
        obtain ⟨-, hg⟩ := Option.ite_none_right_eq_some.mp hg
        obtain rfl := Option.some.inj hg
        rfl
    | timeZone =>
        obtain ⟨-, hg⟩ := Option.ite_none_right_eq_some.mp hg
        obtain rfl := Option.some.inj hg
        rfl
    | dataGatewayIPaddress =>
        obtain rfl := Option.some.inj hg
        exact hdata
    | _ => cases hg <;> rfl
  · cases X with
    | timeZone =>
        obtain ⟨-, hg⟩ := Option.ite_none_left_eq_some.mp hg
        obtain rfl := Option.some.inj hg
        rfl
    | _ => cases hg <;> rfl

theorem kind_fetched (hlib : Typed lib) {cb : Callback}
    (hcb : cb = actionInvoked rfcEnabled X ∨ cb = queryVariable X)
    {v : XcalDevice.Value} (hv : cb.fetched lib = some v) :
    valueKind v = variableKind X := by
  obtain ⟨g, hg, hv⟩ := Option.bind_eq_some_iff.mp hv
  rw [hlib g v hv, kind_getter hcb hg]

theorem typedBuffers_fill (rfcEnabled : Bool) (hlib : Typed lib)
    {cb : Callback}
    (hcb : cb = actionInvoked rfcEnabled X ∨ cb = queryVariable X)
    (hbuffers : TypedBuffers buffers) :
    TypedBuffers (ReadThrough.fill buffers (cb.read lib)) := by
  have hcell : cb.buffer = X := by
    rcases hcb with rfl | rfl
    · exact buffer_actionInvoked rfcEnabled X
    · exact buffer_queryVariable X
  intro Y
  rw [ReadThrough.fill_apply]
  cases hinto : (cb.read lib).into Y with
  | none => exact hbuffers Y
  | some v =>
      obtain ⟨rfl, hv⟩ := Option.ite_none_right_eq_some.mp hinto
      show valueKind v = variableKind cb.buffer
      rw [hcell]
      exact kind_fetched hlib hcb (show cb.fetched lib = some v from hv)

theorem typedBuffers_reads (rfcEnabled : Bool) (m : Moment)
    (hbuffers : TypedBuffers buffers) :
    TypedBuffers (ReadThrough.run buffers (m.reads rfcEnabled)) := by
  obtain ⟨others, _, hothers, _⟩ := m
  show TypedBuffers (ReadThrough.run buffers (others.map _))
  induction others generalizing buffers with
  | nil => exact hbuffers
  | cons q others ih =>
      obtain ⟨hq, hrest⟩ := List.forall_mem_cons.mp hothers
      apply ih _ hrest
      obtain ⟨lib, request⟩ := q
      cases request with
      | action Y =>
          exact typedBuffers_fill rfcEnabled hq (.inl rfl) hbuffers
      | query Y =>
          exact typedBuffers_fill rfcEnabled hq (.inr rfl) hbuffers

theorem kind_instead {v : XcalDevice.Value}
    (hv : (actionInvoked rfcEnabled X).instead lib = some v) :
    valueKind v = variableKind X := by
  cases X with
  | playbackUrl =>
      obtain ⟨-, hv⟩ := Option.ite_none_left_eq_some.mp hv
      obtain rfl := Option.some.inj hv
      rfl
  | _ => cases hv

theorem kind_answer (hlib : Typed lib) (hbuffers : TypedBuffers buffers) :
    valueKind ((actionInvoked rfcEnabled X).answer lib buffers) =
      variableKind X := by
  cases hinstead : (actionInvoked rfcEnabled X).instead lib with
  | some v =>
      rw [Callback.answer, hinstead]
      exact kind_instead hinstead
  | none =>
      rw [answer_of_instead_none (buffer_actionInvoked rfcEnabled X) hinstead]
      cases hfetched : (actionInvoked rfcEnabled X).fetched lib with
      | none => exact hbuffers X
      | some v => exact kind_fetched hlib (.inl rfl) hfetched

/-- What may be answered, where `S` says which variables are steady. -/
def Possible (b : DeviceBuild) (S : Variable → XcalDevice.Value → Prop)
    (r : ServiceRequest) (answer : r.Answer) : Prop :=
  let (service, action) := requestAction r
  if action ∈ b.connected service then
    ∃ w, valueKind w = variableKind (servedVariable action) ∧
      answer = received w r ∧ ∀ v, S (servedVariable action) v → w = v
  else answer = notConnected r

/-- The buffers while the variables of `S` are steady. -/
structure Keeps (b : DeviceBuild) (moments : ℕ → Moment)
    (S : Variable → XcalDevice.Value → Prop) (buffers : Buffers) : Prop where
  typed : TypedBuffers buffers
  steady : ∀ X v, S X v → Steady b moments buffers X v

section Steady

variable {v : XcalDevice.Value} (n : ℕ)

/-- The requests of others. -/
theorem steady_reads (h : Steady b moments buffers X v) :
    Steady b moments
      (ReadThrough.run buffers ((moments n).reads b.rfcEnabled)) X v := by
  obtain ⟨hinstead, hfetched | ⟨hbuffer, hnothing⟩⟩ := h
  · exact ⟨hinstead, .inl hfetched⟩
  · exact ⟨hinstead, .inr
      ⟨ReadThrough.run_keeps hbuffer (hnothing n).2, hnothing⟩⟩

/-- The request of the daemon. -/
theorem steady_fill (Y : Variable) (h : Steady b moments buffers X v) :
    Steady b moments (ReadThrough.fill buffers
      ((actionInvoked b.rfcEnabled Y).read (moments n).lib)) X v := by
  obtain ⟨hinstead, hfetched | ⟨hbuffer, hnothing⟩⟩ := h
  · exact ⟨hinstead, .inl hfetched⟩
  · refine ⟨hinstead, .inr ⟨?_, hnothing⟩⟩
    rw [ReadThrough.fill_apply, hbuffer]
    cases hinto : ((actionInvoked b.rfcEnabled Y).read (moments n).lib).into X
      with
    | none => rfl
    | some w =>
        obtain ⟨hX, hw⟩ := Option.ite_none_right_eq_some.mp hinto
        obtain rfl : Y = X :=
          (buffer_actionInvoked b.rfcEnabled Y).symm.trans hX
        exact (hnothing n).1 w hw

theorem answer_steady (h : Steady b moments buffers X v) :
    (actionInvoked b.rfcEnabled X).answer (moments n).lib buffers = v := by
  obtain ⟨hinstead, hcase⟩ := h
  rw [answer_of_instead_none (buffer_actionInvoked b.rfcEnabled X)
    (hinstead n)]
  rcases hcase with hfetched | ⟨hbuffer, hnothing⟩
  · rw [hfetched n]
    rfl
  · rw [← hbuffer, ReadThrough.getD_eq_iff, hbuffer]
    exact (hnothing n).1

end Steady

/-- **One request.** -/
theorem serve_keeps {S : Variable → XcalDevice.Value → Prop} (n : ℕ)
    (r : ServiceRequest) (h : Keeps b moments S buffers) :
    Possible b S r (serve b moments n buffers r).1 ∧
      Keeps b moments S (serve b moments n buffers r).2 := by
  have htyped := typedBuffers_reads b.rfcEnabled (moments n) h.typed
  have hsteady := fun X v hS => steady_reads n (h.steady X v hS)
  unfold serve Possible
  dsimp only
  split
  · refine ⟨⟨_, kind_answer (moments n).typed htyped, rfl, fun v hS => ?_⟩, ?_⟩
    · exact answer_steady n (hsteady _ v hS)
    · exact ⟨typedBuffers_fill b.rfcEnabled (moments n).typed (.inl rfl) htyped,
        fun X v hS => steady_fill n _ (hsteady X v hS)⟩
  · exact ⟨rfl, htyped, hsteady⟩

end Answers

end Xupnp.System
