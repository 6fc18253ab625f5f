import Xupnp.XcalDevice.AccountId
import Xupnp.XcalDevice.SystemIds
import Xupnp.XcalDevice.TimeZone

/-!
# The events of the system manager (`_sysEventHandler`)

The system manager reports whether the box can tune, its serial number, the
four system ids and the time zone. The handler keeps the globals up to date and
tells the subscribers of the evented variables what it thinks has changed. Both
copies of the handler do the same, but for the time zone.
-/

namespace Xupnp.XcalDevice

open Xupnp.Library

/-! ## State -/

/-- `IARM_Bus_SYSMgr_SystemState_t`, as far as the handler looks at it. -/
inductive StateId where
  | tuneReady
  | stbSerialNo
  | channelmap
  | dacId
  | plantId
  | vodAd
  | timeZone
  | dstOffset
  | other
deriving DecidableEq

/-- An event, and what the diagnostics file can be read as at that time. -/
structure SysEvent where
  stateId : StateId
  data : SystemState
  diagFile : Option CStr
deriving DecidableEq

/-- The settings of `devConf` the handler reads. -/
structure XcalConfig where
  rmfCrshSupp : Bool
  useGliDiag : Bool
  diagFileSet : Bool
  ulongMax : UInt64

def XcalConfig.idConfig (cfg : XcalConfig) (diagFile : Option CStr) :
    IdConfig where
  useGliDiag := cfg.useGliDiag
  diagFile := if cfg.diagFileSet then some diagFile else none
  ulongMax := cfg.ulongMax

/-- The variables the handler notifies of. -/
inductive EventedVariable where
  | playbackUrl
  | systemIds
  | timeZone
deriving DecidableEq

/-- The globals, and what the subscribers have been told, oldest first. -/
structure XcalState where
  tuneReady : ℤ
  serialNum : CStr
  ids : SystemIds
  systemids : CStr
  zone : ZoneState
  playbackurl : CStr
  serviceReady : Bool
  notified : List (EventedVariable × CStr)
deriving DecidableEq

namespace XcalState

/-- `notify_value_change` -/
def notifyValueChange (varname : EventedVariable) (strvalue : CStr)
    (s : XcalState) : XcalState :=
  if s.serviceReady then
    { s with notified := s.notified ++ [(varname, strvalue)] }
  else s

/-- `updatesystemids ()` -/
def updateSystemids (cfg : IdConfig) (s : XcalState) : XcalState :=
  { s with systemids := (updatesystemids cfg s.ids s.systemids).2 }

/-- Each time the ids are updated for the subscribers. -/
def publishSystemIds (cfg : IdConfig) (s : XcalState) : XcalState :=
  let s := s.updateSystemids cfg
  s.notifyValueChange .systemIds s.systemids

end XcalState

/-- The text `playbackurl` is set to at the start. -/
def playbackUrlText (ipAddressBuffer recvId : CStr) : CStr :=
  .lit "http://" ++ ipAddressBuffer ++ .lit ":8080/hnStreamStart?deviceId="
    ++ recvId ++ .lit "&DTCP1HOST=" ++ ipAddressBuffer
    ++ .lit "&DTCP1PORT=5000"

/-- A box in tune whose service has been started. -/
def inTune : XcalState where
  tuneReady := 1
  serialNum := .empty
  ids := ⟨0, 0, 0, 0⟩
  systemids := .empty
  zone := initZone .videoLibrary
  playbackurl := playbackUrlText (.lit "10.0.0.1") (.lit "P0118")
  serviceReady := true
  notified := []

/-! ## The handler -/

/-- `is_num` -/
def isNum (str : CStr) : Bool :=
  str.bytes.all fun b => decide (0x30 ≤ b) && decide (b ≤ 0x39)

/-- The four ids. -/
inductive IdName where
  | channelmap
  | dac
  | plant
  | vodserver
deriving DecidableEq

def SystemIds.get (ids : SystemIds) : IdName → UInt64
  | .channelmap => ids.channelmapId
  | .dac => ids.dacId
  | .plant => ids.plantId
  | .vodserver => ids.vodserverId

def SystemIds.set (ids : SystemIds) (k : IdName) (n : UInt64) : SystemIds :=
  match k with
  | .channelmap => { ids with channelmapId := n }
  | .dac => { ids with dacId := n }
  | .plant => { ids with plantId := n }
  | .vodserver => { ids with vodserverId := n }

namespace XcalState

/-- The notifications of a change of tuning, where it is announced. -/
def announceTuning (cfg : XcalConfig) (diagFile : Option CStr)
    (s : XcalState) : XcalState :=
  let s :=
    if cfg.useGliDiag then s else s.publishSystemIds (cfg.idConfig diagFile)
  s.notifyValueChange .playbackUrl s.playbackurl

/-- `case IARM_BUS_SYSMGR_SYSSTATE_TUNEREADY` -/
def tuneReadyEvent (cfg : XcalConfig) (e : SysEvent) (s : XcalState) :
    XcalState :=
  if s.tuneReady ≠ e.data.state then
    let s := { s with tuneReady := e.data.state }
    if cfg.rmfCrshSupp then
      -- Going out of tune is not announced.
      if s.tuneReady = 1 then s.announceTuning cfg e.diagFile else s
    else s.announceTuning cfg e.diagFile
  else s

/-- The cases of the four ids. -/
def idEvent (cfg : XcalConfig) (k : IdName) (e : SysEvent) (s : XcalState) :
    XcalState :=
  if e.data.error then { s with ids := s.ids.set k 0 }
  else if e.data.state = 2 then
    if e.data.payload.bytes.length > 0 ∧ isNum e.data.payload then
      { s with ids := s.ids.set k (CStr.strtoul cfg.ulongMax e.data.payload) }
        |>.publishSystemIds (cfg.idConfig e.diagFile)
    else s
  else s

/-- The cases of the time zone; what they publish goes to the subscribers. -/
def zoneEvent (c : Copy) (e : ZoneEvent) (s : XcalState) : XcalState :=
  let zone := XcalDevice.sysEventHandler c s.zone e
  (zone.published.drop s.zone.published.length).foldl
    (fun s value => s.notifyValueChange .timeZone value) { s with zone }

/-- `_sysEventHandler` -/
def sysEventHandler (c : Copy) (cfg : XcalConfig) (s : XcalState)
    (e : SysEvent) : XcalState :=
  match e.stateId with
  | .tuneReady => s.tuneReadyEvent cfg e
  | .stbSerialNo => { s with serialNum := e.data.payload }
  | .channelmap => s.idEvent cfg .channelmap e
  | .dacId => s.idEvent cfg .dac e
  | .plantId => s.idEvent cfg .plant e
  | .vodAd => s.idEvent cfg .vodserver e
  | .timeZone => s.zoneEvent c (.timeZone e.data)
  | .dstOffset => s.zoneEvent c (.dstOffset e.data)
  | .other => s

end XcalState

/-! ## Answering requests -/

/-- A buffer after `strcpy_s`, which empties it where it refuses the string. -/
def strcpied (dmax : ℕ) (src : CStr) : CStr := (strcpyS .safec dmax src).1

def urlSize : ℕ := 512

namespace XcalState

/-- `getTuneReady`: an `unsigned char` of a `gboolean`. -/
def getTuneReady (s : XcalState) : Bool := s.tuneReady % 256 ≠ 0

/-- `getPlaybackUrl`: the buffer as it leaves it. -/
def getPlaybackUrl (s : XcalState) (outValue : CStr) : CStr :=
  if s.playbackurl = .empty then outValue else strcpied urlSize s.playbackurl

/-- The answer to `GetPlaybackUrl`; `playBackUrl` is what the buffer of
`xcal-device-main.c` holds. -/
def getPlaybackUrlCb (c : Copy) (s : XcalState) (playBackUrl : CStr) : CStr :=
  match c with
  | .videoLibrary =>
      if s.getTuneReady then s.getPlaybackUrl playBackUrl else .lit "NULL"
  | .xcalDevice =>
      if s.tuneReady = 1 then s.playbackurl else .lit "NULL"

/-- `getSystemsIds`: the buffer as it leaves it. -/
def getSystemsIds (cfg : IdConfig) (s : XcalState) (outValue : CStr) : CStr :=
  if s.systemids = .empty then outValue
  else
    match updatesystemids cfg s.ids s.systemids with
    | (true, systemids) => strcpied maxOutvalue systemids
    | (false, _) => outValue

/-- The answer to `GetSystemIds`; `systemIds` is what the buffer of
`xcal-device-main.c` holds. -/
def getSystemidsCb (c : Copy) (cfg : IdConfig) (s : XcalState)
    (systemIds : CStr) : CStr :=
  match c with
  | .videoLibrary => s.getSystemsIds cfg systemIds
  | .xcalDevice => (s.updateSystemids cfg).systemids

end XcalState

/-! ## What the handler leaves alone -/

theorem strcpied_of_lt {dmax : ℕ} {src : CStr} (h : src.bytes.length < dmax) :
    strcpied dmax src = src := by
  rw [strcpied, strcpyS_of_lt h]

theorem strcpied_of_not_lt {dmax : ℕ} {src : CStr}
    (h : ¬ src.bytes.length < dmax) : strcpied dmax src = .empty := by
  rw [strcpied, strcpyS_of_not_lt h]

section Fields

variable {c : Copy} {cfg : XcalConfig} {s : XcalState} {e : SysEvent}

/-- What the subscribers have been told of a variable. -/
def XcalState.values (s : XcalState) (v : EventedVariable) : List CStr :=
  (s.notified.filter fun n => n.1 = v).map Prod.snd

theorem values_notify_of_ready (h : s.serviceReady = true)
    (v w : EventedVariable) (x : CStr) :
    (s.notifyValueChange w x).values v =
      s.values v ++ if w = v then [x] else [] := by
  rw [XcalState.notifyValueChange, if_pos h, XcalState.values,
    List.filter_append, List.map_append, XcalState.values]
  congr 1
  by_cases hw : w = v
  · rw [if_pos hw, List.filter_cons_of_pos (by simpa using hw)]
    rfl
  · rw [if_neg hw, List.filter_cons_of_neg (by simpa using hw)]
    rfl

theorem values_notify_of_ne {v w : EventedVariable} (h : w ≠ v) (x : CStr)
    (s : XcalState) : (s.notifyValueChange w x).values v = s.values v := by
  by_cases hready : s.serviceReady = true
  · rw [values_notify_of_ready hready, if_neg h, List.append_nil]
  · rw [XcalState.notifyValueChange, if_neg hready]

@[simp] theorem notify_tuneReady (v : EventedVariable) (x : CStr) :
    (s.notifyValueChange v x).tuneReady = s.tuneReady := by
  unfold XcalState.notifyValueChange
  split <;> rfl

@[simp] theorem notify_playbackurl (v : EventedVariable) (x : CStr) :
    (s.notifyValueChange v x).playbackurl = s.playbackurl := by
  unfold XcalState.notifyValueChange
  split <;> rfl

@[simp] theorem notify_ids (v : EventedVariable) (x : CStr) :
    (s.notifyValueChange v x).ids = s.ids := by
  unfold XcalState.notifyValueChange
  split <;> rfl

@[simp] theorem notify_systemids (v : EventedVariable) (x : CStr) :
    (s.notifyValueChange v x).systemids = s.systemids := by
  unfold XcalState.notifyValueChange
  split <;> rfl

@[simp] theorem notify_serviceReady (v : EventedVariable) (x : CStr) :
    (s.notifyValueChange v x).serviceReady = s.serviceReady := by
  unfold XcalState.notifyValueChange
  split <;> rfl

/-- Whatever is said of other variables, and done to the ids and the time
zone. -/
structure SameTuning (s s' : XcalState) : Prop where
  tuneReady : s'.tuneReady = s.tuneReady
  playbackurl : s'.playbackurl = s.playbackurl
  serviceReady : s'.serviceReady = s.serviceReady
  values : s'.values .playbackUrl = s.values .playbackUrl

theorem SameTuning.refl (s : XcalState) : SameTuning s s :=
  ⟨rfl, rfl, rfl, rfl⟩

theorem SameTuning.trans {s t u : XcalState} (h₁ : SameTuning s t)
    (h₂ : SameTuning t u) : SameTuning s u :=
  ⟨h₂.tuneReady.trans h₁.tuneReady, h₂.playbackurl.trans h₁.playbackurl,
    h₂.serviceReady.trans h₁.serviceReady, h₂.values.trans h₁.values⟩

theorem sameTuning_notify {v : EventedVariable} (hv : v ≠ .playbackUrl)
    (x : CStr) (s : XcalState) : SameTuning s (s.notifyValueChange v x) :=
  ⟨notify_tuneReady v x, notify_playbackurl v x, notify_serviceReady v x,
    values_notify_of_ne hv x s⟩

theorem sameTuning_publishSystemIds (idcfg : IdConfig) (s : XcalState) :
    SameTuning s (s.publishSystemIds idcfg) := by
  have hids : SameTuning s (s.updateSystemids idcfg) := ⟨rfl, rfl, rfl, rfl⟩
  have hne : EventedVariable.systemIds ≠ .playbackUrl := by decide
  exact hids.trans (sameTuning_notify hne _ _)

theorem sameTuning_idEvent (cfg : XcalConfig) (k : IdName) (e : SysEvent)
    (s : XcalState) : SameTuning s (s.idEvent cfg k e) := by
  unfold XcalState.idEvent
  split
  · exact ⟨rfl, rfl, rfl, rfl⟩
  · split
    · split
      · have hset : SameTuning s { s with
            ids := s.ids.set k (CStr.strtoul cfg.ulongMax e.data.payload) } :=
          ⟨rfl, rfl, rfl, rfl⟩
        exact hset.trans (sameTuning_publishSystemIds _ _)
      · exact SameTuning.refl s
    · exact SameTuning.refl s

/-- What a change of the zone and a notification of it both keep, the cases of
the time zone keep. -/
theorem zoneEvent_frame {R : XcalState → XcalState → Prop}
    (htrans : ∀ {s t u}, R s t → R t u → R s u)
    (hzone : ∀ s z, R s { s with zone := z })
    (hnotify : ∀ s x, R s (s.notifyValueChange .timeZone x))
    (c : Copy) (e : ZoneEvent) (s : XcalState) : R s (s.zoneEvent c e) := by
  have hfold : ∀ (xs : List CStr) (t : XcalState), R s t →
      R s (xs.foldl (fun t x => t.notifyValueChange .timeZone x) t) := by
    intro xs
    induction xs with
    | nil => exact fun t ht => ht
    | cons x xs ih => exact fun t ht => ih _ (htrans ht (hnotify t x))
  exact hfold _ _ (hzone s _)

theorem sameTuning_zoneEvent (c : Copy) (e : ZoneEvent) (s : XcalState) :
    SameTuning s (s.zoneEvent c e) := by
  have hne : EventedVariable.timeZone ≠ .playbackUrl := by decide
  apply zoneEvent_frame (R := SameTuning) SameTuning.trans
  · exact fun s z => ⟨rfl, rfl, rfl, rfl⟩
  · exact fun s x => sameTuning_notify hne x s

/-- Only one kind of event is about tuning. -/
theorem sameTuning_of_ne (c : Copy) (cfg : XcalConfig) (s : XcalState)
    (h : e.stateId ≠ .tuneReady) :
    SameTuning s (s.sysEventHandler c cfg e) := by
  unfold XcalState.sysEventHandler
  cases hid : e.stateId with
  | tuneReady => exact absurd hid h
  | stbSerialNo => exact ⟨rfl, rfl, rfl, rfl⟩
  | channelmap | dacId | plantId | vodAd => exact sameTuning_idEvent _ _ _ _
  | timeZone | dstOffset => exact sameTuning_zoneEvent _ _ _
  | other => exact SameTuning.refl s

end Fields

end Xupnp.XcalDevice
