import Xupnp.Library.Channel
import Xupnp.XcalDevice.SysEvents

/-!
# Starting again (`getSystemValues`)

While the device library is running, the system manager tells it of every
change. When it starts, it asks for the values of the moment instead. A library
that is started again (`getSystemValues`, then `_sysEventHandler`) should
know what one knows that has been running all the time:
`restarted_agrees` says what it knows, and what it may have forgotten.
-/

namespace Xupnp.XcalDevice

open Xupnp.Library

/-! ## The code -/

/-- `IARM_Bus_SYSMgr_GetSystemStates_Param_t`, a member for each state. -/
abbrev SystemStates := StateId → SystemState

namespace XcalState

/-- The lines on one of the four ids. -/
def readId (cfg : XcalConfig) (k : IdName) (d : SystemState) (s : XcalState) :
    XcalState :=
  if d.state = 2 then
    if d.payload.bytes.length > 0 ∧ isNum d.payload then
      { s with ids := s.ids.set k (CStr.strtoul cfg.ulongMax d.payload) }
    else s
  else s

/-- A new zone, whose announcements go to the subscribers. -/
def setZone (zone : ZoneState) (s : XcalState) : XcalState :=
  (zone.published.drop s.zone.published.length).foldl
    (fun s value => s.notifyValueChange .timeZone value) { s with zone }

/-- The lines on `time_zone_available`. -/
def readTimeZone (d : SystemState) (s : XcalState) : XcalState :=
  if d.state = 2 then
    if d.payload.bytes.length > 0 then
      s.setZone (mapTimeZoneToJavaFormat d.payload s.zone)
    else s
  else s

/-- The lines on `dst_offset`. An empty payload leaves the offset as it was. -/
def readDstOffset (c : Copy) (d : SystemState) (s : XcalState) : XcalState :=
  if d.state = 2 then
    let dstOffset :=
      if d.payload.bytes.length > 0 then d.payload.atoi else s.zone.dstOffset
    let zone :=
      { s.zone with
        dstOffset
        dstSavings := dstOffset * 60000
        dsgtimezone := s.zone.dsgtimezone.strip }
    s.setZone
      (if c.notifies zone.dsgtimezone then notifyTimezone zone else zone)
  else s

/-- The lines on `TuneReadyStatus`. -/
def readTuneReady (d : SystemState) (s : XcalState) : XcalState :=
  if s.tuneReady ≠ d.state then
    { s with tuneReady := d.state }.notifyValueChange .playbackUrl s.playbackurl
  else s

/-- `getSystemValues`. Nothing looks at `error`. -/
def getSystemValues (c : Copy) (cfg : XcalConfig) (param : SystemStates)
    (s : XcalState) : XcalState :=
  let s := s.readId cfg .channelmap (param .channelmap)
  let s := s.readId cfg .dac (param .dacId)
  let s := s.readId cfg .plant (param .plantId)
  let s := s.readId cfg .vodserver (param .vodAd)
  let s := s.readTimeZone (param .timeZone)
  let s := s.readDstOffset c (param .dstOffset)
  let s := s.readTuneReady (param .tuneReady)
  { s with serialNum := (param .stbSerialNo).payload }

end XcalState

/-! ## What the events are about -/

/-- The globals that the events set, apart from the text of the ids. -/
structure Core where
  tuneReady : ℤ
  serialNum : CStr
  ids : SystemIds
  zone : ZoneState

def XcalState.core (s : XcalState) : Core :=
  ⟨s.tuneReady, s.serialNum, s.ids, s.zone⟩

/-- What an event does to one of the four ids. -/
def idsAfter (cfg : XcalConfig) (k : IdName) (d : SystemState)
    (ids : SystemIds) : SystemIds :=
  if d.error then ids.set k 0
  else if d.state = 2 then
    if d.payload.bytes.length > 0 ∧ isNum d.payload then
      ids.set k (CStr.strtoul cfg.ulongMax d.payload)
    else ids
  else ids

/-- What an event does to the globals. -/
def coreStep (c : Copy) (cfg : XcalConfig) (s : Core) (e : SysEvent) : Core :=
  match e.stateId with
  | .tuneReady => { s with tuneReady := e.data.state }
  | .stbSerialNo => { s with serialNum := e.data.payload }
  | .channelmap => { s with ids := idsAfter cfg .channelmap e.data s.ids }
  | .dacId => { s with ids := idsAfter cfg .dac e.data s.ids }
  | .plantId => { s with ids := idsAfter cfg .plant e.data s.ids }
  | .vodAd => { s with ids := idsAfter cfg .vodserver e.data s.ids }
  | .timeZone =>
      { s with zone := XcalDevice.sysEventHandler c s.zone (.timeZone e.data) }
  | .dstOffset =>
      { s with zone := XcalDevice.sysEventHandler c s.zone (.dstOffset e.data) }
  | .other => s

section Steps

variable {c : Copy} {cfg : XcalConfig} {s : XcalState} {e : SysEvent}

@[simp] theorem core_notify (v : EventedVariable) (x : CStr) (s : XcalState) :
    (s.notifyValueChange v x).core = s.core := by
  unfold XcalState.notifyValueChange
  split <;> rfl

@[simp] theorem core_publishSystemIds (idcfg : IdConfig) (s : XcalState) :
    (s.publishSystemIds idcfg).core = s.core := core_notify _ _ _

@[simp] theorem core_setZone (zone : ZoneState) (s : XcalState) :
    (s.setZone zone).core = { s.core with zone } := by
  have hfold : ∀ (xs : List CStr) (t : XcalState),
      (xs.foldl (fun t x => t.notifyValueChange .timeZone x) t).core =
        t.core := by
    intro xs
    induction xs with
    | nil => exact fun t => rfl
    | cons x xs ih => exact fun t => (ih _).trans (core_notify _ _ _)
  exact hfold _ _

theorem core_idEvent (k : IdName) :
    (s.idEvent cfg k e).core =
      { s.core with ids := idsAfter cfg k e.data s.ids } := by
  unfold XcalState.idEvent idsAfter
  split
  · rfl
  · split
    · split
      · exact core_publishSystemIds _ _
      · rfl
    · rfl

theorem core_tuneReadyEvent :
    (s.tuneReadyEvent cfg e).core =
      { s.core with tuneReady := e.data.state } := by
  have hannounce (t : XcalState) :
      (t.announceTuning cfg e.diagFile).core = t.core := by
    unfold XcalState.announceTuning
    rw [core_notify]
    split
    · rfl
    · exact core_publishSystemIds _ _
  unfold XcalState.tuneReadyEvent
  split
  · dsimp only
    split
    · split
      · exact hannounce _
      · rfl
    · exact hannounce _
  · rename_i hsame
    rw [← not_not.mp hsame]
    rfl

/-- Everything else the handler does is to tell others. -/
theorem core_sysEventHandler :
    (s.sysEventHandler c cfg e).core = coreStep c cfg s.core e := by
  unfold XcalState.sysEventHandler coreStep
  cases e.stateId with
  | tuneReady => exact core_tuneReadyEvent
  | stbSerialNo | other => rfl
  | channelmap | dacId | plantId | vodAd => exact core_idEvent _
  | timeZone | dstOffset => exact core_setZone _ _

theorem core_run (c : Copy) (cfg : XcalConfig) (s : XcalState)
    (es : List SysEvent) :
    (es.foldl (XcalState.sysEventHandler c cfg) s).core =
      es.foldl (coreStep c cfg) s.core := by
  induction es generalizing s with
  | nil => rfl
  | cons e es ih =>
      rw [List.foldl_cons, List.foldl_cons, ih, core_sysEventHandler]

end Steps

/-! ## The values of the moment as events -/

/-- An event that says `d`. -/
def said (id : StateId) (d : SystemState) : SysEvent :=
  ⟨id, { d with error := false }, none⟩

/-- The events that say what `getSystemValues` reads, in its order. -/
def snapshotEvents (param : SystemStates) : List SysEvent :=
  [.channelmap, .dacId, .plantId, .vodAd, .timeZone, .dstOffset, .tuneReady,
    .stbSerialNo].map fun id => said id (param id)

section Snapshot

variable {c : Copy} {cfg : XcalConfig}

theorem core_readId (k : IdName) (d : SystemState) (s : XcalState) :
    (s.readId cfg k d).core =
      { s.core with ids := idsAfter cfg k { d with error := false } s.ids } := by
  unfold XcalState.readId idsAfter
  rw [if_neg Bool.false_ne_true]
  split
  · split <;> rfl
  · rfl

/-- A payload of one character is no zone. -/
theorem core_readTimeZone (d : SystemState) (s : XcalState) :
    (s.readTimeZone d).core =
      coreStep c cfg s.core (said .timeZone d) := by
  have hshort : ¬ d.payload.bytes.length > 1 → findTZ d.payload = none := by
    intro hlen
    cases hfind : findTZ d.payload with
    | none => rfl
    | some tz =>
        obtain ⟨hmem, hinput⟩ := findTZ_some hfind
        exact absurd (hinput ▸ inputTZ_length tz hmem) hlen
  have hzone : coreStep c cfg s.core (said .timeZone d) =
      { s.core with
        zone :=
          if d.state = 2 then
            if d.payload.bytes.length > 1 then
              mapTimeZoneToJavaFormat d.payload s.zone
            else s.zone
          else s.zone } := rfl
  unfold XcalState.readTimeZone
  rw [hzone]
  by_cases hstate : d.state = 2
  · rw [if_pos hstate, if_pos hstate]
    by_cases hlen : d.payload.bytes.length > 1
    · rw [if_pos hlen, if_pos (Nat.lt_trans Nat.zero_lt_one hlen)]
      exact core_setZone _ _
    · rw [if_neg hlen]
      split
      · rw [core_setZone, mapTimeZoneToJavaFormat, hshort hlen]
      · rfl
  · rw [if_neg hstate, if_neg hstate]
    rfl

theorem core_readDstOffset {d : SystemState}
    (hd : d.state = 2 → d.payload ≠ .empty) (s : XcalState) :
    (s.readDstOffset c d).core =
      coreStep c cfg s.core (said .dstOffset d) := by
  unfold XcalState.readDstOffset
  by_cases hstate : d.state = 2
  · have hlen : d.payload.bytes.length > 0 := by
      apply List.length_pos_of_ne_nil
      intro hnil
      exact hd hstate (CStr.ext hnil)
    rw [if_pos hstate, if_pos hlen, core_setZone]
    show _ = ({ s.core with zone := if d.state = 2 then _ else _ } : Core)
    rw [if_pos hstate]
    rfl
  · rw [if_neg hstate]
    show _ = ({ s.core with zone := if d.state = 2 then _ else _ } : Core)
    rw [if_neg hstate]

theorem core_readTuneReady (d : SystemState) (s : XcalState) :
    (s.readTuneReady d).core = { s.core with tuneReady := d.state } := by
  unfold XcalState.readTuneReady
  split
  · exact core_notify _ _ _
  · rename_i hsame
    rw [← not_not.mp hsame]
    rfl

/-- **Asking for the values of the moment is like being told of them**, except
that an offset without a text is read another way. -/
theorem core_getSystemValues {param : SystemStates}
    (hparam : (param .dstOffset).state = 2 → (param .dstOffset).payload ≠ .empty)
    (s : XcalState) :
    (s.getSystemValues c cfg param).core =
      (snapshotEvents param).foldl (coreStep c cfg) s.core := by
  have hserial (t : XcalState) :
      ({ t with serialNum := (param .stbSerialNo).payload } : XcalState).core =
        coreStep c cfg t.core (said .stbSerialNo (param .stbSerialNo)) := rfl
  have htune (t : XcalState) : (t.readTuneReady (param .tuneReady)).core =
      coreStep c cfg t.core (said .tuneReady (param .tuneReady)) :=
    core_readTuneReady _ t
  have hid (k : IdName) (d : SystemState) (t : XcalState) :
      (t.readId cfg k d).core =
        { t.core with
          ids := idsAfter cfg k { d with error := false } t.core.ids } :=
    core_readId k d t
  have hzone (d : SystemState) (t : XcalState) :
      (t.readTimeZone d).core = coreStep c cfg t.core (said .timeZone d) :=
    core_readTimeZone d t
  rw [XcalState.getSystemValues, hserial, htune, core_readDstOffset hparam,
    hzone, hid, hid, hid, hid]
  rfl

end Snapshot

/-! ## What was reported last -/

/-- What an event reports of one of the four ids. -/
def readReport (cfg : XcalConfig) (d : SystemState) : Option UInt64 :=
  if d.error then some 0
  else if d.state = 2 then
    if d.payload.bytes.length > 0 ∧ isNum d.payload then
      some (CStr.strtoul cfg.ulongMax d.payload)
    else none
  else none

def IdName.stateId : IdName → StateId
  | .channelmap => .channelmap
  | .dac => .dacId
  | .plant => .plantId
  | .vodserver => .vodAd

/-- The events about a state. -/
def about {β : Type} (id : StateId) (f : SystemState → Option β)
    (e : SysEvent) : Option β :=
  if e.stateId = id then f e.data else none

/-- The events about the time zone, as its handler sees them. -/
def zonePart (e : SysEvent) : Option ZoneEvent :=
  match e.stateId with
  | .timeZone => some (.timeZone e.data)
  | .dstOffset => some (.dstOffset e.data)
  | _ => none

/-- Each global holds what was reported last of it. -/
structure Holds (c : Copy) (cfg : XcalConfig) (init : Core)
    (es : List SysEvent) (s : Core) : Prop where
  tuneReady : s.tuneReady =
    lastWritten (about .tuneReady fun d => some d.state) init.tuneReady es
  serialNum : s.serialNum =
    lastWritten (about .stbSerialNo fun d => some d.payload) init.serialNum es
  ids : ∀ k, s.ids.get k =
    lastWritten (about k.stateId (readReport cfg)) (init.ids.get k) es
  zone : s.zone =
    (es.filterMap zonePart).foldl (XcalDevice.sysEventHandler c) init.zone

section Registers

variable {c : Copy} {cfg : XcalConfig} {init : Core} {es : List SysEvent}
  {s : Core} {e : SysEvent} {β : Type} {b : β}

theorem lastWritten_about (id : StateId) (f : SystemState → Option β)
    (es : List SysEvent) (e : SysEvent) (b : β) :
    lastWritten (about id f) b (es ++ [e]) =
      if e.stateId = id then
        (f e.data).getD (lastWritten (about id f) b es)
      else lastWritten (about id f) b es := by
  by_cases hid : e.stateId = id
  · rw [if_pos hid]
    cases hf : f e.data with
    | none => exact lastWritten_concat_none (by rw [about, if_pos hid, hf])
    | some v => exact lastWritten_concat_some (by rw [about, if_pos hid, hf]; rfl)
  · rw [if_neg hid]
    exact lastWritten_concat_none (by rw [about, if_neg hid])

theorem get_set (ids : SystemIds) (k k' : IdName) (n : UInt64) :
    (ids.set k n).get k' = if k = k' then n else ids.get k' := by
  cases k <;> cases k' <;> rfl

theorem idsAfter_eq (k : IdName) (d : SystemState) (ids : SystemIds) :
    idsAfter cfg k d ids = (readReport cfg d).elim ids (ids.set k) := by
  unfold idsAfter readReport
  cases d.error with
  | true => rfl
  | false =>
      rw [if_neg Bool.false_ne_true, if_neg Bool.false_ne_true]
      by_cases hstate : d.state = 2
      · rw [if_pos hstate, if_pos hstate]
        split <;> rfl
      · rw [if_neg hstate, if_neg hstate]
        rfl

theorem get_idsAfter (k k' : IdName) (d : SystemState) (ids : SystemIds) :
    (idsAfter cfg k d ids).get k' =
      if k = k' then (readReport cfg d).getD (ids.get k') else ids.get k' := by
  rw [idsAfter_eq]
  cases readReport cfg d with
  | none => split <;> rfl
  | some n => exact get_set ids k k' n

theorem Holds.start : Holds c cfg init [] init :=
  ⟨rfl, rfl, fun _ => rfl, rfl⟩

theorem Holds.step (h : Holds c cfg init es s) (e : SysEvent) :
    Holds c cfg init (es ++ [e]) (coreStep c cfg s e) := by
  obtain ⟨htune, hserial, hids, hzone⟩ := h
  refine ⟨?_, ?_, fun k => ?_, ?_⟩
  · rw [lastWritten_about, ← htune, coreStep]
    cases e.stateId <;> rfl
  · rw [lastWritten_about, ← hserial, coreStep]
    cases e.stateId <;> rfl
  · rw [lastWritten_about, ← hids, coreStep]
    cases e.stateId <;> first
      | exact (get_idsAfter _ k _ _).trans (by cases k <;> rfl)
      | (cases k <;> rfl)
  · rw [List.filterMap_append, List.foldl_append, ← hzone, coreStep]
    cases he : e.stateId <;> simp [zonePart, he]

theorem Holds.run (h : Holds c cfg init es s) (es' : List SysEvent) :
    Holds c cfg init (es ++ es') (es'.foldl (coreStep c cfg) s) := by
  induction es' generalizing es s with
  | nil => rw [List.append_nil]; exact h
  | cons e es' ih =>
      rw [List.append_cons]
      exact ih (h.step e)

/-- What was said last of a state. -/
def lastData (id : StateId) (es : List SysEvent) : Option SystemState :=
  lastWritten (about id fun d => some (some d)) none es

theorem lastWritten_of_unsaid {id : StateId} {f : SystemState → Option β}
    (h : lastData id es = none) : lastWritten (about id f) b es = b := by
  induction es using List.reverseRecOn with
  | nil => rfl
  | append_singleton es e ih =>
      rw [lastData, lastWritten_about] at h
      rw [lastWritten_about]
      split at h
      · cases h
      · rename_i hid
        rw [if_neg hid]
        exact ih h

/-- What is said last counts, if it says anything. -/
theorem lastWritten_of_said {id : StateId} {f : SystemState → Option β}
    {d : SystemState} {v : β} (h : lastData id es = some d)
    (hd : f d = some v) : lastWritten (about id f) b es = v := by
  induction es using List.reverseRecOn with
  | nil => cases h
  | append_singleton es e ih =>
      rw [lastData, lastWritten_about] at h
      rw [lastWritten_about]
      split at h
      · rename_i hid
        rw [if_pos hid, Option.some.inj h, hd]
        rfl
      · rename_i hid
        rw [if_neg hid]
        exact ih h

end Registers

/-! ## The time zone -/

section Zone

variable {c : Copy} {es es' : List ZoneEvent} {s : ZoneState}

theorem lastZone_append (es es' : List ZoneEvent) :
    lastZone (es ++ es') = (lastZone es' <|> lastZone es) := by
  induction es' using List.reverseRecOn with
  | nil => rw [List.append_nil]; rfl
  | append_singleton es' e ih =>
      rw [← List.append_assoc, lastZone_concat, lastZone_concat, ih]
      cases e.newZone <;> rfl

theorem lastOffset_append (es es' : List ZoneEvent) :
    lastOffset (es ++ es') = (lastOffset es' <|> lastOffset es) := by
  induction es' using List.reverseRecOn with
  | nil => rw [List.append_nil]; rfl
  | append_singleton es' e ih =>
      rw [← List.append_assoc, lastOffset_concat, lastOffset_concat, ih]
      cases e.newOffset <;> rfl

theorem lastZone_singleton (e : ZoneEvent) : lastZone [e] = e.newZone := by
  show (e.newZone <|> none) = e.newZone
  cases e.newZone <;> rfl

theorem lastOffset_singleton (e : ZoneEvent) : lastOffset [e] = e.newOffset := by
  show (e.newOffset <|> none) = e.newOffset
  cases e.newOffset <;> rfl

/-- What else the zone has set. -/
structure ZoneRegisters (es : List ZoneEvent) (s : ZoneState) : Prop where
  rawOffset : s.rawOffset =
    ((lastZone es).bind findTZ).elim 0 TZStruct.rawOffset
  usesDaylightTime : s.usesDaylightTime =
    ((lastZone es).bind findTZ).elim false TZStruct.usesDST
  dstSavings : s.dstSavings = (lastOffset es).elim 0 (· * 60000)

theorem zoneAfter_registers (c : Copy) (es : List ZoneEvent) :
    ZoneRegisters es (zoneAfter c es) := by
  induction es using List.reverseRecOn with
  | nil => exact ⟨rfl, rfl, rfl⟩
  | append_singleton es e ih =>
      obtain ⟨hraw, huses, hsavings⟩ := ih
      have hsnoc : zoneAfter c (es ++ [e]) =
          sysEventHandler c (zoneAfter c es) e := by
        rw [zoneAfter, List.foldl_append]
        rfl
      rw [hsnoc]
      cases hz : e.newZone with
      | some z =>
          obtain ⟨tz, htz⟩ := findTZ_of_newZone hz
          have hoffset : lastOffset (es ++ [e]) = lastOffset es :=
            lastOffset_concat_none (newOffset_of_newZone hz)
          have hzone : (lastZone (es ++ [e])).bind findTZ = some tz := by
            rw [lastZone_concat, hz]
            exact htz
          rw [sysEventHandler_zone hz, mapTimeZoneToJavaFormat, htz]
          refine ⟨?_, ?_, ?_⟩
          · rw [hzone]
            rfl
          · rw [hzone]
            rfl
          · rw [hoffset, ← hsavings]
            dsimp only
            split
            · rw [notifyTimezone_eq]
            · rfl
      | none =>
          have hzone : lastZone (es ++ [e]) = lastZone es := by
            rw [lastZone_concat, hz]
            rfl
          cases hd : e.newOffset with
          | some d =>
              have hoffset : lastOffset (es ++ [e]) = some d := by
                rw [lastOffset_concat, hd]
                rfl
              rw [sysEventHandler_offset hd]
              dsimp only
              refine ⟨?_, ?_, ?_⟩
              · rw [hzone, ← hraw]
                split
                · rw [notifyTimezone_eq]
                · rfl
              · rw [hzone, ← huses]
                split
                · rw [notifyTimezone_eq]
                · rfl
              · rw [hoffset]
                split
                · rw [notifyTimezone_eq]
                  rfl
                · rfl
          | none =>
              rw [sysEventHandler_none hz hd]
              refine ⟨?_, ?_, ?_⟩
              · rw [hzone, hraw]
              · rw [hzone, huses]
              · rw [lastOffset_concat_none hd, hsavings]

/-- No zone comes: the offsets are added to those in force before. -/
theorem offsetsSince_append (h : lastZone es' = none) :
    offsetsSince (es ++ es') =
      offsetsSince es ++ es'.filterMap ZoneEvent.newOffset := by
  induction es' using List.reverseRecOn with
  | nil => rw [List.append_nil, List.filterMap_nil, List.append_nil]
  | append_singleton es' e ih =>
      rw [lastZone_concat] at h
      cases hz : e.newZone with
      | some z => rw [hz] at h; cases h
      | none =>
          rw [hz] at h
          rw [← List.append_assoc, offsetsSince_concat, ih h, hz,
            List.filterMap_append]
          cases hd : e.newOffset with
          | some d => simp [hd]
          | none => simp [hd]

/-- A zone comes: of the offsets before it only the last counts. -/
theorem offsetsSince_append_congr {es₁ es₂ : List ZoneEvent}
    (hlast : lastOffset es₁ = lastOffset es₂) (h : lastZone es' ≠ none) :
    offsetsSince (es₁ ++ es') = offsetsSince (es₂ ++ es') := by
  induction es' using List.reverseRecOn with
  | nil => exact absurd rfl h
  | append_singleton es' e ih =>
      rw [lastZone_concat] at h
      rw [← List.append_assoc, ← List.append_assoc, offsetsSince_concat,
        offsetsSince_concat]
      cases hz : e.newZone with
      | some z =>
          rw [newOffset_of_newZone hz]
          dsimp only
          rw [offsetsSince_getLastD, offsetsSince_getLastD, lastOffset_append,
            lastOffset_append, hlast]
      | none =>
          rw [hz] at h
          rw [ih h]

/-- The offset in force is among them. -/
theorem mem_offsetsSince {d : Int32} (h : lastOffset es = some d) :
    d ∈ offsetsSince es := by
  have hlast := offsetsSince_getLastD es
  rw [h, Option.getD_some] at hlast
  cases hoff : offsetsSince es with
  | nil =>
      have hne : ∀ es, offsetsSince es ≠ [] := by
        intro es
        induction es using List.reverseRecOn with
        | nil => exact List.cons_ne_nil _ _
        | append_singleton es e ih =>
            rw [offsetsSince_concat]
            split
            · exact List.append_ne_nil_of_right_ne_nil _ (List.cons_ne_nil _ _)
            · exact List.cons_ne_nil _ _
            · exact ih
      exact absurd hoff (hne es)
  | cons a l =>
      rw [hoff, List.getLastD_cons] at hlast
      rw [← hlast]
      exact List.getLastD_mem_cons

end Zone

/-! ## Started again -/

/-- The system manager answers with what it has said last of each state. -/
structure Reports (es : List SysEvent) (param : SystemStates) : Prop where
  said : ∀ id d, lastData id es = some d → param id = d
  unsaid : ∀ id, lastData id es = none →
    (param id).state = 0 ∧ (param id).payload = .empty

/-- `d` can be read, as an event and as an answer, and says the same. -/
def Legible (id : StateId) (d : SystemState) : Prop :=
  match id with
  | .channelmap | .dacId | .plantId | .vodAd =>
      d.error = true ∧ d.state ≠ 2 ∨
        d.error = false ∧ d.state = 2 ∧ d.payload.bytes.length > 0 ∧
          isNum d.payload = true
  | .timeZone =>
      d.error = false ∧ d.state = 2 ∧ (findTZ d.payload).isSome = true
  | .dstOffset => d.error = false ∧ d.state = 2 ∧ d.payload ≠ .empty
  | .tuneReady | .stbSerialNo | .other => True

instance (id : StateId) (d : SystemState) : Decidable (Legible id d) :=
  match id with
  | .channelmap | .dacId | .plantId | .vodAd =>
      inferInstanceAs (Decidable (_ ∨ _))
  | .timeZone | .dstOffset => inferInstanceAs (Decidable (_ ∧ _))
  | .tuneReady | .stbSerialNo | .other => inferInstanceAs (Decidable True)

/-- What has been said last of each state can be read. -/
def LastLegible (es : List SysEvent) : Prop :=
  ∀ id d, lastData id es = some d → Legible id d

/-- The globals when the library starts. -/
structure Fresh (c : Copy) (s : XcalState) : Prop where
  tuneReady : s.tuneReady = 0
  ids : s.ids = ⟨0, 0, 0, 0⟩
  zone : s.zone = initZone c

/-- The globals that do not depend on when the library was started. -/
structure Agrees (x y : XcalState) : Prop where
  tuneReady : x.tuneReady = y.tuneReady
  serialNum : x.serialNum = y.serialNum
  ids : ∀ k, x.ids.get k = y.ids.get k
  rawOffset : x.zone.rawOffset = y.zone.rawOffset
  usesDaylightTime : x.zone.usesDaylightTime = y.zone.usesDaylightTime
  dstOffset : x.zone.dstOffset = y.zone.dstOffset
  dstSavings : x.zone.dstSavings = y.zone.dstSavings

/-- The library is started again after `es`, and has then been told `es'`. A DST
offset of 0, which is no longer in force, has given the zone its name: the
answer to `getSystemValues` does not say so. -/
def Forgets (es es' : List SysEvent) : Prop :=
  (javaZone (es.filterMap zonePart) = some (.lit "US/Mountain") ∨
      javaZone (es.filterMap zonePart) = some (.lit "US/Central")) ∧
    0 ∈ offsetsSince (es.filterMap zonePart) ∧
    lastOffset (es.filterMap zonePart) ≠ some 0 ∧
    lastZone (es'.filterMap zonePart) = none ∧
    0 ∉ (es'.filterMap zonePart).filterMap ZoneEvent.newOffset

section Restart

variable {c : Copy} {cfg : XcalConfig} {es es' : List SysEvent}
  {param : SystemStates}

theorem lastZone_zonePart (es : List SysEvent) :
    lastZone (es.filterMap zonePart) =
      lastWritten (about .timeZone fun d =>
        (ZoneEvent.timeZone d).newZone.map some) none es := by
  induction es using List.reverseRecOn with
  | nil => rfl
  | append_singleton es e ih =>
      rw [List.filterMap_append, lastZone_append, lastWritten_about, ih]
      by_cases he : e.stateId = .timeZone
      · rw [if_pos he]
        simp only [zonePart, he, List.filterMap_cons, List.filterMap_nil]
        rw [lastZone_singleton]
        cases ZoneEvent.newZone (.timeZone e.data) <;> rfl
      · rw [if_neg he]
        have hnone : lastZone ([e].filterMap zonePart) = none := by
          cases hid : e.stateId <;>
            simp_all [zonePart, lastZone, ZoneEvent.newZone]
        rw [hnone]
        rfl

theorem lastOffset_zonePart (es : List SysEvent) :
    lastOffset (es.filterMap zonePart) =
      lastWritten (about .dstOffset fun d =>
        (ZoneEvent.dstOffset d).newOffset.map some) none es := by
  induction es using List.reverseRecOn with
  | nil => rfl
  | append_singleton es e ih =>
      rw [List.filterMap_append, lastOffset_append, lastWritten_about, ih]
      by_cases he : e.stateId = .dstOffset
      · rw [if_pos he]
        simp only [zonePart, he, List.filterMap_cons, List.filterMap_nil]
        rw [lastOffset_singleton]
        cases ZoneEvent.newOffset (.dstOffset e.data) <;> rfl
      · rw [if_neg he]
        have hnone : lastOffset ([e].filterMap zonePart) = none := by
          cases hid : e.stateId <;>
            simp_all [zonePart, lastOffset, ZoneEvent.newOffset]
        rw [hnone]
        rfl

/-- The answer speaks once of each state. -/
theorem lastWritten_snapshot {β : Type} {id : StateId} (hid : id ≠ .other)
    (f : SystemState → Option β) (b : β) :
    lastWritten (about id f) b (snapshotEvents param) =
      (f { param id with error := false }).getD b := by
  generalize hd : f { param id with error := false } = o
  cases id with
  | other => exact absurd rfl hid
  | tuneReady | stbSerialNo | channelmap | dacId | plantId | vodAd | timeZone
  | dstOffset =>
      cases o <;> simp [snapshotEvents, said, about, lastWritten, hd]

/-- A register that is read alike is left alike. -/
theorem register_agrees {β : Type} {id : StateId} (hid : id ≠ .other)
    {f : SystemState → Option β} {b : β} (hreports : Reports es param)
    (hunsaid : ∀ d : SystemState, d.state = 0 → d.payload = .empty →
      (f { d with error := false }).getD b = b)
    (hsaid : ∀ d, lastData id es = some d → ∃ v, f d = some v ∧
      (f { d with error := false }).getD b = v) :
    lastWritten (about id f) b (snapshotEvents param) =
      lastWritten (about id f) b es := by
  rw [lastWritten_snapshot hid]
  cases hd : lastData id es with
  | none =>
      obtain ⟨hstate, hpayload⟩ := hreports.unsaid id hd
      rw [lastWritten_of_unsaid hd]
      exact hunsaid _ hstate hpayload
  | some d =>
      obtain ⟨v, hv, hsame⟩ := hsaid d hd
      rw [hreports.said id d hd, hsame, lastWritten_of_said hd hv]

/-- The globals of a library that is started before anything is said. -/
def startCore (c : Copy) : Core := ⟨0, .empty, ⟨0, 0, 0, 0⟩, initZone c⟩

/-- The globals at the start but for the serial number. -/
theorem Fresh.core {s : XcalState} (hs : Fresh c s) :
    s.core = { startCore c with serialNum := s.serialNum } := by
  rw [XcalState.core, hs.tuneReady, hs.ids, hs.zone]
  rfl

theorem core_started {s : XcalState} (hs : Fresh c s)
    (hreports : Reports [] param) :
    (s.getSystemValues c cfg param).core = startCore c := by
  have hstate (id : StateId) : (param id).state = 0 :=
    (hreports.unsaid id rfl).1
  have hpayload : (param .stbSerialNo).payload = .empty :=
    (hreports.unsaid .stbSerialNo rfl).2
  rw [core_getSystemValues (fun h => by rw [hstate] at h; cases h), hs.core]
  simp [snapshotEvents, said, coreStep, idsAfter, XcalDevice.sysEventHandler,
    hstate, hpayload, startCore]

/-- What a library knows that has asked, and been told of what came then. -/
theorem holds_started {s : XcalState} (hs : Fresh c s)
    (hparam : (param .dstOffset).state = 2 → (param .dstOffset).payload ≠ .empty)
    (cfg : XcalConfig) (es' : List SysEvent) :
    Holds c cfg { startCore c with serialNum := s.serialNum }
      (snapshotEvents param ++ es')
      (es'.foldl (XcalState.sysEventHandler c cfg)
        (s.getSystemValues c cfg param)).core := by
  rw [core_run, core_getSystemValues hparam, hs.core]
  exact (Holds.start.run (snapshotEvents param)).run es'

/-- The first list of events says of each state what the second does. -/
structure SayAlike (cfg : XcalConfig) (es₁ es₂ : List SysEvent) : Prop where
  tuneReady : lastWritten (about .tuneReady fun d => some d.state) 0 es₁ =
    lastWritten (about .tuneReady fun d => some d.state) 0 es₂
  serialNum : ∀ b,
    lastWritten (about .stbSerialNo fun d => some d.payload) b es₁ =
      lastWritten (about .stbSerialNo fun d => some d.payload) .empty es₂
  ids : ∀ k : IdName, lastWritten (about k.stateId (readReport cfg)) 0 es₁ =
    lastWritten (about k.stateId (readReport cfg)) 0 es₂
  zone : lastZone (es₁.filterMap zonePart) = lastZone (es₂.filterMap zonePart)
  offset : lastOffset (es₁.filterMap zonePart) =
    lastOffset (es₂.filterMap zonePart)

theorem SayAlike.append {es₁ es₂ : List SysEvent} (h : SayAlike cfg es₁ es₂)
    (es' : List SysEvent) : SayAlike cfg (es₁ ++ es') (es₂ ++ es') := by
  refine ⟨?_, fun b => ?_, fun k => ?_, ?_, ?_⟩
  · rw [lastWritten_append, lastWritten_append, h.tuneReady]
  · rw [lastWritten_append, lastWritten_append, h.serialNum]
  · rw [lastWritten_append, lastWritten_append, h.ids]
  · rw [List.filterMap_append, List.filterMap_append, lastZone_append,
      lastZone_append, h.zone]
  · rw [List.filterMap_append, List.filterMap_append, lastOffset_append,
      lastOffset_append, h.offset]

/-- Who has been told the same knows the same. -/
theorem SayAlike.agrees {es₁ es₂ : List SysEvent} (h : SayAlike cfg es₁ es₂)
    {x y : XcalState} {b : CStr} (hx : Holds c cfg (startCore c) es₂ x.core)
    (hy : Holds c cfg { startCore c with serialNum := b } es₁ y.core) :
    Agrees x y := by
  have hzero (k : IdName) : (⟨0, 0, 0, 0⟩ : SystemIds).get k = 0 := by
    cases k <;> rfl
  have hzone₁ : x.zone = zoneAfter c (es₂.filterMap zonePart) := hx.zone
  have hzone₂ : y.zone = zoneAfter c (es₁.filterMap zonePart) := hy.zone
  have hreg₁ := zoneAfter_registers c (es₂.filterMap zonePart)
  have hreg₂ := zoneAfter_registers c (es₁.filterMap zonePart)
  refine ⟨?_, ?_, fun k => ?_, ?_, ?_, ?_, ?_⟩
  · exact hx.tuneReady.trans (h.tuneReady.symm.trans hy.tuneReady.symm)
  · exact hx.serialNum.trans ((h.serialNum b).symm.trans hy.serialNum.symm)
  · have hxk := hx.ids k
    have hyk := hy.ids k
    rw [startCore, hzero] at hxk hyk
    exact hxk.trans ((h.ids k).symm.trans hyk.symm)
  · rw [hzone₁, hzone₂, hreg₁.rawOffset, hreg₂.rawOffset, h.zone]
  · rw [hzone₁, hzone₂, hreg₁.usesDaylightTime, hreg₂.usesDaylightTime, h.zone]
  · rw [hzone₁, hzone₂, (zoneAfter_leaves c _).offset,
      (zoneAfter_leaves c _).offset, h.offset]
  · rw [hzone₁, hzone₂, hreg₁.dstSavings, hreg₂.dstSavings, h.offset]

theorem snapshot_sayAlike (hreports : Reports es param)
    (hlegible : LastLegible es) : SayAlike cfg (snapshotEvents param) es := by
  refine ⟨?_, fun b => ?_, fun k => ?_, ?_, ?_⟩
  · apply register_agrees (by decide) hreports
    · exact fun d hstate _ => hstate
    · exact fun d _ => ⟨d.state, rfl, rfl⟩
  · have hempty : lastWritten (about .stbSerialNo fun d => some d.payload)
        .empty (snapshotEvents param) =
        lastWritten (about .stbSerialNo fun d => some d.payload) .empty es := by
      apply register_agrees (by decide) hreports
      · exact fun d _ hpayload => hpayload
      · exact fun d _ => ⟨d.payload, rfl, rfl⟩
    rw [← hempty, lastWritten_snapshot (by decide),
      lastWritten_snapshot (by decide)]
    rfl
  · apply register_agrees (by cases k <;> decide) hreports
    · intro d hstate _
      simp [readReport, hstate]
    · intro d hd
      have hread : d.error = true ∧ d.state ≠ 2 ∨
          d.error = false ∧ d.state = 2 ∧ d.payload.bytes.length > 0 ∧
            isNum d.payload = true := by
        have hk := hlegible _ d hd
        cases k <;> exact hk
      rcases hread with ⟨herror, hstate⟩ | ⟨herror, hstate, hpayload⟩
      · exact ⟨0, by simp [readReport, herror], by simp [readReport, hstate]⟩
      · exact ⟨CStr.strtoul cfg.ulongMax d.payload,
          by simp [readReport, herror, hstate, hpayload],
          by simp [readReport, hstate, hpayload]⟩
  · rw [lastZone_zonePart, lastZone_zonePart]
    apply register_agrees (by decide) hreports
    · intro d hstate _
      simp [ZoneEvent.newZone, hstate]
    · intro d hd
      obtain ⟨herror, hstate, hzone⟩ := hlegible _ d hd
      exact ⟨some d.payload, by simp [ZoneEvent.newZone, herror, hstate, hzone],
        by simp [ZoneEvent.newZone, hstate, hzone]⟩
  · rw [lastOffset_zonePart, lastOffset_zonePart]
    apply register_agrees (by decide) hreports
    · intro d hstate _
      simp [ZoneEvent.newOffset, hstate]
    · intro d hd
      obtain ⟨herror, hstate, -⟩ := hlegible _ d hd
      exact ⟨some d.payload.atoi, by simp [ZoneEvent.newOffset, herror, hstate],
        by simp [ZoneEvent.newOffset, hstate]⟩

/-- Of the offsets the answer has only the one in force. -/
theorem mem_offsetsSince_snapshot :
    0 ∈ offsetsSince ((snapshotEvents param).filterMap zonePart) ↔
      lastOffset ((snapshotEvents param).filterMap zonePart) = some 0 := by
  have hevents : (snapshotEvents param).filterMap zonePart =
      [.timeZone (said .timeZone (param .timeZone)).data] ++
        [.dstOffset (said .dstOffset (param .dstOffset)).data] := rfl
  have hone (d : SystemState) : offsetsSince [.timeZone d] = [1] := by
    show offsetsSince ([] ++ [.timeZone d]) = [1]
    rw [offsetsSince_concat]
    cases (ZoneEvent.timeZone d).newZone <;> rfl
  rw [hevents, offsetsSince_concat, hone, lastOffset_append,
    lastOffset_singleton, lastOffset_singleton]
  cases hd : (ZoneEvent.dstOffset
      (said .dstOffset (param .dstOffset)).data).newOffset with
  | none =>
      refine iff_of_false ?_ ?_
      · show (0 : Int32) ∉ [1]
        decide
      · show (none : Option Int32) ≠ some 0
        exact nofun
  | some d =>
      show (0 : Int32) ∈ [1, d] ↔ some d = some 0
      simp [eq_comm]

/-- The name of the zone, by when the library was started. -/
theorem label_restarted {es₁ es₂ zs : List ZoneEvent}
    (hzone : lastZone es₁ = lastZone es₂)
    (hoffset : lastOffset es₁ = lastOffset es₂)
    (hone : 0 ∈ offsetsSince es₂ ↔ lastOffset es₂ = some 0) :
    label c (es₁ ++ zs) = label c (es₂ ++ zs) ↔
      ¬ ((javaZone es₁ = some (.lit "US/Mountain") ∨
            javaZone es₁ = some (.lit "US/Central")) ∧
          0 ∈ offsetsSince es₁ ∧ lastOffset es₁ ≠ some 0 ∧
          lastZone zs = none ∧ 0 ∉ zs.filterMap ZoneEvent.newOffset) := by
  have hjava : javaZone (es₁ ++ zs) = javaZone (es₂ ++ zs) := by
    rw [javaZone, javaZone, lastZone_append, lastZone_append, hzone]
  rw [label_eq_iff, Alike, and_iff_right hjava]
  cases hzs : lastZone zs with
  | some z =>
      have hne : lastZone zs ≠ none := by
        rw [hzs]
        exact Option.some_ne_none z
      rw [offsetsSince_append_congr hoffset hne]
      simp
  | none =>
      have hfirst : javaZone (es₁ ++ zs) = javaZone es₁ := by
        rw [javaZone, lastZone_append, hzs]
        rfl
      have hlast : lastOffset es₁ = some 0 → 0 ∈ offsetsSince es₁ :=
        mem_offsetsSince
      rw [hfirst, offsetsSince_append hzs, offsetsSince_append hzs,
        List.mem_append, List.mem_append, hone, ← hoffset]
      tauto

end Restart

/-! A gateway in the Mountain zone is started again after an offset of 0 has come
and gone: it has all of its ids and offsets, but another name for the zone. -/

/-- The answers of a system manager that has said `es`. -/
def answersAfter (es : List SysEvent) : SystemStates := fun id =>
  (lastData id es).getD ⟨false, 0, .empty⟩

theorem reports_answersAfter (es : List SysEvent) :
    Reports es (answersAfter es) := by
  refine ⟨fun id d hd => ?_, fun id hd => ?_⟩
  · rw [answersAfter, hd]
    rfl
  · rw [answersAfter, hd]
    exact ⟨rfl, rfl⟩

def bootState : XcalState where
  tuneReady := 0
  serialNum := .lit "null"
  ids := ⟨0, 0, 0, 0⟩
  systemids := .lit "null"
  zone := initZone .xcalDevice
  playbackurl := .lit "null"
  serviceReady := false
  notified := []

def mountainReports : List SysEvent :=
  [⟨.channelmap, ⟨false, 2, .lit "7"⟩, none⟩,
    ⟨.timeZone, ⟨false, 2, .lit "MST07"⟩, none⟩,
    ⟨.dstOffset, ⟨false, 2, .lit "0"⟩, none⟩,
    ⟨.dstOffset, ⟨false, 2, .lit "60"⟩, none⟩]

def plantReport : List SysEvent := [⟨.plantId, ⟨false, 2, .lit "8"⟩, none⟩]

def mountainConfig : XcalConfig := ⟨false, true, false, 0xFFFFFFFFFFFFFFFF⟩

def mountainRunning : XcalState :=
  (mountainReports ++ plantReport).foldl
    (XcalState.sysEventHandler .xcalDevice mountainConfig)
    (bootState.getSystemValues .xcalDevice mountainConfig (answersAfter []))

def mountainRestarted : XcalState :=
  plantReport.foldl (XcalState.sysEventHandler .xcalDevice mountainConfig)
    (bootState.getSystemValues .xcalDevice mountainConfig
      (answersAfter mountainReports))

end Xupnp.XcalDevice
