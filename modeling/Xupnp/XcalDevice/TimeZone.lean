import Mathlib.Data.List.DropRight
import Xupnp.Library.CString

/-!
# The time zone of a device

The system manager reports the time zone and the DST offset in events of their
own, in any order. Arizona and Saskatchewan have no DST, and no name among the
reported zones: they are told from Mountain and Central time by a DST offset
of 0. The code writes the new name over the old one, so that an offset of 0 is
never forgotten before the next time zone arrives. `zone_runs_iff` says which
sequences of events with the same last reports leave the same time zone.
-/

namespace Xupnp.XcalDevice

open Xupnp.Library

/-! ## The code -/

/-- The two copies of the code. -/
inductive Copy where
  /-- `xcal_device_library.c` -/
  | videoLibrary
  /-- `xcal-device.c` -/
  | xcalDevice

/-- What `dsgtimezone` is before the first event. -/
def Copy.unset : Copy → CStr
  | .videoLibrary => .empty
  | .xcalDevice => .lit "null"

/-- Is a DST offset announced with this zone? The library compares with
`NULL`. -/
def Copy.notifies (c : Copy) (dsgtimezone : CStr) : Bool :=
  match c with
  | .videoLibrary => true
  | .xcalDevice => dsgtimezone ≠ .lit "null"

/-- `struct TZStruct` -/
structure TZStruct where
  inputTZ : CStr
  javaTZ : CStr
  rawOffset : Int32
  usesDST : Bool
deriving DecidableEq

def hours (n : Int32) : Int32 := n * 60 * 60 * 1000

def tzStruct : List TZStruct :=
  [⟨.lit "HST11", .lit "US/Hawaii", hours (-11), true⟩,
   ⟨.lit "HST11HDT,M3.2.0,M11.1.0", .lit "US/Hawaii", hours (-11), true⟩,
   ⟨.lit "AKST", .lit "US/Alaska", hours (-9), true⟩,
   ⟨.lit "AKST09AKDT", .lit "US/Alaska", hours (-9), true⟩,
   ⟨.lit "PST08", .lit "US/Pacific", hours (-8), true⟩,
   ⟨.lit "PST08PDT,M3.2.0,M11.1.0", .lit "US/Pacific", hours (-8), true⟩,
   ⟨.lit "MST07", .lit "US/Mountain", hours (-7), true⟩,
   ⟨.lit "MST07MDT,M3.2.0,M11.1.0", .lit "US/Mountain", hours (-7), true⟩,
   ⟨.lit "CST06", .lit "US/Central", hours (-6), true⟩,
   ⟨.lit "CST06CDT,M3.2.0,M11.1.0", .lit "US/Central", hours (-6), true⟩,
   ⟨.lit "EST05", .lit "US/Eastern", hours (-5), true⟩,
   ⟨.lit "EST05EDT,M3.2.0,M11.1.0", .lit "US/Eastern", hours (-5), true⟩]

/-- The globals, and what has been published as `TimeZone`, oldest first. -/
structure ZoneState where
  dsgtimezone : CStr
  dstOffset : Int32
  dstSavings : Int32
  rawOffset : Int32
  usesDaylightTime : Bool
  published : List CStr
deriving DecidableEq

/-- After the initialisation. `dstOffset` is neither 0 nor 60. -/
def initZone (c : Copy) : ZoneState := ⟨c.unset, 1, 0, 0, false, []⟩

/-- `notify_timezone` -/
def notifyTimezone (s : ZoneState) : ZoneState :=
  let s := { s with dsgtimezone := s.dsgtimezone.strip }
  let s :=
    if s.dsgtimezone = .lit "US/Mountain" ∧ s.dstOffset = 0 then
      { s with dsgtimezone := .lit "US/Arizona" }
    else if s.dsgtimezone = .lit "US/Central" ∧ s.dstOffset = 0 then
      { s with dsgtimezone := .lit "Canada/Saskatchewan" }
    else s
  { s with published := s.published ++ [s.dsgtimezone] }

/-- The entry of `tzStruct` for a payload. -/
def findTZ (payload : CStr) : Option TZStruct :=
  tzStruct.find? fun tz => tz.inputTZ = payload

/-- `mapTimeZoneToJavaFormat` -/
def mapTimeZoneToJavaFormat (payload : CStr) (s : ZoneState) : ZoneState :=
  match findTZ payload with
  | none => s
  | some tz =>
      let s := { s with dsgtimezone := tz.javaTZ }
      let s := if s.dstOffset ≠ 1 then notifyTimezone s else s
      { s with rawOffset := tz.rawOffset, usesDaylightTime := tz.usesDST }

/-- `data.systemStates` of an event. -/
structure SystemState where
  error : Bool
  state : ℤ
  payload : CStr
deriving DecidableEq

/-- The events about the time zone. -/
inductive ZoneEvent where
  /-- `IARM_BUS_SYSMGR_SYSSTATE_TIME_ZONE` -/
  | timeZone (d : SystemState)
  /-- `IARM_BUS_SYSMGR_SYSSTATE_DST_OFFSET` -/
  | dstOffset (d : SystemState)
deriving DecidableEq

/-- `_sysEventHandler` -/
def sysEventHandler (c : Copy) (s : ZoneState) : ZoneEvent → ZoneState
  | .timeZone d =>
      if d.error then s
      else if d.state = 2 then
        if d.payload.bytes.length > 1 then
          mapTimeZoneToJavaFormat d.payload s
        else s
      else s
  | .dstOffset d =>
      if d.error then s
      else if d.state = 2 then
        let dstOffset := d.payload.atoi
        let s :=
          { s with
            dstOffset
            dstSavings := dstOffset * 60000
            dsgtimezone := s.dsgtimezone.strip }
        if c.notifies s.dsgtimezone then notifyTimezone s else s
      else s

/-- The events of a run, one after the other. -/
def zoneAfter (c : Copy) (es : List ZoneEvent) : ZoneState :=
  es.foldl (sysEventHandler c) (initZone c)

/-! ## What the events report -/

/-- The payload of a successful event about a known zone. -/
def ZoneEvent.newZone : ZoneEvent → Option CStr
  | .timeZone d =>
      if d.error = false ∧ d.state = 2 ∧ (findTZ d.payload).isSome then
        some d.payload
      else none
  | .dstOffset _ => none

/-- The offset of a successful event. -/
def ZoneEvent.newOffset : ZoneEvent → Option Int32
  | .timeZone _ => none
  | .dstOffset d =>
      if d.error = false ∧ d.state = 2 then some d.payload.atoi else none

def lastZone (es : List ZoneEvent) : Option CStr :=
  es.foldl (fun last e => e.newZone <|> last) none

def lastOffset (es : List ZoneEvent) : Option Int32 :=
  es.foldl (fun last e => e.newOffset <|> last) none

/-- The DST offsets that have been in force since the time zone was last
reported, the one at that time first. -/
def offsetsSince (es : List ZoneEvent) : List Int32 :=
  es.foldl
    (fun offsets e =>
      match e.newOffset, e.newZone with
      | some d, _ => offsets ++ [d]
      | none, some _ => [offsets.getLastD 1]
      | none, none => offsets)
    [1]

/-- The name of the zone last reported. -/
def javaZone (es : List ZoneEvent) : Option CStr :=
  (lastZone es).bind fun z => (findTZ z).map TZStruct.javaTZ

/-- The events up to the last one about the DST offset. -/
def heard (es : List ZoneEvent) : List ZoneEvent :=
  es.rdropWhile fun e => e.newOffset.isNone

/-- Both report the same zone, and if an offset of 0 gives it another name, it
has been in force in both of them or in neither. -/
def Alike (es₁ es₂ : List ZoneEvent) : Prop :=
  javaZone es₁ = javaZone es₂ ∧
    (javaZone es₁ = some (.lit "US/Mountain") ∨
        javaZone es₁ = some (.lit "US/Central") →
      (0 ∈ offsetsSince es₁ ↔ 0 ∈ offsetsSince es₂))

/-! ## One event more -/

section OneMore

variable {es : List ZoneEvent} {e : ZoneEvent}

theorem lastZone_concat :
    lastZone (es ++ [e]) = (e.newZone <|> lastZone es) := by
  unfold lastZone
  rw [List.foldl_append]
  rfl

theorem lastOffset_concat :
    lastOffset (es ++ [e]) = (e.newOffset <|> lastOffset es) := by
  unfold lastOffset
  rw [List.foldl_append]
  rfl

theorem lastOffset_concat_none (h : e.newOffset = none) :
    lastOffset (es ++ [e]) = lastOffset es := by
  rw [lastOffset_concat, h]
  rfl

theorem offsetsSince_concat :
    offsetsSince (es ++ [e]) =
      match e.newOffset, e.newZone with
      | some d, _ => offsetsSince es ++ [d]
      | none, some _ => [(offsetsSince es).getLastD 1]
      | none, none => offsetsSince es := by
  unfold offsetsSince
  rw [List.foldl_append]
  rfl

theorem heard_concat :
    heard (es ++ [e]) = if e.newOffset = none then heard es else es ++ [e] := by
  rw [heard, List.rdropWhile_concat]
  simp [heard]

/-- An event reports a zone, an offset, or nothing. -/
theorem newOffset_of_newZone {z : CStr} (h : e.newZone = some z) :
    e.newOffset = none := by
  cases e with
  | timeZone d => rfl
  | dstOffset d => cases h

/-- The offset in force is the last one reported. -/
theorem offsetsSince_getLastD (es : List ZoneEvent) :
    (offsetsSince es).getLastD 1 = (lastOffset es).getD 1 := by
  induction es using List.reverseRecOn with
  | nil => rfl
  | append_singleton es e ih =>
      rw [offsetsSince_concat, lastOffset_concat]
      cases e.newOffset with
      | some d => simp
      | none =>
          cases e.newZone with
          | none => exact ih
          | some z => exact ih

end OneMore

/-! ## Names -/

/-- What an offset of 0 makes of a zone. -/
def rename (zone : CStr) (zero : Bool) : CStr :=
  if zone = .lit "US/Mountain" ∧ zero then .lit "US/Arizona"
  else if zone = .lit "US/Central" ∧ zero then .lit "Canada/Saskatchewan"
  else zone

/-- The name the events leave. -/
def label (c : Copy) (es : List ZoneEvent) : CStr :=
  rename ((javaZone es).getD c.unset) (decide (0 ∈ offsetsSince es))

/-- What is announced after the events, if the last one is announced. -/
def announcement (c : Copy) (es : List ZoneEvent) : Option CStr :=
  if javaZone es = none ∧ c.notifies c.unset = false then none
  else some (label c es)

/-- What has been announced last. A zone that arrives while the offset in force
is 1 is not announced. -/
def told (c : Copy) (es : List ZoneEvent) : Option CStr :=
  match lastOffset es with
  | none => none
  | some d => announcement c (if d = 1 then heard es else es)

theorem notifyTimezone_eq (s : ZoneState) :
    notifyTimezone s =
      let zone := rename s.dsgtimezone.strip (decide (s.dstOffset = 0))
      { s with dsgtimezone := zone, published := s.published ++ [zone] } := by
  rw [notifyTimezone, rename]
  simp only [decide_eq_true_eq]
  split_ifs <;> rfl

theorem rename_rename (zone : CStr) (a b : Bool) :
    rename (rename zone a) b = rename zone (a || b) := by
  have harizona : rename (.lit "US/Arizona") b = .lit "US/Arizona" := by
    revert b
    decide
  have hsaskatchewan : rename (.lit "Canada/Saskatchewan") b =
      .lit "Canada/Saskatchewan" := by
    revert b
    decide
  cases a with
  | false => simp [rename]
  | true =>
      by_cases hm : zone = .lit "US/Mountain"
      · rw [hm]
        exact harizona
      · by_cases hc : zone = .lit "US/Central"
        · rw [hc]
          exact hsaskatchewan
        · simp [rename, hm, hc]

theorem findTZ_some {payload : CStr} {tz : TZStruct}
    (h : findTZ payload = some tz) :
    tz ∈ tzStruct ∧ tz.inputTZ = payload := by
  rw [findTZ] at h
  exact ⟨List.mem_of_find?_eq_some h, by simpa using List.find?_some h⟩

/-- The names of `tzStruct`. -/
def javaZones : List CStr := tzStruct.map TZStruct.javaTZ

theorem mem_javaZones {es : List ZoneEvent} {zone : CStr}
    (h : javaZone es = some zone) : zone ∈ javaZones := by
  obtain ⟨z, -, hz⟩ := Option.bind_eq_some_iff.mp h
  obtain ⟨tz, htz, rfl⟩ := Option.map_eq_some_iff.mp hz
  exact List.mem_map_of_mem (findTZ_some htz).1

/-- The names differ, from one another and from those of an offset of 0. -/
theorem rename_eq_iff : ∀ z₁ ∈ javaZones, ∀ z₂ ∈ javaZones, ∀ a b : Bool,
    rename z₁ a = rename z₂ b ↔
      z₁ = z₂ ∧ (z₁ = .lit "US/Mountain" ∨ z₁ = .lit "US/Central" → a = b) := by
  decide +kernel

theorem rename_strip : ∀ z ∈ javaZones, ∀ a : Bool,
    (rename z a).strip = rename z a := by
  decide +kernel

theorem rename_unset (c : Copy) (a : Bool) : rename c.unset a = c.unset := by
  cases c <;> cases a <;> decide

/-- The value before the first event is the name of no zone. -/
theorem rename_ne_unset : ∀ z ∈ javaZones, ∀ a : Bool,
    rename z a ≠ .lit "null" ∧ rename z a ≠ .empty := by
  decide +kernel

theorem inputTZ_length : ∀ tz ∈ tzStruct, tz.inputTZ.bytes.length > 1 := by
  decide +kernel

theorem label_strip (c : Copy) (es : List ZoneEvent) :
    (label c es).strip = label c es := by
  unfold label
  cases hz : javaZone es with
  | none =>
      rw [Option.getD_none, rename_unset]
      cases c <;> decide
  | some zone => exact rename_strip zone (mem_javaZones hz) _

/-- An offset is announced with every zone, and with no zone only by the
library. -/
theorem notifies_label (c : Copy) (es : List ZoneEvent) :
    c.notifies (label c es) = true ↔
      ¬ (javaZone es = none ∧ c.notifies c.unset = false) := by
  unfold label
  cases hz : javaZone es with
  | none =>
      rw [Option.getD_none, rename_unset]
      simp
  | some zone =>
      refine iff_of_true ?_ (by simp)
      cases c with
      | videoLibrary => rfl
      | xcalDevice =>
          exact decide_eq_true
            (rename_ne_unset zone (mem_javaZones hz) _).1

/-- **Names tell the events apart.** -/
theorem label_eq_iff (c : Copy) (es₁ es₂ : List ZoneEvent) :
    label c es₁ = label c es₂ ↔ Alike es₁ es₂ := by
  have hunset : ∀ es zone a, javaZone es = some zone →
      rename zone a ≠ c.unset := by
    intro es zone a hz
    obtain ⟨hnull, hempty⟩ := rename_ne_unset zone (mem_javaZones hz) a
    cases c with
    | videoLibrary => exact hempty
    | xcalDevice => exact hnull
  unfold label Alike
  cases h₁ : javaZone es₁ with
  | none =>
      cases h₂ : javaZone es₂ with
      | none => simp [rename_unset]
      | some z₂ =>
          rw [Option.getD_none, Option.getD_some, rename_unset]
          exact iff_of_false (fun h => hunset es₂ z₂ _ h₂ h.symm) (by simp)
  | some z₁ =>
      cases h₂ : javaZone es₂ with
      | none =>
          rw [Option.getD_none, Option.getD_some, rename_unset]
          exact iff_of_false (hunset es₁ z₁ _ h₁) (by simp)
      | some z₂ =>
          rw [Option.getD_some, Option.getD_some,
            rename_eq_iff z₁ (mem_javaZones h₁) z₂ (mem_javaZones h₂),
            decide_eq_decide]
          simp only [Option.some.injEq]

theorem announcement_eq_iff (c : Copy) (es₁ es₂ : List ZoneEvent) :
    announcement c es₁ = announcement c es₂ ↔ Alike es₁ es₂ := by
  rw [← label_eq_iff c]
  unfold announcement
  by_cases h₁ : javaZone es₁ = none ∧ c.notifies c.unset = false
  · by_cases h₂ : javaZone es₂ = none ∧ c.notifies c.unset = false
    · rw [if_pos h₁, if_pos h₂]
      simp [label, h₁.1, h₂.1, rename_unset]
    · rw [if_pos h₁, if_neg h₂]
      apply iff_of_false (by simp)
      intro h
      have := (notifies_label c es₂).mpr h₂
      rw [← h] at this
      exact (notifies_label c es₁).mp this h₁
  · by_cases h₂ : javaZone es₂ = none ∧ c.notifies c.unset = false
    · rw [if_neg h₁, if_pos h₂]
      apply iff_of_false (by simp)
      intro h
      have := (notifies_label c es₁).mpr h₁
      rw [h] at this
      exact (notifies_label c es₂).mp this h₂
    · rw [if_neg h₁, if_neg h₂, Option.some.injEq]

/-! ## One event -/

section Handler

variable {c : Copy} {s : ZoneState} {e : ZoneEvent}

/-- A zone that is reported is in `tzStruct`. -/
theorem findTZ_of_newZone {z : CStr} (h : e.newZone = some z) :
    ∃ tz, findTZ z = some tz := by
  cases e with
  | dstOffset d => cases h
  | timeZone d =>
      rw [ZoneEvent.newZone] at h
      split at h
      · next hd =>
          obtain rfl := Option.some.inj h
          exact Option.isSome_iff_exists.mp hd.2.2
      · cases h

theorem sysEventHandler_zone {z : CStr} (h : e.newZone = some z) :
    sysEventHandler c s e = mapTimeZoneToJavaFormat z s := by
  obtain ⟨tz, htz⟩ := findTZ_of_newZone h
  obtain ⟨hmem, hinput⟩ := findTZ_some htz
  have hlen : z.bytes.length > 1 := hinput ▸ inputTZ_length tz hmem
  cases e with
  | dstOffset d => cases h
  | timeZone d =>
      rw [ZoneEvent.newZone] at h
      split at h
      · next hd =>
          obtain rfl := Option.some.inj h
          simp [sysEventHandler, hd, hlen]
      · cases h

theorem sysEventHandler_offset {d : Int32} (h : e.newOffset = some d) :
    sysEventHandler c s e =
      let s := { s with
        dstOffset := d
        dstSavings := d * 60000
        dsgtimezone := s.dsgtimezone.strip }
      if c.notifies s.dsgtimezone then notifyTimezone s else s := by
  cases e with
  | timeZone d => cases h
  | dstOffset d =>
      rw [ZoneEvent.newOffset] at h
      split at h
      · next hd =>
          obtain rfl := Option.some.inj h
          simp [sysEventHandler, hd]
      · cases h

/-- The other events change nothing. -/
theorem sysEventHandler_none (hz : e.newZone = none)
    (hd : e.newOffset = none) : sysEventHandler c s e = s := by
  cases e with
  | timeZone d =>
      by_cases hd : d.error = false ∧ d.state = 2
      · have hfind : findTZ d.payload = none := by
          rw [ZoneEvent.newZone] at hz
          simpa [hd] using hz
        simp [sysEventHandler, mapTimeZoneToJavaFormat, hfind]
      · rw [not_and] at hd
        rw [sysEventHandler]
        cases herror : d.error with
        | true => rfl
        | false => simp [hd herror]
  | dstOffset d =>
      have hd : ¬ (d.error = false ∧ d.state = 2) := by
        intro h
        rw [ZoneEvent.newOffset, if_pos h] at hd
        cases hd
      rw [not_and] at hd
      rw [sysEventHandler]
      cases herror : d.error with
      | true => rfl
      | false => simp [hd herror]

end Handler

/-! ## Sequences of events -/

/-- What a sequence of events leaves behind. -/
structure Leaves (c : Copy) (es : List ZoneEvent) (s : ZoneState) : Prop where
  zone : s.dsgtimezone = label c es
  offset : s.dstOffset = (lastOffset es).getD 1
  told : s.published.getLast? = told c es

theorem leaves_nil (c : Copy) : Leaves c [] (initZone c) :=
  ⟨(rename_unset c _).symm, rfl, rfl⟩

section Step

variable {c : Copy} {es : List ZoneEvent} {s : ZoneState} {e : ZoneEvent}

/-- The step for a new zone: it is renamed, and announced, unless the offset in
force is 1. -/
theorem Leaves.zone_step {z : CStr} (h : Leaves c es s)
    (hz : e.newZone = some z) :
    Leaves c (es ++ [e]) (sysEventHandler c s e) := by
  obtain ⟨tz, htz⟩ := findTZ_of_newZone hz
  have hd := newOffset_of_newZone hz
  have hjava : javaZone (es ++ [e]) = some tz.javaTZ := by
    rw [javaZone, lastZone_concat, hz]
    exact congrArg (Option.map TZStruct.javaTZ) htz
  have hsince : offsetsSince (es ++ [e]) = [s.dstOffset] := by
    rw [offsetsSince_concat, hd, hz, h.offset, ← offsetsSince_getLastD]
  have hlast : lastOffset (es ++ [e]) = lastOffset es :=
    lastOffset_concat_none hd
  have hlabel : label c (es ++ [e]) =
      rename tz.javaTZ (decide (s.dstOffset = 0)) := by
    rw [label, hjava, hsince, Option.getD_some]
    simp [eq_comm]
  have hstrip : tz.javaTZ.strip = tz.javaTZ := by
    have := rename_strip tz.javaTZ (mem_javaZones hjava) false
    simpa [rename] using this
  rw [sysEventHandler_zone hz, mapTimeZoneToJavaFormat, htz]
  dsimp only
  by_cases hone : s.dstOffset = 1
  · rw [if_neg (not_not.mpr hone)]
    refine ⟨?_, ?_, ?_⟩
    · rw [hlabel, hone]
      simp [rename]
    · rw [hlast]
      exact h.offset
    · apply h.told.trans
      rw [XcalDevice.told, XcalDevice.told, hlast, heard_concat, if_pos hd]
      cases hoff : lastOffset es with
      | none => rfl
      | some d =>
          have hd1 : d = 1 := by
            rw [← hone, h.offset, hoff]
            rfl
          dsimp only
          rw [if_pos hd1, if_pos hd1]
  · rw [if_pos hone, notifyTimezone_eq]
    dsimp only
    rw [hstrip]
    refine ⟨hlabel.symm, ?_, ?_⟩
    · rw [hlast]
      exact h.offset
    · rw [List.getLast?_concat, XcalDevice.told, hlast]
      cases hoff : lastOffset es with
      | none =>
          rw [h.offset, hoff] at hone
          exact absurd rfl hone
      | some d =>
          have hd1 : d ≠ 1 := by
            rw [h.offset, hoff] at hone
            exact hone
          dsimp only
          rw [if_neg hd1, announcement, if_neg (by simp [hjava]), hlabel]

theorem javaZone_concat (hz : e.newZone = none) :
    javaZone (es ++ [e]) = javaZone es := by
  rw [javaZone, lastZone_concat, hz]
  rfl

theorem javaZone_heard (h : javaZone es = none) : javaZone (heard es) = none := by
  induction es using List.reverseRecOn with
  | nil => rfl
  | append_singleton es e ih =>
      rw [heard_concat]
      split
      · cases hz : e.newZone with
        | none =>
            rw [javaZone_concat hz] at h
            exact ih h
        | some z =>
            obtain ⟨tz, htz⟩ := findTZ_of_newZone hz
            rw [javaZone, lastZone_concat, hz] at h
            exact absurd h (by simp [htz])
      · exact h

/-- The step for a new offset. -/
theorem Leaves.offset_step {d : Int32} (h : Leaves c es s)
    (hd : e.newOffset = some d) :
    Leaves c (es ++ [e]) (sysEventHandler c s e) := by
  have hz : e.newZone = none := by
    cases hz : e.newZone with
    | none => rfl
    | some z => rw [newOffset_of_newZone hz] at hd; cases hd
  have hjava : javaZone (es ++ [e]) = javaZone es := javaZone_concat hz
  have hlast : lastOffset (es ++ [e]) = some d := by
    rw [lastOffset_concat, hd]
    rfl
  have hlabel : label c (es ++ [e]) =
      rename (label c es) (decide (d = 0)) := by
    rw [label, label, hjava, rename_rename, offsetsSince_concat, hd]
    congr 1
    simp [eq_comm]
  have htold : XcalDevice.told c (es ++ [e]) = announcement c (es ++ [e]) := by
    rw [XcalDevice.told, hlast]
    dsimp only
    split
    · rw [heard_concat, if_neg (by rw [hd]; exact Option.some_ne_none d)]
    · rfl
  rw [sysEventHandler_offset hd]
  dsimp only
  rw [h.zone, label_strip]
  by_cases hsays : c.notifies (label c es) = true
  · rw [if_pos hsays, notifyTimezone_eq]
    dsimp only
    rw [label_strip]
    refine ⟨hlabel.symm, by rw [hlast]; rfl, ?_⟩
    rw [List.getLast?_concat, htold, announcement, hjava,
      if_neg ((notifies_label c es).mp hsays), hlabel]
  · -- No zone yet, and nothing to announce.
    obtain ⟨hnone, hunset⟩ := not_not.mp (mt (notifies_label c es).mpr hsays)
    rw [if_neg hsays]
    refine ⟨?_, by rw [hlast]; rfl, ?_⟩
    · rw [hlabel, label, hnone, rename_rename, Option.getD_none, rename_unset,
        rename_unset]
    · rw [htold, announcement, hjava, if_pos ⟨hnone, hunset⟩]
      apply h.told.trans
      rw [XcalDevice.told]
      cases lastOffset es with
      | none => rfl
      | some d' =>
          refine if_pos ⟨?_, hunset⟩
          split
          · exact javaZone_heard hnone
          · exact hnone

/-- The step for an event that reports nothing. -/
theorem Leaves.none_step (h : Leaves c es s) (hz : e.newZone = none)
    (hd : e.newOffset = none) :
    Leaves c (es ++ [e]) (sysEventHandler c s e) := by
  have hlast : lastOffset (es ++ [e]) = lastOffset es :=
    lastOffset_concat_none hd
  have hlabel : label c (es ++ [e]) = label c es := by
    rw [label, javaZone_concat hz, offsetsSince_concat, hd, hz, label]
  rw [sysEventHandler_none hz hd]
  refine ⟨h.zone.trans hlabel.symm, by rw [hlast]; exact h.offset, ?_⟩
  apply h.told.trans
  rw [XcalDevice.told, XcalDevice.told, hlast, heard_concat, if_pos hd]
  cases lastOffset es with
  | none => rfl
  | some d =>
      dsimp only
      split
      · rfl
      · rw [announcement, announcement, javaZone_concat hz, hlabel]

end Step

/-- **What every sequence of events leaves behind.** -/
theorem zoneAfter_leaves (c : Copy) (es : List ZoneEvent) :
    Leaves c es (zoneAfter c es) := by
  induction es using List.reverseRecOn with
  | nil => exact leaves_nil c
  | append_singleton es e ih =>
      have hsnoc : zoneAfter c (es ++ [e]) =
          sysEventHandler c (zoneAfter c es) e := by
        rw [zoneAfter, List.foldl_append]
        rfl
      rw [hsnoc]
      cases hz : e.newZone with
      | some z => exact ih.zone_step hz
      | none =>
          cases hd : e.newOffset with
          | some d => exact ih.offset_step hd
          | none => exact ih.none_step hz hd

/-- **When the last reports decide.** Two sequences of events with the same
last zone and the same last offset leave and publish the same name exactly if
an offset of 0 has been in force since that zone in both or in neither, where
the zone has another name for it; and if the last offset is 1, which stands
for none, if they agree up to where it was reported. -/
theorem zone_runs_iff (c : Copy) {es₁ es₂ : List ZoneEvent}
    (hzone : lastZone es₁ = lastZone es₂)
    (hoffset : lastOffset es₁ = lastOffset es₂) :
    ((zoneAfter c es₁).dsgtimezone = (zoneAfter c es₂).dsgtimezone ∧
        (zoneAfter c es₁).published.getLast? =
          (zoneAfter c es₂).published.getLast?) ↔
      (javaZone es₁ = some (.lit "US/Mountain") ∨
          javaZone es₁ = some (.lit "US/Central") →
        (0 ∈ offsetsSince es₁ ↔ 0 ∈ offsetsSince es₂)) ∧
      (lastOffset es₁ = some 1 → Alike (heard es₁) (heard es₂)) := by
  have hjava : javaZone es₁ = javaZone es₂ := by
    rw [javaZone, hzone, javaZone]
  have halike : Alike es₁ es₂ ↔
      (javaZone es₁ = some (.lit "US/Mountain") ∨
          javaZone es₁ = some (.lit "US/Central") →
        (0 ∈ offsetsSince es₁ ↔ 0 ∈ offsetsSince es₂)) :=
    and_iff_right hjava
  have h₁ := zoneAfter_leaves c es₁
  have h₂ := zoneAfter_leaves c es₂
  rw [← halike, h₁.zone, h₂.zone, h₁.told, h₂.told, label_eq_iff]
  apply and_congr_right
  intro hsame
  rw [told, told, ← hoffset]
  cases hd : lastOffset es₁ with
  | none => simp
  | some d =>
      dsimp only
      rw [announcement_eq_iff]
      by_cases hone : d = 1
      · simp [hone]
      · simp [hone, hsame]

/-- Pacific time and an offset of 60, in either order, with an offset of 0 in
between. -/
theorem zone_runs_pacific :
    (zoneAfter .videoLibrary
        [.timeZone ⟨false, 2, .lit "PST08"⟩, .dstOffset ⟨false, 2, .lit "0"⟩,
          .dstOffset ⟨false, 2, .lit "60"⟩]).dsgtimezone =
      (zoneAfter .videoLibrary
        [.dstOffset ⟨false, 2, .lit "60"⟩,
          .timeZone ⟨false, 2, .lit "PST08"⟩]).dsgtimezone :=
  ((zone_runs_iff .videoLibrary (by decide +kernel) (by decide +kernel)).mpr
    ⟨by decide +kernel, fun h => absurd h (by decide +kernel)⟩).1

/-- Mountain time, an offset of 0, and an offset of 60 again: the name stays
that of Arizona. -/
theorem zone_runs_arizona :
    lastZone
        [.timeZone ⟨false, 2, .lit "MST07MDT,M3.2.0,M11.1.0"⟩,
          .dstOffset ⟨false, 2, .lit "0"⟩, .dstOffset ⟨false, 2, .lit "60"⟩] =
      lastZone
        [.timeZone ⟨false, 2, .lit "MST07MDT,M3.2.0,M11.1.0"⟩,
          .dstOffset ⟨false, 2, .lit "60"⟩] ∧
    lastOffset
        [.timeZone ⟨false, 2, .lit "MST07MDT,M3.2.0,M11.1.0"⟩,
          .dstOffset ⟨false, 2, .lit "0"⟩, .dstOffset ⟨false, 2, .lit "60"⟩] =
      lastOffset
        [.timeZone ⟨false, 2, .lit "MST07MDT,M3.2.0,M11.1.0"⟩,
          .dstOffset ⟨false, 2, .lit "60"⟩] ∧
    (zoneAfter .videoLibrary
        [.timeZone ⟨false, 2, .lit "MST07MDT,M3.2.0,M11.1.0"⟩,
          .dstOffset ⟨false, 2, .lit "0"⟩,
          .dstOffset ⟨false, 2, .lit "60"⟩]).dsgtimezone =
      .lit "US/Arizona" ∧
    (zoneAfter .videoLibrary
        [.timeZone ⟨false, 2, .lit "MST07MDT,M3.2.0,M11.1.0"⟩,
          .dstOffset ⟨false, 2, .lit "60"⟩]).dsgtimezone =
      .lit "US/Mountain" := by
  decide +kernel

end Xupnp.XcalDevice
