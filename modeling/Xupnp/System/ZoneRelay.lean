import Xupnp.Discovery.Steps
import Xupnp.Discovery.ZoneBroadcast
import Xupnp.XcalDevice.TimeZone

/-!
# A time zone on its way from box to box

The system manager of a gateway reports a zone to the device library
(`_sysEventHandler`), which announces it by a name. The daemon of another box
puts that name into the record of the gateway and reports it, as a payload, to
its own system manager (`broadcastTimeZoneChange`), whose events reach the
device library of that box. `zone_relayed` says which zones arrive.
-/

namespace Xupnp.System

open Xupnp.Library Xupnp.WhiteList Xupnp.Discovery Xupnp.XcalDevice

/-! ## The path -/

/-- `eventData.data.systemStates`, as `broadcastTimeZoneChange` fills it. -/
def tzEvent (payload : CStr) : ZoneEvent := .timeZone ⟨false, 2, payload⟩

/-- The events the daemon's broadcasts are to the library on the same box. -/
def relayed (cfg : Settings) (news : List ZoneNews) : List ZoneEvent :=
  (news.foldl (zoneNews cfg) noZoneCast).sent.map tzEvent

/-- The name of the zone that a payload stands for. -/
def knownZone (payload : CStr) : Option CStr :=
  (findTZ payload).map TZStruct.javaTZ

/-- The gateway has not given its zone the name of one without DST, and the
zone is not Alaska observing DST. -/
def Relayable (c : Copy) (es : List ZoneEvent) (d : GwyDeviceData) : Prop :=
  javaZone es = some (label c es) ∧
    (label c es = .lit "US/Alaska" → d.usesdaylighttime = false)

instance (c : Copy) (es : List ZoneEvent) (d : GwyDeviceData) :
    Decidable (Relayable c es d) :=
  inferInstanceAs (Decidable (_ ∧ (_ → _)))

/-! ## At the end of the path -/

theorem tzEvent_newZone (payload : CStr) :
    (tzEvent payload).newZone =
      if (findTZ payload).isSome then some payload else none := by
  simp [tzEvent, ZoneEvent.newZone]

theorem javaZone_tzEvent (es : List ZoneEvent) (payload : CStr) :
    javaZone (es ++ [tzEvent payload]) =
      (knownZone payload <|> javaZone es) := by
  rw [javaZone, lastZone_concat, tzEvent_newZone, knownZone]
  cases hfind : findTZ payload with
  | none => rfl
  | some tz => simp [hfind]

/-- The zone is that of the last payload that is known. -/
theorem javaZone_payloads (mine : List ZoneEvent) (payloads : List CStr) :
    javaZone (mine ++ payloads.map tzEvent) =
      ((payloads.filterMap knownZone).getLast? <|> javaZone mine) := by
  induction payloads using List.reverseRecOn with
  | nil => simp
  | append_singleton payloads p ih =>
      rw [List.map_append, ← List.append_assoc, List.map_singleton,
        javaZone_tzEvent, ih, List.filterMap_append]
      cases hp : knownZone p with
      | none => simp [hp]
      | some z => simp [hp]

theorem offsetsSince_tzEvent (es : List ZoneEvent) (payload : CStr) :
    offsetsSince (es ++ [tzEvent payload]) =
      if (knownZone payload).isSome then [(offsetsSince es).getLastD 1]
      else offsetsSince es := by
  rw [offsetsSince_concat, tzEvent_newZone, knownZone, Option.isSome_map]
  cases (findTZ payload).isSome <;> rfl

/-- Broadcasts say nothing of the offset: a zone that arrives keeps the one in
force. -/
theorem offsetsSince_payloads (mine : List ZoneEvent) (payloads : List CStr) :
    offsetsSince (mine ++ payloads.map tzEvent) =
      if payloads.filterMap knownZone = [] then offsetsSince mine
      else [(lastOffset mine).getD 1] := by
  induction payloads using List.reverseRecOn with
  | nil => simp
  | append_singleton payloads p ih =>
      rw [List.map_append, ← List.append_assoc, List.map_singleton,
        offsetsSince_tzEvent, ih, List.filterMap_append]
      cases hp : knownZone p with
      | none => simp [hp]
      | some z =>
          simp only [Option.isSome_some, if_true, List.filterMap_cons, hp,
            List.filterMap_nil, List.append_eq_nil_iff, List.cons_ne_nil,
            and_false, if_false]
          split
          · rw [offsetsSince_getLastD]
          · rfl

/-! ## Between the boxes -/

/-- What is sent for a zone of the table is known, but for one. -/
theorem knownZone_keyPayload {d : GwyDeviceData} {k : ℕ × Bool}
    (hk : zoneKey d = some k) :
    knownZone (keyPayload k) =
      if d.dsgtimezone = .lit "US/Alaska" ∧ d.usesdaylighttime = true then none
      else some d.dsgtimezone := by
  have hall : ∀ i : Fin mTimezoneinfo.length, ∀ b : Bool,
      knownZone (keyPayload (i, b)) =
        if mTimezoneinfo[i].upnpTZ = .lit "US/Alaska" ∧ b = true then none
        else some mTimezoneinfo[i].upnpTZ := by
    decide +kernel
  obtain ⟨i, hi, rfl⟩ := Option.map_eq_some_iff.mp hk
  obtain ⟨hlt, hname, -⟩ := List.findIdx?_eq_some_iff_getElem.mp hi
  rw [← of_decide_eq_true hname]
  exact hall ⟨i, hlt⟩ d.usesdaylighttime

/-- The table has the names of all the zones but the renamed ones. -/
theorem zoneKey_label {c : Copy} {es : List ZoneEvent} {d : GwyDeviceData}
    (hd : d.dsgtimezone = label c es) :
    (zoneKey d).isSome ↔ javaZone es = some (label c es) := by
  have hall : ∀ z ∈ javaZones, ∀ zero : Bool,
      (∃ info ∈ mTimezoneinfo, info.upnpTZ = rename z zero) ↔
        z = rename z zero := by
    decide +kernel
  rw [zoneKey, Option.isSome_map, List.findIdx?_isSome, List.any_eq_true]
  simp only [decide_eq_true_eq, hd]
  unfold label
  cases hz : javaZone es with
  | some z =>
      rw [Option.getD_some, Option.some.injEq]
      exact hall z (mem_javaZones hz) _
  | none =>
      rw [Option.getD_none, rename_unset]
      refine iff_of_false ?_ (by simp)
      cases c <;> decide +kernel

/-- What the next change to a record of the zone sends, and the library of the
box makes of it. -/
theorem zoneCall_label {c : Copy} {es : List ZoneEvent} {d : GwyDeviceData}
    (hd : d.dsgtimezone.strip = label c es) :
    ((zoneCall d).bind zoneKey).bind (fun k => knownZone (keyPayload k)) =
      if Relayable c es d then some (label c es) else none := by
  have hstrip : (d.strip .dsgtimezone).dsgtimezone = label c es := hd
  have hkey := zoneKey_label hstrip
  have hnull : label c es = .lit "null" → javaZone es ≠ some (label c es) := by
    intro hnull hz
    refine absurd (mem_javaZones hz) ?_
    rw [hnull]
    decide +kernel
  have hdst : (d.strip .dsgtimezone).usesdaylighttime = d.usesdaylighttime :=
    rfl
  rw [zoneCall, hstrip]
  by_cases hz : javaZone es = some (label c es)
  · rw [if_pos fun hlabel => hnull hlabel hz, Option.bind_some]
    obtain ⟨k, hk⟩ := Option.isSome_iff_exists.mp (hkey.mpr hz)
    rw [hk, Option.bind_some, knownZone_keyPayload hk, hstrip, hdst]
    by_cases halaska : label c es = .lit "US/Alaska" ∧
        d.usesdaylighttime = true
    · have hnot : ¬ Relayable c es d := fun h => by
        have hoff := h.2 halaska.1
        rw [halaska.2] at hoff
        cases hoff
      rw [if_pos halaska, if_neg hnot]
    · have hrelay : Relayable c es d :=
        ⟨hz, fun hlabel => Bool.eq_false_iff.mpr fun h => halaska ⟨hlabel, h⟩⟩
      rw [if_neg halaska, if_pos hrelay]
  · have hnone : zoneKey (d.strip .dsgtimezone) = none :=
      Option.not_isSome_iff_eq_none.mp fun h => hz (hkey.mp h)
    have hnot : ¬ Relayable c es d := fun h => hz h.1
    rw [if_neg hnot]
    split
    · rw [Option.bind_some, hnone]
      rfl
    · rfl

/-! ## From end to end -/

/-- The zone that has arrived last. -/
def arrived (cfg : Settings) (news : List ZoneNews) : Option CStr :=
  ((news.foldl (zoneNews cfg) noZoneCast).sent.filterMap knownZone).getLast?

section Relay

variable {cfg : Settings} {c c' : Copy} {es mine : List ZoneEvent}
  {news : List ZoneNews} {d : GwyDeviceData}

theorem zoneKeys_changed (htz : cfg.tzUpdate = true) :
    zoneKeys cfg (news ++ [.changed d]) =
      zoneKeys cfg news ++ ((zoneCall d).bind zoneKey).toList := by
  simp only [zoneKeys, htz, if_true, List.flatMap_append, List.filterMap_append]
  congr 1
  cases hcall : zoneCall d with
  | none => simp [ZoneNews.gateways, hcall]
  | some g =>
      cases hkey : zoneKey g with
      | none => simp [ZoneNews.gateways, hcall, hkey]
      | some k => simp [ZoneNews.gateways, hcall, hkey]

/-- The repetitions that are not sent are not missed. -/
theorem arrived_eq (cfg : Settings) (news : List ZoneNews) :
    arrived cfg news =
      ((zoneKeys cfg news).filterMap
        fun k => knownZone (keyPayload k)).getLast? := by
  have hruns := remembers_start.calls (news.flatMap (ZoneNews.calls cfg))
  rw [← foldl_zoneNews, zoneKeys_eq] at hruns
  rw [arrived, hruns.sent, List.filterMap_map]
  exact OnChange.getLast?_filterMap_told _ _

theorem arrived_changed (htz : cfg.tzUpdate = true)
    (hd : d.dsgtimezone.strip = label c es) :
    arrived cfg (news ++ [.changed d]) =
      if Relayable c es d then some (label c es) else arrived cfg news := by
  have hcall := zoneCall_label hd
  rw [arrived_eq, arrived_eq, zoneKeys_changed htz, List.filterMap_append,
    List.getLast?_append]
  cases hkey : (zoneCall d).bind zoneKey with
  | none =>
      rw [hkey, Option.bind_none] at hcall
      have hnot : ¬ Relayable c es d := fun h => by
        rw [if_pos h] at hcall
        cases hcall
      rw [if_neg hnot]
      rfl
  | some k =>
      rw [hkey, Option.bind_some] at hcall
      rw [Option.toList_some, List.filterMap_cons, hcall]
      by_cases hrelay : Relayable c es d
      · rw [if_pos hrelay, if_pos hrelay]
        rfl
      · rw [if_neg hrelay, if_neg hrelay]
        rfl

/-- What arrives is what the library of the box goes by. -/
theorem zone_arrived (c' : Copy) (mine : List ZoneEvent) (cfg : Settings)
    (news : List ZoneNews) :
    (zoneAfter c' (mine ++ relayed cfg news)).dsgtimezone =
      match arrived cfg news with
      | some zone => rename zone (decide (lastOffset mine = some 0))
      | none => (zoneAfter c' mine).dsgtimezone := by
  rw [(zoneAfter_leaves c' _).zone, (zoneAfter_leaves c' mine).zone, label,
    label, relayed, javaZone_payloads, offsetsSince_payloads]
  cases harrived : arrived cfg news with
  | none =>
      have hnil := List.getLast?_eq_none_iff.mp harrived
      rw [arrived] at harrived
      rw [harrived, hnil, if_pos rfl]
      rfl
  | some zone =>
      rw [arrived] at harrived
      have hne : (news.foldl (zoneNews cfg) noZoneCast).sent.filterMap
          knownZone ≠ [] := by
        intro hnil
        rw [hnil] at harrived
        cases harrived
      have hzero : 0 ∈ [(lastOffset mine).getD 1] ↔ lastOffset mine = some 0 := by
        rw [List.mem_singleton]
        cases lastOffset mine with
        | none => decide
        | some n => simp [eq_comm]
      rw [harrived, if_neg hne]
      simp only [hzero]
      rfl

/-- From a gateway in the Mountain zone to a box that was in the Pacific zone.
-/
def mountainEvents : List ZoneEvent :=
  [.dstOffset ⟨false, 2, .lit "60"⟩, tzEvent (.lit "MST07MDT,M3.2.0,M11.1.0")]

def mountainGateway : GwyDeviceData :=
  { initGwydata with
    dsgtimezone := .lit " US/Mountain"
    usesdaylighttime := true }

def pacificEvents : List ZoneEvent := [tzEvent (.lit "PST08")]

/-- A client that sets up gateways and reports their zone. -/
def tzClientSettings : Settings :=
  { routeSettings with
    broadband := false
    tzUpdate := true
    broadband_imp := nofun }

end Relay

end Xupnp.System
