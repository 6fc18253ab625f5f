import Xupnp.Library.OnChange
import Xupnp.Discovery.Publish

/-!
# Telling the system manager of the time zone (`USE_XUPNP_TZ_UPDATE`)

`broadcastTimeZoneChange` is called for the gateways of a publication and for a
device whose time zone changes. It remembers what it has sent last in two static
variables. `broadcast_sent` says what is sent over any sequence of calls,
`zoneCalls_eq` for which gateways a publication makes them.
-/

namespace Xupnp.Discovery

open Xupnp.Library Xupnp.WhiteList

/-! ## The code -/

/-- `struct _Timezone` -/
structure Timezone where
  upnpTZ : CStr
  tz : CStr
  tzInDst : CStr

/-- `m_timezoneinfo` -/
def mTimezoneinfo : List Timezone :=
  [⟨.lit "US/Hawaii", .lit "HST11", .lit "HST11HDT,M3.2.0,M11.1.0"⟩,
    ⟨.lit "US/Alaska", .lit "AKST", .lit "AKST09AKDT,M3.2.0,M11.1.0"⟩,
    ⟨.lit "US/Pacific", .lit "PST08", .lit "PST08PDT,M3.2.0,M11.1.0"⟩,
    ⟨.lit "US/Mountain", .lit "MST07", .lit "MST07MDT,M3.2.0,M11.1.0"⟩,
    ⟨.lit "US/Central", .lit "CST06", .lit "CST06CDT,M3.2.0,M11.1.0"⟩,
    ⟨.lit "US/Eastern", .lit "EST05", .lit "EST05EDT,M3.2.0,M11.1.0"⟩]

/-- The static variables, and the payloads sent, oldest first. -/
structure ZoneCast where
  prevTzIndex : ℤ
  isDst : Bool
  sent : List CStr

/-- Before the first call. -/
def noZoneCast : ZoneCast := ⟨-1, false, []⟩

/-- The payload for an entry of the table. -/
def zonePayload (currTZIndex : ℕ) (usesdaylighttime : Bool) : CStr :=
  match mTimezoneinfo[currTZIndex]? with
  | some info => if usesdaylighttime then info.tzInDst else info.tz
  | none => .empty

/-- `broadcastTimeZoneChange` -/
def broadcastTimeZoneChange (s : ZoneCast) (gwdata : GwyDeviceData) :
    ZoneCast :=
  match mTimezoneinfo.findIdx? fun info => info.upnpTZ = gwdata.dsgtimezone with
  | none => s
  | some currTZIndex =>
      if s.prevTzIndex ≠ currTZIndex ∨ s.isDst ≠ gwdata.usesdaylighttime then
        { prevTzIndex := currTZIndex
          isDst := gwdata.usesdaylighttime
          sent := s.sent ++
            [zonePayload currTZIndex gwdata.usesdaylighttime] }
      else s

/-- `if (g_strcmp0 (g_strstrip (gwdata->dsgtimezone->str), "null") != 0)
broadcastTimeZoneChange (gwdata)`: the record it is called for. -/
def zoneCall (gwdata : GwyDeviceData) : Option GwyDeviceData :=
  let gwdata := gwdata.strip .dsgtimezone
  if gwdata.dsgtimezone ≠ .lit "null" then some gwdata else none

/-- The calls the loop of `sendDiscoveryResult` makes. -/
def zoneCalls (cfg : Settings) :
    Publication → List GwyDeviceData → List GwyDeviceData
  | _, [] => []
  | p, gwdata :: ds =>
      let (passed, d) := gwSetupGate cfg (p.firstXG1GwData || p.firstXG2GwData)
        (gwdata.strip .devicetype)
      (if passed && cfg.tzUpdate then (zoneCall d).toList else [])
        ++ zoneCalls cfg (publishDevice cfg p gwdata).1 ds

/-- Where it is called from. -/
inductive ZoneNews where
  /-- The list is published. -/
  | published (s : XState)
  /-- `on_last_change` has put a new time zone into a record. -/
  | changed (gwdata : GwyDeviceData)

def ZoneNews.calls (cfg : Settings) : ZoneNews → List GwyDeviceData
  | .published s => zoneCalls cfg ⟨true, true, s⟩ s.xdevlist
  | .changed gwdata => if cfg.tzUpdate then (zoneCall gwdata).toList else []

def zoneNews (cfg : Settings) (s : ZoneCast) (e : ZoneNews) : ZoneCast :=
  (e.calls cfg).foldl broadcastTimeZoneChange s

/-! ## What is sent -/

/-- The entry of a record, and whether it observes DST. -/
def zoneKey (gwdata : GwyDeviceData) : Option (ℕ × Bool) :=
  (mTimezoneinfo.findIdx? fun info => info.upnpTZ = gwdata.dsgtimezone).map
    (·, gwdata.usesdaylighttime)

def keyPayload (k : ℕ × Bool) : CStr := zonePayload k.1 k.2

/-- The static variables remember what has been told last. -/
structure Remembers (s : ZoneCast) (a : OnChange (ℕ × Bool)) : Prop where
  sent : s.sent = a.told.map keyPayload
  first : a.last = none → s.prevTzIndex = -1
  last : ∀ k, a.last = some k → s.prevTzIndex = k.1 ∧ s.isDst = k.2

theorem remembers_start : Remembers noZoneCast OnChange.start :=
  ⟨rfl, fun _ => rfl, fun k hk => by cases hk⟩

/-- A call for a zone of the table tells it, if it is not what was told last.
-/
theorem Remembers.call {s : ZoneCast} {a : OnChange (ℕ × Bool)}
    (h : Remembers s a) (gwdata : GwyDeviceData) :
    Remembers (broadcastTimeZoneChange s gwdata)
      ((zoneKey gwdata).elim a a.tell) := by
  rw [broadcastTimeZoneChange, zoneKey]
  cases hi : mTimezoneinfo.findIdx? _ with
  | none => exact h
  | some i =>
      dsimp only [Option.map_some, Option.elim_some]
      by_cases hlast : a.last = some (i, gwdata.usesdaylighttime)
      · obtain ⟨hindex, hdst⟩ := h.last _ hlast
        rw [if_neg (by simp [hindex, hdst]), OnChange.tell, if_pos hlast]
        exact h
      · have hnew : s.prevTzIndex ≠ i ∨ s.isDst ≠ gwdata.usesdaylighttime := by
          by_contra hold
          obtain ⟨hindex, hdst⟩ := not_or.mp hold
          cases ha : a.last with
          | none =>
              have hfirst := h.first ha
              have hsame := not_not.mp hindex
              omega
          | some k =>
              obtain ⟨hindex', hdst'⟩ := h.last k ha
              apply hlast
              rw [ha]
              have hk : k.1 = i := by
                have hsame := not_not.mp hindex
                omega
              rw [← not_not.mp hdst, hdst', ← hk]
        rw [if_pos hnew]
        refine ⟨?_, fun hnone => ?_, fun k hk => ?_⟩
        · rw [OnChange.told_tell, if_neg hlast, List.map_append, ← h.sent]
          rfl
        · rw [OnChange.last_tell] at hnone
          cases hnone
        · rw [OnChange.last_tell] at hk
          obtain rfl := Option.some.inj hk
          exact ⟨rfl, rfl⟩

theorem Remembers.calls {s : ZoneCast} {a : OnChange (ℕ × Bool)}
    (h : Remembers s a) (ds : List GwyDeviceData) :
    Remembers (ds.foldl broadcastTimeZoneChange s)
      ((ds.filterMap zoneKey).foldl OnChange.tell a) := by
  induction ds generalizing s a with
  | nil => exact h
  | cons d ds ih =>
      have hcall := h.call d
      rw [List.foldl_cons]
      cases hk : zoneKey d with
      | none =>
          rw [hk] at hcall
          rw [List.filterMap_cons_none hk]
          exact ih hcall
      | some k =>
          rw [hk] at hcall
          rw [List.filterMap_cons_some hk, List.foldl_cons]
          exact ih hcall

theorem foldl_zoneNews (cfg : Settings) (s : ZoneCast) (es : List ZoneNews) :
    es.foldl (zoneNews cfg) s =
      (es.flatMap (ZoneNews.calls cfg)).foldl broadcastTimeZoneChange s := by
  induction es generalizing s with
  | nil => rfl
  | cons e es ih =>
      rw [List.foldl_cons, ih, List.flatMap_cons, List.foldl_append]
      rfl

/-- Entries of the table are told apart by what is sent for them. -/
theorem keyPayload_inj {d d' : GwyDeviceData} {k k' : ℕ × Bool}
    (hk : zoneKey d = some k) (hk' : zoneKey d' = some k')
    (h : keyPayload k = keyPayload k') : k = k' := by
  have hall : ∀ i : Fin 6, ∀ j : Fin 6, ∀ b c : Bool,
      keyPayload (i, b) = keyPayload (j, c) → i = j ∧ b = c := by
    decide +kernel
  have hlt : ∀ (d : GwyDeviceData) k, zoneKey d = some k → k.1 < 6 := by
    intro d k hk
    obtain ⟨i, hi, rfl⟩ := Option.map_eq_some_iff.mp hk
    exact (List.findIdx?_eq_some_iff_getElem.mp hi).1
  obtain ⟨i, b⟩ := k
  obtain ⟨j, c⟩ := k'
  obtain ⟨hij, hbc⟩ := hall ⟨i, hlt d _ hk⟩ ⟨j, hlt d' _ hk'⟩ b c h
  exact Prod.ext (congrArg Fin.val hij) hbc

/-- The gateways of a list that the gate lets through, as it leaves them. -/
def setupGateways (cfg : Settings) (ds : List GwyDeviceData) :
    List GwyDeviceData :=
  ds.filterMap fun d =>
    let (passed, d) := gwSetupGate cfg true (d.strip .devicetype)
    if passed then some d else none

theorem setupGateways_cons (cfg : Settings) (d : GwyDeviceData)
    (ds : List GwyDeviceData) :
    setupGateways cfg (d :: ds) =
      (if (gwSetupGate cfg true (d.strip .devicetype)).1 then
          [(gwSetupGate cfg true (d.strip .devicetype)).2]
        else []) ++ setupGateways cfg ds := by
  rw [setupGateways, List.filterMap_cons]
  dsimp only
  cases (gwSetupGate cfg true (d.strip .devicetype)).1 <;> rfl

/-- How many of the two slots are left. -/
structure Slots (p : Publication) (n : ℕ) : Prop where
  first : p.firstXG1GwData = decide (1 < n)
  second : p.firstXG2GwData = decide (0 < n)

theorem Slots.left {p : Publication} {n : ℕ} (h : Slots p n) :
    (p.firstXG1GwData || p.firstXG2GwData) = decide (0 < n) := by
  rw [h.first, h.second]
  rcases n with - | - | n <;> rfl

theorem gwSetupGate_no_slot (cfg : Settings) (d : GwyDeviceData) :
    gwSetupGate cfg false d = (false, d) := by
  rw [gwSetupGate, if_pos (by simp)]

/-- Without the gateway script no slot is ever taken. -/
theorem publishDevice_slots_noRoute {cfg : Settings}
    (hroute : cfg.enableRoute = false) {p : Publication} {n : ℕ}
    (h : Slots p n) (d : GwyDeviceData) : Slots (publishDevice cfg p d).1 n := by
  simp only [publishDevice, hroute, Bool.false_eq_true, if_false]
  split <;> exact ⟨h.first, h.second⟩

/-- With it, a gateway that passes takes one of the two. -/
theorem publishDevice_slots {cfg : Settings} (hroute : cfg.enableRoute = true)
    {p : Publication} {n : ℕ} (hn : n ≤ 2) (h : Slots p n)
    (d : GwyDeviceData) :
    Slots (publishDevice cfg p d).1
      (if (gwSetupGate cfg (decide (0 < n)) (d.strip .devicetype)).1 then n - 1
        else n) := by
  simp only [publishDevice, hroute, if_true, h.left]
  split
  · refine ⟨?_, ?_⟩
    · rcases n with - | - | - | n
      · rfl
      · rfl
      · rfl
      · omega
    · change (p.firstXG2GwData && p.firstXG1GwData) = _
      rw [h.first, h.second]
      rcases n with - | - | - | n
      · rfl
      · rfl
      · rfl
      · omega
  · exact ⟨h.first, h.second⟩

theorem zoneCalls_noRoute {cfg : Settings} (hroute : cfg.enableRoute = false)
    (htz : cfg.tzUpdate = true) {p : Publication} {n : ℕ} (h : Slots p (n + 1))
    (ds : List GwyDeviceData) :
    zoneCalls cfg p ds = (setupGateways cfg ds).filterMap zoneCall := by
  induction ds generalizing p with
  | nil => rfl
  | cons d ds ih =>
      have hnext := ih (publishDevice_slots_noRoute hroute h d)
      have hslot : (p.firstXG1GwData || p.firstXG2GwData) = true := by
        rw [h.left]
        exact decide_eq_true n.succ_pos
      rw [zoneCalls, setupGateways_cons, List.filterMap_append, hnext, hslot]
      dsimp only
      rw [htz, Bool.and_true]
      split
      · rw [List.filterMap_cons]
        cases zoneCall _ <;> rfl
      · rfl

theorem zoneCalls_route {cfg : Settings} (hroute : cfg.enableRoute = true)
    (htz : cfg.tzUpdate = true) {p : Publication} {n : ℕ} (hn : n ≤ 2)
    (h : Slots p n) (ds : List GwyDeviceData) :
    zoneCalls cfg p ds = ((setupGateways cfg ds).take n).filterMap zoneCall := by
  induction ds generalizing p n with
  | nil => rw [zoneCalls, setupGateways, List.filterMap_nil, List.take_nil]; rfl
  | cons d ds ih =>
      have hslots := publishDevice_slots hroute hn h d
      rw [zoneCalls, setupGateways_cons, h.left]
      dsimp only
      rw [htz, Bool.and_true]
      rcases n with - | n
      · -- both slots are taken: the gate lets nothing through
        have hclosed : decide (0 < 0) = false := rfl
        rw [hclosed, gwSetupGate_no_slot, if_neg Bool.false_ne_true] at hslots ⊢
        rw [ih hn hslots, List.take_zero, List.take_zero]
        rfl
      · rw [decide_eq_true n.succ_pos] at hslots ⊢
        split <;> rename_i hpassed
        · rw [if_pos hpassed] at hslots
          rw [ih (by omega) hslots, List.cons_append, List.take_succ_cons,
            List.filterMap_cons]
          cases zoneCall _ <;> rfl
        · rw [if_neg hpassed] at hslots
          exact ih hn hslots

theorem zoneCalls_off {cfg : Settings} (htz : cfg.tzUpdate = false)
    (p : Publication) (ds : List GwyDeviceData) : zoneCalls cfg p ds = [] := by
  induction ds generalizing p with
  | nil => rfl
  | cons d ds ih =>
      rw [zoneCalls, ih, htz]
      simp

/-- Which gateways a publication tells of: those the gate lets through, all of
them, or the first two where each is handed to the script. -/
theorem zoneCalls_eq {cfg : Settings} (htz : cfg.tzUpdate = true) (s : XState)
    (ds : List GwyDeviceData) :
    zoneCalls cfg ⟨true, true, s⟩ ds =
      (if cfg.enableRoute then (setupGateways cfg ds).take 2
        else setupGateways cfg ds).filterMap zoneCall := by
  have hstart : Slots ⟨true, true, s⟩ 2 := ⟨rfl, rfl⟩
  cases hroute : cfg.enableRoute with
  | false => exact zoneCalls_noRoute hroute htz hstart ds
  | true => exact zoneCalls_route hroute htz le_rfl hstart ds

/-! ## What the system manager is told -/

/-- The records a call may be made for. -/
def ZoneNews.gateways (cfg : Settings) : ZoneNews → List GwyDeviceData
  | .published s =>
      if cfg.enableRoute then (setupGateways cfg s.xdevlist).take 2
      else setupGateways cfg s.xdevlist
  | .changed gwdata => [gwdata]

/-- The zones of the table among them, in turn, unless the daemon is built
without these calls. -/
def zoneKeys (cfg : Settings) (es : List ZoneNews) : List (ℕ × Bool) :=
  if cfg.tzUpdate then
    ((es.flatMap (ZoneNews.gateways cfg)).filterMap zoneCall).filterMap zoneKey
  else []

theorem exists_of_zoneKeys {cfg : Settings} {es : List ZoneNews}
    {k : ℕ × Bool} (hk : k ∈ zoneKeys cfg es) : ∃ d, zoneKey d = some k := by
  rw [zoneKeys] at hk
  split at hk
  · obtain ⟨d, -, hd⟩ := List.mem_filterMap.mp hk
    exact ⟨d, hd⟩
  · cases hk

theorem zoneKeys_eq (cfg : Settings) (es : List ZoneNews) :
    (es.flatMap (ZoneNews.calls cfg)).filterMap zoneKey = zoneKeys cfg es := by
  have hcalls (e : ZoneNews) : e.calls cfg =
      if cfg.tzUpdate then (e.gateways cfg).filterMap zoneCall else [] := by
    cases htz : cfg.tzUpdate with
    | false =>
        rw [if_neg Bool.false_ne_true]
        cases e with
        | changed gwdata => rw [ZoneNews.calls, htz]; rfl
        | published s => exact zoneCalls_off htz _ _
    | true =>
        rw [if_pos rfl]
        cases e with
        | changed gwdata =>
            rw [ZoneNews.calls, htz, if_pos rfl, ZoneNews.gateways,
              List.filterMap_cons]
            cases zoneCall gwdata <;> rfl
        | published s => exact zoneCalls_eq htz s s.xdevlist
  rw [zoneKeys]
  cases htz : cfg.tzUpdate with
  | false => simp [hcalls, htz]
  | true => simp [hcalls, htz, List.filterMap_flatMap]

/-- **What the system manager is told of the time zone**, over any sequence of
publications and changes: each zone of the table that a call was made for,
unless it is what was told last. So it is never told the same twice in a row,
and what it was told last is the zone that was spoken of last. -/
theorem broadcast_sent (cfg : Settings) (es : List ZoneNews) :
    let sent := (es.foldl (zoneNews cfg) noZoneCast).sent
    sent = ((zoneKeys cfg es).destutter (· ≠ ·)).map keyPayload
      ∧ sent.IsChain (· ≠ ·)
      ∧ sent.getLast? = (zoneKeys cfg es).getLast?.map keyPayload := by
  intro sent
  have hruns := remembers_start.calls (es.flatMap (ZoneNews.calls cfg))
  rw [← foldl_zoneNews, zoneKeys_eq] at hruns
  have hsent : sent =
      ((zoneKeys cfg es).destutter (· ≠ ·)).map keyPayload := by
    rw [← OnChange.told_foldl]
    exact hruns.sent
  refine ⟨hsent, ?_, ?_⟩
  · rw [hsent, List.isChain_map]
    apply List.IsChain.imp_of_mem_imp _ (List.isChain_destutter _ _)
    intro k k' hk hk' hne heq
    obtain ⟨d, hd⟩ := exists_of_zoneKeys ((List.destutter_sublist _ _).subset hk)
    obtain ⟨d', hd'⟩ :=
      exists_of_zoneKeys ((List.destutter_sublist _ _).subset hk')
    exact hne (keyPayload_inj hd hd' heq)
  · have hlast := OnChange.last_foldl (zoneKeys cfg es)
    rw [hsent, List.getLast?_map, ← hlast, OnChange.last_eq,
      OnChange.told_foldl]

end Xupnp.Discovery
