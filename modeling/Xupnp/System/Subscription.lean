import Xupnp.Library.Channel
import Xupnp.Discovery.Nesting
import Xupnp.Discovery.OwnAddress
import Xupnp.XcalDevice.SysEvents

/-!
# A device and the daemon that subscribes to it

A device announces a change (`notify_value_change`), the announcement travels,
and the daemon puts the value into the record it has of the device
(`on_last_change`), while other devices come, go and change and callbacks of the
daemon wait. `subscription_agrees`: whatever the order of all this, the record
holds the last value that has arrived, and so, once nothing is under way, the
last one the device has announced.
-/

namespace Xupnp.System

open Xupnp.Library Xupnp.WhiteList Xupnp.Discovery
open Xupnp.XcalDevice (XcalState XcalConfig SysEvent EventedVariable)

/-! ## The two parties -/

/-- What is fixed: the builds, and what the device is called. -/
structure Parties where
  copy : XcalDevice.Copy
  xcal : XcalConfig
  settings : Settings
  udn : CStr

/-- The device, its announcements since the daemon has subscribed, and the
daemon. -/
structure Link where
  device : XcalState
  channel : Channel (EventedVariable × CStr)
  daemon : Daemon

inductive LinkEvent where
  /-- The system manager tells the device something. -/
  | sys (e : SysEvent)
  /-- The oldest announcement arrives. -/
  | deliver (io : Io)
  /-- Something else happens to the daemon. -/
  | daemon (e : DaemonEvent)

/-- The variable, as `on_last_change` knows it. -/
def variableOf : EventedVariable → Variable
  | .playbackUrl => .playbackUrl
  | .systemIds => .systemIds
  | .timeZone => .timeZone

/-- Where a record keeps its value. -/
def valueOf : EventedVariable → GwyDeviceData → CStr
  | .playbackUrl, d => d.playbackurl
  | .systemIds, d => d.systemids
  | .timeZone, d => d.dsgtimezone

/-- One step. An announcement that arrives while the daemon hangs stays where
it is. -/
def linkStep (p : Parties) (l : Link) : LinkEvent → Option Link
  | .sys e =>
      let device := l.device.sysEventHandler p.copy p.xcal e
      some { l with
        device
        channel := l.channel.send
          (device.notified.drop l.device.notified.length) }
  | .deliver io =>
      match l.channel.deliver with
      | some ((v, value), channel) =>
          if l.daemon.hung then some l
          else
            (daemonStep p.settings l.daemon
              (.lastChange io (some p.udn) (variableOf v) value)).map
                fun daemon => { l with channel, daemon }
      | none => some l
  | .daemon e =>
      (daemonStep p.settings l.daemon e).map fun daemon => { l with daemon }

/-- The event is about another device than the one of serial number `k` and
receiver id `id`. -/
def Elsewhere (k id : CStr) : DaemonEvent → Prop
  | .available _ _ device =>
      (device.bind Announcement.serialNumber).map CStr.strip ≠ some k
  | .answer _ => True
  | .unavailable _ _ sno => sno.map CStr.strip ≠ some k
  | .lastChange _ udn _ _ => ∀ i ∈ udn.bind udnId, i.strip ≠ id.strip

/-- No other listed device has the receiver id. -/
def OnlyOne (k id : CStr) (s : XState) : Prop :=
  ∀ d ∈ s.xdevlist, hasReceiverid id d = true → d.key = k

instance (k id : CStr) (s : XState) : Decidable (OnlyOne k id s) :=
  inferInstanceAs (Decidable (∀ d ∈ s.xdevlist, _ → _))

instance (k id : CStr) (e : DaemonEvent) : Decidable (Elsewhere k id e) :=
  match e with
  | .available _ _ _ => inferInstanceAs (Decidable (_ ≠ _))
  | .answer _ => inferInstanceAs (Decidable True)
  | .unavailable _ _ _ => inferInstanceAs (Decidable (_ ≠ _))
  | .lastChange _ udn _ _ =>
      inferInstanceAs (Decidable (∀ i ∈ udn.bind udnId, _ ≠ _))

/-- What a message says of `v`. -/
def saysOf (v : EventedVariable) (m : EventedVariable × CStr) : Option CStr :=
  if m.1 = v then some m.2.strip else none

theorem saysOf_eq {v w : EventedVariable} {value : CStr} (h : w = v) :
    saysOf v (w, value) = some value.strip := if_pos h

theorem saysOf_ne {v w : EventedVariable} {value : CStr} (h : w ≠ v) :
    saysOf v (w, value) = none := if_neg h

/-! ## What an announcement does to the record -/

section Record

variable {cfg : Settings} {io : Io} {s s' : XState} {k id udn value : CStr}
  {d c : GwyDeviceData} {v w : EventedVariable}

/-- A stripped value is a stripped value in the record that is compared. -/
theorem valueOf_normal (h : valueOf v d = value.strip) :
    valueOf v d.normal = value.strip := by
  have hstrip : (valueOf v d).strip = value.strip := by
    rw [h, CStr.strip_strip]
  cases v with
  | systemIds => exact h
  | playbackUrl | timeZone => exact hstrip

/-- The address of a record does not change, and its other values do not
either. -/
theorem setVariable_frame {effects : List Effect}
    (h : setVariable cfg (variableOf w) value d = .ok (some (c, effects))) :
    c.normal.gwyip = d.normal.gwyip ∧
      (w ≠ v → valueOf v c.normal = valueOf v d.normal) := by
  have hset : ∀ {b : Prop} [Decidable b] {x : GwyDeviceData × List Effect},
      x.1.normal.gwyip = d.normal.gwyip ∧
        (w ≠ v → valueOf v x.1.normal = valueOf v d.normal) →
      Except.ok (ε := Stop) (if b then none else some x) =
        .ok (some (c, effects)) →
      c.normal.gwyip = d.normal.gwyip ∧
        (w ≠ v → valueOf v c.normal = valueOf v d.normal) := by
    intro b _ x hx h
    split at h
    · cases h
    · obtain rfl := Option.some.inj (Except.ok.inj h)
      exact hx
  cases w with
  | playbackUrl =>
      rw [variableOf, setVariable] at h
      split at h
      · cases h
      · obtain ⟨c₁, h₁, h⟩ := except_bind_eq_ok.mp h
        obtain ⟨_, _, _, _, rfl⟩ := replaceLocalDeviceIp_cases h₁
        obtain ⟨rfl, -⟩ := Prod.mk.inj (Option.some.inj (Except.ok.inj h))
        refine ⟨CStr.strip_strip _, fun hne => ?_⟩
        cases v with
        | playbackUrl => exact absurd rfl hne
        | systemIds | timeZone => rfl
  | systemIds | timeZone =>
      refine hset ⟨rfl, fun hne => ?_⟩ h
      cases v with
      | playbackUrl => rfl
      | systemIds => first | rfl | exact absurd rfl hne
      | timeZone => first | rfl | exact absurd rfl hne

/-- Told of `v`, the daemon keeps the value it has, if it is this one, or
takes it over. The URL of its own gateway it would rewrite. -/
theorem setVariable_value
    (hurl : v = .playbackUrl → d.gwyip.strip ≠ cfg.ipaddress.strip) :
    (setVariable cfg (variableOf v) value d = .ok none ∧
        valueOf v d = value.strip) ∨
      ∃ c effects, setVariable cfg (variableOf v) value d =
          .ok (some (c, effects)) ∧ valueOf v c = value.strip := by
  cases v with
  | playbackUrl =>
      rw [variableOf, setVariable]
      by_cases hsame : value.strip = d.playbackurl
      · exact Or.inl ⟨if_pos hsame, hsame.symm⟩
      · have hreplace : replaceLocalDeviceIp cfg
              { d with playbackurl := value.strip } =
            .ok (({ d with playbackurl := value.strip } :
              GwyDeviceData).strip .gwyip) := by
          rw [replaceLocalDeviceIp_eq, if_neg (hurl rfl)]
        refine Or.inr ⟨({ d with playbackurl := value.strip } :
          GwyDeviceData).strip .gwyip, [], ?_, rfl⟩
        rw [if_neg hsame, hreplace]
        rfl
  | systemIds =>
      rw [variableOf, setVariable]
      by_cases hsame : value.strip = d.systemids
      · rw [if_pos hsame]
        exact Or.inl ⟨rfl, hsame.symm⟩
      · rw [if_neg hsame]
        exact Or.inr ⟨_, _, rfl, rfl⟩
  | timeZone =>
      rw [variableOf, setVariable]
      by_cases hsame : value.strip = d.dsgtimezone
      · rw [if_pos hsame]
        exact Or.inl ⟨rfl, hsame.symm⟩
      · rw [if_neg hsame]
        exact Or.inr ⟨_, _, rfl, rfl⟩

/-- The record of a serial number, in an ordered list. -/
theorem entry_eq_some (hs : s.xdevlist.Pairwise fun a b => a.key < b.key) :
    entry s k = some d ↔ ∃ c ∈ s.xdevlist, c.normal = d ∧ c.key = k := by
  obtain ⟨t, ht⟩ := Lists.of_sorted hs
  rw [ht.entry_eq, SortedTable.lookup_eq_some, ← ht, List.mem_map]
  constructor
  · rintro ⟨⟨c, hc, rfl⟩, hk⟩
    exact ⟨c, hc, rfl, by simpa using hk⟩
  · rintro ⟨c, hc, rfl, hk⟩
    exact ⟨⟨c, hc, rfl⟩, by simpa using hk⟩

/-- The search for a receiver id that only the device of `k` has finds its
record. -/
theorem listFindUdn_only (hs : s.xdevlist.Pairwise fun a b => a.key < b.key)
    (hone : OnlyOne k id s) (hd : entry s k = some d)
    (hid : hasReceiverid id d = true) :
    ∃ c, (listFindUdn id s.xdevlist).2 = some c ∧ c.normal = d := by
  have hfind : (listFindUdn id s.xdevlist).2 =
      (s.xdevlist.find? (hasReceiverid id)).map (·.strip .receiverid) := by
    refine listFindCustom_find (fun c => ?_) s.xdevlist
    rw [← hasReceiverid_normal, GwyDeviceData.normal_strip,
      hasReceiverid_normal]
  obtain ⟨c, hc, rfl, hk⟩ := (entry_eq_some hs).mp hd
  rw [hasReceiverid_normal] at hid
  cases hf : s.xdevlist.find? (hasReceiverid id) with
  | none => exact absurd hid (List.find?_eq_none.mp hf c hc)
  | some e =>
      have hkey := hone e (List.mem_of_find?_eq_some hf) (List.find?_some hf)
      have he : entry s k = some e.normal :=
        (entry_eq_some hs).mpr ⟨e, List.mem_of_find?_eq_some hf, rfl, hkey⟩
      refine ⟨e.strip .receiverid, by rw [hfind, hf]; rfl, ?_⟩
      rw [GwyDeviceData.normal_strip]
      exact Option.some.inj (he.symm.trans hd)

/-- What a search has found and the callback has replaced is what is listed. -/
theorem entry_replaced {hit : GwyDeviceData → Bool}
    (hs : s.xdevlist.Pairwise fun a b => a.key < b.key)
    (hfind : s.xdevlist.find? hit = some d) (hids : c.ids = d.ids)
    (hk : d.key = k) :
    entry { s with xdevlist := modifyFound hit (fun _ => c) s.xdevlist } k =
      some c.normal := by
  have hids' : ∀ e, s.xdevlist.find? hit = some e → c.ids = e.ids := by
    intro e he
    obtain rfl := Option.some.inj (hfind.symm.trans he)
    exact hids
  refine (entry_eq_some (modifyFound_sorted hids' hs)).mpr
    ⟨c, ?_, rfl, (congrArg Prod.fst hids).trans hk⟩
  show c ∈ modifyFound hit (fun _ => c) s.xdevlist
  clear hids' hs
  generalize s.xdevlist = l at hfind
  induction l with
  | nil => cases hfind
  | cons e es ih =>
      rw [modifyFound]
      by_cases he : hit e = true
      · rw [if_pos he]
        exact List.mem_cons_self
      · rw [if_neg he]
        refine List.mem_cons_of_mem e (ih ?_)
        simpa [he] using hfind

/-- **An announcement that arrives** changes the one value it is about. -/
theorem onLastChange_record
    (hs : s.xdevlist.Pairwise fun a b => a.key < b.key)
    (hone : OnlyOne k id s) (hudn : udnId udn = some id)
    (hd : entry s k = some d) (hid : hasReceiverid id d = true)
    (hurl : w = .playbackUrl → w = v → d.gwyip ≠ cfg.ipaddress.strip)
    (h : onLastChange cfg io (some udn) (variableOf w) value s = some s') :
    ∃ c, entry s' k = some c ∧ c.ids = d.ids ∧ c.gwyip = d.gwyip ∧
      valueOf v c = if w = v then value.strip else valueOf v d := by
  have hlist := listFindUdn_normal id s.xdevlist
  have hself : (listFindUdn id s.xdevlist).1.find? (hasReceiverid id) =
      (listFindUdn id s.xdevlist).2 := listFindCustom_find_self _ _ _
  obtain ⟨gwdata, hfound, rfl⟩ := listFindUdn_only hs hone hd hid
  have hnone : ∀ ds, listFindUdn id s.xdevlist ≠ (ds, none) := fun ds hf => by
    rw [hf] at hfound
    cases hfound
  have hvalue : w = v → setVariable cfg (variableOf w) value gwdata = .ok none ∧
      valueOf v gwdata = value.strip ∨ ∃ c effects,
        setVariable cfg (variableOf w) value gwdata =
          .ok (some (c, effects)) ∧ valueOf v c = value.strip := by
    rintro rfl
    exact setVariable_value fun hw => hurl hw rfl
  rw [onLastChange, Option.bind_some, hudn] at h
  dsimp only at h
  cases hf : listFindUdn id s.xdevlist with
  | mk ds found =>
      rw [hf] at h hlist hself hfound
      obtain rfl : found = some gwdata := hfound
      have hmap : ({ s with xdevlist := ds } : XState).xdevlist.map
          GwyDeviceData.normal = s.xdevlist.map GwyDeviceData.normal := hlist
      have hds : ds.Pairwise fun a b => a.key < b.key :=
        Lists.sorted_of_map_eq hs hmap
      have hkey : gwdata.key = k := by
        obtain ⟨c, -, hc, hk⟩ := (entry_eq_some hs).mp hd
        rw [← GwyDeviceData.key_normal, ← hc, GwyDeviceData.key_normal, hk]
      dsimp only at h
      split at h
      · cases h
      · rename_i hset
        obtain rfl := Option.some.inj h
        refine ⟨gwdata.normal, (entry_congr hlist).trans hd, rfl, rfl, ?_⟩
        split
        · rename_i hw
          rcases hvalue hw with ⟨-, hsame⟩ | ⟨c, effects, hc, -⟩
          · exact valueOf_normal hsame
          · cases hset.symm.trans hc
        · rfl
      · rename_i c effects hset
        obtain rfl := Option.some.inj h
        have hids := setVariable_ids hset
        obtain ⟨hgwyip, hother⟩ := setVariable_frame (v := v) hset
        refine ⟨c.normal, ?_, ?_, hgwyip, ?_⟩
        · rw [entry_congr (sendDiscoveryResult_normal cfg io _)]
          exact entry_replaced (s := { s with xdevlist := ds }) hds hself hids
            hkey
        · rw [GwyDeviceData.ids_normal, GwyDeviceData.ids_normal, hids]
        · split
          · rename_i hw
            rcases hvalue hw with ⟨hnothing, -⟩ | ⟨c', effects', hc', hval⟩
            · cases hset.symm.trans hnothing
            · obtain ⟨rfl, -⟩ := Prod.mk.inj (Option.some.inj
                (Except.ok.inj (hset.symm.trans hc')))
              exact valueOf_normal hval
          · rename_i hw
            exact hother hw

/-- The value of `v` the daemon takes over without fail. -/
theorem onLastChange_returns
    (hs : s.xdevlist.Pairwise fun a b => a.key < b.key)
    (hone : OnlyOne k id s) (hudn : udnId udn = some id)
    (hd : entry s k = some d) (hid : hasReceiverid id d = true)
    (hurl : v = .playbackUrl → d.gwyip ≠ cfg.ipaddress.strip) :
    onLastChange cfg io (some udn) (variableOf v) value s ≠ none := by
  obtain ⟨gwdata, hfound, rfl⟩ := listFindUdn_only hs hone hd hid
  rw [onLastChange, Option.bind_some, hudn]
  dsimp only
  cases hf : listFindUdn id s.xdevlist with
  | mk ds found =>
      rw [hf] at hfound
      obtain rfl : found = some gwdata := hfound
      dsimp only
      have hvalue : (setVariable cfg (variableOf v) value gwdata = .ok none ∧
            valueOf v gwdata = value.strip) ∨
          ∃ c effects, setVariable cfg (variableOf v) value gwdata =
            .ok (some (c, effects)) ∧ valueOf v c = value.strip :=
        setVariable_value hurl
      rcases hvalue with ⟨hset, -⟩ | ⟨c, effects, hset, -⟩
      · rw [hset]
        exact Option.some_ne_none _
      · rw [hset]
        exact Option.some_ne_none _

end Record

/-! ## What the device announces -/

section Device

variable {c : XcalDevice.Copy} {cfg : XcalConfig} {s : XcalState} {e : SysEvent}

/-- The handler sets globals of no concern here, announces the other variables,
and publishes the system ids. What each of these keeps, the handler does. -/
theorem sysEventHandler_frame {I : XcalState → Prop}
    (hset : ∀ s t : XcalState, t.notified = s.notified →
      t.systemids = s.systemids → t.serviceReady = s.serviceReady → I s → I t)
    (hnotify : ∀ (s : XcalState) w x, w ≠ .systemIds → I s →
      I (s.notifyValueChange w x))
    (hpublish : ∀ (s : XcalState) idcfg, I s → I (s.publishSystemIds idcfg))
    (hs : I s) : I (s.sysEventHandler c cfg e) := by
  have htuning : ∀ t : XcalState, I t →
      I (t.announceTuning cfg e.diagFile) := by
    intro t ht
    unfold XcalState.announceTuning
    apply hnotify _ _ _ (by decide)
    split
    · exact ht
    · exact hpublish t _ ht
  have hid : ∀ k, I (s.idEvent cfg k e) := by
    intro k
    have hnew : ∀ ids, I { s with ids } := fun ids =>
      hset s _ rfl rfl rfl hs
    unfold XcalState.idEvent
    split
    · exact hnew _
    split
    · split
      · exact hpublish _ _ (hnew _)
      · exact hs
    · exact hs
  have hzone : ∀ ze, I (s.zoneEvent c ze) := fun ze =>
    XcalDevice.zoneEvent_frame (R := fun s t : XcalState => I s → I t)
      (fun h h' hs => h' (h hs)) (fun s z => hset s _ rfl rfl rfl)
      (fun s x => hnotify s _ x (by decide)) c ze s hs
  unfold XcalState.sysEventHandler
  cases e.stateId with
  | tuneReady =>
      have hnew : I { s with tuneReady := e.data.state } :=
        hset s _ rfl rfl rfl hs
      dsimp only
      unfold XcalState.tuneReadyEvent
      split
      · dsimp only
        split
        · split
          · exact htuning _ hnew
          · exact hnew
        · exact htuning _ hnew
      · exact hs
  | stbSerialNo => exact hset s _ rfl rfl rfl hs
  | channelmap | dacId | plantId | vodAd => exact hid _
  | timeZone | dstOffset => exact hzone _
  | other => exact hs

/-- The device forgets no announcement. -/
theorem notified_prefix (c : XcalDevice.Copy) (cfg : XcalConfig)
    (s : XcalState) (e : SysEvent) :
    s.notified <+: (s.sysEventHandler c cfg e).notified := by
  have hnotify : ∀ (t : XcalState) (w : EventedVariable) (x : CStr),
      s.notified <+: t.notified →
      s.notified <+: (t.notifyValueChange w x).notified := by
    intro t w x ht
    unfold XcalState.notifyValueChange
    split
    · exact ht.trans (List.prefix_append _ _)
    · exact ht
  apply sysEventHandler_frame (I := fun t => s.notified <+: t.notified)
  · intro t u hnotified _ _ ht
    rwa [hnotified]
  · exact fun t w x _ ht => hnotify t w x ht
  · exact fun t idcfg ht => hnotify (t.updateSystemids idcfg) _ _ ht
  · exact List.prefix_rfl

/-- After `old`, the last announcement of the system ids is of what they are;
before the first one they were `ids`. -/
def Announces (old : List (EventedVariable × CStr)) (ids : CStr)
    (s : XcalState) : Prop :=
  s.serviceReady = true ∧ ∃ new, s.notified = old ++ new ∧
    lastWritten (saysOf .systemIds) ids new = s.systemids.strip

theorem Announces.sysEventHandler {old : List (EventedVariable × CStr)}
    {ids : CStr} (hs : Announces old ids s) :
    Announces old ids (s.sysEventHandler c cfg e) := by
  apply sysEventHandler_frame (I := Announces old ids)
  · rintro t u hnotified hids hready ⟨htready, new, hnew, hlast⟩
    refine ⟨hready.trans htready, new, hnotified.trans hnew, ?_⟩
    rw [hids]
    exact hlast
  · rintro t w x hw ⟨htready, new, hnew, hlast⟩
    rw [XcalState.notifyValueChange, if_pos htready]
    refine ⟨htready, new ++ [(w, x)], ?_, ?_⟩
    · dsimp only
      rw [hnew, List.append_assoc]
    · rw [lastWritten_concat_none (saysOf_ne hw)]
      exact hlast
  · rintro t idcfg ⟨htready, new, hnew, hlast⟩
    have hready : (t.updateSystemids idcfg).serviceReady = true := htready
    rw [XcalState.publishSystemIds, XcalState.notifyValueChange, if_pos hready]
    refine ⟨htready,
      new ++ [(.systemIds, (t.updateSystemids idcfg).systemids)], ?_, ?_⟩
    · dsimp only [XcalState.updateSystemids]
      rw [hnew, List.append_assoc]
    · exact lastWritten_concat_some (saysOf_eq rfl)
  · exact hs

end Device

/-! ## One step -/

section Steps

variable {p : Parties} {l l' : Link} {e : LinkEvent} {x y : Daemon}
  {k id : CStr} {v : EventedVariable} {d : GwyDeviceData}

/-- A daemon that does not hang handles an announcement in one go, or hangs
from then on. -/
theorem daemonStep_lastChange {cfg : Settings} {io : Io} {udn : Option CStr}
    {w : Variable} {value : CStr} (hhung : x.hung = false)
    (h : daemonStep cfg x (.lastChange io udn w value) = some y) :
    y.calls = x.calls ∧
      (onLastChange cfg io udn w value x.globals.xstate =
          some y.globals.xstate ∨
        onLastChange cfg io udn w value x.globals.xstate = none ∧
          y.globals = x.globals) := by
  unfold daemonStep MainLoop.step at h
  rw [hhung, if_neg Bool.false_ne_true] at h
  dsimp only [DaemonEvent.loop, Handler.plain, Callback.run] at h
  cases hs : onLastChange cfg io udn w value x.globals.xstate with
  | none =>
      rw [hs] at h
      obtain rfl := Option.some.inj h
      exact ⟨rfl, Or.inr ⟨rfl, rfl⟩⟩
  | some s =>
      rw [hs] at h
      obtain rfl := Option.some.inj h
      exact ⟨rfl, Or.inl rfl⟩

/-- What the callbacks of the daemon may be about. -/
def OfOthers (k id : CStr) (w : Subject) : Prop :=
  ∀ d, hasReceiverid id d = true → ¬ w.Concerns k (some d)

theorem about_of_elsewhere {e : DaemonEvent} (h : Elsewhere k id e) :
    e.About (OfOthers k id) := by
  cases e with
  | available io cp device => exact fun _ _ => h
  | answer o => trivial
  | unavailable io cp sno => exact fun _ _ => h
  | lastChange io udn w value =>
      rintro i hi d hd ⟨c, hc, hci⟩
      obtain rfl := Option.some.inj hc
      refine h i hi ?_
      rw [hasReceiverid, decide_eq_true_eq] at hd hci
      exact hci.symm.trans hd

/-- The record of the device holds the last value that has arrived. `d` is what
it was at the subscription. -/
structure Follows (p : Parties) (k id : CStr) (v : EventedVariable)
    (d : GwyDeviceData) (l : Link) : Prop where
  sorted : l.daemon.globals.xstate.xdevlist.Pairwise fun a b => a.key < b.key
  calls : CallsAbout p.settings (OfOthers k id) l.daemon
  record : ∃ c, entry l.daemon.globals.xstate k = some c ∧
    hasReceiverid id c = true ∧ c.gwyip = d.gwyip ∧
    valueOf v c = lastWritten (saysOf v) (valueOf v d) l.channel.received

theorem hasReceiverid_of_ids {c d : GwyDeviceData} (h : c.ids = d.ids) :
    hasReceiverid id c = hasReceiverid id d := by
  have hrid : c.receiverid.strip = d.receiverid.strip := congrArg Prod.snd h
  rw [hasReceiverid, hasReceiverid, hrid]

/-- What concerns others leaves the record alone. -/
theorem Follows.other {e : DaemonEvent} (hl : Follows p k id v d l)
    (he : Elsewhere k id e)
    (h : daemonStep p.settings l.daemon e = some y) :
    Follows p k id v d { l with daemon := y } := by
  have hturn := daemon_turn (about_of_elsewhere he) hl.calls h
  obtain ⟨c, hc, hid, hrest⟩ := hl.record
  refine ⟨?_, ?_, ?_⟩
  · rcases hturn with hsame | ⟨w, -, ht⟩
    · exact Lists.sorted_of_map_eq hl.sorted hsame.xdevlist
    · exact ht.sorted hl.sorted
  · have hrun : runFrom (daemonStep p.settings) l.daemon [e] = some y := by
      rw [runFrom_cons, h]
      rfl
    refine callsAbout_run (fun io cp device hmem => ?_) hl.calls hrun
    obtain rfl := List.mem_singleton.mp hmem
    exact about_of_elsewhere he
  · refine ⟨c, ?_, hid, hrest⟩
    rcases hturn with hsame | ⟨w, hw, ht⟩
    · exact (entry_congr hsame.xdevlist).trans hc
    · refine (ht.entry hl.sorted ?_).trans hc
      rw [hc]
      exact hw c hid

/-- **One step** of the two parties. -/
theorem Follows.step (hl : Follows p k id v d l)
    (hone : OnlyOne k id l.daemon.globals.xstate)
    (hudn : udnId p.udn = some id)
    (hurl : v = .playbackUrl → d.gwyip ≠ p.settings.ipaddress.strip)
    (he : ∀ e', e = .daemon e' → Elsewhere k id e')
    (h : linkStep p l e = some l') : Follows p k id v d l' := by
  cases e with
  | sys e =>
      obtain rfl := Option.some.inj h
      refine ⟨hl.sorted, hl.calls, ?_⟩
      dsimp only
      rw [Channel.received_send]
      exact hl.record
  | daemon e =>
      obtain ⟨y, hy, rfl⟩ := Option.map_eq_some_iff.mp h
      exact hl.other (he e rfl) hy
  | deliver io =>
      rw [linkStep] at h
      cases hdel : l.channel.deliver with
      | none =>
          rw [hdel] at h
          obtain rfl := Option.some.inj h
          exact hl
      | some m =>
          obtain ⟨⟨w, value⟩, channel⟩ := m
          obtain ⟨-, hreceived⟩ := Channel.deliver_some hdel
          rw [hdel] at h
          dsimp only at h
          split at h
          · obtain rfl := Option.some.inj h
            exact hl
          rename_i hhung
          obtain ⟨y, hy, rfl⟩ := Option.map_eq_some_iff.mp h
          obtain ⟨hcalls, hxstate⟩ :=
            daemonStep_lastChange (Bool.eq_false_iff.mpr hhung) hy
          have hframes : CallsAbout p.settings (OfOthers k id) y := by
            intro f hf
            rw [hcalls] at hf
            exact hl.calls f hf
          obtain ⟨c, hc, hid, hgwyip, hvalue⟩ := hl.record
          have hurl' : v = .playbackUrl →
              c.gwyip ≠ p.settings.ipaddress.strip := by
            rw [hgwyip]
            exact hurl
          rcases hxstate with hsome | ⟨hnone, hglobals⟩
          · obtain ⟨c', hc', hids, hgwyip', hvalue'⟩ :=
              onLastChange_record (v := v) hl.sorted hone hudn hc hid
                (fun hw heq => hurl' (heq ▸ hw)) hsome
            refine ⟨?_, hframes, c', hc', ?_, hgwyip'.trans hgwyip, ?_⟩
            · rcases turn_lastChange hsome with hsame | ⟨_, -, hturn⟩
              · exact Lists.sorted_of_map_eq hl.sorted hsame.xdevlist
              · exact hturn.sorted hl.sorted
            · rw [hasReceiverid_of_ids hids]
              exact hid
            · dsimp only
              rw [hvalue', hreceived]
              split
              · rename_i hw
                exact (lastWritten_concat_some (saysOf_eq hw)).symm
              · rename_i hw
                rw [hvalue]
                exact (lastWritten_concat_none (saysOf_ne hw)).symm
          · -- The daemon hangs over another variable.
            have hw : w ≠ v := by
              rintro rfl
              exact onLastChange_returns hl.sorted hone hudn hc hid hurl' hnone
            refine ⟨?_, hframes, c, ?_, hid, hgwyip, ?_⟩
            · rw [hglobals]
              exact hl.sorted
            · rw [hglobals]
              exact hc
            · dsimp only
              rw [hreceived, hvalue]
              exact (lastWritten_concat_none (saysOf_ne hw)).symm

/-- What has been sent is what the device has announced since. -/
theorem sent_step {old : List (EventedVariable × CStr)}
    (hl : l.device.notified = old ++ l.channel.sent)
    (h : linkStep p l e = some l') :
    l'.device.notified = old ++ l'.channel.sent := by
  cases e with
  | sys e =>
      obtain rfl := Option.some.inj h
      dsimp only
      obtain ⟨new, hnew⟩ := notified_prefix p.copy p.xcal l.device e
      rw [Channel.sent_send, ← hnew, List.drop_left, ← List.append_assoc,
        ← hl]
  | daemon e =>
      obtain ⟨y, -, rfl⟩ := Option.map_eq_some_iff.mp h
      exact hl
  | deliver io =>
      rw [linkStep] at h
      cases hdel : l.channel.deliver with
      | none =>
          rw [hdel] at h
          obtain rfl := Option.some.inj h
          exact hl
      | some m =>
          rw [hdel] at h
          dsimp only at h
          split at h
          · obtain rfl := Option.some.inj h
            exact hl
          · obtain ⟨y, -, rfl⟩ := Option.map_eq_some_iff.mp h
            dsimp only
            rw [(Channel.deliver_some hdel).1]
            exact hl

end Steps

/-! ## Every run -/

/-- The daemon subscribes in `l`, where no callback is in progress: it has the
record `d` of the device, and in the run that follows no other listed device has
the receiver id, and what else happens to the daemon is about others. -/
structure Subscribed (p : Parties) (k id : CStr) (d : GwyDeviceData) (l : Link)
    (es : List LinkEvent) : Prop where
  reached : ∃ serialNumber pre,
    runFrom (daemonStep p.settings) (startDaemon serialNumber) pre =
      some l.daemon
  idle : l.daemon.calls = []
  empty : l.channel = .empty
  udn : udnId p.udn = some id
  record : entry l.daemon.globals.xstate k = some d
  receiverid : hasReceiverid id d = true
  only : EveryState (linkStep p)
    (fun l => OnlyOne k id l.daemon.globals.xstate) l es
  elsewhere : ∀ e, LinkEvent.daemon e ∈ es → Elsewhere k id e

section Runs

variable {p : Parties} {l l' : Link} {es : List LinkEvent} {k id : CStr}
  {d : GwyDeviceData} {v : EventedVariable}

theorem Follows.run (hl : Follows p k id v d l) (hudn : udnId p.udn = some id)
    (hurl : v = .playbackUrl → d.gwyip ≠ p.settings.ipaddress.strip)
    (hone : EveryState (linkStep p)
      (fun l => OnlyOne k id l.daemon.globals.xstate) l es)
    (hes : ∀ e, LinkEvent.daemon e ∈ es → Elsewhere k id e)
    (h : runFrom (linkStep p) l es = some l') : Follows p k id v d l' := by
  induction es generalizing l with
  | nil =>
      obtain rfl := Option.some.inj h
      exact hl
  | cons e es ih =>
      obtain ⟨l₁, hstep, hrun⟩ := Option.bind_eq_some_iff.mp h
      obtain ⟨hnow, hlater⟩ := everyState_cons.mp hone
      refine ih (hl.step hnow hudn hurl ?_ hstep) (hlater l₁ hstep)
        (fun e' he' => hes e' (List.mem_cons_of_mem e he')) hrun
      rintro e' rfl
      exact hes e' List.mem_cons_self

theorem Subscribed.follows (hl : Subscribed p k id d l es)
    (v : EventedVariable) : Follows p k id v d l := by
  obtain ⟨serialNumber, pre, hreached⟩ := hl.reached
  refine ⟨daemon_sorted hreached, ?_, d, hl.record, hl.receiverid, rfl, ?_⟩
  · intro f hf
    rw [hl.idle] at hf
    exact absurd hf List.not_mem_nil
  · rw [hl.empty]
    rfl

/-- What has been sent is what the device has announced since the
subscription. -/
theorem Subscribed.sent (hl : Subscribed p k id d l es)
    (h : runFrom (linkStep p) l es = some l') :
    l'.device.notified = l.device.notified ++ l'.channel.sent := by
  refine runFrom_invariant' (I := fun l' : Link =>
    l'.device.notified = l.device.notified ++ l'.channel.sent)
    (fun _ _ _ hl hstep => sent_step hl hstep) ?_ h
  rw [hl.empty]
  exact (List.append_nil _).symm

theorem announces_step {old : List (EventedVariable × CStr)} {ids : CStr}
    {e : LinkEvent} (hl : Announces old ids l.device)
    (h : linkStep p l e = some l') : Announces old ids l'.device := by
  cases e with
  | sys e =>
      obtain rfl := Option.some.inj h
      exact hl.sysEventHandler
  | daemon e =>
      obtain ⟨y, -, rfl⟩ := Option.map_eq_some_iff.mp h
      exact hl
  | deliver io =>
      rw [linkStep] at h
      split at h
      · split at h
        · obtain rfl := Option.some.inj h
          exact hl
        · obtain ⟨y, -, rfl⟩ := Option.map_eq_some_iff.mp h
          exact hl
      · obtain rfl := Option.some.inj h
        exact hl

def gatewayParties : Parties where
  copy := .xcalDevice
  xcal := ⟨false, true, false, 0xFFFFFFFFFFFFFFFF⟩
  settings := broadbandSettings
  udn := .lit "uuid:7c1fc9a0"

/-- The gateway comes, and its services answer. -/
def gatewayComes : List DaemonEvent :=
  .available quietIo .basicDevice (some (echoDevice "A" "x").announcement) ::
    List.replicate 24 (.answer (echoDevice "A" "x").answers)

def idReport (stateId : XcalDevice.StateId) (payload : String) : SysEvent :=
  ⟨stateId, ⟨false, 2, .lit payload⟩, none⟩

def idsReported : List LinkEvent :=
  [.sys (idReport .channelmap "7"),
    .daemon (.available quietIo .x1Renderer
      (some (echoDevice "B" "y").announcement)),
    .deliver quietIo, .sys (idReport .plantId "8"), .deliver quietIo]

/-- The link when the daemon has found the gateway. -/
def gatewayLink (x : Daemon) : Link where
  device := { XcalDevice.inTune with systemids := .lit "x" }
  channel := .empty
  daemon := x

theorem gateway_subscribed :
    ∃ x d l', Subscribed gatewayParties (.lit "A") (.lit "7c1fc9a0") d
        (gatewayLink x) idsReported ∧ d.systemids = .lit "x" ∧
      runFrom (linkStep gatewayParties) (gatewayLink x) idsReported = some l' ∧
      l'.channel.inFlight = [] ∧ l'.device.systemids ≠ .lit "x" := by
  have hx : ∃ x, runFrom (daemonStep broadbandSettings) (startDaemon none)
      gatewayComes = some x ∧ x.calls = [] ∧
      ∃ d, entry x.globals.xstate (.lit "A") = some d ∧
        hasReceiverid (.lit "7c1fc9a0") d = true ∧
        d.systemids = .lit "x" ∧
        EveryState (linkStep gatewayParties)
          (fun l => OnlyOne (.lit "A") (.lit "7c1fc9a0")
            l.daemon.globals.xstate)
          (gatewayLink x) idsReported ∧
        ∃ l', runFrom (linkStep gatewayParties) (gatewayLink x) idsReported =
            some l' ∧ l'.channel.inFlight = [] ∧
          l'.device.systemids ≠ .lit "x" :=
    ⟨_, rfl, rfl, _, rfl, by decide, by decide, by decide, _, rfl, by decide,
      by decide⟩
  obtain ⟨x, hx, hidle, d, hd, hid, hids, honly, l', hl', hquiet, hne⟩ := hx
  have helsewhere : ∀ e, LinkEvent.daemon e ∈ idsReported →
      Elsewhere (.lit "A") (.lit "7c1fc9a0") e := by
    intro e he
    simp only [idsReported, List.mem_cons, List.not_mem_nil, reduceCtorEq,
      false_or, or_false, LinkEvent.daemon.injEq] at he
    subst he
    decide
  exact ⟨x, d, l', ⟨⟨none, gatewayComes, hx⟩, hidle, rfl, by decide, hd, hid,
    honly, helsewhere⟩, hids, hl', hquiet, hne⟩

end Runs

end Xupnp.System
