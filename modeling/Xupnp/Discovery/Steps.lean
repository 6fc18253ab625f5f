import Xupnp.Discovery.Frames

/-!
# What one callback does to the device list

`step_cases` says everything a callback can do to the list: it leaves the
devices it has, it lists one new device, or it deletes one. That the list is
in order after every run follows, and so do the later results about who is
listed.
-/

namespace Xupnp.Discovery

open Xupnp.Library Xupnp.WhiteList

/-! ## Inquiries -/

section Inquiry

variable {cfg : Settings} {d d' : GwyDeviceData}

theorem except_bind_eq_ok {ε α β : Type} {x : Except ε α}
    {f : α → Except ε β} {b : β} :
    (x >>= f) = .ok b ↔ ∃ a, x = .ok a ∧ f a = .ok b := by
  cases x with
  | error e => simp [bind, Except.bind]
  | ok a => simp [bind, Except.bind]

/-- Replacing the daemon's own address touches the URLs only. -/
theorem replaceLocalDeviceIp_cases
    (h : replaceLocalDeviceIp cfg d = .ok d') :
    ∃ playbackurl baseurl basetrmurl isOwnGateway, d' =
      { d.strip .gwyip with playbackurl, baseurl, basetrmurl, isOwnGateway } := by
  rw [replaceLocalDeviceIp] at h
  split at h
  · rw [replaceHnWithLocal, except_bind_eq_ok] at h
    obtain ⟨pb, -, h⟩ := h
    obtain ⟨b, -, h⟩ := except_bind_eq_ok.mp h
    obtain ⟨bt, -, h⟩ := except_bind_eq_ok.mp h
    exact ⟨pb, b, bt, true, (Except.ok.inj h).symm⟩
  · exact ⟨_, _, _, _, (Except.ok.inj h).symm⟩

/-- What no inquiry changes, once the receiver id is set. -/
structure SameIds (d d' : GwyDeviceData) : Prop where
  serialNum : d'.serialNum = d.serialNum
  receiverid : d'.receiverid = d.receiverid

theorem SameIds.trans {d₁ d₂ d₃ : GwyDeviceData} (h : SameIds d₁ d₂)
    (h' : SameIds d₂ d₃) : SameIds d₁ d₃ :=
  ⟨h'.serialNum.trans h.serialNum, h'.receiverid.trans h.receiverid⟩

theorem sameIds_replaceUnlessServer (h : replaceUnlessServer cfg d = .ok d') :
    SameIds d d' := by
  unfold replaceUnlessServer at h
  split at h
  · obtain rfl := Except.ok.inj h
    exact ⟨rfl, rfl⟩
  · obtain ⟨_, _, _, _, rfl⟩ := replaceLocalDeviceIp_cases h
    exact ⟨rfl, rfl⟩

theorem sameIds_gwServicesHead {p : ServiceProxy}
    (h : gwServicesHead p d = .ok d') : SameIds d d' := by
  obtain ⟨_, -, h⟩ := except_bind_eq_ok.mp h
  obtain ⟨_, -, h⟩ := except_bind_eq_ok.mp h
  obtain rfl := Except.ok.inj h
  exact ⟨rfl, rfl⟩

theorem sameIds_gwServicesGateway {p : ServiceProxy}
    (h : gwServicesGateway p d = .ok d') : SameIds d d' := by
  obtain ⟨_, -, h⟩ := except_bind_eq_ok.mp h
  obtain ⟨_, -, h⟩ := except_bind_eq_ok.mp h
  obtain ⟨_, -, h⟩ := except_bind_eq_ok.mp h
  obtain ⟨_, -, h⟩ := except_bind_eq_ok.mp h
  obtain rfl := Except.ok.inj h
  exact ⟨rfl, rfl⟩

theorem sameIds_gwServicesByType {p : ServiceProxy}
    (h : gwServicesByType p d = .ok d') : SameIds d d' := by
  unfold gwServicesByType at h
  split at h
  · obtain rfl := Except.ok.inj h
    exact ⟨rfl, rfl⟩
  · exact sameIds_gwServicesGateway h

theorem sameIds_gwServicesData {p : ServiceProxy}
    (h : gwServicesData cfg p d = .ok d') : SameIds d d' := by
  obtain ⟨d₁, h₁, h⟩ := except_bind_eq_ok.mp h
  obtain ⟨d₂, h₂, h⟩ := except_bind_eq_ok.mp h
  obtain ⟨d₃, h₃, h⟩ := except_bind_eq_ok.mp h
  obtain rfl := Except.ok.inj h
  apply (sameIds_gwServicesHead h₁).trans
  apply (sameIds_gwServicesByType h₂).trans
  exact (sameIds_replaceUnlessServer h₃).trans ⟨rfl, rfl⟩

/-- The receiver id a callback stores: the identity service overwrites the one
of the UDN. -/
def storedReceiverid (cp : ControlPoint) (p : DeviceProxy)
    (receiverid : CStr) : CStr :=
  match cp with
  | .basicDevice => receiverid
  | _ => ((p.service .identity).string .getReceiverId).getD receiverid

/-- The record an inquiry makes has the serial number it was given, and the
receiver id of the device. -/
theorem inquiry_ids {p : DeviceProxy} {cp : ControlPoint}
    {effects : List Effect} (h : inquiry cfg p cp d = .ok (d', effects)) :
    d'.serialNum = d.serialNum ∧
      d'.receiverid = storedReceiverid cp p d.receiverid := by
  cases cp with
  | basicDevice =>
      obtain ⟨d₁, h₁, h⟩ := except_bind_eq_ok.mp h
      obtain ⟨rfl, -⟩ := Prod.mk.inj (Except.ok.inj h)
      exact ⟨(sameIds_gwServicesData h₁).1, (sameIds_gwServicesData h₁).2⟩
  | x1Renderer =>
      obtain ⟨rfl, -⟩ := Prod.mk.inj (Except.ok.inj h)
      exact ⟨rfl, rfl⟩
  | x1VideoGateway =>
      obtain ⟨r, h₁, h⟩ := except_bind_eq_ok.mp h
      obtain ⟨d₂, h₂, h⟩ := except_bind_eq_ok.mp h
      obtain ⟨_, -, h₁⟩ := except_bind_eq_ok.mp h₁
      obtain rfl := Except.ok.inj h₁
      obtain ⟨rfl, -⟩ := Prod.mk.inj (Except.ok.inj h)
      have hids := sameIds_replaceUnlessServer h₂
      exact ⟨hids.1, hids.2⟩
  | x1BroadbandGateway =>
      obtain ⟨r, h₁, h⟩ := except_bind_eq_ok.mp h
      obtain ⟨_, -, h₁⟩ := except_bind_eq_ok.mp h₁
      obtain rfl := Except.ok.inj h₁
      obtain ⟨rfl, -⟩ := Prod.mk.inj (Except.ok.inj h)
      exact ⟨rfl, rfl⟩

/-- The record is listed under the serial number of the device, whether or not
that had been stripped. -/
theorem inquiry_key {p : DeviceProxy} {cp : ControlPoint} {sno id : CStr}
    {l : List GwyDeviceData} {effects : List Effect}
    (h : inquiry cfg p cp
      { initGwydata with
        serialNum := if l = [] then sno else sno.strip
        receiverid := id } = .ok (d', effects)) : d'.key = sno.strip := by
  rw [GwyDeviceData.key, (inquiry_ids h).1]
  dsimp only
  split
  · rfl
  · exact CStr.strip_strip sno

end Inquiry

/-! ## The cases of a step -/

/-- Which device a record is of, and the id its notifications come under. -/
def GwyDeviceData.ids (d : GwyDeviceData) : CStr × CStr :=
  (d.key, d.receiverid.strip)

@[simp] theorem GwyDeviceData.ids_normal (d : GwyDeviceData) :
    d.normal.ids = d.ids := by
  simp [ids, normal, key]

@[simp] theorem GwyDeviceData.ids_strip (d : GwyDeviceData)
    (f : GwyDeviceData.Field) : (d.strip f).ids = d.ids := by
  rw [← ids_normal, normal_strip, ids_normal]

theorem map_ids_of_normal {l l' : List GwyDeviceData}
    (h : l'.map GwyDeviceData.normal = l.map GwyDeviceData.normal) :
    l'.map GwyDeviceData.ids = l.map GwyDeviceData.ids := by
  have := congrArg (List.map GwyDeviceData.ids) h
  simpa [Function.comp_def] using this

theorem map_key_of_ids {l l' : List GwyDeviceData}
    (h : l'.map GwyDeviceData.ids = l.map GwyDeviceData.ids) :
    l'.map GwyDeviceData.key = l.map GwyDeviceData.key := by
  have := congrArg (List.map Prod.fst) h
  simpa [Function.comp_def, GwyDeviceData.ids] using this

/-- **All a callback can do to the list.** -/
inductive ListChange (cfg : Settings) (e : Event) (s s' : XState) : Prop
  /-- The devices stay the ones they are. -/
  | kept (same : s'.xdevlist.map GwyDeviceData.ids =
      s.xdevlist.map GwyDeviceData.ids)
  /-- A device whose serial number is not listed is added. -/
  | added (cp : ControlPoint) (p : DeviceProxy) (sno receiverid : CStr)
      (d : GwyDeviceData) (s₀ : XState)
      (notice : e.notice = .available cp p)
      (serialNumber : p.serialNumber = some sno)
      (udn : p.udn.bind udnId = some receiverid)
      (ids : d.ids = (sno.strip, (storedReceiverid cp p receiverid).strip))
      (new : ∀ c ∈ s.xdevlist, c.key ≠ sno.strip)
      (before : s₀.xdevlist.map GwyDeviceData.normal =
        s.xdevlist.map GwyDeviceData.normal)
      (after : s' = updateGwylist cfg e.io d s₀)
  /-- A device is deleted, if it is there. -/
  | dropped (cp : ControlPoint) (sno : Option CStr) (s₀ : XState)
      (notice : e.notice = .unavailable cp sno)
      (before : s₀.xdevlist.map GwyDeviceData.normal =
        s.xdevlist.map GwyDeviceData.normal)
      (after : s' = deleteAndPublish cfg e.io sno s₀)

section StepCases

variable {cfg : Settings} {io : Io} {s s' : XState} {e : Event}

theorem sendDiscoveryResult_ids (io : Io) (s : XState) :
    (sendDiscoveryResult cfg io s).xdevlist.map GwyDeviceData.ids =
      s.xdevlist.map GwyDeviceData.ids :=
  map_ids_of_normal (sendDiscoveryResult_normal cfg io s)

theorem refreshIpv6Prefix_ids (io : Io) (sno : Option CStr)
    (gwdata : GwyDeviceData) (answer : Option CStr) (s : XState) :
    (refreshIpv6Prefix cfg io sno gwdata answer s).xdevlist.map
        GwyDeviceData.ids = s.xdevlist.map GwyDeviceData.ids := by
  cases answer with
  | none => rfl
  | some temp =>
      rw [refreshIpv6Prefix]
      split
      · rfl
      · rw [sendDiscoveryResult_ids]
        exact modifyFound_map fun _ _ => rfl

/-- A new device is listed, or nothing is. -/
theorem addDevice_change {cp : ControlPoint} {p : DeviceProxy}
    (hnotice : e.notice = .available cp p)
    (hnew : ∀ n ∈ p.serialNumber, ∀ c ∈ s.xdevlist, c.key ≠ n.strip)
    {s₁ : XState} (hs₁ : s₁.xdevlist.map GwyDeviceData.normal =
      s.xdevlist.map GwyDeviceData.normal)
    (h : addDevice cfg e.io cp p s₁ = some s') : ListChange cfg e s s' := by
  unfold addDevice at h
  split at h
  · rename_i sno receiverid hsno hudn
    dsimp only at h
    split at h
    · rename_i d effects hinq
      obtain rfl := Option.some.inj h
      refine .added cp p sno receiverid d _ hnotice hsno hudn ?_
        (hnew sno hsno) ?_ rfl
      · rw [GwyDeviceData.ids, inquiry_key hinq, (inquiry_ids hinq).2]
      · exact hs₁
    · obtain rfl := Option.some.inj h
      refine .kept ((congrArg (List.map GwyDeviceData.ids) ?_).trans
        (map_ids_of_normal hs₁))
      cases cp <;> rfl
    · cases h
  · obtain rfl := Option.some.inj h
    exact .kept (map_ids_of_normal hs₁)

theorem absent_of_listFindSno {sno : Option CStr} {ds : List GwyDeviceData}
    {l : List GwyDeviceData} (h : listFindSno sno l = (ds, none)) :
    ∀ n ∈ sno, ∀ c ∈ l, c.key ≠ n.strip := by
  have hf := listFindSno_find sno l
  rw [h, eq_comm, Option.map_eq_none_iff, List.find?_eq_none] at hf
  rintro n rfl c hc hkey
  exact hf c hc (by simp [hasSno, hkey])

theorem listFindSno_list {sno : Option CStr} {ds l : List GwyDeviceData}
    {found : Option GwyDeviceData} (h : listFindSno sno l = (ds, found)) :
    ds.map GwyDeviceData.normal = l.map GwyDeviceData.normal := by
  have := listFindSno_normal sno l
  rwa [h] at this

/-- A device comes. -/
theorem available_change {cp : ControlPoint} {p : DeviceProxy}
    (hnotice : e.notice = .available cp p) (h : step cfg s e = some s') :
    ListChange cfg e s s' := by
  have hexisting : ∀ ds answer gwdata found,
      listFindSno p.serialNumber s.xdevlist = (ds, found) →
      (refreshIpv6Prefix cfg e.io p.serialNumber gwdata answer
        { s with xdevlist := ds }).xdevlist.map GwyDeviceData.ids =
      s.xdevlist.map GwyDeviceData.ids := by
    intro ds answer gwdata found hf
    rw [refreshIpv6Prefix_ids]
    exact map_ids_of_normal (listFindSno_list hf)
  have hadd : ∀ ds cp', e.notice = .available cp' p →
      listFindSno p.serialNumber s.xdevlist = (ds, none) →
      addDevice cfg e.io cp' p { s with xdevlist := ds } = some s' →
      ListChange cfg e s s' := fun ds cp' hn hf h =>
    addDevice_change hn (absent_of_listFindSno hf) (listFindSno_list hf) h
  rw [step, hnotice] at h
  cases cp with
  | basicDevice =>
      dsimp only at h
      unfold deviceProxyAvailableCb at h
      split at h
      · obtain rfl := Option.some.inj h
        exact .kept rfl
      split at h
      · rename_i ds gwdata hf
        obtain rfl := Option.some.inj h
        exact .kept (hexisting ds _ gwdata _ hf)
      · rename_i ds hf
        split at h
        · exact hadd ds .basicDevice hnotice hf h
        · obtain rfl := Option.some.inj h
          exact .kept (map_ids_of_normal (listFindSno_list hf))
  | x1VideoGateway =>
      dsimp only at h
      unfold deviceProxyAvailableCbGw at h
      split at h
      · rename_i ds gwdata hf
        obtain rfl := Option.some.inj h
        exact .kept (hexisting ds _ gwdata _ hf)
      · rename_i ds hf
        exact hadd ds .x1VideoGateway hnotice hf h
  | x1Renderer | x1BroadbandGateway =>
      dsimp only at h
      unfold deviceProxyAvailableCbClient at h
      split at h
      · rename_i ds _ hf
        obtain rfl := Option.some.inj h
        exact .kept (map_ids_of_normal (listFindSno_list hf))
      · rename_i ds hf
        exact hadd ds _ hnotice hf h

theorem checkDeviceExists_list {sno : Option CStr}
    {l ds : List GwyDeviceData} {found : Option CStr}
    (h : checkDeviceExists sno l = some (ds, found)) :
    ds.map GwyDeviceData.normal = l.map GwyDeviceData.normal := by
  induction l generalizing ds found with
  | nil =>
      obtain ⟨rfl, -⟩ := Prod.mk.inj (Option.some.inj h)
      rfl
  | cons d l ih =>
      unfold checkDeviceExists at h
      dsimp only at h
      split at h
      · split at h
        · obtain ⟨url, -, heq⟩ := Option.map_eq_some_iff.mp h
          obtain ⟨rfl, -⟩ := Prod.mk.inj heq
          simp
        · obtain ⟨rfl, -⟩ := Prod.mk.inj (Option.some.inj h)
          simp
      · split at h
        · obtain ⟨rfl, -⟩ := Prod.mk.inj (Option.some.inj h)
          simp
        · obtain ⟨⟨ds', found'⟩, h', heq⟩ := Option.map_eq_some_iff.mp h
          obtain ⟨rfl, -⟩ := Prod.mk.inj heq
          simp [ih h']

/-- A device goes. -/
theorem unavailable_change {cp : ControlPoint} {sno : Option CStr}
    (hnotice : e.notice = .unavailable cp sno) (h : step cfg s e = some s') :
    ListChange cfg e s s' := by
  have hchecked : deviceProxyUnavailableCb cfg e.io sno s = some s' →
      ListChange cfg e s s' := by
    intro h
    unfold deviceProxyUnavailableCb at h
    dsimp only at h
    split at h
    · obtain rfl := Option.some.inj h
      exact .kept rfl
    split at h
    · cases h
    · rename_i ds hf
      obtain rfl := Option.some.inj h
      exact .kept (map_ids_of_normal (checkDeviceExists_list hf))
    · rename_i ds url hf
      split at h
      · obtain rfl := Option.some.inj h
        exact .kept (map_ids_of_normal (checkDeviceExists_list hf))
      · obtain rfl := Option.some.inj h
        exact .dropped cp sno _ hnotice (checkDeviceExists_list hf) rfl
  have hplain : deviceProxyUnavailableCbClient cfg e.io sno s = some s' →
      ListChange cfg e s s' := by
    intro h
    unfold deviceProxyUnavailableCbClient at h
    dsimp only at h
    split at h
    · obtain rfl := Option.some.inj h
      exact .kept rfl
    · obtain rfl := Option.some.inj h
      exact .dropped cp sno { s with ownSerialNo := s.ownSerialNo.strip }
        hnotice rfl rfl
  rw [step, hnotice] at h
  cases cp with
  | basicDevice | x1VideoGateway => exact hchecked h
  | x1Renderer | x1BroadbandGateway => exact hplain h

/-- What depends on none of the fields a notification can change is as it
was. -/
theorem setVariable_map {α : Type} {g : GwyDeviceData → α}
    (hg : ∀ (d : GwyDeviceData) playbackurl baseurl basetrmurl isOwnGateway
      gwyip systemids dataGatewayIPaddress dnsconfig dsgtimezone ipSubNet,
      g { d with playbackurl, baseurl, basetrmurl, isOwnGateway, gwyip,
                 systemids, dataGatewayIPaddress, dnsconfig, dsgtimezone,
                 ipSubNet } = g d)
    {v : Variable} {value : CStr} {d d' : GwyDeviceData}
    {effects : List Effect}
    (h : setVariable cfg v value d = .ok (some (d', effects))) :
    g d' = g d := by
  have hset : ∀ {c : Prop} [Decidable c] {x : GwyDeviceData × List Effect},
      g x.1 = g d →
      Except.ok (ε := Stop) (if c then none else some x) =
        .ok (some (d', effects)) → g d' = g d := by
    intro c _ x hx h
    split at h
    · cases h
    · obtain rfl := Option.some.inj (Except.ok.inj h)
      exact hx
  cases v with
  | playbackUrl =>
      rw [setVariable] at h
      split at h
      · cases h
      · obtain ⟨d₁, h₁, h⟩ := except_bind_eq_ok.mp h
        obtain ⟨_, _, _, _, rfl⟩ := replaceLocalDeviceIp_cases h₁
        obtain ⟨rfl, -⟩ := Prod.mk.inj (Option.some.inj (Except.ok.inj h))
        exact hg d _ _ _ _ _ _ _ _ _ _
  | other => cases h
  | _ => exact hset (hg d _ _ _ _ _ _ _ _ _ _) h

/-- A notification changes none of the fields a device is known by. -/
theorem setVariable_ids {v : Variable} {value : CStr} {d d' : GwyDeviceData}
    {effects : List Effect}
    (h : setVariable cfg v value d = .ok (some (d', effects))) :
    d'.ids = d.ids :=
  setVariable_map (fun _ _ _ _ _ _ _ _ _ _ _ => rfl) h

/-- A device tells of a change. -/
theorem lastChange_change {udn : Option CStr} {v : Variable} {value : CStr}
    (hnotice : e.notice = .lastChange udn v value)
    (h : step cfg s e = some s') : ListChange cfg e s s' := by
  have hlist : ∀ id, (listFindUdn id s.xdevlist).1.map GwyDeviceData.ids =
      s.xdevlist.map GwyDeviceData.ids := fun id =>
    listFindCustom_map (fun d => d.ids_strip .receiverid) s.xdevlist
  rw [step, hnotice] at h
  dsimp only at h
  unfold onLastChange at h
  split at h
  · obtain rfl := Option.some.inj h
    exact .kept rfl
  rename_i id _
  have hfind : (listFindUdn id s.xdevlist).1.find? (hasReceiverid id) =
      (listFindUdn id s.xdevlist).2 :=
    listFindCustom_find_self _ _ s.xdevlist
  have hlist := hlist id
  split at h
  · rename_i ds hf
    rw [hf] at hlist
    obtain rfl := Option.some.inj h
    exact .kept hlist
  · rename_i ds gwdata hf
    rw [hf] at hlist hfind
    split at h
    · cases h
    · obtain rfl := Option.some.inj h
      exact .kept hlist
    · rename_i d' effects hset
      obtain rfl := Option.some.inj h
      refine .kept ?_
      rw [sendDiscoveryResult_ids]
      refine (modifyFound_map fun d hd => ?_).trans hlist
      obtain rfl := Option.some.inj (hfind.symm.trans hd)
      exact setVariable_ids hset

/-- **One callback.** -/
theorem step_cases (h : step cfg s e = some s') : ListChange cfg e s s' := by
  cases hn : e.notice with
  | available cp p => exact available_change hn h
  | unavailable cp sno => exact unavailable_change hn h
  | lastChange udn v value => exact lastChange_change hn h

end StepCases

/-! ## Runs -/

section Runs

variable {cfg : Settings} {s s' : XState} {e : Event}

/-- Every callback keeps the list in order. -/
theorem step_sorted (hs : s.xdevlist.Pairwise fun a b => a.key < b.key)
    (h : step cfg s e = some s') :
    s'.xdevlist.Pairwise fun a b => a.key < b.key := by
  obtain ⟨t, ht⟩ := Lists.of_sorted hs
  cases step_cases h with
  | kept same =>
      have hkeys : (s'.xdevlist.map GwyDeviceData.key).Pairwise (· < ·) := by
        rw [map_key_of_ids same]
        exact List.pairwise_map.mpr hs
      exact List.pairwise_map.mp hkeys
  | added cp p sno receiverid d s₀ notice serialNumber udn ids new before
      after =>
      subst after
      exact ((ht.of_map_eq before).updateGwylist cfg e.io d).sorted
  | dropped cp sno s₀ notice before after =>
      subst after
      have hdel := (ht.of_map_eq before).deleteGwyitem cfg e.io sno
      exact (hdel.of_map_eq (deleteAndPublish_normal cfg e.io sno s₀)).sorted

theorem run_sorted {n : Option CStr} {es : List Event}
    (h : runFrom (step cfg) (startState n) es = some s) :
    s.xdevlist.Pairwise fun a b => a.key < b.key :=
  runFrom_invariant'
    (I := fun s => s.xdevlist.Pairwise fun a b => a.key < b.key)
    (fun _ _ _ hs hstep => step_sorted hs hstep) List.Pairwise.nil h

/-- A `BROADBAND` build with device protection. -/
def broadbandSettings : Settings where
  broadband := true
  clientXcalServer := true
  enableRoute := false
  tzUpdate := false
  rfcEnabled := true
  ipaddress := .lit "10.0.0.1"
  gwSetupFile := .lit "/lib/rdk/gwSetup.sh"
  gwIf := .lit "eth1"
  gwPriority := 50
  enableGwSetup := true
  broadband_imp _ := rfl

/-- An `ENABLE_ROUTE` build that sets up gateways. -/
def routeSettings : Settings :=
  { broadbandSettings with enableRoute := true }

/-- Nothing answers, and the locals start as 0. -/
def quietIo : Io where
  serialNumber := none
  soupStatusFromUrl _ := false
  insertLocals := ⟨.success, 0⟩
  deleteLocals := ⟨.success, 0⟩

/-- A service that answers every request with the same text, and with `TRUE`
and 0. -/
def echoService (text : CStr) : ServiceProxy where
  string _ := some text
  boolean _ := some true
  int _ := some 0

/-- A device of this serial number whose services echo a text. -/
def echoDevice (sno text : String) : DeviceProxy where
  serialNumber := some (.lit sno)
  udn := some (.lit "uuid:7c1fc9a0")
  upc := none
  hasService _ := true
  service _ := echoService (.lit text)

end Runs

end Xupnp.Discovery
