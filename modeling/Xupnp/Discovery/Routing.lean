import Xupnp.Discovery.Ownership

/-!
# Routing notifications to devices

A notification comes with the UDN of its device, and `on_last_change` looks for
the record whose receiver id is that UDN without `uuid:`. The receiver id is
written from the UDN first, and then from whatever the identity service
answers. `routed_run_iff` says exactly when every notification finds its
device in every state of a run.
-/

namespace Xupnp.Discovery

open Xupnp.Library Xupnp.WhiteList

/-- Remember the id in the UDN of each device that is listed. -/
def noteUdn (s : XState) (e : Event) (s' : XState) (m : CStr → Option CStr) :
    CStr → Option CStr :=
  match e.notice with
  | .available _ p =>
      match p.serialNumber with
      | some sno =>
          if ¬ Listed s sno.strip ∧ Listed s' sno.strip then
            Function.update m sno.strip (p.udn.bind udnId)
          else m
      | none => m
  | _ => m

/-- A notification with the UDN of a listed device finds that device: its
record has the id of the UDN, and no other record comes first. -/
def Routed (x : XState × (CStr → Option CStr)) : Prop :=
  ∀ d ∈ x.1.xdevlist, ∀ id, x.2 d.key = some id →
    d.receiverid.strip = id.strip ∧
      ∃ c, (listFindUdn id x.1.xdevlist).2 = some c ∧ c.key = d.key

/-- The callback goes on to ask a device that is not listed yet. -/
def Asks (cfg : Settings) (p : DeviceProxy) : ControlPoint → Prop
  | .basicDevice =>
      ¬ (cfg.rfcEnabled ∧ p.upc = some (.lit "10000")) ∧
        p.hasService .discovery = true
  | .x1Renderer | .x1VideoGateway | .x1BroadbandGateway => True

/-- The device is not listed yet, is asked, and answers all that is
mandatory. -/
def Adds (cfg : Settings) (s : XState) (cp : ControlPoint) (p : DeviceProxy)
    (sno receiverid : CStr) : Prop :=
  ¬ Listed s sno.strip ∧ Asks cfg p cp ∧
    ∃ r, inquiry cfg p cp
      { initGwydata with
        serialNum := if s.xdevlist = [] then sno else sno.strip
        receiverid } = .ok r

/-- If the event adds a device, what is stored as its receiver id is the id of
its UDN, and no listed device has that id already. -/
def RoutableAdd (cfg : Settings) (x : XState × (CStr → Option CStr))
    (e : Event) : Prop :=
  ∀ cp p sno id, e.notice = .available cp p → p.serialNumber = some sno →
    p.udn.bind udnId = some id → Adds cfg x.1 cp p sno id →
    (storedReceiverid cp p id).strip = id.strip ∧
      ∀ c ∈ x.1.xdevlist, c.receiverid.strip ≠ id.strip

/-! ## Routing by ids -/

/-- Every listed device has an id. -/
def Known (x : XState × (CStr → Option CStr)) : Prop :=
  ∀ a ∈ x.1.xdevlist.map GwyDeviceData.ids, (x.2 a.1).isSome

/-- Each device has the id of its UDN, and has it alone. -/
def RoutedIds (m : CStr → Option CStr) (l : List (CStr × CStr)) : Prop :=
  ∀ a ∈ l, (∀ id ∈ m a.1, a.2 = id.strip) ∧ ∀ b ∈ l, b.2 = a.2 → b.1 = a.1

theorem listFindUdn_find (id : CStr) (l : List GwyDeviceData) :
    (listFindUdn id l).2 =
      (l.find? (hasReceiverid id)).map (·.strip .receiverid) :=
  listFindCustom_find
    (fun d => by simp [hasReceiverid, GwyDeviceData.strip]) l

theorem find_receiverid {id : CStr} {l : List GwyDeviceData}
    {c : GwyDeviceData} (h : (listFindUdn id l).2 = some c) :
    c.ids ∈ l.map GwyDeviceData.ids ∧ c.ids.2 = id.strip := by
  rw [listFindUdn_find] at h
  obtain ⟨c', hc', rfl⟩ := Option.map_eq_some_iff.mp h
  have hhit := List.find?_some hc'
  refine ⟨?_, ?_⟩
  · rw [GwyDeviceData.ids_strip]
    exact List.mem_map_of_mem (List.mem_of_find?_eq_some hc')
  · rw [GwyDeviceData.ids_strip]
    simpa [hasReceiverid, GwyDeviceData.ids] using hhit

/-- Routing only depends on the ids. -/
theorem routed_iff {x : XState × (CStr → Option CStr)} (hk : Known x) :
    Routed x ↔ RoutedIds x.2 (x.1.xdevlist.map GwyDeviceData.ids) := by
  constructor
  · intro h a ha
    obtain ⟨d, hd, rfl⟩ := List.mem_map.mp ha
    refine ⟨fun id hid => (h d hd id hid).1, fun b hb hab => ?_⟩
    obtain ⟨d', hd', rfl⟩ := List.mem_map.mp hb
    obtain ⟨id, hid⟩ := Option.isSome_iff_exists.mp (hk _ ha)
    obtain ⟨id', hid'⟩ := Option.isSome_iff_exists.mp (hk _ hb)
    obtain ⟨hrid, c, hc, hkey⟩ := h d hd id hid
    obtain ⟨hrid', c', hc', hkey'⟩ := h d' hd' id' hid'
    have hid_eq : id'.strip = id.strip := by
      rw [← hrid, ← hrid']
      exact hab
    have hsame : listFindUdn id' x.1.xdevlist = listFindUdn id x.1.xdevlist := by
      rw [listFindUdn, listFindUdn]
      congr 1
      funext e
      simp [hasReceiverid, hid_eq]
    rw [hsame, hc] at hc'
    obtain rfl := Option.some.inj hc'
    exact hkey'.symm.trans hkey
  · intro h d hd id hid
    have hmem : d.ids ∈ x.1.xdevlist.map GwyDeviceData.ids :=
      List.mem_map_of_mem hd
    have hrid : d.receiverid.strip = id.strip := (h _ hmem).1 id hid
    have hsome : ((x.1.xdevlist).find? (hasReceiverid id)).isSome :=
      List.find?_isSome.mpr ⟨d, hd, by simp [hasReceiverid, hrid]⟩
    obtain ⟨c, hc⟩ := Option.isSome_iff_exists.mp hsome
    have hfound : (listFindUdn id x.1.xdevlist).2 =
        some (c.strip .receiverid) := by
      rw [listFindUdn_find, hc]
      rfl
    obtain ⟨hcmem, hcrid⟩ := find_receiverid hfound
    refine ⟨hrid, _, hfound, ?_⟩
    exact (h _ hmem).2 _ hcmem (hcrid.trans hrid.symm)

/-- A device that is put in has its id alone exactly if it is the id of its UDN
and no other device has it. -/
theorem routedIds_insert_iff {m : CStr → Option CStr}
    {l l' : List (CStr × CStr)} {k v id : CStr} (hr : RoutedIds m l)
    (hnew : ∀ a ∈ l, a.1 ≠ k) (hmem : ∀ a, a ∈ l' ↔ a = (k, v) ∨ a ∈ l) :
    RoutedIds (Function.update m k (some id)) l' ↔
      v = id.strip ∧ ∀ a ∈ l, a.2 ≠ id.strip := by
  constructor
  · intro h
    have hself := h (k, v) ((hmem _).mpr (Or.inl rfl))
    have hstored : v = id.strip := hself.1 id (Function.update_self _ _ _)
    refine ⟨hstored, fun a ha heq => hnew a ha ?_⟩
    exact hself.2 a ((hmem a).mpr (Or.inr ha)) (heq.trans hstored.symm)
  · rintro ⟨hstored, hother⟩ a ha
    rcases (hmem a).mp ha with rfl | ha
    · refine ⟨fun id' hid' => ?_, fun b hb hab => ?_⟩
      · rw [Function.update_self] at hid'
        obtain rfl := Option.some.inj hid'
        exact hstored
      · rcases (hmem b).mp hb with rfl | hb
        · rfl
        · exact absurd (hab.trans hstored) (hother b hb)
    · refine ⟨fun id' hid' => ?_, fun b hb hab => ?_⟩
      · rw [Function.update_of_ne (hnew a ha)] at hid'
        exact (hr a ha).1 id' hid'
      · rcases (hmem b).mp hb with rfl | hb
        · exact absurd (hab.symm.trans hstored) (hother a ha)
        · exact (hr a ha).2 b hb hab

/-! ## One callback -/

section Step

variable {cfg : Settings} {s s' : XState} {e : Event} {t : DeviceTable}

theorem Lists.mem_ids (h : Lists s t) (a : CStr × CStr) :
    a ∈ s.xdevlist.map GwyDeviceData.ids ↔ ∃ b ∈ t.entries, b.ids = a := by
  rw [← h]
  simp

/-- What a callback does to the ids: they stay or become fewer, or one is
added under a new serial number. -/
theorem step_ids (hs : s.xdevlist.Pairwise fun a b => a.key < b.key)
    (h : step cfg s e = some s') :
    (∀ a ∈ s'.xdevlist.map GwyDeviceData.ids,
        a ∈ s.xdevlist.map GwyDeviceData.ids) ∨
      ∃ cp p sno id, e.notice = .available cp p ∧
        p.serialNumber = some sno ∧ p.udn.bind udnId = some id ∧
        ¬ Listed s sno.strip ∧
        ∀ a, a ∈ s'.xdevlist.map GwyDeviceData.ids ↔
          a = (sno.strip, (storedReceiverid cp p id).strip) ∨
            a ∈ s.xdevlist.map GwyDeviceData.ids := by
  obtain ⟨t, ht⟩ := Lists.of_sorted hs
  cases step_cases h with
  | kept same =>
      rw [same]
      exact Or.inl fun a ha => ha
  | added cp p sno id d s₀ notice serialNumber udn ids new before after =>
      have hnew : ∀ b ∈ t.entries, b.key ≠ d.key := by
        intro b hb
        rw [← ht, List.mem_map] at hb
        obtain ⟨c, hc, rfl⟩ := hb
        rw [GwyDeviceData.key_normal, (Prod.mk.inj ids).1]
        exact new c hc
      refine Or.inr ⟨cp, p, sno, id, notice, serialNumber, udn, ?_, fun a => ?_⟩
      · intro hl
        obtain ⟨c, hc, hkey⟩ := List.mem_map.mp hl
        exact new c hc hkey
      · subst after
        rw [((ht.of_map_eq before).updateGwylist cfg e.io d).mem_ids, ht.mem_ids, ← ids]
        constructor
        · rintro ⟨b, hb, rfl⟩
          rcases SortedTable.mem_insert.mp hb with rfl | ⟨hb, -⟩
          · exact Or.inl d.ids_normal
          · exact Or.inr ⟨b, hb, rfl⟩
        · rintro (rfl | ⟨b, hb, rfl⟩)
          · exact ⟨d.normal, SortedTable.mem_insert.mpr (Or.inl rfl),
              d.ids_normal⟩
          · refine ⟨b, SortedTable.mem_insert.mpr (Or.inr ⟨hb, ?_⟩), rfl⟩
            rw [GwyDeviceData.key_normal]
            exact hnew b hb
  | dropped cp sno s₀ notice before after =>
      subst after
      apply Or.inl
      intro a ha
      have hdel := ((ht.of_map_eq before).deleteGwyitem cfg e.io
        sno).of_map_eq (deleteAndPublish_normal cfg e.io sno s₀)
      obtain ⟨b, hb, rfl⟩ := (hdel.mem_ids a).mp ha
      refine (ht.mem_ids _).mpr ⟨b, ?_, rfl⟩
      cases sno with
      | none => exact hb
      | some n => exact (SortedTable.mem_erase.mp hb).1

theorem listed_iff_ids (s : XState) (k : CStr) :
    Listed s k ↔ ∃ a ∈ s.xdevlist.map GwyDeviceData.ids, a.1 = k := by
  rw [Listed]
  simp [GwyDeviceData.ids]

/-- A callback that asks goes on to fill and list a record, and one that does
not leaves the list alone. -/
theorem step_available (cfg : Settings) {cp : ControlPoint} {p : DeviceProxy}
    {ds : List GwyDeviceData} (hnotice : e.notice = .available cp p)
    (hf : listFindSno p.serialNumber s.xdevlist = (ds, none)) :
    (Asks cfg p cp → step cfg s e =
      addDevice cfg e.io cp p { s with xdevlist := ds }) ∧
    (¬ Asks cfg p cp → ∀ s', step cfg s e = some s' →
      s'.xdevlist.map GwyDeviceData.normal =
        s.xdevlist.map GwyDeviceData.normal) := by
  rw [step, hnotice]
  cases cp with
  | basicDevice =>
      dsimp only
      unfold deviceProxyAvailableCb
      constructor
      · rintro ⟨hupc, hservice⟩
        rw [if_neg hupc, hf]
        exact if_pos hservice
      · intro hasks s' h
        split at h
        · obtain rfl := Option.some.inj h
          rfl
        · rename_i hupc
          rw [hf] at h
          dsimp only at h
          rw [if_neg fun hservice => hasks ⟨hupc, hservice⟩] at h
          obtain rfl := Option.some.inj h
          exact listFindSno_list hf
  | x1VideoGateway =>
      refine ⟨fun _ => ?_, fun hasks => absurd trivial hasks⟩
      dsimp only
      rw [deviceProxyAvailableCbGw, hf]
  | x1Renderer | x1BroadbandGateway =>
      refine ⟨fun _ => ?_, fun hasks => absurd trivial hasks⟩
      dsimp only
      rw [deviceProxyAvailableCbClient, hf]

/-- A device that is not listed is listed exactly if the event adds it. -/
theorem adds_iff {cp : ControlPoint} {p : DeviceProxy} {sno id : CStr}
    (hs : s.xdevlist.Pairwise fun a b => a.key < b.key)
    (hnotice : e.notice = .available cp p) (hsno : p.serialNumber = some sno)
    (hudn : p.udn.bind udnId = some id) (hnew : ¬ Listed s sno.strip) :
    Adds cfg s cp p sno id ↔
      ∃ s', step cfg s e = some s' ∧ Listed s' sno.strip := by
  obtain ⟨ds, hf⟩ := listFindSno_of_not_listed hnew
  rw [← hsno] at hf
  have hlist := listFindSno_list hf
  have hempty : ds = [] ↔ s.xdevlist = [] := by
    rw [← List.map_eq_nil_iff (f := GwyDeviceData.normal), hlist,
      List.map_eq_nil_iff]
  have hsorted : ds.Pairwise fun a b => a.key < b.key := by
    have hs' : { s with xdevlist := ds }.xdevlist.map GwyDeviceData.normal =
        s.xdevlist.map GwyDeviceData.normal := hlist
    exact Lists.sorted_of_map_eq hs hs'
  obtain ⟨hasked, hunasked⟩ := step_available cfg hnotice hf
  constructor
  · rintro ⟨-, hasks, ⟨d, effects⟩, hinq⟩
    have hkey := inquiry_key hinq
    refine ⟨updateGwylist cfg e.io d
      { s with xdevlist := ds, trace := s.trace ++ effects }, ?_, ?_⟩
    · rw [hasked hasks, addDevice, hsno, hudn]
      dsimp only
      simp only [hempty, hinq]
    · exact (listed_updateGwylist cfg e.io hsorted d).mpr (Or.inl hkey.symm)
  · rintro ⟨s', hstep, hl⟩
    by_cases hasks : Asks cfg p cp
    · refine ⟨hnew, hasks, ?_⟩
      rw [hasked hasks, addDevice, hsno, hudn] at hstep
      dsimp only at hstep
      simp only [hempty] at hstep
      split at hstep
      · rename_i d effects hinq
        exact ⟨_, hinq⟩
      · -- Without a mandatory datum nothing is listed.
        obtain rfl := Option.some.inj hstep
        have hkept : (noteRefused cp { s with xdevlist := ds }).xdevlist =
            ds := by cases cp <;> rfl
        refine absurd ((listed_of_normal ?_).mp hl) hnew
        rw [hkept]
        exact hlist
      · cases hstep
    · exact absurd ((listed_of_normal (hunasked hasks s' hstep)).mp hl) hnew

/-- Unless a device is added, the record of UDNs stays. -/
theorem noteUdn_eq {m : CStr → Option CStr}
    (h : ∀ a ∈ s'.xdevlist.map GwyDeviceData.ids,
      a ∈ s.xdevlist.map GwyDeviceData.ids) : noteUdn s e s' m = m := by
  have hl : ∀ k, Listed s' k → Listed s k := by
    intro k hk
    obtain ⟨a, ha, rfl⟩ := (listed_iff_ids s' k).mp hk
    exact (listed_iff_ids s a.1).mpr ⟨a, h a ha, rfl⟩
  unfold noteUdn
  split
  · split
    · exact if_neg fun hn => hn.1 (hl _ hn.2)
    · rfl
  · rfl

end Step

variable {cfg : Settings} {x y : XState × (CStr → Option CStr)} {e : Event}

/-- What holds in any case: the list is in order, and every device is
known. -/
def Ordered (x : XState × (CStr → Option CStr)) : Prop :=
  (x.1.xdevlist.Pairwise fun a b => a.key < b.key) ∧ Known x

/-- The two cases of a callback, with the record of UDNs. -/
theorem withHistory_noteUdn_cases (hx : Ordered x)
    (h : withHistory (step cfg) noteUdn x e = some y) :
    (y.2 = x.2 ∧ ∀ a ∈ y.1.xdevlist.map GwyDeviceData.ids,
        a ∈ x.1.xdevlist.map GwyDeviceData.ids) ∨
      ∃ cp p sno id, e.notice = .available cp p ∧
        p.serialNumber = some sno ∧ p.udn.bind udnId = some id ∧
        ¬ Listed x.1 sno.strip ∧ Listed y.1 sno.strip ∧
        y.2 = Function.update x.2 sno.strip (some id) ∧
        ∀ a, a ∈ y.1.xdevlist.map GwyDeviceData.ids ↔
          a = (sno.strip, (storedReceiverid cp p id).strip) ∨
            a ∈ x.1.xdevlist.map GwyDeviceData.ids := by
  obtain ⟨hstep, hnote⟩ := withHistory_eq_some.mp h
  rcases step_ids hx.1 hstep with hsub |
    ⟨cp, p, sno, id, hnotice, hsno, hudn, hnew, hmem⟩
  · exact Or.inl ⟨hnote.trans (noteUdn_eq hsub), hsub⟩
  · have hl : Listed y.1 sno.strip :=
      (listed_iff_ids y.1 _).mpr ⟨_, (hmem _).mpr (Or.inl rfl), rfl⟩
    refine Or.inr ⟨cp, p, sno, id, hnotice, hsno, hudn, hnew, hl, ?_, hmem⟩
    rw [hnote, noteUdn, hnotice]
    dsimp only
    rw [hsno]
    dsimp only
    rw [if_pos ⟨hnew, hl⟩, hudn]

theorem ordered_step (hx : Ordered x)
    (h : withHistory (step cfg) noteUdn x e = some y) : Ordered y := by
  refine ⟨step_sorted hx.1 (withHistory_eq_some.mp h).1, fun a ha => ?_⟩
  rcases withHistory_noteUdn_cases hx h with ⟨hm, hsub⟩ |
    ⟨cp, p, sno, id, -, -, -, hnew, -, hm, hmem⟩
  · rw [hm]
    exact hx.2 a (hsub a ha)
  · rw [hm]
    rcases (hmem a).mp ha with rfl | ha
    · simp
    · have hne : a.1 ≠ sno.strip := by
        rintro heq
        exact hnew ((listed_iff_ids x.1 _).mpr ⟨a, ha, heq⟩)
      rw [Function.update_of_ne hne]
      exact hx.2 a ha

/-- **One callback** keeps the notifications routed exactly if a device it
lists is routable. -/
theorem routed_step_iff (hx : Ordered x) (hr : Routed x) :
    RoutableAdd cfg x e ↔
      ∀ y, withHistory (step cfg) noteUdn x e = some y → Routed y := by
  rw [routed_iff hx.2] at hr
  -- A device that is not listed has its serial number alone.
  have hfresh : ∀ {sno : CStr}, ¬ Listed x.1 sno.strip →
      ∀ a ∈ x.1.xdevlist.map GwyDeviceData.ids, a.1 ≠ sno.strip :=
    fun hnew a ha heq => hnew ((listed_iff_ids x.1 _).mpr ⟨a, ha, heq⟩)
  have hother : ∀ {id : CStr},
      (∀ a ∈ x.1.xdevlist.map GwyDeviceData.ids, a.2 ≠ id.strip) ↔
        ∀ c ∈ x.1.xdevlist, c.receiverid.strip ≠ id.strip :=
    List.forall_mem_map
  constructor
  · intro hadd y hy
    rw [routed_iff (ordered_step hx hy).2]
    rcases withHistory_noteUdn_cases hx hy with ⟨hm, hsub⟩ |
      ⟨cp, p, sno, id, hnotice, hsno, hudn, hnew, hl, hm, hmem⟩
    · rw [hm]
      exact fun a ha => ⟨(hr a (hsub a ha)).1,
        fun b hb => (hr a (hsub a ha)).2 b (hsub b hb)⟩
    · have hadds : Adds cfg x.1 cp p sno id :=
        (adds_iff hx.1 hnotice hsno hudn hnew).mpr
          ⟨y.1, (withHistory_eq_some.mp hy).1, hl⟩
      obtain ⟨hstored, hids⟩ := hadd cp p sno id hnotice hsno hudn hadds
      rw [hm]
      exact (routedIds_insert_iff hr (hfresh hnew) hmem).mpr
        ⟨hstored, hother.mpr hids⟩
  · intro h cp p sno id hnotice hsno hudn hadds
    have hnew := hadds.1
    obtain ⟨s', hstep, hl⟩ := (adds_iff hx.1 hnotice hsno hudn hnew).mp hadds
    have hy : withHistory (step cfg) noteUdn x e =
        some (s', noteUdn x.1 e s' x.2) := withHistory_eq_some.mpr ⟨hstep, rfl⟩
    have hry := (routed_iff (ordered_step hx hy).2).mp (h _ hy)
    rcases withHistory_noteUdn_cases hx hy with ⟨-, hsub⟩ |
      ⟨cp', p', sno', id', hnotice', hsno', hudn', -, -, hm, hmem⟩
    · obtain ⟨a, ha, heq⟩ := (listed_iff_ids s' _).mp hl
      exact absurd ((listed_iff_ids x.1 _).mpr ⟨a, hsub a ha, heq⟩) hnew
    · rw [hnotice] at hnotice'
      obtain ⟨rfl, rfl⟩ := Notice.available.inj hnotice'
      obtain rfl := Option.some.inj (hsno.symm.trans hsno')
      obtain rfl := Option.some.inj (hudn.symm.trans hudn')
      rw [hm] at hry
      obtain ⟨hstored, hids⟩ :=
        (routedIds_insert_iff hr (hfresh hnew) hmem).mp hry
      exact ⟨hstored, hother.mp hids⟩

/-- **Notifications reach their devices.** In every state of a run a
notification with the UDN of a listed device finds that device, exactly when
every device the run lists is routable when it is listed. -/
theorem routed_run_iff (cfg : Settings) (n : Option CStr) (es : List Event) :
    EveryState (withHistory (step cfg) noteUdn) Routed
        (startState n, fun _ => none) es ↔
      AllSteps (withHistory (step cfg) noteUdn) (RoutableAdd cfg)
        (startState n, fun _ => none) es := by
  refine everyState_iff (J := Ordered) (fun x e y hx hy => ordered_step hx hy)
    (fun x e hx hr => routed_step_iff hx hr) ⟨List.Pairwise.nil, ?_⟩ ?_
  · exact fun a ha => absurd ha (List.not_mem_nil)
  · exact fun d hd => absurd hd (List.not_mem_nil)

/-- A renderer whose identity service names a receiver id of its own is not
found by its UDN. -/
theorem routed_run_fails :
    ¬ EveryState (withHistory (step broadbandSettings) noteUdn) Routed
      (startState none, fun _ => none)
      [⟨quietIo, .available .x1Renderer (echoDevice "A" "P0123456789")⟩] := by
  have hrun : (runFrom (withHistory (step broadbandSettings) noteUdn)
      (startState none, fun _ => none)
      [⟨quietIo, .available .x1Renderer (echoDevice "A" "P0123456789")⟩]).map
        (fun x => (x.1.xdevlist.map (·.key), x.2 (.lit "A"),
          (listFindUdn (.lit "7c1fc9a0") x.1.xdevlist).2)) =
      some ([.lit "A"], some (.lit "7c1fc9a0"), none) := by decide
  obtain ⟨x, hx, hfacts⟩ := Option.map_eq_some_iff.mp hrun
  simp only [Prod.mk.injEq] at hfacts
  obtain ⟨hkeys, hid, hfind⟩ := hfacts
  have hmem : CStr.lit "A" ∈ x.1.xdevlist.map (·.key) := by
    rw [hkeys]
    exact List.mem_cons_self
  obtain ⟨d, hd, hkey⟩ := List.mem_map.mp hmem
  intro h
  obtain ⟨-, c, hc, -⟩ := h _ x (List.prefix_refl _) hx d hd (.lit "7c1fc9a0")
    (by rw [hkey]; exact hid)
  rw [hfind] at hc
  cases hc

end Xupnp.Discovery
