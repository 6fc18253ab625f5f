import Mathlib.Data.List.Forall2
import Xupnp.Discovery.Table

/-!
# What the list functions leave of the other entries

`SortedTable` compares entries up to everything the daemon changes in place.
Here is what each list function changes exactly: `delete_gwyitem` cuts the
white space around the serial numbers in front of the entry it deletes, and
`update_gwylist` what the publication behind it checks (`Republished`).
-/

namespace Xupnp.Discovery

open Xupnp.Library Xupnp.WhiteList

/-! ## Entries -/

/-- The fields an update may strip in an entry: the serial number and the
device type in every entry, and what the gate in front of the gateway script
looks at in a gateway. -/
def Republishes (cfg : Settings) (c : GwyDeviceData) :
    GwyDeviceData.Field → Prop
  | .serialNum | .devicetype => True
  | .gwyip | .gwyipv6 | .ipv6Prefix | .dsgtimezone | .dnsconfig | .etchosts =>
      cfg.enableGwSetup = true ∧ c.isgateway = true
  | .playbackurl | .receiverid => False

/-- What becomes of an entry in an update: some of these fields lose the white
space around them, and a gateway may be marked as the one with the route.
Everything else stays as it is. -/
def Republished (cfg : Settings) (c c' : GwyDeviceData) : Prop :=
  ∃ (fs : List GwyDeviceData.Field) (b : Bool),
    (∀ f ∈ fs, Republishes cfg c f) ∧
    (b = true → cfg.enableRoute = true ∧ cfg.enableGwSetup = true ∧
      c.isgateway = true) ∧
    c' = (fs.foldl GwyDeviceData.strip c).markRoute b

section Entries

variable {cfg : Settings} {c c' c'' d : GwyDeviceData}

theorem isgateway_strip (c : GwyDeviceData) (f : GwyDeviceData.Field) :
    (c.strip f).isgateway = c.isgateway := by
  cases f <;> rfl

theorem isgateway_foldl_strip (fs : List GwyDeviceData.Field)
    (c : GwyDeviceData) :
    (fs.foldl GwyDeviceData.strip c).isgateway = c.isgateway := by
  induction fs generalizing c with
  | nil => rfl
  | cons f fs ih => rw [List.foldl_cons, ih, isgateway_strip]

theorem foldl_strip_markRoute (fs : List GwyDeviceData.Field) (b : Bool)
    (c : GwyDeviceData) :
    fs.foldl GwyDeviceData.strip (c.markRoute b) =
      (fs.foldl GwyDeviceData.strip c).markRoute b := by
  induction fs generalizing c with
  | nil => rfl
  | cons f fs ih =>
      rw [List.foldl_cons, List.foldl_cons, ← ih]
      cases f <;> rfl

namespace Republished

theorem refl (c : GwyDeviceData) : Republished cfg c c :=
  ⟨[], false, by simp, by simp, rfl⟩

theorem strip {f : GwyDeviceData.Field} (h : Republishes cfg c f) :
    Republished cfg c (c.strip f) := by
  refine ⟨[f], false, ?_, by simp, rfl⟩
  intro g hg
  rwa [List.mem_singleton.mp hg]

/-- What a gateway may lose. -/
theorem strip_gateway {f : GwyDeviceData.Field}
    (hf : f ≠ .playbackurl ∧ f ≠ .receiverid)
    (h : cfg.enableGwSetup = true ∧ c.isgateway = true) :
    Republished cfg c (c.strip f) := by
  apply Republished.strip
  cases f with
  | serialNum | devicetype => exact trivial
  | playbackurl | receiverid => simp at hf
  | _ => exact h

theorem markRoute {b : Bool} (h : b = true → cfg.enableRoute = true ∧
    cfg.enableGwSetup = true ∧ c.isgateway = true) :
    Republished cfg c (c.markRoute b) :=
  ⟨[], b, by simp, h, rfl⟩

theorem isgateway_eq (h : Republished cfg c c') :
    c'.isgateway = c.isgateway := by
  obtain ⟨fs, b, -, -, rfl⟩ := h
  exact isgateway_foldl_strip fs c

/-- What one change may strip, it may strip after another. -/
theorem republishes_iff (h : Republished cfg c c')
    (f : GwyDeviceData.Field) :
    Republishes cfg c' f ↔ Republishes cfg c f := by
  cases f <;> simp [Republishes, h.isgateway_eq]

theorem trans (h : Republished cfg c c') (h' : Republished cfg c' c'') :
    Republished cfg c c'' := by
  have hgateway := h.isgateway_eq
  have hfields := h.republishes_iff
  obtain ⟨fs, b, hfs, hb, rfl⟩ := h
  obtain ⟨gs, b', hgs, hb', rfl⟩ := h'
  refine ⟨fs ++ gs, b' || b, ?_, ?_, ?_⟩
  · intro f hf
    rcases List.mem_append.mp hf with hf | hf
    · exact hfs f hf
    · exact (hfields f).mp (hgs f hf)
  · intro hor
    rcases (Bool.or_eq_true _ _).mp hor with htrue | htrue
    · rw [← hgateway]
      exact hb' htrue
    · exact hb htrue
  · rw [foldl_strip_markRoute, List.foldl_append]
    simp [GwyDeviceData.markRoute, Bool.or_assoc]

end Republished

/-- The gate looks at a gateway's fields, and at nothing of a client. -/
theorem republished_gwSetupGate (cfg : Settings) (slotLeft : Bool)
    (d : GwyDeviceData) :
    Republished cfg d (gwSetupGate cfg slotLeft d).2 := by
  unfold gwSetupGate
  split
  · exact .refl d
  rename_i hcond
  have hgate : cfg.enableGwSetup = true ∧ d.isgateway = true := by
    simp only [Bool.not_eq_true', Bool.not_eq_false, Bool.and_eq_true]
      at hcond
    exact ⟨hcond.1.1, hcond.2⟩
  have hdns : Republished cfg d (d.strip .dnsconfig) :=
    .strip_gateway (by simp) hgate
  split
  · exact hdns
  have hhosts := hdns.trans (.strip_gateway (f := .etchosts) (by simp) hgate)
  dsimp only
  split
  · exact hhosts
  have hip := hhosts.trans (.strip_gateway (f := .gwyip) (by simp) hgate)
  split
  · exact hip
  · exact hip.trans (.strip_gateway (f := .gwyipv6) (by simp) hgate)

/-- A record that passes is a gateway. -/
theorem isgateway_of_gwSetupGate {slotLeft : Bool}
    (h : (gwSetupGate cfg slotLeft d).1 = true) :
    cfg.enableGwSetup = true ∧ d.isgateway = true := by
  unfold gwSetupGate at h
  split at h
  · cases h
  rename_i hcond
  simp only [Bool.not_eq_true', Bool.not_eq_false, Bool.and_eq_true] at hcond
  exact ⟨hcond.1.1, hcond.2⟩

/-- What the loop body leaves of the record. -/
theorem publishDevice_snd (p : Publication) (d : GwyDeviceData) :
    (publishDevice cfg p d).2 =
      let gate := gwSetupGate cfg (p.firstXG1GwData || p.firstXG2GwData)
        (d.strip .devicetype)
      let passed := (gate.2.markRoute cfg.enableRoute).strip .ipv6Prefix
      if gate.1 then
        if cfg.tzUpdate then passed.strip .dsgtimezone else passed
      else gate.2 := by
  simp only [publishDevice]
  split_ifs <;> rfl

/-- The loop body of a publication. -/
theorem republished_publishDevice (p : Publication) (d : GwyDeviceData) :
    Republished cfg d (publishDevice cfg p d).2 := by
  have htype : Republished cfg d (d.strip .devicetype) := .strip trivial
  have hgate := republished_gwSetupGate cfg
    (p.firstXG1GwData || p.firstXG2GwData) (d.strip .devicetype)
  rw [publishDevice_snd]
  dsimp only
  split
  · rename_i hpassed
    have hgateway := isgateway_of_gwSetupGate hpassed
    rw [← hgate.isgateway_eq] at hgateway
    have hmark := (htype.trans hgate).trans
      (.markRoute (b := cfg.enableRoute) fun hroute => ⟨hroute, hgateway⟩)
    have hprefix := hmark.trans
      (.strip_gateway (f := .ipv6Prefix) (by simp) hgateway)
    split
    · exact hprefix.trans
        (.strip_gateway (f := .dsgtimezone) (by simp) hgateway)
    · exact hprefix
  · exact htype.trans hgate

end Entries

/-! ## Lists of entries -/

section Lists

variable {cfg : Settings} {l l' l'' pre post : List GwyDeviceData}
  {d : GwyDeviceData} {sno : Option CStr}

theorem republished_refl (l : List GwyDeviceData) :
    List.Forall₂ (Republished cfg) l l :=
  List.forall₂_same.mpr fun c _ => .refl c

theorem republished_trans (h : List.Forall₂ (Republished cfg) l l')
    (h' : List.Forall₂ (Republished cfg) l' l'') :
    List.Forall₂ (Republished cfg) l l'' := by
  induction h generalizing l'' with
  | nil => exact h'
  | cons hc _ ih =>
      cases h' with
      | cons hc' h' => exact .cons (hc.trans hc') (ih h')

theorem republished_strip_serialNum (l : List GwyDeviceData) :
    List.Forall₂ (Republished cfg) l (l.map (·.strip .serialNum)) :=
  List.forall₂_map_right_iff.mpr
    (List.forall₂_same.mpr fun _ _ => .strip trivial)

theorem republished_publishDevices (p : Publication)
    (l : List GwyDeviceData) :
    List.Forall₂ (Republished cfg) l (publishDevices cfg p l).2 := by
  induction l generalizing p with
  | nil => exact .nil
  | cons d l ih =>
      rw [publishDevices]
      exact .cons (republished_publishDevice p d) (ih _)

/-- A publication changes the entries in place. -/
theorem republished_sendDiscoveryResult (io : Io) (s : XState) :
    List.Forall₂ (Republished cfg) s.xdevlist
      (sendDiscoveryResult cfg io s).xdevlist := by
  have hkeep : (if s.bSerialNum then s else getserialnum io s).xdevlist =
      s.xdevlist :=
    getserialnum_keeps (f := XState.xdevlist) (fun _ _ => rfl) io s
  rw [sendDiscoveryResult, hkeep]
  exact republished_publishDevices _ s.xdevlist

/-- Inserting puts the record where it belongs. -/
theorem republished_listInsertSorted (hpre : ∀ c ∈ pre, c.key < d.key)
    (hpost : ∀ c ∈ post, d.key < c.key) :
    List.Forall₂ (Republished cfg) (pre ++ d :: post)
      (listInsertSorted d (pre ++ post)) := by
  induction pre generalizing d with
  | nil =>
      cases post with
      | nil => exact republished_refl [d]
      | cons e post =>
          have hle : (d.strip .serialNum).serialNum ≤
              (e.strip .serialNum).serialNum :=
            (hpost e List.mem_cons_self).le
          rw [List.nil_append, List.nil_append, listInsertSorted, if_pos hle]
          exact .cons (.strip trivial)
            (.cons (.strip trivial) (republished_refl post))
  | cons e pre ih =>
      have hlt : ¬ (d.strip .serialNum).serialNum ≤
          (e.strip .serialNum).serialNum :=
        not_le.mpr (hpre e List.mem_cons_self)
      have hkey := d.key_strip .serialNum
      have ih := ih (d := d.strip .serialNum)
        (fun c hc => hkey ▸ hpre c (List.mem_cons_of_mem e hc))
        (fun c hc => hkey ▸ hpost c hc)
      rw [List.cons_append, List.cons_append, listInsertSorted, if_neg hlt]
      refine .cons (.strip trivial) (republished_trans ?_ ih)
      exact List.rel_append (republished_refl pre)
        (.cons (.strip trivial) (republished_refl post))

/-- A list in order, cut where a serial number belongs that it has not. -/
theorem exists_split_of_sorted {k : CStr}
    (hs : l.Pairwise fun a b => a.key < b.key) (hne : ∀ c ∈ l, c.key ≠ k) :
    ∃ pre post, l = pre ++ post ∧ (∀ c ∈ pre, c.key < k) ∧
      ∀ c ∈ post, k < c.key := by
  induction l with
  | nil => exact ⟨[], [], rfl, by simp, by simp⟩
  | cons e l ih =>
      obtain ⟨hhead, htail⟩ := List.pairwise_cons.mp hs
      rcases lt_or_gt_of_ne (hne e List.mem_cons_self) with hlt | hgt
      · obtain ⟨pre, post, rfl, hpre, hpost⟩ :=
          ih htail fun c hc => hne c (List.mem_cons_of_mem e hc)
        refine ⟨e :: pre, post, rfl, ?_, hpost⟩
        rintro c (_ | ⟨_, hc⟩)
        · exact hlt
        · exact hpre c hc
      · refine ⟨[], e :: l, rfl, by simp, ?_⟩
        rintro c (_ | ⟨_, hc⟩)
        · exact hgt
        · exact hgt.trans (hhead c hc)

/-- A search, where it finds something. -/
theorem listFindSno_of_hit (hpre : ∀ c ∈ pre, hasSno sno c = false)
    (hd : hasSno sno d = true) :
    listFindSno sno (pre ++ d :: post) =
      (pre.map (·.strip .serialNum) ++ d.strip .serialNum :: post,
        some (d.strip .serialNum)) := by
  unfold listFindSno
  induction pre with
  | nil => simp [listFindCustom, hd]
  | cons c pre ih =>
      have hc := hpre c List.mem_cons_self
      have ih := ih fun c hc => hpre c (List.mem_cons_of_mem _ hc)
      simp [listFindCustom, hc, ih]

/-- A search that finds nothing. -/
theorem listFindSno_of_no_hit (h : ∀ c ∈ l, hasSno sno c = false) :
    listFindSno sno l = (l.map (·.strip .serialNum), none) := by
  unfold listFindSno
  induction l with
  | nil => rfl
  | cons c l ih =>
      have hc := h c List.mem_cons_self
      have ih := ih fun c hc => h c (List.mem_cons_of_mem _ hc)
      simp [listFindCustom, hc, ih]

theorem modifyFound_of_hit {hit : GwyDeviceData → Bool}
    {f : GwyDeviceData → GwyDeviceData} (hpre : ∀ c ∈ pre, hit c = false)
    (hd : hit d = true) :
    modifyFound hit f (pre ++ d :: post) = pre ++ f d :: post := by
  induction pre with
  | nil => simp [modifyFound, hd]
  | cons c pre ih =>
      have hc := hpre c List.mem_cons_self
      have ih := ih fun c hc => hpre c (List.mem_cons_of_mem _ hc)
      simp [modifyFound, hc, ih]

theorem hasSno_false_map_strip (hpre : ∀ c ∈ pre, hasSno sno c = false) :
    ∀ c ∈ pre.map (·.strip .serialNum), hasSno sno c = false := by
  intro c hc
  obtain ⟨c', hc', rfl⟩ := List.mem_map.mp hc
  rw [hasSno_strip]
  exact hpre c' hc'

theorem key_lt_map_strip {k : CStr} (hpre : ∀ c ∈ pre, c.key < k) :
    ∀ c ∈ pre.map (·.strip .serialNum), c.key < k := by
  intro c hc
  obtain ⟨c', hc', rfl⟩ := List.mem_map.mp hc
  rw [GwyDeviceData.key_strip]
  exact hpre c' hc'

end Lists

/-! ## `delete_gwyitem` and `update_gwylist` -/

/-- **What `delete_gwyitem` does to the list.** The entry goes. Those in front
of it lose the white space around their serial numbers, and those behind it
stay as they are. -/
inductive Deleted (sno : Option CStr) :
    List GwyDeviceData → List GwyDeviceData → Prop
  | found (pre post : List GwyDeviceData) (d : GwyDeviceData)
      (hit : hasSno sno d = true)
      (others : ∀ c ∈ pre ++ post, hasSno sno c = false) :
      Deleted sno (pre ++ d :: post) (pre.map (·.strip .serialNum) ++ post)
  | absent (l : List GwyDeviceData) (others : ∀ c ∈ l, hasSno sno c = false) :
      Deleted sno l (l.map (·.strip .serialNum))

/-- **What `update_gwylist` does to the list.** The record stands where its
serial number belongs, in place of the entry that had it, if there was one.
Those in front of it and those behind it are there, republished. -/
def Updated (cfg : Settings) (d : GwyDeviceData)
    (l l' : List GwyDeviceData) : Prop :=
  ∃ pre post, (l = pre ++ post ∨ ∃ old, old.key = d.key ∧
      l = pre ++ old :: post) ∧
    (∀ c ∈ pre, c.key < d.key) ∧ (∀ c ∈ post, d.key < c.key) ∧
    ∃ new, (new = d ∨ new = d.strip .gwyip) ∧
      List.Forall₂ (Republished cfg) (pre ++ new :: post) l'

section Functions

variable (cfg : Settings) (io : Io) {s : XState}

theorem hasSno_of_key {c d : GwyDeviceData} (h : c.key = d.key) :
    hasSno (some d.serialNum) c = true := by
  rw [hasSno, h]
  simp [GwyDeviceData.key]

theorem hasSno_false_of_lt {n : CStr} {c : GwyDeviceData}
    (h : c.key < n.strip) : hasSno (some n) c = false := by
  simpa [hasSno] using h.ne'

/-- The serial numbers of a list in order, with one of them found. -/
theorem exists_split_of_hit {sno : Option CStr} {l : List GwyDeviceData}
    (hs : l.Pairwise fun a b => a.key < b.key)
    (h : ∃ c ∈ l, hasSno sno c = true) :
    ∃ pre d post, l = pre ++ d :: post ∧ sno.map CStr.strip = some d.key ∧
      (∀ c ∈ pre, c.key < d.key) ∧ ∀ c ∈ post, d.key < c.key := by
  obtain ⟨d, hd, hhit⟩ := h
  obtain ⟨pre, post, rfl⟩ := List.append_of_mem hd
  obtain ⟨-, hpost, hcross⟩ := List.pairwise_append.mp hs
  refine ⟨pre, d, post, rfl, by simpa [hasSno] using hhit, ?_, ?_⟩
  · intro c hc
    exact hcross c hc d List.mem_cons_self
  · exact (List.pairwise_cons.mp hpost).1

theorem deleteGwyitem_of_hit {sno : Option CStr} {d : GwyDeviceData}
    {pre post : List GwyDeviceData} (hl : s.xdevlist = pre ++ d :: post)
    (hd : hasSno sno d = true) (hpre : ∀ c ∈ pre, hasSno sno c = false) :
    (deleteGwyitem cfg io sno s).1.xdevlist =
      pre.map (·.strip .serialNum) ++ post := by
  rw [deleteGwyitem, hl, listFindSno_of_hit hpre hd]
  dsimp only
  rw [List.eraseP_append_right, List.eraseP_cons_of_pos]
  · simpa using hd
  · intro c hc
    simp [hasSno_false_map_strip hpre c hc]

/-- `delete_gwyitem` on a list in order. -/
theorem deleteGwyitem_deleted
    (hs : s.xdevlist.Pairwise fun a b => a.key < b.key) (sno : Option CStr) :
    Deleted sno s.xdevlist (deleteGwyitem cfg io sno s).1.xdevlist := by
  by_cases h : ∃ c ∈ s.xdevlist, hasSno sno c = true
  · obtain ⟨pre, d, post, hl, hsno, hpre, hpost⟩ := exists_split_of_hit hs h
    have hd : hasSno sno d = true := by simpa [hasSno] using hsno
    have hother : ∀ c : GwyDeviceData, c.key ≠ d.key →
        hasSno sno c = false := by
      intro c hc
      simpa [hasSno, hsno] using hc.symm
    have hpre' : ∀ c ∈ pre, hasSno sno c = false := fun c hc =>
      hother c (hpre c hc).ne
    rw [deleteGwyitem_of_hit cfg io hl hd hpre', hl]
    refine .found pre post d hd ?_
    intro c hc
    rcases List.mem_append.mp hc with hc | hc
    · exact hpre' c hc
    · exact hother c (hpost c hc).ne'
  · have hnone : ∀ c ∈ s.xdevlist, hasSno sno c = false := by
      intro c hc
      exact Bool.not_eq_true _ ▸ fun hhit => h ⟨c, hc, hhit⟩
    rw [deleteGwyitem, listFindSno_of_no_hit hnone]
    exact .absent s.xdevlist hnone

/-- The second half of an update. -/
theorem republished_insertAndPublish {d : GwyDeviceData}
    {pre post : List GwyDeviceData} (hl : s.xdevlist = pre ++ post)
    (hpre : ∀ c ∈ pre, c.key < d.key) (hpost : ∀ c ∈ post, d.key < c.key) :
    List.Forall₂ (Republished cfg) (pre ++ d :: post)
      (insertAndPublish cfg io d s).xdevlist := by
  rw [insertAndPublish]
  refine republished_trans ?_ (republished_sendDiscoveryResult io _)
  dsimp only
  rw [hl]
  split
  · have hkey := d.key_strip .devicetype
    refine republished_trans ?_ (republished_listInsertSorted
      (fun c hc => hkey ▸ hpre c hc) fun c hc => hkey ▸ hpost c hc)
    exact List.rel_append (republished_refl pre)
      (.cons (.strip trivial) (republished_refl post))
  · exact republished_listInsertSorted hpre hpost

/-- `update_gwylist` of a device that is listed. -/
theorem updateGwylist_updated_of_hit {c d : GwyDeviceData}
    (hs : s.xdevlist.Pairwise fun a b => a.key < b.key) (hc : c ∈ s.xdevlist)
    (hhit : hasSno (some d.serialNum) c = true) :
    Updated cfg d s.xdevlist (updateGwylist cfg io d s).xdevlist := by
  obtain ⟨pre, old, post, hl, hsno, hpre, hpost⟩ :=
    exists_split_of_hit hs ⟨c, hc, hhit⟩
  have hkey : d.key = old.key := Option.some.inj hsno
  rw [← hkey] at hpre hpost
  have hold : hasSno (some d.serialNum) old = true := hasSno_of_key hkey.symm
  have hpre' : ∀ c ∈ pre, hasSno (some d.serialNum) c = false := by
    intro c hc
    exact hasSno_false_of_lt (hpre c hc)
  refine ⟨pre, post, .inr ⟨old, hkey.symm, hl⟩, hpre, hpost,
    d.strip .gwyip, .inr rfl, ?_⟩
  have hpre'' := hasSno_false_map_strip hpre'
  rw [updateGwylist, hl, listFindSno_of_hit hpre' hold]
  dsimp only
  rw [modifyFound_of_hit hpre'' (by simpa using hold)]
  have hdel := deleteGwyitem_of_hit cfg io
    (s := { s with
      xdevlist := pre.map (·.strip .serialNum) ++
        (old.strip .serialNum).strip .gwyip :: post
      trace := s.trace ++ clearRoute cfg (old.strip .serialNum)
        ((d.strip .serialNum).strip .gwyip) })
    rfl (by simpa using hold) hpre''
  have hkey' : ((d.strip .serialNum).strip .gwyip).key = d.key := by simp
  refine republished_trans ?_ (republished_insertAndPublish cfg io hdel ?_ ?_)
  · refine List.rel_append ?_ (.cons ?_ (republished_refl post))
    · exact republished_trans (republished_strip_serialNum pre)
        (republished_strip_serialNum _)
    · exact Republished.strip (f := .serialNum) trivial
  · rw [hkey']
    exact key_lt_map_strip (key_lt_map_strip hpre)
  · rw [hkey']
    exact hpost

/-- `update_gwylist` of one that is not. -/
theorem updateGwylist_updated_of_no_hit {d : GwyDeviceData}
    (hs : s.xdevlist.Pairwise fun a b => a.key < b.key)
    (hnone : ∀ c ∈ s.xdevlist, hasSno (some d.serialNum) c = false) :
    Updated cfg d s.xdevlist (updateGwylist cfg io d s).xdevlist := by
  have hother : ∀ c ∈ s.xdevlist, c.key ≠ d.key := by
    intro c hc hkey
    have hmiss := hnone c hc
    rw [hasSno_of_key hkey] at hmiss
    cases hmiss
  obtain ⟨pre, post, hl, hpre, hpost⟩ := exists_split_of_sorted hs hother
  refine ⟨pre, post, .inl hl, hpre, hpost, d, .inl rfl, ?_⟩
  -- The scan strips the new serial number, unless there is no entry.
  have hnew : ∀ b : Prop, ∀ [Decidable b],
      Republished cfg d (if b then d else d.strip .serialNum) ∧
        (if b then d else d.strip .serialNum).key = d.key := by
    intro b _
    split
    · exact ⟨.refl d, rfl⟩
    · exact ⟨.strip trivial, d.key_strip .serialNum⟩
  obtain ⟨hrepublished, hkey⟩ :=
    hnew (pre.map (·.strip .serialNum) ++ post.map (·.strip .serialNum) = [])
  rw [updateGwylist, listFindSno_of_no_hit hnone, hl, List.map_append]
  dsimp only
  refine republished_trans ?_ (republished_insertAndPublish cfg io rfl ?_ ?_)
  · exact List.rel_append (republished_strip_serialNum pre)
      (.cons hrepublished (republished_strip_serialNum post))
  · rw [hkey]
    exact key_lt_map_strip hpre
  · rw [hkey]
    intro c hc
    obtain ⟨c', hc', rfl⟩ := List.mem_map.mp hc
    rw [GwyDeviceData.key_strip]
    exact hpost c' hc'

/-- `update_gwylist` on a list in order. -/
theorem updateGwylist_updated
    (hs : s.xdevlist.Pairwise fun a b => a.key < b.key) (d : GwyDeviceData) :
    Updated cfg d s.xdevlist (updateGwylist cfg io d s).xdevlist := by
  by_cases h : ∃ c ∈ s.xdevlist, hasSno (some d.serialNum) c = true
  · obtain ⟨c, hc, hhit⟩ := h
    exact updateGwylist_updated_of_hit cfg io hs hc hhit
  · apply updateGwylist_updated_of_no_hit cfg io hs
    intro c hc
    rw [Bool.eq_false_iff]
    intro hhit
    exact h ⟨c, hc, hhit⟩

end Functions

end Xupnp.Discovery
