import Xupnp.Library.SortedTable
import Xupnp.Discovery.Callbacks

/-!
# The device list as a table

`xdevlist` is meant to be a table of devices by serial number. Up to the white
space the daemon strips in place, and the route marks it sets itself
(`GwyDeviceData.normal`), it is: `update_gwylist` is `SortedTable.insert`,
`delete_gwyitem` is `SortedTable.erase`, publishing changes nothing, and every
callback leads from a table to a table (`xdevlist_run`).
-/

namespace Xupnp.Discovery

open Xupnp.Library Xupnp.WhiteList

/-- Devices in the order of their serial numbers. -/
abbrev DeviceTable := SortedTable GwyDeviceData.key

/-- The list is the table, up to what the daemon changes in place. -/
def Lists (s : XState) (t : DeviceTable) : Prop :=
  s.xdevlist.map GwyDeviceData.normal = t.entries

/-- Take out the device of a serial number; none has the serial number
`NULL`. -/
def eraseSno (t : DeviceTable) (sno : Option CStr) : DeviceTable :=
  match sno with
  | some n => t.erase n.strip
  | none => t

/-! ## The list functions -/

section ListFunctions

variable {α : Type} {touch f : GwyDeviceData → GwyDeviceData}
  {hit : GwyDeviceData → Bool} {l : List GwyDeviceData} {sno : Option CStr}

/-- A search changes nothing that its comparisons leave alone. -/
theorem listFindCustom_map {g : GwyDeviceData → α}
    (h : ∀ d, g (touch d) = g d) (l : List GwyDeviceData) :
    (listFindCustom touch hit l).1.map g = l.map g := by
  induction l with
  | nil => rfl
  | cons d ds ih =>
      rw [listFindCustom]
      split
      · simp [h]
      · simp [h, ih]

theorem listFindCustom_find (hhit : ∀ d, hit (touch d) = hit d)
    (l : List GwyDeviceData) :
    (listFindCustom touch hit l).2 = (l.find? hit).map touch := by
  induction l with
  | nil => rfl
  | cons d ds ih =>
      rw [listFindCustom]
      by_cases hd : hit d = true
      · simp [hhit, hd]
      · simp [hhit, hd, ih]

/-- A search that finds nothing has looked at every record. -/
theorem listFindCustom_none (touch : GwyDeviceData → GwyDeviceData)
    (hit : GwyDeviceData → Bool) (l : List GwyDeviceData)
    (h : (listFindCustom touch hit l).2 = none) :
    ∀ d ∈ (listFindCustom touch hit l).1, hit d = false := by
  induction l with
  | nil => simp [listFindCustom]
  | cons d ds ih =>
      rw [listFindCustom] at h ⊢
      by_cases hd : hit (touch d) = true
      · simp [hd] at h
      · rw [if_neg hd] at h ⊢
        simpa [hd] using ih h

/-- What the search found is what it would find again. -/
theorem listFindCustom_find_self (touch : GwyDeviceData → GwyDeviceData)
    (hit : GwyDeviceData → Bool) (l : List GwyDeviceData) :
    (listFindCustom touch hit l).1.find? hit =
      (listFindCustom touch hit l).2 := by
  induction l with
  | nil => rfl
  | cons d ds ih =>
      rw [listFindCustom]
      by_cases hd : hit (touch d) = true
      · simp [hd]
      · simp [hd, ih]

/-- Only the record found changes. -/
theorem modifyFound_map {g : GwyDeviceData → α}
    (h : ∀ d, l.find? hit = some d → g (f d) = g d) :
    (modifyFound hit f l).map g = l.map g := by
  induction l with
  | nil => rfl
  | cons d ds ih =>
      rw [modifyFound]
      by_cases hd : hit d = true
      · simp [hd, h d (by simp [hd])]
      · simp [hd, ih fun e he => h e (by simpa [hd] using he)]

/-- A search after a change in place finds the changed record. -/
theorem modifyFound_find (h : ∀ d, hit d = true → hit (f d) = true)
    (l : List GwyDeviceData) :
    (modifyFound hit f l).find? hit = (l.find? hit).map f := by
  induction l with
  | nil => rfl
  | cons d ds ih =>
      rw [modifyFound]
      by_cases hd : hit d = true
      · simp [hd, h d hd]
      · simp [hd, ih]

@[simp] theorem hasSno_normal (d : GwyDeviceData) :
    hasSno sno d.normal = hasSno sno d := by
  simp [hasSno]

@[simp] theorem hasSno_strip (d : GwyDeviceData)
    (f : GwyDeviceData.Field) : hasSno sno (d.strip f) = hasSno sno d := by
  simp [hasSno]

theorem listFindSno_normal (sno : Option CStr) (l : List GwyDeviceData) :
    (listFindSno sno l).1.map GwyDeviceData.normal =
      l.map GwyDeviceData.normal :=
  listFindCustom_map (fun d => d.normal_strip .serialNum) l

theorem listFindSno_find (sno : Option CStr) (l : List GwyDeviceData) :
    (listFindSno sno l).2 =
      (l.find? (hasSno sno)).map (·.strip .serialNum) :=
  listFindCustom_find (fun d => hasSno_strip d .serialNum) l

theorem eraseP_normal (sno : Option CStr) (l : List GwyDeviceData) :
    (l.eraseP (hasSno sno)).map GwyDeviceData.normal =
      (l.map GwyDeviceData.normal).eraseP (hasSno sno) := by
  induction l with
  | nil => rfl
  | cons d ds ih =>
      by_cases hd : hasSno sno d = true
      · simp [hd]
      · simp [hd, ih]

/-- Inserting in order, seen without the white space. -/
theorem listInsertSorted_normal (d : GwyDeviceData)
    (l : List GwyDeviceData) :
    (listInsertSorted d l).map GwyDeviceData.normal =
      (l.map GwyDeviceData.normal).orderedInsert
        (fun a b => a.key ≤ b.key) d.normal := by
  induction l generalizing d with
  | nil => rfl
  | cons e es ih =>
      have hle : (d.strip .serialNum).serialNum ≤ (e.strip .serialNum).serialNum ↔
          d.normal.key ≤ e.normal.key := by
        rw [GwyDeviceData.key_normal, GwyDeviceData.key_normal]
        rfl
      rw [listInsertSorted, List.map_cons, List.orderedInsert_cons]
      by_cases h : d.normal.key ≤ e.normal.key
      · rw [if_pos h, if_pos (hle.mpr h)]
        simp
      · rw [if_neg h, if_neg (mt hle.mp h)]
        simp [ih]

end ListFunctions

/-! ## Publishing -/

section Publish

variable (cfg : Settings)

/-- The gate strips fields, and nothing else. -/
theorem gwSetupGate_normal (slotLeft : Bool) (d : GwyDeviceData) :
    (gwSetupGate cfg slotLeft d).2.normal = d.normal := by
  unfold gwSetupGate
  split
  · rfl
  split
  · simp
  dsimp only
  split
  · simp
  split <;> simp

theorem publishDevice_normal (p : Publication) (d : GwyDeviceData) :
    (publishDevice cfg p d).2.normal = d.normal := by
  simp only [publishDevice]
  split_ifs <;> simp [gwSetupGate_normal]

theorem publishDevices_normal (p : Publication) (l : List GwyDeviceData) :
    (publishDevices cfg p l).2.map GwyDeviceData.normal =
      l.map GwyDeviceData.normal := by
  induction l generalizing p with
  | nil => rfl
  | cons d ds ih =>
      simp only [publishDevices, List.map_cons, publishDevice_normal, ih]

/-- Reading the own serial number changes nothing else. -/
theorem getserialnum_keeps {α : Type} {f : XState → α}
    (hf : ∀ n s, f { s with ownSerialNo := n, bSerialNum := true } = f s)
    (io : Io) (s : XState) :
    f (if s.bSerialNum then s else getserialnum io s) = f s := by
  split
  · rfl
  · unfold getserialnum
    split
    · exact hf _ s
    · rfl

/-- What a publication leaves listed. -/
theorem sendDiscoveryResult_normal (io : Io) (s : XState) :
    (sendDiscoveryResult cfg io s).xdevlist.map GwyDeviceData.normal =
      s.xdevlist.map GwyDeviceData.normal := by
  simp only [sendDiscoveryResult]
  rw [publishDevices_normal]
  exact congrArg _
    (getserialnum_keeps (f := XState.xdevlist) (fun _ _ => rfl) io s)

theorem insertAndPublish_normal (io : Io) (d : GwyDeviceData) (s : XState) :
    (insertAndPublish cfg io d s).xdevlist.map GwyDeviceData.normal =
      (s.xdevlist.map GwyDeviceData.normal).orderedInsert
        (fun a b => a.key ≤ b.key) d.normal := by
  rw [insertAndPublish, sendDiscoveryResult_normal, listInsertSorted_normal]
  congr 1
  split
  · exact GwyDeviceData.normal_strip d _
  · rfl

end Publish

/-! ## Updating and deleting -/

theorem deleteGwyitem_normal {cfg : Settings} {io : Io} {s : XState}
    (sno : Option CStr) :
    (deleteGwyitem cfg io sno s).1.xdevlist.map GwyDeviceData.normal =
      (s.xdevlist.map GwyDeviceData.normal).eraseP (hasSno sno) := by
  have hlist := listFindSno_normal sno s.xdevlist
  have hnone := listFindCustom_none (·.strip .serialNum) (hasSno sno)
    s.xdevlist
  unfold deleteGwyitem
  rw [← listFindSno] at hnone
  cases hf : listFindSno sno s.xdevlist with
  | mk ds found =>
      rw [hf] at hlist hnone
      cases found with
      | some gwdata => rw [← hlist, ← eraseP_normal]
      | none =>
          rw [← hlist, ← eraseP_normal]
          dsimp only
          rw [List.eraseP_of_forall_not fun d hd => by simp [hnone rfl d hd]]

/-- A listed record can be deleted. -/
theorem deleteGwyitem_listed (cfg : Settings) (io : Io) {sno : Option CStr}
    {s : XState} (h : s.xdevlist.find? (hasSno sno) ≠ none) :
    (deleteGwyitem cfg io sno s).2 = true := by
  rw [deleteGwyitem]
  split
  · rfl
  · rename_i ds hf
    have hfind := listFindSno_find sno s.xdevlist
    rw [hf] at hfind
    exact absurd (Option.map_eq_none_iff.mp hfind.symm) h

theorem deleteAndPublish_listed (cfg : Settings) (io : Io) {sno : Option CStr}
    {s : XState} (h : s.xdevlist.find? (hasSno sno) ≠ none) :
    deleteAndPublish cfg io sno s =
      sendDiscoveryResult cfg io (deleteGwyitem cfg io sno s).1 := by
  have hdeleted := deleteGwyitem_listed cfg io h
  unfold deleteAndPublish
  split
  · rename_i s₁ hdel
    rw [hdel]
  · rename_i s₁ hdel
    rw [hdel] at hdeleted
    cases hdeleted

theorem deleteAndPublish_normal (cfg : Settings) (io : Io)
    (sno : Option CStr) (s : XState) :
    (deleteAndPublish cfg io sno s).xdevlist.map GwyDeviceData.normal =
      (deleteGwyitem cfg io sno s).1.xdevlist.map GwyDeviceData.normal := by
  unfold deleteAndPublish
  split
  · rename_i s₁ hdel
    rw [hdel, sendDiscoveryResult_normal]
  · rename_i s₁ hdel
    rw [hdel]

namespace Lists

variable (cfg : Settings) (io : Io) {s s' : XState} {t : DeviceTable}

/-- The order of a table is that of the list. -/
theorem sorted (h : Lists s t) :
    s.xdevlist.Pairwise fun a b => a.key < b.key := by
  have := t.sorted
  rw [← h, List.pairwise_map] at this
  simpa using this

/-- A list in order is a table. -/
theorem of_sorted (h : s.xdevlist.Pairwise fun a b => a.key < b.key) :
    ∃ t : DeviceTable, Lists s t :=
  ⟨⟨s.xdevlist.map GwyDeviceData.normal,
    List.pairwise_map.mpr (by simpa using h)⟩, rfl⟩

/-- A change in place that keeps what the table is about. -/
theorem of_map_eq (h : Lists s t)
    (heq : s'.xdevlist.map GwyDeviceData.normal =
      s.xdevlist.map GwyDeviceData.normal) : Lists s' t :=
  heq.trans h

/-- Such a change keeps the order. -/
theorem sorted_of_map_eq
    (hs : s.xdevlist.Pairwise fun a b => a.key < b.key)
    (heq : s'.xdevlist.map GwyDeviceData.normal =
      s.xdevlist.map GwyDeviceData.normal) :
    s'.xdevlist.Pairwise fun a b => a.key < b.key := by
  obtain ⟨t, ht⟩ := of_sorted hs
  exact (ht.of_map_eq heq).sorted

theorem sendDiscoveryResult (h : Lists s t) :
    Lists (sendDiscoveryResult cfg io s) t :=
  h.of_map_eq (sendDiscoveryResult_normal cfg io s)

theorem eraseP (h : Lists s t) (sno : Option CStr) :
    (s.xdevlist.eraseP (hasSno sno)).map GwyDeviceData.normal =
      (eraseSno t sno).entries := by
  rw [eraseP_normal, h]
  cases sno with
  | none =>
      apply List.eraseP_of_forall_not
      intro d _
      simp [hasSno]
  | some n =>
      rw [eraseSno, SortedTable.erase_entries]
      congr 1
      funext d
      simp [hasSno, eq_comm]

/-- `delete_gwyitem` erases. -/
theorem deleteGwyitem (h : Lists s t) (sno : Option CStr) :
    Lists (deleteGwyitem cfg io sno s).1 (eraseSno t sno) := by
  rw [Lists, deleteGwyitem_normal, ← eraseP_normal]
  exact h.eraseP sno

/-- A serial number the search does not find is not in the table. -/
theorem absent_of_find_none (h : Lists s t) (sno : CStr)
    (hf : (listFindSno (some sno) s.xdevlist).2 = none) :
    ∀ d ∈ t.entries, d.key ≠ sno.strip := by
  intro e he
  rw [← h, List.mem_map] at he
  obtain ⟨d, hd, rfl⟩ := he
  rw [listFindSno_find, Option.map_eq_none_iff, List.find?_eq_none] at hf
  have := hf d hd
  rw [GwyDeviceData.key_normal]
  intro hkey
  exact this (by simp [hasSno, hkey])

/-- `update_gwylist` inserts. -/
theorem updateGwylist (h : Lists s t) (d : GwyDeviceData) :
    Lists (updateGwylist cfg io d s) (t.insert d.normal) := by
  have hlist := listFindSno_normal (some d.serialNum) s.xdevlist
  have habsent := h.absent_of_find_none d.serialNum
  have hkey : d.normal.key = d.serialNum.strip := d.key_normal
  rw [Discovery.updateGwylist]
  cases hf : listFindSno (some d.serialNum) s.xdevlist with
  | mk ds found =>
      rw [hf] at hlist habsent
      cases found with
      | some stored =>
          -- The entry is still in the list when `delete_gwyitem` is called.
          have hmid : Lists
              { s with
                xdevlist := modifyFound (hasSno (some d.serialNum))
                  (·.strip .gwyip) ds
                trace := s.trace ++ clearRoute cfg stored
                  ((d.strip .serialNum).strip .gwyip) } t := by
            refine Eq.trans (modifyFound_map fun e _ => ?_) (hlist.trans h)
            exact e.normal_strip .gwyip
          have hdel := hmid.deleteGwyitem cfg io (some d.serialNum)
          rw [Lists, insertAndPublish_normal, hdel, SortedTable.insert_entries,
            hkey, eraseSno]
          simp
      | none =>
          have hnew : (if ds = [] then d else d.strip .serialNum).normal =
              d.normal := by
            split
            · rfl
            · exact d.normal_strip .serialNum
          rw [Lists, insertAndPublish_normal, hnew, SortedTable.insert_entries,
            hkey, SortedTable.erase_entries_of_absent (habsent rfl)]
          exact congrArg _ (hlist.trans h)

end Lists

/-! ## Who is listed -/

/-- A device of this stripped serial number is in the list. -/
def Listed (s : XState) (k : CStr) : Prop :=
  k ∈ s.xdevlist.map GwyDeviceData.key

instance (s : XState) (k : CStr) : Decidable (Listed s k) :=
  inferInstanceAs (Decidable (_ ∈ _))

theorem listed_of_normal {s s' : XState} {k : CStr}
    (h : s'.xdevlist.map GwyDeviceData.normal =
      s.xdevlist.map GwyDeviceData.normal) : Listed s' k ↔ Listed s k := by
  have hkeys := congrArg (List.map GwyDeviceData.key) h
  simp only [List.map_map, Function.comp_def, GwyDeviceData.key_normal] at hkeys
  rw [Listed, Listed]
  exact iff_of_eq (congrArg (k ∈ ·) hkeys)

theorem Lists.listed_iff {s : XState} {t : DeviceTable} (h : Lists s t)
    (k : CStr) : Listed s k ↔ ∃ d ∈ t.entries, d.key = k := by
  rw [Listed, ← h]
  simp

section Find

variable {s : XState}

/-- The record a search finds has the serial number, and is listed. -/
theorem key_of_hasSno {sno : Option CStr} {c : GwyDeviceData}
    (h : s.xdevlist.find? (hasSno sno) = some c) :
    sno.map CStr.strip = some c.key ∧ Listed s c.key := by
  refine ⟨?_, List.mem_map_of_mem (List.mem_of_find?_eq_some h)⟩
  simpa [hasSno] using List.find?_some h

theorem not_listed_of_find_none {sno : CStr}
    (h : s.xdevlist.find? (hasSno (some sno)) = none) :
    ¬ Listed s sno.strip := by
  intro hl
  obtain ⟨c, hc, hkey⟩ := List.mem_map.mp hl
  exact List.find?_eq_none.mp h c hc (by simp [hasSno, hkey])

theorem listFindSno_of_not_listed {sno : CStr} (h : ¬ Listed s sno.strip) :
    ∃ ds, listFindSno (some sno) s.xdevlist = (ds, none) := by
  refine ⟨(listFindSno (some sno) s.xdevlist).1, Prod.ext rfl ?_⟩
  rw [listFindSno_find]
  cases hf : s.xdevlist.find? (hasSno (some sno)) with
  | none => rfl
  | some c =>
      obtain ⟨hkey, hl⟩ := key_of_hasSno hf
      rw [← Option.some.inj hkey] at hl
      exact absurd hl h

end Find

section Listed

variable (cfg : Settings) (io : Io) {s : XState}

/-- Deleting takes out the serial number it is given, and no other. -/
theorem listed_deleteGwyitem
    (hs : s.xdevlist.Pairwise fun a b => a.key < b.key) (sno : Option CStr)
    {k : CStr} :
    Listed (deleteGwyitem cfg io sno s).1 k ↔
      Listed s k ∧ some k ≠ sno.map CStr.strip := by
  obtain ⟨t, ht⟩ := Lists.of_sorted hs
  rw [ht.listed_iff, (ht.deleteGwyitem cfg io sno).listed_iff]
  cases sno with
  | none => simp [eraseSno]
  | some n =>
      simp only [eraseSno, SortedTable.mem_erase, Option.map_some, ne_eq,
        Option.some.injEq]
      constructor
      · rintro ⟨d, ⟨hd, hne⟩, rfl⟩
        exact ⟨⟨d, hd, rfl⟩, hne⟩
      · rintro ⟨⟨d, hd, rfl⟩, hne⟩
        exact ⟨d, ⟨hd, hne⟩, rfl⟩

/-- Updating lists its device, beside those that are listed. -/
theorem listed_updateGwylist
    (hs : s.xdevlist.Pairwise fun a b => a.key < b.key) (d : GwyDeviceData)
    {k : CStr} :
    Listed (updateGwylist cfg io d s) k ↔ k = d.key ∨ Listed s k := by
  obtain ⟨t, ht⟩ := Lists.of_sorted hs
  rw [ht.listed_iff, (ht.updateGwylist cfg io d).listed_iff]
  constructor
  · rintro ⟨c, hc, rfl⟩
    rcases SortedTable.mem_insert.mp hc with rfl | ⟨hc, -⟩
    · exact Or.inl d.key_normal
    · exact Or.inr ⟨c, hc, rfl⟩
  · rintro (rfl | ⟨c, hc, rfl⟩)
    · exact ⟨d.normal, SortedTable.mem_insert.mpr (Or.inl rfl), d.key_normal⟩
    · by_cases hk : c.key = d.normal.key
      · exact ⟨d.normal, SortedTable.mem_insert.mpr (Or.inl rfl), hk.symm⟩
      · exact ⟨c, SortedTable.mem_insert.mpr (Or.inr ⟨hc, hk⟩), rfl⟩

end Listed

end Xupnp.Discovery
