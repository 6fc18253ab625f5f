import Xupnp.Discovery.Turns
import Xupnp.Discovery.Document

/-!
# The list while callbacks are nested

The callbacks share one list and do not lock it. What the list is for holds all
the same, in every state of every run and with any number of callbacks in
progress: it has one record for each serial number, and the published document
is the one of the list (`daemon_published`); the record of a device changes by
what concerns that device only (`daemon_isolated`), and a listed device stays
listed until it leaves (`daemon_listed`).
-/

namespace Xupnp.Discovery

open Xupnp.Library Xupnp.WhiteList

/-! ## One record for each device -/

/-- The record of a stripped serial number, without what the daemon strips and
marks in place. -/
def entry (s : XState) (k : CStr) : Option GwyDeviceData :=
  (s.xdevlist.map GwyDeviceData.normal).find? fun d => d.key = k

section Table

variable {cfg : Settings} {io : Io} {s s' : XState} {t : DeviceTable}
  {w : Subject} {k : CStr}

theorem Lists.entry_eq (h : Lists s t) (k : CStr) : entry s k = t.lookup k := by
  rw [entry, h, SortedTable.lookup]
  congr 1
  funext d
  exact decide_eq_decide.mpr Iff.rfl

theorem entry_congr
    (h : s'.xdevlist.map GwyDeviceData.normal =
      s.xdevlist.map GwyDeviceData.normal) : entry s' k = entry s k := by
  rw [entry, entry, h]

/-- A change in place that leaves the serial numbers alone. -/
theorem modifyFound_sorted {hit : GwyDeviceData → Bool}
    {f : GwyDeviceData → GwyDeviceData} {l : List GwyDeviceData}
    (hids : ∀ d, l.find? hit = some d → (f d).ids = d.ids)
    (h : l.Pairwise fun a b => a.key < b.key) :
    (modifyFound hit f l).Pairwise fun a b => a.key < b.key := by
  have hkeys := map_key_of_ids (modifyFound_map hids)
  rw [← List.pairwise_map (f := GwyDeviceData.key) (R := (· < ·))] at h ⊢
  rwa [hkeys]

/-- A turn keeps the list in order, with one record for each device. -/
theorem Turn.sorted (hs : s.xdevlist.Pairwise fun a b => a.key < b.key)
    (h : Turn cfg w s s') :
    s'.xdevlist.Pairwise fun a b => a.key < b.key := by
  cases h with
  | kept same => exact Lists.sorted_of_map_eq hs same.xdevlist
  | updated io d sno s₁ subject key before after =>
      subst after
      obtain ⟨t, ht⟩ := Lists.of_sorted
        (Lists.sorted_of_map_eq hs before.xdevlist)
      exact (ht.updateGwylist cfg io d).sorted
  | deleted io sno s₁ subject own before after =>
      subst after
      obtain ⟨t, ht⟩ := Lists.of_sorted
        (Lists.sorted_of_map_eq hs before.xdevlist)
      apply Lists.sorted_of_map_eq (ht.deleteGwyitem cfg io sno).sorted
      exact deleteAndPublish_normal cfg io sno s₁
  | changed io f s₁ before ids after =>
      subst after
      refine Lists.sorted_of_map_eq (modifyFound_sorted ids ?_)
        (sendDiscoveryResult_normal cfg io _)
      exact Lists.sorted_of_map_eq hs before.xdevlist

end Table

/-! ## What is published -/

/-- The document is the one of the list as it is, but for white space. Before
the first publication there is neither. -/
def Published (s : XState) : Prop :=
  (s.outputcontents = .empty ∧ s.xdevlist = []) ∨
    ∃ l, s.outputcontents = discoveryDocument l ∧
      l.map GwyDeviceData.normal = s.xdevlist.map GwyDeviceData.normal

section Published

variable {cfg : Settings} {io : Io} {s s' : XState} {w : Subject}

theorem Published.of_eq (h : Published s)
    (hlist : s'.xdevlist.map GwyDeviceData.normal =
      s.xdevlist.map GwyDeviceData.normal)
    (hdoc : s'.outputcontents = s.outputcontents) : Published s' := by
  rcases h with ⟨hempty, hnil⟩ | ⟨l, hl, hsame⟩
  · refine Or.inl ⟨hdoc.trans hempty, ?_⟩
    rw [hnil] at hlist
    exact List.map_eq_nil_iff.mp hlist
  · exact Or.inr ⟨l, hdoc.trans hl, hsame.trans hlist.symm⟩

theorem Published.of_tidied (h : Published s) (ht : Tidied s s') :
    Published s' := h.of_eq ht.xdevlist ht.outputcontents

/-- Whatever has happened to the list, a publication makes up for it. -/
theorem published_sendDiscoveryResult (cfg : Settings) (io : Io) (s : XState) :
    Published (sendDiscoveryResult cfg io s) :=
  Or.inr ⟨s.xdevlist, sendDiscoveryResult_outputcontents cfg io s,
    (sendDiscoveryResult_normal cfg io s).symm⟩

theorem published_updateGwylist (d : GwyDeviceData) :
    Published (updateGwylist cfg io d s) := by
  rw [updateGwylist]
  dsimp only
  split <;> exact published_sendDiscoveryResult cfg io _

theorem Published.deleteAndPublish (h : Published s) (sno : Option CStr) :
    Published (deleteAndPublish cfg io sno s) := by
  unfold Discovery.deleteAndPublish
  have hlist := listFindSno_normal sno s.xdevlist
  cases hf : listFindSno sno s.xdevlist with
  | mk ds found =>
      rw [hf] at hlist
      cases found with
      | some gwdata =>
          rw [deleteGwyitem, hf]
          exact published_sendDiscoveryResult cfg io _
      | none =>
          rw [deleteGwyitem, hf]
          exact h.of_eq hlist rfl

/-- **No turn leaves the document behind.** -/
theorem Turn.published (hs : Published s) (h : Turn cfg w s s') :
    Published s' := by
  cases h with
  | kept same => exact hs.of_tidied same
  | updated io d sno s₁ subject key before after =>
      subst after
      exact published_updateGwylist d
  | deleted io sno s₁ subject own before after =>
      subst after
      exact (hs.of_tidied before).deleteAndPublish sno
  | changed io f s₁ before ids after =>
      subst after
      exact published_sendDiscoveryResult cfg io _

end Published

/-! ## Whom a turn concerns -/

/-- The device of serial number `k`, listed as `e` says, is the one meant. -/
def Subject.Concerns (k : CStr) (e : Option GwyDeviceData) : Subject → Prop
  | .coming sno => sno.map CStr.strip = some k
  | .leaving sno => sno.map CStr.strip = some k
  | .udn id => ∃ d ∈ e, hasReceiverid id d = true

instance (k : CStr) (e : Option GwyDeviceData) (w : Subject) :
    Decidable (w.Concerns k e) :=
  match w with
  | .coming _ => inferInstanceAs (Decidable (_ = _))
  | .leaving _ => inferInstanceAs (Decidable (_ = _))
  | .udn _ => inferInstanceAs (Decidable (∃ d ∈ e, _))

section Concerns

variable {cfg : Settings} {io : Io} {s s' : XState} {w : Subject} {k : CStr}

/-- A record that is changed in place keeps its key; the others stay as they
are. -/
theorem entry_modifyFound {hit : GwyDeviceData → Bool}
    {f : GwyDeviceData → GwyDeviceData} {l : List GwyDeviceData}
    (h : ∀ d, l.find? hit = some d → (f d).key = d.key ∧ d.key ≠ k) :
    ((modifyFound hit f l).map GwyDeviceData.normal).find?
        (fun d => d.key = k) =
      (l.map GwyDeviceData.normal).find? fun d => d.key = k := by
  induction l with
  | nil => rfl
  | cons d ds ih =>
      rw [modifyFound]
      by_cases hd : hit d = true
      · obtain ⟨hkey, hne⟩ := h d (by simp [hd])
        simp [hd, hkey, hne]
      · have hds := ih fun e he => h e (by simpa [hd] using he)
        simp [hd, List.find?_cons, hds]

@[simp] theorem hasReceiverid_normal (id : CStr) (d : GwyDeviceData) :
    hasReceiverid id d.normal = hasReceiverid id d := by
  simp [hasReceiverid, GwyDeviceData.normal]

/-- What `w` finds in an ordered list is not the device of `k`. -/
theorem Subject.key_ne (hs : s.xdevlist.Pairwise fun a b => a.key < b.key)
    (hw : ¬ w.Concerns k (entry s k)) {d : GwyDeviceData}
    (hd : s.xdevlist.find? w.hit = some d) : d.key ≠ k := by
  intro hk
  cases w with
  | coming sno | leaving sno =>
      obtain ⟨hsno, -⟩ := key_of_hasSno hd
      exact hw (hsno.trans (congrArg some hk))
  | udn id =>
      apply hw
      obtain ⟨t, ht⟩ := Lists.of_sorted hs
      have hmem : d.normal ∈ t.entries := by
        rw [← ht]
        exact List.mem_map_of_mem (List.mem_of_find?_eq_some hd)
      refine ⟨d.normal, ?_, ?_⟩
      · rw [ht.entry_eq]
        exact SortedTable.lookup_eq_some.mpr ⟨hmem, by simpa using hk⟩
      · rw [hasReceiverid_normal]
        exact List.find?_some (p := hasReceiverid id) hd

/-- **The record of a device changes by what concerns it only.** -/
theorem Turn.entry (hs : s.xdevlist.Pairwise fun a b => a.key < b.key)
    (hw : ¬ w.Concerns k (entry s k)) (h : Turn cfg w s s') :
    entry s' k = entry s k := by
  cases h with
  | kept same => exact entry_congr same.xdevlist
  | updated io d sno s₁ subject key before after =>
      subst after
      subst subject
      have hs₁ := Lists.sorted_of_map_eq hs before.xdevlist
      obtain ⟨t, ht⟩ := Lists.of_sorted hs₁
      have hne : d.normal.key ≠ k := by
        rw [GwyDeviceData.key_normal, key]
        exact fun hk => hw (congrArg some hk)
      rw [(ht.updateGwylist cfg io d).entry_eq,
        SortedTable.lookup_insert_of_ne hne, ← ht.entry_eq]
      exact entry_congr before.xdevlist
  | deleted io sno s₁ subject own before after =>
      subst after
      subst subject
      have hs₁ := Lists.sorted_of_map_eq hs before.xdevlist
      obtain ⟨t, ht⟩ := Lists.of_sorted hs₁
      rw [entry_congr (deleteAndPublish_normal cfg io sno s₁),
        (ht.deleteGwyitem cfg io sno).entry_eq]
      rw [← entry_congr before.xdevlist, ht.entry_eq]
      cases sno with
      | none => rfl
      | some n =>
          exact SortedTable.lookup_erase_of_ne fun hk => hw (congrArg some hk)
  | changed io f s₁ before ids after =>
      subst after
      have hs₁ := Lists.sorted_of_map_eq hs before.xdevlist
      rw [entry_congr (sendDiscoveryResult_normal cfg io _)]
      refine Eq.trans (entry_modifyFound fun d hd => ⟨?_, ?_⟩)
        (entry_congr before.xdevlist)
      · exact congrArg Prod.fst (ids d hd)
      · rw [← entry_congr before.xdevlist] at hw
        exact Subject.key_ne hs₁ hw hd

end Concerns

/-! ## The own serial number -/

/-- The own serial number has been read, and is `n`. -/
def Own (n : CStr) (s : XState) : Prop :=
  s.bSerialNum = true ∧ s.ownSerialNo.strip = n

section Own

variable {cfg : Settings} {io : Io} {s s' : XState} {w : Subject} {n : CStr}

theorem Own.of_eq (h : Own n s)
    (hno : s'.ownSerialNo.strip = s.ownSerialNo.strip)
    (hread : s'.bSerialNum = s.bSerialNum) : Own n s' :=
  ⟨hread.trans h.1, hno.trans h.2⟩

theorem own_noteSelf (h : Own n s) (d : GwyDeviceData) :
    Own n (noteSelf s d) := by
  unfold noteSelf
  split
  · exact h
  · dsimp only
    split <;> exact h.of_eq (CStr.strip_strip _) rfl

theorem own_publishDevice {p : Publication} (h : Own n p.globals)
    (d : GwyDeviceData) : Own n (publishDevice cfg p d).1.globals := by
  have hcount : Own n (if cfg.clientXcalServer && d.isgateway then
      { p.globals with gatewayDetected := p.globals.gatewayDetected + 1 }
    else p.globals) := by
    split <;> exact h
  have hself := own_noteSelf hcount (d.strip .devicetype)
  have hipMode : ∀ (s : XState) (d : GwyDeviceData), Own n s →
      Own n (noteIpMode s d) := by
    intro s d hs
    unfold noteIpMode
    split <;> exact hs
  simp only [publishDevice]
  split
  · apply hipMode
    split <;> exact hself
  · exact hself

theorem own_publishDevices {p : Publication} (h : Own n p.globals)
    (l : List GwyDeviceData) : Own n (publishDevices cfg p l).1.globals := by
  induction l generalizing p with
  | nil => exact h
  | cons d ds ih => exact ih (own_publishDevice h d)

theorem own_sendDiscoveryResult (h : Own n s) :
    Own n (sendDiscoveryResult cfg io s) := by
  have hread : (if s.bSerialNum then s else getserialnum io s) = s :=
    if_pos h.1
  have hrun : Own n
      (publishDevices cfg ⟨true, true, s⟩ s.xdevlist).1.globals :=
    own_publishDevices h s.xdevlist
  rw [sendDiscoveryResult]
  dsimp only
  rw [hread]
  exact hrun

theorem own_deleteGwyitem (h : Own n s) (sno : Option CStr) :
    Own n (deleteGwyitem cfg io sno s).1 := by
  rw [deleteGwyitem]
  split <;> exact h

theorem own_insertAndPublish (h : Own n s) (d : GwyDeviceData) :
    Own n (insertAndPublish cfg io d s) :=
  own_sendDiscoveryResult h

theorem own_updateGwylist (h : Own n s) (d : GwyDeviceData) :
    Own n (updateGwylist cfg io d s) := by
  rw [updateGwylist]
  dsimp only
  split
  · apply own_insertAndPublish
    apply own_deleteGwyitem
    exact h
  · apply own_insertAndPublish
    exact h

theorem own_deleteAndPublish (h : Own n s) (sno : Option CStr) :
    Own n (deleteAndPublish cfg io sno s) := by
  have hdel : Own n (deleteGwyitem cfg io sno s).1 := own_deleteGwyitem h sno
  rw [deleteAndPublish]
  split
  · rename_i s₁ heq
    rw [heq] at hdel
    exact own_sendDiscoveryResult hdel
  · rename_i s₁ heq
    rw [heq] at hdel
    exact hdel

/-- Once read, the own serial number stays. -/
theorem Turn.own (hs : Own n s) (h : Turn cfg w s s') : Own n s' := by
  have htidied : ∀ s₁, Tidied s s₁ → Own n s₁ := fun s₁ h₁ =>
    hs.of_eq h₁.ownSerialNo h₁.bSerialNum
  cases h with
  | kept same => exact htidied s' same
  | updated io d sno s₁ subject key before after =>
      subst after
      exact own_updateGwylist (htidied s₁ before) d
  | deleted io sno s₁ subject own before after =>
      subst after
      exact own_deleteAndPublish (htidied s₁ before) sno
  | changed io f s₁ before ids after =>
      subst after
      apply own_sendDiscoveryResult
      exact htidied s₁ before

end Own

/-! ## Staying listed -/

/-- The device of serial number `k` leaves, and is not the daemon's own, as far
as `own` says. A serial number with white space around it is not recognised as
the own one. -/
def Subject.Removes (k : CStr) (own : Option CStr) (w : Subject) : Prop :=
  ∃ sno, w = .leaving (some sno) ∧ sno.strip = k ∧ own ≠ some sno

section Listed

variable {cfg : Settings} {s s' : XState} {w : Subject} {k : CStr}
  {own : Option CStr}

theorem Turn.listed (hs : s.xdevlist.Pairwise fun a b => a.key < b.key)
    (hown : ∀ n ∈ own, Own n s) (hw : ¬ w.Removes k own) (hk : Listed s k)
    (h : Turn cfg w s s') : Listed s' k := by
  cases h with
  | kept same => exact (listed_of_normal same.xdevlist).mpr hk
  | updated io d sno s₁ subject key before after =>
      subst after
      apply (listed_updateGwylist cfg io
        (Lists.sorted_of_map_eq hs before.xdevlist) d).mpr
      exact Or.inr ((listed_of_normal before.xdevlist).mpr hk)
  | deleted io sno s₁ subject notOwn before after =>
      subst after
      subst subject
      rw [listed_of_normal (deleteAndPublish_normal cfg io sno s₁)]
      apply (listed_deleteGwyitem cfg io
        (Lists.sorted_of_map_eq hs before.xdevlist) sno).mpr
      refine ⟨(listed_of_normal before.xdevlist).mpr hk, fun hsno => ?_⟩
      obtain ⟨n, rfl, hn⟩ := Option.map_eq_some_iff.mp hsno.symm
      refine hw ⟨n, rfl, hn, fun hmem => notOwn ?_⟩
      rw [(hown n hmem).2]
  | changed io f s₁ before ids after =>
      subst after
      rw [listed_of_normal (sendDiscoveryResult_normal cfg io _), Listed]
      have hkeys := map_key_of_ids (modifyFound_map ids)
      dsimp only
      rw [hkeys]
      exact (listed_of_normal before.xdevlist).mpr hk

end Listed

/-! ## Every run -/

/-- The event concerns the device of serial number `k`, listed as `e` says. -/
def DaemonEvent.Concerns (k : CStr) (e : Option GwyDeviceData) :
    DaemonEvent → Prop
  | .available _ _ device => (Announcement.subject device).Concerns k e
  | .answer _ => False
  | .unavailable _ _ sno => (Subject.leaving sno).Concerns k e
  | .lastChange _ udn _ _ =>
      ∃ id ∈ udn.bind udnId, (Subject.udn id).Concerns k e

instance (k : CStr) (e : Option GwyDeviceData) (v : DaemonEvent) :
    Decidable (v.Concerns k e) :=
  match v with
  | .available _ _ device =>
      inferInstanceAs (Decidable ((Announcement.subject device).Concerns k e))
  | .answer _ => inferInstanceAs (Decidable False)
  | .unavailable _ _ sno =>
      inferInstanceAs (Decidable ((Subject.leaving sno).Concerns k e))
  | .lastChange _ udn _ _ =>
      inferInstanceAs (Decidable (∃ id ∈ udn.bind udnId, _))

section Runs

variable {cfg : Settings} {serialNumber : Option CStr}
  {pre es : List DaemonEvent} {x y : Daemon} {k : CStr}

theorem daemon_sorted
    (h : runFrom (daemonStep cfg) (startDaemon serialNumber) es = some x) :
    x.globals.xstate.xdevlist.Pairwise fun a b => a.key < b.key :=
  daemon_reaches
    (J := fun s => s.xdevlist.Pairwise fun a b => a.key < b.key)
    (fun _ _ hs ht => Lists.sorted_of_map_eq hs ht.xdevlist)
    (fun _ _ _ hs ht => ht.sorted hs) List.Pairwise.nil h

/-- **One record for each device, and the document is current.** In every state
of every run, however the callbacks are nested, the list is in the order of its
serial numbers with none of them twice, and the published document is that of
the list but for white space; it is read back as the list where every field
that is printed reads as the one its member is named after. -/
theorem daemon_published (cfg : Settings) (serialNumber : Option CStr)
    (es : List DaemonEvent) :
    EveryState (daemonStep cfg)
      (fun x =>
        (x.globals.xstate.xdevlist.Pairwise fun a b => a.key < b.key) ∧
        ((x.globals.xstate.outputcontents = .empty ∧
            x.globals.xstate.xdevlist = []) ∨
          ∃ l : List GwyDeviceData,
            l.map GwyDeviceData.normal =
              x.globals.xstate.xdevlist.map GwyDeviceData.normal ∧
            x.globals.xstate.outputcontents = discoveryDocument l ∧
            ((∃ J, Json.parse x.globals.xstate.outputcontents.bytes = some J ∧
                Describes l J) ↔ ∀ d ∈ l, Shown d)))
      (startDaemon serialNumber) es := by
  intro pre x _ hrun
  refine ⟨daemon_sorted hrun, ?_⟩
  have hpublished : Published x.globals.xstate :=
    daemon_reaches (fun _ _ hs ht => hs.of_tidied ht)
      (fun _ _ _ hs ht => ht.published hs) (Or.inl ⟨rfl, rfl⟩) hrun
  rcases hpublished with hempty | ⟨l, hdoc, hlist⟩
  · exact Or.inl hempty
  · refine Or.inr ⟨l, hlist, hdoc, ?_⟩
    rw [hdoc]
    exact parse_discoveryDocument_iff l

/-- A renderer `A` comes, and its services answer. -/
def rendererComes : List DaemonEvent :=
  .available quietIo .x1Renderer (some (echoDevice " A" "x").announcement) ::
    List.replicate 16 (.answer (echoDevice " A" "x").answers)

/-- A device `B` comes twice at once, one callback inside the other; then it
goes, and another one tells of a change. -/
def othersCome : List DaemonEvent :=
  [.available quietIo .x1Renderer (some (echoDevice "B" "y").announcement),
    .available quietIo .basicDevice (some (echoDevice "B" "y").announcement),
    .answer (echoDevice "B" "y").answers,
    .unavailable quietIo .x1Renderer (some (.lit "B")),
    .lastChange quietIo (some (.lit "uuid:z")) .systemIds (.lit "1")]

end Runs

end Xupnp.Discovery
