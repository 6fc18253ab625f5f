import Xupnp.Library.GList
import Xupnp.Idm.Admission
import Xupnp.Idm.Interleaving

/-!
# Emptying the list of the IDM client (`remove_entries_in_list`)

The loop takes the first link out of the list and goes on to the link behind
it, but `g_list_remove_link` has cleared that pointer: the loop ends after one
round, whatever is left. `removeEntriesRun_spec` shows this on the links, and
that the list is left as `removeEntriesInList` has it. Before it the devices
that the control point still has are reported unavailable, and deleted.
`removeEntriesInList_empties_iff` says when nothing is left, and what becomes of
the devices when the client is started again.
-/

namespace Xupnp.Idm

open Xupnp.Library Xupnp.XcalDevice

/-! ## The loop -/

/-- The links, the list and the records freed. -/
structure Removing (ι : Type*) where
  heap : GHeap ι GwyDeviceData
  xdevlist : Option ι
  freed : List GwyDeviceData

section Loop

variable {ι : Type*} [DecidableEq ι]

/-- `while (element)`, if it ends in at most `fuel` rounds. -/
def removeLoop : ℕ → Removing ι → Option ι → Option (Removing ι)
  | _, r, none => some r
  | 0, _, some _ => none
  | fuel + 1, r, some element =>
      let gwydata := (r.heap element).data
      let (heap, xdevlist) := r.heap.removeLink r.xdevlist element
      removeLoop fuel ⟨heap, xdevlist, r.freed ++ [gwydata]⟩
        (heap element).next

/-- `remove_entries_in_list`. The length is greater than 0 if the list is not
`NULL`. -/
def removeEntriesRun (fuel : ℕ) (heap : GHeap ι GwyDeviceData)
    (xdevlist : Option ι) : Option (Removing ι) :=
  match xdevlist with
  | none => some ⟨heap, none, []⟩
  | some list =>
      (heap.first fuel list).bind fun element =>
        removeLoop fuel ⟨heap, xdevlist, []⟩ (some element)

/-- **The loop.** One round, which takes out and frees the first record. -/
theorem removeEntriesRun_spec {heap : GHeap ι GwyDeviceData}
    {list : Option ι} {l : List ι} (hl : heap.Chain none list l) (fuel : ℕ) :
    ∃ r,
    removeEntriesRun (fuel + 1) heap list = some r ∧
      r.heap.Chain none r.xdevlist l.tail ∧
      (l.tail.map fun j => (r.heap j).data) =
        removeEntriesInList (l.map fun j => (heap j).data) ∧
      r.freed = (l.take 1).map fun j => (heap j).data := by
  cases l with
  | nil =>
      obtain rfl : list = none := hl
      exact ⟨⟨heap, none, []⟩, rfl, rfl, rfl, rfl⟩
  | cons i l =>
      obtain ⟨hrest, hnext, hdata⟩ := GHeap.removeLink_first hl
      obtain ⟨rfl, hprev, -⟩ := hl
      have hfirst : heap.first (fuel + 1) i = some i := by
        rw [GHeap.first, hprev]
      refine ⟨⟨(heap.removeLink (some i) i).1, (heap.removeLink (some i) i).2,
        [(heap i).data]⟩, ?_, hrest, ?_, rfl⟩
      · show (heap.first (fuel + 1) i).bind _ = _
        rw [hfirst, Option.bind_some, removeLoop]
        dsimp only
        -- The pointer to the next link is gone.
        rw [hnext]
        cases fuel <;> rfl
      · show (l.map fun j => _) = l.map fun j => (heap j).data
        exact List.map_congr_left fun j _ => hdata j

end Loop

/-! ## The next session -/

/-- The device of this record announces itself. -/
def Announces (p : DeviceProxy) (d : GwyDeviceData) : Prop :=
  p.serialNumber.map CStr.strip = some d.key ∧
    (p.udn.bind Discovery.udnId).isSome

/-- When it comes, it is asked like a device that is not listed. -/
def TreatedAsNew (s : IdmState) (d : GwyDeviceData) : Prop :=
  ∀ p, Announces p d →
    callKeys (deviceProxyAvailableCbBgw p s) = d.key :: callKeys s

/-- If it comes and answers with the own account id, it is reported as
added. -/
def ReportedAgain (s : IdmState) (d : GwyDeviceData) : Prop :=
  ∀ p clientIP bcastMac gatewayIPv6 accountId, Announces p d →
    validAccount accountId = true → s.accountId.strip = accountId →
    ∃ s' r,
      runFrom callbackStep s
        [.available (some p), .answer clientIP, .answer bcastMac,
          .answer gatewayIPv6, .answer (some (some accountId))] = some s' ∧
      s'.reports = s.reports ++ [r] ∧ r.gwydata.key = d.key ∧ r.added = true

section NextSession

variable {s s₁ s₂ : IdmState} {d : GwyDeviceData} {p : DeviceProxy}

/-- A device that is not listed is asked. -/
theorem available_new (hp : Announces p d) (hd : d.key ∉ keys s) :
    ∃ c, c.request = .getClientIP ∧ c.gwydata.key = d.key ∧
      (deviceProxyAvailableCbBgw p s).calls = c :: s.calls ∧
      (deviceProxyAvailableCbBgw p s).reports = s.reports ∧
      (deviceProxyAvailableCbBgw p s).accountId = s.accountId := by
  obtain ⟨hsno, hudn⟩ := hp
  obtain ⟨sno, hsome, hkey⟩ := Option.map_eq_some_iff.mp hsno
  obtain ⟨receiverid, hid⟩ := Option.isSome_iff_exists.mp hudn
  have hfound : ∀ e, (listFindSno p.serialNumber s.xdevlist).2 = some e → _ :=
    fun e he => listFindSno_some p.serialNumber s.xdevlist he
  unfold deviceProxyAvailableCbBgw
  cases hf : listFindSno p.serialNumber s.xdevlist with
  | mk ds found =>
      rw [hf] at hfound
      cases found with
      | some e =>
          obtain ⟨he, hmem⟩ := hfound e rfl
          rw [hsno] at he
          rw [← Option.some.inj he] at hmem
          exact absurd hmem hd
      | none =>
          dsimp only
          rw [hsome, hid]
          refine ⟨_, rfl, ?_, rfl, rfl, rfl⟩
          show CStr.strip (if ds = [] then sno else sno.strip) = d.key
          split
          · exact hkey
          · rw [CStr.strip_strip, hkey]

/-- A device that is listed is not asked. -/
theorem available_listed (hp : Announces p d) (hd : d.key ∈ keys s) :
    (deviceProxyAvailableCbBgw p s).calls = s.calls := by
  have hnone := listFindSno_none p.serialNumber s.xdevlist
  unfold deviceProxyAvailableCbBgw
  cases hf : listFindSno p.serialNumber s.xdevlist with
  | mk ds found =>
      rw [hf] at hnone
      cases found with
      | some e => rfl
      | none => exact absurd hp.1 (hnone rfl d.key hd)

theorem treatedAsNew_iff : TreatedAsNew s d ↔ d.key ∉ keys s := by
  constructor
  · intro h hd
    have hudn : ((some (CStr.lit "uuid:")).bind Discovery.udnId).isSome = true := by
      decide
    have hp : Announces ⟨some d.serialNum, some (.lit "uuid:")⟩ d := ⟨rfl, hudn⟩
    have hcalls := h _ hp
    rw [callKeys, available_listed hp hd] at hcalls
    exact List.cons_ne_self _ _ hcalls.symm
  · intro hd p hp
    obtain ⟨c, -, hkey, hcalls, -⟩ := available_new hp hd
    rw [callKeys, hcalls, List.map_cons, hkey]
    rfl

/-- One request of a call that is under way. -/
theorem answer_goes_on {c : Call} {cs : List Call} (hcalls : s.calls = c :: cs)
    (hreq : c.request ≠ .getAccountId) (result : Option (Option CStr)) :
    ∃ c' s', callbackStep s (.answer result) = some s' ∧
      s'.calls = c' :: cs ∧ c'.gwydata.key = c.gwydata.key ∧
      (c.request = .getClientIP → c'.request = .getBcastMacAddress) ∧
      (c.request = .getBcastMacAddress → c'.request = .getGatewayIPv6) ∧
      (c.request = .getGatewayIPv6 → c'.request = .getAccountId) ∧
      s'.reports = s.reports ∧ s'.accountId = s.accountId := by
  have hfill : ∀ f next, (c.fill f result next).request = next := by
    intro f next
    unfold Call.fill
    cases result <;> rfl
  show ∃ c' s', resume result s = some s' ∧ _
  rw [resume, hcalls]
  dsimp only
  cases hc : c.request with
  | getClientIP =>
      refine ⟨_, _, rfl, rfl, fill_key _ _ _ _, fun _ => hfill _ _, ?_, ?_,
        rfl, rfl⟩ <;> exact fun h => by cases h
  | getBcastMacAddress =>
      refine ⟨_, _, rfl, rfl, fill_key _ _ _ _, ?_, fun _ => hfill _ _, ?_,
        rfl, rfl⟩ <;> exact fun h => by cases h
  | getGatewayIPv6 =>
      refine ⟨_, _, rfl, rfl, fill_key _ _ _ _, ?_, ?_, fun _ => hfill _ _,
        rfl, rfl⟩ <;> exact fun h => by cases h
  | getAccountId => exact absurd hc hreq

theorem reportedAgain_of_new (hd : d.key ∉ keys s) : ReportedAgain s d := by
  intro p clientIP bcastMac gatewayIPv6 accountId hp hvalid hown
  obtain ⟨c₁, hreq₁, hkey₁, hcalls₁, hreports₁, haccount₁⟩ :=
    available_new hp hd
  obtain ⟨c₂, s₂, hs₂, hcalls₂, hkey₂, hreq₂, -, -, hreports₂, haccount₂⟩ :=
    answer_goes_on hcalls₁ (by rw [hreq₁]; decide) clientIP
  have hreq₂ := hreq₂ hreq₁
  obtain ⟨c₃, s₃, hs₃, hcalls₃, hkey₃, -, hreq₃, -, hreports₃, haccount₃⟩ :=
    answer_goes_on hcalls₂ (by rw [hreq₂]; decide) bcastMac
  have hreq₃ := hreq₃ hreq₂
  obtain ⟨c₄, s₄, hs₄, hcalls₄, hkey₄, -, -, hreq₄, hreports₄, haccount₄⟩ :=
    answer_goes_on hcalls₃ (by rw [hreq₃]; decide) gatewayIPv6
  have hreq₄ := hreq₄ hreq₃
  have hown₄ : s₄.accountId.strip = accountId := by
    rw [haccount₄, haccount₃, haccount₂, haccount₁, hown]
  have hlast : callbackStep s₄ (.answer (some (some accountId))) =
      some (accountAnswered c₄ accountId s₄) := by
    show resume _ s₄ = _
    rw [resume, hcalls₄]
    dsimp only
    rw [hreq₄]
  refine ⟨accountAnswered c₄ accountId s₄, ⟨c₄.gwydata, c₄.di, true, true⟩,
    ?_, ?_, ?_, rfl⟩
  · show runFrom callbackStep (deviceProxyAvailableCbBgw p s) _ = _
    rw [runFrom_cons, hs₂, Option.bind_some, runFrom_cons, hs₃,
      Option.bind_some, runFrom_cons, hs₄, Option.bind_some, runFrom_cons,
      hlast]
    rfl
  · rw [((accountAnswered_change (s := s₄) c₄ accountId).2.1
      ⟨hvalid, hown₄⟩).2, hreports₄, hreports₃, hreports₂, hreports₁]
  · exact hkey₄.trans (hkey₃.trans (hkey₂.trans hkey₁))

/-- What is listed when the client is started again. -/
theorem stop_start_keys {s' : IdmState}
    {gone : List (Option CStr × DeviceInfo)} {serialNum : CStr}
    {reads : List AccountSource} (hgone : setInactive gone s = some s')
    (hstop : step s (.stop gone) = some s₁)
    (hstart : step s₁ (.start serialNum reads) = some s₂) :
    s₂.xdevlist = removeEntriesInList s'.xdevlist := by
  unfold step at hstop hstart
  dsimp only at hstop hstart
  split at hstop
  · rw [hgone] at hstop
    obtain rfl := Option.some.inj hstop
    split at hstart
    · cases hstart
    · obtain ⟨_, -, rfl⟩ := Option.map_eq_some_iff.mp hstart
      rfl
  · cases hstop

end NextSession

/-! ## The result -/

/-- **Result.** When the function is called, the devices are listed that were
not reported unavailable behind the main loop. It leaves the list empty, and
after a stop and a start every device that was listed is asked and reported
again, exactly if that is at most one. -/
theorem removeEntriesInList_empties_iff {ι : Type*} [DecidableEq ι]
    {heap : GHeap ι GwyDeviceData} {list : Option ι} {l : List ι}
    (hl : heap.Chain none list l) {s s' s₁ s₂ : IdmState}
    {gone : List (Option CStr × DeviceInfo)}
    (hgone : setInactive gone s = some s')
    (hs : s'.xdevlist = l.map fun i => (heap i).data) {serialNum : CStr}
    {reads : List AccountSource} (hstop : step s (.stop gone) = some s₁)
    (hstart : step s₁ (.start serialNum reads) = some s₂) :
    (l.map fun i => (heap i).data.key) =
      (keys s).diff (withdrawnKeys s.ownSerialNo gone) ∧
    ((∃ r, removeEntriesRun (l.length + 1) heap list = some r ∧
        r.xdevlist = none) ↔ l.length ≤ 1) ∧
    ((∀ d ∈ s.xdevlist, TreatedAsNew s₂ d ∧ ReportedAgain s₂ d) ↔
      l.length ≤ 1) := by
  have hkeys : keys s' = l.map fun i => (heap i).data.key := by
    rw [keys, hs, List.map_map]
    rfl
  refine ⟨hkeys ▸ setInactive_keys hgone, ?_, ?_⟩
  · obtain ⟨r, hrun, hrest, -⟩ := removeEntriesRun_spec hl l.length
    rw [hrun]
    rcases l with _ | ⟨i, _ | ⟨j, l⟩⟩
    · exact iff_of_true ⟨r, rfl, hrest⟩ (Nat.zero_le 1)
    · exact iff_of_true ⟨r, rfl, hrest⟩ (Nat.le_refl 1)
    · refine iff_of_false ?_ (by simp)
      rintro ⟨r', heq, hnone⟩
      obtain rfl := Option.some.inj heq
      obtain ⟨hsome, -⟩ := hrest
      rw [hnone] at hsome
      cases hsome
  · have hlist := stop_start_keys hgone hstop hstart
    rw [hs] at hlist
    have hempty : s₂.xdevlist = [] →
        ∀ d ∈ s.xdevlist, TreatedAsNew s₂ d ∧ ReportedAgain s₂ d := by
      intro hnil d _
      have hd : d.key ∉ keys s₂ := by
        rw [keys, hnil]
        exact List.not_mem_nil
      exact ⟨treatedAsNew_iff.mpr hd, reportedAgain_of_new hd⟩
    rcases l with _ | ⟨i, _ | ⟨j, l⟩⟩
    · exact iff_of_true (hempty hlist) (Nat.zero_le 1)
    · exact iff_of_true (hempty hlist) (Nat.le_refl 1)
    · refine iff_of_false ?_ (by simp)
      -- The second device stays listed.
      intro h
      have hj : (heap j).data.key ∈ keys s :=
        (setInactive_withdrawn hgone).sublist.subset (by simp [hkeys])
      obtain ⟨d, hd, hdk⟩ := List.mem_map.mp hj
      apply treatedAsNew_iff.mp (h d hd).1
      rw [keys, hlist, hdk]
      exact List.mem_map_of_mem List.mem_cons_self

/-- A device that was alone on the list. -/
theorem removeEntriesInList_empties_one :
    ∃ r, removeEntriesRun 2 (fun _ : ℕ => ⟨initGwydata, none, none⟩)
      (some 0) = some r ∧ r.xdevlist = none := by
  have hchain : GHeap.Chain (fun _ : ℕ => ⟨initGwydata, none, none⟩) none
      (some 0) [0] := ⟨rfl, rfl, rfl⟩
  have hstop : step { initState with running := true, xdevlist := [initGwydata] }
      (.stop []) = some initState := rfl
  have hstart : step initState
      (.start (.lit "P1") [.rfc (some (some (.lit "42")))]) =
        some (startedState (.lit "P1") (.lit "42")) := by rfl
  exact (removeEntriesInList_empties_iff hchain rfl rfl hstop hstart).2.1.mpr
    (by decide)

/-- A device goes while it is asked, and answers after that. -/
def goesAsked (sno text : String) : List Event :=
  .notice (.available (some (gatewayProxy sno))) ::
    .notice (.unavailable (some (.lit sno)) .zero) ::
    List.replicate 4 (.notice (.answer (some (some (.lit text)))))

/-- The own device has come, and one that has gone is listed. -/
def twoListed : List Event :=
  .start (.lit "P1") [.rfc (some (some (.lit "42")))] ::
    (comes "P1" "42" ++ goesAsked "P2" "42")

/-- The control point has the own device when the client is stopped. -/
def stopsOwn : Event := .stop [(some (.lit "P1"), .zero)]

/-- The client is stopped and started again, and the other device comes. -/
def comesBack : List Event :=
  twoListed ++ [stopsOwn, .start (.lit "P1") [.rfc (some (some (.lit "42")))],
    .notice (.available (some (gatewayProxy "P2")))]

/-- Two links. -/
def twoLinks : GHeap ℕ GwyDeviceData
  | 0 => ⟨initGwydata, some 1, none⟩
  | _ => ⟨initGwydata, none, some 0⟩

/-- Of two links the second stays. So of two devices that are listed when the
function is called the second stays listed, and is not asked when it comes
again. -/
theorem removeEntriesInList_empties_fails :
    (removeEntriesRun 3 twoLinks (some 0)).map (·.xdevlist) =
        some (some 1) ∧
      (runFrom step initState twoListed).map keys =
        some [.lit "P1", .lit "P2"] ∧
      (runFrom step initState (twoListed ++ [stopsOwn])).map keys =
        some [.lit "P2"] ∧
      (runFrom step initState comesBack).map callKeys = some [] := by
  decide +kernel

end Xupnp.Idm
