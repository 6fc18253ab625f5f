import Xupnp.Discovery.Table

/-!
# What updating, deleting and publishing do to the outside

The calls `update_gwylist`, `delete_gwyitem` and `sendDiscoveryResult`, taken
as the steps of a system of their own (`DevOp`), and what each appends to
`XState.trace`: calls to the white list, deleted routes, and the records the
gateway script is run for.
-/

namespace Xupnp.Discovery

open Xupnp.Library Xupnp.WhiteList

/-- A call that changes or publishes the list. -/
inductive DevOp where
  | update (io : Io) (gwydata : GwyDeviceData)
  | delete (io : Io) (serialNum : Option CStr)
  | publish (io : Io)

/-- One call. It always returns. -/
def devStep (cfg : Settings) (s : XState) : DevOp → XState
  | .update io d => updateGwylist cfg io d s
  | .delete io sno => (deleteGwyitem cfg io sno s).1
  | .publish io => sendDiscoveryResult cfg io s

section Order

variable (cfg : Settings) {s : XState} {t : DeviceTable}

/-- What a call does to the table. -/
def tableStep (t : DeviceTable) : DevOp → DeviceTable
  | .update _ d => t.insert d.normal
  | .delete _ sno => eraseSno t sno
  | .publish _ => t

theorem Lists.devStep (h : Lists s t) (op : DevOp) :
    Lists (devStep cfg s op) (tableStep t op) := by
  cases op with
  | update io d => exact h.updateGwylist cfg io d
  | delete io sno => exact h.deleteGwyitem cfg io sno
  | publish io => exact h.sendDiscoveryResult cfg io

theorem devStep_sorted (hs : s.xdevlist.Pairwise fun a b => a.key < b.key)
    (op : DevOp) :
    (devStep cfg s op).xdevlist.Pairwise fun a b => a.key < b.key := by
  obtain ⟨t, ht⟩ := Lists.of_sorted hs
  exact (ht.devStep cfg op).sorted

end Order

/-! ## Publishing -/

section Publish

variable (cfg : Settings)

/-- What the gate in front of the gateway script asks of a record. -/
def passesGate (cfg : Settings) (d : GwyDeviceData) : Bool :=
  cfg.enableGwSetup && d.isgateway && checkvalidhostname d.dnsconfig
    && checkvalidhostname d.etchosts && checkvalidip d.gwyip
    && checkvalidip d.gwyipv6

/-- The record as the gate lets it pass, with the fields stripped that have
been looked at. -/
def checked (d : GwyDeviceData) : GwyDeviceData :=
  ((((d.strip .devicetype).strip .dnsconfig).strip .etchosts).strip
    .gwyip).strip .gwyipv6

/-- No check sees what another one has stripped. -/
theorem gwSetupGate_eq (slotLeft : Bool) (d : GwyDeviceData) :
    gwSetupGate cfg slotLeft d =
      if !(cfg.enableGwSetup && slotLeft && d.isgateway) then (false, d)
      else if !checkvalidhostname d.dnsconfig then (false, d.strip .dnsconfig)
      else if !checkvalidhostname d.etchosts then
        (false, (d.strip .dnsconfig).strip .etchosts)
      else if !checkvalidip d.gwyip then
        (false, ((d.strip .dnsconfig).strip .etchosts).strip .gwyip)
      else (checkvalidip d.gwyipv6, (((d.strip .dnsconfig).strip
        .etchosts).strip .gwyip).strip .gwyipv6) := rfl

/-- The gate opens for a record that passes, while there is a slot. -/
theorem gwSetupGate_fst (slotLeft : Bool) (d : GwyDeviceData) :
    (gwSetupGate cfg slotLeft d).1 = (slotLeft && passesGate cfg d) := by
  rw [gwSetupGate_eq, passesGate]
  split_ifs with hfirst hdns hhosts hip
  · simp only [Bool.not_eq_true', Bool.and_eq_false_iff] at hfirst
    rcases hfirst with (h | h) | h <;> simp [h]
  · simp only [Bool.not_eq_true'] at hdns
    simp [hdns]
  · simp only [Bool.not_eq_true'] at hhosts
    simp [hhosts]
  · simp only [Bool.not_eq_true'] at hip
    simp [hip]
  · simp only [Bool.not_eq_true', Bool.not_eq_false, Bool.and_eq_true]
      at hfirst hdns hhosts hip
    simp [hfirst, hdns, hhosts, hip]

theorem gwSetupGate_snd {cfg : Settings} {slotLeft : Bool}
    {d : GwyDeviceData}
    (h : (gwSetupGate cfg slotLeft (d.strip .devicetype)).1 = true) :
    (gwSetupGate cfg slotLeft (d.strip .devicetype)).2 = checked d := by
  rw [gwSetupGate_eq] at h ⊢
  split_ifs at h ⊢
  rfl

theorem noteSelf_trace (s : XState) (d : GwyDeviceData) :
    (noteSelf s d).trace = s.trace := by
  unfold noteSelf
  split
  · rfl
  · dsimp only
    split <;> rfl

theorem noteIpMode_trace (s : XState) (d : GwyDeviceData) :
    (noteIpMode s d).trace = s.trace := by
  unfold noteIpMode
  split <;> rfl

/-- How many calls of the script are left. -/
def slots (p : Publication) : ℕ :=
  p.firstXG1GwData.toNat + p.firstXG2GwData.toNat

/-- A record that passes takes one of the slots, in a build that sets up
routes. -/
theorem publishDevice_trace (p : Publication) (d : GwyDeviceData) :
    (publishDevice cfg p d).1.globals.trace = p.globals.trace ++
        (if cfg.enableRoute && slots p != 0 && passesGate cfg d then
          [.gwSetup (checked d)] else []) ∧
      slots (publishDevice cfg p d).1 =
        slots p - (cfg.enableRoute && passesGate cfg d).toNat := by
  have hslots : (p.firstXG1GwData || p.firstXG2GwData) = (slots p != 0) := by
    rw [slots]
    cases p.firstXG1GwData <;> cases p.firstXG2GwData <;> rfl
  have hgate : (gwSetupGate cfg (slots p != 0) (d.strip .devicetype)).1 =
      (slots p != 0 && passesGate cfg d) := gwSetupGate_fst _ _ _
  have hcall : ∀ p' : Publication, slots p' = slots p → slots p ≠ 0 →
      slots (callGwSetup p' (checked d)) = slots p - 1 := by
    intro p' hp' hne
    rw [← hp'] at hne ⊢
    simp only [slots, callGwSetup] at hne ⊢
    cases p'.firstXG1GwData <;> cases p'.firstXG2GwData <;> simp at hne ⊢
  simp only [publishDevice, hslots]
  cases hopen : (slots p != 0 && passesGate cfg d)
  · rw [hgate, hopen, if_neg (by simp), Bool.and_assoc, hopen]
    refine ⟨?_, ?_⟩
    · simp only [noteSelf_trace]
      split <;> simp
    · rcases Bool.and_eq_false_iff.mp hopen with h | h
      · have hzero : slots p = 0 := by simpa using h
        rw [hzero, Nat.zero_sub]
        exact hzero
      · rw [h, Bool.and_false]
        rfl
  · have hsnd := gwSetupGate_snd (hgate.trans hopen)
    rw [hgate, hopen, if_pos rfl, Bool.and_assoc, hopen, hsnd]
    obtain ⟨hne, hpass⟩ := Bool.and_eq_true_iff.mp hopen
    cases hroute : cfg.enableRoute
    · refine ⟨?_, by simp [slots]⟩
      simp only [Bool.false_eq_true, if_false, noteIpMode_trace,
        noteSelf_trace]
      split <;> simp
    · refine ⟨?_, ?_⟩
      · simp only [if_true, noteIpMode_trace, callGwSetup, noteSelf_trace]
        split <;> simp
      · rw [hpass]
        exact hcall { p with globals := _ } rfl (by simpa using hne)

/-- The records the script is run for: the first ones that pass. -/
def setupRecords (cfg : Settings) (n : ℕ) (l : List GwyDeviceData) :
    List GwyDeviceData :=
  if cfg.enableRoute then ((l.filter (passesGate cfg)).take n).map checked
  else []

theorem publishDevices_trace (p : Publication) (l : List GwyDeviceData) :
    (publishDevices cfg p l).1.globals.trace = p.globals.trace ++
      (setupRecords cfg (slots p) l).map Effect.gwSetup := by
  induction l generalizing p with
  | nil => simp [publishDevices, setupRecords]
  | cons d l ih =>
      obtain ⟨htrace, hslots⟩ := publishDevice_trace cfg p d
      rw [publishDevices, ih, htrace, hslots, List.append_assoc]
      congr 1
      cases hroute : cfg.enableRoute
      · simp [setupRecords, hroute]
      cases hpass : passesGate cfg d
      · simp [setupRecords, hroute, hpass]
      · cases slots p <;> simp [setupRecords, hroute, hpass]

/-- **What a publication does to the outside.** It runs the gateway script for
the first two listed records that pass its gate. -/
theorem sendDiscoveryResult_setups (io : Io) (s : XState) :
    (sendDiscoveryResult cfg io s).trace =
      s.trace ++ (setupRecords cfg 2 s.xdevlist).map Effect.gwSetup := by
  have hserial : ∀ s' : XState, s'.trace = s.trace →
      s'.xdevlist = s.xdevlist →
      (publishDevices cfg ⟨true, true, s'⟩ s'.xdevlist).1.globals.trace =
        s.trace ++ (setupRecords cfg 2 s.xdevlist).map Effect.gwSetup := by
    intro s' htrace hlist
    rw [← htrace, ← hlist]
    exact publishDevices_trace _ _ _
  exact hserial (if s.bSerialNum then s else getserialnum io s)
    (getserialnum_keeps (fun _ _ => rfl) io s)
    (getserialnum_keeps (fun _ _ => rfl) io s)

/-- The script is run for listed records, with their addresses. -/
theorem sendDiscoveryResult_trace (io : Io) (s : XState) :
    ∃ ds : List GwyDeviceData, (sendDiscoveryResult cfg io s).trace =
        s.trace ++ ds.map Effect.gwSetup ∧
      ∀ c ∈ ds, ∃ d ∈ (sendDiscoveryResult cfg io s).xdevlist,
        d.key = c.key ∧ d.gwyip.strip = c.gwyip := by
  refine ⟨_, sendDiscoveryResult_setups cfg io s, fun c hc => ?_⟩
  have hlisted : ∃ d ∈ s.xdevlist, checked d = c := by
    unfold setupRecords at hc
    split at hc
    · obtain ⟨d, hd, heq⟩ := List.mem_map.mp hc
      exact ⟨d, List.mem_of_mem_filter (List.mem_of_mem_take hd), heq⟩
    · cases hc
  obtain ⟨d, hd, rfl⟩ := hlisted
  have hmem : d.normal ∈
      (sendDiscoveryResult cfg io s).xdevlist.map GwyDeviceData.normal := by
    rw [sendDiscoveryResult_normal]
    exact List.mem_map_of_mem hd
  obtain ⟨e, he, hnormal⟩ := List.mem_map.mp hmem
  refine ⟨e, he, ?_, congrArg GwyDeviceData.gwyip hnormal⟩
  rw [← e.key_normal, hnormal, GwyDeviceData.key_normal]
  simp [checked]

end Publish

/-! ## Updating and deleting -/

section Update

variable (cfg : Settings) (io : Io) (s : XState)

/-- `delete_gwyitem` takes the record it has found off the white list. -/
theorem deleteGwyitem_trace (sno : Option CStr) :
    (deleteGwyitem cfg io sno s).1.trace = s.trace ++
      (match s.xdevlist.find? (hasSno sno) with
        | some d => (deleteCall cfg io d).map Effect.whiteList
        | none => []) := by
  have hfind := listFindSno_find sno s.xdevlist
  unfold deleteGwyitem
  split
  · rename_i ds d hf
    rw [hf] at hfind
    obtain ⟨c, hc, rfl⟩ := Option.map_eq_some_iff.mp hfind.symm
    rw [hc]
    rfl
  · rename_i ds hf
    rw [hf, eq_comm, Option.map_eq_none_iff] at hfind
    rw [hfind]
    exact (List.append_nil _).symm

/-- The record `update_gwylist` replaces. -/
def replaced (s : XState) (d : GwyDeviceData) : Option GwyDeviceData :=
  s.xdevlist.find? (hasSno (some d.serialNum))

/-- The new record as far as the white list goes: its address has been
stripped if it replaces another. -/
def asInserted (s : XState) (d : GwyDeviceData) : GwyDeviceData :=
  if (replaced s d).isSome then d.strip .gwyip else d

/-- What the calls to the outside of an update are, before it publishes. -/
def updateEffects (cfg : Settings) (io : Io) (s : XState)
    (d : GwyDeviceData) : List Effect :=
  (match replaced s d with
    | some c => clearRoute cfg c d ++
        (deleteCall cfg io (c.strip .gwyip)).map Effect.whiteList
    | none => [])
  ++ (insertCall cfg io (asInserted s d)).map Effect.whiteList

theorem insertCall_devicetype (d : GwyDeviceData) :
    insertCall cfg io (d.strip .devicetype) = insertCall cfg io d := by
  simp [insertCall, listedAddr, keepsWhiteList, insertAddr, isXG, isXIDOrXI3,
    GwyDeviceData.strip]

theorem insertAndPublish_trace (d : GwyDeviceData) :
    ∃ ds : List GwyDeviceData,
      (insertAndPublish cfg io d s).trace =
        s.trace ++ (insertCall cfg io d).map Effect.whiteList
          ++ ds.map Effect.gwSetup ∧
      ∀ c ∈ ds, ∃ e ∈ (insertAndPublish cfg io d s).xdevlist,
        e.key = c.key ∧ e.gwyip.strip = c.gwyip := by
  have hcall : insertCall cfg io
      (if keepsWhiteList cfg d then d.strip .devicetype else d) =
      insertCall cfg io d := by
    split
    · exact insertCall_devicetype cfg io d
    · rfl
  rw [insertAndPublish, ← hcall]
  exact sendDiscoveryResult_trace cfg io _

/-- **What an update does to the outside.** -/
theorem updateGwylist_trace (d : GwyDeviceData) :
    ∃ ds : List GwyDeviceData,
      (updateGwylist cfg io d s).trace =
        s.trace ++ updateEffects cfg io s d ++ ds.map Effect.gwSetup ∧
      ∀ c ∈ ds, ∃ e ∈ (updateGwylist cfg io d s).xdevlist,
        e.key = c.key ∧ e.gwyip.strip = c.gwyip := by
  have hfind := listFindSno_find (some d.serialNum) s.xdevlist
  have hself := listFindCustom_find_self (·.strip .serialNum)
    (hasSno (some d.serialNum)) s.xdevlist
  rw [← listFindSno] at hself
  rw [updateGwylist, updateEffects]
  cases hf : listFindSno (some d.serialNum) s.xdevlist with
  | mk ds found =>
      rw [hf] at hfind hself
      cases found with
      | some stored =>
          obtain ⟨c, hc, rfl⟩ := Option.map_eq_some_iff.mp hfind.symm
          -- The second search finds the same record, its address stripped.
          have hagain : (modifyFound (hasSno (some d.serialNum))
              (·.strip .gwyip) ds).find? (hasSno (some d.serialNum)) =
              some ((c.strip .serialNum).strip .gwyip) := by
            rw [modifyFound_find (fun e he => by rwa [hasSno_strip]), hself]
            rfl
          have hreplaced : replaced s d = some c := hc
          have hins : asInserted s d = d.strip .gwyip := by
            rw [asInserted, hreplaced]
            rfl
          dsimp only
          obtain ⟨gs, htrace, hip⟩ := insertAndPublish_trace cfg io
            (deleteGwyitem cfg io (some d.serialNum)
              { s with
                xdevlist := modifyFound (hasSno (some d.serialNum))
                  (·.strip .gwyip) ds
                trace := s.trace ++ clearRoute cfg (c.strip .serialNum)
                  ((d.strip .serialNum).strip .gwyip) }).1
            ((d.strip .serialNum).strip .gwyip)
          refine ⟨gs, htrace.trans ?_, hip⟩
          rw [deleteGwyitem_trace, hagain, hreplaced, hins]
          have hclear : clearRoute cfg (c.strip .serialNum)
              ((d.strip .serialNum).strip .gwyip) = clearRoute cfg c d := by
            simp [clearRoute, GwyDeviceData.strip]
          rw [hclear]
          simp only [List.append_assoc]
          rfl
      | none =>
          have hnone : replaced s d = none :=
            Option.map_eq_none_iff.mp hfind.symm
          have hins : asInserted s d = d := by
            rw [asInserted, hnone]
            rfl
          rw [hnone, hins]
          have hcall : insertCall cfg io
              (if ds = [] then d else d.strip .serialNum) =
              insertCall cfg io d := by
            split <;> rfl
          obtain ⟨gs, htrace, hip⟩ := insertAndPublish_trace cfg io
            { s with xdevlist := ds }
            (if ds = [] then d else d.strip .serialNum)
          refine ⟨gs, htrace.trans ?_, hip⟩
          rw [hcall]
          rfl

end Update

end Xupnp.Discovery
