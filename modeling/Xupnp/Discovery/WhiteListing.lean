import Xupnp.WhiteList.FiniteMap
import Xupnp.WhiteList.Presence
import Xupnp.Discovery.Steps
import Xupnp.Discovery.Trace

/-!
# Devices on the white list

An update puts an address of its device on the white list, chosen by the
device type; a delete takes one off, chosen by `isgateway` first and then the
device type. `whiteList_run` says under which conditions the white list holds
exactly the addresses the listed devices were put on it with.
-/

namespace Xupnp.Discovery

open Xupnp.Library Xupnp.WhiteList

/-! ## The calls of one step -/

section Calls

variable {cfg : Settings} {io : Io} {s : XState}

/-- The white list calls among some effects. -/
def callsOf (es : List Effect) : List DpOp :=
  es.filterMap fun
    | .whiteList op => some op
    | _ => none

theorem callsOf_append (es fs : List Effect) :
    callsOf (es ++ fs) = callsOf es ++ callsOf fs := List.filterMap_append

theorem callsOf_whiteList (ops : List DpOp) :
    callsOf (ops.map Effect.whiteList) = ops := by
  simp [callsOf, List.filterMap_map]

theorem callsOf_gwSetup (ds : List GwyDeviceData) :
    callsOf (ds.map Effect.gwSetup) = [] := by
  simp [callsOf, List.filterMap_map]

theorem callsOf_clearRoute (c d : GwyDeviceData) :
    callsOf (clearRoute cfg c d) = [] := by
  unfold clearRoute
  split <;> rfl

theorem calls_publish (io : Io) (s : XState) :
    callsOf (sendDiscoveryResult cfg io s).trace = callsOf s.trace := by
  obtain ⟨ds, htrace, -⟩ := sendDiscoveryResult_trace cfg io s
  rw [htrace, callsOf_append, callsOf_gwSetup, List.append_nil]

theorem calls_delete (sno : Option CStr) :
    callsOf (deleteGwyitem cfg io sno s).1.trace = callsOf s.trace ++
      ((s.xdevlist.find? (hasSno sno)).elim [] fun c =>
        deleteCall cfg io c) := by
  rw [deleteGwyitem_trace, callsOf_append]
  cases s.xdevlist.find? (hasSno sno) with
  | none => rfl
  | some c => exact congrArg _ (callsOf_whiteList _)

theorem calls_update (d : GwyDeviceData) :
    callsOf (updateGwylist cfg io d s).trace = callsOf s.trace ++
      ((replaced s d).elim [] fun c => deleteCall cfg io (c.strip .gwyip)) ++
      insertCall cfg io (asInserted s d) := by
  obtain ⟨ds, htrace, -⟩ :=
    updateGwylist_trace cfg io s d
  rw [htrace, updateEffects]
  simp only [callsOf_append, callsOf_gwSetup, callsOf_whiteList,
    List.append_nil, List.append_assoc]
  congr 2
  cases replaced s d with
  | none => rfl
  | some c =>
      simp only [callsOf_append, callsOf_clearRoute, callsOf_whiteList,
        List.nil_append, Option.elim_some]

end Calls

/-! ## The addresses of a table of devices -/

/-- The addresses the devices of `L` were put on the white list with. -/
def Addresses (L : CStr → Prop) (g : CStr → Option ℕ) (ip : ℤ) : Prop :=
  ∃ k, L k ∧ ∃ a, g k = some a ∧ ip = a

/-- No two of the devices share a slot. -/
def OwnSlots (L : CStr → Prop) (g : CStr → Option ℕ) : Prop :=
  ∀ k k' a b, L k → L k' → g k = some a → g k' = some b →
    dpHashindex a = dpHashindex b → k = k'

section Addresses

variable {w : Wlist} {L : CStr → Prop} {g : CStr → Option ℕ} {k : CStr}
  {l : Locals}

theorem contains_congr {D D' : ℤ → Prop} (h : ∀ ip, D ip ↔ D' ip)
    (hw : Contains w D) : Contains w D' :=
  ⟨hw.flat, fun ip => (hw.present ip).trans (h ip)⟩

/-- Taking out a device with the address it was put on with. -/
theorem contains_remove (hw : Contains w (Addresses L g)) (hslots : OwnSlots L g)
    (hk : L k) (h3 : ∀ a, g k = some a → dpHashindex a ≠
      DpStat.wlistError.code) :
    ∃ w', runFrom dpStep w
        ((g k).map fun a : ℕ => DpOp.delete a (.lit " ") l).toList = some w' ∧
      Contains w' (Addresses (fun k' => L k' ∧ k' ≠ k) g) := by
  cases ha : g k with
  | none =>
      refine ⟨w, rfl, contains_congr (fun ip => ?_) hw⟩
      constructor
      · rintro ⟨k', hk', a, hg, rfl⟩
        refine ⟨k', ⟨hk', ?_⟩, a, hg, rfl⟩
        rintro rfl
        rw [ha] at hg
        cases hg
      · rintro ⟨k', ⟨hk', -⟩, h⟩
        exact ⟨k', hk', h⟩
  | some a =>
      obtain ⟨w', hstep, hw'⟩ := hw.delete (.lit " ") l
        ⟨k, hk, a, ha, rfl⟩ (h3 a ha)
      refine ⟨w', ?_, contains_congr (fun ip => ?_) hw'⟩
      · rw [Option.map_some, Option.toList_some, runFrom_cons, hstep]
        rfl
      · constructor
        · rintro ⟨⟨k', hk', b, hb, rfl⟩, hne⟩
          refine ⟨k', ⟨hk', ?_⟩, b, hb, rfl⟩
          rintro rfl
          rw [ha] at hb
          exact hne (by rw [Option.some.inj hb])
        · rintro ⟨k', ⟨hk', hne⟩, b, hb, rfl⟩
          refine ⟨⟨k', hk', b, hb, rfl⟩, fun heq => hne ?_⟩
          exact hslots k' k b a hk' hk hb ha (by rw [heq])

/-- Putting in a device whose slot is its own. -/
theorem contains_add (hw : Contains w (Addresses L g)) (hk : ¬ L k)
    {o : Option ℕ} (hstat : ∀ a, o = some a → l.stat ≠ .collision)
    (halone : ∀ a, o = some a → ∀ k', L k' → ∀ b, g k' = some b →
      dpHashindex b ≠ dpHashindex a) (mac : CStr) :
    ∃ w', runFrom dpStep w (o.map fun a : ℕ => DpOp.insert a mac l).toList =
        some w' ∧
      Contains w' (Addresses (fun k' => k' = k ∨ L k')
        (Function.update g k o)) := by
  have hg : ∀ k', L k' → Function.update g k o k' = g k' := by
    intro k' hk'
    refine Function.update_of_ne ?_ _ _
    rintro rfl
    exact hk hk'
  have hiff : ∀ ip, Addresses (fun k' => k' = k ∨ L k')
      (Function.update g k o) ip ↔
        (∃ a, o = some a ∧ ip = a) ∨ Addresses L g ip := by
    intro ip
    constructor
    · rintro ⟨k', rfl | hk', a, ha, rfl⟩
      · rw [Function.update_self] at ha
        exact Or.inl ⟨a, ha, rfl⟩
      · rw [hg k' hk'] at ha
        exact Or.inr ⟨k', hk', a, ha, rfl⟩
    · rintro (⟨a, rfl, rfl⟩ | ⟨k', hk', a, ha, rfl⟩)
      · exact ⟨k, Or.inl rfl, a, Function.update_self _ _ _, rfl⟩
      · exact ⟨k', Or.inr hk', a, (hg k' hk').trans ha, rfl⟩
  cases o with
  | none =>
      refine ⟨w, rfl, contains_congr (fun ip => ?_) hw⟩
      rw [hiff]
      simp
  | some a =>
      obtain ⟨w', hstep, hw'⟩ := hw.insert a mac
        (hstat a rfl) (fun ip' hD hsame => by
          obtain ⟨k', hk', b, hb, rfl⟩ := hD
          exact absurd hsame (halone a rfl k' hk' b hb))
      refine ⟨w', ?_, contains_congr (fun ip => ?_) hw'⟩
      · rw [Option.map_some, Option.toList_some, runFrom_cons, hstep]
        rfl
      · rw [hiff]
        simp

/-- A device whose slot is its own leaves the others theirs. -/
theorem ownSlots_add (h : OwnSlots L g) {o : Option ℕ}
    (halone : ∀ a, o = some a → ∀ k', L k' → k' ≠ k → ∀ b, g k' = some b →
      dpHashindex b ≠ dpHashindex a) :
    OwnSlots (fun k' => k' = k ∨ L k') (Function.update g k o) := by
  have hcases : ∀ k' a, (k' = k ∨ L k') → Function.update g k o k' = some a →
      (k' = k ∧ o = some a) ∨ (k' ≠ k ∧ L k' ∧ g k' = some a) := by
    intro k' a hk' ha
    by_cases hk : k' = k
    · subst hk
      rw [Function.update_self] at ha
      exact Or.inl ⟨rfl, ha⟩
    · rw [Function.update_of_ne hk] at ha
      exact Or.inr ⟨hk, hk'.resolve_left hk, ha⟩
  intro k₁ k₂ a b hk₁ hk₂ ha hb hsame
  rcases hcases k₁ a hk₁ ha with ⟨rfl, ho⟩ | ⟨hne₁, hl₁, hg₁⟩
  · rcases hcases k₂ b hk₂ hb with ⟨rfl, -⟩ | ⟨hne₂, hl₂, hg₂⟩
    · rfl
    · exact absurd hsame.symm (halone a ho k₂ hl₂ hne₂ b hg₂)
  · rcases hcases k₂ b hk₂ hb with ⟨rfl, ho⟩ | ⟨-, hl₂, hg₂⟩
    · exact absurd hsame (halone b ho k₁ hl₁ hne₁ a hg₁)
    · exact h k₁ k₂ a b hl₁ hl₂ hg₁ hg₂ hsame

end Addresses

/-! ## Runs -/

/-- Remember the address each device was put on the white list with. -/
def noteListedAddr (cfg : Settings) (s : XState) (op : DevOp) (_ : XState)
    (g : CStr → Option ℕ) : CStr → Option ℕ :=
  match op with
  | .update _ d => Function.update g d.key (listedAddr cfg (asInserted s d))
  | _ => g

/-- The system of the three calls, with that memory. -/
def listingStep (cfg : Settings) :
    XState × (CStr → Option ℕ) → DevOp → Option (XState × (CStr → Option ℕ)) :=
  withHistory (fun s op => some (devStep cfg s op)) (noteListedAddr cfg)

/-- A delete would take off what the device was put on with, and find it. -/
def UnlistedAsListed (cfg : Settings) (c : GwyDeviceData) (o : Option ℕ) :
    Prop :=
  unlistedAddr cfg c = o ∧
    ∀ a, o = some a → dpHashindex a ≠ DpStat.wlistError.code

/-- The call keeps the white list in step: a device that goes or is replaced is
taken off as it was put on, and a device that is put on has a slot of its own
and is not kept off by what `stat` happens to hold. -/
def KeepsInStep (cfg : Settings) (x : XState × (CStr → Option ℕ)) :
    DevOp → Prop
  | .update io d =>
      (∀ c, replaced x.1 d = some c →
        UnlistedAsListed cfg (c.strip .gwyip) (x.2 d.key)) ∧
      ∀ a, listedAddr cfg (asInserted x.1 d) = some a →
        io.insertLocals.stat ≠ .collision ∧
        ∀ k, Listed x.1 k → k ≠ d.key → ∀ b, x.2 k = some b →
          dpHashindex b ≠ dpHashindex a
  | .delete _ sno =>
      ∀ c, x.1.xdevlist.find? (hasSno sno) = some c →
        UnlistedAsListed cfg c (x.2 c.key)
  | .publish _ => True

/-- The white list after the calls so far has an entry for an address exactly
if a listed device was put on it with that address. -/
def WhiteListMatches (mem : ℕ → DpNode) (x : XState × (CStr → Option ℕ)) :
    Prop :=
  ∃ w, runFrom dpStep (startWlist mem) (callsOf x.1.trace) = some w ∧
    ∀ ip, Present w ip ↔ Addresses (Listed x.1) x.2 ip

/-- What a run in step keeps. -/
structure InStep (mem : ℕ → DpNode) (x : XState × (CStr → Option ℕ)) :
    Prop where
  sorted : x.1.xdevlist.Pairwise fun a b => a.key < b.key
  slots : OwnSlots (Listed x.1) x.2
  contains : ∃ w, runFrom dpStep (startWlist mem) (callsOf x.1.trace) =
    some w ∧ Contains w (Addresses (Listed x.1) x.2)

section Runs

variable {cfg : Settings} {mem : ℕ → DpNode} {s : XState}
  {g : CStr → Option ℕ}

/-- One delete. -/
theorem InStep.delete (h : InStep mem (s, g)) {io : Io} {sno : Option CStr}
    (hC : KeepsInStep cfg (s, g) (.delete io sno)) :
    InStep mem ((deleteGwyitem cfg io sno s).1, g) := by
  obtain ⟨w, hrun, hw⟩ := h.contains
  have hlisted := fun k =>
    listed_deleteGwyitem cfg io h.sorted sno (k := k)
  refine ⟨?_, fun k k' a b hk hk' => ?_, ?_⟩
  · exact devStep_sorted cfg h.sorted (.delete io sno)
  · exact h.slots k k' a b ((hlisted k).mp hk).1 ((hlisted k').mp hk').1
  rw [calls_delete]
  cases hf : s.xdevlist.find? (hasSno sno) with
  | none =>
      refine ⟨w, by simpa using hrun, contains_congr (fun ip => ?_) hw⟩
      apply exists_congr
      intro k
      apply and_congr_left
      intro _
      refine ⟨fun hk => (hlisted k).mpr ⟨hk, ?_⟩, fun hk => ((hlisted k).mp hk).1⟩
      rintro heq
      obtain ⟨n, rfl, rfl⟩ := Option.map_eq_some_iff.mp heq.symm
      exact not_listed_of_find_none hf hk
  | some c =>
      obtain ⟨hkey, hl⟩ := key_of_hasSno hf
      obtain ⟨hsame, h3⟩ := hC c hf
      obtain ⟨w', hstep, hw'⟩ :=
        contains_remove (l := io.deleteLocals) hw h.slots hl h3
      refine ⟨w', ?_, contains_congr (fun ip => ?_) hw'⟩
      · rw [runFrom_append, hrun, Option.elim_some, deleteCall, hsame]
        exact hstep
      · apply exists_congr
        intro k
        apply and_congr_left
        intro _
        rw [hlisted, hkey]
        simp

/-- Before the new record goes on the white list, the one it replaces has come
off. -/
theorem InStep.replace (h : InStep mem (s, g)) (io : Io) {d : GwyDeviceData}
    {w : Wlist} (hw : Contains w (Addresses (Listed s) g))
    (hC : ∀ c, replaced s d = some c →
      UnlistedAsListed cfg (c.strip .gwyip) (g d.key)) :
    ∃ w', runFrom dpStep w ((replaced s d).elim [] fun c =>
        deleteCall cfg io (c.strip .gwyip)) = some w' ∧
      Contains w' (Addresses (fun k => Listed s k ∧ k ≠ d.key) g) := by
  cases hf : replaced s d with
  | none =>
      refine ⟨w, rfl, contains_congr (fun ip => ?_) hw⟩
      apply exists_congr
      intro k
      apply and_congr_left
      intro _
      refine ⟨fun hk => ⟨hk, ?_⟩, And.left⟩
      rintro rfl
      exact not_listed_of_find_none hf hk
  | some c =>
      obtain ⟨hkey, hl⟩ := key_of_hasSno hf
      obtain ⟨hsame, h3⟩ := hC c hf
      have hck : c.key = d.key := (Option.some.inj hkey).symm
      obtain ⟨w', hstep, hw'⟩ := contains_remove (l := io.deleteLocals) hw
        h.slots (hck ▸ hl) h3
      refine ⟨w', ?_, hw'⟩
      rw [Option.elim_some, deleteCall, hsame]
      exact hstep

/-- One update. -/
theorem InStep.update (h : InStep mem (s, g)) {io : Io} {d : GwyDeviceData}
    (hC : KeepsInStep cfg (s, g) (.update io d)) :
    InStep mem (updateGwylist cfg io d s,
      Function.update g d.key (listedAddr cfg (asInserted s d))) := by
  obtain ⟨w, hrun, hw⟩ := h.contains
  obtain ⟨hunlisted, hown⟩ := hC
  have hlisted := fun k =>
    listed_updateGwylist cfg io h.sorted d (k := k)
  refine ⟨?_, ?_, ?_⟩
  · exact devStep_sorted cfg h.sorted (.update io d)
  · intro k k' a b hk hk'
    exact ownSlots_add h.slots (fun a ha => (hown a ha).2) k k' a b
      ((hlisted k).mp hk) ((hlisted k').mp hk')
  · obtain ⟨w₁, hrun₁, hw₁⟩ := h.replace io hw hunlisted
    obtain ⟨w₂, hrun₂, hw₂⟩ := contains_add (k := d.key)
      (l := io.insertLocals) (o := listedAddr cfg (asInserted s d)) hw₁
      (fun hk => hk.2 rfl) (fun a ha => (hown a ha).1)
      (fun a ha k hk b hb => (hown a ha).2 k hk.1 hk.2 b hb)
      (asInserted s d).bcastmacaddress
    refine ⟨w₂, ?_, contains_congr (fun ip => ?_) hw₂⟩
    · rw [calls_update, runFrom_append, runFrom_append, hrun, Option.bind_some,
        hrun₁, Option.bind_some]
      exact hrun₂
    · apply exists_congr
      intro k
      apply and_congr_left
      intro _
      rw [hlisted]
      by_cases hk : k = d.key <;> simp [hk]

/-- One publication. -/
theorem InStep.publish (h : InStep mem (s, g)) (io : Io) :
    InStep mem (sendDiscoveryResult cfg io s, g) := by
  have hlisted : Listed (sendDiscoveryResult cfg io s) = Listed s :=
    funext fun k => propext (listed_of_normal (sendDiscoveryResult_normal cfg io s))
  obtain ⟨w, hrun, hw⟩ := h.contains
  refine ⟨devStep_sorted cfg h.sorted (.publish io), ?_, w, ?_, ?_⟩
  · rw [hlisted]
    exact h.slots
  · rw [calls_publish]
    exact hrun
  · rw [hlisted]
    exact hw

theorem inStep_step {x y : XState × (CStr → Option ℕ)} {op : DevOp}
    (h : InStep mem x) (hC : KeepsInStep cfg x op)
    (hy : listingStep cfg x op = some y) : InStep mem y := by
  obtain ⟨s, g⟩ := x
  obtain rfl := Option.some.inj hy
  cases op with
  | update io d => exact h.update hC
  | delete io sno => exact h.delete hC
  | publish io => exact h.publish io

/-- **The white list and the device list.** Along a run of updates, deletes
and publications that keep in step, the white list has an entry for an address
exactly if a listed device was put on it with that address. -/
theorem whiteList_run (cfg : Settings) (mem : ℕ → DpNode) (n : Option CStr)
    (ops : List DevOp) (x : XState × (CStr → Option ℕ))
    (hC : AllSteps (listingStep cfg) (KeepsInStep cfg)
      (startState n, fun _ => none) ops)
    (hrun : runFrom (listingStep cfg) (startState n, fun _ => none) ops =
      some x) : WhiteListMatches mem x := by
  have hstart : InStep mem (startState n, fun _ => none) := by
    refine ⟨List.Pairwise.nil, fun k k' a b hk => ?_, startWlist mem, rfl, ?_⟩
    · cases hk
    · refine contains_congr (fun ip => ?_) (contains_start mem)
      apply iff_of_false id
      rintro ⟨k, hk, -⟩
      cases hk
  obtain ⟨w, hw, hcontains⟩ := (runFrom_invariant (I := InStep mem)
    (fun _ _ _ h hC hy => inStep_step h hC hy) hstart hC hrun).contains
  exact ⟨w, hw, hcontains.present⟩

end Runs

/-- A refactored device of this type, with both its addresses. -/
def refactored (devicetype : String) (isgateway : Bool) : GwyDeviceData :=
  { initGwydata with
    serialNum := .lit "A"
    devicetype := .lit devicetype
    isgateway
    gwyip := .lit "10.0.0.2"
    bcastmacaddress := .lit "84:e0:58:57:73:59"
    isDevRefactored := true }

/-- A gateway comes and goes. -/
theorem whiteList_run_gateway :
    ∃ x, runFrom (listingStep broadbandSettings)
        (startState none, fun _ => none)
        [.update quietIo (refactored "XG1" true),
          .delete quietIo (some (.lit "A"))] = some x ∧
      WhiteListMatches zeroMem x := by
  have hrun : ∃ x, runFrom (listingStep broadbandSettings)
      (startState none, fun _ => none)
      [.update quietIo (refactored "XG1" true),
        .delete quietIo (some (.lit "A"))] = some x := ⟨_, rfl⟩
  obtain ⟨x, hx⟩ := hrun
  refine ⟨x, hx, whiteList_run broadbandSettings zeroMem none _ x ?_ hx⟩
  refine ⟨⟨fun c hc => ?_, fun a ha => ⟨by decide, fun k hk => ?_⟩⟩,
    fun y hy => ⟨fun c hc => ?_, fun _ _ => trivial⟩⟩
  · cases hc
  · cases hk
  · have hfirst : (listingStep broadbandSettings (startState none, fun _ => none)
        (.update quietIo (refactored "XG1" true))).map (fun y =>
          (y.1.xdevlist.find? (hasSno (some (.lit "A")))).map fun c =>
            (unlistedAddr broadbandSettings c, y.2 c.key)) =
        some (some (some 0x0200000A, some 0x0200000A)) := by decide
    rw [hy, Option.map_some, Option.some.injEq, hc, Option.map_some,
      Option.some.injEq, Prod.mk.injEq] at hfirst
    refine ⟨hfirst.1.trans hfirst.2.symm, fun a ha => ?_⟩
    rw [hfirst.2] at ha
    obtain rfl := Option.some.inj ha
    decide

/-- A device of a gateway's type that is no gateway stays on the white
list. -/
theorem whiteList_run_fails :
    ∃ x, runFrom (listingStep broadbandSettings)
        (startState none, fun _ => none)
        [.update quietIo (refactored "XG1" false),
          .delete quietIo (some (.lit "A"))] = some x ∧
      ¬ WhiteListMatches zeroMem x := by
  have hrun : (runFrom (listingStep broadbandSettings)
      (startState none, fun _ => none)
      [.update quietIo (refactored "XG1" false),
        .delete quietIo (some (.lit "A"))]).map
        (fun x => (x.1.xdevlist, callsOf x.1.trace)) =
      some ([], [.insert addr1 mac1 ⟨.success, 0⟩]) := by decide
  obtain ⟨x, hx, hfacts⟩ := Option.map_eq_some_iff.mp hrun
  obtain ⟨hempty, hcalls⟩ := Prod.mk.inj hfacts
  refine ⟨x, hx, ?_⟩
  rintro ⟨w, hw, hiff⟩
  rw [hcalls] at hw
  have hstart : ∃ w, runFrom dpStep (startWlist zeroMem)
      [.insert addr1 mac1 ⟨.success, 0⟩] = some w ∧
      w.next (dpHashindex addr1) = 0 ∧ w.addr (dpHashindex addr1) = addr1 :=
    ⟨_, rfl, by decide, by decide⟩
  obtain ⟨w', hw', hnext, haddr⟩ := hstart
  obtain rfl := Option.some.inj (hw.symm.trans hw')
  have hpresent : Present w addr1 :=
    (flat_run hw).present_iff.mpr ⟨by omega, haddr⟩
  obtain ⟨k, hk, -⟩ := (hiff addr1).mp hpresent
  rw [Listed, hempty] at hk
  cases hk

end Xupnp.Discovery
