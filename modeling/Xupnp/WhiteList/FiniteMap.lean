import Xupnp.WhiteList.Flat

/-!
# The white list as a finite map

What the callers take the white list for is a map from addresses to MACs:
`mapStep` says what a call means there. A run stays a representation of its
map exactly as long as no address is inserted into a slot another address
holds, no inserted MAC is longer than its field, and only present addresses
outside entry 3 are deleted (`represents_run_iff`).
-/

namespace Xupnp.WhiteList

open Xupnp.Library

/-- The map has `mac` for `ip`, as far as the MAC field can tell. -/
def Held (m : ℤ → Option CStr) (ip : ℤ) (mac : CStr) : Prop :=
  m ip = some (mac.takeBytes macAddressSize)

instance (m : ℤ → Option CStr) (ip : ℤ) (mac : CStr) :
    Decidable (Held m ip mac) := inferInstanceAs (Decidable (_ = _))

/-- What a call does to the map from addresses to MACs. Inserting what is held
is refused, with `DP_WLIST_ERROR`. -/
def mapStep (m : ℤ → Option CStr) : DpOp → ℤ → Option CStr
  | .insert ip mac _ =>
      if Held m ip mac then m else Function.update m ip (some mac)
  | .delete ip _ _ => Function.update m ip none

/-- `dpnode_lookup` finds the addresses of the map, each with its MAC, and no
others. -/
structure Represents (w : Wlist) (m : ℤ → Option CStr) : Prop where
  finds : ∀ ip mac, m ip = some mac → Finds w ip mac
  misses : ∀ ip, m ip = none → Misses w ip

/-- The address a call is about. -/
def DpOp.ipaddr : DpOp → ℤ
  | .insert ip _ _ => ip
  | .delete ip _ _ => ip

/-- `stat`, which a lookup may leave unwritten, does not start as
`DP_COLLISION`. -/
def DpOp.StatOther : DpOp → Prop
  | .insert _ _ l => l.stat ≠ .collision
  | .delete _ _ _ => True

/-- The call keeps the white list a representation of the map `m`. -/
def SafeOp (m : ℤ → Option CStr) : DpOp → Prop
  | .insert ip mac _ => Held m ip mac ∨
      (mac.bytes.length ≤ macAddressSize ∧
        ∀ ip', m ip' ≠ none → dpHashindex ip' = dpHashindex ip → ip' = ip)
  | .delete ip _ _ => m ip ≠ none ∧ dpHashindex ip ≠ DpStat.wlistError.code

/-- The calls neither delete `ip` nor insert it with another MAC. -/
def Undisturbed (ip : ℤ) (mac : CStr) (ops : List DpOp) : Prop :=
  ∀ op ∈ ops, op.ipaddr = ip → ∃ l, op = .insert ip mac l

/-- Whenever `dpnode_insert` says `DP_SUCCESS`, the address is found with its
MAC from then on, for as long as no call disturbs it. -/
def SuccessFound (mem : ℕ → DpNode) (ops : List DpOp) : Prop :=
  ∀ pre mid post ip mac l, ops = pre ++ .insert ip mac l :: mid ++ post →
    ∀ w w', runFrom dpStep (startWlist mem) pre = some w →
      dpnodeInsert w ip mac l.stat l.pindex = .ok (.success, w') →
      Undisturbed ip mac mid →
      ∃ u, runFrom dpStep (startWlist mem) (pre ++ .insert ip mac l :: mid) =
          some u ∧ Finds u ip mac

/-- Calls that do not disturb an address leave the map as it is there. -/
theorem foldl_mapStep_undisturbed {m : ℤ → Option CStr} {ip : ℤ} {mac : CStr}
    {ops : List DpOp} (h : Undisturbed ip mac ops)
    (hm : m ip = some mac) : ops.foldl mapStep m ip = some mac := by
  induction ops generalizing m with
  | nil => exact hm
  | cons op ops ih =>
      rw [List.foldl_cons]
      apply ih fun o ho => h o (List.mem_cons_of_mem op ho)
      by_cases hip : op.ipaddr = ip
      · obtain ⟨l, rfl⟩ := h op List.mem_cons_self hip
        rw [mapStep]
        split
        · exact hm
        · exact Function.update_self _ _ _
      · have hne : ip ≠ op.ipaddr := fun heq => hip heq.symm
        cases op with
        | insert ip' mac' l =>
            rw [mapStep]
            split
            · exact hm
            · exact (Function.update_of_ne hne _ _).trans hm
        | delete ip' mac' l => exact (Function.update_of_ne hne _ _).trans hm

section Step

variable {w : Wlist} {m : ℤ → Option CStr} {ip : ℤ} {mac : CStr} {l : Locals}

/-- An address the map lacks is one whose slot does not hold it. -/
theorem Represents.eq_none (h : Represents w m) (hm : Misses w ip) :
    m ip = none := by
  cases hmac : m ip with
  | none => rfl
  | some mac => exact absurd (h.finds ip mac hmac) (hm.not_finds mac)

/-- The map holds the address of an occupied slot. -/
theorem Represents.ne_none (h : Represents w m) (hf : Flat w)
    (hocc : w.next (dpHashindex ip) ≠ -1)
    (haddr : w.addr (dpHashindex ip) = ip) : m ip ≠ none := by
  intro hnone
  rcases hf.misses_iff.mp (h.misses ip hnone) with hfree | hne
  · exact hocc hfree
  · exact hne haddr

/-- Filling the slot of `ip`, where no other address is, with `ip` and the
characters of `mac`. -/
theorem represents_put_iff (hf : Flat w) (h : Represents w m)
    (hslot : w.next (dpHashindex ip) = -1 ∨ w.addr (dpHashindex ip) = ip)
    {n : DpNode} (hip : n.ipaddr = ip) (hofb : n.ofbIndex = 0)
    (hmac : n.macaddr.chars = mac.bytes.take macAddressSize) :
    Represents (w.put (dpHashindex ip) n)
        (Function.update m ip (some mac)) ↔
      mac.bytes.length ≤ macAddressSize := by
  have hf' : Flat (w.put (dpHashindex ip) n) :=
    hf.put (Or.inr ⟨hofb, by rw [hip]⟩)
  have hself : Finds (w.put (dpHashindex ip) n) ip mac ↔
      mac.bytes.length ≤ macAddressSize := by
    rw [hf'.finds_iff, put_next_self, put_addr_self, put_macOf_self, hofb, hip,
      hmac, List.take_eq_self_iff]
    simp
  -- What is found of the other addresses does not change.
  have hother : ∀ ip' ≠ ip, (∀ mac', Finds w ip' mac' →
      Finds (w.put (dpHashindex ip) n) ip' mac') ∧
      (Misses w ip' → Misses (w.put (dpHashindex ip) n) ip') := by
    intro ip' hne
    by_cases hsame : dpHashindex ip' = dpHashindex ip
    · have hmiss : Misses w ip' := hf.misses_iff.mpr (by
        rw [hsame]
        exact hslot.imp_right fun heq h' => hne (h'.symm.trans heq))
      refine ⟨fun mac' hfind => absurd hfind (hmiss.not_finds mac'), fun _ => ?_⟩
      rw [hf'.misses_iff, hsame, put_addr_self, hip]
      exact Or.inr hne.symm
    · constructor
      · intro mac' hfind
        rw [hf.finds_iff] at hfind
        rw [hf'.finds_iff, put_next_ne hsame, put_addr_ne hsame,
          put_macOf_ne hsame]
        exact hfind
      · intro hmiss
        rw [hf.misses_iff] at hmiss
        rw [hf'.misses_iff, put_next_ne hsame, put_addr_ne hsame]
        exact hmiss
  constructor
  · exact fun hrep =>
      hself.mp (hrep.finds ip mac (Function.update_self _ _ _))
  · intro hlen
    refine ⟨fun ip' mac' hm => ?_, fun ip' hm => ?_⟩
    · by_cases hne : ip' = ip
      · subst hne
        rw [Function.update_self] at hm
        obtain rfl := Option.some.inj hm
        exact hself.mpr hlen
      · rw [Function.update_of_ne hne] at hm
        exact (hother ip' hne).1 mac' (h.finds ip' mac' hm)
    · have hne : ip' ≠ ip := by
        rintro rfl
        rw [Function.update_self] at hm
        cases hm
      rw [Function.update_of_ne hne] at hm
      exact (hother ip' hne).2 (h.misses ip' hm)

/-- Freeing the slot of a present address. -/
theorem represents_free (hf : Flat w) (h : Represents w m)
    (haddr : w.addr (dpHashindex ip) = ip) {n : DpNode}
    (hofb : n.ofbIndex = -1) :
    Represents (w.put (dpHashindex ip) n) (Function.update m ip none) := by
  have hf' : Flat (w.put (dpHashindex ip) n) := hf.put (Or.inl hofb)
  refine ⟨fun ip' mac' hm => ?_, fun ip' hm => ?_⟩
  · have hne : ip' ≠ ip := by
      rintro rfl
      rw [Function.update_self] at hm
      cases hm
    rw [Function.update_of_ne hne] at hm
    have hfind := hf.finds_iff.mp (h.finds ip' mac' hm)
    have hdiff : dpHashindex ip' ≠ dpHashindex ip := by
      intro hsame
      rw [hsame] at hfind
      exact hne (hfind.2.1.symm.trans haddr)
    rw [hf'.finds_iff, put_next_ne hdiff, put_addr_ne hdiff,
      put_macOf_ne hdiff]
    exact hfind
  · by_cases hsame : dpHashindex ip' = dpHashindex ip
    · rw [hf'.misses_iff, hsame, put_next_self]
      exact Or.inl hofb
    · have hne : ip' ≠ ip := fun h => hsame (by rw [h])
      rw [Function.update_of_ne hne] at hm
      have hmiss := hf.misses_iff.mp (h.misses ip' hm)
      rw [hf'.misses_iff, put_next_ne hsame, put_addr_ne hsame]
      exact hmiss

/-- Inserting what is held keeps the representation. -/
theorem represents_insert_held (hf : Flat w) (h : Represents w m)
    (hheld : Held m ip mac) :
    ∃ w', dpStep w (.insert ip mac l) = some w' ∧ Represents w' m := by
  have hfind := hf.finds_iff.mp (h.finds ip _ hheld)
  obtain ⟨n, hip, hofb, hmac, hstep⟩ :=
    hf.dpStep_insert_same mac l hfind.1 hfind.2.1
  refine ⟨_, hstep, ?_⟩
  have hm : Function.update m ip (some (mac.takeBytes macAddressSize)) = m := by
    rw [← hheld, Function.update_eq_self]
  rw [← hm]
  refine (represents_put_iff hf h (Or.inr hfind.2.1) hip hofb ?_).mpr
    (List.length_take_le _ _)
  rw [hmac, CStr.takeBytes_bytes, List.take_take, Nat.min_self]

/-- **One insert** keeps the representation exactly when it is safe. -/
theorem represents_insert_iff (hf : Flat w) (h : Represents w m)
    (hstat : l.stat ≠ .collision) :
    SafeOp m (.insert ip mac l) ↔
      ∃ w', dpStep w (.insert ip mac l) = some w' ∧
        Represents w' (mapStep m (.insert ip mac l)) := by
  by_cases hheld : Held m ip mac
  · rw [mapStep, if_pos hheld]
    exact iff_of_true (Or.inl hheld) (represents_insert_held hf h hheld)
  rw [mapStep, if_neg hheld, SafeOp, or_iff_right hheld]
  by_cases hslot : w.next (dpHashindex ip) = -1 ∨ w.addr (dpHashindex ip) = ip
  · -- No other address is in the way.
    have halone : ∀ ip', m ip' ≠ none →
        dpHashindex ip' = dpHashindex ip → ip' = ip := by
      intro ip' hm hsame
      by_contra hne
      refine hm (h.eq_none (hf.misses_iff.mpr ?_))
      rw [hsame]
      exact hslot.imp_right fun heq h' => hne (h'.symm.trans heq)
    obtain ⟨n, hip, hofb, hmac, hstep⟩ : ∃ n : DpNode, n.ipaddr = ip ∧
        n.ofbIndex = 0 ∧ n.macaddr.chars = mac.bytes.take macAddressSize ∧
        dpStep w (.insert ip mac l) = some (w.put (dpHashindex ip) n) := by
      by_cases hfree : w.next (dpHashindex ip) = -1
      · refine ⟨⟨ip, CStr.strncpy macAddressSize mac.bytes, 0⟩, rfl, rfl,
          CStr.chars_strncpy _ _, ?_⟩
        rw [hf.dpStep_insert_free hfree, if_neg hstat]
      · exact hf.dpStep_insert_same _ _ hfree (hslot.resolve_left hfree)
    rw [hstep]
    simp only [Option.some.injEq, exists_eq_left']
    rw [represents_put_iff hf h hslot hip hofb hmac]
    exact ⟨And.left, fun hlen => ⟨hlen, halone⟩⟩
  · -- Another address is in the slot, and nothing is written.
    rw [not_or] at hslot
    obtain ⟨hocc, haddr⟩ := hslot
    have hnext : w.next (dpHashindex ip) = 0 :=
      (hf.next _ (dpHashindex_lt_maxBufSize ip)).resolve_left hocc
    have hhome := hf.home _ (dpHashindex_lt ip) hnext
    apply iff_of_false
    · rintro ⟨-, halone⟩
      refine haddr (halone _ (h.ne_none hf ?_ ?_) hhome)
      · rw [hhome]
        exact hocc
      · rw [hhome]
    · rintro ⟨w', hstep, hrep⟩
      rw [hf.dpStep_insert_other hocc haddr] at hstep
      obtain rfl := Option.some.inj hstep
      have hfind := hrep.finds ip mac (Function.update_self _ _ _)
      exact haddr (hf.finds_iff.mp hfind).2.1

/-- **One delete** keeps the representation exactly when it is safe. -/
theorem represents_delete_iff (hf : Flat w) (h : Represents w m) :
    SafeOp m (.delete ip mac l) ↔
      ∃ w', dpStep w (.delete ip mac l) = some w' ∧
        Represents w' (mapStep m (.delete ip mac l)) := by
  by_cases hmiss : Misses w ip
  · -- The call reads outside the table.
    refine iff_of_false (fun hsafe => hsafe.1 (h.eq_none hmiss)) ?_
    rintro ⟨w', hstep, -⟩
    rw [dpStep_delete_absent hmiss] at hstep
    cases hstep
  · have hpres := hmiss
    rw [hf.misses_iff, not_or, not_not] at hpres
    rw [hf.dpStep_delete_present _ _ hpres.1 hpres.2]
    simp only [Option.some.injEq, exists_eq_left', mapStep, SafeOp]
    by_cases h3 : dpHashindex ip = DpStat.wlistError.code
    · rw [if_pos h3]
      apply iff_of_false (fun hsafe => hsafe.2 h3)
      intro hrep
      exact hmiss (hrep.misses ip (Function.update_self _ _ _))
    · rw [if_neg h3]
      exact iff_of_true ⟨h.ne_none hf hpres.1 hpres.2, h3⟩
        (represents_free hf h hpres.2 rfl)

end Step

theorem represents_start (mem : ℕ → DpNode) :
    Represents (startWlist mem) (fun _ => none) where
  finds _ _ h := by cases h
  misses ip _ := misses_free rfl
    (startWlist_next mem (dpHashindex_lt_maxBufSize ip))

/-- Every prefix of a run leads to a flat list, so `Flat` may be added to what
is represented. -/
theorem refinesAlong_flat_iff {mem : ℕ → DpNode} {ops : List DpOp} :
    RefinesAlong dpStep mapStep (fun w m => Flat w ∧ Represents w m)
        (startWlist mem) (fun _ => none) ops ↔
      RefinesAlong dpStep mapStep Represents (startWlist mem) (fun _ => none)
        ops := by
  constructor
  · intro h pre hpre
    obtain ⟨w, hrun, -, hrep⟩ := h pre hpre
    exact ⟨w, hrun, hrep⟩
  · intro h pre hpre
    obtain ⟨w, hrun, hrep⟩ := h pre hpre
    exact ⟨w, hrun, flat_run hrun, hrep⟩

/-- An insert that says `DP_SUCCESS` is one of something the map does not
hold. -/
theorem not_held_of_success {w w' : Wlist} {m : ℤ → Option CStr} {ip : ℤ}
    {mac : CStr} {stat : DpStat} {pindex : ℕ} (hf : Flat w)
    (h : Represents w m)
    (hins : dpnodeInsert w ip mac stat pindex = .ok (.success, w')) :
    ¬ Held m ip mac := by
  intro hheld
  have hfind := hf.finds_iff.mp (h.finds ip _ hheld)
  obtain ⟨n, -, -, -, hins'⟩ :=
    hf.dpnodeInsert_same mac stat pindex hfind.1 hfind.2.1
  rw [if_pos (by rw [hfind.2.2, CStr.takeBytes_bytes]), hins] at hins'
  cases (Prod.mk.inj (Except.ok.inj hins')).1

/-- Along a run that represents its map, an address whose insert said
`DP_SUCCESS` is found. -/
theorem successFound_of_refinesAlong {mem : ℕ → DpNode} {ops : List DpOp}
    (h : RefinesAlong dpStep mapStep Represents (startWlist mem)
      (fun _ => none) ops) : SuccessFound mem ops := by
  rintro pre mid post ip mac l rfl w w' hpre hins hmid
  obtain ⟨w₁, hw₁, hrep₁⟩ := h pre ⟨.insert ip mac l :: mid ++ post, by simp⟩
  obtain rfl := Option.some.inj (hpre.symm.trans hw₁)
  have hheld := not_held_of_success (flat_run hpre) hrep₁ hins
  obtain ⟨u, hrun, hrep⟩ := h (pre ++ .insert ip mac l :: mid) ⟨post, rfl⟩
  refine ⟨u, hrun, hrep.finds ip mac ?_⟩
  rw [List.foldl_append, List.foldl_cons]
  apply foldl_mapStep_undisturbed hmid
  rw [mapStep, if_neg hheld]
  exact Function.update_self _ _ _

/-- A sequence of calls keeps the white list a representation of the map it
builds exactly when every call is safe in the map its predecessors have
built. -/
theorem refinesAlong_represents_iff {mem : ℕ → DpNode} {ops : List DpOp}
    (hstat : ∀ op ∈ ops, op.StatOther) :
    RefinesAlong dpStep mapStep Represents (startWlist mem) (fun _ => none)
        ops ↔
      AllSteps (fun m op => some (mapStep m op)) SafeOp (fun _ => none) ops := by
  rw [← refinesAlong_flat_iff]
  refine refinesAlong_iff (E := DpOp.StatOther) ?_
    ⟨flat_startWlist mem, represents_start mem⟩ hstat
  rintro w m op hop ⟨hf, hrep⟩
  have hstep : SafeOp m op ↔
      ∃ w', dpStep w op = some w' ∧ Represents w' (mapStep m op) := by
    cases op with
    | insert ip mac l => exact represents_insert_iff hf hrep hop
    | delete ip mac l => exact represents_delete_iff hf hrep
  rw [hstep]
  constructor
  · rintro ⟨w', hw', hrep'⟩
    exact ⟨w', hw', hf.step hw', hrep'⟩
  · rintro ⟨w', hw', -, hrep'⟩
    exact ⟨w', hw', hrep'⟩

/-- **The white list as a finite map.** A sequence of calls keeps the white
list a representation of the map it builds, after every call, exactly when
every call is safe in the map its predecessors have built; and then what was
inserted with `DP_SUCCESS` is found until a call disturbs it. -/
theorem represents_run_iff (mem : ℕ → DpNode) (ops : List DpOp)
    (hstat : ∀ op ∈ ops, op.StatOther) :
    (RefinesAlong dpStep mapStep Represents (startWlist mem) (fun _ => none)
        ops ↔
      AllSteps (fun m op => some (mapStep m op)) SafeOp (fun _ => none) ops) ∧
    (RefinesAlong dpStep mapStep Represents (startWlist mem) (fun _ => none)
        ops → SuccessFound mem ops) :=
  ⟨refinesAlong_represents_iff hstat, successFound_of_refinesAlong⟩

/-- Shared memory as the kernel hands it out. -/
def zeroMem : ℕ → DpNode := fun _ => ⟨0, CStr.strncpy macAddressSize [], 0⟩

/-- `s_addr` of 10.0.0.2 on a little-endian machine. -/
def addr1 : ℤ := 0x0200000A

/-- `s_addr` of 10.0.193.253, whose index is that of `addr1`. -/
def addr2 : ℤ := 0xFDC1000A

def mac1 : CStr := .lit "84:e0:58:57:73:59"

def mac2 : CStr := .lit "84:e0:58:57:73:5a"

/-- A white list that takes in an address and lets it go again. -/
theorem represents_run_insert_delete :
    RefinesAlong dpStep mapStep Represents (startWlist zeroMem) (fun _ => none)
      [.insert addr1 mac1 ⟨.success, 0⟩,
        .delete addr1 (.lit " ") ⟨.success, 0⟩] ∧
    SuccessFound zeroMem [.insert addr1 mac1 ⟨.success, 0⟩,
      .delete addr1 (.lit " ") ⟨.success, 0⟩] := by
  have hiff := represents_run_iff zeroMem [.insert addr1 mac1 ⟨.success, 0⟩,
    .delete addr1 (.lit " ") ⟨.success, 0⟩] (by simp [DpOp.StatOther])
  have hrun := hiff.1.mpr (by
    refine ⟨Or.inr ⟨by decide, fun _ h => absurd rfl h⟩, ?_⟩
    rintro m hm
    obtain rfl := Option.some.inj hm
    exact ⟨⟨by decide, by decide⟩, fun _ _ => trivial⟩)
  exact ⟨hrun, hiff.2 hrun⟩

/-- The second of two addresses with one index is inserted with `DP_SUCCESS`
and not found. -/
theorem dpnodeInsert_success_not_found :
    ∃ w, runFrom dpStep (startWlist zeroMem)
        [.insert addr1 mac1 ⟨.success, 0⟩] = some w ∧
      dpnodeInsert w addr2 mac2 .success 0 = .ok (.success, w) ∧
      ¬ Finds w addr2 mac2 := by
  have hrun : ∃ w, runFrom dpStep (startWlist zeroMem)
      [.insert addr1 mac1 ⟨.success, 0⟩] = some w ∧
      w.next (dpHashindex addr2) = 0 ∧ w.addr (dpHashindex addr2) = addr1 :=
    ⟨_, rfl, by decide, by decide⟩
  obtain ⟨w, hw, hnext, haddr⟩ := hrun
  have hf := flat_run hw
  have hne : w.addr (dpHashindex addr2) ≠ addr2 := by
    rw [haddr]
    decide
  refine ⟨w, hw, hf.dpnodeInsert_other (by omega) hne, ?_⟩
  exact (hf.misses_iff.mpr (Or.inr hne)).not_finds mac2

end Xupnp.WhiteList
