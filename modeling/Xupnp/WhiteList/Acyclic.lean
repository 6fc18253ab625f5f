import Xupnp.WhiteList.Delete
import Xupnp.WhiteList.Uninitialised

/-!
# The walk of `dpnode_lookup` ends

The links of a well-formed white list are those of its chains, as long as an
overflow entry that links on is on a chain (`Settled`), and chains are no
cycles. An insert does one of four things to the list (`Inserted`), and so does
a delete (`Deleted`), and each of them keeps it settled. So from a free table
and a FIFO of overflow indices no calls get to a list that `dpnode_lookup`
walks for ever (`dpnodeLookup_terminates`).
-/

namespace Xupnp.WhiteList

open Xupnp.Library

/-! ## What an insert does -/

/-- What an insert leaves: the main entry taken, nothing changed, a MAC
replaced, or a node linked to the chain. -/
inductive Inserted (w : Wlist) (ip : ℤ) (mac : CStr) : Wlist → Prop
  | taken (hfree : w.next (dpHashindex ip) = -1) :
      Inserted w ip mac (w.put (dpHashindex ip)
        ⟨ip, CStr.strncpy macAddressSize mac.bytes, 0⟩)
  | same : Inserted w ip mac w
  | renamed (k : ℕ) :
      Inserted w ip mac (w.put k { w.slots k with
        macaddr := CStr.strncpy macAddressSize mac.bytes })
  | linked {l : List ℕ} {v : ℕ} {fifo : DpFifo}
      (hc : Chain w (dpHashindex ip) l)
      (hdq : w.fifo.dequeue = some (v, fifo)) :
      Inserted w ip mac
        (w.linked ip mac (l.dropLast.getLastD (dpHashindex ip)) v fifo)

section Insert

variable {w : Wlist} {ip : ℤ} {stat : DpStat}

/-- An address that is found keeps its entry, and gets the MAC if it has
another. -/
theorem dpnodeInsert_found {l : List ℕ} {k : ℕ} (mac : CStr) (stat : DpStat)
    (pindex : ℕ) (ha : w.attached = true) (hc : Chain w (dpHashindex ip) l)
    (hk : (dpHashindex ip :: l).find? (fun j => w.addr j = ip) = some k) :
    ∃ st w', dpnodeInsert w ip mac stat pindex = .ok (st, w') ∧
      Inserted w ip mac w' := by
  obtain ⟨st, ln, hlook⟩ := dpnodeLookup_hit mac stat pindex ha hc hk
  have hlt : k < maxBufSize := by
    rcases List.mem_cons.mp (List.mem_of_find?_eq_some hk) with rfl | hmem
    · exact dpHashindex_lt_maxBufSize ip
    · exact (hc.overflow k hmem).2
  have hne : (k : ℤ) ≠ -1 := by omega
  by_cases hst : st = .invalidMac
  · refine ⟨.success, _, ?_, .renamed k⟩
    simp [dpnodeInsert, ha, hlook, bind, Except.bind, hne, hst, hlt, Wlist.put]
  · refine ⟨.wlistError, w, ?_, .same⟩
    simp [dpnodeInsert, ha, hlook, bind, Except.bind, hne, hst]

/-- **What an insert does**, where `stat` does not start as `DP_COLLISION` if
it stays unwritten. -/
theorem dpnodeInsert_cases (hwf : WellFormed w) (mac : CStr) (pindex : ℕ)
    (hstat : w.next (dpHashindex ip) = -1 → stat ≠ .collision) :
    ∃ st w', dpnodeInsert w ip mac stat pindex = .ok (st, w') ∧
      Inserted w ip mac w' := by
  rcases hwf.main _ (dpHashindex_lt ip) with hfree | ⟨l, hc⟩
  · exact ⟨_, _, dpnodeInsert_free hwf.attached hfree (hstat hfree),
      .taken hfree⟩
  · cases hk : (dpHashindex ip :: l).find? fun j => w.addr j = ip with
    | some k => exact dpnodeInsert_found mac stat pindex hwf.attached hc hk
    | none =>
        have hmiss : ∀ j ∈ dpHashindex ip :: l, w.addr j ≠ ip := fun j hj => by
          simpa using List.find?_eq_none.mp hk j hj
        cases hdq : w.fifo.dequeue with
        | some e =>
            obtain ⟨v, fifo⟩ := e
            have hv := hwf.fifoOverflow v (DpFifo.mem_of_dequeue hdq)
            exact ⟨_, _, dpnodeInsert_collision hwf.attached hc hmiss hdq hv,
              .linked hc hdq⟩
        | none =>
            refine ⟨_, _, dpnodeInsert_full hwf.attached hc hmiss ?_, .same⟩
            by_contra hne
            obtain ⟨v, f, hsome⟩ := DpFifo.exists_dequeue hne
            rw [hdq] at hsome
            cases hsome

end Insert

/-! ## Settled lists -/

/-- Well formed, and an overflow entry that links on is on a chain. -/
structure Settled (w : Wlist) : Prop extends WellFormed w where
  onChain : ∀ j, IsOverflow j → 0 < w.next j → ∃ m, OnChain w m j

/-- No entry of the table is reached from itself over `ofb_index` links. -/
def Acyclic (w : Wlist) : Prop :=
  ∀ i < maxBufSize,
    ¬ Relation.TransGen (Links.Follows (fun j : ℕ => (j : ℤ)) 0 w.next) i i

theorem Settled.acyclic {w : Wlist} (hs : Settled w) : Acyclic w := by
  intro i hi hcycle
  have hptr : Function.Injective fun j : ℕ => (j : ℤ) := fun _ _ =>
    Int.ofNat_inj.mp
  obtain ⟨j, hstep, -⟩ := Relation.TransGen.head'_iff.mp hcycle
  have hnext : w.next i = (j : ℤ) := hstep.1
  by_cases hmain : i < maxEntries
  · rcases hs.main i hmain with hfree | ⟨l, hc⟩
    · omega
    · exact hc.links.not_cycle hptr hcycle
  · have hpos : 0 < w.next i := by
      have := hstep.2
      omega
    obtain ⟨m, -, l, hc, hmem⟩ := hs.onChain i ⟨not_lt.mp hmain, hi⟩ hpos
    obtain ⟨l₁, l₂, rfl⟩ := List.append_of_mem hmem
    exact hc.links.suffix.not_cycle hptr hcycle

/-- In a well-formed list the lookup comes to an end, for every address. -/
theorem WellFormed.lookup_ok {w : Wlist} (hwf : WellFormed w) (ip : ℤ)
    (mac : CStr) (stat : DpStat) (ln : ℕ) :
    ∃ r, dpnodeLookup w ip mac stat ln = .ok r := by
  rcases hwf.main _ (dpHashindex_lt ip) with hfree | ⟨l, hc⟩
  · exact ⟨_, dpnodeLookup_free mac stat ln hwf.attached hfree⟩
  · cases hk : (dpHashindex ip :: l).find? fun j => w.addr j = ip with
    | some k =>
        obtain ⟨st, ln', hlook⟩ := dpnodeLookup_hit mac stat ln hwf.attached hc hk
        exact ⟨_, hlook⟩
    | none =>
        refine ⟨_, dpnodeLookup_miss mac stat ln hwf.attached hc fun j hj => ?_⟩
        simpa using List.find?_eq_none.mp hk j hj

/-! ## Each call keeps the list settled -/

section Kept

variable {w w' : Wlist} {h k : ℕ} {n : DpNode}

/-- Writing what is no link. -/
theorem Settled.of_next (hs : Settled w) (ha : w'.attached = w.attached)
    (hfifo : w'.fifo = w.fifo) (hnext : ∀ i, w'.next i = w.next i) :
    Settled w' := by
  have hchain : ∀ {m l}, Chain w' m l ↔ Chain w m l := by
    intro m l
    constructor
    · intro hc
      exact ⟨hc.links.congr fun i _ => (hnext i).symm, hc.nodup, hc.overflow⟩
    · intro hc
      exact ⟨hc.links.congr fun i _ => hnext i, hc.nodup, hc.overflow⟩
  refine ⟨⟨ha.trans hs.attached, ?_, ?_, ?_, ?_, ?_⟩, ?_⟩
  · intro m hm
    rw [hnext]
    exact (hs.main m hm).imp_right fun ⟨l, hc⟩ => ⟨l, hchain.mpr hc⟩
  · intro m hm m' hm' hne l l' hc hc'
    exact hs.disjoint m hm m' hm' hne l l' (hchain.mp hc) (hchain.mp hc')
  · rw [hfifo]
    exact hs.fifoNodup
  · rw [hfifo]
    exact hs.fifoOverflow
  · rw [hfifo]
    exact fun j hj m hm l hc => hs.fifoFree j hj m hm l (hchain.mp hc)
  · intro j hj hpos
    rw [hnext] at hpos
    obtain ⟨m, hm, l, hc, hmem⟩ := hs.onChain j hj hpos
    exact ⟨m, hm, l, hchain.mpr hc, hmem⟩

/-- Taking a free main entry. -/
theorem Settled.put_free (hs : Settled w) (hh : h < maxEntries)
    (hfree : w.next h = -1) (hn : n.ofbIndex = 0) : Settled (w.put h n) := by
  have hslots : ∀ {m l}, m ≠ h → (∀ j ∈ l, IsOverflow j) →
      ∀ j ∈ m :: l, (w.put h n).slots j = w.slots j := by
    intro m l hmh hover j hj
    have hjh : j ≠ h := by
      rcases List.mem_cons.mp hj with rfl | hj
      · exact hmh
      · exact (hover j hj).ne_main hh
    simp [Wlist.put, hjh]
  have hself : Chain (w.put h n) h [] :=
    ⟨put_next_self.trans hn, List.nodup_nil, by simp⟩
  -- The chains of the other entries are as before.
  have hother : ∀ {m l}, m ≠ h → Chain w m l → Chain (w.put h n) m l :=
    fun hmh hc => chain_of_slots hc (hslots hmh hc.overflow)
  have hcases : ∀ {m l}, Chain (w.put h n) m l →
      (m = h ∧ l = []) ∨ (m ≠ h ∧ Chain w m l) := by
    intro m l hc
    by_cases hmh : m = h
    · subst hmh
      exact .inl ⟨rfl, hc.unique hself⟩
    · exact .inr ⟨hmh, chain_of_slots hc fun j hj =>
        (hslots hmh hc.overflow j hj).symm⟩
  refine ⟨⟨hs.attached, ?_, ?_, hs.fifoNodup, hs.fifoOverflow, ?_⟩, ?_⟩
  · intro m hm
    by_cases hmh : m = h
    · subst hmh
      exact .inr ⟨[], hself⟩
    · rw [put_next_ne hmh]
      exact (hs.main m hm).imp_right (Exists.imp fun _ => hother hmh)
  · intro m hm m' hm' hne l l' hc hc'
    rcases hcases hc with ⟨-, rfl⟩ | ⟨-, hc⟩
    · exact List.disjoint_nil_left l'
    · rcases hcases hc' with ⟨-, rfl⟩ | ⟨-, hc'⟩
      · exact List.disjoint_nil_right l
      · exact hs.disjoint m hm m' hm' hne l l' hc hc'
  · intro j hj m hm l hc
    rcases hcases hc with ⟨-, rfl⟩ | ⟨-, hc⟩
    · exact List.not_mem_nil
    · exact hs.fifoFree j hj m hm l hc
  · intro j hj hpos
    rw [put_next_ne (hj.ne_main hh)] at hpos
    obtain ⟨m, hm, l, hc, hmem⟩ := hs.onChain j hj hpos
    have hmh : m ≠ h := by
      rintro rfl
      exact hc.next_ne hfree
    exact ⟨m, hm, l, hother hmh hc, hmem⟩

/-- The last node of a chain links no further. -/
theorem Chain.next_last {l : List ℕ} (hc : Chain w h (l ++ [k])) :
    w.next k = 0 := hc.links.suffix

/-- Linking a free node to a chain. The node that falls off was the last one,
and links no further. -/
theorem Settled.linked (hs : Settled w) {ip : ℤ} {mac : CStr} {v : ℕ}
    {l : List ℕ} {fifo : DpFifo} (hc : Chain w h l) (hh : h < maxEntries)
    (hdq : w.fifo.dequeue = some (v, fifo)) :
    Settled (w.linked ip mac (l.dropLast.getLastD h) v fifo) := by
  have hmem := DpFifo.mem_of_dequeue hdq
  have hv := hs.fifoOverflow v hmem
  have hnew : Chain (w.linked ip mac (l.dropLast.getLastD h) v fifo) h
      (l.dropLast ++ [v]) :=
    chain_linked hc hh hv (hs.fifoFree v hmem h hh l hc)
  refine ⟨wellFormed_linked hs.toWellFormed hc hh hdq, fun j hj hpos => ?_⟩
  by_cases hjv : j = v
  · exact ⟨h, hh, _, hnew, by simp [hjv]⟩
  by_cases hjp : j = l.dropLast.getLastD h
  · refine ⟨h, hh, _, hnew, List.mem_append_left _ ?_⟩
    rcases List.mem_cons.mp (Links.getLastD_mem (i := h) l.dropLast) with
      hp | hp
    · exact absurd (hjp.trans hp) (hj.ne_main hh)
    · exact hjp ▸ hp
  rw [linked_next_other hjp hjv] at hpos
  obtain ⟨m, hm, l', hc', hjl⟩ := hs.onChain j hj hpos
  by_cases hmh : m = h
  · subst hmh
    rw [hc'.unique hc] at hjl
    refine ⟨m, hm, _, hnew, List.mem_append_left _ ?_⟩
    cases l using List.reverseRecOn with
    | nil => cases hjl
    | append_singleton l k =>
        rw [List.dropLast_concat]
        rcases List.mem_append.mp hjl with hjl | hjk
        · exact hjl
        · rw [List.mem_singleton.mp hjk, hc.next_last] at hpos
          exact absurd hpos (lt_irrefl 0)
  · exact ⟨m, hm, l', chain_linked_other hc hh hv hm hmh hc'
      (hs.disjoint h hh m hm (Ne.symm hmh) l l' hc hc')
      (hs.fifoFree v hmem m hm l' hc'), hjl⟩

/-- A slot that loses entries, where what links on belongs to another slot or
is still on the chain. -/
theorem Shrinks.settled (hsh : Shrinks w w' h) (hs : Settled w)
    (hh : h < maxEntries)
    (hown : ∀ j, IsOverflow j → 0 < w'.next j →
      (0 < w.next j ∧ ¬ OnChain w h j) ∨ OnChain w' h j) : Settled w' := by
  refine ⟨hsh.wellFormed hs.toWellFormed hh, fun j hj hpos => ?_⟩
  rcases hown j hj hpos with ⟨hpos, hoff⟩ | hon
  · obtain ⟨m, hon⟩ := hs.onChain j hj hpos
    have hmh : m ≠ h := by
      rintro rfl
      exact hoff hon
    exact ⟨m, hsh.onChain_foreign hmh hon⟩
  · exact ⟨h, hon⟩

theorem Settled.put_lone (hs : Settled w) (hh : h < maxEntries)
    (hc : Chain w h []) (hn : n.ofbIndex = -1) : Settled (w.put h n) := by
  refine (shrinks_put hs.toWellFormed hh hn).settled hs hh fun j hj hpos => ?_
  rw [put_next_ne (hj.ne_main hh)] at hpos
  refine .inl ⟨hpos, ?_⟩
  rintro ⟨-, l, hc', hmem⟩
  rw [hc'.unique hc] at hmem
  cases hmem

theorem Settled.unlinked (hs : Settled w) (hh : h < maxEntries)
    {l₂ : List ℕ} (l₁ : List ℕ) (hc : Chain w h (l₁ ++ k :: l₂))
    (hn : n.ofbIndex = w.next k) :
    Settled (w.unlinked (l₁.getLastD h) k n) := by
  have hnew := chain_unlinked l₁ hc hh hn
  refine (shrinks_unlinked l₁ hs.toWellFormed hh hc hn).settled hs hh
    fun j hj hpos => ?_
  by_cases hjk : j = k
  · have hfree : (w.unlinked (l₁.getLastD h) k n).next k = -1 := by
      simp [Wlist.next, Wlist.unlinked, Wlist.enqueue]
    rw [hjk, hfree] at hpos
    omega
  by_cases hon : j ∈ l₁ ++ k :: l₂
  · refine .inr ⟨hh, _, hnew, ?_⟩
    simpa [hjk] using hon
  · have hjp : j ≠ l₁.getLastD h := by
      rintro rfl
      rcases getLastD_mem_chain h k l₁ l₂ with hp | hp
      · exact hj.ne_main hh hp
      · exact hon hp
    have hnext : (w.unlinked (l₁.getLastD h) k n).next j = w.next j :=
      congrArg DpNode.ofbIndex (unlinked_slots_other hjp hjk)
    rw [hnext] at hpos
    refine .inl ⟨hpos, ?_⟩
    rintro ⟨-, l, hc', hmem⟩
    rw [hc'.unique hc] at hmem
    exact hon hmem

theorem Inserted.settled {ip : ℤ} {mac : CStr} (hi : Inserted w ip mac w')
    (hs : Settled w) : Settled w' := by
  have hh := dpHashindex_lt ip
  cases hi with
  | taken hfree => exact hs.put_free hh hfree rfl
  | same => exact hs
  | renamed k =>
      refine hs.of_next rfl rfl fun i => ?_
      by_cases hik : i = k
      · rw [hik, put_next_self]
        rfl
      · exact put_next_ne hik
  | linked hc hdq => exact hs.linked hc hh hdq

theorem Deleted.settled {ip : ℤ} (hd : Deleted w ip w') (hs : Settled w) :
    Settled w' := by
  have hh := dpHashindex_lt ip
  cases hd with
  | three h3 hip => exact hs
  | lone hc hip => exact hs.put_lone hh hc rfl
  | head hc hip => exact hs.unlinked hh [] hc rfl
  | chain hc hmiss hip => exact hs.unlinked hh _ hc rfl

end Kept

/-! ## Runs -/

/-- Nothing is stored, and the FIFO holds distinct overflow indices. -/
structure AllFree (w : Wlist) : Prop where
  attached : w.attached = true
  free : ∀ i < maxBufSize, w.next i = -1
  fifoNodup : w.fifo.contents.Nodup
  fifoOverflow : ∀ j ∈ w.fifo.contents, IsOverflow j

theorem AllFree.settled {w : Wlist} (hf : AllFree w) : Settled w := by
  have hnone : ∀ m < maxEntries, ∀ l, ¬ Chain w m l := fun m hm l hc =>
    hc.next_ne (hf.free m (hm.trans (by decide)))
  refine ⟨⟨hf.attached, ?_, ?_, hf.fifoNodup, hf.fifoOverflow, ?_⟩, ?_⟩
  · exact fun m hm => .inl (hf.free m (hm.trans (by decide)))
  · exact fun m hm _ _ _ l _ hc => absurd hc (hnone m hm l)
  · exact fun j _ m hm l hc => absurd hc (hnone m hm l)
  · intro j hj hpos
    rw [hf.free j hj.2] at hpos
    omega

/-- An insert whose `stat` is not read as `DP_COLLISION` where the lookup
leaves it unwritten, and a delete of an address that is found. -/
def Admitted (w : Wlist) : DpOp → Prop
  | .insert ip _ l => w.next (dpHashindex ip) = -1 → l.stat ≠ .collision
  | .delete ip _ _ => Present w ip

/-- Every admitted call returns, and keeps the list settled. -/
theorem dpStep_settled (w : Wlist) (op : DpOp) (hs : Settled w)
    (hop : Admitted w op) : ∃ w', dpStep w op = some w' ∧ Settled w' := by
  cases op with
  | insert ip mac l =>
      obtain ⟨st, w', hins, hw'⟩ :=
        dpnodeInsert_cases hs.toWellFormed mac l.pindex hop
      refine ⟨w', ?_, hw'.settled hs⟩
      simp [dpStep, hins, Except.map, Except.toOption]
  | delete ip mac l =>
      obtain ⟨w', hdel, hw'⟩ :=
        dpnodeDelete_cases hs.toWellFormed hop mac l.stat l.pindex
      refine ⟨w', ?_, hw'.settled hs⟩
      simp [dpStep, hdel, Except.toOption]

/-- **The walk ends.** From a free table no admitted calls get stuck, and in
the list they lead to no links form a cycle and every lookup returns. -/
theorem dpnodeLookup_terminates {w : Wlist} (hfree : AllFree w)
    {ops : List DpOp} (hok : AllSteps dpStep Admitted w ops) :
    ∃ w', runFrom dpStep w ops = some w' ∧ Acyclic w' ∧
      ∀ ip mac stat ln, ∃ r, dpnodeLookup w' ip mac stat ln = .ok r := by
  obtain ⟨w', hrun, hs⟩ :=
    runFrom_progress dpStep_settled hfree.settled hok
  exact ⟨w', hrun, hs.acyclic, hs.toWellFormed.lookup_ok⟩

/-- Nothing stored, and all overflow indices in the FIFO. -/
def freeTable : Wlist where
  attached := true
  fifo := fullFifo
  slots := fun _ => ⟨0, CStr.strncpy macAddressSize [], -1⟩

theorem allFree_freeTable : AllFree freeTable where
  attached := rfl
  free _ _ := rfl
  fifoNodup := wellFormed_single.fifoNodup
  fifoOverflow := wellFormed_single.fifoOverflow

/-- Two addresses of one slot, and the second one deleted. -/
theorem dpnodeLookup_terminates_collision :
    ∃ w', runFrom dpStep freeTable [.insert addr1 mac1 ⟨.success, 0⟩,
        .insert addr2 mac2 ⟨.collision, 7⟩, .delete addr2 mac2 ⟨.success, 0⟩] =
      some w' ∧ Acyclic w' ∧
      ∀ ip mac stat ln, ∃ r, dpnodeLookup w' ip mac stat ln = .ok r := by
  have hfirst : dpStep freeTable (.insert addr1 mac1 ⟨.success, 0⟩) =
      some single := by
    have hput : freeTable.put (dpHashindex addr1)
        ⟨addr1, CStr.strncpy macAddressSize mac1.bytes, 0⟩ = single := by
      rw [Wlist.put, single, freeTable]
      congr 1
      funext i
      rw [Function.update_apply]
    simp [dpStep, dpnodeInsert_free (w := freeTable) rfl rfl, hput, Except.map,
      Except.toOption]
  have hsecond : dpStep single (.insert addr2 mac2 ⟨.collision, 7⟩) =
      some crowded := by
    have hc : Chain single (dpHashindex addr2) [] := chain_single
    have hmiss := (misses_iff rfl hc).mp
      (misses_single (by decide) (by decide))
    have hins : dpnodeInsert single addr2 mac2 .collision 7 =
        .ok (.success, crowded) :=
      dpnodeInsert_collision rfl hc hmiss single_dequeue (by decide)
    simp [dpStep, hins, Except.map, Except.toOption]
  refine dpnodeLookup_terminates allFree_freeTable ?_
  rw [allSteps_cons_some hfirst, allSteps_cons_some hsecond]
  refine ⟨fun _ => by decide, fun hfree => ?_, present_crowded,
    fun _ _ => trivial⟩
  exact absurd hfree (by decide)

end Xupnp.WhiteList
