import Xupnp.Library.Assoc
import Xupnp.WhiteList.Collision
import Xupnp.WhiteList.Conservation
import Xupnp.WhiteList.Presence

/-!
# Deleting an address

A main entry with its chain stands for a list of addresses with their MACs
(`Bucket`), the lookup takes the first that matches, and `dpnode_delete` erases
it (`dpnodeDelete_erases`), except for the head of entry 3, whose index it
takes for `DP_WLIST_ERROR`. `dpnodeDelete_deletes_iff` says when that is what a
caller means by deleting. An address that is not there makes it read entry
65535 (`dpnodeDelete_absent_iff`).
-/

namespace Xupnp.WhiteList

open Xupnp.Library

/-! ## An address that is not there -/

/-- `dpnode_lookup` does not find the address: the list cannot be had, or the
result is -1. -/
def NotFound (w : Wlist) (ip : ℤ) : Prop := w.attached = false ∨ Misses w ip

/-- **Deleting what is not there** changes nothing, and touches no entry
outside the table, exactly if there is no list. -/
theorem dpnodeDelete_absent_iff {w : Wlist} {ip : ℤ} (h : NotFound w ip)
    (mac : CStr) (stat : DpStat) (pindex : ℕ) :
    dpnodeDelete w ip mac stat pindex = .ok w ↔ w.attached = false := by
  rcases h with ha | hmiss
  · refine iff_of_true ?_ ha
    have hidx : toUShort (DpStat.wlistError.code : ℤ) =
        DpStat.wlistError.code := by decide
    simp [dpnodeDelete, dpnodeLookup, ha, bind, Except.bind, hidx]
  · refine iff_of_false ?_ ?_
    · rw [dpnodeDelete_absent hmiss]
      intro h
      cases h
    · intro ha
      obtain ⟨st, ln', hlook⟩ := hmiss mac stat pindex
      rw [dpnodeLookup, if_pos ha] at hlook
      have := congrArg Prod.fst (Except.ok.inj hlook)
      cases this

/-- `dp_wlist` is `(void *) -1`. -/
theorem dpnodeDelete_absent_unattached :
    dpnodeDelete (dpWlistInit .zero none) addr1 mac1 .success 0 =
      .ok (dpWlistInit .zero none) :=
  (dpnodeDelete_absent_iff (Or.inl rfl) mac1 .success 0).mpr rfl

/-- What a run can reach is well formed. -/
theorem Flat.wellFormed {w : Wlist} (hf : Flat w) : WellFormed w where
  attached := hf.attached
  main m hm := by
    by_cases hfree : w.next m = -1
    · exact Or.inl hfree
    · exact Or.inr ⟨[], hf.chain (hm.trans (by decide)) hfree⟩
  disjoint m hm _ _ _ l l' hc _ := by
    rw [hf.chain_eq_nil (hm.trans (by decide)) hc]
    exact List.disjoint_nil_left l'
  fifoNodup := by
    rw [hf.contents]
    exact List.nodup_nil
  fifoOverflow := by simp [hf.contents]
  fifoFree := by simp [hf.contents]

/-- The list as `dp_wlistInit` leaves it. -/
theorem dpnodeDelete_absent_faults :
    WellFormed (startWlist zeroMem) ∧ Misses (startWlist zeroMem) addr1 ∧
      dpnodeDelete (startWlist zeroMem) addr1 mac1 .success 0 =
        .error .outOfBounds := by
  have hmiss : Misses (startWlist zeroMem) addr1 :=
    misses_free rfl (startWlist_next zeroMem (dpHashindex_lt_maxBufSize addr1))
  exact ⟨(flat_startWlist zeroMem).wellFormed, hmiss,
    dpnodeDelete_absent hmiss mac1 .success 0⟩

/-! ## Main entries as association lists -/

/-- The addresses along a chain, each with its MAC. -/
def Wlist.held (w : Wlist) (ns : List ℕ) : List (ℤ × List UInt8) :=
  ns.map fun j => (w.addr j, w.macOf j)

/-- What main entry `m` stands for: nothing if it is free, and otherwise what
it and its chain hold. -/
def Bucket (w : Wlist) (m : ℕ) (es : List (ℤ × List UInt8)) : Prop :=
  (w.next m = -1 ∧ es = []) ∨ ∃ l, Chain w m l ∧ es = w.held (m :: l)

/-- An entry of a bucket is about this address. -/
def isAbout (ip : ℤ) (e : ℤ × List UInt8) : Bool := e.1 = ip

section Bucket

variable {w : Wlist} {ip : ℤ} {mac : CStr} {es : List (ℤ × List UInt8)}

theorem WellFormed.bucket (hwf : WellFormed w) {m : ℕ} (hm : m < maxEntries) :
    ∃ es, Bucket w m es := by
  rcases hwf.main m hm with hfree | ⟨l, hc⟩
  · exact ⟨[], Or.inl ⟨hfree, rfl⟩⟩
  · exact ⟨_, Or.inr ⟨l, hc, rfl⟩⟩

theorem Bucket.misses_iff (ha : w.attached = true)
    (h : Bucket w (dpHashindex ip) es) :
    Misses w ip ↔ ∀ e ∈ es, isAbout ip e = false := by
  rcases h with ⟨hfree, rfl⟩ | ⟨l, hc, rfl⟩
  · exact iff_of_true (misses_free ha hfree) (by simp)
  · rw [WhiteList.misses_iff ha hc]
    simp [Wlist.held, isAbout]

theorem Bucket.finds_iff (ha : w.attached = true)
    (h : Bucket w (dpHashindex ip) es) :
    Finds w ip mac ↔ es.find? (isAbout ip) = some (ip, mac.bytes) := by
  rcases h with ⟨hfree, rfl⟩ | ⟨l, hc, rfl⟩
  · exact iff_of_false ((misses_free ha hfree).not_finds mac) (by simp)
  · rw [WhiteList.finds_iff ha hc, Wlist.held, List.find?_map,
      Option.map_eq_some_iff]
    have hcomp : isAbout ip ∘ (fun j => (w.addr j, w.macOf j)) =
        fun j => decide (w.addr j = ip) := rfl
    rw [hcomp]
    refine exists_congr fun k => and_congr_right fun hk => ?_
    have haddr : w.addr k = ip := by simpa using List.find?_some hk
    rw [Prod.mk.injEq, and_iff_right haddr]

end Bucket

/-! ## Giving an overflow entry back -/

namespace DpFifo

theorem contents_enqueue {f f' : DpFifo} {v : ℕ}
    (h : f.enqueue v = some f') : f'.contents = v :: f.contents := by
  unfold enqueue at h
  split at h
  · next hpos =>
      obtain rfl := Option.some.inj h
      have hle := f.tail_le
      show (List.range' (f.tail - 1) (f.size - (f.tail - 1))).map
          (Function.update f.entries (f.tail - 1) v) = _
      rw [contents, show f.size - (f.tail - 1) = f.size - f.tail + 1 by omega,
        List.range'_succ, List.map_cons, Function.update_self,
        show f.tail - 1 + 1 = f.tail by omega]
      congr 1
      apply List.map_congr_left
      intro i hi
      apply Function.update_of_ne
      have := (List.mem_range'_1.mp hi).1
      omega
  · cases h

theorem enqueue_isSome {f : DpFifo} (h : 0 < f.tail) (v : ℕ) :
    ∃ f', f.enqueue v = some f' := ⟨_, if_pos h⟩

end DpFifo

/-- The FIFO with room gets the index in front. -/
theorem enqueue_contents_of_room {w : Wlist} (h : 0 < w.fifo.tail) (k : ℕ) :
    (w.enqueue k).fifo.contents = k :: w.fifo.contents := by
  obtain ⟨f', hf'⟩ := DpFifo.enqueue_isSome h k
  have hfifo : (w.enqueue k).fifo = f' := by simp [Wlist.enqueue, hf']
  rw [hfifo]
  exact DpFifo.contents_enqueue hf'

/-- The FIFO without room stays as it is. -/
theorem enqueue_contents (w : Wlist) (k : ℕ) :
    (w.enqueue k).fifo.contents = w.fifo.contents ∨
      (w.enqueue k).fifo.contents = k :: w.fifo.contents := by
  by_cases h : 0 < w.fifo.tail
  · exact Or.inr (enqueue_contents_of_room h k)
  · left
    have hnone : w.fifo.enqueue k = none := if_neg h
    simp [Wlist.enqueue, hnone]

/-- `w` with `n` in entry `p`, and entry `k` free and given back to the
FIFO. -/
def Wlist.unlinked (w : Wlist) (p k : ℕ) (n : DpNode) : Wlist :=
  Wlist.enqueue { w with
    slots := Function.update (Function.update w.slots p n) k
      { w.slots k with ofbIndex := -1, ipaddr := 0 } } k

/-- The node for the entry in front that takes over entry `k`. -/
def Wlist.movedUp (w : Wlist) (k : ℕ) : DpNode :=
  ⟨w.addr k, CStr.strncpy macAddressSize (w.macOf k), w.next k⟩

/-- The node for entry `p` that skips entry `k`. -/
def Wlist.skipping (w : Wlist) (p k : ℕ) : DpNode :=
  { w.slots p with ofbIndex := w.next k }

section Unlinked

variable {w : Wlist} {p k j : ℕ} {n : DpNode}

theorem unlinked_slots_pred (h : p ≠ k) : (w.unlinked p k n).slots p = n := by
  simp [Wlist.unlinked, Wlist.enqueue, h]

theorem unlinked_slots_other (hp : j ≠ p) (hk : j ≠ k) :
    (w.unlinked p k n).slots j = w.slots j := by
  simp [Wlist.unlinked, Wlist.enqueue, hp, hk]

theorem unlinked_contents_of_room (h : 0 < w.fifo.tail) :
    (w.unlinked p k n).fifo.contents = k :: w.fifo.contents :=
  enqueue_contents_of_room (w := { w with slots := _ }) h k

theorem unlinked_contents :
    (w.unlinked p k n).fifo.contents = w.fifo.contents ∨
      (w.unlinked p k n).fifo.contents = k :: w.fifo.contents :=
  enqueue_contents { w with slots := _ } k

theorem mem_unlinked_contents (h : j ∈ (w.unlinked p k n).fifo.contents) :
    j = k ∨ j ∈ w.fifo.contents := by
  rcases unlinked_contents (w := w) (p := p) (k := k) (n := n) with he | he
  · rw [he] at h
    exact Or.inr h
  · rw [he] at h
    exact List.mem_cons.mp h

end Unlinked

/-! ## Chains without one of their nodes -/

section Chains

variable {w : Wlist} {h k m : ℕ} {n : DpNode} {l l' l₁ l₂ : List ℕ}

theorem Chain.cons_nodup (hc : Chain w h l) (hh : h < maxEntries) :
    (h :: l).Nodup :=
  List.nodup_cons.mpr ⟨fun hmem => (hc.overflow h hmem).ne_main hh rfl,
    hc.nodup⟩

/-- The node in front of `k` is an earlier one. -/
theorem getLastD_ne_of_nodup (hnd : (h :: (l₁ ++ k :: l₂)).Nodup) :
    l₁.getLastD h ≠ k := by
  have hmem : l₁.getLastD h ∈ h :: l₁ := Links.getLastD_mem l₁
  rw [← List.cons_append, List.nodup_append] at hnd
  exact hnd.2.2 _ hmem k List.mem_cons_self

theorem getLastD_mem_chain (h k : ℕ) (l₁ l₂ : List ℕ) :
    l₁.getLastD h = h ∨ l₁.getLastD h ∈ l₁ ++ k :: l₂ := by
  rcases List.mem_cons.mp (Links.getLastD_mem (i := h) l₁) with hp | hp
  · exact Or.inl hp
  · exact Or.inr (List.mem_append_left _ hp)

/-- The chain of the slot loses the node. -/
theorem chain_unlinked (l₁ : List ℕ) (hc : Chain w h (l₁ ++ k :: l₂))
    (hh : h < maxEntries) (hn : n.ofbIndex = w.next k) :
    Chain (w.unlinked (l₁.getLastD h) k n) h (l₁ ++ l₂) where
  links := by
    have hnd := hc.cons_nodup hh
    refine Links.unlink hc.links hnd ?_ ?_
    · show ((w.unlinked (l₁.getLastD h) k n).slots _).ofbIndex = w.next k
      rw [unlinked_slots_pred (getLastD_ne_of_nodup hnd)]
      exact hn
    · intro j hp hk
      show ((w.unlinked (l₁.getLastD h) k n).slots j).ofbIndex = w.next j
      rw [unlinked_slots_other hp hk]
      rfl
  nodup := hc.nodup.sublist
    (List.Sublist.append_left (List.sublist_cons_self k l₂) l₁)
  overflow j hj := hc.overflow j <|
    (List.Sublist.append_left (List.sublist_cons_self k l₂) l₁).subset hj

/-- Neither of the entries written belongs to another slot. -/
theorem unlinked_slots_foreign (l' : List ℕ) (hc : Chain w h (l₁ ++ k :: l₂))
    (hh : h < maxEntries) (hm : m < maxEntries) (hmh : m ≠ h)
    (hdisj : (l₁ ++ k :: l₂).Disjoint l') (hl' : ∀ j ∈ l', IsOverflow j)
    {j : ℕ} (hj : j ∈ m :: l') :
    (w.unlinked (l₁.getLastD h) k n).slots j = w.slots j := by
  have hkmem : k ∈ l₁ ++ k :: l₂ := by simp
  have hchain : ∀ i ∈ l₁ ++ k :: l₂, j ≠ i := by
    rintro i hi rfl
    rcases List.mem_cons.mp hj with rfl | hj
    · exact (hc.overflow j hi).ne_main hm rfl
    · exact hdisj hi hj
  apply unlinked_slots_other
  · rcases getLastD_mem_chain h k l₁ l₂ with hp | hp
    · rw [hp]
      rintro rfl
      rcases List.mem_cons.mp hj with heq | hj
      · exact hmh heq.symm
      · exact (hl' j hj).ne_main hh rfl
    · exact hchain _ hp
  · exact hchain k hkmem

theorem chain_of_slots {w' : Wlist} (hc : Chain w m l)
    (h : ∀ j ∈ m :: l, w'.slots j = w.slots j) : Chain w' m l where
  links := hc.links.congr fun j hj => by
    show (w'.slots j).ofbIndex = (w.slots j).ofbIndex
    rw [h j hj]
  nodup := hc.nodup
  overflow := hc.overflow

theorem held_of_slots {w' : Wlist} {ns : List ℕ}
    (h : ∀ j ∈ ns, w'.slots j = w.slots j) : w'.held ns = w.held ns := by
  apply List.map_congr_left
  intro j hj
  show ((w'.slots j).ipaddr, (w'.slots j).macaddr.chars) =
    ((w.slots j).ipaddr, (w.slots j).macaddr.chars)
  rw [h j hj]

end Chains

/-! ## A slot that loses entries -/

/-- In `w'` the slot `h` has lost entries, which the FIFO may have got, and
the other slots are as in `w`. -/
structure Shrinks (w w' : Wlist) (h : ℕ) : Prop where
  attached : w'.attached = w.attached
  main : ∀ m < maxEntries, m ≠ h → w'.slots m = w.slots m
  foreign : ∀ m < maxEntries, m ≠ h → ∀ l, Chain w m l →
    ∀ j ∈ l, w'.slots j = w.slots j
  own : w'.next h = -1 ∨ ∃ l l', Chain w h l ∧ Chain w' h l' ∧ l' ⊆ l
  fifoNodup : w'.fifo.contents.Nodup
  fifoNew : ∀ j ∈ w'.fifo.contents, j ∈ w.fifo.contents ∨
    ∃ l, Chain w h l ∧ j ∈ l ∧ ∀ l', Chain w' h l' → j ∉ l'

namespace Shrinks

variable {w w' : Wlist} {h m : ℕ} {l l' : List ℕ}

theorem slots_foreign (hs : Shrinks w w' h) (hm : m < maxEntries)
    (hmh : m ≠ h) (hc : Chain w m l) :
    ∀ j ∈ m :: l, w'.slots j = w.slots j := by
  intro j hj
  rcases List.mem_cons.mp hj with rfl | hj
  · exact hs.main j hm hmh
  · exact hs.foreign m hm hmh l hc j hj

theorem next_main (hs : Shrinks w w' h) (hm : m < maxEntries) (hmh : m ≠ h) :
    w'.next m = w.next m := by
  show (w'.slots m).ofbIndex = (w.slots m).ofbIndex
  rw [hs.main m hm hmh]

theorem chain_foreign (hs : Shrinks w w' h) (hm : m < maxEntries)
    (hmh : m ≠ h) (hc : Chain w m l) : Chain w' m l :=
  chain_of_slots hc (hs.slots_foreign hm hmh hc)

/-- A chain of `w'` is one of `w`, or what is left of the slot's. -/
theorem chain_cases (hs : Shrinks w w' h) (hwf : WellFormed w)
    (hm : m < maxEntries) (hc : Chain w' m l') :
    (m ≠ h ∧ Chain w m l') ∨ (m = h ∧ ∃ l, Chain w h l ∧ l' ⊆ l) := by
  by_cases hmh : m = h
  · subst hmh
    rcases hs.own with hfree | ⟨l, l'', hc₁, hc₂, hsub⟩
    · exact absurd hfree hc.next_ne
    · rw [hc.unique hc₂]
      exact Or.inr ⟨rfl, l, hc₁, hsub⟩
  · refine Or.inl ⟨hmh, ?_⟩
    rcases hwf.main m hm with hfree | ⟨l, hc₁⟩
    · refine absurd ?_ hc.next_ne
      rw [hs.next_main hm hmh]
      exact hfree
    · rw [hc.unique (hs.chain_foreign hm hmh hc₁)]
      exact hc₁

theorem wellFormed (hs : Shrinks w w' h) (hwf : WellFormed w)
    (hh : h < maxEntries) : WellFormed w' where
  attached := hs.attached.trans hwf.attached
  main := by
    intro m hm
    by_cases hmh : m = h
    · subst hmh
      rcases hs.own with hfree | ⟨l, l', -, hc, -⟩
      · exact Or.inl hfree
      · exact Or.inr ⟨l', hc⟩
    · rcases hwf.main m hm with hfree | ⟨l, hc⟩
      · rw [hs.next_main hm hmh]
        exact Or.inl hfree
      · exact Or.inr ⟨l, hs.chain_foreign hm hmh hc⟩
  disjoint := by
    intro m hm m' hm' hne l l' hc hc'
    -- Each chain is within one of `w`, for the same entry.
    have hold : ∀ {i : ℕ} {k : List ℕ}, i < maxEntries → Chain w' i k →
        ∃ k', Chain w i k' ∧ k ⊆ k' := by
      intro i k hi hk
      rcases hs.chain_cases hwf hi hk with ⟨-, hk⟩ | ⟨rfl, k', hk', hsub⟩
      · exact ⟨k, hk, List.Subset.refl k⟩
      · exact ⟨k', hk', hsub⟩
    obtain ⟨k, hk, hsub⟩ := hold hm hc
    obtain ⟨k', hk', hsub'⟩ := hold hm' hc'
    intro j hj hj'
    exact hwf.disjoint m hm m' hm' hne k k' hk hk' (hsub hj) (hsub' hj')
  fifoNodup := hs.fifoNodup
  fifoOverflow := by
    intro j hj
    rcases hs.fifoNew j hj with hj | ⟨l, hc, hj, -⟩
    · exact hwf.fifoOverflow j hj
    · exact hc.overflow j hj
  fifoFree := by
    intro j hj m hm l' hc'
    rcases hs.fifoNew j hj with hjw | ⟨l, hc, hjl, hgone⟩
    · rcases hs.chain_cases hwf hm hc' with ⟨-, hold⟩ | ⟨rfl, l, hc, hsub⟩
      · exact hwf.fifoFree j hjw m hm l' hold
      · exact fun hj' => hwf.fifoFree j hjw m hm l hc (hsub hj')
    · rcases hs.chain_cases hwf hm hc' with ⟨hmh, hold⟩ | ⟨rfl, -⟩
      · exact fun hj' => hwf.disjoint m hm h hh hmh l' l hold hc hj' hjl
      · exact hgone l' hc'

theorem bucket_foreign (hs : Shrinks w w' h) {es : List (ℤ × List UInt8)}
    (hm : m < maxEntries) (hmh : m ≠ h) (hb : Bucket w m es) :
    Bucket w' m es := by
  rcases hb with ⟨hfree, rfl⟩ | ⟨l, hc, rfl⟩
  · left
    rw [hs.next_main hm hmh]
    exact ⟨hfree, rfl⟩
  · right
    refine ⟨l, hs.chain_foreign hm hmh hc, ?_⟩
    rw [held_of_slots (hs.slots_foreign hm hmh hc)]

/-- Entries of the other slots stay on their chains. -/
theorem onChain_foreign (hs : Shrinks w w' h) {j : ℕ} (hmh : m ≠ h)
    (ho : OnChain w m j) : OnChain w' m j := by
  obtain ⟨hm, l, hc, hj⟩ := ho
  exact ⟨hm, l, hs.chain_foreign hm hmh hc, hj⟩

end Shrinks

/-- The head of the slot, which has no other entry, is freed. -/
theorem shrinks_put {w : Wlist} {h : ℕ} (hwf : WellFormed w)
    (hh : h < maxEntries) {n : DpNode} (hn : n.ofbIndex = -1) :
    Shrinks w (w.put h n) h where
  attached := rfl
  main m _ hmh := by simp [Wlist.put, hmh]
  foreign m hm hmh l hc j hj := by
    have hjh : j ≠ h := (hc.overflow j hj).ne_main hh
    simp [Wlist.put, hjh]
  own := Or.inl ((put_next_self).trans hn)
  fifoNodup := hwf.fifoNodup
  fifoNew _ hj := Or.inl hj

/-- The node `k` of the slot's chain is freed. -/
theorem shrinks_unlinked {w : Wlist} {h k : ℕ} {l₂ : List ℕ} {n : DpNode}
    (l₁ : List ℕ) (hwf : WellFormed w) (hh : h < maxEntries)
    (hc : Chain w h (l₁ ++ k :: l₂)) (hn : n.ofbIndex = w.next k) :
    Shrinks w (w.unlinked (l₁.getLastD h) k n) h where
  attached := rfl
  main m hm hmh := unlinked_slots_foreign [] hc hh hm hmh
    (List.disjoint_nil_right _) (by simp) List.mem_cons_self
  foreign m hm hmh l hl j hj := unlinked_slots_foreign l hc hh hm hmh
    (hwf.disjoint h hh m hm (Ne.symm hmh) _ l hc hl) hl.overflow
    (List.mem_cons_of_mem m hj)
  own := by
    refine Or.inr ⟨_, _, hc, chain_unlinked l₁ hc hh hn, ?_⟩
    exact (List.Sublist.append_left (List.sublist_cons_self k l₂) l₁).subset
  fifoNodup := by
    rcases unlinked_contents (w := w) (p := l₁.getLastD h) (k := k) (n := n)
      with he | he
    · rw [he]
      exact hwf.fifoNodup
    · rw [he, List.nodup_cons]
      refine ⟨fun hk => ?_, hwf.fifoNodup⟩
      exact hwf.fifoFree k hk h hh _ hc (by simp)
  fifoNew j hj := by
    rcases mem_unlinked_contents hj with rfl | hj
    · refine Or.inr ⟨_, hc, by simp, ?_⟩
      intro l' hc'
      rw [hc'.unique (chain_unlinked l₁ hc hh hn)]
      have hnd := hc.nodup
      rw [List.nodup_middle] at hnd
      exact (List.nodup_cons.mp hnd).1
    · exact Or.inl hj

/-! ## What a delete does -/

section Erase

variable {w : Wlist} {ip : ℤ} {mac : CStr} {stat : DpStat} {pindex : ℕ}

/-- A main entry without successor is freed. -/
theorem dpnodeDelete_lone (ha : w.attached = true)
    (hc : Chain w (dpHashindex ip) []) (hip : w.addr (dpHashindex ip) = ip)
    (h3 : dpHashindex ip ≠ DpStat.wlistError.code) :
    dpnodeDelete w ip mac stat pindex = .ok (w.put (dpHashindex ip)
      { w.slots (dpHashindex ip) with ofbIndex := -1, ipaddr := 0 }) := by
  have hlook := dpnodeLookup_main mac stat pindex ha hc.next_ne hip
  have hidx : toUShort (dpHashindex ip : ℤ) = dpHashindex ip :=
    toUShort_natCast ((dpHashindex_lt ip).trans (by decide))
  have hend : (w.slots (dpHashindex ip)).ofbIndex = 0 := hc.links
  simp [dpnodeDelete, hlook, bind, Except.bind, hidx, h3, dpHashindex_lt,
    dpHashindex_lt_maxBufSize, hend, Wlist.put]

/-- A main entry with a successor takes that over. -/
theorem dpnodeDelete_head {k : ℕ} {l : List ℕ} (ha : w.attached = true)
    (hc : Chain w (dpHashindex ip) (k :: l))
    (hip : w.addr (dpHashindex ip) = ip)
    (h3 : dpHashindex ip ≠ DpStat.wlistError.code) :
    dpnodeDelete w ip mac stat pindex =
      .ok (w.unlinked (dpHashindex ip) k (w.movedUp k)) := by
  have hlook := dpnodeLookup_main mac stat pindex ha hc.next_ne hip
  have hidx : toUShort (dpHashindex ip : ℤ) = dpHashindex ip :=
    toUShort_natCast ((dpHashindex_lt ip).trans (by decide))
  have hk := hc.head_overflow
  have hnext : (w.slots (dpHashindex ip)).ofbIndex = (k : ℤ) := hc.links.1
  have hkidx : toUShort (k : ℤ) = k :=
    toUShort_natCast (hk.2.trans (by decide))
  have hpos : k ≠ 0 := hk.pos.ne'
  have hne : k ≠ dpHashindex ip := hk.ne_main (dpHashindex_lt ip)
  simp [dpnodeDelete, hlook, bind, Except.bind, hidx, h3, dpHashindex_lt,
    dpHashindex_lt_maxBufSize, hnext, hkidx, hpos, hk.2, hne, Wlist.unlinked,
    Wlist.movedUp, Wlist.addr, Wlist.macOf, Wlist.next]

/-- The head of entry 3 is found, and its index read as an error. -/
theorem dpnodeDelete_head_three (ha : w.attached = true)
    (hocc : w.next (dpHashindex ip) ≠ -1)
    (hip : w.addr (dpHashindex ip) = ip)
    (h3 : dpHashindex ip = DpStat.wlistError.code) :
    dpnodeDelete w ip mac stat pindex = .ok w := by
  have hlook := dpnodeLookup_main mac stat pindex ha hocc hip
  have hidx : toUShort (dpHashindex ip : ℤ) = DpStat.wlistError.code :=
    (toUShort_natCast ((dpHashindex_lt ip).trans (by decide))).trans h3
  simp [dpnodeDelete, hlook, bind, Except.bind, hidx]

/-- An overflow entry is taken off its chain. -/
theorem dpnodeDelete_chain {k : ℕ} {l₁ l₂ : List ℕ} (ha : w.attached = true)
    (hc : Chain w (dpHashindex ip) (l₁ ++ k :: l₂))
    (hhead : w.addr (dpHashindex ip) ≠ ip)
    (hmiss : ∀ j ∈ l₁, w.addr j ≠ ip) (hip : w.addr k = ip) :
    dpnodeDelete w ip mac stat pindex =
      .ok (w.unlinked (l₁.getLastD (dpHashindex ip)) k
        (w.skipping (l₁.getLastD (dpHashindex ip)) k)) := by
  have hlook : dpnodeLookup w ip mac stat pindex = _ :=
    (dpnodeLookup_other mac stat pindex ha hc.next_ne hhead).trans
      (dpnodeSearch_hit (dpHashindex_lt_maxBufSize ip) hc
        (Nat.lt_succ_of_le hc.length_le) hmiss hip)
  have hk : IsOverflow k := hc.overflow k (by simp)
  have hidx : toUShort (k : ℤ) = k := toUShort_natCast (hk.2.trans (by decide))
  have h3 : k ≠ DpStat.wlistError.code := hk.ne_main (by decide)
  have hmain : ¬ k < maxEntries := Nat.not_lt.mpr hk.1
  have hp : l₁.getLastD (dpHashindex ip) < maxBufSize := by
    rcases getLastD_mem_chain (dpHashindex ip) k l₁ l₂ with hp | hp
    · rw [hp]
      exact dpHashindex_lt_maxBufSize ip
    · exact (hc.overflow _ hp).2
  have hne : k ≠ l₁.getLastD (dpHashindex ip) :=
    (getLastD_ne_of_nodup (hc.cons_nodup (dpHashindex_lt ip))).symm
  generalize l₁.getLastD (dpHashindex ip) = p at hlook hp hne ⊢
  simp [dpnodeDelete, hlook, bind, Except.bind, hidx, h3, hmain, hk.2, hp,
    hne, Wlist.unlinked, Wlist.skipping, Wlist.next]

end Erase

section Erase

variable {w : Wlist} {ip : ℤ} {k : ℕ} {l l₁ l₂ : List ℕ}

/-- The head's entry is dropped, as its successor moves up. -/
theorem held_head (hc : Chain w (dpHashindex ip) (k :: l))
    (hip : w.addr (dpHashindex ip) = ip) :
    (w.unlinked (dpHashindex ip) k (w.movedUp k)).held (dpHashindex ip :: l) =
      (w.held (dpHashindex ip :: k :: l)).eraseP (isAbout ip) := by
  have hnd := hc.cons_nodup (dpHashindex_lt ip)
  have hne : dpHashindex ip ≠ k := fun h => by simp [h] at hnd
  have hmac : (CStr.strncpy macAddressSize (w.macOf k)).chars = w.macOf k := by
    have hlen : (w.macOf k).length ≤ macAddressSize :=
      (List.takeWhile_prefix _).length_le.trans
        (le_of_eq (w.slots k).macaddr.2)
    exact (CStr.chars_strncpy macAddressSize (storedMac w k)).trans
      (List.take_of_length_le hlen)
  have hrest : ∀ j ∈ l,
      (w.unlinked (dpHashindex ip) k (w.movedUp k)).slots j = w.slots j := by
    intro j hj
    apply unlinked_slots_other
    · rintro rfl
      exact (List.nodup_cons.mp hnd).1 (List.mem_cons_of_mem k hj)
    · rintro rfl
      exact (List.nodup_cons.mp hnd.of_cons).1 hj
  show (_, _) :: Wlist.held _ l =
    ((w.addr (dpHashindex ip), _) :: w.held (k :: l)).eraseP (isAbout ip)
  rw [List.eraseP_cons_of_pos (by simpa [isAbout] using hip),
    held_of_slots hrest]
  show (_, _) :: _ = (_, _) :: _
  simp only [Wlist.addr, Wlist.macOf] at hmac ⊢
  rw [unlinked_slots_pred hne, Wlist.movedUp, Wlist.macOf, hmac]
  rfl

/-- The chain node's entry is dropped. -/
theorem held_chain (hc : Chain w (dpHashindex ip) (l₁ ++ k :: l₂))
    (hmiss : ∀ j ∈ dpHashindex ip :: l₁, w.addr j ≠ ip)
    (hip : w.addr k = ip) :
    (w.unlinked (l₁.getLastD (dpHashindex ip)) k
      (w.skipping (l₁.getLastD (dpHashindex ip)) k)).held
        (dpHashindex ip :: (l₁ ++ l₂)) =
      (w.held (dpHashindex ip :: (l₁ ++ k :: l₂))).eraseP (isAbout ip) := by
  have hnd := hc.cons_nodup (dpHashindex_lt ip)
  have hpk := getLastD_ne_of_nodup hnd
  rw [← List.cons_append, List.nodup_middle] at hnd
  have hk := (List.nodup_cons.mp hnd).1
  generalize hp : l₁.getLastD (dpHashindex ip) = p at hpk ⊢
  have hsame : ∀ j ∈ dpHashindex ip :: (l₁ ++ l₂),
      ((w.unlinked p k (w.skipping p k)).addr j,
        (w.unlinked p k (w.skipping p k)).macOf j) =
      (w.addr j, w.macOf j) := by
    intro j hj
    simp only [Wlist.addr, Wlist.macOf]
    by_cases hjp : j = p
    · rw [hjp, unlinked_slots_pred hpk]
      rfl
    · rw [unlinked_slots_other hjp]
      rintro rfl
      exact hk hj
  rw [Wlist.held, List.map_congr_left hsame, Wlist.held, List.eraseP_map]
  have hcomp : isAbout ip ∘ (fun j => (w.addr j, w.macOf j)) =
      fun j => decide (w.addr j = ip) := rfl
  rw [hcomp, ← List.cons_append, ← List.cons_append,
    List.eraseP_append_right _ (by simpa using hmiss),
    List.eraseP_cons_of_pos (by simpa using hip)]

/-- The bucket of an occupied slot is what its one chain holds. -/
theorem Chain.bucket_eq {h : ℕ} {es : List (ℤ × List UInt8)}
    (hc : Chain w h l) (hb : Bucket w h es) : es = w.held (h :: l) := by
  rcases hb with ⟨hfree, -⟩ | ⟨l', hc', rfl⟩
  · exact absurd hfree hc.next_ne
  · rw [hc'.unique hc]

/-- `w'` is `w` after a delete: the slot of the address loses the first entry
about it, and an overflow entry that leaves the chain goes to the FIFO if that
has room. -/
structure Erases (w : Wlist) (ip : ℤ) (w' : Wlist) : Prop where
  shrinks : Shrinks w w' (dpHashindex ip)
  bucket : ∀ es, Bucket w (dpHashindex ip) es →
    Bucket w' (dpHashindex ip) (es.eraseP (isAbout ip))
  freed : ∀ j, OnChain w (dpHashindex ip) j →
    ¬ OnChain w' (dpHashindex ip) j → 0 < w.fifo.tail →
      w'.fifo.contents = j :: w.fifo.contents

/-- The lone head is erased. -/
theorem erases_lone (hwf : WellFormed w) (hc : Chain w (dpHashindex ip) [])
    (hip : w.addr (dpHashindex ip) = ip) :
    Erases w ip (w.put (dpHashindex ip)
      { w.slots (dpHashindex ip) with ofbIndex := -1, ipaddr := 0 }) where
  shrinks := shrinks_put hwf (dpHashindex_lt ip) rfl
  bucket es hes := by
    rw [hc.bucket_eq hes]
    left
    refine ⟨put_next_self, ?_⟩
    exact List.eraseP_cons_of_pos (by simpa [isAbout] using hip)
  freed := by
    rintro j ⟨-, l, hc', hj⟩
    rw [hc'.unique hc] at hj
    cases hj

/-- Unlinking a node erases an entry, where what is held says so. -/
theorem erases_unlinked {n : DpNode} (l₁ : List ℕ) (hwf : WellFormed w)
    (hc : Chain w (dpHashindex ip) (l₁ ++ k :: l₂))
    (hn : n.ofbIndex = w.next k)
    (hheld : (w.unlinked (l₁.getLastD (dpHashindex ip)) k n).held
        (dpHashindex ip :: (l₁ ++ l₂)) =
      (w.held (dpHashindex ip :: (l₁ ++ k :: l₂))).eraseP (isAbout ip)) :
    Erases w ip (w.unlinked (l₁.getLastD (dpHashindex ip)) k n) := by
  have hh := dpHashindex_lt ip
  have hc' := chain_unlinked l₁ hc hh hn
  refine ⟨shrinks_unlinked l₁ hwf hh hc hn, ?_, ?_⟩
  · intro es hes
    rw [hc.bucket_eq hes]
    exact Or.inr ⟨_, hc', hheld.symm⟩
  · rintro j ⟨-, l, hl, hj⟩ hgone hroom
    rw [hl.unique hc] at hj
    have hleft : ∀ i ∈ l₁ ++ l₂, j ≠ i := by
      rintro i hi rfl
      exact hgone ⟨hh, _, hc', hi⟩
    rcases List.mem_append.mp hj with hj | hj
    · exact absurd rfl (hleft j (List.mem_append_left l₂ hj))
    rcases List.mem_cons.mp hj with rfl | hj
    · exact unlinked_contents_of_room hroom
    · exact absurd rfl (hleft j (List.mem_append_right l₁ hj))

end Erase

/-- What a delete leaves: the list as it was, where the head of entry 3 was to
go, a main entry freed, its successor moved up, or a node taken off the
chain. -/
inductive Deleted (w : Wlist) (ip : ℤ) : Wlist → Prop
  | three (h3 : dpHashindex ip = DpStat.wlistError.code)
      (hip : w.addr (dpHashindex ip) = ip) : Deleted w ip w
  | lone (hc : Chain w (dpHashindex ip) [])
      (hip : w.addr (dpHashindex ip) = ip) :
      Deleted w ip (w.put (dpHashindex ip)
        { w.slots (dpHashindex ip) with ofbIndex := -1, ipaddr := 0 })
  | head {k : ℕ} {l : List ℕ} (hc : Chain w (dpHashindex ip) (k :: l))
      (hip : w.addr (dpHashindex ip) = ip) :
      Deleted w ip (w.unlinked (dpHashindex ip) k (w.movedUp k))
  | chain {k : ℕ} {l₁ l₂ : List ℕ}
      (hc : Chain w (dpHashindex ip) (l₁ ++ k :: l₂))
      (hmiss : ∀ j ∈ dpHashindex ip :: l₁, w.addr j ≠ ip)
      (hip : w.addr k = ip) :
      Deleted w ip (w.unlinked (l₁.getLastD (dpHashindex ip)) k
        (w.skipping (l₁.getLastD (dpHashindex ip)) k))

/-- **What a delete does** to an address the lookup finds. -/
theorem dpnodeDelete_cases {w : Wlist} {ip : ℤ} (hwf : WellFormed w)
    (hp : Present w ip) (mac : CStr) (stat : DpStat) (pindex : ℕ) :
    ∃ w', dpnodeDelete w ip mac stat pindex = .ok w' ∧ Deleted w ip w' := by
  obtain ⟨mac', hf⟩ := hp
  obtain ⟨l, hc⟩ : ∃ l, Chain w (dpHashindex ip) l := by
    apply (hwf.main _ (dpHashindex_lt ip)).resolve_left
    intro hfree
    exact (misses_free hwf.attached hfree).not_finds mac' hf
  obtain ⟨k, hk, -⟩ := (finds_iff hwf.attached hc).mp hf
  obtain ⟨hik, pre, post, hl, hpre⟩ := List.find?_eq_some_iff_append.mp hk
  have hik : w.addr k = ip := by simpa using hik
  have hpre : ∀ j ∈ pre, w.addr j ≠ ip := fun j hj => by
    simpa using hpre j hj
  cases pre with
  | nil =>
      obtain ⟨rfl, -⟩ := List.cons.inj hl
      by_cases h3 : dpHashindex ip = DpStat.wlistError.code
      · exact ⟨w, dpnodeDelete_head_three hwf.attached hc.next_ne hik h3,
          .three h3 hik⟩
      · cases l with
        | nil => exact ⟨_, dpnodeDelete_lone hwf.attached hc hik h3, .lone hc hik⟩
        | cons t l =>
            exact ⟨_, dpnodeDelete_head hwf.attached hc hik h3, .head hc hik⟩
  | cons m pre =>
      obtain ⟨rfl, rfl⟩ := List.cons.inj hl
      exact ⟨_, dpnodeDelete_chain hwf.attached hc
        (hpre _ List.mem_cons_self)
        (fun j hj => hpre j (List.mem_cons_of_mem _ hj)) hik,
        .chain hc hpre hik⟩

/-- **A delete.** For an address the lookup finds, other than the head of
entry 3, the first entry about it is erased. -/
theorem dpnodeDelete_erases {w : Wlist} {ip : ℤ} (hwf : WellFormed w)
    (hp : Present w ip)
    (h3 : ¬ (dpHashindex ip = DpStat.wlistError.code ∧
      w.addr (dpHashindex ip) = ip)) (mac : CStr) (stat : DpStat)
    (pindex : ℕ) :
    ∃ w', dpnodeDelete w ip mac stat pindex = .ok w' ∧ Erases w ip w' := by
  obtain ⟨w', hdel, hw'⟩ := dpnodeDelete_cases hwf hp mac stat pindex
  refine ⟨w', hdel, ?_⟩
  cases hw' with
  | three hthree hip => exact absurd ⟨hthree, hip⟩ h3
  | lone hc hip => exact erases_lone hwf hc hip
  | head hc hip => exact erases_unlinked [] hwf hc rfl (held_head hc hip)
  | chain hc hmiss hip =>
      exact erases_unlinked _ hwf hc rfl (held_chain hc hmiss hip)

/-! ## Deleting an address that is there -/

/-- What a caller means by deleting `ip`: it is no longer found, every other
address is found with its MAC as before, and an overflow entry that is no
longer on a chain is in the FIFO, if that had room. -/
structure Deletes (w : Wlist) (ip : ℤ) (w' : Wlist) : Prop where
  gone : Misses w' ip
  others : ∀ ip' mac, ip' ≠ ip → Finds w ip' mac → Finds w' ip' mac
  freed : ∀ m j, OnChain w m j → (∀ m', ¬ OnChain w' m' j) →
    0 < w.fifo.tail → w'.fifo.contents = j :: w.fifo.contents

/-- The slot of the address has no two entries about it. -/
def StoredOnce (w : Wlist) (ip : ℤ) : Prop :=
  ∀ es, Bucket w (dpHashindex ip) es → es.countP (isAbout ip) ≤ 1

/-- **Deleting what is there** works exactly if the address is stored once,
and not at the head of entry 3, whose index reads as `DP_WLIST_ERROR`. -/
theorem dpnodeDelete_deletes_iff {w : Wlist} {ip : ℤ} (hwf : WellFormed w)
    (hp : Present w ip) (mac : CStr) (stat : DpStat) (pindex : ℕ) :
    (∃ w', dpnodeDelete w ip mac stat pindex = .ok w' ∧ Deletes w ip w') ↔
      ¬ (dpHashindex ip = DpStat.wlistError.code ∧
        w.addr (dpHashindex ip) = ip) ∧ StoredOnce w ip := by
  have hh := dpHashindex_lt ip
  constructor
  · rintro ⟨w', hdel, hd⟩
    have h3 : ¬ (dpHashindex ip = DpStat.wlistError.code ∧
        w.addr (dpHashindex ip) = ip) := by
      rintro ⟨h3, hip⟩
      have hocc : w.next (dpHashindex ip) ≠ -1 := by
        intro hfree
        obtain ⟨mac', hf⟩ := hp
        exact (misses_free hwf.attached hfree).not_finds mac' hf
      rw [dpnodeDelete_head_three hwf.attached hocc hip h3] at hdel
      obtain rfl := Except.ok.inj hdel
      obtain ⟨mac', hf⟩ := hp
      exact hd.gone.not_finds mac' hf
    refine ⟨h3, fun es hes => ?_⟩
    obtain ⟨w'', hdel', hsh, hb, -⟩ :=
      dpnodeDelete_erases hwf hp h3 mac stat pindex
    obtain rfl := Except.ok.inj (hdel.symm.trans hdel')
    have ha : w'.attached = true := hsh.attached.trans hwf.attached
    exact eraseP_none_iff.mp (((hb es hes).misses_iff ha).mp hd.gone)
  · rintro ⟨h3, honce⟩
    obtain ⟨w', hdel, hsh, hb, hfreed⟩ :=
      dpnodeDelete_erases hwf hp h3 mac stat pindex
    have ha : w'.attached = true := hsh.attached.trans hwf.attached
    refine ⟨w', hdel, ?_, ?_, ?_⟩
    · obtain ⟨es, hes⟩ := hwf.bucket hh
      exact ((hb es hes).misses_iff ha).mpr (eraseP_none_iff.mpr (honce es hes))
    · intro ip' mac' hne hf
      obtain ⟨es, hes⟩ := hwf.bucket (dpHashindex_lt ip')
      have hfind := (hes.finds_iff hwf.attached).mp hf
      by_cases hsame : dpHashindex ip' = dpHashindex ip
      · have hb' := hb es (hsame ▸ hes)
        rw [← hsame] at hb'
        rw [hb'.finds_iff ha, find?_eraseP]
        · exact hfind
        · intro e he
          have he : e.1 = ip := by simpa [isAbout] using he
          simpa [isAbout, he] using hne.symm
      · have hb' := hsh.bucket_foreign (dpHashindex_lt ip') hsame hes
        exact (hb'.finds_iff ha).mpr hfind
    · intro m j hon hoff hroom
      have hm : m = dpHashindex ip := by
        by_contra hmh
        exact hoff m (hsh.onChain_foreign hmh hon)
      exact hfreed j (hm ▸ hon) (hoff _) hroom

theorem present_crowded : Present crowded addr2 := by
  have hc : Chain crowded (dpHashindex addr2) [maxEntries] := chain_crowded
  exact ⟨mac2, (finds_iff rfl hc).mpr ⟨maxEntries, by decide, by decide⟩⟩

/-- The second address on a chain. -/
theorem dpnodeDelete_deletes_crowded :
    ∃ w', dpnodeDelete crowded addr2 mac2 .success 0 = .ok w' ∧
      Deletes crowded addr2 w' := by
  have hc : Chain crowded (dpHashindex addr2) [maxEntries] := chain_crowded
  refine (dpnodeDelete_deletes_iff wellFormed_crowded present_crowded mac2
    .success 0).mpr ⟨by decide, ?_⟩
  rintro es (⟨hfree, -⟩ | ⟨l, hl, rfl⟩)
  · exact absurd hfree hc.next_ne
  · rw [hl.unique hc]
    decide

/-- `s_addr` of 10.0.159.3, whose index is 3. -/
def addr4 : ℤ := 0x039F000A

/-- The list that holds `addr4` alone, as one insert leaves it. -/
def withThree : Wlist :=
  (startWlist zeroMem).put (dpHashindex addr4)
    ⟨addr4, CStr.strncpy macAddressSize mac1.bytes, 0⟩

theorem flat_withThree : Flat withThree :=
  (flat_startWlist zeroMem).put (Or.inr ⟨rfl, rfl⟩)

/-- Deleting the address with index 3 changes nothing. -/
theorem dpnodeDelete_withThree_keeps :
    dpStep (startWlist zeroMem) (.insert addr4 mac1 ⟨.success, 0⟩) =
        some withThree ∧
      WellFormed withThree ∧ Present withThree addr4 ∧
      dpnodeDelete withThree addr4 mac1 .success 0 = .ok withThree ∧
      ¬ Misses withThree addr4 := by
  have hocc : withThree.next (dpHashindex addr4) ≠ -1 := by decide
  have hip : withThree.addr (dpHashindex addr4) = addr4 := by decide
  have hp : Present withThree addr4 :=
    flat_withThree.present_iff.mpr ⟨hocc, hip⟩
  refine ⟨?_, flat_withThree.wellFormed, hp,
    dpnodeDelete_head_three rfl hocc hip (by decide), ?_⟩
  · rw [(flat_startWlist zeroMem).dpStep_insert_free
      (startWlist_next zeroMem (dpHashindex_lt_maxBufSize addr4))]
    rfl
  · intro hmiss
    obtain ⟨mac, hf⟩ := hp
    exact hmiss.not_finds mac hf

end Xupnp.WhiteList
