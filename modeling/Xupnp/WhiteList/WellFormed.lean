import Xupnp.WhiteList.Lookup

/-!
# Well-formed white lists, and inserting into an occupied slot

`WellFormed` is the shape the comments of `dp_wlistInit` describe: every main
entry is free or heads a chain of overflow entries, chains share nothing, and
the FIFO holds overflow indices that are on no chain. Inserting a new address
whose slot is occupied keeps this shape (`wellFormed_linked`), but it links the
new node after `lastnode`, the node before the last, so the last overflow node
falls off the chain.
-/

namespace Xupnp.WhiteList

open Xupnp.Library

structure WellFormed (w : Wlist) : Prop where
  attached : w.attached = true
  main : ∀ m < maxEntries, w.next m = -1 ∨ ∃ l, Chain w m l
  disjoint : ∀ m < maxEntries, ∀ m' < maxEntries, m ≠ m' →
    ∀ l l', Chain w m l → Chain w m' l' → l.Disjoint l'
  fifoNodup : w.fifo.contents.Nodup
  fifoOverflow : ∀ j ∈ w.fifo.contents, IsOverflow j
  fifoFree : ∀ j ∈ w.fifo.contents, ∀ m < maxEntries, ∀ l, Chain w m l → j ∉ l

/-! ## The FIFO as a list -/

namespace DpFifo

theorem contents_dequeue {f f' : DpFifo} {v : ℕ}
    (h : f.dequeue = some (v, f')) : f.contents = v :: f'.contents := by
  unfold dequeue at h
  split at h
  · next hne =>
      obtain ⟨rfl, rfl⟩ := Prod.mk.inj (Option.some.inj h)
      have hlt : f.tail < f.size := Nat.lt_of_le_of_ne f.tail_le hne
      rw [contents, contents, show f.size - f.tail = f.size - (f.tail + 1) + 1
        by omega, List.range'_succ, List.map_cons]
  · cases h

theorem mem_of_dequeue {f f' : DpFifo} {v : ℕ}
    (h : f.dequeue = some (v, f')) : v ∈ f.contents := by
  rw [contents_dequeue h]
  exact List.mem_cons_self

theorem exists_dequeue {f : DpFifo} (h : f.contents ≠ []) :
    ∃ v f', f.dequeue = some (v, f') := by
  have hne : f.tail ≠ f.size := by
    intro heq
    simp [contents, heq] at h
  exact ⟨_, _, dif_pos hne⟩

theorem dequeue_eq_none {f : DpFifo} (h : f.contents = []) :
    f.dequeue = none := by
  have hsz := f.tail_le
  have hle : f.size - f.tail = 0 := by simpa [contents] using h
  exact dif_neg (by simp; omega)

end DpFifo

/-! ## The state after a collision -/

/-- `w` with entry `p` linked to the entry `v`, which now holds `ip` and `mac`
and ends its chain, and `fifo` for the free indices. -/
def Wlist.linked (w : Wlist) (ip : ℤ) (mac : CStr) (p v : ℕ) (fifo : DpFifo) :
    Wlist :=
  { w with
    fifo := fifo
    slots := Function.update
      (Function.update w.slots p { w.slots p with ofbIndex := (v : ℤ) }) v
      ⟨ip, CStr.strncpy macAddressSize mac.bytes, 0⟩ }

section Linked

variable {w : Wlist} {ip : ℤ} {mac : CStr} {p v j : ℕ} {fifo : DpFifo}

@[simp] theorem linked_attached :
    (w.linked ip mac p v fifo).attached = w.attached := rfl

@[simp] theorem linked_fifo : (w.linked ip mac p v fifo).fifo = fifo := rfl

theorem linked_next_new : (w.linked ip mac p v fifo).next v = 0 := by
  simp [Wlist.next, Wlist.linked]

theorem linked_next_last (h : p ≠ v) :
    (w.linked ip mac p v fifo).next p = (v : ℤ) := by
  simp [Wlist.next, Wlist.linked, h]

theorem linked_next_other (hp : j ≠ p) (hv : j ≠ v) :
    (w.linked ip mac p v fifo).next j = w.next j := by
  simp [Wlist.next, Wlist.linked, hp, hv]

theorem linked_addr_new : (w.linked ip mac p v fifo).addr v = ip := by
  simp [Wlist.addr, Wlist.linked]

theorem linked_addr (hv : j ≠ v) :
    (w.linked ip mac p v fifo).addr j = w.addr j := by
  by_cases hp : j = p
  · subst hp
    simp [Wlist.addr, Wlist.linked, hv]
  · simp [Wlist.addr, Wlist.linked, hv, hp]

theorem linked_macOf (hv : j ≠ v) :
    (w.linked ip mac p v fifo).macOf j = w.macOf j := by
  by_cases hp : j = p
  · subst hp
    simp [Wlist.macOf, Wlist.linked, hv]
  · simp [Wlist.macOf, Wlist.linked, hv, hp]

end Linked

/-- The `lastnode` of a walk over the whole of `l` is the last node of `l`
without its own last. -/
theorem getLastD_dropLast_cons (h : ℕ) (l : List ℕ) :
    (h :: l).dropLast.getLastD h = l.dropLast.getLastD h := by
  cases l with
  | nil => rfl
  | cons j l => rw [List.dropLast_cons_cons, List.getLastD_cons]

section Collision

variable {w : Wlist} {ip : ℤ} {mac : CStr} {stat : DpStat} {pindex v : ℕ}
  {l : List ℕ} {fifo : DpFifo}

/-- The overflow path of `dpnode_insert`. -/
theorem dpnodeInsert_collision (ha : w.attached = true)
    (h : Chain w (dpHashindex ip) l)
    (hmiss : ∀ j ∈ dpHashindex ip :: l, w.addr j ≠ ip)
    (hdq : w.fifo.dequeue = some (v, fifo)) (hv : IsOverflow v) :
    dpnodeInsert w ip mac stat pindex =
      .ok (.success,
        w.linked ip mac (l.dropLast.getLastD (dpHashindex ip)) v fifo) := by
  have hv32 : v < 32768 := hv.2.trans (by decide)
  have hp : l.dropLast.getLastD (dpHashindex ip) < maxBufSize := by
    rcases List.mem_cons.mp
      (Links.getLastD_mem (i := dpHashindex ip) l.dropLast) with hp | hp
    · rw [hp]
      exact dpHashindex_lt_maxBufSize ip
    · exact (h.overflow _ (List.dropLast_subset l hp)).2
  have hlook := dpnodeLookup_miss mac stat pindex ha h hmiss
  rw [getLastD_dropLast_cons] at hlook
  generalize l.dropLast.getLastD (dpHashindex ip) = p at hp hlook ⊢
  have hindex : toUShort (toShort v) = v := by
    rw [toShort_of_lt hv32]
    exact toUShort_natCast (hv32.trans (by decide))
  have hok : ∀ {α β : Type} (a : α) (f : α → Except Fault β),
      (Except.ok a >>= f) = f a := fun _ _ => rfl
  unfold dpnodeInsert
  rw [if_neg (by simp [ha]), hlook, hok]
  dsimp only
  rw [if_pos rfl, if_pos rfl, hdq]
  dsimp only
  rw [Wlist.modify_eq hp, hok, hindex, Wlist.modify_eq hv.2, hok,
    Wlist.linked, toShort_of_lt hv32]

/-- No index is free: nothing is written. -/
theorem dpnodeInsert_full (ha : w.attached = true)
    (h : Chain w (dpHashindex ip) l)
    (hmiss : ∀ j ∈ dpHashindex ip :: l, w.addr j ≠ ip)
    (hfull : w.fifo.contents = []) :
    dpnodeInsert w ip mac stat pindex = .ok (.success, w) := by
  have hlook := dpnodeLookup_miss mac stat pindex ha h hmiss
  have hdq := DpFifo.dequeue_eq_none hfull
  simp [dpnodeInsert, ha, hlook, bind, Except.bind, hdq]

end Collision

/-! ## Chains after a collision -/

section Preserved

variable {w : Wlist} {ip : ℤ} {mac : CStr} {h v : ℕ} {l : List ℕ}
  {fifo : DpFifo}

/-- The node the new one is linked to belongs to the chain of `h`. -/
theorem getLastD_dropLast_mem (h : ℕ) (l : List ℕ) :
    l.dropLast.getLastD h = h ∨ l.dropLast.getLastD h ∈ l := by
  rcases List.mem_cons.mp (Links.getLastD_mem (i := h) l.dropLast) with hp | hp
  · exact Or.inl hp
  · exact Or.inr (List.dropLast_subset l hp)

theorem IsOverflow.ne_main {j m : ℕ} (hj : IsOverflow j) (hm : m < maxEntries) :
    j ≠ m := by
  rintro rfl
  exact absurd hj.1 (Nat.not_le.mpr hm)

/-- The chain of the slot: the last node is gone, the new node ends it. -/
theorem chain_linked (hc : Chain w h l) (hh : h < maxEntries)
    (hv : IsOverflow v) (hvl : v ∉ l) :
    Chain (w.linked ip mac (l.dropLast.getLastD h) v fifo) h
      (l.dropLast ++ [v]) := by
  have hvh : v ≠ h := hv.ne_main hh
  have hpv : l.dropLast.getLastD h ≠ v := by
    rcases getLastD_dropLast_mem h l with hp | hp
    · rw [hp]
      exact hvh.symm
    · exact fun heq => hvl (heq ▸ hp)
  have hsplit : l.dropLast ++ l.getLast?.toList = l := by
    cases l using List.reverseRecOn with
    | nil => rfl
    | append_singleton l k => simp
  have hnd : (h :: l.dropLast).Nodup :=
    List.nodup_cons.mpr
      ⟨fun hmem => (hc.overflow h (List.dropLast_subset l hmem)).ne_main hh rfl,
        hc.nodup.sublist (List.dropLast_sublist l)⟩
  have hvfresh : v ∉ h :: l.dropLast := by
    intro hmem
    rcases List.mem_cons.mp hmem with heq | hmem
    · exact hvh heq
    · exact hvl (List.dropLast_subset l hmem)
  refine ⟨?_, ?_, ?_⟩
  · exact Links.relink (hsplit.symm ▸ hc.links) hnd hvfresh
      (linked_next_last hpv) linked_next_new
      (fun k hk hkv => linked_next_other hk hkv)
  · rw [List.nodup_append]
    refine ⟨hnd.of_cons, List.nodup_singleton v, ?_⟩
    rintro a ha b hb rfl
    rw [List.mem_singleton] at hb
    exact hvl (hb ▸ List.dropLast_subset l ha)
  · intro j hj
    rcases List.mem_append.mp hj with hj | hj
    · exact hc.overflow j (List.dropLast_subset l hj)
    · rw [List.mem_singleton.mp hj]
      exact hv

/-- Chains of the other slots are as before. -/
theorem chain_linked_other {m : ℕ} {l' : List ℕ} (hc : Chain w h l)
    (hh : h < maxEntries) (hv : IsOverflow v) (hm : m < maxEntries)
    (hmh : m ≠ h) (hc' : Chain w m l') (hdisj : l.Disjoint l') (hvl' : v ∉ l') :
    Chain (w.linked ip mac (l.dropLast.getLastD h) v fifo) m l' where
  nodup := hc'.nodup
  overflow := hc'.overflow
  links := by
    -- Neither of the two entries written is on the other chain.
    refine hc'.links.congr fun k hk => linked_next_other ?_ ?_
    · rintro rfl
      rcases getLastD_dropLast_mem h l with hp | hp
      · rw [hp] at hk
        rcases List.mem_cons.mp hk with heq | hmem
        · exact hmh heq.symm
        · exact (hc'.overflow h hmem).ne_main hh rfl
      · rcases List.mem_cons.mp hk with heq | hmem
        · exact (hc.overflow _ hp).ne_main hm heq
        · exact hdisj hp hmem
    · rintro rfl
      rcases List.mem_cons.mp hk with heq | hmem
      · exact hv.ne_main hm heq
      · exact hvl' hmem

theorem next_linked_main {m : ℕ} (hc : Chain w h l) (hv : IsOverflow v)
    (hm : m < maxEntries) (hmh : m ≠ h) :
    (w.linked ip mac (l.dropLast.getLastD h) v fifo).next m = w.next m := by
  refine linked_next_other ?_ (hv.ne_main hm).symm
  rcases getLastD_dropLast_mem h l with hp | hp
  · rw [hp]
    exact hmh
  · exact ((hc.overflow _ hp).ne_main hm).symm

/-- **What the chains are after a collision**: the slot's own, and those of
the other slots. -/
theorem chain_linked_cases (hwf : WellFormed w) {m : ℕ} {l' : List ℕ}
    (hc : Chain w h l) (hh : h < maxEntries)
    (hdq : w.fifo.dequeue = some (v, fifo)) (hm : m < maxEntries)
    (hc' : Chain (w.linked ip mac (l.dropLast.getLastD h) v fifo) m l') :
    (m = h ∧ l' = l.dropLast ++ [v]) ∨ (m ≠ h ∧ Chain w m l') := by
  have hmem := DpFifo.mem_of_dequeue hdq
  have hv := hwf.fifoOverflow v hmem
  by_cases hmh : m = h
  · subst hmh
    exact Or.inl ⟨rfl, hc'.unique
      (chain_linked hc hm hv (hwf.fifoFree v hmem m hm l hc))⟩
  · refine Or.inr ⟨hmh, ?_⟩
    rcases hwf.main m hm with hfree | ⟨l'', hc''⟩
    · refine absurd ?_ hc'.next_ne
      rw [next_linked_main hc hv hm hmh]
      exact hfree
    · have hold : Chain (w.linked ip mac (l.dropLast.getLastD h) v fifo) m l'' :=
        chain_linked_other hc hh hv hm hmh hc''
        (hwf.disjoint h hh m hm (Ne.symm hmh) l l'' hc hc'')
        (hwf.fifoFree v hmem m hm l'' hc'')
      rw [hc'.unique hold]
      exact hc''

/-- Linking a free node keeps the list well formed. -/
theorem wellFormed_linked (hwf : WellFormed w) (hc : Chain w h l)
    (hh : h < maxEntries) (hdq : w.fifo.dequeue = some (v, fifo)) :
    WellFormed (w.linked ip mac (l.dropLast.getLastD h) v fifo) := by
  have hcont := DpFifo.contents_dequeue hdq
  have hmem := DpFifo.mem_of_dequeue hdq
  have hv := hwf.fifoOverflow v hmem
  have hvl : ∀ m < maxEntries, ∀ l', Chain w m l' → v ∉ l' :=
    hwf.fifoFree v hmem
  have hrest : ∀ j ∈ fifo.contents, j ∈ w.fifo.contents ∧ j ≠ v := by
    intro j hj
    rw [hcont]
    refine ⟨List.mem_cons_of_mem v hj, ?_⟩
    rintro rfl
    have := hwf.fifoNodup
    rw [hcont] at this
    exact (List.nodup_cons.mp this).1 hj
  have hnew : ∀ m < maxEntries, m ≠ h → ∀ l', Chain w m l' →
      (l.dropLast ++ [v]).Disjoint l' := by
    intro m hm hmh l' hc' j hj hj'
    rcases List.mem_append.mp hj with hj | hj
    · exact hwf.disjoint h hh m hm (Ne.symm hmh) l l' hc hc'
        (List.dropLast_subset l hj) hj'
    · exact hvl m hm l' hc' (List.mem_singleton.mp hj ▸ hj')
  refine ⟨hwf.attached, ?_, ?_, ?_, ?_, ?_⟩
  · intro m hm
    by_cases hmh : m = h
    · subst hmh
      exact Or.inr ⟨_, chain_linked hc hm hv (hvl m hm l hc)⟩
    · rcases hwf.main m hm with hfree | ⟨l', hc'⟩
      · rw [next_linked_main hc hv hm hmh]
        exact Or.inl hfree
      · exact Or.inr ⟨l', chain_linked_other hc hh hv hm hmh hc'
          (hwf.disjoint h hh m hm (Ne.symm hmh) l l' hc hc') (hvl m hm l' hc')⟩
  · intro m hm m' hm' hne l₁ l₂ h₁ h₂
    -- At most one of the two chains is the new one.
    rcases chain_linked_cases hwf hc hh hdq hm h₁ with ⟨rfl, rfl⟩ | ⟨hmh, h₁'⟩
    · rcases chain_linked_cases hwf hc hh hdq hm' h₂ with ⟨rfl, -⟩ | ⟨hmh', h₂'⟩
      · exact absurd rfl hne
      · exact hnew m' hm' hmh' l₂ h₂'
    · rcases chain_linked_cases hwf hc hh hdq hm' h₂ with ⟨rfl, rfl⟩ | ⟨-, h₂'⟩
      · exact (hnew m hm hmh l₁ h₁').symm
      · exact hwf.disjoint m hm m' hm' hne l₁ l₂ h₁' h₂'
  · rw [linked_fifo]
    have := hwf.fifoNodup
    rw [hcont] at this
    exact this.of_cons
  · intro j hj
    exact hwf.fifoOverflow j (hrest j hj).1
  · intro j hj m hm l' hc'
    obtain ⟨hjw, hjv⟩ := hrest j hj
    rcases chain_linked_cases hwf hc hh hdq hm hc' with ⟨rfl, rfl⟩ | ⟨-, hold⟩
    · intro hmem'
      rcases List.mem_append.mp hmem' with hmem' | hmem'
      · exact hwf.fifoFree j hjw m hm l hc (List.dropLast_subset l hmem')
      · exact hjv (List.mem_singleton.mp hmem')
    · exact hwf.fifoFree j hjw m hm l' hold

end Preserved

end Xupnp.WhiteList
