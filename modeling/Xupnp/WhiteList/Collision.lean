import Xupnp.WhiteList.FiniteMap
import Xupnp.WhiteList.WellFormed

/-!
# Which addresses survive an insert into an occupied slot

The new node takes the place of the last overflow node of the chain. Every
address found before is found after exactly when that node was not the one its
own address is found at (`dpnodeInsert_keeps_findable_iff`).
-/

namespace Xupnp.WhiteList

open Xupnp.Library

/-- The last overflow node of the chain of main entry `m`, if it has one, is
not where a lookup of its address ends: the address belongs to another slot,
or an earlier node of the chain holds it too. -/
def LastUnneeded (w : Wlist) (m : ℕ) : Prop :=
  ∀ l k, Chain w m (l ++ [k]) →
    dpHashindex (w.addr k) ≠ m ∨ ∃ j ∈ m :: l, w.addr j = w.addr k

/-- The MAC an entry holds, as a string. -/
def storedMac (w : Wlist) (i : ℕ) : CStr :=
  ⟨w.macOf i, fun h => by simpa using List.mem_takeWhile_imp h⟩

section Collision

variable {w : Wlist} {ip : ℤ} {mac : CStr} {h v : ℕ} {l : List ℕ}
  {fifo : DpFifo}

theorem find?_addr_congr {w w' : Wlist} {ip : ℤ} {ns : List ℕ}
    (h : ∀ j ∈ ns, w'.addr j = w.addr j) :
    ns.find? (fun j => w'.addr j = ip) = ns.find? (fun j => w.addr j = ip) := by
  induction ns with
  | nil => rfl
  | cons j ns ih =>
      rw [List.find?_cons, List.find?_cons, h j List.mem_cons_self,
        ih fun k hk => h k (List.mem_cons_of_mem j hk)]

/-- Addresses of the other slots are found as before. -/
theorem finds_linked_other (hwf : WellFormed w) (hc : Chain w h l)
    (hh : h < maxEntries) (hdq : w.fifo.dequeue = some (v, fifo)) {ip' : ℤ}
    {mac' : CStr} (hne : dpHashindex ip' ≠ h) (hf : Finds w ip' mac') :
    Finds (w.linked ip mac (l.dropLast.getLastD h) v fifo) ip' mac' := by
  have hmem := DpFifo.mem_of_dequeue hdq
  have hv := hwf.fifoOverflow v hmem
  have hm := dpHashindex_lt ip'
  rcases hwf.main _ hm with hfree | ⟨l', hc'⟩
  · exact absurd hf ((misses_free hwf.attached hfree).not_finds mac')
  · have hvl' := hwf.fifoFree v hmem _ hm l' hc'
    have hnode : ∀ j ∈ dpHashindex ip' :: l', j ≠ v := by
      rintro j hj rfl
      rcases List.mem_cons.mp hj with heq | hj
      · exact hv.ne_main hm heq
      · exact hvl' hj
    obtain ⟨k, hk, hmac⟩ := (finds_iff hwf.attached hc').mp hf
    refine (finds_iff (by simpa using hwf.attached)
      (chain_linked_other hc hh hv hm hne hc'
        (hwf.disjoint h hh _ hm (Ne.symm hne) l l' hc hc') hvl')).mpr
      ⟨k, ?_, ?_⟩
    · rw [find?_addr_congr fun j hj => linked_addr (hnode j hj)]
      exact hk
    · rw [linked_macOf (hnode k (List.mem_of_find?_eq_some hk))]
      exact hmac

/-- Of the addresses of the slot itself, those found at a node that stays are
found as before. -/
theorem finds_linked_same (hwf : WellFormed w)
    (hc : Chain w (dpHashindex ip) l)
    (hdq : w.fifo.dequeue = some (v, fifo)) {ip' : ℤ} {mac' : CStr}
    (hsame : dpHashindex ip' = dpHashindex ip) {k : ℕ}
    (hk : (dpHashindex ip :: l.dropLast).find? (fun j => w.addr j = ip') =
      some k)
    (hmac : w.macOf k = mac'.bytes) :
    Finds (w.linked ip mac (l.dropLast.getLastD (dpHashindex ip)) v fifo)
      ip' mac' := by
  have hmem := DpFifo.mem_of_dequeue hdq
  have hv := hwf.fifoOverflow v hmem
  have hh := dpHashindex_lt ip
  have hvl := hwf.fifoFree v hmem _ hh l hc
  have hnode : ∀ j ∈ dpHashindex ip :: l.dropLast, j ≠ v := by
    rintro j hj rfl
    rcases List.mem_cons.mp hj with heq | hj
    · exact hv.ne_main hh heq
    · exact hvl (List.dropLast_subset l hj)
  have hchain : Chain (w.linked ip mac _ v fifo) _ _ :=
    chain_linked hc hh hv hvl
  rw [← hsame] at hchain hk hnode ⊢
  refine (finds_iff (by simpa using hwf.attached) hchain).mpr ⟨k, ?_, ?_⟩
  · rw [← List.cons_append, List.find?_append,
      find?_addr_congr fun j hj => linked_addr (hnode j hj), hk]
    rfl
  · rw [linked_macOf (hnode k (List.mem_of_find?_eq_some hk))]
    exact hmac

/-- The last overflow node is no longer found, once the new node has taken its
place. -/
theorem not_finds_linked_last (hwf : WellFormed w) {k : ℕ}
    (hc : Chain w (dpHashindex ip) (l ++ [k]))
    (hdq : w.fifo.dequeue = some (v, fifo))
    (hmiss : ∀ j ∈ dpHashindex ip :: (l ++ [k]), w.addr j ≠ ip)
    (hhash : dpHashindex (w.addr k) = dpHashindex ip)
    (hfirst : ∀ j ∈ dpHashindex ip :: l, w.addr j ≠ w.addr k) (mac' : CStr) :
    ¬ Finds (w.linked ip mac ((l ++ [k]).dropLast.getLastD (dpHashindex ip)) v
      fifo) (w.addr k) mac' := by
  have hmem := DpFifo.mem_of_dequeue hdq
  have hv := hwf.fifoOverflow v hmem
  have hh := dpHashindex_lt ip
  have hvl := hwf.fifoFree v hmem _ hh _ hc
  have hchain : Chain (w.linked ip mac _ v fifo) _ _ :=
    chain_linked hc hh hv hvl
  refine Misses.not_finds ?_ mac'
  rw [← hhash] at hchain ⊢
  refine (misses_iff (by simpa using hwf.attached) hchain).mpr ?_
  intro j hj
  rw [List.dropLast_concat, ← List.cons_append] at hj
  rcases List.mem_append.mp hj with hjl | hjv
  · have hne : j ≠ v := by
      rintro rfl
      rcases List.mem_cons.mp hjl with heq | hjl
      · exact hv.ne_main (dpHashindex_lt _) heq
      · exact hvl (List.mem_append_left _ hjl)
    rw [linked_addr hne]
    exact hfirst j (hhash ▸ hjl)
  · rw [List.mem_singleton.mp hjv, linked_addr_new]
    exact (hmiss k (by simp)).symm

end Collision

/-- **Inserting into an occupied slot.** In a well-formed white list with a
free overflow index, inserting a new address whose slot is occupied keeps the
list well formed and every address findable with its MAC exactly when the last
overflow node of the slot's chain, if there is one, was not needed. -/
theorem dpnodeInsert_keeps_findable_iff {w : Wlist} {ip : ℤ} (mac : CStr)
    (stat : DpStat) (pindex : ℕ) (hwf : WellFormed w)
    (hfifo : w.fifo.contents ≠ []) (hnew : Misses w ip)
    (hocc : w.next (dpHashindex ip) ≠ -1) :
    (∃ st w', dpnodeInsert w ip mac stat pindex = .ok (st, w') ∧
      WellFormed w' ∧ ∀ ip' mac', Finds w ip' mac' → Finds w' ip' mac') ↔
    LastUnneeded w (dpHashindex ip) := by
  have hh := dpHashindex_lt ip
  obtain ⟨l, hc⟩ : ∃ l, Chain w (dpHashindex ip) l :=
    (hwf.main _ hh).resolve_left hocc
  obtain ⟨v, fifo, hdq⟩ := DpFifo.exists_dequeue hfifo
  have hmem := DpFifo.mem_of_dequeue hdq
  have hmiss := (misses_iff hwf.attached hc).mp hnew
  have hins : dpnodeInsert w ip mac stat pindex = _ :=
    dpnodeInsert_collision hwf.attached hc hmiss hdq (hwf.fifoOverflow v hmem)
  constructor
  · rintro ⟨st, w', heq, -, hkeep⟩ l₀ k hk
    obtain rfl := hc.unique hk
    by_contra hcon
    rw [not_or, not_not, not_exists] at hcon
    obtain ⟨hhash, hfirst⟩ := hcon
    have hfirst : ∀ j ∈ dpHashindex ip :: l₀, w.addr j ≠ w.addr k :=
      fun j hj heq => hfirst j ⟨hj, heq⟩
    obtain ⟨-, rfl⟩ := Prod.mk.inj (Except.ok.inj (hins.symm.trans heq))
    -- The last node is found in `w`, as no earlier node holds its address.
    have hfound : Finds w (w.addr k) (storedMac w k) := by
      refine (finds_iff hwf.attached (hhash.symm ▸ hc)).mpr ⟨k, ?_, rfl⟩
      rw [hhash, ← List.cons_append, List.find?_append,
        List.find?_eq_none.mpr (by simpa using hfirst)]
      simp
    exact not_finds_linked_last hwf hc hdq hmiss hhash hfirst _
      (hkeep _ _ hfound)
  · intro hlast
    refine ⟨.success, _, hins, wellFormed_linked hwf hc hh hdq, ?_⟩
    intro ip' mac' hf
    by_cases hsame : dpHashindex ip' = dpHashindex ip
    · obtain ⟨k, hk, hmac⟩ := (finds_iff hwf.attached (hsame.symm ▸ hc)).mp hf
      rw [hsame] at hk
      refine finds_linked_same hwf hc hdq hsame ?_ hmac
      -- The found node is not the last one, or nothing was dropped.
      cases l using List.reverseRecOn with
      | nil => exact hk
      | append_singleton l₀ k₀ =>
          rw [List.dropLast_concat]
          rw [← List.cons_append, List.find?_append] at hk
          cases hfind : (dpHashindex ip :: l₀).find?
              (fun j => w.addr j = ip') with
          | some k₁ => rw [hfind] at hk; exact hk
          | none =>
              have hearlier : ∀ j ∈ dpHashindex ip :: l₀, w.addr j ≠ ip' := by
                simpa using List.find?_eq_none.mp hfind
              rw [hfind, Option.none_or] at hk
              have hk₀ := List.mem_of_find?_eq_some hk
              have haddr : w.addr k = ip' := by simpa using List.find?_some hk
              rw [List.mem_singleton.mp hk₀] at haddr
              subst haddr
              rcases hlast l₀ k₀ hc with hne | ⟨j, hj, heq⟩
              · exact absurd hsame hne
              · exact absurd heq (hearlier j hj)
    · exact finds_linked_other hwf hc hh hdq hsame hf

/-! ## Two states -/

/-- A FIFO that holds all the overflow indices. -/
def fullFifo : DpFifo :=
  ⟨fun i => maxEntries + i, 0, maxOverflow, Nat.zero_le _, Nat.le_refl _⟩

/-- One address, in its main entry. -/
def single : Wlist :=
  { attached := true
    fifo := fullFifo
    slots := fun i =>
      if i = dpHashindex addr1 then
        ⟨addr1, CStr.strncpy macAddressSize mac1.bytes, 0⟩
      else ⟨0, CStr.strncpy macAddressSize [], -1⟩ }

theorem single_next (i : ℕ) :
    single.next i = if i = dpHashindex addr1 then 0 else -1 := by
  simp only [single, Wlist.next]
  split <;> rfl

theorem chain_single : Chain single (dpHashindex addr1) [] :=
  ⟨(single_next _).trans (if_pos rfl), List.nodup_nil, by simp⟩

theorem chain_single_eq {m : ℕ} {l : List ℕ} (h : Chain single m l) :
    l = [] := by
  have hne := h.next_ne
  rw [single_next] at hne
  by_cases hm : m = dpHashindex addr1
  · subst hm
    exact h.unique chain_single
  · rw [if_neg hm] at hne
    exact absurd rfl hne

theorem mem_fullFifo {j : ℕ} (h : j ∈ fullFifo.contents) : IsOverflow j := by
  simp only [fullFifo, DpFifo.contents, List.mem_map, List.mem_range',
    maxOverflow] at h
  obtain ⟨i, ⟨k, hk, rfl⟩, rfl⟩ := h
  simp only [IsOverflow, maxEntries, maxBufSize]
  omega

theorem wellFormed_single : WellFormed single where
  attached := rfl
  main m _ := by
    by_cases hm : m = dpHashindex addr1
    · subst hm
      exact Or.inr ⟨[], chain_single⟩
    · exact Or.inl ((single_next m).trans (if_neg hm))
  disjoint m _ m' _ _ l l' hl hl' := by
    rw [chain_single_eq hl]
    exact List.disjoint_nil_left l'
  fifoNodup := List.Nodup.map (fun _ _ h => Nat.add_left_cancel h)
    (List.nodup_range')
  fifoOverflow _ hj := mem_fullFifo hj
  fifoFree j _ m _ l hl := by
    rw [chain_single_eq hl]
    exact List.not_mem_nil

/-- `s_addr` of 10.0.194.249, whose index is that of `addr1` too. -/
def addr3 : ℤ := 0xF9C2000A

theorem misses_single {ip : ℤ} (h : dpHashindex ip = dpHashindex addr1)
    (hne : ip ≠ addr1) : Misses single ip := by
  refine (misses_iff rfl (l := []) (h ▸ chain_single)).mpr ?_
  intro j hj
  rw [List.mem_singleton.mp hj, h]
  simpa [single, Wlist.addr] using hne.symm

/-- The first collision of a slot keeps everything. -/
theorem dpnodeInsert_keeps_findable_single :
    ∃ st w', dpnodeInsert single addr2 mac2 .success 0 = .ok (st, w') ∧
      WellFormed w' ∧ ∀ ip mac, Finds single ip mac → Finds w' ip mac := by
  refine (dpnodeInsert_keeps_findable_iff mac2 .success 0 wellFormed_single
    (by decide) (misses_single (by decide) (by decide)) (by decide)).mpr ?_
  intro l k hc
  have := chain_single_eq hc
  simp at this

/-- `single` with `addr2` on the chain of `addr1`. -/
def crowded : Wlist :=
  single.linked addr2 mac2 (dpHashindex addr1) maxEntries
    ⟨fun i => maxEntries + i, 1, maxOverflow, by decide, Nat.le_refl _⟩

theorem single_dequeue : single.fifo.dequeue =
    some (maxEntries, crowded.fifo) := rfl

theorem wellFormed_crowded : WellFormed crowded :=
  wellFormed_linked wellFormed_single chain_single (dpHashindex_lt addr1)
    single_dequeue

theorem chain_crowded : Chain crowded (dpHashindex addr1) [maxEntries] :=
  chain_linked chain_single (dpHashindex_lt addr1) (by decide) (by simp)

/-- The second collision of a slot loses the address of the first. -/
theorem dpnodeInsert_crowded_loses :
    WellFormed crowded ∧ crowded.fifo.contents ≠ [] ∧ Misses crowded addr3 ∧
      crowded.next (dpHashindex addr3) ≠ -1 ∧ Finds crowded addr2 mac2 ∧
      ∃ w', dpnodeInsert crowded addr3 mac2 .success 0 = .ok (.success, w') ∧
        ¬ Finds w' addr2 mac2 := by
  have hc2 : Chain crowded (dpHashindex addr2) [maxEntries] := chain_crowded
  have hc3 : Chain crowded (dpHashindex addr3) [maxEntries] := chain_crowded
  have hmiss : ∀ j ∈ [dpHashindex addr3, maxEntries],
      crowded.addr j ≠ addr3 := by decide
  have hdq : crowded.fifo.dequeue = some (maxEntries + 1,
      ⟨fun i => maxEntries + i, 2, maxOverflow, by decide, Nat.le_refl _⟩) :=
    rfl
  refine ⟨wellFormed_crowded, by decide, (misses_iff rfl hc3).mpr hmiss,
    by decide, ?_, _, dpnodeInsert_collision rfl hc3 hmiss hdq (by decide), ?_⟩
  · exact (finds_iff rfl hc2).mpr ⟨maxEntries, by decide, by decide⟩
  · exact not_finds_linked_last (l := []) (k := maxEntries) wellFormed_crowded
      hc3 hdq hmiss (by decide) (by decide) mac2

end Xupnp.WhiteList
