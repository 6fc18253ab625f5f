import Xupnp.WhiteList.Flat

/-!
# Which addresses are on the white list

Callers that only care whether an address is listed see a set of addresses.
`Contains w D` says that the flat list `w` holds exactly the addresses of `D`;
an insert adds its address and a delete takes it away, as long as no two
addresses of the set share a slot.
-/

namespace Xupnp.WhiteList

open Xupnp.Library

/-- The white list has an entry for the address. -/
def Present (w : Wlist) (ip : ℤ) : Prop := ∃ mac, Finds w ip mac

/-- The white list is flat and has entries for the addresses of `D` only, each
in a slot of its own. -/
structure Contains (w : Wlist) (D : ℤ → Prop) : Prop where
  flat : Flat w
  present : ∀ ip, Present w ip ↔ D ip

section Presence

variable {w : Wlist} {D : ℤ → Prop} {ip : ℤ} {mac : CStr} {l : Locals}

/-- In a flat list an address is present if its slot holds it. -/
theorem Flat.present_iff (hf : Flat w) :
    Present w ip ↔
      w.next (dpHashindex ip) ≠ -1 ∧ w.addr (dpHashindex ip) = ip := by
  constructor
  · rintro ⟨mac, hfind⟩
    exact ⟨(hf.finds_iff.mp hfind).1, (hf.finds_iff.mp hfind).2.1⟩
  · rintro ⟨hocc, haddr⟩
    have hnul : (0 : UInt8) ∉ w.macOf (dpHashindex ip) := by
      intro h
      simpa using List.mem_takeWhile_imp h
    exact ⟨⟨_, hnul⟩, hf.finds_iff.mpr ⟨hocc, haddr, rfl⟩⟩

/-- Setting the slot of `ip` to a node of `ip`. -/
theorem Flat.present_put (hf : Flat w) {n : DpNode} (hip : n.ipaddr = ip)
    (hofb : n.ofbIndex = 0)
    (halone : ∀ ip', Present w ip' → dpHashindex ip' = dpHashindex ip →
      ip' = ip) (ip' : ℤ) :
    Present (w.put (dpHashindex ip) n) ip' ↔ ip' = ip ∨ Present w ip' := by
  have hf' : Flat (w.put (dpHashindex ip) n) :=
    hf.put (Or.inr ⟨hofb, by rw [hip]⟩)
  rw [hf'.present_iff]
  by_cases hsame : dpHashindex ip' = dpHashindex ip
  · rw [hsame, put_next_self, put_addr_self, hofb, hip]
    constructor
    · rintro ⟨-, heq⟩
      exact Or.inl heq.symm
    · rintro (rfl | hp)
      · exact ⟨by decide, rfl⟩
      · exact ⟨by decide, (halone ip' hp hsame).symm⟩
  · rw [put_next_ne hsame, put_addr_ne hsame, ← hf.present_iff]
    exact ⟨Or.inr, fun h => h.resolve_left fun heq => hsame (by rw [heq])⟩

/-- **An insert** adds its address, if no other address has its slot. -/
theorem Contains.insert (h : Contains w D) (ip : ℤ) (mac : CStr)
    (hstat : l.stat ≠ .collision)
    (halone : ∀ ip', D ip' → dpHashindex ip' = dpHashindex ip → ip' = ip) :
    ∃ w', dpStep w (.insert ip mac l) = some w' ∧
      Contains w' fun ip' => ip' = ip ∨ D ip' := by
  have hf := h.flat
  have halone' : ∀ ip', Present w ip' →
      dpHashindex ip' = dpHashindex ip → ip' = ip :=
    fun ip' hp => halone ip' ((h.present ip').mp hp)
  obtain ⟨n, hip, hofb, hstep⟩ : ∃ n : DpNode, n.ipaddr = ip ∧
      n.ofbIndex = 0 ∧
      dpStep w (.insert ip mac l) = some (w.put (dpHashindex ip) n) := by
    by_cases hfree : w.next (dpHashindex ip) = -1
    · refine ⟨⟨ip, CStr.strncpy macAddressSize mac.bytes, 0⟩, rfl, rfl, ?_⟩
      rw [hf.dpStep_insert_free hfree, if_neg hstat]
    · have hhome := hf.home _ (dpHashindex_lt ip)
        ((hf.next _ (dpHashindex_lt_maxBufSize ip)).resolve_left hfree)
      have haddr : w.addr (dpHashindex ip) = ip := by
        refine halone' _ (hf.present_iff.mpr ⟨?_, ?_⟩) hhome
        · rw [hhome]
          exact hfree
        · rw [hhome]
      obtain ⟨n, hip, hofb, -, hstep⟩ := hf.dpStep_insert_same mac l hfree haddr
      exact ⟨n, hip, hofb, hstep⟩
  refine ⟨_, hstep, hf.put (Or.inr ⟨hofb, by rw [hip]⟩), fun ip' => ?_⟩
  rw [hf.present_put hip hofb halone', h.present]

/-- **A delete** takes its address away, if that is present and not in slot
3. -/
theorem Contains.delete (h : Contains w D) (mac : CStr) (l : Locals)
    (hD : D ip)
    (h3 : dpHashindex ip ≠ DpStat.wlistError.code) :
    ∃ w', dpStep w (.delete ip mac l) = some w' ∧
      Contains w' fun ip' => D ip' ∧ ip' ≠ ip := by
  have hf := h.flat
  have hpres := hf.present_iff.mp ((h.present ip).mpr hD)
  have hstep := hf.dpStep_delete_present mac l hpres.1 hpres.2
  rw [if_neg h3] at hstep
  have hf' : Flat (w.put (dpHashindex ip)
      { w.slots (dpHashindex ip) with ofbIndex := -1, ipaddr := 0 }) :=
    hf.put (Or.inl rfl)
  refine ⟨_, hstep, hf', fun ip' => ?_⟩
  rw [hf'.present_iff, ← h.present ip', hf.present_iff]
  by_cases hsame : dpHashindex ip' = dpHashindex ip
  · rw [hsame, put_next_self, put_addr_self]
    refine iff_of_false (fun h' => h'.1 rfl) ?_
    rintro ⟨⟨-, haddr⟩, hne⟩
    exact hne (haddr.symm.trans hpres.2)
  · rw [put_next_ne hsame, put_addr_ne hsame]
    exact ⟨fun h' => ⟨h', fun heq => hsame (by rw [heq])⟩, And.left⟩

theorem contains_start (mem : ℕ → DpNode) :
    Contains (startWlist mem) fun _ => False where
  flat := flat_startWlist mem
  present ip := by
    rw [(flat_startWlist mem).present_iff]
    refine iff_of_false (fun h => h.1 ?_) id
    exact startWlist_next mem (dpHashindex_lt_maxBufSize ip)

end Presence

end Xupnp.WhiteList
