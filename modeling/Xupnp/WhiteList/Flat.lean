import Xupnp.WhiteList.Lookup

/-!
# The white list a run can reach

`dp_wlistInit` pushes the overflow indices into a FIFO whose size is still 0,
so none goes in, and no later call changes that: every reachable white list is
`Flat`, each main entry free or holding one address and no entry on a chain.
`dpStep_insert_*` and `dpStep_delete_*` say all a call can do to a flat list.
-/

namespace Xupnp.WhiteList

open Xupnp.Library

/-- No index is free, and no entry points to another. -/
structure Flat (w : Wlist) : Prop where
  attached : w.attached = true
  tail : w.fifo.tail = 0
  size : w.fifo.size = 0
  next : ∀ i < maxBufSize, w.next i = -1 ∨ w.next i = 0
  home : ∀ i < maxEntries, w.next i = 0 → dpHashindex (w.addr i) = i

/-- `w` with entry `i` set to `n`. -/
def Wlist.put (w : Wlist) (i : ℕ) (n : DpNode) : Wlist :=
  { w with slots := Function.update w.slots i n }

section Put

variable {w : Wlist} {i j : ℕ} {n : DpNode}

@[simp] theorem put_attached : (w.put i n).attached = w.attached := rfl

@[simp] theorem put_fifo : (w.put i n).fifo = w.fifo := rfl

@[simp] theorem put_next_self : (w.put i n).next i = n.ofbIndex := by
  simp [Wlist.next, Wlist.put]

@[simp] theorem put_addr_self : (w.put i n).addr i = n.ipaddr := by
  simp [Wlist.addr, Wlist.put]

@[simp] theorem put_macOf_self : (w.put i n).macOf i = n.macaddr.chars := by
  simp [Wlist.macOf, Wlist.put]

theorem put_next_ne (h : j ≠ i) : (w.put i n).next j = w.next j := by
  simp [Wlist.next, Wlist.put, h]

theorem put_addr_ne (h : j ≠ i) : (w.put i n).addr j = w.addr j := by
  simp [Wlist.addr, Wlist.put, h]

theorem put_macOf_ne (h : j ≠ i) : (w.put i n).macOf j = w.macOf j := by
  simp [Wlist.macOf, Wlist.put, h]

end Put

/-- Deleting an address that is not there reads entry 65535. -/
theorem dpnodeDelete_absent {w : Wlist} {ip : ℤ} (hmiss : Misses w ip)
    (mac : CStr) (stat : DpStat) (pindex : ℕ) :
    dpnodeDelete w ip mac stat pindex = .error .outOfBounds := by
  obtain ⟨st, ln', hlook⟩ := hmiss mac stat pindex
  have hidx : toUShort (-1) = 65535 := by decide
  have hout : ¬ 65535 < maxBufSize := by decide
  simp [dpnodeDelete, hlook, bind, Except.bind, hidx, DpStat.code, hout]

theorem dpStep_delete_absent {w : Wlist} {ip : ℤ} {mac : CStr} {l : Locals}
    (hmiss : Misses w ip) : dpStep w (.delete ip mac l) = none := by
  simp [dpStep, dpnodeDelete_absent hmiss, Except.toOption]

namespace Flat

variable {w : Wlist} {ip : ℤ} {mac : CStr} {l : Locals}

theorem dequeue (hf : Flat w) : w.fifo.dequeue = none :=
  dif_neg (by simp [hf.tail, hf.size])

theorem enqueue (hf : Flat w) (v : ℕ) : w.fifo.enqueue v = none :=
  if_neg (by simp [hf.tail])

theorem contents (hf : Flat w) : w.fifo.contents = [] := by
  simp [DpFifo.contents, hf.tail, hf.size]

/-- The chain of an occupied entry is its head alone. -/
theorem chain (hf : Flat w) {i : ℕ} (hi : i < maxBufSize)
    (hocc : w.next i ≠ -1) : Chain w i [] :=
  ⟨(hf.next i hi).resolve_left hocc, List.nodup_nil, by simp⟩

/-- No entry is on a chain. -/
theorem chain_eq_nil (hf : Flat w) {i : ℕ} (hi : i < maxBufSize)
    {l : List ℕ} (h : Chain w i l) : l = [] :=
  h.unique (hf.chain hi h.next_ne)

theorem put (hf : Flat w) {i : ℕ} {n : DpNode}
    (hn : n.ofbIndex = -1 ∨ (n.ofbIndex = 0 ∧ dpHashindex n.ipaddr = i)) :
    Flat (w.put i n) where
  attached := hf.attached
  tail := hf.tail
  size := hf.size
  next j hj := by
    by_cases h : j = i
    · subst h
      rw [put_next_self]
      exact hn.imp_right And.left
    · rw [put_next_ne h]
      exact hf.next j hj
  home j hj hnext := by
    by_cases h : j = i
    · subst h
      rw [put_next_self] at hnext
      rw [put_addr_self]
      exact (hn.resolve_left (by omega)).2
    · rw [put_next_ne h] at hnext
      rw [put_addr_ne h]
      exact hf.home j hj hnext

/-! ## What is found -/

theorem misses_iff (hf : Flat w) :
    Misses w ip ↔
      w.next (dpHashindex ip) = -1 ∨ w.addr (dpHashindex ip) ≠ ip := by
  by_cases hfree : w.next (dpHashindex ip) = -1
  · exact iff_of_true (misses_free hf.attached hfree) (Or.inl hfree)
  · rw [WhiteList.misses_iff hf.attached
      (hf.chain (dpHashindex_lt_maxBufSize ip) hfree)]
    simp [hfree]

theorem finds_iff (hf : Flat w) :
    Finds w ip mac ↔
      w.next (dpHashindex ip) ≠ -1 ∧ w.addr (dpHashindex ip) = ip ∧
        w.macOf (dpHashindex ip) = mac.bytes := by
  by_cases hfree : w.next (dpHashindex ip) = -1
  · apply iff_of_false ((misses_free hf.attached hfree).not_finds mac)
    exact fun h => h.1 hfree
  · rw [WhiteList.finds_iff hf.attached
      (hf.chain (dpHashindex_lt_maxBufSize ip) hfree)]
    simp [hfree]

/-! ## What a call does -/

/-- The lookup of an address whose slot holds another. -/
theorem lookup_other (hf : Flat w) {stat : DpStat} {ln : ℕ}
    (hocc : w.next (dpHashindex ip) ≠ -1)
    (haddr : w.addr (dpHashindex ip) ≠ ip) :
    dpnodeLookup w ip mac stat ln = .ok (-1, .collision, dpHashindex ip) :=
  dpnodeLookup_miss _ _ _ hf.attached
    (hf.chain (dpHashindex_lt_maxBufSize ip) hocc) (by simpa using haddr)

/-- A free slot is filled, unless `stat` started as `DP_COLLISION`. -/
theorem dpStep_insert_free (hf : Flat w)
    (hfree : w.next (dpHashindex ip) = -1) :
    dpStep w (.insert ip mac l) = some
      (if l.stat = .collision then w
      else w.put (dpHashindex ip)
        ⟨ip, CStr.strncpy macAddressSize mac.bytes, 0⟩) := by
  have hlook := dpnodeLookup_free mac l.stat l.pindex hf.attached hfree
  by_cases hs : l.stat = .collision
  · -- The free slot is taken for a collision, and no index is free.
    rw [hs] at hlook
    simp [dpStep, dpnodeInsert, hf.attached, hlook, bind, Except.bind, hs,
      hf.dequeue, Except.map, Except.toOption]
  · simp [dpStep, dpnodeInsert, hf.attached, hlook, bind, Except.bind, hs,
      Except.map, Except.toOption, Wlist.put, dpHashindex_lt_maxBufSize]

/-- An address that is there gets the MAC, and the call says
`DP_WLIST_ERROR` where it had it. -/
theorem dpnodeInsert_same (hf : Flat w) (mac : CStr) (stat : DpStat)
    (pindex : ℕ) (hocc : w.next (dpHashindex ip) ≠ -1)
    (haddr : w.addr (dpHashindex ip) = ip) :
    ∃ n : DpNode, n.ipaddr = ip ∧ n.ofbIndex = 0 ∧
      n.macaddr.chars = mac.bytes.take macAddressSize ∧
      dpnodeInsert w ip mac stat pindex =
        .ok (if mac.bytes.take macAddressSize = w.macOf (dpHashindex ip)
          then .wlistError else .success, w.put (dpHashindex ip) n) := by
  have hnext : w.next (dpHashindex ip) = 0 :=
    (hf.next _ (dpHashindex_lt_maxBufSize ip)).resolve_left hocc
  have hlook := dpnodeLookup_main mac stat pindex hf.attached hocc haddr
  have hne : ((dpHashindex ip : ℕ) : ℤ) ≠ -1 := by omega
  have hiff : CStr.strncmpEq mac (w.slots (dpHashindex ip)).macaddr = true ↔
      mac.bytes.take macAddressSize = w.macOf (dpHashindex ip) :=
    CStr.strncmpEq_iff
  by_cases hmac :
      CStr.strncmpEq mac (w.slots (dpHashindex ip)).macaddr = true
  · have hsame := hiff.mp hmac
    refine ⟨w.slots (dpHashindex ip), haddr, hnext, hsame.symm, ?_⟩
    have hput : w.put (dpHashindex ip) (w.slots (dpHashindex ip)) = w := by
      simp [Wlist.put]
    rw [hput, if_pos hsame]
    simp [dpnodeInsert, hf.attached, hlook, bind, Except.bind, hmac, hne]
  · refine ⟨{ w.slots (dpHashindex ip) with
      macaddr := CStr.strncpy macAddressSize mac.bytes }, haddr, hnext,
      CStr.chars_strncpy _ _, ?_⟩
    rw [if_neg fun h => hmac (hiff.mpr h)]
    simp [dpnodeInsert, hf.attached, hlook, bind, Except.bind, hmac,
      hne, Wlist.put, dpHashindex_lt_maxBufSize]

theorem dpStep_insert_same (hf : Flat w) (mac : CStr) (l : Locals)
    (hocc : w.next (dpHashindex ip) ≠ -1)
    (haddr : w.addr (dpHashindex ip) = ip) :
    ∃ n : DpNode, n.ipaddr = ip ∧ n.ofbIndex = 0 ∧
      n.macaddr.chars = mac.bytes.take macAddressSize ∧
      dpStep w (.insert ip mac l) = some (w.put (dpHashindex ip) n) := by
  obtain ⟨n, hip, hofb, hmac, hins⟩ :=
    hf.dpnodeInsert_same mac l.stat l.pindex hocc haddr
  exact ⟨n, hip, hofb, hmac, by
    simp [dpStep, hins, Except.map, Except.toOption]⟩

/-- A slot that holds another address stays as it is, though the call says
`DP_SUCCESS`. -/
theorem dpnodeInsert_other (hf : Flat w) {stat : DpStat} {pindex : ℕ}
    (hocc : w.next (dpHashindex ip) ≠ -1)
    (haddr : w.addr (dpHashindex ip) ≠ ip) :
    dpnodeInsert w ip mac stat pindex = .ok (.success, w) := by
  simp [dpnodeInsert, hf.attached, hf.lookup_other hocc haddr, bind,
    Except.bind, hf.dequeue]

theorem dpStep_insert_other (hf : Flat w)
    (hocc : w.next (dpHashindex ip) ≠ -1)
    (haddr : w.addr (dpHashindex ip) ≠ ip) :
    dpStep w (.insert ip mac l) = some w := by
  simp [dpStep, hf.dpnodeInsert_other hocc haddr, Except.map, Except.toOption]

/-- Deleting an address frees its entry, but entry 3 is taken for
`DP_WLIST_ERROR`. -/
theorem dpStep_delete_present (hf : Flat w) (mac : CStr) (l : Locals)
    (hocc : w.next (dpHashindex ip) ≠ -1)
    (haddr : w.addr (dpHashindex ip) = ip) :
    dpStep w (.delete ip mac l) = some
      (if dpHashindex ip = DpStat.wlistError.code then w
      else w.put (dpHashindex ip)
        { w.slots (dpHashindex ip) with ofbIndex := -1, ipaddr := 0 }) := by
  have hnext : (w.slots (dpHashindex ip)).ofbIndex = 0 :=
    (hf.next _ (dpHashindex_lt_maxBufSize ip)).resolve_left hocc
  have hlook := dpnodeLookup_main mac l.stat l.pindex hf.attached hocc haddr
  have hidx : toUShort (dpHashindex ip : ℤ) = dpHashindex ip :=
    toUShort_natCast ((dpHashindex_lt ip).trans (by decide))
  by_cases h3 : dpHashindex ip = DpStat.wlistError.code
  · -- The entry is found, and its index read as an error.
    have hidx3 := hidx.trans h3
    rw [if_pos h3]
    simp [dpStep, dpnodeDelete, hlook, bind, Except.bind, hidx3,
      Except.toOption]
  · simp [dpStep, dpnodeDelete, hlook, bind, Except.bind, hidx, h3,
      Except.toOption, dpHashindex_lt, dpHashindex_lt_maxBufSize, hnext,
      Wlist.put]

/-- **One call.** Every call that does not fault keeps the list flat. -/
theorem step (hf : Flat w) {op : DpOp} {w' : Wlist}
    (h : dpStep w op = some w') : Flat w' := by
  cases op with
  | insert ip mac l =>
      by_cases hfree : w.next (dpHashindex ip) = -1
      · rw [hf.dpStep_insert_free hfree] at h
        obtain rfl := Option.some.inj h
        split
        · exact hf
        · exact hf.put (Or.inr ⟨rfl, rfl⟩)
      · by_cases haddr : w.addr (dpHashindex ip) = ip
        · obtain ⟨n, hip, hofb, -, hstep⟩ :=
            hf.dpStep_insert_same mac l hfree haddr
          rw [hstep] at h
          obtain rfl := Option.some.inj h
          exact hf.put (Or.inr ⟨hofb, by rw [hip]⟩)
        · rw [hf.dpStep_insert_other hfree haddr] at h
          obtain rfl := Option.some.inj h
          exact hf
  | delete ip mac l =>
      by_cases hmiss : Misses w ip
      · rw [dpStep_delete_absent hmiss] at h
        cases h
      · rw [hf.misses_iff, not_or, not_not] at hmiss
        rw [hf.dpStep_delete_present _ _ hmiss.1 hmiss.2] at h
        obtain rfl := Option.some.inj h
        split
        · exact hf
        · exact hf.put (Or.inl rfl)

end Flat

/-! ## The initial state -/

/-- The white list `dp_wlistInit` leaves: the global FIFO is zero, the memory
is attached. -/
def startWlist (mem : ℕ → DpNode) : Wlist := dpWlistInit .zero (some mem)

theorem pushIndices_full {f : DpFifo} (h : f.tail = 0) (is : List ℕ) :
    pushIndices f is = f := by
  cases is with
  | nil => rfl
  | cons i is => simp [pushIndices, DpFifo.enqueue, h]

theorem startWlist_fifo (mem : ℕ → DpNode) : (startWlist mem).fifo = .zero :=
  pushIndices_full rfl _

theorem startWlist_next (mem : ℕ → DpNode) {i : ℕ} (hi : i < maxBufSize) :
    (startWlist mem).next i = -1 := by
  simp [Wlist.next, startWlist, dpWlistInit, hi]

theorem flat_startWlist (mem : ℕ → DpNode) : Flat (startWlist mem) where
  attached := rfl
  tail := by rw [startWlist_fifo]; rfl
  size := by rw [startWlist_fifo]; rfl
  next i hi := Or.inl (startWlist_next mem hi)
  home i hi h := by
    rw [startWlist_next mem (hi.trans (by decide))] at h
    cases h

/-- Every reachable white list is flat. -/
theorem flat_run {mem : ℕ → DpNode} {ops : List DpOp} {w : Wlist}
    (h : runFrom dpStep (startWlist mem) ops = some w) : Flat w :=
  runFrom_invariant' (fun _ _ _ hf hs => hf.step hs) (flat_startWlist mem) h

end Xupnp.WhiteList
