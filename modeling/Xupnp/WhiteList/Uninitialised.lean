import Xupnp.WhiteList.FiniteMap

/-!
# What the locals of `dpnode_insert` start with

`dpnode_insert` declares `stat` and `pindex` without a value and leaves it to
`dpnode_lookup` to write them. The lookup returns from a free entry without
doing so (`dpnodeLookup_free`), and on every other path writes all that the
insert goes on to read. So the two runs of an insert with different locals agree
exactly where the entry is occupied (`dpnodeInsert_alike_iff`).
-/

namespace Xupnp.WhiteList

open Xupnp.Library

/-- `dpnode_insert` does the same whatever its locals start with, and takes a
free main entry for the address. -/
structure InsertsAlike (w : Wlist) (ip : ℤ) (mac : CStr) : Prop where
  alike : ∀ l l' : Locals, dpnodeInsert w ip mac l.stat l.pindex =
    dpnodeInsert w ip mac l'.stat l'.pindex
  fills : w.attached = true → w.next (dpHashindex ip) = -1 →
    ∀ l : Locals, dpnodeInsert w ip mac l.stat l.pindex =
      .ok (.success, w.put (dpHashindex ip)
        ⟨ip, CStr.strncpy macAddressSize mac.bytes, 0⟩)

section Insert

variable {w : Wlist} {ip : ℤ} {mac : CStr} {stat : DpStat} {pindex : ℕ}

/-! ## The paths of the lookup -/

/-- The paths that write `*stat`: what they return does not depend on it, nor
on `*lastnode` unless they return an index. -/
theorem dpnodeLookup_occupied (mac : CStr) (ha : w.attached = true)
    (hocc : w.next (dpHashindex ip) ≠ -1) :
    (∃ (i : ℕ) (st : DpStat), ∀ s p,
      dpnodeLookup w ip mac s p = .ok ((i : ℤ), st, p)) ∨
    ∃ r, ∀ s p, dpnodeLookup w ip mac s p = r := by
  by_cases hip : w.addr (dpHashindex ip) = ip
  · left
    exact ⟨_, _, fun s p => dpnodeLookup_main mac s p ha hocc hip⟩
  · right
    exact ⟨_, fun s p => dpnodeLookup_other mac s p ha hocc hip⟩

/-! ## What the insert makes of them -/

theorem dpnodeInsert_unattached (ha : w.attached = false) :
    dpnodeInsert w ip mac stat pindex = .ok (.wlistError, w) := if_pos ha

/-- With another `stat` to start with, a free entry is filled. -/
theorem dpnodeInsert_free (ha : w.attached = true)
    (hfree : w.next (dpHashindex ip) = -1) (hstat : stat ≠ .collision) :
    dpnodeInsert w ip mac stat pindex = .ok (.success, w.put (dpHashindex ip)
      ⟨ip, CStr.strncpy macAddressSize mac.bytes, 0⟩) := by
  have hlook := dpnodeLookup_free mac stat pindex ha hfree
  simp [dpnodeInsert, ha, hlook, bind, Except.bind, hstat, Wlist.put,
    dpHashindex_lt_maxBufSize]

/-- With `DP_COLLISION` to start with and no index in the FIFO, nothing is
done. -/
theorem dpnodeInsert_free_collision (ha : w.attached = true)
    (hfree : w.next (dpHashindex ip) = -1) (hdq : w.fifo.dequeue = none) :
    dpnodeInsert w ip mac .collision pindex = .ok (.success, w) := by
  have hlook := dpnodeLookup_free mac .collision pindex ha hfree
  simp [dpnodeInsert, ha, hlook, bind, Except.bind, hdq]

/-- With an index in the FIFO, the entry `pindex` starts with is written. -/
theorem dpnodeInsert_free_wild {v : ℕ} {fifo : DpFifo}
    (ha : w.attached = true) (hfree : w.next (dpHashindex ip) = -1)
    (hdq : w.fifo.dequeue = some (v, fifo)) (hp : ¬ pindex < maxBufSize) :
    dpnodeInsert w ip mac .collision pindex = .error .outOfBounds := by
  have hlook := dpnodeLookup_free mac .collision pindex ha hfree
  simp [dpnodeInsert, ha, hlook, bind, Except.bind, hdq, hp]

/-- An occupied entry makes all locals alike. -/
theorem dpnodeInsert_occupied (ha : w.attached = true)
    (hocc : w.next (dpHashindex ip) ≠ -1) (stat' : DpStat) (pindex' : ℕ) :
    dpnodeInsert w ip mac stat pindex =
      dpnodeInsert w ip mac stat' pindex' := by
  rcases dpnodeLookup_occupied mac ha hocc with
    ⟨i, st, hlook⟩ | ⟨r, hlook⟩
  · -- `pindex` is read only where nothing was found.
    have hne : ((i : ℕ) : ℤ) ≠ -1 := by omega
    simp [dpnodeInsert, ha, hlook, bind, Except.bind, hne]
  · rw [dpnodeInsert, dpnodeInsert, hlook, hlook]

end Insert

/-- **Uninitialised locals.** What `dpnode_insert` does depends on them
exactly where the address has a free main entry. -/
theorem dpnodeInsert_alike_iff (w : Wlist) (ip : ℤ) (mac : CStr) :
    InsertsAlike w ip mac ↔
      ¬ (w.attached = true ∧ w.next (dpHashindex ip) = -1) := by
  constructor
  · rintro h ⟨ha, hfree⟩
    -- A FIFO with an index goes wrong at `pindex`, one without does nothing.
    have hfill := h.fills ha hfree ⟨.collision, maxBufSize⟩
    cases hdq : w.fifo.dequeue with
    | some e =>
        rw [dpnodeInsert_free_wild ha hfree hdq (Nat.lt_irrefl _)] at hfill
        cases hfill
    | none =>
        rw [dpnodeInsert_free_collision ha hfree hdq] at hfill
        have hw := congrArg Prod.snd (Except.ok.inj hfill)
        have hnext : w.next (dpHashindex ip) = 0 := by
          conv_lhs => rw [show w = _ from hw]
          exact put_next_self
        omega
  · intro h
    refine ⟨?_, fun ha hfree => absurd ⟨ha, hfree⟩ h⟩
    intro l l'
    cases ha : w.attached with
    | false =>
        rw [dpnodeInsert_unattached ha, dpnodeInsert_unattached ha]
    | true =>
        exact dpnodeInsert_occupied ha (fun hfree => h ⟨ha, hfree⟩) _ _

/-- The first insert after `dp_wlistInit`, with `stat` starting as 0 and as
`DP_COLLISION`. -/
theorem dpnodeInsert_start_differs :
    (startWlist zeroMem).next (dpHashindex addr1) = -1 ∧
      dpnodeInsert (startWlist zeroMem) addr1 mac1 .collision 0 =
        .ok (.success, startWlist zeroMem) ∧
      dpnodeInsert (startWlist zeroMem) addr1 mac1 .success 0 =
        .ok (.success, (startWlist zeroMem).put (dpHashindex addr1)
          ⟨addr1, CStr.strncpy macAddressSize mac1.bytes, 0⟩) ∧
      ((startWlist zeroMem).put (dpHashindex addr1)
        ⟨addr1, CStr.strncpy macAddressSize mac1.bytes, 0⟩).next
          (dpHashindex addr1) = 0 := by
  have hfree := startWlist_next zeroMem (dpHashindex_lt_maxBufSize addr1)
  refine ⟨hfree, ?_, dpnodeInsert_free rfl hfree (by decide), put_next_self⟩
  exact dpnodeInsert_free_collision rfl hfree (flat_startWlist zeroMem).dequeue

end Xupnp.WhiteList
