import Xupnp.WhiteList.FiniteMap

/-!
# The overflow indices

`dp_wlistInit` means to put the 1024 overflow indices into the FIFO and the
calls to move them between the FIFO and the chains. As nothing runs
`INIT_FIFO`, the FIFO has no room and every index is lost at the start
(`overflow_lost`).
-/

namespace Xupnp.WhiteList

open Xupnp.Library

/-- Overflow index `j` is on the chain of main entry `m`. -/
def OnChain (w : Wlist) (m j : ℕ) : Prop :=
  m < maxEntries ∧ ∃ l, Chain w m l ∧ j ∈ l

/-- Every overflow index is once in the FIFO and on no chain, or not in the
FIFO and on one chain. -/
def Conserved (w : Wlist) : Prop :=
  ∀ j, IsOverflow j →
    (w.fifo.contents.count j = 1 ∧ ∀ m, ¬ OnChain w m j) ∨
    (w.fifo.contents.count j = 0 ∧ ∃! m, OnChain w m j)

/-- **No overflow index is ever anywhere.** After `dp_wlistInit` and any calls,
each is neither in the FIFO nor on a chain, so the indices are not
conserved. -/
theorem overflow_lost (mem : ℕ → DpNode) (ops : List DpOp) (w : Wlist)
    (hrun : runFrom dpStep (startWlist mem) ops = some w) :
    (∀ j, IsOverflow j → j ∉ w.fifo.contents ∧ ∀ m, ¬ OnChain w m j) ∧
      ¬ Conserved w := by
  have hf := flat_run hrun
  have hlost : ∀ j, IsOverflow j →
      j ∉ w.fifo.contents ∧ ∀ m, ¬ OnChain w m j := by
    intro j _
    refine ⟨by simp [hf.contents], ?_⟩
    rintro m ⟨hm, l, hc, hj⟩
    rw [hf.chain_eq_nil (hm.trans (by decide)) hc] at hj
    cases hj
  refine ⟨hlost, fun hcons => ?_⟩
  have hover : IsOverflow maxEntries := by decide
  rcases hcons maxEntries hover with ⟨hcount, -⟩ | ⟨-, m, hm, -⟩
  · rw [hf.contents] at hcount
    cases hcount
  · exact (hlost maxEntries hover).2 m hm

/-- After one insert. -/
theorem overflow_lost_insert :
    ∃ w, runFrom dpStep (startWlist zeroMem)
        [.insert addr1 mac1 ⟨.success, 0⟩] = some w ∧
      (∀ j, IsOverflow j → j ∉ w.fifo.contents ∧ ∀ m, ¬ OnChain w m j) ∧
      ¬ Conserved w := by
  obtain ⟨w, hw⟩ : ∃ w, runFrom dpStep (startWlist zeroMem)
      [.insert addr1 mac1 ⟨.success, 0⟩] = some w := ⟨_, rfl⟩
  exact ⟨w, hw, overflow_lost zeroMem _ w hw⟩

/-- Right after `dp_wlistInit` the FIFO is empty. -/
theorem startWlist_not_conserved :
    (startWlist zeroMem).fifo.contents = [] ∧
      ¬ Conserved (startWlist zeroMem) := by
  have hf := flat_startWlist zeroMem
  refine ⟨hf.contents, fun hcons => ?_⟩
  rcases hcons maxEntries (by decide) with ⟨hcount, -⟩ | ⟨-, m, ⟨hm, l, hc, hj⟩, -⟩
  · rw [hf.contents] at hcount
    cases hcount
  · rw [hf.chain_eq_nil (hm.trans (by decide)) hc] at hj
    cases hj

end Xupnp.WhiteList
