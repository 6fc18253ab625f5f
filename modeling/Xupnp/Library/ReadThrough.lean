import Mathlib.Data.List.Induction
import Mathlib.Logic.Function.Basic

/-!
# Cells in front of a source

A read of a cell may fetch into it first. A cell holds what was last fetched
into it, whatever was read of it and of the other cells in between
(`run_apply`). Two reads of a cell answer alike if they fetch alike; if only one
of them fetches, they do so exactly where it brings what the cell holds already
(`getD_eq_iff`).
-/

namespace Xupnp.Library.ReadThrough

variable {κ ν : Type*} [DecidableEq κ]

/-- A read, with what it fetches into the cell, if anything. -/
structure Read (κ ν : Type*) where
  cell : κ
  fetched : Option ν

/-- The cells after a read. -/
def fill (cells : κ → ν) (r : Read κ ν) : κ → ν :=
  Function.update cells r.cell (r.fetched.getD (cells r.cell))

def run (cells : κ → ν) (reads : List (Read κ ν)) : κ → ν :=
  reads.foldl fill cells

/-- What a read fetches into this cell. -/
def Read.into (k : κ) (r : Read κ ν) : Option ν :=
  if r.cell = k then r.fetched else none

/-- What was last fetched into a cell that held `v` at the start. -/
def lastFetched (k : κ) (v : ν) (reads : List (Read κ ν)) : ν :=
  (reads.filterMap (Read.into k)).getLastD v

variable {cells : κ → ν} {r : Read κ ν} {k : κ} {v : ν}

@[simp] theorem fill_cell (cells : κ → ν) (r : Read κ ν) :
    fill cells r r.cell = r.fetched.getD (cells r.cell) :=
  Function.update_self _ _ _

theorem fill_apply (cells : κ → ν) (r : Read κ ν) (k : κ) :
    fill cells r k = (r.into k).getD (cells k) := by
  rw [Read.into]
  split
  · next h =>
      rw [← h]
      exact fill_cell cells r
  · next h => exact Function.update_of_ne (Ne.symm h) _ _

theorem lastFetched_snoc (k : κ) (v : ν) (reads : List (Read κ ν))
    (r : Read κ ν) :
    lastFetched k v (reads ++ [r]) =
      (r.into k).getD (lastFetched k v reads) := by
  unfold lastFetched
  rw [List.filterMap_append]
  cases h : r.into k with
  | none =>
      rw [List.filterMap_cons_none h, List.filterMap_nil, List.append_nil]
      rfl
  | some w =>
      rw [List.filterMap_cons_some h, List.filterMap_nil,
        List.getLastD_concat]
      rfl

/-- **A cell holds what was last fetched into it.** -/
theorem run_apply (cells : κ → ν) (reads : List (Read κ ν)) (k : κ) :
    run cells reads k = lastFetched k (cells k) reads := by
  induction reads using List.reverseRecOn with
  | nil => rfl
  | append_singleton reads r ih =>
      show (reads ++ [r]).foldl fill cells k = _
      rw [List.foldl_append, lastFetched_snoc, ← ih]
      exact fill_apply _ r k

theorem run_append (cells : κ → ν) (reads reads' : List (Read κ ν)) :
    run cells (reads ++ reads') = run (run cells reads) reads' :=
  List.foldl_append

/-- A cell that has `v`, and into which nothing else is fetched. -/
theorem run_keeps {reads : List (Read κ ν)} (hk : cells k = v)
    (h : ∀ r ∈ reads, ∀ w ∈ r.into k, w = v) : run cells reads k = v := by
  induction reads using List.reverseRecOn with
  | nil => exact hk
  | append_singleton reads r ih =>
      rw [run_append]
      show fill _ r k = v
      rw [fill_apply, ih fun r' hr' => h r' (List.mem_append_left _ hr')]
      cases hr : r.into k with
      | none => rfl
      | some w => exact h r (by simp) w hr

/-- A cell into which `v` is fetched, and nothing else. -/
theorem run_learns {reads : List (Read κ ν)} (hr : r ∈ reads)
    (hv : r.into k = some v) (h : ∀ r ∈ reads, ∀ w ∈ r.into k, w = v) :
    run cells reads k = v := by
  obtain ⟨before, rest, rfl⟩ := List.append_of_mem hr
  rw [run_append]
  have hfill : fill (run cells before) r k = v := by
    rw [fill_apply, hv]
    rfl
  apply run_keeps hfill
  intro r' hr'
  exact h r' (by simp [hr'])

/-- Each cell read once. -/
theorem run_map_apply {keys : List κ} (hkeys : keys.Nodup) (f : κ → Option ν)
    (cells : κ → ν) (k : κ) :
    run cells (keys.map fun k => ⟨k, f k⟩) k =
      if k ∈ keys then (f k).getD (cells k) else cells k := by
  induction keys generalizing cells with
  | nil => rfl
  | cons key keys ih =>
      obtain ⟨hkey, hnodup⟩ := List.nodup_cons.mp hkeys
      show run (fill cells ⟨key, f key⟩) _ k = _
      rw [ih hnodup, fill_apply]
      by_cases hk : key = k
      · subst hk
        simp [hkey, Read.into]
      · have hinto : (⟨key, f key⟩ : Read κ ν).into k = none := if_neg hk
        rw [hinto]
        simp [Ne.symm hk]

/-- Fetching changes nothing exactly where it brings what is there. -/
theorem getD_eq_iff {fetched : Option ν} :
    fetched.getD v = v ↔ ∀ w ∈ fetched, w = v := by
  cases fetched <;> simp

end Xupnp.Library.ReadThrough
