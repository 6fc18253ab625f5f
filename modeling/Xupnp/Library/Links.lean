import Mathlib.Data.List.Basic
import Mathlib.Data.List.Nodup
import Mathlib.Logic.Relation

/-!
# Pointer-linked lists

Nodes of type `ι`, each with one `next` pointer of type `ν`; `ptr j` is the
pointer to `j` and `nil` ends a list. `Links next i l` says that the pointers
starting at node `i` run through exactly `l` and end there. The list is
determined by the pointers (`Links.unique`), only depends on its own nodes
(`Links.congr`), `Links.relink` says what setting the pointer of one of its
nodes to a fresh node makes of it, and `Links.unlink` what setting it past the
node behind does. From a node with a list no pointers lead back to it
(`Links.not_cycle`).
-/

namespace Xupnp.Library

variable {ι ν : Type*}

/-- From node `i` the pointers run through `l` and stop. -/
def Links (ptr : ι → ν) (nil : ν) (next : ι → ν) : ι → List ι → Prop
  | i, [] => next i = nil
  | i, j :: l => next i = ptr j ∧ Links ptr nil next j l

namespace Links

/-- The pointer of `i` leads to `j`. -/
def Follows (ptr : ι → ν) (nil : ν) (next : ι → ν) (i j : ι) : Prop :=
  next i = ptr j ∧ next i ≠ nil

variable {ptr : ι → ν} {nil : ν} {next next' : ι → ν}

theorem getLastD_mem {i : ι} : ∀ l : List ι, l.getLastD i ∈ i :: l
  | [] => by simp
  | j :: l => by
      rw [List.getLastD_cons]
      exact List.mem_cons_of_mem i (getLastD_mem l)

theorem congr {i : ι} {l : List ι} (h : ∀ k ∈ i :: l, next' k = next k)
    (hl : Links ptr nil next i l) : Links ptr nil next' i l := by
  induction l generalizing i with
  | nil => exact (h i (by simp)).trans hl
  | cons j l ih =>
      exact ⟨(h i (by simp)).trans hl.1,
        ih (fun k hk => h k (List.mem_cons_of_mem i hk)) hl.2⟩

theorem unique (hptr : Function.Injective ptr) {i : ι} {l l' : List ι}
    (hnil : ∀ j ∈ l, ptr j ≠ nil) (hnil' : ∀ j ∈ l', ptr j ≠ nil)
    (hl : Links ptr nil next i l) (hl' : Links ptr nil next i l') :
    l = l' := by
  induction l generalizing i l' with
  | nil =>
      cases l' with
      | nil => rfl
      | cons j l' =>
          exact absurd (hl'.1.symm.trans hl) (hnil' j List.mem_cons_self)
  | cons j l ih =>
      cases l' with
      | nil => exact absurd (hl.1.symm.trans hl') (hnil j List.mem_cons_self)
      | cons j' l' =>
          obtain rfl := hptr (hl.1.symm.trans hl'.1)
          rw [ih (fun k hk => hnil k (List.mem_cons_of_mem j hk))
            (fun k hk => hnil' k (List.mem_cons_of_mem j hk)) hl.2 hl'.2]

/-- **Relinking.** Point the last node of the part `l₁` at a fresh node `j`,
and end the list there: whatever came after `l₁` is cut off. -/
theorem relink {i j : ι} {l₁ l₂ : List ι}
    (hl : Links ptr nil next i (l₁ ++ l₂)) (hnd : (i :: l₁).Nodup)
    (hj : j ∉ i :: l₁) (hlast : next' (l₁.getLastD i) = ptr j)
    (hend : next' j = nil)
    (hrest : ∀ k, k ≠ l₁.getLastD i → k ≠ j → next' k = next k) :
    Links ptr nil next' i (l₁ ++ [j]) := by
  induction l₁ generalizing i with
  | nil => exact ⟨hlast, hend⟩
  | cons k l₁ ih =>
      rw [List.getLastD_cons] at hlast hrest
      obtain ⟨hi, hnd'⟩ := List.nodup_cons.mp hnd
      have hne : i ≠ l₁.getLastD k := fun h => hi (h ▸ getLastD_mem l₁)
      have hij : i ≠ j := fun h => hj (h ▸ List.mem_cons_self)
      refine ⟨(hrest i hne hij).trans hl.1, ?_⟩
      exact ih hl.2 hnd' (fun h => hj (List.mem_cons_of_mem i h)) hlast hrest

/-- **Unlinking.** Point the node in front of `k` to where `k` points: `k` is
no longer on the list, and all the others are. -/
theorem unlink {i k : ι} {l₁ l₂ : List ι}
    (hl : Links ptr nil next i (l₁ ++ k :: l₂))
    (hnd : (i :: (l₁ ++ k :: l₂)).Nodup)
    (hpred : next' (l₁.getLastD i) = next k)
    (hrest : ∀ j, j ≠ l₁.getLastD i → j ≠ k → next' j = next j) :
    Links ptr nil next' i (l₁ ++ l₂) := by
  induction l₁ generalizing i with
  | nil =>
      obtain ⟨hi, hnd'⟩ := List.nodup_cons.mp hnd
      cases l₂ with
      | nil => exact hpred.trans hl.2
      | cons j l₂ =>
          refine ⟨hpred.trans hl.2.1, hl.2.2.congr ?_⟩
          intro m hm
          apply hrest
          · rintro rfl
            exact hi (List.mem_cons_of_mem k hm)
          · rintro rfl
            exact (List.nodup_cons.mp hnd').1 hm
  | cons j l₁ ih =>
      rw [List.getLastD_cons] at hpred hrest
      obtain ⟨hi, hnd'⟩ := List.nodup_cons.mp hnd
      have hmem : l₁.getLastD j ∈ j :: l₁ ++ k :: l₂ :=
        List.mem_append_left _ (getLastD_mem l₁)
      have hne : i ≠ l₁.getLastD j := fun h => hi (h ▸ hmem)
      have hik : i ≠ k := by
        rintro rfl
        exact hi (List.mem_append_right _ List.mem_cons_self)
      exact ⟨(hrest i hne hik).trans hl.1, ih hl.2 hnd' hpred hrest⟩

/-- A node of a list has the rest of the list as its own. -/
theorem suffix {i j : ι} {l₁ l₂ : List ι}
    (hl : Links ptr nil next i (l₁ ++ j :: l₂)) : Links ptr nil next j l₂ := by
  induction l₁ generalizing i with
  | nil => exact hl.2
  | cons k l₁ ih => exact ih hl.2

/-- **Lists are no cycles.** -/
theorem not_cycle (hptr : Function.Injective ptr) {i : ι} {l : List ι}
    (hl : Links ptr nil next i l) :
    ¬ Relation.TransGen (Follows ptr nil next) i i := by
  induction l generalizing i with
  | nil =>
      intro hcycle
      obtain ⟨k, hstep, -⟩ := Relation.TransGen.head'_iff.mp hcycle
      exact hstep.2 hl
  | cons j l ih =>
      intro hcycle
      obtain ⟨k, hstep, hrest⟩ := Relation.TransGen.head'_iff.mp hcycle
      obtain rfl := hptr (hl.1.symm.trans hstep.1)
      exact ih hl.2 (Relation.TransGen.tail' hrest hstep)

end Links

end Xupnp.Library
