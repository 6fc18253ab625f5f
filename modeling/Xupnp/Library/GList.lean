import Mathlib.Data.List.Nodup

/-!
# Doubly linked lists of GLib

A `GList` is a pointer to its first link; `NULL` is the empty list. Links are of
type `ι`, and the heap says where each points. `Chain h prev list l` says that
`list` runs through exactly the links `l`, each pointing back to the one in
front; none comes twice (`Chain.nodup`). `removeLink_first` is what `g_list_remove_link` does to the first link:
the list goes on behind it, but the link itself no longer leads there.
-/

namespace Xupnp.Library

/-- A `GList` node. -/
structure GLink (ι α : Type*) where
  data : α
  next : Option ι
  prev : Option ι

/-- The nodes. -/
abbrev GHeap (ι α : Type*) := ι → GLink ι α

namespace GHeap

variable {ι α : Type*}

/-- From `list` on the links are `l`; the first points back to `prev`. -/
def Chain (h : GHeap ι α) : Option ι → Option ι → List ι → Prop
  | _, list, [] => list = none
  | prev, list, i :: l =>
      list = some i ∧ (h i).prev = prev ∧ Chain h (some i) (h i).next l

/-- `g_list_first (list)`, if fewer than `fuel` links are in front. -/
def first (h : GHeap ι α) : ℕ → ι → Option ι
  | 0, _ => none
  | fuel + 1, i =>
      match (h i).prev with
      | none => some i
      | some j => first h fuel j

variable {h h' : GHeap ι α} {prev list : Option ι} {i : ι} {l : List ι}

theorem Chain.congr (hl : Chain h prev list l)
    (heq : ∀ j ∈ l, (h' j).next = (h j).next ∧ (h' j).prev = (h j).prev) :
    Chain h' prev list l := by
  induction l generalizing prev list with
  | nil => exact hl
  | cons i l ih =>
      obtain ⟨hlist, hprev, hrest⟩ := hl
      obtain ⟨hnext', hprev'⟩ := heq i List.mem_cons_self
      refine ⟨hlist, hprev'.trans hprev, ?_⟩
      rw [hnext']
      exact ih hrest fun j hj => heq j (List.mem_cons_of_mem i hj)

theorem Chain.unique {prev' : Option ι} {l' : List ι}
    (hl : Chain h prev list l) (hl' : Chain h prev' list l') : l = l' := by
  induction l generalizing prev prev' list l' with
  | nil =>
      cases l' with
      | nil => rfl
      | cons j l' => cases hl.symm.trans hl'.1
  | cons i l ih =>
      cases l' with
      | nil => cases hl'.symm.trans hl.1
      | cons j l' =>
          obtain rfl := Option.some.inj (hl.1.symm.trans hl'.1)
          rw [ih hl.2.2 hl'.2.2]

theorem Chain.suffix {l₁ l₂ : List ι} (hl : Chain h prev list (l₁ ++ i :: l₂)) :
    ∃ prev', Chain h prev' (some i) (i :: l₂) := by
  induction l₁ generalizing prev list with
  | nil =>
      obtain ⟨rfl, hrest⟩ := hl
      exact ⟨prev, rfl, hrest⟩
  | cons j l₁ ih => exact ih hl.2.2

/-- No link comes twice: the list would not end. -/
theorem Chain.nodup (hl : Chain h prev list l) : l.Nodup := by
  induction l generalizing prev list with
  | nil => exact List.nodup_nil
  | cons i l ih =>
      refine List.nodup_cons.mpr ⟨fun hi => ?_, ih hl.2.2⟩
      obtain ⟨l₁, l₂, rfl⟩ := List.append_of_mem hi
      obtain ⟨_, hagain⟩ := hl.2.2.suffix
      obtain rfl : list = some i := hl.1
      have heq := congrArg List.length (hl.unique hagain)
      rw [List.length_cons, List.length_append] at heq
      omega

section RemoveLink

variable [DecidableEq ι]

/-- `g_list_remove_link (list, link)`: the heap and the list afterwards. -/
def removeLink (h : GHeap ι α) (list : Option ι) (link : ι) :
    GHeap ι α × Option ι :=
  let h :=
    match (h link).prev with
    | some p =>
        if (h p).next = some link then
          Function.update h p { h p with next := (h link).next }
        else h
    | none => h
  let h :=
    match (h link).next with
    | some n =>
        if (h n).prev = some link then
          Function.update h n { h n with prev := (h link).prev }
        else h
    | none => h
  let list := if list = some link then (h link).next else list
  (Function.update h link { h link with next := none, prev := none }, list)

/-- Taking out the first link: the list goes on behind it, the link leads
nowhere, and no data moves. -/
theorem removeLink_first (hl : Chain h none list (i :: l)) :
    Chain (removeLink h list i).1 none (removeLink h list i).2 l ∧
      ((removeLink h list i).1 i).next = none ∧
      ∀ j, ((removeLink h list i).1 j).data = (h j).data := by
  obtain ⟨hi, hnd'⟩ := List.nodup_cons.mp hl.nodup
  obtain ⟨rfl, hprev, hrest⟩ := hl
  unfold removeLink
  rw [hprev]
  dsimp only
  rw [if_pos rfl, Function.update_self]
  cases l with
  | nil =>
      have hnext : (h i).next = none := hrest
      rw [hnext]
      dsimp only
      refine ⟨hnext, rfl, fun j => ?_⟩
      rw [Function.update_apply]
      split
      · rename_i hj
        rw [hj]
      · rfl
  | cons k l =>
      obtain ⟨hnext, hback, hrest⟩ := hrest
      have hik : i ≠ k := fun hik => hi (hik ▸ List.mem_cons_self)
      obtain ⟨hk, -⟩ := List.nodup_cons.mp hnd'
      rw [hnext]
      dsimp only
      rw [if_pos hback, Function.update_of_ne hik, hprev]
      refine ⟨⟨hnext, ?_, ?_⟩, rfl, fun j => ?_⟩
      · rw [Function.update_of_ne hik.symm, Function.update_self]
      · rw [Function.update_of_ne hik.symm, Function.update_self]
        apply hrest.congr
        intro j hj
        have hji : j ≠ i := by
          rintro rfl
          exact hi (List.mem_cons_of_mem k hj)
        have hjk : j ≠ k := by
          rintro rfl
          exact hk hj
        rw [Function.update_of_ne hji, Function.update_of_ne hjk]
        exact ⟨rfl, rfl⟩
      · rw [Function.update_apply]
        split
        · rename_i hj
          rw [hj]
        · rw [Function.update_apply]
          split
          · rename_i hj
            rw [hj]
          · rfl

end RemoveLink

end GHeap

end Xupnp.Library
