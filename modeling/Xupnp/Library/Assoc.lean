import Mathlib.Data.List.Basic

/-!
# Erasing the first entry about a key

Lists of entries of which a search takes the first that satisfies a predicate.
`List.eraseP` takes that entry away: the searches for other keys find what they
found (`find?_eraseP`), a count loses at most that entry (`countP_eraseP`), and
the key itself is gone exactly if it was there once (`eraseP_none_iff`).
-/

namespace Xupnp.Library

variable {α : Type*} {p q : α → Bool} {l : List α}

/-- Dropping the entry a search finds drops one from the count, if the entry
is counted. -/
theorem countP_eraseP {c : α} (h : l.find? q = some c) :
    l.countP p = (l.eraseP q).countP p + if p c then 1 else 0 := by
  induction l with
  | nil => cases h
  | cons a l ih =>
      by_cases ha : q a = true
      · rw [List.find?_cons_of_pos ha] at h
        obtain rfl := Option.some.inj h
        rw [List.eraseP_cons_of_pos ha, List.countP_cons]
      · rw [List.find?_cons_of_neg ha] at h
        rw [List.eraseP_cons_of_neg ha, List.countP_cons, List.countP_cons,
          ih h]
        omega

/-- After the erasure nothing is found exactly if there was one such entry at
most. -/
theorem eraseP_none_iff :
    (∀ a ∈ l.eraseP p, p a = false) ↔ l.countP p ≤ 1 := by
  have hzero : (∀ a ∈ l.eraseP p, p a = false) ↔
      (l.eraseP p).countP p = 0 := by
    rw [List.countP_eq_zero]
    simp
  rw [hzero]
  cases h : l.find? p with
  | none =>
      have hnone := List.find?_eq_none.mp h
      rw [List.eraseP_of_forall_not hnone, List.countP_eq_zero.mpr hnone]
      simp
  | some c =>
      rw [countP_eraseP h, if_pos (List.find?_some h)]
      omega

/-- A search for something else finds what it found before. -/
theorem find?_eraseP (h : ∀ a, p a = true → q a = false) :
    (l.eraseP p).find? q = l.find? q := by
  induction l with
  | nil => rfl
  | cons a l ih =>
      by_cases ha : p a = true
      · rw [List.eraseP_cons_of_pos ha,
          List.find?_cons_of_neg (by simp [h a ha])]
      · rw [List.eraseP_cons_of_neg ha, List.find?_cons, List.find?_cons, ih]

end Xupnp.Library
