import Mathlib.Data.List.Basic

/-!
# Alternating records

A record of something that is switched on and off: the entries differ from one
to the next, and the first differs from how it was before. What the last entry
says is how it is now.
-/

namespace Xupnp.Library

/-- Every entry changes something, where it was `on` before the first. -/
def AlternatesFrom : Bool → List Bool → Prop
  | _, [] => True
  | on, b :: l => b ≠ on ∧ AlternatesFrom b l

/-- Switched on first, and by turns from then on. -/
def Alternates (l : List Bool) : Prop := AlternatesFrom false l

theorem alternatesFrom_concat {on : Bool} {l : List Bool} {b : Bool} :
    AlternatesFrom on (l ++ [b]) ↔ AlternatesFrom on l ∧ b ≠ l.getLastD on := by
  induction l generalizing on with
  | nil => simp [AlternatesFrom]
  | cons a l ih =>
      rw [List.cons_append, AlternatesFrom, AlternatesFrom, ih, and_assoc,
        List.getLastD_cons]

/-- One more entry has to change how it is. -/
theorem alternates_concat {l : List Bool} {b : Bool} :
    Alternates (l ++ [b]) ↔ Alternates l ∧ b ≠ l.getLastD false :=
  alternatesFrom_concat

@[simp] theorem alternates_nil : Alternates [] := trivial

/-- Every switching on is followed by its switching off. -/
inductive Matched : List Bool → Prop
  | nil : Matched []
  | pair {l : List Bool} (h : Matched l) : Matched (true :: false :: l)

theorem Matched.append {l k : List Bool} (hl : Matched l) (hk : Matched k) :
    Matched (l ++ k) := by
  induction hl with
  | nil => exact hk
  | pair _ ih => exact .pair ih

/-- A matched record leaves it switched off. -/
theorem Matched.getLastD_append {k : List Bool} (h : Matched k) (l : List Bool)
    (hl : l.getLastD false = false) : (l ++ k).getLastD false = false := by
  induction h generalizing l with
  | nil => rwa [List.append_nil]
  | pair _ ih =>
      have hoff : (l ++ [true, false]).getLastD false = false := by simp
      have := ih (l ++ [true, false]) hoff
      rwa [List.append_assoc] at this

end Xupnp.Library
