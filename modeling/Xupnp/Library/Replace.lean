import Mathlib.Tactic.Linarith
import Mathlib.Tactic.Ring
import Xupnp.Library.Fields

/-!
# Cutting a text at what occurs in it

`Pieces sub t ps` cuts the text `t` at the leftmost occurrences of `sub` that
do not overlap, and `ps` are the parts between them. Every text is cut in
exactly one way (`exists_pieces`, `Pieces.unique`), a search finds the next cut
(`strstr_cut`), and joining the parts with another text replaces every
occurrence (`Pieces.length_join`).
-/

namespace Xupnp.Library

variable {α : Type*}

/-- The parts of a text between the occurrences of `sub`, each of which is the
first behind the one before it: none ends earlier. -/
inductive Pieces (sub : List α) : List α → List (List α) → Prop
  | last {t : List α} (h : ¬ sub <:+: t) : Pieces sub t [t]
  | cut {p t : List α} {ps : List (List α)} (h : ¬ sub <:+: p ++ sub.dropLast)
      (ht : Pieces sub t ps) : Pieces sub (p ++ sub ++ t) (p :: ps)

/-! ## Searching -/

section Search

variable [DecidableEq α] {sub p t u : List α}

omit [DecidableEq α] in
theorem dropLast_prefix_cut (p sub t : List α) :
    p ++ sub.dropLast <+: p ++ sub ++ t := by
  rw [List.append_assoc, List.prefix_append_right_inj]
  exact (List.dropLast_prefix sub).trans (List.prefix_append sub t)

omit [DecidableEq α] in
/-- What begins in front of an occurrence ends in front of its end. -/
theorem prefix_dropLast {b : α}
    (h : sub <+: b :: p ++ sub ++ t) : sub <+: b :: p ++ sub.dropLast := by
  apply List.prefix_of_prefix_length_le h (dropLast_prefix_cut _ _ _)
  rw [List.length_append, List.length_cons, List.length_dropLast]
  omega

/-- The search stops at the first occurrence. -/
theorem strstr_cut (h : ¬ sub <:+: p ++ sub.dropLast) :
    strstr (p ++ sub ++ t) sub = some (sub ++ t) := by
  induction p with
  | nil => exact strstr_prefixed (List.prefix_append sub t)
  | cons b p ih =>
      have hfront : ¬ sub <+: b :: (p ++ sub ++ t) := fun hpre =>
        h (prefix_dropLast hpre).isInfix
      show strstr (b :: (p ++ sub ++ t)) sub = _
      rw [strstr_cons_not_prefixed hfront]
      exact ih fun hin => h (List.infix_cons hin)

/-- What a search finds is the first occurrence. -/
theorem strstr_spec (hsub : sub ≠ []) (h : strstr t sub = some u) :
    ∃ p r, t = p ++ sub ++ r ∧ u = sub ++ r ∧ ¬ sub <:+: p ++ sub.dropLast := by
  induction t with
  | nil =>
      obtain rfl := List.suffix_nil.mp (suffix_of_strstr h)
      exact absurd (List.prefix_nil.mp (prefix_of_strstr h)) hsub
  | cons b t ih =>
      by_cases hpre : sub <+: b :: t
      · obtain ⟨r, hr⟩ := hpre
        rw [strstr_prefixed ⟨r, hr⟩] at h
        obtain rfl := Option.some.inj h
        refine ⟨[], r, hr.symm, hr.symm, fun hin => ?_⟩
        have hle := hin.length_le
        have hpos : 0 < sub.length := List.length_pos_iff.mpr hsub
        rw [List.nil_append, List.length_dropLast] at hle
        omega
      · rw [strstr_cons_not_prefixed hpre] at h
        obtain ⟨p, r, rfl, rfl, hfirst⟩ := ih h
        refine ⟨b :: p, r, rfl, rfl, fun hin => ?_⟩
        rcases List.infix_cons_iff.mp hin with hfront | hin
        · exact hpre (hfront.trans (dropLast_prefix_cut (b :: p) sub r))
        · exact hfirst hin

end Search

/-! ## The parts -/

section Pieces

variable {sub t : List α} {ps qs : List (List α)}

theorem exists_pieces (hsub : sub ≠ []) (t : List α) : ∃ ps, Pieces sub t ps := by
  classical
  induction hn : t.length using Nat.strong_induction_on generalizing t with
  | _ n ih =>
      cases h : strstr t sub with
      | none => exact ⟨[t], .last (strstr_eq_none_iff.mp h)⟩
      | some u =>
          obtain ⟨p, r, rfl, -, hfirst⟩ := strstr_spec hsub h
          have hpos : 0 < sub.length := List.length_pos_iff.mpr hsub
          have hlt : r.length < n := by
            rw [← hn, List.length_append, List.length_append]
            omega
          obtain ⟨ps, hps⟩ := ih _ hlt r rfl
          exact ⟨p :: ps, .cut hfirst hps⟩

theorem Pieces.ne_nil (h : Pieces sub t ps) : ps ≠ [] := by
  cases h <;> simp

/-- A text is cut in one way. -/
theorem Pieces.unique (h : Pieces sub t ps) (h' : Pieces sub t qs) :
    ps = qs := by
  classical
  induction h generalizing qs with
  | last hno =>
      cases h' with
      | last => rfl
      | @cut p r qs _ _ => exact absurd ⟨p, r, rfl⟩ hno
  | @cut p r ps hfirst hr ih =>
      generalize ht : p ++ sub ++ r = t at h'
      cases h' with
      | last hno => exact absurd ⟨p, r, ht⟩ hno
      | @cut p' r' qs hfirst' hr' =>
          have hfound := strstr_cut (t := r) hfirst
          rw [ht, strstr_cut hfirst'] at hfound
          obtain rfl : r' = r := List.append_cancel_left (Option.some.inj hfound)
          obtain rfl : p = p' :=
            List.append_cancel_right (List.append_cancel_right ht)
          rw [ih hr']

/-- Joined with `sub` the parts are the text again. -/
theorem Pieces.join (h : Pieces sub t ps) : sub.intercalate ps = t := by
  induction h with
  | last _ => exact List.intercalate_singleton
  | @cut p r ps _ hr ih =>
      obtain ⟨q, qs, rfl⟩ := List.exists_cons_of_ne_nil hr.ne_nil
      rw [List.intercalate_cons_cons, ih]

/-- What is in the joined text is in the text or in what joins it. -/
theorem Pieces.mem_join (h : Pieces sub t ps) {rep : List α} {a : α}
    (ha : a ∈ rep.intercalate ps) : a ∈ rep ∨ a ∈ t := by
  induction h with
  | last _ =>
      rw [List.intercalate_singleton] at ha
      exact Or.inr ha
  | @cut p r ps _ hr ih =>
      obtain ⟨q, qs, rfl⟩ := List.exists_cons_of_ne_nil hr.ne_nil
      rw [List.intercalate_cons_cons, List.mem_append, List.mem_append] at ha
      rcases ha with (ha | ha) | ha
      · exact Or.inr (List.mem_append_left r (List.mem_append_left sub ha))
      · exact Or.inl ha
      · exact (ih ha).imp_right fun hr => List.mem_append_right (p ++ sub) hr

/-- **The length of the text with every occurrence replaced.** -/
theorem Pieces.length_join (h : Pieces sub t ps) (rep : List α) :
    ((rep.intercalate ps).length : ℤ) =
      t.length + ((rep.length : ℤ) - sub.length) * ((ps.length : ℤ) - 1) := by
  induction h with
  | last _ => simp
  | @cut p r ps _ hr ih =>
      obtain ⟨q, qs, rfl⟩ := List.exists_cons_of_ne_nil hr.ne_nil
      rw [List.intercalate_cons_cons, List.length_append, List.length_append]
      push_cast
      rw [ih]
      simp only [List.length_append, List.length_cons]
      push_cast
      ring

/-- Replacing changes nothing where nothing occurs, and where the replacement is
what it replaces. -/
theorem Pieces.join_eq_self_iff (h : Pieces sub t ps) (rep : List α) :
    rep.intercalate ps = t ↔ ¬ sub <:+: t ∨ rep = sub := by
  constructor
  · intro heq
    have hlen := h.length_join rep
    cases h with
    | last hno => exact Or.inl hno
    | @cut p r ps hfirst hr =>
        right
        obtain ⟨q, qs, rfl⟩ := List.exists_cons_of_ne_nil hr.ne_nil
        rw [heq] at hlen
        -- The lengths only agree if nothing is gained with a replacement.
        have hprod : ((rep.length : ℤ) - sub.length) * (qs.length + 1) = 0 := by
          simp only [List.length_cons] at hlen
          push_cast at hlen
          linarith
        have hzero : (rep.length : ℤ) - sub.length = 0 := by
          rcases mul_eq_zero.mp hprod with hz | hz
          · exact hz
          · omega
        rw [List.intercalate_cons_cons, List.append_assoc, List.append_assoc]
          at heq
        exact (List.append_inj (List.append_cancel_left heq) (by omega)).1
  · rintro (hno | rfl)
    · rw [h.unique (.last hno)]
      exact List.intercalate_singleton
    · exact h.join

end Pieces

end Xupnp.Library
