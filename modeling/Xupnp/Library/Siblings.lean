import Mathlib.Data.List.Infix

/-!
# Trees of siblings

A node points to its first child and to its next sibling, and its position is
the way to it along these pointers. In document order a node is in front of
what is below it, and that is in front of its next siblings. A search that goes
down before it goes on finds the first node of a kind in that order
(`first_of_find?`, `find?_of_first`), and replacing a node leaves every other
one that is not below it where it was (`labelAt_replaceAt`).
-/

namespace Xupnp.Library

/-- A node, what is below it and what comes next to it. -/
inductive Siblings (α : Type*) where
  | nil
  | node (label : α) (children next : Siblings α)

/-- A pointer of a node. -/
inductive Step where
  | child
  | next
deriving DecidableEq

abbrev Pos := List Step

/-- What is below a node comes in front of its next siblings. -/
inductive Step.Lt : Step → Step → Prop
  | child_next : Step.Lt .child .next

namespace Pos

/-- Document order. -/
abbrev Before : Pos → Pos → Prop := List.Lex Step.Lt

/-- The second node is below the first one. -/
def Below (p q : Pos) : Prop := p ++ [.child] <+: q

variable {p q r : Pos} {s : Step}

theorem not_before_nil : ¬ Before p [] := List.not_lex_nil

theorem before_cons : Before (s :: p) (s :: q) ↔ Before p q := by
  constructor
  · intro h
    cases h with
    | rel h => cases h
    | cons h => exact h
  · exact .cons

theorem before_child_next : Before (.child :: p) (.next :: q) :=
  .rel .child_next

theorem not_before_next_child : ¬ Before (.next :: p) (.child :: q) := by
  intro h
  cases h with
  | rel h => cases h

theorem before_trichotomy (p q : Pos) : Before p q ∨ p = q ∨ Before q p := by
  induction p generalizing q with
  | nil =>
      cases q with
      | nil => exact .inr (.inl rfl)
      | cons s q => exact .inl .nil
  | cons s p ih =>
      cases q with
      | nil => exact .inr (.inr .nil)
      | cons t q =>
          rcases ih q with h | rfl | h
          · cases s <;> cases t
            · exact .inl (.cons h)
            · exact .inl before_child_next
            · exact .inr (.inr before_child_next)
            · exact .inl (.cons h)
          · cases s <;> cases t
            · exact .inr (.inl rfl)
            · exact .inl before_child_next
            · exact .inr (.inr before_child_next)
            · exact .inr (.inl rfl)
          · cases s <;> cases t
            · exact .inr (.inr (.cons h))
            · exact .inl before_child_next
            · exact .inr (.inr before_child_next)
            · exact .inr (.inr (.cons h))

/-- A node is in front of what its pointers lead to. -/
theorem not_before_append : ¬ Before (p ++ q) p := by
  induction p with
  | nil => exact not_before_nil
  | cons s p ih => exact fun h => ih (before_cons.mp h)

theorem Before.not_below (h : Before q p) : ¬ Below p q := by
  rintro ⟨r, rfl⟩
  rw [List.append_assoc] at h
  exact not_before_append h

theorem Before.ne (h : Before q p) : q ≠ p := by
  rintro rfl
  have hnil : ¬ Before (q ++ []) q := not_before_append
  rw [List.append_nil] at hnil
  exact hnil h

theorem below_cons : Below (s :: p) (s :: q) ↔ Below p q := by
  simp [Below]

end Pos

namespace Siblings

open Pos

variable {α : Type*}

/-- The node at a position, with what is below it. -/
def nodeAt : Siblings α → Pos → Option (α × Siblings α)
  | .nil, _ => none
  | .node a c _, [] => some (a, c)
  | .node _ c _, .child :: p => c.nodeAt p
  | .node _ _ n, .next :: p => n.nodeAt p

def labelAt (t : Siblings α) (p : Pos) : Option α := (t.nodeAt p).map Prod.fst

/-- Another node, with what is below it, at a position. -/
def replaceAt : Siblings α → Pos → α × Siblings α → Siblings α
  | .nil, _, _ => .nil
  | .node _ _ n, [], x => .node x.1 x.2 n
  | .node a c n, .child :: p, x => .node a (c.replaceAt p x) n
  | .node a c n, .next :: p, x => .node a c (n.replaceAt p x)

/-- A search that goes down before it goes on. -/
def find? (P : α → Bool) : Siblings α → Option (Pos × α)
  | .nil => none
  | .node a c n =>
      if P a then some ([], a)
      else
        match c.find? P with
        | some (p, b) => some (.child :: p, b)
        | none =>
            match n.find? P with
            | some (p, b) => some (.next :: p, b)
            | none => none

/-- The first node of a kind in document order. -/
structure First (P : α → Prop) (t : Siblings α) (p : Pos) : Prop where
  here : ∃ a ∈ t.labelAt p, P a
  before : ∀ q, Before q p → ∀ a ∈ t.labelAt q, ¬ P a

/-! ## Searching -/

section Search

variable {P : α → Bool} {t c n : Siblings α} {p q : Pos} {a b : α}

@[simp] theorem labelAt_node : (node a c n).labelAt [] = some a := rfl

@[simp] theorem labelAt_child :
    (node a c n).labelAt (.child :: p) = c.labelAt p := rfl

@[simp] theorem labelAt_next :
    (node a c n).labelAt (.next :: p) = n.labelAt p := rfl

theorem find?_eq_none (h : t.find? P = none) :
    ∀ q, ∀ a ∈ t.labelAt q, P a = false := by
  induction t with
  | nil => intro q a ha; cases ha
  | node b c n ihc ihn =>
      rw [find?] at h
      split at h
      · cases h
      · next hb =>
          split at h
          · cases h
          · next hc =>
              split at h
              · cases h
              · next hn =>
                  intro q a ha
                  rcases q with _ | ⟨_ | _, q⟩
                  · obtain rfl : b = a := by simpa using ha
                    simpa using hb
                  · exact ihc hc q a ha
                  · exact ihn hn q a ha

/-- What the search finds is of the kind, and nothing in front of it is. -/
theorem find?_eq_some (h : t.find? P = some (p, a)) :
    t.labelAt p = some a ∧ P a = true ∧
      ∀ q, Before q p → ∀ b ∈ t.labelAt q, P b = false := by
  induction t generalizing p with
  | nil => cases h
  | node b c n ihc ihn =>
      rw [find?] at h
      split at h
      · next hb =>
          cases h
          exact ⟨rfl, hb, fun q hq => absurd hq not_before_nil⟩
      · next hb =>
          have hroot : P b = false := by simpa using hb
          split at h
          · next p' a' hc =>
              cases h
              obtain ⟨hlabel, hP, hbefore⟩ := ihc hc
              refine ⟨hlabel, hP, fun q hq x hx => ?_⟩
              rcases q with _ | ⟨_ | _, q⟩
              · obtain rfl : b = x := by simpa using hx
                exact hroot
              · exact hbefore q (before_cons.mp hq) x hx
              · exact absurd hq not_before_next_child
          · next hc =>
              split at h
              · next p' a' hn =>
                  cases h
                  obtain ⟨hlabel, hP, hbefore⟩ := ihn hn
                  refine ⟨hlabel, hP, fun q hq x hx => ?_⟩
                  rcases q with _ | ⟨_ | _, q⟩
                  · obtain rfl : b = x := by simpa using hx
                    exact hroot
                  · exact find?_eq_none hc q x hx
                  · exact hbefore q (before_cons.mp hq) x hx
              · cases h

/-- **The search finds the first one.** -/
theorem first_of_find? (h : t.find? P = some (p, a)) :
    First (P · = true) t p := by
  obtain ⟨hlabel, hP, hbefore⟩ := find?_eq_some h
  exact ⟨⟨a, hlabel, hP⟩, fun q hq b hb => by simp [hbefore q hq b hb]⟩

theorem First.holds {P : α → Prop} (h : First P t p)
    (ha : t.labelAt p = some a) : P a := by
  obtain ⟨b, hb, hP⟩ := h.here
  obtain rfl : a = b := Option.some.inj (ha.symm.trans hb)
  exact hP

theorem First.unique {P : α → Prop} (hp : First P t p) (hq : First P t q) :
    p = q := by
  rcases before_trichotomy p q with h | h | h
  · obtain ⟨a, ha, hP⟩ := hp.here
    exact absurd hP (hq.before p h a ha)
  · exact h
  · obtain ⟨a, ha, hP⟩ := hq.here
    exact absurd hP (hp.before q h a ha)

/-- The first one is found. -/
theorem find?_of_first (h : First (P · = true) t p) :
    ∃ a, t.labelAt p = some a ∧ t.find? P = some (p, a) := by
  cases hfind : t.find? P with
  | none =>
      obtain ⟨a, ha, hP⟩ := h.here
      rw [find?_eq_none hfind p a ha] at hP
      cases hP
  | some x =>
      obtain ⟨q, a⟩ := x
      obtain rfl := h.unique (first_of_find? hfind)
      exact ⟨a, (find?_eq_some hfind).1, rfl⟩

/-- If there is one of the kind there is a first one. -/
theorem exists_first {P : α → Prop} (ha : t.labelAt q = some a) (hP : P a) :
    ∃ p, First P t p := by
  classical
  cases hfind : t.find? fun b => decide (P b) with
  | none =>
      have hno := find?_eq_none hfind q a ha
      exact absurd hP (of_decide_eq_false hno)
  | some x =>
      obtain ⟨p, b⟩ := x
      obtain ⟨hlabel, hb, hbefore⟩ := find?_eq_some hfind
      exact ⟨p, ⟨b, hlabel, of_decide_eq_true hb⟩, fun q hq c hc =>
        of_decide_eq_false (hbefore q hq c hc)⟩

end Search

/-! ## Replacing -/

section Replace

variable {P : α → Prop} {t : Siblings α} {p q r : Pos} {a : α}
  {x : α × Siblings α}

theorem nodeAt_replaceAt_self (h : (t.labelAt p).isSome) :
    (t.replaceAt p x).nodeAt p = some x := by
  induction t generalizing p with
  | nil => cases h
  | node b c n ihc ihn =>
      rcases p with _ | ⟨_ | _, p⟩
      · rfl
      · exact ihc h
      · exact ihn h

theorem labelAt_replaceAt_self (h : (t.labelAt p).isSome) :
    (t.replaceAt p x).labelAt p = some x.1 := by
  rw [labelAt, nodeAt_replaceAt_self h]
  rfl

/-- What is below the new node. -/
theorem labelAt_replaceAt_below (h : (t.labelAt p).isSome) :
    (t.replaceAt p x).labelAt (p ++ .child :: r) = x.2.labelAt r := by
  induction t generalizing p with
  | nil => cases h
  | node b c n ihc ihn =>
      rcases p with _ | ⟨_ | _, p⟩
      · rfl
      · exact ihc h
      · exact ihn h

/-- **The other nodes stay.** -/
theorem labelAt_replaceAt (hne : q ≠ p) (hbelow : ¬ Below p q) :
    (t.replaceAt p x).labelAt q = t.labelAt q := by
  induction t generalizing p q with
  | nil => rfl
  | node b c n ihc ihn =>
      rcases p with _ | ⟨_ | _, p⟩
      · rcases q with _ | ⟨_ | _, q⟩
        · exact absurd rfl hne
        · exact absurd ⟨q, rfl⟩ hbelow
        · rfl
      · rcases q with _ | ⟨_ | _, q⟩
        · rfl
        · exact ihc (fun h => hne (congrArg _ h))
            (fun h => hbelow (below_cons.mpr h))
        · rfl
      · rcases q with _ | ⟨_ | _, q⟩
        · rfl
        · rfl
        · exact ihn (fun h => hne (congrArg _ h))
            (fun h => hbelow (below_cons.mpr h))

/-- So do the nodes below them, if the new one is not among these. -/
theorem nodeAt_replaceAt (hne : q ≠ p) (hbelow : ¬ Below p q)
    (habove : ¬ Below q p) : (t.replaceAt p x).nodeAt q = t.nodeAt q := by
  induction t generalizing p q with
  | nil => rfl
  | node b c n ihc ihn =>
      rcases p with _ | ⟨_ | _, p⟩
      · rcases q with _ | ⟨_ | _, q⟩
        · exact absurd rfl hne
        · exact absurd ⟨q, rfl⟩ hbelow
        · rfl
      · rcases q with _ | ⟨_ | _, q⟩
        · exact absurd ⟨p, rfl⟩ habove
        · exact ihc (fun h => hne (congrArg _ h))
            (fun h => hbelow (below_cons.mpr h))
            (fun h => habove (below_cons.mpr h))
        · rfl
      · rcases q with _ | ⟨_ | _, q⟩
        · rfl
        · rfl
        · exact ihn (fun h => hne (congrArg _ h))
            (fun h => hbelow (below_cons.mpr h))
            (fun h => habove (below_cons.mpr h))

/-- What is in front of the new node stays. -/
theorem labelAt_replaceAt_before (h : Before q p) :
    (t.replaceAt p x).labelAt q = t.labelAt q :=
  labelAt_replaceAt h.ne h.not_below

/-- The first of a kind is still the first when another of its kind is put in
its place. -/
theorem First.replaceAt (h : First P t p) (hx : P x.1) :
    First P (t.replaceAt p x) p := by
  obtain ⟨a, ha, -⟩ := h.here
  refine ⟨⟨x.1, ?_, hx⟩, fun q hq b hb => ?_⟩
  · exact labelAt_replaceAt_self (Option.isSome_of_mem ha)
  · rw [labelAt_replaceAt_before hq] at hb
    exact h.before q hq b hb

end Replace

end Siblings

end Xupnp.Library
