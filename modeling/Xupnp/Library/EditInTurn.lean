import Xupnp.Library.Siblings

/-!
# Editing named nodes one after the other

An edit goes to the first node of a name. It leaves the name there, and puts no
named node below. Edits of several names that are made one after the other come
out as if each had been made alone in the tree there was at first, as long as
none of the nodes is below another one (`SetInTurn.edited`); and where each name
is still at its place afterwards, none was (`SetInTurn.apart`).
-/

namespace Xupnp.Library.Siblings

open Pos

/-- What names nodes have, and what an edit makes of a node. -/
structure Editor (α κ ρ : Type*) where
  kind : α → Option κ
  name : ρ → κ
  edit : ρ → α → α × Siblings α
  /-- The search for a name goes on from such a node. -/
  readable : α → Prop
  keeps : ∀ r a, kind (edit r a).1 = kind a
  fresh : ∀ r a q, ∀ b ∈ (edit r a).2.labelAt q, ∀ s, kind b ≠ some (name s)

namespace Editor

variable {α κ ρ : Type*} {E : Editor α κ ρ} {t t' : Siblings α} {p q : Pos}
  {a b : α} {r s : ρ} {rs : List ρ}

/-- The node has the name of the edit. -/
def Named (E : Editor α κ ρ) (r : ρ) (a : α) : Prop :=
  E.kind a = some (E.name r)

/-- Each edit is made at the first node of its name, in the tree that the ones
before it left. -/
inductive SetInTurn (E : Editor α κ ρ) :
    Siblings α → List ρ → Siblings α → Prop
  | nil {t : Siblings α} : SetInTurn E t [] t
  | cons {t t' : Siblings α} {p : Pos} {a : α} {r : ρ} {rs : List ρ}
      (first : First (E.Named r) t p) (label : t.labelAt p = some a)
      (readable : ∀ q, Before q p → ∀ b ∈ t.labelAt q, E.readable b)
      (rest : SetInTurn E (t.replaceAt p (E.edit r a)) rs t') :
      SetInTurn E t (r :: rs) t'

/-- None of the first nodes of the names is below another one. -/
def Apart (E : Editor α κ ρ) (t : Siblings α) (rs : List ρ) : Prop :=
  ∀ r ∈ rs, ∀ s ∈ rs, ∀ p q, First (E.Named r) t p → First (E.Named s) t q →
    ¬ Below p q

/-- The first node of each name is edited, and nothing else. -/
structure Edited (E : Editor α κ ρ) (t t' : Siblings α) (rs : List ρ) :
    Prop where
  set : ∀ r ∈ rs, ∃ p a, First (E.Named r) t p ∧ t.labelAt p = some a ∧
    First (E.Named r) t' p ∧ t'.nodeAt p = some (E.edit r a)
  others : ∀ q, (∀ r ∈ rs, ∀ p, First (E.Named r) t p →
    q ≠ p ∧ ¬ Below p q) → t'.labelAt q = t.labelAt q
  untouched : ∀ q, (∀ r ∈ rs, ∀ p, First (E.Named r) t p →
    q ≠ p ∧ ¬ Below p q ∧ ¬ Below q p) → t'.nodeAt q = t.nodeAt q

/-! ## One edit -/

/-- A named node is not below an edited one, and it was there before. -/
theorem named_of_replaceAt (hlabel : t.labelAt p = some a)
    (hb : (t.replaceAt p (E.edit r a)).labelAt q = some b)
    (hname : E.Named s b) :
    ¬ Below p q ∧ ∃ c, t.labelAt q = some c ∧ E.Named s c := by
  have hsome : (t.labelAt p).isSome := Option.isSome_of_mem hlabel
  have hbelow : ¬ Below p q := by
    rintro ⟨k, rfl⟩
    rw [List.append_assoc, List.singleton_append,
      labelAt_replaceAt_below hsome] at hb
    exact E.fresh r a k b hb s hname
  refine ⟨hbelow, ?_⟩
  by_cases hqp : q = p
  · rw [hqp, labelAt_replaceAt_self hsome] at hb
    obtain rfl := Option.some.inj hb
    exact ⟨a, hqp ▸ hlabel, (E.keeps r a).symm.trans hname⟩
  · rw [labelAt_replaceAt hqp hbelow] at hb
    exact ⟨b, hb, hname⟩

/-- A node that comes first in the old tree does so in the new one, if it is
still there. -/
theorem first_replaceAt (hlabel : t.labelAt p = some a)
    (hfirst : First (E.Named s) t q)
    (hb : (t.replaceAt p (E.edit r a)).labelAt q = some b)
    (hname : E.Named s b) :
    First (E.Named s) (t.replaceAt p (E.edit r a)) q := by
  refine ⟨⟨b, hb, hname⟩, fun q' hq' c hc hname' => ?_⟩
  obtain ⟨-, c', hc', hname''⟩ := named_of_replaceAt hlabel hc hname'
  exact hfirst.before q' hq' c' hc' hname''

/-! ## All of them -/

/-- The named nodes were there before. -/
theorem SetInTurn.named (h : E.SetInTurn t rs t') (hb : t'.labelAt q = some b)
    (hname : E.Named s b) : ∃ c, t.labelAt q = some c ∧ E.Named s c := by
  induction h with
  | nil => exact ⟨b, hb, hname⟩
  | cons first label readable rest ih =>
      obtain ⟨c, hc, hname'⟩ := ih hb
      exact (named_of_replaceAt label hc hname').2

/-- Every name is in the tree. -/
theorem SetInTurn.exists_first (h : E.SetInTurn t rs t') (hr : r ∈ rs) :
    ∃ p, First (E.Named r) t p := by
  induction h with
  | nil => cases hr
  | cons first label readable rest ih =>
      rcases List.mem_cons.mp hr with rfl | hr
      · exact ⟨_, first⟩
      · obtain ⟨q, hq⟩ := ih hr
        obtain ⟨b, hb, hname⟩ := hq.here
        obtain ⟨-, c, hc, hname'⟩ := named_of_replaceAt label hb hname
        exact Siblings.exists_first hc hname'

/-- Below a node that kept its place there is no name. -/
theorem SetInTurn.not_below (h : E.SetInTurn t rs t') (hr : r ∈ rs)
    (hp : First (E.Named r) t p) (hp' : First (E.Named r) t' p)
    (hb : t'.labelAt q = some b) (hname : E.Named s b) : ¬ Below p q := by
  induction h with
  | nil => cases hr
  | cons first label readable rest ih =>
      rcases List.mem_cons.mp hr with rfl | hr
      · obtain rfl := hp.unique first
        obtain ⟨c, hc, hname'⟩ := rest.named hb hname
        exact (named_of_replaceAt label hc hname').1
      · obtain ⟨x, hx, hxname⟩ := hp'.here
        obtain ⟨c, hc, hname'⟩ := rest.named hx hxname
        exact ih hr (first_replaceAt label hp hc hname') hp' hb

/-- **Names that kept their places were apart.** -/
theorem SetInTurn.apart (h : E.SetInTurn t rs t')
    (hkept : ∀ r ∈ rs, ∃ p, First (E.Named r) t p ∧ First (E.Named r) t' p) :
    E.Apart t rs := by
  intro r hr s hs p q hp hq
  obtain ⟨p', hp', hpt'⟩ := hkept r hr
  obtain rfl := hp.unique hp'
  obtain ⟨q', hq', hqt'⟩ := hkept s hs
  obtain rfl := hq.unique hq'
  obtain ⟨b, hb, hname⟩ := hqt'.here
  exact h.not_below hr hp hpt' hb hname

/-- The first nodes of the other names are apart from the edited one. -/
theorem Apart.away (h : E.Apart t (r :: rs)) (hp : First (E.Named r) t p)
    (hnotin : E.name r ∉ rs.map E.name) (hs : s ∈ rs)
    (hq : First (E.Named s) t q) : q ≠ p ∧ ¬ Below p q ∧ ¬ Below q p := by
  have hr := @List.mem_cons_self _ r rs
  have hs' := List.mem_cons_of_mem r hs
  refine ⟨?_, h r hr s hs' p q hp hq, h s hs' r hr q p hq hp⟩
  rintro rfl
  obtain ⟨b, hb, hname⟩ := hp.here
  have hname' : E.Named s b := hq.holds hb
  have heq : E.name r = E.name s := Option.some.inj (hname.symm.trans hname')
  exact hnotin (heq ▸ List.mem_map_of_mem hs)

/-- The edit leaves them where they are. -/
theorem Apart.first_iff (h : E.Apart t (r :: rs)) (hp : First (E.Named r) t p)
    (hlabel : t.labelAt p = some a) (hnotin : E.name r ∉ rs.map E.name)
    (hs : s ∈ rs) :
    First (E.Named s) (t.replaceAt p (E.edit r a)) q ↔
      First (E.Named s) t q := by
  have hstay : ∀ q, First (E.Named s) t q →
      First (E.Named s) (t.replaceAt p (E.edit r a)) q := by
    intro q hq
    obtain ⟨hne, hbelow, -⟩ := h.away hp hnotin hs hq
    obtain ⟨b, hb, hname⟩ := hq.here
    refine first_replaceAt hlabel hq ?_ hname
    rw [labelAt_replaceAt hne hbelow]
    exact hb
  refine ⟨fun hq => ?_, hstay q⟩
  obtain ⟨b, hb, hname⟩ := hq.here
  obtain ⟨-, c, hc, hname'⟩ := named_of_replaceAt hlabel hb hname
  obtain ⟨q', hq'⟩ := Siblings.exists_first hc hname'
  obtain rfl := (hstay q' hq').unique hq
  exact hq'

/-- The name that was edited is still the first one of its kind at the end. -/
theorem SetInTurn.first (h : E.SetInTurn t (r :: rs) t')
    (hp : First (E.Named r) t p) (hlabel : t.labelAt p = some a)
    (hnode : t'.nodeAt p = some (E.edit r a)) : First (E.Named r) t' p := by
  refine ⟨⟨(E.edit r a).1, ?_, ?_⟩, fun q hq b hb hname => ?_⟩
  · rw [labelAt, hnode]
    rfl
  · exact (E.keeps r a).trans (hp.holds hlabel)
  · obtain ⟨c, hc, hname'⟩ := h.named hb hname
    exact hp.before q hq c hc hname'

/-- **Names that are apart are edited as if alone.** -/
theorem SetInTurn.edited (h : E.SetInTurn t rs t')
    (hnodup : (rs.map E.name).Nodup) (hapart : E.Apart t rs) :
    E.Edited t t' rs := by
  induction h with
  | nil => exact ⟨by simp, fun _ _ => rfl, fun _ _ => rfl⟩
  | @cons t t' p a r rs first label readable rest ih =>
      rw [List.map_cons, List.nodup_cons] at hnodup
      obtain ⟨hnotin, hnodup⟩ := hnodup
      have hfirst : ∀ s ∈ rs, ∀ q,
          First (E.Named s) (t.replaceAt p (E.edit r a)) q ↔
            First (E.Named s) t q :=
        fun s hs q => hapart.first_iff first label hnotin hs
      have hedited := ih hnodup fun s hs s' hs' q q' hq hq' =>
        hapart s (List.mem_cons_of_mem r hs) s' (List.mem_cons_of_mem r hs')
          q q' ((hfirst s hs q).mp hq) ((hfirst s' hs' q').mp hq')
      have hnode : t'.nodeAt p = some (E.edit r a) := by
        rw [hedited.untouched p,
          nodeAt_replaceAt_self (Option.isSome_of_mem label)]
        intro s hs q hq
        obtain ⟨hne, hbelow, habove⟩ :=
          hapart.away first hnotin hs ((hfirst s hs q).mp hq)
        exact ⟨hne.symm, habove, hbelow⟩
      refine ⟨?_, ?_, ?_⟩
      · intro s hs
        rcases List.mem_cons.mp hs with rfl | hs
        · have hturn := SetInTurn.cons first label readable rest
          exact ⟨p, a, first, label, hturn.first first label hnode, hnode⟩
        · obtain ⟨q, b, hq, hb, hq', hnode'⟩ := hedited.set s hs
          have hqt := (hfirst s hs q).mp hq
          obtain ⟨hne, hbelow, -⟩ := hapart.away first hnotin hs hqt
          rw [labelAt_replaceAt hne hbelow] at hb
          exact ⟨q, b, hqt, hb, hq', hnode'⟩
      · intro q hq
        obtain ⟨hne, hbelow⟩ := hq r List.mem_cons_self p first
        rw [hedited.others q, labelAt_replaceAt hne hbelow]
        exact fun s hs q' hq' =>
          hq s (List.mem_cons_of_mem r hs) q' ((hfirst s hs q').mp hq')
      · intro q hq
        obtain ⟨hne, hbelow, habove⟩ := hq r List.mem_cons_self p first
        rw [hedited.untouched q, nodeAt_replaceAt hne hbelow habove]
        exact fun s hs q' hq' =>
          hq s (List.mem_cons_of_mem r hs) q' ((hfirst s hs q').mp hq')

end Editor

end Xupnp.Library.Siblings
