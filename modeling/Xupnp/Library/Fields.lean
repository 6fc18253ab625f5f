import Mathlib.Data.List.Infix
import Mathlib.Data.List.TakeWhile

/-!
# Named fields in a text

A text `name:value;name:value;…` is read by looking for the first occurrence of
`name:` and taking what follows up to the next separator. That finds the value
of the name as long as no name is the end of one in front of it and the two
separators are in no name and no value (`field_encodeFields`): an occurrence
can then neither begin within a value nor run over a separator.
-/

namespace Xupnp.Library

variable {α : Type*} [DecidableEq α]

/-- The text from the first occurrence of `key` on: `strstr`. -/
def strstr (text key : List α) : Option (List α) :=
  text.tails.find? fun t => key.isPrefixOf t

/-- What follows the first occurrence of `key`, up to `semi`. -/
def field (semi : α) (text key : List α) : Option (List α) :=
  (strstr text key).map fun t => (t.drop key.length).takeWhile (· ≠ semi)

/-- The fields one after the other, with `semi` between them. -/
def encodeFields (colon semi : α) : List (List α × List α) → List α
  | [] => []
  | [f] => f.1 ++ colon :: f.2
  | f :: fs => f.1 ++ colon :: (f.2 ++ semi :: encodeFields colon semi fs)

/-! ## The search, one element at a time -/

section Search

variable {colon semi a : α} {key name n v t w rest text : List α}

theorem strstr_eq_none_iff : strstr text key = none ↔ ¬ key <:+: text := by
  rw [strstr, List.find?_eq_none, List.infix_iff_prefix_suffix]
  simp only [List.mem_tails, List.isPrefixOf_iff_prefix, not_exists, not_and]
  exact forall_congr' fun _ => imp_not_comm

theorem strstr_prefixed (h : key <+: text) : strstr text key = some text := by
  rw [strstr]
  cases text with
  | nil =>
      obtain rfl := List.prefix_nil.mp h
      rfl
  | cons a text =>
      rw [List.tails_cons, List.find?_cons_of_pos]
      simpa using h

theorem suffix_of_strstr (h : strstr text key = some t) : t <:+ text := by
  simpa using List.mem_of_find?_eq_some h

theorem prefix_of_strstr (h : strstr text key = some t) : key <+: t :=
  List.isPrefixOf_iff_prefix.mp (List.find?_some h)

theorem strstr_cons_not_prefixed (h : ¬ key <+: a :: text) :
    strstr (a :: text) key = strstr text key := by
  rw [strstr, List.tails_cons, List.find?_cons_of_neg]
  · rfl
  · simpa using h

/-- Two lists that reach their first `colon` together are equal up to it. -/
theorem eq_of_append_colon_prefix (hname : colon ∉ name) (ht : colon ∉ t)
    (h : name ++ [colon] <+: t ++ colon :: w) : name = t := by
  obtain ⟨r, hr⟩ := h
  have htake : ∀ {l : List α} (m : List α), colon ∉ l →
      (l ++ colon :: m).takeWhile (· ≠ colon) = l := by
    intro l m hl
    rw [List.takeWhile_append_of_pos]
    · simp
    · intro b hb
      apply decide_eq_true
      rintro rfl
      exact hl hb
  rw [List.append_assoc, List.singleton_append] at hr
  rw [← htake r hname, hr, htake w ht]

omit [DecidableEq α] in
/-- A key without `semi` that begins in front of a `semi` ends there too. -/
theorem prefix_of_prefix_append (hkey : semi ∉ key)
    (h : key <+: t ++ semi :: rest) : key <+: t := by
  rcases le_total key.length t.length with hle | hle
  · exact List.prefix_of_prefix_length_le h (List.prefix_append t _) hle
  · obtain ⟨u, rfl⟩ : t <+: key :=
      List.prefix_of_prefix_length_le (List.prefix_append t _) h hle
    rw [List.prefix_append_right_inj] at h
    cases u with
    | nil => simp
    | cons b u =>
        obtain ⟨rfl, -⟩ := List.cons_prefix_cons.mp h
        exact absurd (by simp) hkey

/-- The search passes over a name that does not end in the one looked for. -/
theorem strstr_skip_name (hname : colon ∉ name) (hn : colon ∉ n)
    (hend : ¬ name <:+ n) :
    strstr (n ++ colon :: w) (name ++ [colon]) =
      strstr w (name ++ [colon]) := by
  induction n with
  | nil =>
      apply strstr_cons_not_prefixed
      intro h
      have heq : name = [] := eq_of_append_colon_prefix hname hn h
      exact hend (heq ▸ List.suffix_refl [])
  | cons b n ih =>
      have hskip : strstr (b :: (n ++ colon :: w)) (name ++ [colon]) =
          strstr (n ++ colon :: w) (name ++ [colon]) := by
        apply strstr_cons_not_prefixed
        intro h
        have heq : name = b :: n := eq_of_append_colon_prefix hname hn h
        exact hend (heq ▸ List.suffix_refl _)
      rw [List.cons_append, hskip]
      apply ih
      · exact fun h => hn (List.mem_cons_of_mem b h)
      · exact fun h => hend (h.trans (List.suffix_cons b n))

/-- The search passes over a value. -/
theorem strstr_skip_value (hv : colon ∉ v) (hname : semi ∉ name)
    (hne : colon ≠ semi) :
    strstr (v ++ semi :: rest) (name ++ [colon]) =
      strstr rest (name ++ [colon]) := by
  have hkey : semi ∉ name ++ [colon] := by simp [hname, hne.symm]
  have hmem : colon ∈ name ++ [colon] := by simp
  induction v with
  | nil =>
      apply strstr_cons_not_prefixed
      intro h
      have hnil : name ++ [colon] <+: [] := prefix_of_prefix_append hkey h
      exact hv (hnil.subset hmem)
  | cons b v ih =>
      have hskip : strstr (b :: (v ++ semi :: rest)) (name ++ [colon]) =
          strstr (v ++ semi :: rest) (name ++ [colon]) := by
        apply strstr_cons_not_prefixed
        intro h
        have hpre : name ++ [colon] <+: b :: v :=
          prefix_of_prefix_append hkey h
        exact hv (hpre.subset hmem)
      rw [List.cons_append, hskip]
      exact ih fun h => hv (List.mem_cons_of_mem b h)

/-- A field at the front is read up to its end. -/
theorem field_front (rest : List α) (hsemi : semi ∉ v) :
    field semi (name ++ colon :: v) (name ++ [colon]) = some v ∧
      field semi (name ++ colon :: (v ++ semi :: rest)) (name ++ [colon]) =
        some v := by
  have hall : ∀ b ∈ v, decide (b ≠ semi) = true := by
    intro b hb
    apply decide_eq_true
    rintro rfl
    exact hsemi hb
  have hfront : ∀ w : List α, field semi (name ++ colon :: w)
      (name ++ [colon]) = some (w.takeWhile (· ≠ semi)) := by
    intro w
    have hsplit : name ++ colon :: w = (name ++ [colon]) ++ w := by simp
    rw [field, hsplit, strstr_prefixed (List.prefix_append _ w),
      Option.map_some, List.drop_left]
  rw [hfront, hfront]
  constructor
  · rw [List.takeWhile_eq_self_iff.mpr hall]
  · rw [List.takeWhile_append_of_pos hall]
    simp

end Search

/-! ## Reading what was written -/

section Encode

variable {colon semi : α} {fs : List (List α × List α)}

/-- The separators are in no name and no value. -/
def SeparatorFree (colon semi : α) (fs : List (List α × List α)) : Prop :=
  ∀ f ∈ fs, colon ∉ f.1 ∧ semi ∉ f.1 ∧ colon ∉ f.2 ∧ semi ∉ f.2

/-- No name is the end of one in front of it. -/
def NamesApart (fs : List (List α × List α)) : Prop :=
  fs.Pairwise fun f g => ¬ g.1 <:+ f.1

/-- **Round trip.** Every name finds its own value. -/
theorem field_encodeFields (hne : colon ≠ semi)
    (hsep : SeparatorFree colon semi fs) (hapart : NamesApart fs)
    {name value : List α} (hmem : (name, value) ∈ fs) :
    field semi (encodeFields colon semi fs) (name ++ [colon]) = some value := by
  induction fs with
  | nil => cases hmem
  | cons f fs ih =>
      obtain ⟨hfront, hrest⟩ := List.pairwise_cons.mp hapart
      obtain ⟨hcn, hsn, hcv, hsv⟩ := hsep f List.mem_cons_self
      rcases List.mem_cons.mp hmem with rfl | hmem
      · cases fs with
        | nil => exact (field_front [] hsv).1
        | cons g fs => exact (field_front _ hsv).2
      · obtain ⟨hcn', hsn', -, -⟩ := hsep _ (List.mem_cons_of_mem f hmem)
        have hskip : field semi (encodeFields colon semi (f :: fs))
            (name ++ [colon]) =
              field semi (encodeFields colon semi fs) (name ++ [colon]) := by
          cases fs with
          | nil => cases hmem
          | cons g fs =>
              rw [field, encodeFields,
                strstr_skip_name hcn' hcn (hfront _ hmem),
                strstr_skip_value hcv hsn' hne, field]
              exact nofun
        rw [hskip]
        apply ih _ hrest hmem
        exact fun g hg => hsep g (List.mem_cons_of_mem f hg)

end Encode

end Xupnp.Library
