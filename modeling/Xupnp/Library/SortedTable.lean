import Mathlib.Data.List.Sort
import Mathlib.Order.Basic

/-!
# Tables ordered by a key

A list of entries in strictly increasing order of a key is a finite map that
is kept sorted: at most one entry has a given key. The order is a field of the
structure, so every table is sorted; `insert` replaces what has the key of the
new entry and `erase` drops it.
-/

namespace Xupnp.Library

variable {α κ : Type*} [LinearOrder κ] {key : α → κ}

/-- Entries in strictly increasing order of their keys. -/
structure SortedTable (key : α → κ) where
  entries : List α
  sorted : entries.Pairwise fun a b => key a < key b

/-- In strictly increasing order the first entry with a key is the only one. -/
theorem eraseP_eq_filter {l : List α}
    (h : l.Pairwise fun a b => key a < key b) (k : κ) :
    l.eraseP (fun a => key a = k) = l.filter fun a => key a ≠ k := by
  induction l with
  | nil => rfl
  | cons a l ih =>
      obtain ⟨hlt, hl⟩ := List.pairwise_cons.mp h
      by_cases hk : key a = k
      · rw [List.eraseP_cons_of_pos (by simpa using hk)]
        rw [List.filter_cons_of_neg (by simpa using hk), eq_comm,
          List.filter_eq_self]
        exact fun b hb => by simpa using (hk ▸ hlt b hb).ne'
      · rw [List.eraseP_cons_of_neg (by simpa using hk), ih hl,
          List.filter_cons_of_pos (by simpa using hk)]

/-- Inserting an entry of a new key in order keeps the order strict. -/
theorem pairwise_orderedInsert {l : List α} {a : α}
    (h : l.Pairwise fun a b => key a < key b) (ha : ∀ b ∈ l, key b ≠ key a) :
    (l.orderedInsert (fun a b => key a ≤ key b) a).Pairwise
      fun a b => key a < key b := by
  induction l with
  | nil => simp
  | cons b l ih =>
      obtain ⟨hlt, hl⟩ := List.pairwise_cons.mp h
      rw [List.orderedInsert_cons]
      split
      · rename_i hle
        have hab : key a < key b :=
          lt_of_le_of_ne hle (ha b List.mem_cons_self).symm
        refine List.pairwise_cons.mpr ⟨fun c hc => ?_, h⟩
        rcases List.mem_cons.mp hc with rfl | hc
        · exact hab
        · exact hab.trans (hlt c hc)
      · rename_i hle
        refine List.pairwise_cons.mpr ⟨fun c hc => ?_,
          ih hl fun c hc => ha c (List.mem_cons_of_mem b hc)⟩
        rcases (List.mem_orderedInsert _).mp hc with rfl | hc
        · exact not_le.mp hle
        · exact hlt c hc

namespace SortedTable

/-- The empty table. -/
def nil : SortedTable key := ⟨[], List.Pairwise.nil⟩

/-- Drop what has the key `k`. -/
def erase (t : SortedTable key) (k : κ) : SortedTable key :=
  ⟨t.entries.filter fun a => key a ≠ k, t.sorted.filter _⟩

/-- Put `a` in, in place of what has its key. -/
def insert (t : SortedTable key) (a : α) : SortedTable key :=
  ⟨(t.erase (key a)).entries.orderedInsert (fun a b => key a ≤ key b) a,
    pairwise_orderedInsert (t.erase (key a)).sorted fun b hb => by
      simpa using List.of_mem_filter hb⟩

theorem insert_entries (t : SortedTable key) (a : α) :
    (t.insert a).entries =
      (t.erase (key a)).entries.orderedInsert (fun a b => key a ≤ key b) a :=
  rfl

variable {t : SortedTable key} {a b : α} {k : κ}

theorem erase_entries (t : SortedTable key) (k : κ) :
    (t.erase k).entries = t.entries.eraseP fun a => key a = k :=
  (eraseP_eq_filter t.sorted k).symm

@[simp] theorem mem_erase :
    b ∈ (t.erase k).entries ↔ b ∈ t.entries ∧ key b ≠ k := by
  simp [erase]

@[simp] theorem mem_insert :
    b ∈ (t.insert a).entries ↔
      b = a ∨ (b ∈ t.entries ∧ key b ≠ key a) := by
  rw [insert, List.mem_orderedInsert, mem_erase]

/-- Erasing what is not there changes nothing. -/
theorem erase_entries_of_absent (h : ∀ a ∈ t.entries, key a ≠ k) :
    (t.erase k).entries = t.entries :=
  List.filter_eq_self.mpr fun a ha => by simpa using h a ha

/-! ### Looking up -/

/-- The entry of the key `k`. -/
def lookup (t : SortedTable key) (k : κ) : Option α :=
  t.entries.find? fun a => key a = k

theorem lookup_eq_some :
    t.lookup k = some a ↔ a ∈ t.entries ∧ key a = k := by
  constructor
  · intro h
    exact ⟨List.mem_of_find?_eq_some h, by simpa using List.find?_some h⟩
  · rintro ⟨ha, rfl⟩
    rw [lookup, List.find?_eq_some_iff_append]
    obtain ⟨l₁, l₂, hl⟩ := List.append_of_mem ha
    refine ⟨by simp, l₁, l₂, hl, fun b hb => ?_⟩
    have hlt := t.sorted
    rw [hl, List.pairwise_append] at hlt
    simpa using (hlt.2.2 b hb a List.mem_cons_self).ne

/-- Entries that differ in other keys only are found alike. -/
theorem lookup_congr {t' : SortedTable key}
    (h : ∀ a, key a = k → (a ∈ t'.entries ↔ a ∈ t.entries)) :
    t'.lookup k = t.lookup k := by
  ext a
  rw [lookup_eq_some, lookup_eq_some]
  constructor
  · rintro ⟨ha, hk⟩
    exact ⟨(h a hk).mp ha, hk⟩
  · rintro ⟨ha, hk⟩
    exact ⟨(h a hk).mpr ha, hk⟩

theorem lookup_insert_of_ne (h : key a ≠ k) :
    (t.insert a).lookup k = t.lookup k := by
  apply lookup_congr
  rintro b rfl
  rw [mem_insert]
  constructor
  · rintro (rfl | ⟨hb, -⟩)
    · exact absurd rfl h
    · exact hb
  · exact fun hb => Or.inr ⟨hb, h.symm⟩

theorem lookup_erase_of_ne {k' : κ} (h : k' ≠ k) :
    (t.erase k').lookup k = t.lookup k := by
  apply lookup_congr
  rintro b rfl
  rw [mem_erase]
  exact and_iff_left h.symm

end SortedTable

end Xupnp.Library
