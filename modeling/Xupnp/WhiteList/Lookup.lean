import Mathlib.Tactic
import Xupnp.Library.Links
import Xupnp.WhiteList.Model

/-!
# What `dpnode_lookup` computes

On an entry that heads a chain, the lookup finds the first node of the chain
that holds the address (`dpnodeLookup_hit`), and `*lastnode` is its
predecessor. Where no node holds it (`dpnodeLookup_miss`), `*lastnode` is the
last node but one, not the last.
-/

namespace Xupnp.WhiteList

open Xupnp.Library

theorem dpHashindex_lt (ip : ℤ) : dpHashindex ip < maxEntries := by
  have hfold : ∀ r : ℕ, (if r % 1024 ≠ 0 then r % 1024 - 1 else r % 1024)
      < 1024 := by
    intro r
    split <;> omega
  exact hfold _

theorem dpHashindex_lt_maxBufSize (ip : ℤ) : dpHashindex ip < maxBufSize :=
  (dpHashindex_lt ip).trans (by decide)

theorem toUShort_natCast {i : ℕ} (h : i < 65536) : toUShort (i : ℤ) = i := by
  unfold toUShort
  omega

theorem toShort_of_lt {i : ℕ} (h : i < 32768) : toShort i = (i : ℤ) := by
  unfold toShort
  omega

namespace Wlist

@[simp] theorem slot_eq {w : Wlist} {i : ℕ} (h : i < maxBufSize) :
    w.slot i = .ok (w.slots i) := if_pos h

@[simp] theorem slot_eq_error {w : Wlist} {i : ℕ} (h : ¬ i < maxBufSize) :
    w.slot i = .error .outOfBounds := if_neg h

@[simp] theorem modify_eq {w : Wlist} {i : ℕ} (h : i < maxBufSize)
    (f : DpNode → DpNode) : w.modify i f =
      .ok { w with slots := Function.update w.slots i (f (w.slots i)) } :=
  if_pos h

@[simp] theorem modify_eq_error {w : Wlist} {i : ℕ} (h : ¬ i < maxBufSize)
    (f : DpNode → DpNode) : w.modify i f = .error .outOfBounds := if_neg h

/-- The pointer of entry `i`. -/
def next (w : Wlist) (i : ℕ) : ℤ := (w.slots i).ofbIndex

/-- The address and the MAC characters entry `i` holds. -/
def addr (w : Wlist) (i : ℕ) : ℤ := (w.slots i).ipaddr

def macOf (w : Wlist) (i : ℕ) : List UInt8 := (w.slots i).macaddr.chars

end Wlist

/-- An index of the overflow half of the table. -/
def IsOverflow (j : ℕ) : Prop := maxEntries ≤ j ∧ j < maxBufSize

instance (j : ℕ) : Decidable (IsOverflow j) :=
  inferInstanceAs (Decidable (_ ∧ _))

theorem IsOverflow.pos {j : ℕ} (h : IsOverflow j) : 0 < j :=
  Nat.lt_of_lt_of_le (by decide) h.1

/-- Entry `i` heads the chain `l` of distinct overflow entries, which ends
in 0. -/
structure Chain (w : Wlist) (i : ℕ) (l : List ℕ) : Prop where
  links : Links (fun j : ℕ => (j : ℤ)) 0 w.next i l
  nodup : l.Nodup
  overflow : ∀ j ∈ l, IsOverflow j

namespace Chain

variable {w : Wlist} {i j : ℕ} {l : List ℕ}

theorem unique {l' : List ℕ} (h : Chain w i l) (h' : Chain w i l') : l = l' :=
  h.links.unique (fun _ _ => Int.ofNat_inj.mp)
    (fun j hj => by exact_mod_cast (h.overflow j hj).pos.ne')
    (fun j hj => by exact_mod_cast (h'.overflow j hj).pos.ne') h'.links

theorem next_nonneg (h : Chain w i l) : 0 ≤ w.next i := by
  cases l with
  | nil => exact le_of_eq h.links.symm
  | cons j l => exact h.links.1 ▸ Int.natCast_nonneg j

theorem next_ne (h : Chain w i l) : w.next i ≠ -1 := by
  have := h.next_nonneg
  omega

theorem tail (h : Chain w i (j :: l)) : Chain w j l where
  links := h.links.2
  nodup := h.nodup.of_cons
  overflow k hk := h.overflow k (List.mem_cons_of_mem j hk)

theorem head_overflow (h : Chain w i (j :: l)) : IsOverflow j :=
  h.overflow j List.mem_cons_self

/-- A chain is no longer than the overflow half of the table. -/
theorem length_le (h : Chain w i l) : l.length ≤ maxBufSize := by
  have hsub : l ⊆ List.range maxBufSize := fun j hj =>
    List.mem_range.mpr (h.overflow j hj).2
  simpa using (h.nodup.subperm hsub).length_le

end Chain

/-! ## The walk over the overflow entries -/

section Walk

variable {w : Wlist} {ip : ℤ} {mac : CStr}

theorem dpnodeSearch_nil {fuel i ln : ℕ} (hi : i < maxBufSize)
    (h : Chain w i []) :
    dpnodeSearch w ip mac (fuel + 1) i ln = .ok (-1, .collision, ln) := by
  have hend : (w.slots i).ofbIndex = 0 := h.links
  simp [dpnodeSearch, hi, hend, bind, Except.bind]

theorem dpnodeSearch_cons {fuel i j ln : ℕ} {l : List ℕ} (hi : i < maxBufSize)
    (h : Chain w i (j :: l)) :
    dpnodeSearch w ip mac (fuel + 1) i ln =
      if w.addr j = ip then
        .ok (j, if CStr.strncmpEq mac (w.slots j).macaddr then .collision
          else .invalidMac, i)
      else dpnodeSearch w ip mac fuel j i := by
  have hnext : (w.slots i).ofbIndex = (j : ℤ) := h.links.1
  have hpos : 0 < j := h.head_overflow.pos
  have hj : j < maxBufSize := h.head_overflow.2
  simp only [dpnodeSearch, Wlist.slot_eq hi, Wlist.slot_eq hj, hnext, bind,
    Except.bind, gt_iff_lt, Int.natCast_pos, hpos, if_true, Int.toNat_natCast]
  rfl

/-- **A walk that finds nothing.** It stops at the end of the chain, and the
`lastnode` it leaves is the node before the last. -/
theorem dpnodeSearch_miss {fuel i ln : ℕ} {l : List ℕ} (hi : i < maxBufSize)
    (h : Chain w i l) (hfuel : l.length < fuel)
    (hmiss : ∀ j ∈ l, w.addr j ≠ ip) :
    dpnodeSearch w ip mac fuel i ln =
      .ok (-1, .collision, (i :: l).dropLast.getLastD ln) := by
  induction l generalizing i ln fuel with
  | nil =>
      obtain ⟨fuel, rfl⟩ : ∃ k, fuel = k + 1 := ⟨fuel - 1, by simp at hfuel; omega⟩
      exact dpnodeSearch_nil hi h
  | cons j l ih =>
      obtain ⟨fuel, rfl⟩ : ∃ k, fuel = k + 1 := ⟨fuel - 1, by simp at hfuel; omega⟩
      rw [dpnodeSearch_cons hi h, if_neg (hmiss j List.mem_cons_self),
        ih h.head_overflow.2 h.tail (by simpa using hfuel)
          (fun k hk => hmiss k (List.mem_cons_of_mem j hk))]
      rw [List.dropLast_cons_cons, List.getLastD_cons]

/-- **A walk that finds the address** stops at the first node holding it;
`lastnode` is its predecessor. -/
theorem dpnodeSearch_hit {fuel i k ln : ℕ} {l₁ l₂ : List ℕ}
    (hi : i < maxBufSize) (h : Chain w i (l₁ ++ k :: l₂))
    (hfuel : (l₁ ++ k :: l₂).length < fuel)
    (hmiss : ∀ j ∈ l₁, w.addr j ≠ ip) (hk : w.addr k = ip) :
    dpnodeSearch w ip mac fuel i ln =
      .ok (k, if CStr.strncmpEq mac (w.slots k).macaddr then .collision
        else .invalidMac, l₁.getLastD i) := by
  induction l₁ generalizing i ln fuel with
  | nil =>
      obtain ⟨fuel, rfl⟩ : ∃ n, fuel = n + 1 := ⟨fuel - 1, by simp at hfuel; omega⟩
      rw [List.nil_append] at h
      rw [dpnodeSearch_cons hi h, if_pos hk]
      rfl
  | cons j l₁ ih =>
      obtain ⟨fuel, rfl⟩ : ∃ n, fuel = n + 1 := ⟨fuel - 1, by simp at hfuel; omega⟩
      rw [List.cons_append] at h
      rw [dpnodeSearch_cons hi h, if_neg (hmiss j List.mem_cons_self),
        ih h.head_overflow.2 h.tail (by simpa using hfuel)
          (fun m hm => hmiss m (List.mem_cons_of_mem j hm)),
        List.getLastD_cons]

end Walk

/-! ## The lookup -/

section Lookup

variable {w : Wlist} {ip : ℤ} (mac : CStr) (stat : DpStat) (ln : ℕ)

theorem dpnodeLookup_free (ha : w.attached = true)
    (hfree : w.next (dpHashindex ip) = -1) :
    dpnodeLookup w ip mac stat ln = .ok (-1, stat, ln) := by
  have hfree' : (w.slots (dpHashindex ip)).ofbIndex = -1 := hfree
  simp [dpnodeLookup, ha, dpHashindex_lt_maxBufSize, hfree', bind, Except.bind]

theorem dpnodeLookup_main (ha : w.attached = true)
    (hocc : w.next (dpHashindex ip) ≠ -1)
    (hip : w.addr (dpHashindex ip) = ip) :
    dpnodeLookup w ip mac stat ln =
      .ok (dpHashindex ip,
        if CStr.strncmpEq mac (w.slots (dpHashindex ip)).macaddr then .success
        else .invalidMac, ln) := by
  have hocc' : (w.slots (dpHashindex ip)).ofbIndex ≠ -1 := hocc
  have hip' : (w.slots (dpHashindex ip)).ipaddr = ip := hip
  simp [dpnodeLookup, ha, dpHashindex_lt_maxBufSize, hocc', hip', bind,
    Except.bind]

theorem dpnodeLookup_other (ha : w.attached = true)
    (hocc : w.next (dpHashindex ip) ≠ -1)
    (hip : w.addr (dpHashindex ip) ≠ ip) :
    dpnodeLookup w ip mac stat ln =
      dpnodeSearch w ip mac (maxBufSize + 1) (dpHashindex ip)
        (dpHashindex ip) := by
  have hocc' : (w.slots (dpHashindex ip)).ofbIndex ≠ -1 := hocc
  have hip' : (w.slots (dpHashindex ip)).ipaddr ≠ ip := hip
  simp [dpnodeLookup, ha, dpHashindex_lt_maxBufSize, hocc', hip', bind,
    Except.bind]

/-- No node of the chain holds the address. -/
theorem dpnodeLookup_miss {l : List ℕ} (ha : w.attached = true)
    (h : Chain w (dpHashindex ip) l)
    (hmiss : ∀ j ∈ dpHashindex ip :: l, w.addr j ≠ ip) :
    dpnodeLookup w ip mac stat ln =
      .ok (-1, .collision,
        (dpHashindex ip :: l).dropLast.getLastD (dpHashindex ip)) := by
  rw [dpnodeLookup_other mac stat ln ha h.next_ne (hmiss _ List.mem_cons_self)]
  exact dpnodeSearch_miss (dpHashindex_lt_maxBufSize ip) h
    (Nat.lt_succ_of_le h.length_le)
    (fun j hj => hmiss j (List.mem_cons_of_mem _ hj))

/-- The first node of the chain that holds the address is found. -/
theorem dpnodeLookup_hit {l : List ℕ} {k : ℕ} (ha : w.attached = true)
    (h : Chain w (dpHashindex ip) l)
    (hk : (dpHashindex ip :: l).find? (fun j => w.addr j = ip) = some k) :
    ∃ st ln', dpnodeLookup w ip mac stat ln = .ok ((k : ℤ), st, ln') := by
  obtain ⟨hik, pre, post, hl, hpre⟩ := List.find?_eq_some_iff_append.mp hk
  have hik : w.addr k = ip := by simpa using hik
  have hpre : ∀ j ∈ pre, w.addr j ≠ ip := fun j hj => by
    simpa using hpre j hj
  cases pre with
  | nil =>
      obtain ⟨rfl, -⟩ := List.cons.inj hl
      exact ⟨_, _, dpnodeLookup_main mac stat ln ha h.next_ne hik⟩
  | cons m pre =>
      obtain ⟨rfl, rfl⟩ := List.cons.inj hl
      exact ⟨_, _, (dpnodeLookup_other mac stat ln ha h.next_ne
        (hpre _ List.mem_cons_self)).trans
          (dpnodeSearch_hit (dpHashindex_lt_maxBufSize ip) h
            (Nat.lt_succ_of_le h.length_le)
            (fun j hj => hpre j (List.mem_cons_of_mem _ hj)) hik)⟩

end Lookup

/-! ## Findable addresses -/

/-- `dpnode_lookup` of `ip` returns an entry that holds `ip` and exactly
`mac`. -/
def Finds (w : Wlist) (ip : ℤ) (mac : CStr) : Prop :=
  ∀ stat ln, ∃ (i : ℕ) (st : DpStat) (ln' : ℕ),
    dpnodeLookup w ip mac stat ln = .ok ((i : ℤ), st, ln') ∧
      w.addr i = ip ∧ w.macOf i = mac.bytes

/-- `dpnode_lookup` of `ip` returns -1. -/
def Misses (w : Wlist) (ip : ℤ) : Prop :=
  ∀ mac stat ln, ∃ st ln', dpnodeLookup w ip mac stat ln = .ok (-1, st, ln')

theorem Misses.not_finds {w : Wlist} {ip : ℤ} (h : Misses w ip) (mac : CStr) :
    ¬ Finds w ip mac := by
  intro hf
  obtain ⟨i, st, ln', heq, -⟩ := hf .success 0
  obtain ⟨st', ln'', heq'⟩ := h mac .success 0
  have : ((i : ℤ), st, ln') = (-1, st', ln'') :=
    Except.ok.inj (heq.symm.trans heq')
  have := congrArg Prod.fst this
  omega

section Findable

variable {w : Wlist} {ip : ℤ} {l : List ℕ}

theorem misses_free (ha : w.attached = true)
    (hfree : w.next (dpHashindex ip) = -1) : Misses w ip :=
  fun _ _ _ => ⟨_, _, dpnodeLookup_free _ _ _ ha hfree⟩

theorem misses_iff (ha : w.attached = true) (h : Chain w (dpHashindex ip) l) :
    Misses w ip ↔ ∀ j ∈ dpHashindex ip :: l, w.addr j ≠ ip := by
  constructor
  · intro hm
    by_contra hcon
    have hne : (dpHashindex ip :: l).find? (fun j => w.addr j = ip) ≠ none := by
      intro hnone
      apply hcon
      intro j hj
      simpa using List.find?_eq_none.mp hnone j hj
    obtain ⟨k, hk⟩ := Option.ne_none_iff_exists'.mp hne
    obtain ⟨st, ln', heq⟩ :=
      dpnodeLookup_hit .empty .success 0 ha h hk
    obtain ⟨st', ln'', heq'⟩ := hm CStr.empty .success 0
    have := congrArg Prod.fst (Except.ok.inj (heq.symm.trans heq'))
    simp at this
  · intro hmiss mac stat ln
    exact ⟨_, _, dpnodeLookup_miss mac stat ln ha h hmiss⟩

/-- On a chain, an address is found with `mac` exactly when the first node
holding the address holds `mac`. -/
theorem finds_iff {mac : CStr} (ha : w.attached = true)
    (h : Chain w (dpHashindex ip) l) :
    Finds w ip mac ↔
      ∃ k, (dpHashindex ip :: l).find? (fun j => w.addr j = ip) = some k ∧
        w.macOf k = mac.bytes := by
  constructor
  · intro hf
    cases hk : (dpHashindex ip :: l).find? (fun j => w.addr j = ip) with
    | none =>
        have hmiss : Misses w ip := (misses_iff ha h).mpr fun j hj => by
          simpa using List.find?_eq_none.mp hk j hj
        exact absurd hf (hmiss.not_finds mac)
    | some k =>
        obtain ⟨i, st, ln', heq, -, hmac⟩ := hf .success 0
        obtain ⟨st', ln'', heq'⟩ :=
          dpnodeLookup_hit mac .success 0 ha h hk
        have hik := congrArg Prod.fst (Except.ok.inj (heq.symm.trans heq'))
        obtain rfl : i = k := Int.ofNat_inj.mp hik
        exact ⟨i, rfl, hmac⟩
  · rintro ⟨k, hk, hmac⟩ stat ln
    obtain ⟨st, ln', heq⟩ :=
      dpnodeLookup_hit mac stat ln ha h hk
    exact ⟨k, st, ln', heq, by simpa using List.find?_some hk, hmac⟩

end Findable

end Xupnp.WhiteList
