import Xupnp.Library.Replace
import Xupnp.Discovery.Services

/-!
# The two loops of `replace_string`

`replace_string` counts the occurrences of the string looked for, allocates
what the result needs, and copies. `replaceStringRun` is the two loops as they
stand, with integers for every `int`. The result is the source with the leftmost
occurrences replaced that do not overlap, every copy has the room it takes, and
no `int` overflows while the strings and the result are shorter than `INT_MAX`
(`replaceStringRun_spec`).
-/

namespace Xupnp.Discovery

open Xupnp.Library

/-! ## The loops -/

/-- `for (numOccurences = 0; (tmp_str = strstr (insert_str, sub_string));
++numOccurences)`, as long as it takes fewer than `fuel` rounds. -/
def countLoop (sub : List UInt8) : ℕ → List UInt8 → ℕ → Option ℕ
  | 0, _, _ => none
  | fuel + 1, insertStr, numOccurences =>
      match strstr insertStr sub with
      | none => some numOccurences
      | some tmpStr =>
          countLoop sub fuel (tmpStr.drop sub.length) (numOccurences + 1)

/-- A copy into the result: the room it is told of, and the bytes it takes with
the NUL. -/
structure BoundedCopy where
  room : ℤ
  size : ℕ

/-- What the second loop changes: the bytes of `return_str` in front of
`tmp_str`, the room behind, and what is left of `src_string`. -/
structure Copying where
  written : List UInt8
  rstrsize : ℤ
  srcString : List UInt8
  copies : List BoundedCopy

/-- `strncpy_s` or `strcpy_s` to `tmp_str`, which then moves on. -/
def Copying.copy (c : Copying) (l : List UInt8) : Copying :=
  { c with
    written := c.written ++ l
    rstrsize := c.rstrsize - l.length
    copies := c.copies ++ [⟨c.rstrsize, l.length + 1⟩] }

/-- `while (numOccurences--)`; none if `strstr` finds nothing. -/
def copyLoop (sub rep : List UInt8) : ℕ → Copying → Option Copying
  | 0, c => some c
  | numOccurences + 1, c =>
      match strstr c.srcString sub with
      | none => none
      | some insertStr =>
          let distance := c.srcString.length - insertStr.length
          let c' := (c.copy (c.srcString.take distance)).copy rep
          copyLoop sub rep numOccurences
            { c' with
              srcString := c.srcString.drop (distance + sub.length) }

/-- What a call leaves behind: `return_str`, the size it was allocated with,
and the copies made into it. -/
structure Replacement where
  returnStr : List UInt8
  size : ℤ
  copies : List BoundedCopy

/-- `replace_string` on strings that are not `NULL`, if it counts in fewer than
`fuel` rounds. -/
def replaceStringRun (fuel : ℕ) (src sub rep : CStr) : Option Replacement := do
  let lenSubStr : ℤ := sub.bytes.length
  let lenRepStr : ℤ := rep.bytes.length
  let numOccurences ← countLoop sub.bytes fuel src.bytes 0
  let rstrsize := src.bytes.length + (lenRepStr - lenSubStr) * numOccurences + 1
  let c ← copyLoop sub.bytes rep.bytes numOccurences
    ⟨[], rstrsize, src.bytes, []⟩
  some
    { returnStr := c.written ++ c.srcString
      size := rstrsize
      copies := (c.copy c.srcString).copies }

/-! ## Counting -/

section Loops

variable {sub rep t : List UInt8} {ps : List (List UInt8)}

/-- The first loop counts the cuts. -/
theorem countLoop_pieces (hsub : sub ≠ []) (h : Pieces sub t ps) {fuel : ℕ}
    (hfuel : t.length < fuel) (n : ℕ) :
    countLoop sub fuel t n = some (n + (ps.length - 1)) := by
  induction h generalizing fuel n with
  | last hno =>
      obtain ⟨fuel, rfl⟩ := Nat.exists_eq_add_one_of_ne_zero (by omega : fuel ≠ 0)
      rw [countLoop, strstr_eq_none_iff.mpr hno]
      rfl
  | @cut p r ps hfirst hr ih =>
      obtain ⟨fuel, rfl⟩ := Nat.exists_eq_add_one_of_ne_zero (by omega : fuel ≠ 0)
      have hpos : 0 < sub.length := List.length_pos_iff.mpr hsub
      have hrest : r.length < fuel := by
        rw [List.length_append, List.length_append] at hfuel
        omega
      have hps : 0 < ps.length := List.length_pos_iff.mpr hr.ne_nil
      rw [countLoop, strstr_cut hfirst]
      show countLoop sub fuel ((sub ++ r).drop sub.length) (n + 1) = _
      rw [List.drop_left, ih hrest, List.length_cons]
      congr 1
      omega

/-- However long the loop may take, it counts the same. -/
theorem countLoop_agree {fuel fuel' n m m' : ℕ}
    (h : countLoop sub fuel t n = some m)
    (h' : countLoop sub fuel' t n = some m') : m = m' := by
  induction fuel generalizing fuel' t n with
  | zero => cases h
  | succ fuel ih =>
      cases fuel' with
      | zero => cases h'
      | succ fuel' =>
          rw [countLoop] at h h'
          cases hf : strstr t sub with
          | none =>
              rw [hf] at h h'
              obtain rfl := Option.some.inj h
              exact Option.some.inj h'
          | some u =>
              rw [hf] at h h'
              exact ih h h'

/-- The first loop never ends on an empty string. -/
theorem countLoop_empty (fuel : ℕ) (t : List UInt8) (n : ℕ) :
    countLoop [] fuel t n = none := by
  induction fuel generalizing t n with
  | zero => rfl
  | succ fuel ih =>
      rw [countLoop, strstr_prefixed (List.nil_prefix)]
      exact ih _ _

/-! ## Copying -/

/-- The copy has the room it takes. -/
def BoundedCopy.Fits (b : BoundedCopy) : Prop := 0 ≤ b.room ∧ b.size ≤ b.room

/-- What holds between the copies: `rest` is still to be written, the room is
what it takes, and no copy has run out of room or been told of more than
`target` takes. -/
structure CopyInv (c : Copying) (rest target : List UInt8) : Prop where
  total : c.written ++ rest = target
  room : c.rstrsize = rest.length + 1
  fits : ∀ b ∈ c.copies, b.Fits
  within : ∀ b ∈ c.copies, b.room ≤ target.length + 1

/-- One copy. -/
theorem CopyInv.copy {c : Copying} {l rest target : List UInt8}
    (h : CopyInv c (l ++ rest) target) : CopyInv (c.copy l) rest target := by
  obtain ⟨htotal, hroom, hfits, hwithin⟩ := h
  rw [List.length_append] at hroom
  push_cast at hroom
  refine ⟨?_, ?_, ?_, ?_⟩
  · rw [← htotal]
    exact List.append_assoc c.written l rest
  · show c.rstrsize - l.length = _
    rw [hroom]
    ring
  · intro b hb
    rcases List.mem_append.mp hb with hb | hb
    · exact hfits b hb
    · obtain rfl := List.mem_singleton.mp hb
      constructor
      · show 0 ≤ c.rstrsize
        omega
      · show ((l.length + 1 : ℕ) : ℤ) ≤ c.rstrsize
        push_cast
        omega
  · intro b hb
    rcases List.mem_append.mp hb with hb | hb
    · exact hwithin b hb
    · obtain rfl := List.mem_singleton.mp hb
      show c.rstrsize ≤ _
      rw [hroom, ← htotal, List.length_append, List.length_append]
      push_cast
      omega

/-- The second loop writes all but the last part. -/
theorem copyLoop_pieces (h : Pieces sub t ps) {target : List UInt8}
    {c : Copying} (hsrc : c.srcString = t)
    (hc : CopyInv c (rep.intercalate ps) target) :
    ∃ c', copyLoop sub rep (ps.length - 1) c = some c' ∧
      CopyInv c' c'.srcString target := by
  induction h generalizing c with
  | last _ =>
      refine ⟨c, rfl, ?_⟩
      rw [List.intercalate_singleton] at hc
      rw [hsrc]
      exact hc
  | @cut p r ps hfirst hr ih =>
      obtain ⟨q, qs, rfl⟩ := List.exists_cons_of_ne_nil hr.ne_nil
      rw [List.intercalate_cons_cons, List.append_assoc] at hc
      have hdistance : (p ++ sub ++ r).length - (sub ++ r).length = p.length := by
        simp only [List.length_append]
        omega
      have htake : (p ++ sub ++ r).take p.length = p := by
        rw [List.append_assoc, List.take_left]
      have hdrop : (p ++ sub ++ r).drop (p.length + sub.length) = r := by
        rw [← List.length_append, List.drop_left]
      show ∃ c', copyLoop sub rep (qs.length + 1) c = some c' ∧ _
      rw [copyLoop, hsrc, strstr_cut hfirst]
      dsimp only
      rw [hdistance, htake, hdrop]
      have hstep := hc.copy.copy
      exact ih rfl ⟨hstep.total, hstep.room, hstep.fits, hstep.within⟩

end Loops

/-- The run on a source cut into its parts. -/
theorem replaceStringRun_pieces {src sub : CStr} (rep : CStr)
    (hsub : sub.bytes ≠ []) {ps : List (List UInt8)}
    (hps : Pieces sub.bytes src.bytes ps) {fuel : ℕ}
    (hfuel : src.bytes.length < fuel) :
    ∃ r, replaceStringRun fuel src sub rep = some r ∧
      r.returnStr = rep.bytes.intercalate ps ∧
      r.size = r.returnStr.length + 1 ∧ (∀ b ∈ r.copies, b.Fits) ∧
      ∀ b ∈ r.copies, b.room ≤ r.size := by
  have hlen : 1 ≤ ps.length := List.length_pos_iff.mpr hps.ne_nil
  obtain ⟨rstrsize, hrstr⟩ : ∃ z : ℤ, z = src.bytes.length +
      ((rep.bytes.length : ℤ) - sub.bytes.length) * ((ps.length - 1 : ℕ) : ℤ) +
        1 := ⟨_, rfl⟩
  have hsize : rstrsize = (rep.bytes.intercalate ps).length + 1 := by
    rw [hrstr, hps.length_join rep.bytes]
    push_cast [hlen]
    ring
  have hstart : CopyInv ⟨[], rstrsize, src.bytes, []⟩
      (rep.bytes.intercalate ps) (rep.bytes.intercalate ps) := by
    refine ⟨rfl, hsize, ?_, ?_⟩
    · intro b hb
      cases hb
    · intro b hb
      cases hb
  obtain ⟨c, hloop, hc⟩ := copyLoop_pieces hps rfl hstart
  have hrun : replaceStringRun fuel src sub rep =
      some ⟨c.written ++ c.srcString, rstrsize,
        (c.copy c.srcString).copies⟩ := by
    rw [replaceStringRun]
    simp only [countLoop_pieces hsub hps hfuel, Option.bind_eq_bind,
      Option.bind_some, Nat.zero_add, ← hrstr, hloop]
  have hlast : CopyInv c (c.srcString ++ []) (rep.bytes.intercalate ps) := by
    rw [List.append_nil]
    exact hc
  refine ⟨_, hrun, hc.total, ?_, hlast.copy.fits, fun b hb => ?_⟩
  · show rstrsize = ((c.written ++ c.srcString).length : ℤ) + 1
    rw [hc.total]
    exact hsize
  · show b.room ≤ rstrsize
    rw [hsize]
    exact hlast.copy.within b hb

/-- However long the call may take, it returns the same. -/
theorem replaceStringRun_agree {src sub rep : CStr} {fuel fuel' : ℕ}
    {r r' : Replacement} (h : replaceStringRun fuel src sub rep = some r)
    (h' : replaceStringRun fuel' src sub rep = some r') : r = r' := by
  rw [replaceStringRun] at h h'
  obtain ⟨n, hn, h⟩ := Option.bind_eq_some_iff.mp h
  obtain ⟨n', hn', h'⟩ := Option.bind_eq_some_iff.mp h'
  obtain rfl := countLoop_agree hn hn'
  exact Option.some.inj (h.symm.trans h')

/-- By what the result grows or shrinks is no more than there is of it, or of
the source. -/
theorem growth_bounds {sub t : List UInt8} {ps : List (List UInt8)}
    (h : Pieces sub t ps) (rep : List UInt8) :
    -(t.length : ℤ) ≤ ((rep.length : ℤ) - sub.length) * ((ps.length : ℤ) - 1) ∧
      ((rep.length : ℤ) - sub.length) * ((ps.length : ℤ) - 1) ≤
        (rep.intercalate ps).length := by
  have hjoin := h.length_join rep
  constructor <;> omega

/-! ### The `int`s -/

def intMax : ℤ := 2147483647

/-- The value is one of an `int`. -/
def InInt (z : ℤ) : Prop := -intMax - 1 ≤ z ∧ z ≤ intMax

/-- What the call has in an `int`: the lengths, their difference, the number of
occurrences, what they add, and the room from copy to copy. -/
def callInts (src sub rep : CStr) (numOccurences : ℕ) (r : Replacement) :
    List ℤ :=
  let lenSubStr : ℤ := sub.bytes.length
  let lenRepStr : ℤ := rep.bytes.length
  [(src.bytes.length : ℤ), lenSubStr, lenRepStr, lenRepStr - lenSubStr,
    (numOccurences : ℤ), (lenRepStr - lenSubStr) * numOccurences, r.size] ++
    r.copies.map BoundedCopy.room

/-- None of them overflows where the strings and the result have the length of
an `int`. -/
theorem callInts_inInt {src sub rep : CStr} {ps : List (List UInt8)}
    (hsub : sub.bytes ≠ []) (hps : Pieces sub.bytes src.bytes ps)
    {r : Replacement} (hreturn : r.returnStr = rep.bytes.intercalate ps)
    (hsize : r.size = r.returnStr.length + 1)
    (hcopies : ∀ b ∈ r.copies, 0 ≤ b.room ∧ b.room ≤ r.size)
    (hsrc : (src.bytes.length : ℤ) ≤ intMax)
    (hlensub : (sub.bytes.length : ℤ) ≤ intMax)
    (hlenrep : (rep.bytes.length : ℤ) ≤ intMax)
    (hlenreturn : (r.returnStr.length : ℤ) < intMax) :
    ∀ z ∈ callInts src sub rep (ps.length - 1) r, InInt z := by
  have hmax : intMax = 2147483647 := rfl
  have hlen : 1 ≤ ps.length := List.length_pos_iff.mpr hps.ne_nil
  obtain ⟨hlow, hhigh⟩ := growth_bounds hps rep.bytes
  rw [← hreturn] at hhigh
  have hn : ((ps.length - 1 : ℕ) : ℤ) = (ps.length : ℤ) - 1 := by
    push_cast [hlen]
    ring
  -- Each occurrence takes a byte of the source.
  have hcount : (ps.length : ℤ) - 1 ≤ src.bytes.length := by
    have hone : 1 ≤ sub.bytes.length := List.length_pos_iff.mpr hsub
    have hjoin := hps.length_join []
    have hmul : ((ps.length : ℤ) - 1) ≤
        (sub.bytes.length : ℤ) * ((ps.length : ℤ) - 1) := by
      nlinarith
    rw [List.length_nil, Nat.cast_zero, zero_sub, neg_mul] at hjoin
    omega
  intro z hz
  rcases List.mem_append.mp hz with hz | hz
  · simp only [hn, List.mem_cons, List.not_mem_nil, or_false] at hz
    rcases hz with rfl | rfl | rfl | rfl | rfl | rfl | rfl <;>
      constructor <;> omega
  · obtain ⟨b, hb, rfl⟩ := List.mem_map.mp hz
    have hroom := hcopies b hb
    constructor <;> omega

/-- **What `replace_string` returns.** For a string that is not empty it ends,
and returns the parts of the source between the leftmost occurrences that do
not overlap, joined with the replacement. The size is what is written, and
every copy has the room it takes. No `int` overflows below the lengths of an
`int`. -/
theorem replaceStringRun_spec (src sub rep : CStr) (h : sub ≠ .empty)
    {fuel : ℕ} (hfuel : src.bytes.length < fuel) :
    ∃ r ps n, replaceStringRun fuel src sub rep = some r ∧
      Pieces sub.bytes src.bytes ps ∧
      r.returnStr = rep.bytes.intercalate ps ∧
      r.size = r.returnStr.length + 1 ∧
      (∀ b ∈ r.copies, 0 ≤ b.room ∧ b.size ≤ b.room) ∧
      countLoop sub.bytes fuel src.bytes 0 = some n ∧
      ((src.bytes.length : ℤ) ≤ intMax → (sub.bytes.length : ℤ) ≤ intMax →
        (rep.bytes.length : ℤ) ≤ intMax →
        (r.returnStr.length : ℤ) < intMax →
        ∀ z ∈ callInts src sub rep n r, InInt z) := by
  have hsub : sub.bytes ≠ [] := fun hnil => h (CStr.ext hnil)
  obtain ⟨ps, hps⟩ := exists_pieces hsub src.bytes
  obtain ⟨r, hrun, hreturn, hsize, hfits, hwithin⟩ :=
    replaceStringRun_pieces rep hsub hps hfuel
  have hcount := countLoop_pieces hsub hps hfuel 0
  rw [Nat.zero_add] at hcount
  refine ⟨r, ps, ps.length - 1, hrun, hps, hreturn, hsize, hfits, hcount, ?_⟩
  exact callInts_inInt hsub hps hreturn hsize
    fun b hb => ⟨(hfits b hb).1, hwithin b hb⟩

/-- Occurrences that overlap: the leftmost counts. -/
theorem replaceStringRun_overlapping :
    ∃ r ps n, replaceStringRun 6 (.lit "aaaab") (.lit "aa") (.lit "xyz") =
        some r ∧
      Pieces (CStr.lit "aa").bytes (CStr.lit "aaaab").bytes ps ∧
      r.returnStr = (CStr.lit "xyz").bytes.intercalate ps ∧
      r.size = r.returnStr.length + 1 ∧
      (∀ b ∈ r.copies, 0 ≤ b.room ∧ b.size ≤ b.room) ∧
      countLoop (CStr.lit "aa").bytes 6 (CStr.lit "aaaab").bytes 0 = some n ∧
      (((CStr.lit "aaaab").bytes.length : ℤ) ≤ intMax →
        ((CStr.lit "aa").bytes.length : ℤ) ≤ intMax →
        ((CStr.lit "xyz").bytes.length : ℤ) ≤ intMax →
        (r.returnStr.length : ℤ) < intMax →
        ∀ z ∈ callInts (.lit "aaaab") (.lit "aa") (.lit "xyz") n r, InInt z) :=
  replaceStringRun_spec _ _ _ (by decide) (by decide)

/-! ## The one-pass form -/

section OnePass

variable {sub rep t : List UInt8} {ps : List (List UInt8)}

theorem replaceFrom_skip (l u : List UInt8) :
    replaceFrom sub rep l.length (l ++ u) = replaceFrom sub rep 0 u := by
  induction l with
  | nil => rfl
  | cons b l ih =>
      show replaceFrom sub rep (l.length + 1) (b :: (l ++ u)) = _
      rw [replaceFrom, ih]

theorem replaceFrom_cons_not_prefixed {b : UInt8} (h : ¬ sub <+: b :: t) :
    replaceFrom sub rep 0 (b :: t) = b :: replaceFrom sub rep 0 t := by
  rw [replaceFrom]
  exact if_neg (by simpa using h)

/-- The pass replaces the first occurrence and goes on behind it. -/
theorem replaceFrom_cut (hsub : sub ≠ []) {p : List UInt8}
    (h : ¬ sub <:+: p ++ sub.dropLast) :
    replaceFrom sub rep 0 (p ++ sub ++ t) =
      p ++ rep ++ replaceFrom sub rep 0 t := by
  induction p with
  | nil =>
      obtain ⟨b, l, rfl⟩ := List.exists_cons_of_ne_nil hsub
      show replaceFrom (b :: l) rep 0 (b :: (l ++ t)) = rep ++ _
      rw [replaceFrom, if_pos]
      · show rep ++ replaceFrom (b :: l) rep l.length (l ++ t) = _
        rw [replaceFrom_skip]
      · rw [List.isPrefixOf_iff_prefix]
        exact List.prefix_append (b :: l) t
  | cons b p ih =>
      have hfront : ¬ sub <+: b :: (p ++ sub ++ t) := fun hpre =>
        h (prefix_dropLast hpre).isInfix
      show replaceFrom sub rep 0 (b :: (p ++ sub ++ t)) = _
      rw [replaceFrom_cons_not_prefixed hfront,
        ih fun hin => h (List.infix_cons hin)]
      rfl

theorem replaceFrom_pieces (hsub : sub ≠ []) (h : Pieces sub t ps) :
    replaceFrom sub rep 0 t = rep.intercalate ps := by
  induction h with
  | @last t hno =>
      rw [List.intercalate_singleton]
      induction t with
      | nil => rfl
      | cons b t ih =>
          rw [replaceFrom_cons_not_prefixed fun hpre => hno hpre.isInfix,
            ih fun hin => hno (List.infix_cons hin)]
  | @cut p r ps hfirst hr ih =>
      obtain ⟨q, qs, rfl⟩ := List.exists_cons_of_ne_nil hr.ne_nil
      rw [replaceFrom_cut hsub hfirst, ih, List.intercalate_cons_cons]

end OnePass

/-- The loops end exactly where the one-pass form has a result, and leave the
same string behind. -/
theorem replaceString_run (src sub rep : CStr) :
    (∀ fuel r, replaceStringRun fuel src sub rep = some r →
      ∃ t, replaceString src sub rep = .ok t ∧ t.bytes = r.returnStr) ∧
    ((∃ fuel r, replaceStringRun fuel src sub rep = some r) ↔
      sub ≠ .empty) := by
  have hempty : ∀ fuel, replaceStringRun fuel src .empty rep = none := by
    intro fuel
    rw [replaceStringRun]
    show (countLoop [] fuel src.bytes 0).bind _ = none
    rw [countLoop_empty]
    rfl
  constructor
  · intro fuel r hrun
    have hne : sub ≠ .empty := by
      rintro rfl
      rw [hempty] at hrun
      cases hrun
    have hsub : sub.bytes ≠ [] := fun hnil => hne (CStr.ext hnil)
    obtain ⟨ps, hps⟩ := exists_pieces hsub src.bytes
    obtain ⟨r', hrun', hreturn, -⟩ :=
      replaceStringRun_pieces rep hsub hps (Nat.lt_succ_self _)
    obtain rfl : r = r' := replaceStringRun_agree hrun hrun'
    refine ⟨_, if_neg hne, ?_⟩
    rw [replaceFrom_pieces hsub hps, ← hreturn]
    apply List.filter_eq_self.mpr
    intro b hb
    rw [hreturn] at hb
    rcases hps.mem_join hb with hb | hb
    · exact decide_eq_true (ne_of_mem_of_not_mem hb rep.nul_free)
    · exact decide_eq_true (ne_of_mem_of_not_mem hb src.nul_free)
  · constructor
    · rintro ⟨fuel, r, hrun⟩ rfl
      rw [hempty] at hrun
      cases hrun
    · intro hne
      have hsub : sub.bytes ≠ [] := fun hnil => hne (CStr.ext hnil)
      obtain ⟨ps, hps⟩ := exists_pieces hsub src.bytes
      obtain ⟨r, hrun, -⟩ :=
        replaceStringRun_pieces rep hsub hps (Nat.lt_succ_self _)
      exact ⟨_, r, hrun⟩

end Xupnp.Discovery
