import Mathlib.Data.List.Basic
import Mathlib.Tactic.IntervalCases

/-!
# Escaped texts

An escaping writes every byte as itself or as an escape, and a machine reads
the bytes off again. What is read off a whole text is what is read off each of
its bytes, in order (`unescape_flatMap`), so where no byte is taken for another
one a text comes back exactly if each of its bytes does (`mapM_eq_some_iff`).
There are two instances: percent encoding, and the named entities of XML.
-/

namespace Xupnp.Library

/-- What holds of 256 numbers holds of the bytes. -/
theorem forall_byte {P : UInt8 → Prop} (h : ∀ n : Fin 256, P (.ofNat n))
    (b : UInt8) : P b := by
  have hb := h ⟨b.toNat, b.toNat_lt⟩
  rwa [UInt8.ofNat_toNat] at hb

/-- A machine that reads a text and writes what it stands for. The text may end
where the machine is idle. -/
structure Unescaper (π : Type*) where
  idle : π
  step : π → UInt8 → Option (π × List UInt8)

namespace Unescaper

variable {π : Type*} [DecidableEq π] {U : Unescaper π} {l m : List UInt8}

def readFrom (U : Unescaper π) : π → List UInt8 → Option (List UInt8)
  | p, [] => if p = U.idle then some [] else none
  | p, b :: l =>
      match U.step p b with
      | some (q, out) => (U.readFrom q l).map (out ++ ·)
      | none => none

/-- What a text stands for. -/
def unescape (U : Unescaper π) (l : List UInt8) : Option (List UInt8) :=
  U.readFrom U.idle l

/-- In front of any text, `esc b` is read as `reread b`. -/
def Rereads (U : Unescaper π) (esc : UInt8 → List UInt8)
    (reread : UInt8 → Option UInt8) : Prop :=
  ∀ b l, U.unescape (esc b ++ l) =
    (reread b).bind fun c => (U.unescape l).map (c :: ·)

/-- **Byte by byte.** -/
theorem unescape_flatMap {esc : UInt8 → List UInt8}
    {reread : UInt8 → Option UInt8} (h : U.Rereads esc reread)
    (l : List UInt8) : U.unescape (l.flatMap esc) = l.mapM reread := by
  induction l with
  | nil => exact if_pos rfl
  | cons b l ih =>
      rw [List.flatMap_cons, h, ih, List.mapM_cons]
      cases reread b with
      | none => rfl
      | some c => cases List.mapM reread l <;> rfl

theorem readFrom_step {p q : π} {b : UInt8} {out : List UInt8}
    (h : U.step p b = some (q, out)) (l : List UInt8) :
    U.readFrom p (b :: l) = (U.readFrom q l).map (out ++ ·) := by
  rw [readFrom, h]

theorem readFrom_stuck {p : π} {b : UInt8} (h : U.step p b = none)
    (l : List UInt8) : U.readFrom p (b :: l) = none := by
  rw [readFrom, h]

end Unescaper

section MapM

variable {reread : UInt8 → Option UInt8} {l m : List UInt8}

/-- Where a byte is read as itself or not at all. -/
theorem mapM_eq_some_iff (hself : ∀ b, ∀ c ∈ reread b, c = b) :
    l.mapM reread = some m ↔ m = l ∧ ∀ b ∈ l, reread b = some b := by
  induction l generalizing m with
  | nil =>
      show some [] = some m ↔ _
      rw [Option.some_inj]
      simp [eq_comm]
  | cons b l ih =>
      rw [List.mapM_cons, List.forall_mem_cons]
      constructor
      · intro h
        obtain ⟨c, hc, h⟩ := Option.bind_eq_some_iff.mp h
        obtain ⟨n, hn, h⟩ := Option.bind_eq_some_iff.mp h
        obtain rfl := Option.some.inj h
        obtain ⟨rfl, hall⟩ := ih.mp hn
        obtain rfl := hself b c hc
        exact ⟨rfl, hc, hall⟩
      · rintro ⟨rfl, hb, hall⟩
        rw [hb, ih.mpr ⟨rfl, hall⟩]
        rfl

end MapM

/-! ## Percent encoding -/

namespace Percent

/-- Upper-case hexadecimal digit. -/
def hexDigit (n : UInt8) : UInt8 := if n < 10 then 0x30 + n else 0x37 + n

/-- The value of a digit, in either case. -/
def hexValue (b : UInt8) : Option UInt8 :=
  if 0x30 ≤ b ∧ b ≤ 0x39 then some (b - 0x30)
  else if 0x41 ≤ b ∧ b ≤ 0x46 then some (b - 0x37)
  else if 0x61 ≤ b ∧ b ≤ 0x66 then some (b - 0x57)
  else none

inductive State where
  | idle
  | percent
  | digit (high : UInt8)
deriving DecidableEq

def unescaper : Unescaper State where
  idle := .idle
  step
    | .idle, b => some (if b = 0x25 then (.percent, []) else (.idle, [b]))
    | .percent, b => (hexValue b).map fun high => (.digit high, [])
    | .digit high, b => (hexValue b).map fun low => (.idle, [16 * high + low])

/-- A byte that is not kept becomes `%XX`. -/
def escapeByte (keep : UInt8 → Bool) (b : UInt8) : List UInt8 :=
  if keep b then [b] else [0x25, hexDigit (b / 16), hexDigit (b % 16)]

variable {keep : UInt8 → Bool}

theorem hexValue_hexDigit {n : UInt8} (h : n < 16) :
    hexValue (hexDigit n) = some n := by
  have hn : n = UInt8.ofNat n.toNat := (UInt8.ofNat_toNat).symm
  have hlt : n.toNat < 16 := h
  rw [hn]
  interval_cases n.toNat <;> decide

theorem digits_join (b : UInt8) : 16 * (b / 16) + b % 16 = b := by
  apply UInt8.toNat_inj.mp
  have := b.toNat_lt
  simp only [UInt8.toNat_add, UInt8.toNat_mul, UInt8.toNat_div, UInt8.toNat_mod,
    UInt8.reduceToNat]
  omega

theorem high_lt (b : UInt8) : b / 16 < 16 := by
  have := b.toNat_lt
  rw [UInt8.lt_iff_toNat_lt, UInt8.toNat_div]
  show b.toNat / 16 < 16
  omega

theorem low_lt (b : UInt8) : b % 16 < 16 := by
  rw [UInt8.lt_iff_toNat_lt, UInt8.toNat_mod]
  exact Nat.mod_lt _ (by decide)

theorem hexValue_high (b : UInt8) :
    hexValue (hexDigit (b / 16)) = some (b / 16) :=
  hexValue_hexDigit (high_lt b)

theorem hexValue_low (b : UInt8) :
    hexValue (hexDigit (b % 16)) = some (b % 16) :=
  hexValue_hexDigit (low_lt b)

/-- What an escape is made of. -/
theorem mem_escapeByte {a b : UInt8} (h : a ∈ escapeByte keep b) :
    (keep b = true ∧ a = b) ∨ a = 0x25 ∨ hexValue a ≠ none := by
  rw [escapeByte] at h
  split at h
  · next hb => exact .inl ⟨hb, List.mem_singleton.mp h⟩
  · simp only [List.mem_cons, List.not_mem_nil, or_false] at h
    rcases h with rfl | rfl | rfl
    · exact .inr (.inl rfl)
    · refine .inr (.inr ?_)
      rw [hexValue_high]
      exact Option.some_ne_none _
    · refine .inr (.inr ?_)
      rw [hexValue_low]
      exact Option.some_ne_none _

/-- `0`–`9` and `A`–`F`. -/
def IsUpperHex (b : UInt8) : Prop :=
  (0x30 ≤ b ∧ b ≤ 0x39) ∨ (0x41 ≤ b ∧ b ≤ 0x46)

instance (b : UInt8) : Decidable (IsUpperHex b) :=
  inferInstanceAs (Decidable (_ ∨ _))

/-- Kept bytes and triples `%XX` of upper-case digits. -/
inductive Encoded (keep : UInt8 → Bool) : List UInt8 → Prop
  | nil : Encoded keep []
  | kept {b : UInt8} {l : List UInt8} (hb : keep b = true)
      (h : Encoded keep l) : Encoded keep (b :: l)
  | triple {high low : UInt8} {l : List UInt8} (hhigh : IsUpperHex high)
      (hlow : IsUpperHex low) (h : Encoded keep l) :
      Encoded keep (0x25 :: high :: low :: l)

theorem isUpperHex_hexDigit {n : UInt8} (h : n < 16) :
    IsUpperHex (hexDigit n) := by
  have hn : n = UInt8.ofNat n.toNat := (UInt8.ofNat_toNat).symm
  have hlt : n.toNat < 16 := h
  rw [hn]
  interval_cases n.toNat <;> decide

/-- An escaped text is encoded. -/
theorem encoded_escape (l : List UInt8) :
    Encoded keep (l.flatMap (escapeByte keep)) := by
  induction l with
  | nil => exact .nil
  | cons b l ih =>
      rw [List.flatMap_cons, escapeByte]
      split
      · next hb => exact .kept hb ih
      · exact .triple (isUpperHex_hexDigit (high_lt b))
          (isUpperHex_hexDigit (low_lt b)) ih

theorem rereads (hkeep : keep 0x25 = false) :
    unescaper.Rereads (escapeByte keep) some := by
  intro b l
  rw [escapeByte]
  split
  · next hb =>
      have hne : b ≠ 0x25 := by
        rintro rfl
        rw [hkeep] at hb
        cases hb
      have hstep : unescaper.step .idle b = some (.idle, [b]) :=
        congrArg some (if_neg hne)
      exact Unescaper.readFrom_step hstep l
  · have h₀ : unescaper.step .idle 0x25 = some (.percent, []) := rfl
    have h₁ : unescaper.step .percent (hexDigit (b / 16)) =
        some (.digit (b / 16), []) := by
      show (hexValue _).map _ = _
      rw [hexValue_high]
      rfl
    have h₂ : unescaper.step (.digit (b / 16)) (hexDigit (b % 16)) =
        some (.idle, [b]) := by
      show (hexValue _).map _ = _
      rw [hexValue_low, Option.map_some, digits_join]
    show unescaper.readFrom .idle (0x25 :: hexDigit (b / 16) ::
      hexDigit (b % 16) :: l) = (unescaper.readFrom .idle l).map _
    rw [Unescaper.readFrom_step h₀, Unescaper.readFrom_step h₁,
      Unescaper.readFrom_step h₂]
    cases unescaper.readFrom .idle l <;> rfl

/-- **Round trip.** -/
theorem unescape_escape (hkeep : keep 0x25 = false) (l : List UInt8) :
    unescaper.unescape (l.flatMap (escapeByte keep)) = some l := by
  rw [Unescaper.unescape_flatMap (rereads hkeep)]
  exact (mapM_eq_some_iff fun b c h => (Option.some.inj h).symm).mpr
    ⟨rfl, fun _ _ => rfl⟩

end Percent

/-! ## Named entities -/

namespace Entity

inductive State where
  | text
  | name (read : List UInt8)
deriving DecidableEq

/-- `&name;` stands for what `known` has under the name, and for nothing if it
has none. -/
def unescaper (known : List (List UInt8 × UInt8)) : Unescaper State where
  idle := .text
  step
    | .text, b => some (if b = 0x26 then (.name [], []) else (.text, [b]))
    | .name read, b =>
        if b = 0x3B then (known.lookup read).map fun c => (.text, [c])
        else some (.name (read ++ [b]), [])

/-- A byte that `written` has a name for becomes a reference. -/
def escapeByte (written : UInt8 → Option (List UInt8)) (b : UInt8) :
    List UInt8 :=
  match written b with
  | some name => 0x26 :: (name ++ [0x3B])
  | none => [b]

/-- What the escape of a byte stands for. -/
def reread (known : List (List UInt8 × UInt8))
    (written : UInt8 → Option (List UInt8)) (b : UInt8) : Option UInt8 :=
  match written b with
  | some name => known.lookup name
  | none => some b

variable {known : List (List UInt8 × UInt8)}
  {written : UInt8 → Option (List UInt8)}

theorem readFrom_name {read name : List UInt8} (h : 0x3B ∉ name)
    (l : List UInt8) :
    (unescaper known).readFrom (.name read) (name ++ 0x3B :: l) =
      (known.lookup (read ++ name)).bind fun c =>
        ((unescaper known).unescape l).map (c :: ·) := by
  induction name generalizing read with
  | nil =>
      rw [List.append_nil, List.nil_append]
      have hstep : (unescaper known).step (.name read) 0x3B =
          (known.lookup read).map fun c => (.text, [c]) := by
        simp [unescaper]
      cases hc : known.lookup read with
      | none =>
          rw [hc] at hstep
          exact Unescaper.readFrom_stuck hstep l
      | some c =>
          rw [hc] at hstep
          exact Unescaper.readFrom_step hstep l
  | cons b name ih =>
      have hb : b ≠ 0x3B := fun hb => h (hb ▸ List.mem_cons_self)
      have hname : 0x3B ∉ name := fun hm => h (List.mem_cons_of_mem _ hm)
      have hstep : (unescaper known).step (.name read) b =
          some (.name (read ++ [b]), []) := if_neg hb
      rw [List.cons_append, Unescaper.readFrom_step hstep, ih hname,
        List.append_assoc]
      show Option.map id _ = _
      rw [Option.map_id]
      rfl

theorem rereads (hamp : written 0x26 ≠ none)
    (hnames : ∀ b, ∀ name ∈ written b, 0x3B ∉ name) :
    (unescaper known).Rereads (escapeByte written) (reread known written) := by
  intro b l
  unfold escapeByte reread
  cases hb : written b with
  | none =>
      have hne : b ≠ 0x26 := by
        rintro rfl
        exact hamp hb
      have hstep : (unescaper known).step .text b = some (.text, [b]) :=
        congrArg some (if_neg hne)
      exact Unescaper.readFrom_step hstep l
  | some name =>
      have hstep : (unescaper known).step .text 0x26 = some (.name [], []) :=
        congrArg some (if_pos rfl)
      show (unescaper known).readFrom .text
        (0x26 :: ((name ++ [0x3B]) ++ l)) = _
      rw [Unescaper.readFrom_step hstep, List.append_assoc]
      show Option.map id ((unescaper known).readFrom (.name [])
        (name ++ 0x3B :: l)) = _
      rw [Option.map_id, readFrom_name (hnames b name hb)]
      rfl

/-- Every `&` of an escaped text starts a reference that was written. -/
theorem reference_of_amp (hamp : written 0x26 ≠ none)
    (hnames : ∀ b, ∀ name ∈ written b, 0x26 ∉ name)
    {l pre post : List UInt8}
    (h : l.flatMap (escapeByte written) = pre ++ 0x26 :: post) :
    ∃ b ∈ l, ∃ name ∈ written b, name ++ [0x3B] <+: post := by
  induction l generalizing pre with
  | nil => simp at h
  | cons b l ih =>
      have hrest : ∀ pre', l.flatMap (escapeByte written) =
          pre' ++ 0x26 :: post →
          ∃ c ∈ b :: l, ∃ name ∈ written c, name ++ [0x3B] <+: post := by
        intro pre' h'
        obtain ⟨c, hc, hname⟩ := ih h'
        exact ⟨c, List.mem_cons_of_mem b hc, hname⟩
      rw [List.flatMap_cons, escapeByte.eq_def] at h
      cases hb : written b with
      | none =>
          rw [hb] at h
          cases pre with
          | nil =>
              obtain ⟨rfl, -⟩ := List.cons.inj h
              exact absurd hb hamp
          | cons c pre => exact hrest pre (List.cons.inj h).2
      | some name =>
          rw [hb] at h
          cases pre with
          | nil =>
              obtain ⟨-, rfl⟩ := List.cons.inj h
              exact ⟨b, List.mem_cons_self, name, hb, List.prefix_append _ _⟩
          | cons c pre =>
              -- The `&` is behind the reference: a name has none.
              rcases List.append_eq_append_iff.mp (List.cons.inj h).2 with
                ⟨m, -, hm⟩ | ⟨m, hm, hpost⟩
              · exact hrest m hm
              · cases m with
                | nil => exact hrest [] hpost.symm
                | cons d m =>
                    obtain ⟨rfl, -⟩ := List.cons.inj hpost
                    have hmem : 0x26 ∈ name ++ [0x3B] := by simp [hm]
                    rcases List.mem_append.mp hmem with hmem | hmem
                    · exact absurd hmem (hnames b name hb)
                    · exact absurd (List.mem_singleton.mp hmem) (by decide)

/-- What an escaped text is made of. -/
theorem mem_escape {l : List UInt8} {a : UInt8}
    (h : a ∈ l.flatMap (escapeByte written)) :
    (a ∈ l ∧ written a = none) ∨
      ∃ b ∈ l, ∃ name ∈ written b, a ∈ 0x26 :: (name ++ [0x3B]) := by
  obtain ⟨b, hb, ha⟩ := List.mem_flatMap.mp h
  rw [escapeByte.eq_def] at ha
  cases hname : written b with
  | none =>
      rw [hname] at ha
      obtain rfl := List.mem_singleton.mp ha
      exact .inl ⟨hb, hname⟩
  | some name =>
      rw [hname] at ha
      exact .inr ⟨b, hb, name, hname, ha⟩

/-- **Round trip.** Where no name stands for another byte, a text comes back
exactly if each of its bytes that has a name has one that is known. -/
theorem unescape_escape_iff (hamp : written 0x26 ≠ none)
    (hnames : ∀ b, ∀ name ∈ written b, 0x3B ∉ name)
    (hself : ∀ b, ∀ c ∈ reread known written b, c = b) {l m : List UInt8} :
    (unescaper known).unescape (l.flatMap (escapeByte written)) = some m ↔
      m = l ∧ ∀ b ∈ l, reread known written b = some b := by
  rw [Unescaper.unescape_flatMap (rereads hamp hnames)]
  exact mapM_eq_some_iff hself

end Entity

end Xupnp.Library
