import Mathlib.Data.Bool.AllAny
import Xupnp.Library.CString
import Xupnp.Library.Escape
import Xupnp.Library.JsonString

/-!
# C escapes (`g_strescape`)

A byte is escaped as in a C literal, unless it is among the exceptions. The
escapes can be told apart (`gStrescape_injective`), but they are not those of
JSON: between quotes the text is a JSON literal of what was escaped exactly if
there was nothing in it but printable ASCII and tabs, form feeds and carriage
returns (`body_gStrescape_iff`).
-/

namespace Xupnp.Library.CEscape

/-- The bytes with a letter of their own. -/
def letters : List (UInt8 × UInt8) :=
  [(0x08, 0x62), (0x0C, 0x66), (0x0A, 0x6E), (0x0D, 0x72), (0x09, 0x74),
    (0x0B, 0x76), (0x5C, 0x5C), (0x22, 0x22)]

/-- What is written for a byte. -/
def escapeByte (exceptions : List UInt8) (b : UInt8) : List UInt8 :=
  if b ∈ exceptions then [b]
  else
    match letters.lookup b with
    | some c => [0x5C, c]
    | none =>
        if b < 0x20 ∨ 0x7F ≤ b then
          [0x5C, 0x30 + b / 64, 0x30 + b / 8 % 8, 0x30 + b % 8]
        else [b]

/-- The ways to write a byte. -/
theorem escapeByte_cases {exceptions : List UInt8} {b : UInt8}
    {P : List UInt8 → Prop} (hexception : b ∈ exceptions → P [b])
    (hletter : ∀ c, (b, c) ∈ letters → b ∉ exceptions → P [0x5C, c])
    (hoctal : b ∉ exceptions → letters.lookup b = none →
      b < 0x20 ∨ 0x7F ≤ b →
      P [0x5C, 0x30 + b / 64, 0x30 + b / 8 % 8, 0x30 + b % 8])
    (hplain : b ≠ 0x5C → b ≠ 0x22 → 0x20 ≤ b → b < 0x7F → P [b]) :
    P (escapeByte exceptions b) := by
  unfold escapeByte
  split
  · next hexc => exact hexception hexc
  · next hexc =>
      cases hlook : letters.lookup b with
      | some c =>
          obtain ⟨pre, post, heq, -⟩ := List.lookup_eq_some_iff.mp hlook
          exact hletter c (by simp [heq]) hexc
      | none =>
          dsimp only
          split
          · next hrange => exact hoctal hexc hlook hrange
          · next hrange =>
              rw [not_or, UInt8.not_lt, UInt8.not_le] at hrange
              have hother : b ≠ 0x5C ∧ b ≠ 0x22 := by
                constructor
                · rintro rfl
                  cases hlook
                · rintro rfl
                  cases hlook
              exact hplain hother.1 hother.2 hrange.1 hrange.2

theorem nul_notMem_escapeByte {exceptions : List UInt8} (b : UInt8)
    (hb : b ≠ 0) : 0 ∉ escapeByte exceptions b := by
  have hletters : ∀ e ∈ letters, e.2 ≠ 0 :=
    List.all_iff_forall_prop.mp (by decide)
  have hdigits : ∀ b : UInt8, 0 ∉
      [0x5C, 0x30 + b / 64, 0x30 + b / 8 % 8, 0x30 + b % 8] :=
    forall_byte (by decide +kernel)
  refine escapeByte_cases (P := fun w => 0 ∉ w) ?_ ?_ ?_ ?_
  · intro _
    simpa using hb.symm
  · intro c hc _
    simpa using (hletters _ hc).symm
  · intro _ _ _
    exact hdigits b
  · intro _ _ _ _
    simpa using hb.symm

/-- `g_strescape (source, exceptions)` -/
def gStrescape (exceptions : List UInt8) (source : CStr) : CStr :=
  source.flatMap (escapeByte exceptions) nul_notMem_escapeByte

/-- What is longer when it is escaped makes the text longer. -/
theorem length_lt_gStrescape {exceptions : List UInt8} {source : CStr}
    {b : UInt8} (hb : b ∈ source.bytes)
    (h : 1 < (escapeByte exceptions b).length) :
    source.bytes.length < (gStrescape exceptions source).bytes.length := by
  have hpos : ∀ b, 1 ≤ (escapeByte exceptions b).length := fun b =>
    escapeByte_cases (P := fun w => 1 ≤ w.length) (fun _ => le_rfl)
      (fun _ _ _ => by simp) (fun _ _ _ => by simp) fun _ _ _ _ => le_rfl
  have hle : ∀ l : List UInt8,
      l.length ≤ (l.flatMap (escapeByte exceptions)).length := by
    intro l
    induction l with
    | nil => exact le_rfl
    | cons c l ih =>
        have hc := hpos c
        rw [List.flatMap_cons, List.length_append, List.length_cons]
        omega
  show _ < (source.bytes.flatMap (escapeByte exceptions)).length
  obtain ⟨pre, post, hbytes⟩ := List.append_of_mem hb
  have hpre := hle pre
  have hpost := hle post
  rw [hbytes, List.flatMap_append, List.flatMap_cons]
  simp only [List.length_append, List.length_cons]
  omega

/-! ## Reading it back -/

inductive State where
  | idle
  | slash
  | octal (high : UInt8)
  | octal2 (high : UInt8)
deriving DecidableEq

def isOctal (b : UInt8) : Bool := 0x30 ≤ b && b ≤ 0x37

/-- What a backslash and one more byte stand for. -/
def shortEscape (b : UInt8) : UInt8 :=
  if b = 0x62 then 0x08
  else if b = 0x66 then 0x0C
  else if b = 0x6E then 0x0A
  else if b = 0x72 then 0x0D
  else if b = 0x74 then 0x09
  else if b = 0x76 then 0x0B
  else b

/-- `g_strcompress`, with octal escapes of three digits. -/
def unescaper : Unescaper State where
  idle := .idle
  step
    | .idle, b => some (if b = 0x5C then (.slash, []) else (.idle, [b]))
    | .slash, b =>
        some (if isOctal b then (.octal (b - 0x30), [])
          else (.idle, [shortEscape b]))
    | .octal high, b =>
        if isOctal b then some (.octal2 (8 * high + (b - 0x30)), []) else none
    | .octal2 high, b =>
        if isOctal b then some (.idle, [8 * high + (b - 0x30)]) else none

section Unescape

variable {l : List UInt8} {b c : UInt8}

theorem unescape_plain (hb : b ≠ 0x5C) (l : List UInt8) :
    unescaper.unescape (b :: l) = (unescaper.unescape l).map (b :: ·) := by
  have hstep : unescaper.step .idle b = some (.idle, [b]) :=
    congrArg some (if_neg hb)
  exact Unescaper.readFrom_step hstep l

theorem unescape_slash (hc : isOctal c = false) (l : List UInt8) :
    unescaper.unescape (0x5C :: c :: l) =
      (unescaper.unescape l).map (shortEscape c :: ·) := by
  have hslash : unescaper.step .idle 0x5C = some (.slash, []) := rfl
  have hstep : unescaper.step .slash c = some (.idle, [shortEscape c]) := by
    show some (if isOctal c = true then _ else _) = _
    rw [hc]
    rfl
  show unescaper.readFrom .idle _ = (unescaper.readFrom .idle l).map _
  rw [Unescaper.readFrom_step hslash, Unescaper.readFrom_step hstep]
  cases unescaper.readFrom .idle l <;> rfl

theorem unescape_octal (b : UInt8) (l : List UInt8) :
    unescaper.unescape
        (0x5C :: (0x30 + b / 64) :: (0x30 + b / 8 % 8) :: (0x30 + b % 8) :: l) =
      (unescaper.unescape l).map (b :: ·) := by
  have hdigits : ∀ b : UInt8, isOctal (0x30 + b / 64) = true ∧
      isOctal (0x30 + b / 8 % 8) = true ∧ isOctal (0x30 + b % 8) = true ∧
      8 * (8 * (0x30 + b / 64 - 0x30) + (0x30 + b / 8 % 8 - 0x30)) +
        (0x30 + b % 8 - 0x30) = b :=
    forall_byte (by decide +kernel)
  obtain ⟨h₁, h₂, h₃, hjoin⟩ := hdigits b
  have hslash : unescaper.step .idle 0x5C = some (.slash, []) := rfl
  have hfirst : unescaper.step .slash (0x30 + b / 64) =
      some (.octal (0x30 + b / 64 - 0x30), []) := by
    show some (if isOctal _ = true then _ else _) = _
    rw [h₁]
    rfl
  have hsecond : ∀ high, unescaper.step (.octal high) (0x30 + b / 8 % 8) =
      some (.octal2 (8 * high + (0x30 + b / 8 % 8 - 0x30)), []) :=
    fun high => if_pos h₂
  have hthird : ∀ high, unescaper.step (.octal2 high) (0x30 + b % 8) =
      some (.idle, [8 * high + (0x30 + b % 8 - 0x30)]) :=
    fun high => if_pos h₃
  show unescaper.readFrom .idle _ = (unescaper.readFrom .idle l).map _
  rw [Unescaper.readFrom_step hslash, Unescaper.readFrom_step hfirst,
    Unescaper.readFrom_step (hsecond _), Unescaper.readFrom_step (hthird _),
    hjoin]
  cases unescaper.readFrom .idle l <;> rfl

/-- **Every byte is read as itself.** -/
theorem rereads {exceptions : List UInt8} (hslash : 0x5C ∉ exceptions) :
    unescaper.Rereads (escapeByte exceptions) some := by
  have hletters : ∀ e ∈ letters,
      isOctal e.2 = false ∧ shortEscape e.2 = e.1 :=
    List.all_iff_forall_prop.mp (by decide)
  intro b l
  show _ = (unescaper.unescape l).map (b :: ·)
  refine escapeByte_cases (P := fun w => unescaper.unescape (w ++ l) =
    (unescaper.unescape l).map (b :: ·)) ?_ ?_ ?_ ?_
  · intro hexc
    exact unescape_plain (ne_of_mem_of_not_mem hexc hslash) l
  · intro c hc _
    obtain ⟨hoctal, hshort⟩ := hletters _ hc
    have hread := unescape_slash hoctal l
    rw [hshort] at hread
    exact hread
  · intro _ _ _
    exact unescape_octal b l
  · intro hb _ _ _
    exact unescape_plain hb l

theorem unescape_gStrescape {exceptions : List UInt8}
    (hslash : 0x5C ∉ exceptions) (source : CStr) :
    unescaper.unescape (gStrescape exceptions source).bytes =
      some source.bytes := by
  show unescaper.unescape (source.bytes.flatMap (escapeByte exceptions)) = _
  rw [Unescaper.unescape_flatMap (rereads hslash)]
  exact (mapM_eq_some_iff fun b c h => (Option.some.inj h).symm).mpr
    ⟨rfl, fun _ _ => rfl⟩

/-- **The escapes can be told apart.** -/
theorem gStrescape_injective {exceptions : List UInt8}
    (hslash : 0x5C ∉ exceptions) :
    Function.Injective (gStrescape exceptions) := by
  intro s t h
  apply CStr.bytes_injective
  apply Option.some.inj
  rw [← unescape_gStrescape hslash s, h, unescape_gStrescape hslash]

end Unescape

/-! ## As a JSON literal -/

/-- The byte is written as JSON would, where `\b` and `\n` are not written at
all. -/
def JsonByte (b : UInt8) : Prop :=
  (0x20 ≤ b ∧ b < 0x7F) ∨ b = 0x09 ∨ b = 0x0C ∨ b = 0x0D

instance (b : UInt8) : Decidable (JsonByte b) :=
  inferInstanceAs (Decidable (_ ∨ _))

/-- What JSON reads where `\b` and `\n` are the exceptions. -/
theorem readsByte_escapeByte (b : UInt8) :
    Json.ReadsByte (escapeByte [0x08, 0x0A])
      (fun b => if JsonByte b then some b else none) b := by
  have hletters : ∀ e ∈ letters, e.1 ∉ [0x08, 0x0A] → e.2 ≠ 0x75 ∧
      Json.shortEscape e.2 = if JsonByte e.1 then some e.1 else none :=
    List.all_iff_forall_prop.mp (by decide)
  have hdigit : ∀ b : UInt8, 0x30 + b / 64 ≠ 0x75 ∧
      Json.shortEscape (0x30 + b / 64) = none :=
    forall_byte (by decide +kernel)
  have hother : ∀ b : UInt8, letters.lookup b = none →
      b < 0x20 ∨ 0x7F ≤ b → ¬ JsonByte b :=
    forall_byte (by decide +kernel)
  intro text rest
  refine escapeByte_cases (P := fun w =>
    runFrom Json.bodyStep ⟨text, .none⟩ (w ++ rest) =
      (if JsonByte b then some b else none).bind fun c =>
        runFrom Json.bodyStep ⟨text ++ [c], .none⟩ rest) ?_ ?_ ?_ ?_
  · -- An exception is a control character that stands as it is.
    intro hexc
    have hno : Json.bodyStep ⟨text, .none⟩ b = none ∧ ¬ JsonByte b := by
      simp only [List.mem_cons, List.not_mem_nil, or_false] at hexc
      rcases hexc with rfl | rfl
      · exact ⟨rfl, by decide⟩
      · exact ⟨rfl, by decide⟩
    rw [List.singleton_append, runFrom_cons, hno.1, if_neg hno.2]
    rfl
  · intro c hc hexc
    obtain ⟨hhex, hshort⟩ := hletters _ hc hexc
    rw [← hshort]
    exact Json.runFrom_bodyStep_short hhex text rest
  · intro _ hlook hrange
    obtain ⟨hhex, hshort⟩ := hdigit b
    rw [if_neg (hother b hlook hrange)]
    refine (Json.runFrom_bodyStep_short hhex text _).trans ?_
    rw [hshort]
    rfl
  · intro hslash hquote hlow hhigh
    have hplain : Json.Plain b := ⟨hlow, hquote, hslash⟩
    have hread := Json.readsByte_self hslash text rest
    dsimp only at hread
    rw [if_pos hplain] at hread
    rw [if_pos (.inl ⟨hlow, hhigh⟩)]
    exact hread

/-- **As a JSON literal.** -/
theorem body_gStrescape_iff {source : CStr} :
    Json.Body (gStrescape [0x08, 0x0A] source).bytes source.bytes ↔
      ∀ b ∈ source.bytes, JsonByte b :=
  Json.body_flatMap_iff fun b _ => readsByte_escapeByte b

/-- It is ASCII, whatever was escaped. -/
theorem valid_gStrescape (source : CStr) :
    Utf8.Valid (gStrescape [0x08, 0x0A] source).bytes := by
  have hletters : ∀ e ∈ letters, e.2 < 0x80 :=
    List.all_iff_forall_prop.mp (by decide)
  have hdigits : ∀ b : UInt8,
      [0x5C, 0x30 + b / 64, 0x30 + b / 8 % 8, 0x30 + b % 8].all
        (fun a => decide (a < 0x80)) = true := forall_byte (by decide +kernel)
  have hascii : ∀ b, ∀ a ∈ escapeByte [0x08, 0x0A] b, a < 0x80 := by
    intro b
    refine escapeByte_cases (P := fun w => ∀ a ∈ w, a < 0x80) ?_ ?_ ?_ ?_
    · intro hexc a ha
      rw [List.mem_singleton.mp ha]
      have hall : ∀ e ∈ ([0x08, 0x0A] : List UInt8), e < 0x80 :=
        List.all_iff_forall_prop.mp (by decide)
      exact hall b hexc
    · intro c hc _
      exact List.forall_mem_cons.mpr
        ⟨by decide, List.forall_mem_singleton.mpr (hletters _ hc)⟩
    · intro _ _ _
      exact List.all_iff_forall_prop.mp (hdigits b)
    · intro _ _ _ hb a ha
      rw [List.mem_singleton.mp ha]
      exact UInt8.lt_trans hb (by decide)
  have hall : (gStrescape [0x08, 0x0A] source).bytes.all Utf8.isAscii =
      true := by
    apply List.all_eq_true.mpr
    intro a ha
    obtain ⟨b, -, ha⟩ := List.mem_flatMap.mp ha
    exact decide_eq_true (hascii b a ha)
  have hiff := Utf8.valid_ascii_append (m := []) hall
  rw [List.append_nil] at hiff
  exact hiff.mpr Utf8.valid_nil

end Xupnp.Library.CEscape
