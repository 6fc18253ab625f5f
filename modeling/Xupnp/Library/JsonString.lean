import Xupnp.Library.Escape
import Xupnp.Library.Json

/-!
# JSON string literals

What stands between the quotes of a literal is a body: it has no quote that is
not escaped, and every escape in it is one of JSON. A text between quotes is a
literal exactly if it is a body (`parse_literal_iff`). A text stands for itself
only if no byte of it needs an escape (`body_self_iff`), and one that was
escaped byte by byte, each as something that reads as the byte or as nothing,
is a body of it exactly if all its bytes read (`body_flatMap_iff`).
-/

namespace Xupnp.Library.Json

/-- One byte of a body. -/
def bodyStep (s : Str) (b : UInt8) : Option Str :=
  if s.escape = .none ∧ b = 0x22 then none else strStep s b

/-- The text between the quotes stands for `text`. -/
def Body (raw text : Text) : Prop :=
  runFrom bodyStep ⟨[], .none⟩ raw = some ⟨text, .none⟩

/-- What the text between the quotes stands for, if it is a body. -/
def bodyText (raw : Text) : Text :=
  ((runFrom bodyStep ⟨[], .none⟩ raw).map Str.text).getD []

theorem Body.bodyText_eq {raw text : Text} (h : Body raw text) :
    bodyText raw = text := by
  rw [bodyText, h]
  rfl

theorem body_bodyText {raw text : Text} (h : Body raw text) :
    Body raw (bodyText raw) := by
  rwa [h.bodyText_eq]

section Literal

variable {s : Str} {st : List Frame} {raw text : Text} {v J : Value}

/-- A body is read within a literal and within a name alike. -/
theorem runFrom_body (inside : Str → Mode)
    (hinside : ∀ s b, ¬ (s.escape = .none ∧ b = 0x22) →
      step (inside s, st) b = (strStep s b).map fun s => (inside s, st))
    {t : Str} (h : runFrom bodyStep s raw = some t) :
    runFrom step (inside s, st) raw = some (inside t, st) := by
  induction raw generalizing s with
  | nil =>
      obtain rfl := Option.some.inj h
      rfl
  | cons b raw ih =>
      rw [runFrom_cons, bodyStep] at h
      split at h
      · cases h
      · next hend =>
          obtain ⟨s', hs', h⟩ := Option.bind_eq_some_iff.mp h
          rw [runFrom_cons, hinside s b hend, hs', Option.map_some,
            Option.bind_some]
          exact ih h

/-- After the last value there is white space only. -/
theorem isWs_of_accepts_done {l : Text}
    (h : reader.Accepts (.done v, []) l J) : ∀ b ∈ l, isWs b = true := by
  induction l with
  | nil => simp
  | cons b l ih =>
      obtain ⟨y, hy, hl⟩ := Reader.accepts_cons_iff.mp h
      change afterValue v [] b = some y at hy
      rw [afterValue] at hy
      split at hy
      · next hb =>
          obtain rfl := Option.some.inj hy
          exact List.forall_mem_cons.mpr ⟨hb, ih hl⟩
      · cases hy

/-- A string up to the end of the text. -/
theorem accepts_inString_iff :
    reader.Accepts (.inString s, []) (raw ++ [0x22]) J ↔
      ∃ text, J = .str text ∧
        runFrom bodyStep s raw = some ⟨text, .none⟩ := by
  induction raw generalizing s with
  | nil =>
      obtain ⟨t, escape⟩ := s
      rw [List.nil_append, Reader.accepts_cons_iff]
      simp only [runFrom_nil, Option.some.injEq, Str.mk.injEq]
      constructor
      · rintro ⟨y, hy, hfinish⟩
        by_cases hend : escape = .none
        · subst hend
          obtain rfl := Option.some.inj hy
          exact ⟨t, (Option.some.inj hfinish).symm, rfl, rfl⟩
        · have hstep : reader.step (.inString ⟨t, escape⟩, []) 0x22 =
              (strStep ⟨t, escape⟩ 0x22).map fun s => (.inString s, []) :=
            if_neg fun h => hend h.1
          rw [hstep] at hy
          obtain ⟨s', -, rfl⟩ := Option.map_eq_some_iff.mp hy
          cases hfinish
      · rintro ⟨text, rfl, rfl, rfl⟩
        exact ⟨(.done (.str t), []), rfl, rfl⟩
  | cons b raw ih =>
      rw [List.cons_append, Reader.accepts_cons_iff, runFrom_cons, bodyStep]
      by_cases hend : s.escape = .none ∧ b = 0x22
      · rw [if_pos hend, Option.bind_none]
        constructor
        · rintro ⟨y, hy, hrest⟩
          have hstep : step (.inString s, []) b =
              some (.done (.str s.text), []) := if_pos hend
          obtain rfl := Option.some.inj (hstep.symm.trans hy)
          -- The quote of the end would have to be white space.
          exact absurd (isWs_of_accepts_done hrest 0x22 (by simp)) (by decide)
        · rintro ⟨text, -, h⟩
          cases h
      · rw [if_neg hend]
        have hstep : reader.step (.inString s, []) b =
            (strStep s b).map fun s => (.inString s, []) := if_neg hend
        rw [hstep]
        cases strStep s b with
        | none => simp
        | some s' =>
            simp only [Option.map_some, Option.some.injEq, exists_eq_left',
              Option.bind_some]
            exact ih

/-- **Literals.** -/
theorem parse_literal_iff :
    parse (0x22 :: (raw ++ [0x22])) = some J ↔
      Utf8.Valid raw ∧ ∃ text, J = .str text ∧ Body raw text := by
  have hvalid : Utf8.Valid (0x22 :: (raw ++ [0x22])) ↔ Utf8.Valid raw := by
    rw [Utf8.valid_cons (by decide), Utf8.valid_append_cons (by decide)]
    exact and_iff_left Utf8.valid_nil
  rw [parse_eq_some, hvalid, Reader.accepts_cons rfl]
  exact and_congr_right fun _ => accepts_inString_iff

theorem parse_literal_str_iff :
    parse (0x22 :: (raw ++ [0x22])) = some (.str text) ↔
      Utf8.Valid raw ∧ Body raw text := by
  rw [parse_literal_iff]
  refine and_congr_right fun _ => ?_
  constructor
  · rintro ⟨t, ht, hbody⟩
    rwa [Value.str.inj ht]
  · exact fun h => ⟨text, rfl, h⟩

end Literal

/-! ## Bodies that are written byte by byte -/

section Written

variable {esc : UInt8 → Text} {reread : UInt8 → Option UInt8} {l : Text}

/-- In front of any text, `esc b` is read as `reread b`. -/
def ReadsByte (esc : UInt8 → Text) (reread : UInt8 → Option UInt8)
    (b : UInt8) : Prop :=
  ∀ text rest, runFrom bodyStep ⟨text, .none⟩ (esc b ++ rest) =
    (reread b).bind fun c => runFrom bodyStep ⟨text ++ [c], .none⟩ rest

theorem runFrom_bodyStep_flatMap (h : ∀ b ∈ l, ReadsByte esc reread b)
    (text : Text) :
    runFrom bodyStep ⟨text, .none⟩ (l.flatMap esc) =
      (l.mapM reread).map fun m => ⟨text ++ m, .none⟩ := by
  induction l generalizing text with
  | nil => simp
  | cons b l ih =>
      obtain ⟨hb, hl⟩ := List.forall_mem_cons.mp h
      rw [List.flatMap_cons, hb, List.mapM_cons]
      cases reread b with
      | none => rfl
      | some c =>
          rw [Option.bind_some, ih hl]
          cases List.mapM reread l with
          | none => rfl
          | some m => simp

/-- **Escaped texts.** -/
theorem body_flatMap_iff {P : UInt8 → Prop} [DecidablePred P]
    (h : ∀ b ∈ l, ReadsByte esc (fun b => if P b then some b else none) b) :
    Body (l.flatMap esc) l ↔ ∀ b ∈ l, P b := by
  have hself : ∀ b, ∀ c ∈ if P b then some b else none, c = b := by
    intro b c hc
    split at hc
    · exact (Option.some.inj hc).symm
    · cases hc
  rw [Body, runFrom_bodyStep_flatMap h]
  constructor
  · intro hbody b hb
    obtain ⟨m, hm, heq⟩ := Option.map_eq_some_iff.mp hbody
    obtain rfl : m = l := congrArg Str.text heq
    have hread := ((mapM_eq_some_iff hself).mp hm).2 b hb
    by_contra hno
    rw [if_neg hno] at hread
    cases hread
  · intro hall
    refine Option.map_eq_some_iff.mpr ⟨l, ?_, rfl⟩
    exact (mapM_eq_some_iff hself).mpr ⟨rfl, fun b hb => if_pos (hall b hb)⟩

/-- A byte that is no backslash is read as itself where it is plain. -/
theorem readsByte_self {b : UInt8} (hb : b ≠ 0x5C) :
    ReadsByte (fun b => [b]) (fun b => if Plain b then some b else none)
      b := by
  intro text rest
  rw [List.singleton_append, runFrom_cons]
  by_cases hplain : Plain b
  · have hstep : bodyStep ⟨text, .none⟩ b = some ⟨text ++ [b], .none⟩ := by
      simp [bodyStep, strStep, hplain.2.1, hb, UInt8.not_lt.mpr hplain.1]
    dsimp only
    rw [hstep, if_pos hplain]
    rfl
  · have hstep : bodyStep ⟨text, .none⟩ b = none := by
      by_cases hquote : b = 0x22
      · simp [bodyStep, hquote]
      · have hctl : b < 0x20 := by
          by_contra hctl
          exact hplain ⟨UInt8.not_lt.mp hctl, hquote, hb⟩
        simp [bodyStep, strStep, hquote, hb, hctl]
    dsimp only
    rw [hstep, if_neg hplain]
    rfl

/-- A backslash and one more byte. -/
theorem runFrom_bodyStep_short {c : UInt8} (hc : c ≠ 0x75)
    (text rest : Text) :
    runFrom bodyStep ⟨text, .none⟩ (0x5C :: c :: rest) =
      (shortEscape c).bind fun d =>
        runFrom bodyStep ⟨text ++ [d], .none⟩ rest := by
  have hslash : bodyStep ⟨text, .none⟩ 0x5C = some ⟨text, .slash⟩ := rfl
  have hstep : bodyStep ⟨text, .slash⟩ c =
      (shortEscape c).map fun d => ⟨text ++ [d], .none⟩ := by
    rw [bodyStep, if_neg fun h => by cases h.1]
    exact if_neg hc
  rw [runFrom_cons, hslash, Option.bind_some, runFrom_cons, hstep,
    Option.bind_map]
  rfl

end Written

/-! ## Bodies that are written as they stand -/

/-- How many bytes the escape sequence has taken so far, or one. -/
def Escape.weight : Escape → ℕ
  | .none => 1
  | .slash => 1
  | .hex left _ => 5 - left
  | .lowSlash _ => 6
  | .lowU _ => 7
  | .lowHex _ left _ => 11 - left

theorem length_utf8 (code : ℕ) : (utf8 code).length ≤ 4 := by
  rw [utf8]
  split_ifs <;> simp

/-- What a string decodes to stays behind what has been read of it, once
something was escaped. -/
theorem strStep_weight {s s' : Str} {b : UInt8} (h : strStep s b = some s')
    {n : ℕ} (hn : s.text.length + s.escape.weight ≤ n) :
    s'.text.length + s'.escape.weight ≤ n + 1 := by
  obtain ⟨text, escape⟩ := s
  have hutf8 := length_utf8
  cases escape with
  | none =>
      simp only [strStep] at h
      split_ifs at h <;> obtain rfl := Option.some.inj h
      · exact hn.trans (Nat.le_succ n)
      · simp only [List.length_append, List.length_singleton] at hn ⊢
        omega
  | slash =>
      simp only [strStep] at h
      split at h
      · obtain rfl := Option.some.inj h
        exact Nat.succ_le_succ hn
      · obtain ⟨c, -, rfl⟩ := Option.map_eq_some_iff.mp h
        simp only [List.length_append, List.length_singleton] at hn ⊢
        exact Nat.succ_le_succ hn
  | hex left code =>
      cases left with
      | zero =>
          obtain ⟨d, -, h⟩ := Option.bind_eq_some_iff.mp h
          dsimp only at h hn
          split_ifs at h <;> obtain rfl := Option.some.inj h
          · exact Nat.succ_le_succ hn
          · -- Six bytes that are read give at most four.
            have := hutf8 (16 * code + d)
            simp only [Escape.weight, List.length_append] at hn ⊢
            omega
      | succ left =>
          obtain ⟨d, -, rfl⟩ := Option.map_eq_some_iff.mp h
          simp only [Escape.weight] at hn ⊢
          omega
  | lowSlash high =>
      simp only [strStep] at h
      split at h
      · obtain rfl := Option.some.inj h
        exact Nat.succ_le_succ hn
      · cases h
  | lowU high =>
      simp only [strStep] at h
      split at h
      · obtain rfl := Option.some.inj h
        exact Nat.succ_le_succ hn
      · cases h
  | lowHex high left code =>
      cases left with
      | zero =>
          obtain ⟨d, -, h⟩ := Option.bind_eq_some_iff.mp h
          dsimp only at h hn
          split at h
          · obtain rfl := Option.some.inj h
            have := hutf8
              (0x10000 + 0x400 * (high - 0xD800) + (16 * code + d - 0xDC00))
            simp only [Escape.weight, List.length_append] at hn ⊢
            omega
          · cases h
      | succ left =>
          obtain ⟨d, -, rfl⟩ := Option.map_eq_some_iff.mp h
          simp only [Escape.weight] at hn ⊢
          omega

section Plain

variable {s s' : Str} {l : Text}

theorem strStep_of_bodyStep {b : UInt8} (h : bodyStep s b = some s') :
    strStep s b = some s' := by
  unfold bodyStep at h
  split at h
  · cases h
  · exact h

theorem runFrom_bodyStep_weight (h : runFrom bodyStep s l = some s') {n : ℕ}
    (hn : s.text.length + s.escape.weight ≤ n) :
    s'.text.length + s'.escape.weight ≤ n + l.length := by
  induction l generalizing s n with
  | nil =>
      obtain rfl := Option.some.inj h
      exact hn
  | cons b l ih =>
      rw [runFrom_cons] at h
      obtain ⟨y, hy, h⟩ := Option.bind_eq_some_iff.mp h
      have := ih h (strStep_weight (strStep_of_bodyStep hy) hn)
      rw [List.length_cons]
      omega

/-- Plain bytes are read as they stand. -/
theorem runFrom_bodyStep_plain (h : ∀ b ∈ l, Plain b) (text : Text) :
    runFrom bodyStep ⟨text, .none⟩ l = some ⟨text ++ l, .none⟩ := by
  induction l generalizing text with
  | nil => simp
  | cons b l ih =>
      obtain ⟨⟨hctl, hquote, hslash⟩, hl⟩ := List.forall_mem_cons.mp h
      have hstep : bodyStep ⟨text, .none⟩ b = some ⟨text ++ [b], .none⟩ := by
        simp [bodyStep, strStep, hquote, hslash, UInt8.not_lt.mpr hctl]
      rw [runFrom_cons, hstep, Option.bind_some, ih hl]
      simp

theorem plain_of_runFrom_bodyStep {text : Text}
    (h : runFrom bodyStep ⟨text, .none⟩ l = some ⟨text ++ l, .none⟩) :
    ∀ b ∈ l, Plain b := by
  induction l generalizing text with
  | nil => simp
  | cons b l ih =>
      rw [runFrom_cons] at h
      obtain ⟨y, hy, h⟩ := Option.bind_eq_some_iff.mp h
      simp only [bodyStep, strStep, true_and] at hy
      split_ifs at hy with hquote hslash hctl
      · -- From a backslash on the text falls behind.
        obtain rfl := Option.some.inj hy
        have hshort := runFrom_bodyStep_weight h
          (n := text.length + 1) le_rfl
        simp only [List.length_append, List.length_cons, Escape.weight]
          at hshort
        omega
      · obtain rfl := Option.some.inj hy
        have hb : Plain b := ⟨UInt8.not_lt.mp hctl, hquote, hslash⟩
        have h : runFrom bodyStep ⟨text ++ [b], .none⟩ l =
            some ⟨text ++ [b] ++ l, .none⟩ := by simpa using h
        have hl := ih h
        exact List.forall_mem_cons.mpr ⟨hb, hl⟩

/-- A plain name up to the opening quote of its value. -/
theorem runFrom_name {members : List (Text × Value)} {st : List Frame}
    {name : Text} (h : ∀ b ∈ name, Plain b) :
    runFrom step (.nextName members, st)
        (0x22 :: (name ++ [0x22, 0x3A, 0x22])) =
      some (.inString ⟨[], .none⟩, .obj members name :: st) := by
  have hopen : step (.nextName members, st) 0x22 =
      some (.inName members ⟨[], .none⟩, st) := rfl
  have hname : runFrom step (.inName members ⟨[], .none⟩, st) name =
      some (.inName members ⟨name, .none⟩, st) :=
    runFrom_body (.inName members) (fun _ _ hend => if_neg hend)
      (runFrom_bodyStep_plain h [])
  rw [runFrom_cons, hopen, Option.bind_some, runFrom_append, hname]
  rfl

/-- **Texts that are not escaped.** -/
theorem body_self_iff : Body l l ↔ ∀ b ∈ l, Plain b :=
  ⟨fun h => plain_of_runFrom_bodyStep h, fun h => runFrom_bodyStep_plain h []⟩

end Plain

end Xupnp.Library.Json
