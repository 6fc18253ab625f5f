import Xupnp.Library.JsonString
import Xupnp.Library.Tokens

/-!
# Flat JSON objects as they are written

An object of scalars with everything that its text leaves open: the white
space, the escapes, the order of the members. Its text reads as its members
(`parse_render`). A scanner that cuts the text at braces, commas and colons, and
maybe at more, gets the texts in front of and behind each colon, cut further,
and what is outside of the braces (`splitOnP_render`).
-/

namespace Xupnp.Library.Json

/-! ## Layout -/

/-- White space. -/
abbrev Blank := {l : Text // ∀ b ∈ l, isWs b = true}

/-- A string literal, as it stands between the quotes and what it is read
as. -/
structure Literal where
  raw : Text
  text : Text
  body : Body raw text
  valid : Utf8.Valid raw

def Literal.quoted (s : Literal) : Text := 0x22 :: (s.raw ++ [0x22])

/-- What ends a member. -/
def EndsMember (b : UInt8) : Prop := isWs b = true ∨ b = 0x2C ∨ b = 0x7D

/-- Values that are not objects or arrays. -/
class Scalar (α : Type) where
  write : α → Text
  denote : α → Value
  valid : ∀ a, Utf8.Valid (write a)
  nul_free : ∀ a, 0 ∉ write a
  reads : ∀ a (st : List Frame) b, EndsMember b →
    runFrom step (.value, st) (write a ++ [b]) = afterValue (denote a) st b

/-- A member, with the white space around its name and its value. -/
structure FlatField (α : Type) where
  beforeName : Blank
  name : Literal
  beforeColon : Blank
  afterColon : Blank
  value : α
  behindValue : Blank

/-- An object. `inner` stands between the braces of one without members. -/
structure FlatObject (α : Type) where
  before : Blank
  inner : Blank
  fields : List (FlatField α)
  behind : Blank

def noBlank : Blank := ⟨[], fun _ h => absurd h List.not_mem_nil⟩

/-- Written without white space. -/
def FlatField.tight {α : Type} (name : Literal) (value : α) : FlatField α :=
  ⟨noBlank, name, noBlank, noBlank, value, noBlank⟩

def FlatObject.tight {α : Type} (fields : List (FlatField α)) : FlatObject α :=
  ⟨noBlank, noBlank, fields, noBlank⟩

section Render

variable {α : Type} [Scalar α]

def FlatField.nameText (f : FlatField α) : Text :=
  f.beforeName.1 ++ f.name.quoted ++ f.beforeColon.1

def FlatField.valueText (f : FlatField α) : Text :=
  f.afterColon.1 ++ Scalar.write f.value ++ f.behindValue.1

def FlatField.render (f : FlatField α) : Text := f.nameText ++ 0x3A :: f.valueText

def renderFields : List (FlatField α) → Text
  | [] => []
  | [f] => f.render
  | f :: g :: fs => f.render ++ 0x2C :: renderFields (g :: fs)

/-- What stands between the braces. -/
def FlatObject.content (o : FlatObject α) : Text :=
  match o.fields with
  | [] => o.inner.1
  | f :: fs => renderFields (f :: fs)

def FlatObject.render (o : FlatObject α) : Text :=
  o.before.1 ++ 0x7B :: (o.content ++ 0x7D :: o.behind.1)

def FlatField.member (f : FlatField α) : Text × Value :=
  (f.name.text, Scalar.denote f.value)

def FlatObject.members (o : FlatObject α) : List (Text × Value) :=
  o.fields.map FlatField.member

end Render

/-! ## Strings and numbers -/

section Scalars

theorem isWs_ascii : ∀ b, isWs b = true → Utf8.isAscii b = true :=
  forall_byte (by decide +kernel)

theorem isSpace_of_isWs : ∀ b, isWs b = true → CStr.isSpace b = true :=
  forall_byte (by decide +kernel)

theorem digit_ascii : ∀ b, isDigit b = true → Utf8.isAscii b = true :=
  forall_byte (by decide +kernel)

/-- No body has a NUL in it. -/
theorem Body.nul_free {raw text : Text} (h : Body raw text) : 0 ∉ raw := by
  have hstep : ∀ s : Str, bodyStep s 0 = none := by
    rintro ⟨text, escape⟩
    cases escape with
    | hex left code => cases left <;> rfl
    | lowHex high left code => cases left <;> rfl
    | _ => rfl
  unfold Body at h
  generalize (⟨[], .none⟩ : Str) = s at h
  induction raw generalizing s with
  | nil => exact List.not_mem_nil
  | cons b raw ih =>
      rw [runFrom_cons] at h
      obtain ⟨s', hs', h⟩ := Option.bind_eq_some_iff.mp h
      rw [List.mem_cons, not_or]
      refine ⟨?_, ih s' h⟩
      rintro rfl
      rw [hstep] at hs'
      cases hs'

theorem Literal.valid_quoted (s : Literal) : Utf8.Valid s.quoted := by
  rw [Literal.quoted, Utf8.valid_cons (by decide),
    Utf8.valid_append_cons (by decide)]
  exact ⟨s.valid, Utf8.valid_nil⟩

theorem Literal.nul_free (s : Literal) : 0 ∉ s.quoted := by
  have hraw := s.body.nul_free
  simp [Literal.quoted, hraw]

/-- A literal up to its closing quote. -/
theorem Literal.runFrom_raw (s : Literal) (inside : Str → Mode)
    (st : List Frame)
    (hinside : ∀ s b, ¬ (s.escape = .none ∧ b = 0x22) →
      step (inside s, st) b = (strStep s b).map fun s => (inside s, st)) :
    runFrom step (inside ⟨[], .none⟩, st) s.raw =
      some (inside ⟨s.text, .none⟩, st) :=
  runFrom_body inside hinside s.body

instance : Scalar Literal where
  write := Literal.quoted
  denote s := .str s.text
  valid := Literal.valid_quoted
  nul_free := Literal.nul_free
  reads s st b hb := by
    have hopen : step (.value, st) 0x22 = some (.inString ⟨[], .none⟩, st) :=
      rfl
    have hraw := s.runFrom_raw .inString st fun _ _ h => if_neg h
    have hclose : step (.inString ⟨s.text, .none⟩, st) 0x22 =
        some (.done (.str s.text), st) := rfl
    show runFrom step _ (0x22 :: (s.raw ++ [0x22] ++ [b])) = _
    rw [runFrom_cons, hopen, Option.bind_some, List.append_assoc,
      runFrom_append, hraw, Option.bind_some, List.singleton_append,
      runFrom_cons, hclose, Option.bind_some, runFrom_cons]
    show (afterValue _ st b).bind some = _
    exact Option.bind_fun_some _

/-- What ends a member ends a number. -/
theorem numStep_of_endsMember {b : UInt8} (h : EndsMember b) :
    numStep .zero b = none ∧ numStep .int b = none := by
  have hws : ∀ b, isWs b = true →
      numStep .zero b = none ∧ numStep .int b = none :=
    forall_byte (by decide +kernel)
  rcases h with h | rfl | rfl
  · exact hws b h
  · exact ⟨rfl, rfl⟩
  · exact ⟨rfl, rfl⟩

theorem isDigit_of_mem_digits {n : ℕ} : ∀ b ∈ CStr.digits n,
    isDigit b = true := by
  intro b hb
  obtain ⟨hlow, hhigh⟩ := CStr.mem_digits hb
  simp [isDigit, hlow, hhigh]

/-- The digits of a number start with none or with one that is not zero. -/
theorem digits_cases (n : ℕ) : CStr.digits n = [0x30] ∨
    ∃ b l, CStr.digits n = b :: l ∧ b ≠ 0x30 := by
  by_cases hn : n = 0
  · subst hn
    exact .inl rfl
  right
  rw [CStr.digits, if_neg hn]
  have hne : Nat.digits 10 n ≠ [] := Nat.digits_ne_nil_iff_ne_zero.mpr hn
  obtain ⟨l, d, hl⟩ := List.eq_nil_or_concat' (Nat.digits 10 n) |>.resolve_left
    hne
  have hlast := Nat.getLast_digit_ne_zero 10 hn
  have hlt : d < 10 := Nat.digits_lt_base (m := n) (by decide) (by simp [hl])
  have hd : d ≠ 0 := by simpa [hl] using hlast
  refine ⟨UInt8.ofNat (0x30 + d),
    l.reverse.map fun d => UInt8.ofNat (0x30 + d), ?_, ?_⟩
  · rw [hl, List.reverse_append]
    rfl
  · interval_cases d
    · exact absurd rfl hd
    all_goals decide

theorem runFrom_int {l : Text} (h : ∀ b ∈ l, isDigit b = true) (text : Text)
    (st : List Frame) : runFrom step (.inNumber .int text, st) l =
      some (.inNumber .int (text ++ l), st) := by
  induction l generalizing text with
  | nil => simp
  | cons b l ih =>
      obtain ⟨hb, hl⟩ := List.forall_mem_cons.mp h
      have hstep : step (.inNumber .int text, st) b =
          some (.inNumber .int (text ++ [b]), st) := by
        simp [step, numStep, hb]
      rw [runFrom_cons, hstep, Option.bind_some, ih hl]
      simp

instance : Scalar ℕ where
  write := CStr.digits
  denote n := .num (CStr.digits n)
  valid n := by
    have hascii : (CStr.digits n).all Utf8.isAscii = true :=
      List.all_eq_true.mpr fun b hb =>
        digit_ascii b (isDigit_of_mem_digits b hb)
    have := (Utf8.valid_ascii_append (m := []) hascii).mpr Utf8.valid_nil
    rwa [List.append_nil] at this
  nul_free n h := absurd (CStr.mem_digits h).1 (by decide)
  reads n st b hb := by
    obtain ⟨hzero, hint⟩ := numStep_of_endsMember hb
    rcases digits_cases n with hn | ⟨c, l, hn, hc⟩
    · rw [hn]
      have hopen : step (.value, st) 0x30 = some (.inNumber .zero [0x30], st) :=
        rfl
      have hend : step (.inNumber .zero [0x30], st) b =
          afterValue (.num [0x30]) st b := by
        simp [step, hzero, Num.complete]
      rw [List.singleton_append, runFrom_cons, hopen, Option.bind_some,
        runFrom_cons, hend]
      exact Option.bind_fun_some _
    · have hdigits := isDigit_of_mem_digits (n := n)
      rw [hn] at hdigits ⊢
      obtain ⟨hcd, hl⟩ := List.forall_mem_cons.mp hdigits
      have hstart : ∀ c, isDigit c = true → c ≠ 0x30 →
          isWs c = false ∧ c ≠ 0x22 ∧ c ≠ 0x7B ∧ c ≠ 0x5B ∧ c ≠ 0x74 ∧
            c ≠ 0x66 ∧ c ≠ 0x6E ∧ c ≠ 0x2D := forall_byte (by decide +kernel)
      obtain ⟨h₁, h₂, h₃, h₄, h₅, h₆, h₇, h₈⟩ := hstart c hcd hc
      have hopen : step (.value, st) c = some (.inNumber .int [c], st) := by
        simp [step, startValue, h₁, h₂, h₃, h₄, h₅, h₆, h₇, h₈, hc, hcd]
      have hend : step (.inNumber .int (c :: l), st) b =
          afterValue (.num (c :: l)) st b := by
        simp [step, hint, Num.complete]
      rw [List.cons_append, runFrom_cons, hopen, Option.bind_some,
        runFrom_append, runFrom_int hl, Option.bind_some, runFrom_cons,
        List.singleton_append, hend]
      exact Option.bind_fun_some _

end Scalars

/-! ## The text is read as the members -/

section Parse

variable {α : Type} {st : List Frame} {members : List (Text × Value)}
  {mode : Mode}

theorem runFrom_blank {x : State} (h : ∀ b, isWs b = true → step x b = some x)
    (blank : Blank) : runFrom step x blank.1 = some x := by
  obtain ⟨l, hl⟩ := blank
  induction l with
  | nil => rfl
  | cons b l ih =>
      obtain ⟨hb, hl⟩ := List.forall_mem_cons.mp hl
      show runFrom step x (b :: l) = some x
      rw [runFrom_cons, h b hb, Option.bind_some]
      exact ih hl

/-- A name may stand here. -/
def AwaitsName (mode : Mode) (members : List (Text × Value)) : Prop :=
  (mode = .firstName ∧ members = []) ∨ mode = .nextName members

theorem step_awaitsName_ws (h : AwaitsName mode members) :
    ∀ b, isWs b = true → step (mode, st) b = some (mode, st) := by
  intro b hb
  rcases h with ⟨rfl, -⟩ | rfl <;> exact if_pos hb

theorem step_awaitsName_quote (h : AwaitsName mode members) :
    step (mode, st) 0x22 = some (.inName members ⟨[], .none⟩, st) := by
  rcases h with ⟨rfl, rfl⟩ | rfl <;> rfl

theorem runFrom_nameText (f : FlatField α) (h : AwaitsName mode members) :
    runFrom step (mode, st) (f.nameText ++ [0x3A]) =
      some (.value, .obj members f.name.text :: st) := by
  have hcolon : ∀ b, isWs b = true →
      step (.colon members f.name.text, st) b =
        some (.colon members f.name.text, st) := fun b hb => if_pos hb
  have hraw := f.name.runFrom_raw (.inName members) st fun _ _ h => if_neg h
  have hclose : step (.inName members ⟨f.name.text, .none⟩, st) 0x22 =
      some (.colon members f.name.text, st) := rfl
  have hquoted : runFrom step (mode, st) f.name.quoted =
      some (.colon members f.name.text, st) := by
    rw [Literal.quoted, runFrom_cons, step_awaitsName_quote h, Option.bind_some,
      runFrom_append, hraw, Option.bind_some, runFrom_cons, hclose]
    rfl
  rw [FlatField.nameText, List.append_assoc, List.append_assoc, runFrom_append,
    runFrom_blank (step_awaitsName_ws h), Option.bind_some, runFrom_append,
    hquoted, Option.bind_some, runFrom_append, runFrom_blank hcolon]
  rfl

variable [Scalar α]

/-- White space behind a value changes nothing for what ends the member. -/
theorem runFrom_behindValue (a : α) (blank : Blank) {b : UInt8}
    (hb : b = 0x2C ∨ b = 0x7D) :
    runFrom step (.value, st) (Scalar.write a ++ blank.1 ++ [b]) =
      afterValue (Scalar.denote a) st b := by
  obtain ⟨l, hl⟩ := blank
  cases l with
  | nil =>
      rw [List.append_nil]
      exact Scalar.reads a st b (.inr hb)
  | cons c l =>
      obtain ⟨hc, hl⟩ := List.forall_mem_cons.mp hl
      have hafter : ∀ b, isWs b = true →
          step (.done (Scalar.denote a), st) b =
            some (.done (Scalar.denote a), st) := fun b hb => if_pos hb
      have hfirst : runFrom step (.value, st) (Scalar.write a ++ [c]) =
          some (.done (Scalar.denote a), st) :=
        (Scalar.reads a st c (.inl hc)).trans (if_pos hc)
      have happend : Scalar.write a ++ (c :: l) ++ [b] =
          Scalar.write a ++ [c] ++ (l ++ [b]) := by simp
      rw [happend, runFrom_append, hfirst, Option.bind_some, runFrom_append,
        runFrom_blank hafter ⟨l, hl⟩, Option.bind_some, runFrom_cons]
      exact Option.bind_fun_some _

theorem runFrom_field (f : FlatField α) (h : AwaitsName mode members)
    {b : UInt8} (hb : b = 0x2C ∨ b = 0x7D) :
    runFrom step (mode, st) (f.render ++ [b]) =
      afterValue (Scalar.denote f.value) (.obj members f.name.text :: st) b := by
  have hvalue : ∀ st b, isWs b = true → step (.value, st) b =
      some (.value, st) := fun st b hb => if_pos hb
  have happend : f.render ++ [b] = f.nameText ++ [0x3A] ++
      (f.afterColon.1 ++ (Scalar.write f.value ++ f.behindValue.1 ++ [b])) := by
    simp [FlatField.render, FlatField.valueText]
  rw [happend, runFrom_append, runFrom_nameText f h, Option.bind_some,
    runFrom_append, runFrom_blank (hvalue _), Option.bind_some]
  exact runFrom_behindValue f.value f.behindValue hb

/-- The members one after the other, up to the brace. -/
theorem runFrom_renderFields (f : FlatField α) (fs : List (FlatField α))
    (h : AwaitsName mode members) :
    runFrom step (mode, st) (renderFields (f :: fs) ++ [0x7D]) =
      some (.done (.obj (members ++ (f :: fs).map FlatField.member)), st) := by
  induction fs generalizing f mode members with
  | nil =>
      rw [renderFields, runFrom_field f h (.inr rfl)]
      rfl
  | cons g fs ih =>
      have happend : renderFields (f :: g :: fs) ++ [0x7D] =
          f.render ++ [0x2C] ++ (renderFields (g :: fs) ++ [0x7D]) := by
        simp [renderFields]
      have hcomma : runFrom step (mode, st) (f.render ++ [0x2C]) =
          some (.nextName (members ++ [f.member]), st) :=
        runFrom_field f h (.inl rfl)
      rw [happend, runFrom_append, hcomma, Option.bind_some, ih g (.inr rfl)]
      simp

theorem runFrom_content (o : FlatObject α) :
    runFrom step (.firstName, st) (o.content ++ [0x7D]) =
      some (.done (.obj o.members), st) := by
  have hfirst : AwaitsName .firstName [] := .inl ⟨rfl, rfl⟩
  unfold FlatObject.content FlatObject.members
  cases o.fields with
  | nil =>
      show runFrom step _ (o.inner.1 ++ [0x7D]) = _
      rw [runFrom_append, runFrom_blank (step_awaitsName_ws hfirst)]
      rfl
  | cons f fs => exact runFrom_renderFields f fs hfirst

end Parse

/-! ## Bytes -/

section Bytes

variable {α : Type} [Scalar α] {l : Text}

theorem Blank.isAscii (blank : Blank) : blank.1.all Utf8.isAscii = true :=
  List.all_eq_true.mpr fun b hb => isWs_ascii b (blank.2 b hb)

theorem Blank.valid_append (blank : Blank) :
    Utf8.Valid (blank.1 ++ l) ↔ Utf8.Valid l :=
  Utf8.valid_ascii_append blank.isAscii

/-- White space behind a text changes nothing either. -/
theorem Blank.append_valid (blank : Blank) (h : Utf8.Valid l) :
    Utf8.Valid (l ++ blank.1) := by
  obtain ⟨w, hw⟩ := blank
  cases w with
  | nil => rwa [List.append_nil]
  | cons b w =>
      obtain ⟨hb, hw⟩ := List.forall_mem_cons.mp hw
      have hascii : b < 0x80 := of_decide_eq_true (isWs_ascii b hb)
      refine (Utf8.valid_append_cons hascii).mpr ⟨h, ?_⟩
      have := (Blank.valid_append (l := []) ⟨w, hw⟩).mpr Utf8.valid_nil
      rwa [List.append_nil] at this

theorem FlatField.valid (f : FlatField α) : Utf8.Valid f.render := by
  rw [FlatField.render, Utf8.valid_append_cons (by decide), FlatField.nameText,
    FlatField.valueText, List.append_assoc, List.append_assoc, Blank.valid_append,
    Blank.valid_append]
  exact ⟨Blank.append_valid _ f.name.valid_quoted,
    Blank.append_valid _ (Scalar.valid f.value)⟩

theorem valid_renderFields (fs : List (FlatField α)) :
    Utf8.Valid (renderFields fs) := by
  induction fs with
  | nil => exact Utf8.valid_nil
  | cons f fs ih =>
      cases fs with
      | nil => exact f.valid
      | cons g fs => exact (Utf8.valid_append_cons (by decide)).mpr ⟨f.valid, ih⟩

theorem FlatObject.valid (o : FlatObject α) : Utf8.Valid o.render := by
  have hcontent : Utf8.Valid o.content := by
    unfold FlatObject.content
    split
    · have := (Blank.valid_append (l := []) o.inner).mpr Utf8.valid_nil
      rwa [List.append_nil] at this
    · exact valid_renderFields _
  have hbehind := (Blank.valid_append (l := []) o.behind).mpr Utf8.valid_nil
  rw [List.append_nil] at hbehind
  rw [FlatObject.render, Blank.valid_append, Utf8.valid_cons (by decide),
    Utf8.valid_append_cons (by decide)]
  exact ⟨hcontent, hbehind⟩

/-- **Reading what was written.** -/
theorem parse_render (o : FlatObject α) :
    parse o.render = some (.obj o.members) := by
  have hvalue : ∀ b, isWs b = true → step (.value, []) b =
      some (.value, []) := fun b hb => if_pos hb
  have hdone : ∀ b, isWs b = true →
      step (.done (.obj o.members), []) b =
        some (.done (.obj o.members), []) := fun b hb => if_pos hb
  have hopen : step (.value, []) 0x7B = some (.firstName, []) := rfl
  have happend : o.content ++ 0x7D :: o.behind.1 =
      o.content ++ [0x7D] ++ o.behind.1 := by simp
  refine parse_eq_some.mpr ⟨o.valid, ?_⟩
  rw [FlatObject.render, Reader.accepts_append (runFrom_blank hvalue _),
    Reader.accepts_cons hopen, happend,
    Reader.accepts_append (runFrom_content o)]
  show (runFrom step _ o.behind.1).bind finish = _
  rw [runFrom_blank hdone]
  rfl

theorem Blank.nul_free (blank : Blank) : 0 ∉ blank.1 := fun h =>
  absurd (blank.2 0 h) (by decide)

theorem FlatField.nul_free (f : FlatField α) : 0 ∉ f.render := by
  simp [FlatField.render, FlatField.nameText, FlatField.valueText, Blank.nul_free,
    Literal.nul_free, Scalar.nul_free]

theorem FlatObject.nul_free (o : FlatObject α) : 0 ∉ o.render := by
  have hfields : ∀ fs : List (FlatField α), 0 ∉ renderFields fs := by
    intro fs
    induction fs with
    | nil => exact List.not_mem_nil
    | cons f fs ih =>
        cases fs with
        | nil => exact f.nul_free
        | cons g fs =>
            rw [renderFields, List.mem_append, List.mem_cons]
            rintro (h | h | h)
            · exact f.nul_free h
            · cases h
            · exact ih h
  have hcontent : 0 ∉ o.content := by
    unfold FlatObject.content
    split
    · exact o.inner.nul_free
    · exact hfields _
  simp [FlatObject.render, Blank.nul_free, hcontent]

theorem FlatObject.render_ne_nil (o : FlatObject α) : o.render ≠ [] := by
  simp [FlatObject.render]

/-- White space around a text is stripped. -/
theorem stripBytes_blanks (front behind : Blank) {l : Text} (hne : l ≠ [])
    (hl : CStr.stripBytes l = l) :
    CStr.stripBytes (front.1 ++ l ++ behind.1) = l := by
  have hhead := CStr.head_stripBytes l
  have hlast := CStr.getLast_stripBytes l
  rw [hl] at hhead hlast
  have hfront : ∀ b ∈ front.1, CStr.isSpace b = true := fun b hb =>
    isSpace_of_isWs b (front.2 b hb)
  have hbehind : ∀ b ∈ behind.1.reverse, CStr.isSpace b = true := fun b hb =>
    isSpace_of_isWs b (behind.2 b (List.mem_reverse.mp hb))
  have hdrop : (l ++ behind.1).dropWhile CStr.isSpace = l ++ behind.1 := by
    obtain ⟨b, m, rfl⟩ := List.exists_cons_of_ne_nil hne
    rw [List.cons_append, List.dropWhile_cons_of_neg]
    rw [hhead b rfl]
    exact Bool.false_ne_true
  have hself : l.rdropWhile CStr.isSpace = l :=
    CStr.rdropWhile_eq_self fun h =>
      hlast _ (List.getLast?_eq_getLast_of_ne_nil h)
  rw [CStr.stripBytes, List.append_assoc, List.dropWhile_append_of_pos hfront,
    hdrop, List.rdropWhile, List.reverse_append,
    List.dropWhile_append_of_pos hbehind]
  exact hself

/-- What has no quotation mark is in a literal if it is between its marks. -/
theorem Literal.infix_quoted {s : Literal} {l : Text} (h : 0x22 ∉ l) :
    l <:+: s.quoted ↔ l <:+: s.raw := by
  constructor
  · intro hin
    rcases List.infix_cons_iff.mp hin with hpre | hin
    · cases l with
      | nil => exact List.nil_infix
      | cons b l =>
          obtain ⟨rfl, -⟩ := List.cons_prefix_cons.mp hpre
          exact absurd List.mem_cons_self h
    · rcases List.infix_concat_iff.mp hin with hsuf | hin
      · rcases List.suffix_concat_iff.mp hsuf with rfl | ⟨t, rfl, -⟩
        · exact List.nil_infix
        · exact absurd (List.mem_append_right _ (List.mem_singleton.mpr rfl)) h
      · exact hin
  · intro hin
    exact (hin.trans (List.prefix_append _ _).isInfix).trans
      (List.suffix_cons _ _).isInfix

end Bytes

/-! ## Cut at the punctuation -/

section Split

variable {α : Type} [Scalar α] {p : UInt8 → Bool}

/-- The parts of a member. -/
def FlatField.parts (p : UInt8 → Bool) (f : FlatField α) : List Text :=
  f.nameText.splitOnP p ++ f.valueText.splitOnP p

/-- The parts of an object. -/
def FlatObject.parts (p : UInt8 → Bool) (o : FlatObject α) : List Text :=
  o.before.1 :: ((match o.fields with
    | [] => [o.inner.1]
    | f :: fs => (f :: fs).flatMap (FlatField.parts p)) ++ [o.behind.1])

/-- Braces, commas and colons are delimiters, white space is none. -/
structure CutsObjects (p : UInt8 → Bool) : Prop where
  brace : p 0x7B = true
  closing : p 0x7D = true
  comma : p 0x2C = true
  colon : p 0x3A = true
  blank : ∀ b, isWs b = true → p b = false

theorem CutsObjects.splitOnP_blank (h : CutsObjects p) (blank : Blank) :
    blank.1.splitOnP p = [blank.1] :=
  List.splitOnP_eq_singleton fun b hb => h.blank b (blank.2 b hb)

theorem CutsObjects.splitOnP_field (h : CutsObjects p) (f : FlatField α) :
    f.render.splitOnP p = f.parts p :=
  List.splitOnP_append_cons _ _ h.colon

theorem CutsObjects.splitOnP_fields (h : CutsObjects p) (f : FlatField α)
    (fs : List (FlatField α)) : (renderFields (f :: fs)).splitOnP p =
      (f :: fs).flatMap (FlatField.parts p) := by
  induction fs generalizing f with
  | nil =>
      rw [renderFields, h.splitOnP_field, List.flatMap_singleton]
  | cons g fs ih =>
      rw [renderFields, List.splitOnP_append_cons _ _ h.comma,
        h.splitOnP_field, ih g]
      rfl

/-- **The parts of an object.** -/
theorem splitOnP_render (h : CutsObjects p) (o : FlatObject α) :
    o.render.splitOnP p = o.parts p := by
  rw [FlatObject.render, List.splitOnP_append_cons _ _ h.brace,
    h.splitOnP_blank, List.splitOnP_append_cons _ _ h.closing,
    h.splitOnP_blank]
  unfold FlatObject.content FlatObject.parts
  cases o.fields with
  | nil => rw [h.splitOnP_blank]; rfl
  | cons f fs => rw [h.splitOnP_fields]; rfl

theorem tokens_render (h : CutsObjects p) (o : FlatObject α) :
    (CStr.ofBytes o.render).tokens p = (o.parts p).map CStr.ofBytes := by
  have hbytes := CStr.bytes_ofBytes o.nul_free
  rw [CStr.tokens_of_ne_nil (by rw [hbytes]; exact o.render_ne_nil),
    CStr.splitSet, hbytes, splitOnP_render h]

end Split

end Xupnp.Library.Json
