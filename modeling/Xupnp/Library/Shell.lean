import Mathlib.Data.List.Infix
import Xupnp.Library.CString
import Xupnp.Library.Reader

/-!
# Shell commands

How a POSIX shell splits the text of a simple command into its words. Only
texts that are one such command are read: one whose name is written as it is,
without expansions, patterns, operators or comments in it. `accepts_quoted`
says which texts come back as one word when they are put between double
quotes, in whatever text follows.
-/

namespace Xupnp.Library.Shell

open Xupnp.Library

abbrev Text := List UInt8

/-- How the next byte of a word is taken. -/
inductive Quote where
  | bare
  | bareEscape
  | single
  | double
  | doubleEscape
deriving DecidableEq

/-- A command in reading: its name, or the words it has so far. -/
inductive State where
  | name (cur : Text)
  | between (words : List Text)
  | word (words : List Text) (cur : Text) (q : Quote)
deriving DecidableEq

def isBlank (b : UInt8) : Bool := b == 0x20 || b == 0x09

/-- A byte that stands for itself outside quotes, in a word that has begun.
Braces are not read, since some shells expand them. -/
def isBare (b : UInt8) : Bool :=
  !isBlank b && b != 0x0A && b ∉ CStr.ascii "|&;<>()$\x60\\\"'*?[\x7b\x7d"

/-- A byte that may mean something else at the front of a word: a comment, a
home directory, a job. -/
def isOpening (b : UInt8) : Bool := b ∈ CStr.ascii "#~=%"

/-- What a backslash between double quotes takes its meaning from, a new line
apart. -/
def isEscapable (b : UInt8) : Bool :=
  b == 0x24 || b == 0x60 || b == 0x22 || b == 0x5C

def reserved : List Text :=
  ["if", "then", "else", "elif", "fi", "do", "done", "case", "esac", "while",
    "until", "for", "in", "!"].map CStr.ascii

/-- The text is the name of a command, written as it is. With an `=` in it, it
may be an assignment. -/
def Name (w : Text) : Prop :=
  w.all isBare = true ∧ w ≠ [] ∧ w ∉ reserved ∧
    w.head?.any isOpening = false ∧ 0x3D ∉ w

instance (w : Text) : Decidable (Name w) :=
  inferInstanceAs (Decidable (_ ∧ _))

/-- A byte of a word. -/
def wordStep (words : List Text) (cur : Text) : Quote → UInt8 → Option State
  | .bare, b =>
      if isBlank b then some (.between (words ++ [cur]))
      else if b = 0x22 then some (.word words cur .double)
      else if b = 0x27 then some (.word words cur .single)
      else if b = 0x5C then some (.word words cur .bareEscape)
      else if isBare b then some (.word words (cur ++ [b]) .bare)
      else none
  | .bareEscape, b =>
      -- The command would go on in the next line.
      if b = 0x0A then none else some (.word words (cur ++ [b]) .bare)
  | .single, b =>
      if b = 0x27 then some (.word words cur .bare)
      else some (.word words (cur ++ [b]) .single)
  | .double, b =>
      if b = 0x22 then some (.word words cur .bare)
      else if b = 0x5C then some (.word words cur .doubleEscape)
      -- What is expanded or run is not known from the text.
      else if b = 0x24 ∨ b = 0x60 then none
      else some (.word words (cur ++ [b]) .double)
  | .doubleEscape, b =>
      if b = 0x0A then some (.word words cur .double)
      else if isEscapable b then some (.word words (cur ++ [b]) .double)
      else some (.word words (cur ++ [0x5C, b]) .double)

/-- One byte. -/
def step : State → UInt8 → Option State
  | .name cur, b =>
      if isBare b then some (.name (cur ++ [b]))
      else if isBlank b ∧ Name cur then some (.between [cur])
      else none
  | .between words, b =>
      if isBlank b then some (.between words)
      else if isOpening b then none
      else wordStep words [] .bare b
  | .word words cur q, b => wordStep words cur q b

/-- The words of a command that ends here. -/
def finish : State → Option (List Text)
  | .name cur => if Name cur then some [cur] else none
  | .between words => some words
  | .word words cur .bare => some (words ++ [cur])
  | _ => none

def reader : Reader State UInt8 (List Text) := ⟨step, finish⟩

/-- The words of a command: its name, and its arguments. -/
def command (l : Text) : Option (List Text) := reader.read (.name []) l

/-! ## What has been read stays read -/

/-- From this state only commands of these words can be read. -/
def Leads : State → List Text → Prop
  | .name cur, ws => ∃ t more, ws = (cur ++ t) :: more
  | .between words, ws => words <+: ws
  | .word words cur _, ws => ∃ t more, ws = words ++ (cur ++ t) :: more

/-- How many bytes of a word have gone by without being added to it, once one
has: what the reader is behind by at least. -/
def Quote.lag : Quote → ℕ
  | .bare | .single | .double => 1
  | .bareEscape | .doubleEscape => 2

/-- What a byte does to a word: it ends it, or it adds to it, which leaves the
reader as far behind as it was. -/
inductive WordStep (words : List Text) (cur : Text) (b : UInt8) :
    Quote → State → Prop where
  | ends (hb : isBlank b = true) :
      WordStep words cur b .bare (.between (words ++ [cur]))
  | adds {q : Quote} (e : Text) (q' : Quote) (hspace : b = 0x20 → 0x20 ∈ e)
      (hlag : e.length + q'.lag ≤ q.lag + 1) :
      WordStep words cur b q (.word words (cur ++ e) q')

section Leads

variable {x y : State} {words ws : List Text} {cur : Text} {q : Quote}
  {b : UInt8}

theorem wordStep_cases (h : wordStep words cur q b = some y) :
    WordStep words cur b q y := by
  have hnone : ∀ q' : Quote, b ≠ 0x20 → q'.lag ≤ q.lag + 1 →
      WordStep words cur b q (.word words cur q') := by
    intro q' hb hlag
    have hstep : WordStep words cur b q (.word words (cur ++ []) q') :=
      .adds [] q' (fun h => absurd h hb) (by simpa using hlag)
    rwa [List.append_nil] at hstep
  have hone : ∀ q' : Quote, q'.lag ≤ q.lag →
      WordStep words cur b q (.word words (cur ++ [b]) q') := by
    intro q' hlag
    refine .adds [b] q' (fun h => by simp [h]) ?_
    simpa [Nat.add_comm] using hlag
  cases q with
  | bare =>
      simp only [wordStep] at h
      split_ifs at h with hblank hdouble hsingle hescape hbare <;>
        obtain rfl := Option.some.inj h
      · exact .ends hblank
      · exact hnone .double (by rw [hdouble]; decide) (by decide)
      · exact hnone .single (by rw [hsingle]; decide) (by decide)
      · exact hnone .bareEscape (by rw [hescape]; decide) (by decide)
      · exact hone .bare le_rfl
  | bareEscape =>
      simp only [wordStep] at h
      split_ifs at h
      obtain rfl := Option.some.inj h
      exact hone .bare (by decide)
  | single =>
      simp only [wordStep] at h
      split_ifs at h with hquote <;> obtain rfl := Option.some.inj h
      · exact hnone .bare (by rw [hquote]; decide) (by decide)
      · exact hone .single le_rfl
  | double =>
      simp only [wordStep] at h
      split_ifs at h with hquote hescape hexpand <;>
        obtain rfl := Option.some.inj h
      · exact hnone .bare (by rw [hquote]; decide) (by decide)
      · exact hnone .doubleEscape (by rw [hescape]; decide) (by decide)
      · exact hone .double le_rfl
  | doubleEscape =>
      simp only [wordStep] at h
      split_ifs at h with hnewline hescapable <;>
        obtain rfl := Option.some.inj h
      · exact hnone .double (by rw [hnewline]; decide) (by decide)
      · exact hone .double (by decide)
      · exact .adds [0x5C, b] .double (fun h => by simp [h]) le_rfl

theorem WordStep.leads (h : WordStep words cur b q y) (hy : Leads y ws) :
    Leads (.word words cur q) ws := by
  cases h with
  | ends hb =>
      obtain ⟨more, rfl⟩ := hy
      exact ⟨[], more, by simp⟩
  | adds e q' hspace hlag =>
      obtain ⟨t, more, rfl⟩ := hy
      exact ⟨e ++ t, more, by simp⟩

theorem leads_of_step (h : step x b = some y) (hy : Leads y ws) :
    Leads x ws := by
  cases x with
  | name cur =>
      rw [step] at h
      split_ifs at h <;> obtain rfl := Option.some.inj h
      · obtain ⟨t, more, rfl⟩ := hy
        exact ⟨b :: t, more, by simp⟩
      · obtain ⟨more, rfl⟩ := hy
        exact ⟨[], more, by simp⟩
  | between words =>
      rw [step] at h
      split_ifs at h
      · obtain rfl := Option.some.inj h
        exact hy
      · obtain ⟨t, more, rfl⟩ := (wordStep_cases h).leads hy
        exact List.prefix_append _ _
  | word words cur q => exact (wordStep_cases h).leads hy

theorem leads_of_finish (h : finish x = some ws) : Leads x ws := by
  cases x with
  | name cur =>
      rw [finish] at h
      split at h
      · obtain rfl := Option.some.inj h
        exact ⟨[], [], by simp⟩
      · cases h
  | between words => exact (Option.some.inj h) ▸ List.prefix_rfl
  | word words cur q =>
      cases q with
      | bare =>
          obtain rfl := Option.some.inj h
          exact ⟨[], [], by simp⟩
      | bareEscape | single | double | doubleEscape => cases h

/-- **What has been read stays read.** -/
theorem leads_of_accepts {l : Text} (h : reader.Accepts x l ws) :
    Leads x ws :=
  Reader.Accepts.backward (L := fun x => Leads x ws)
    (fun _ _ _ => leads_of_step) (fun _ => leads_of_finish) h

end Leads

/-! ## The name -/

section Name

variable {w tail : Text} {args : List Text}

/-- A text up to its first blank is read as a name exactly if it is one. -/
theorem accepts_name :
    reader.Accepts (.name []) (w ++ 0x20 :: tail) (w :: args) ↔
      Name w ∧ reader.Accepts (.between [w]) tail (w :: args) := by
  have hrun : ∀ cur, (∀ b ∈ w, isBare b = true) →
      runFrom step (.name cur) w = some (.name (cur ++ w)) := by
    intro cur hw
    induction w generalizing cur with
    | nil => simp
    | cons b w ih =>
        rw [runFrom_cons, step, if_pos (hw b List.mem_cons_self),
          Option.bind_some, ih _ fun c hc => hw c (List.mem_cons_of_mem b hc)]
        simp
  have hbare : ∀ cur, reader.Accepts (.name cur) (w ++ 0x20 :: tail)
      ((cur ++ w) :: args) → ∀ b ∈ w, isBare b = true := by
    intro cur h
    clear hrun
    induction w generalizing cur with
    | nil => simp
    | cons b w ih =>
        obtain ⟨y, hstep, hy⟩ := Reader.accepts_cons_iff.mp h
        change step (.name cur) b = some y at hstep
        rw [step] at hstep
        split_ifs at hstep with hb hend <;>
          obtain rfl := Option.some.inj hstep
        · intro c hc
          rcases List.mem_cons.mp hc with rfl | hc
          · exact hb
          · exact ih (cur ++ [b]) (by simpa using hy) c hc
        · obtain ⟨more, hmore⟩ := leads_of_accepts hy
          simp at hmore
  have hend : ∀ y, step (.name w) 0x20 = some y ↔
      Name w ∧ y = .between [w] := by
    intro y
    have hspace : isBare 0x20 = false ∧ isBlank 0x20 = true := by decide
    rw [step, hspace.1, hspace.2]
    simp [eq_comm]
  constructor
  · intro h
    rw [Reader.accepts_append (hrun [] (hbare [] h))] at h
    obtain ⟨y, hstep, hy⟩ := Reader.accepts_cons_iff.mp h
    obtain ⟨hname, rfl⟩ := (hend y).mp hstep
    exact ⟨hname, hy⟩
  · rintro ⟨hname, h⟩
    rw [Reader.accepts_append (hrun [] (List.all_eq_true.mp hname.1))]
    exact (Reader.accepts_cons ((hend _).mpr ⟨hname, rfl⟩)).mpr h

end Name

/-! ## Arguments between double quotes -/

/-- The text means itself between double quotes. -/
def quotable : Text → Bool
  | [] => true
  | b :: v =>
      (if b = 0x5C then v.head?.any fun c => !isEscapable c && c != 0x0A
        else !isEscapable b) && quotable v

section Quoted

variable {words ws : List Text} {v tail : Text}

/-- A backslash that escapes nothing is kept. -/
theorem step_doubleEscape {cur : Text} {c : UInt8}
    (hc : isEscapable c = false) (hline : c ≠ 0x0A) :
    step (.word words cur .doubleEscape) c =
      step (.word words (cur ++ [0x5C]) .double) c := by
  have hne := hc
  simp only [isEscapable, Bool.or_eq_false_iff, beq_eq_false_iff_ne] at hne
  simp [step, wordStep, hc, hline, hne]

theorem runFrom_quotable {cur : Text} (h : quotable v = true) :
    runFrom step (.word words cur .double) v =
      some (.word words (cur ++ v) .double) := by
  induction v generalizing cur with
  | nil => simp
  | cons b v ih =>
      obtain ⟨hb, hv⟩ := Bool.and_eq_true_iff.mp h
      by_cases hslash : b = 0x5C
      · -- The backslash is read with the byte behind it, and both are kept.
        subst hslash
        rw [if_pos rfl] at hb
        cases v with
        | nil => simp at hb
        | cons c v =>
            have hc : isEscapable c = false ∧ c ≠ 0x0A := by simpa using hb
            have hslash : step (.word words cur .double) 0x5C =
                some (.word words cur .doubleEscape) := rfl
            rw [runFrom_cons, hslash, Option.bind_some, runFrom_cons,
              step_doubleEscape hc.1 hc.2, ← runFrom_cons, ih hv]
            simp
      · have hne : isEscapable b = false := by simpa [hslash] using hb
        simp only [isEscapable, Bool.or_eq_false_iff, beq_eq_false_iff_ne]
          at hne
        have hstep : step (.word words cur .double) b =
            some (.word words (cur ++ [b]) .double) := by
          simp [step, wordStep, hne]
        rw [runFrom_cons, hstep, Option.bind_some, ih hv]
        simp

/-- A word goes on as what it is to become. -/
theorem prefix_of_accepts {cur l : Text} {q : Quote} {more : List Text}
    (h : reader.Accepts (.word words cur q) l (words ++ v :: more)) :
    cur <+: v := by
  obtain ⟨t, more', heq⟩ := leads_of_accepts h
  exact ⟨t, (List.cons.inj (List.append_cancel_left heq)).1.symm⟩

/-- A word ends as what it was to become. -/
theorem eq_of_accepts {cur l : Text} {more : List Text}
    (h : reader.Accepts (.between (words ++ [cur])) l (words ++ v :: more)) :
    cur = v := by
  obtain ⟨more', heq⟩ := leads_of_accepts h
  rw [List.append_assoc] at heq
  exact (List.cons.inj (List.append_cancel_left heq)).1

/-- The reader is behind: of a word `v` it has `cur`, but it has gone past
`gap`, in which there is no space. -/
structure Behind (v cur gap u : Text) (q : Quote) : Prop where
  word : v = cur ++ gap ++ u
  noSpace : (0x20 : UInt8) ∉ gap
  lag : q.lag ≤ gap.length

/-- Where the text of an argument has ended: at the end of the text, or in
front of a space. -/
def AtEnd (tail : Text) : Prop := tail = [] ∨ ∃ t, tail = 0x20 :: t

section Behind

variable {cur gap e : Text} {more : List Text}

/-- Between quotes a space would be added that the word does not have. -/
theorem not_accepts_quoted {q : Quote} (hgap : (0x20 : UInt8) ∉ gap)
    (htail : AtEnd tail) (hq : q = .single ∨ q = .double) :
    ¬ reader.Accepts (.word words (cur ++ e) q) tail
      (words ++ (cur ++ gap) :: more) := by
  intro h
  rcases htail with rfl | ⟨t, rfl⟩
  · rcases hq with rfl | rfl <;> cases h
  · have hstep : step (.word words (cur ++ e) q) 0x20 =
        some (.word words (cur ++ e ++ [0x20]) q) := by
      rcases hq with rfl | rfl <;> rfl
    have hpre := prefix_of_accepts ((Reader.accepts_cons hstep).mp h)
    rw [List.append_assoc, List.prefix_append_right_inj] at hpre
    exact hgap (hpre.subset (by simp))

/-- Outside quotes the word would end too short. -/
theorem not_accepts_short (hne : e ≠ gap) (htail : AtEnd tail) :
    ¬ reader.Accepts (.word words (cur ++ e) .bare) tail
      (words ++ (cur ++ gap) :: more) := by
  intro h
  have heq : cur ++ e = cur ++ gap := by
    rcases htail with rfl | ⟨t, rfl⟩
    · have hwords := Option.some.inj h
      exact (List.cons.inj (List.append_cancel_left hwords)).1
    · exact eq_of_accepts ((Reader.accepts_cons rfl).mp h)
  exact hne (List.append_cancel_left heq)

/-- **Behind is lost.** A reader that is behind does not catch up before the
argument ends. -/
theorem not_accepts_behind {u : Text} {q : Quote} (hb : Behind v cur gap u q)
    (htail : AtEnd tail) :
    ¬ reader.Accepts (.word words cur q) (u ++ 0x22 :: tail)
      (words ++ v :: more) := by
  induction u generalizing cur gap q with
  | nil =>
      intro h
      have hv : v = cur ++ gap := by simpa using hb.word
      have hlag := hb.lag
      subst hv
      rw [List.nil_append] at h
      cases q with
      | bare =>
          -- The quote opens a quoting, and the word goes on in it.
          rw [Reader.accepts_cons (y := .word words (cur ++ []) .double)
            (by simp [reader, step, wordStep, isBlank])] at h
          exact not_accepts_quoted hb.noSpace htail (Or.inr rfl) h
      | bareEscape =>
          rw [Reader.accepts_cons (y := .word words (cur ++ [0x22]) .bare) rfl]
            at h
          refine not_accepts_short ?_ htail h
          rintro rfl
          exact absurd hlag (by decide)
      | single =>
          rw [Reader.accepts_cons (y := .word words (cur ++ [0x22]) .single) rfl]
            at h
          exact not_accepts_quoted hb.noSpace htail (Or.inl rfl) h
      | double =>
          rw [Reader.accepts_cons (y := .word words (cur ++ []) .bare)
            (by simp [reader, step, wordStep])] at h
          refine not_accepts_short ?_ htail h
          rintro rfl
          exact absurd hlag (by decide)
      | doubleEscape =>
          rw [Reader.accepts_cons (y := .word words (cur ++ [0x22]) .double) rfl]
            at h
          exact not_accepts_quoted hb.noSpace htail (Or.inr rfl) h
  | cons b u ih =>
      intro h
      have hlag := hb.lag
      obtain ⟨y, hstep, hy⟩ := Reader.accepts_cons_iff.mp h
      cases wordStep_cases hstep with
      | ends hblank =>
          have hword := hb.word
          rw [eq_of_accepts hy, List.append_assoc] at hword
          simp at hword
      | adds e q' hspace hlag' =>
          -- What was added is the front of the gap.
          have hpos : 1 ≤ q'.lag := by cases q' <;> decide
          have hpre : e <+: gap := by
            have hpre := prefix_of_accepts hy
            rw [hb.word, List.append_assoc, List.prefix_append_right_inj]
              at hpre
            exact List.prefix_of_prefix_length_le hpre
              (List.prefix_append _ _) (by omega)
          obtain ⟨gap', rfl⟩ := hpre
          have hne : b ≠ 0x20 := fun heq =>
            hb.noSpace (List.mem_append_left _ (hspace heq))
          have hnext : Behind v (cur ++ e) (gap' ++ [b]) u q' := by
            refine ⟨?_, ?_, ?_⟩
            · rw [hb.word]
              simp
            · intro hmem
              rcases List.mem_append.mp hmem with hmem | hmem
              · exact hb.noSpace (List.mem_append_right _ hmem)
              · exact hne (List.mem_singleton.mp hmem).symm
            · simp only [List.length_append, List.length_singleton] at hlag ⊢
              omega
          exact ih hnext hy

/-- A text that is read as itself between double quotes means itself there. -/
theorem quotable_of_accepts (cur : Text) (htail : AtEnd tail)
    (h : reader.Accepts (.word words cur .double) (v ++ 0x22 :: tail)
      (words ++ (cur ++ v) :: more)) : quotable v = true := by
  induction v generalizing cur with
  | nil => rfl
  | cons b v ih =>
      obtain ⟨y, hstep, hy⟩ := Reader.accepts_cons_iff.mp h
      simp only [reader, step, wordStep] at hstep
      split_ifs at hstep with hquote hslash hexpand <;>
        obtain rfl := Option.some.inj hstep
      · -- A quote ends the quoting: it is passed, and not added.
        have hb : Behind (cur ++ b :: v) cur [b] v .bare :=
          ⟨by simp, by rw [hquote]; decide, le_rfl⟩
        exact absurd hy (not_accepts_behind hb htail)
      · subst hslash
        cases v with
        | nil =>
            have hpre := prefix_of_accepts
              ((Reader.accepts_cons (y := .word words (cur ++ [0x22]) .double)
                rfl).mp hy)
            rw [List.prefix_append_right_inj] at hpre
            simp at hpre
        | cons c v =>
            change reader.Accepts _ (c :: (v ++ 0x22 :: tail)) _ at hy
            by_cases hline : c = 0x0A
            · -- Nothing is kept of a backslash and a new line.
              subst hline
              rw [Reader.accepts_cons (y := .word words cur .double) rfl] at hy
              have hb : Behind (cur ++ 0x5C :: 0x0A :: v) cur [0x5C, 0x0A] v
                  .double := ⟨by simp, by decide, by decide⟩
              exact absurd hy (not_accepts_behind hb htail)
            by_cases hc : isEscapable c = true
            · -- Only the escaped byte is kept, so it is a second backslash.
              have hnext : step (.word words cur .doubleEscape) c =
                  some (.word words (cur ++ [c]) .double) := by
                simp [step, wordStep, hline, hc]
              rw [Reader.accepts_cons hnext] at hy
              have hpre := prefix_of_accepts hy
              rw [List.prefix_append_right_inj] at hpre
              obtain rfl : c = 0x5C := by simpa using hpre
              have hb : Behind (cur ++ 0x5C :: 0x5C :: v) (cur ++ [0x5C])
                  [0x5C] v .double := ⟨by simp, by decide, le_rfl⟩
              exact absurd hy (not_accepts_behind hb htail)
            · have hc : isEscapable c = false := by simpa using hc
              obtain ⟨z, hz, hread⟩ := Reader.accepts_cons_iff.mp hy
              have hv := ih (cur ++ [0x5C])
                (Reader.accepts_cons_iff.mpr
                  ⟨z, (step_doubleEscape hc hline).symm.trans hz, by
                    rw [List.append_assoc]
                    exact hread⟩)
              rw [quotable, if_pos rfl]
              simp [hc, hline, hv]
      · have hv := ih (cur ++ [b]) (by simpa using hy)
        have hb : isEscapable b = false := by
          rw [not_or] at hexpand
          simp [isEscapable, hquote, hslash, hexpand]
        simp [quotable, hslash, hb, hv]

end Behind

/-- **Quoted arguments.** A text between double quotes, at the end or in front
of a space, is read as one word that is the text itself, exactly if it means
itself there. -/
theorem accepts_quoted (words : List Text) (v : Text) (more : List Text)
    (htail : AtEnd tail) :
    reader.Accepts (.word words [] .double) (v ++ 0x22 :: tail)
        (words ++ v :: more) ↔
      quotable v = true ∧
        reader.Accepts (.word words v .bare) tail (words ++ v :: more) := by
  constructor
  · intro h
    have hv := quotable_of_accepts [] htail h
    rw [Reader.accepts_append (runFrom_quotable hv), Reader.accepts_cons rfl]
      at h
    exact ⟨hv, h⟩
  · rintro ⟨hv, h⟩
    rw [Reader.accepts_append (runFrom_quotable hv), Reader.accepts_cons rfl]
    exact h

end Quoted

end Xupnp.Library.Shell
