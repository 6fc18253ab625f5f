import Xupnp.Library.JsonString

/-!
# JSON texts with a string on each line

A text whose strings are printed between quotes, each on a line of its own. A
line ends outside the strings, so what was printed on it either is the body of
one string, or holds quotes that end a string early and begin another. The
strings of the value can be counted (`runFrom_scan_of_parse`), and if there are
no more of them than lines were printed, each line is the body of its string
(`runFrom_scan_line`).
-/

namespace Xupnp.Library.Json

/-! ## Counting strings -/

mutual

/-- The strings in a value, the names of members among them. -/
def Value.strings : Value → ℕ
  | .str _ => 1
  | .arr items => itemStrings items
  | .obj members => memberStrings members
  | .null | .bool _ | .num _ => 0

def itemStrings : List Value → ℕ
  | [] => 0
  | v :: items => v.strings + itemStrings items

def memberStrings : List (Text × Value) → ℕ
  | [] => 0
  | (_, v) :: members => 1 + v.strings + memberStrings members

end

theorem itemStrings_append (l m : List Value) :
    itemStrings (l ++ m) = itemStrings l + itemStrings m := by
  induction l with
  | nil => simp [itemStrings]
  | cons v l ih =>
      rw [List.cons_append, itemStrings, itemStrings, ih, Nat.add_assoc]

theorem memberStrings_append (l m : List (Text × Value)) :
    memberStrings (l ++ m) = memberStrings l + memberStrings m := by
  induction l with
  | nil => simp [memberStrings]
  | cons v l ih =>
      rw [List.cons_append, memberStrings, memberStrings, ih]
      omega

/-- The strings that are complete in the open arrays and objects. -/
def frameStrings : List Frame → ℕ
  | [] => 0
  | .arr items :: st => itemStrings items + frameStrings st
  | .obj members _ :: st => memberStrings members + 1 + frameStrings st

/-- The strings that are complete in what is being read. -/
def Mode.strings : Mode → ℕ
  | .value | .firstItem | .firstName | .inString _ | .inNumber _ _ => 0
  | .nextName members | .inName members _ => memberStrings members
  | .colon members _ => memberStrings members + 1
  | .inWord _ v | .done v => v.strings

/-- The string that is being read. -/
def Mode.inside : Mode → Option Str
  | .inName _ s | .inString s => some s
  | _ => none

/-! ## A scanner for strings -/

/-- How many strings have ended, and the one that has not. -/
structure Scan where
  ended : ℕ
  inside : Option Str

/-- One byte, for a scanner that knows of strings only. -/
def scanStep (x : Scan) (b : UInt8) : Option Scan :=
  match x.inside with
  | none => if b = 0x22 then some ⟨x.ended, some ⟨[], .none⟩⟩ else some x
  | some s =>
      if s.escape = .none ∧ b = 0x22 then some ⟨x.ended + 1, none⟩
      else (strStep s b).map fun s => ⟨x.ended, some s⟩

/-- What the scanner knows of a reader. -/
def State.scan (x : State) : Scan :=
  ⟨x.1.strings + frameStrings x.2, x.1.inside⟩

/-- The words the reader waits for hold no quote. -/
def Mode.Quoteless : Mode → Prop
  | .inWord left _ => 0x22 ∉ left
  | _ => True

section Scan

variable {x y : State} {st : List Frame} {v J : Value} {b : UInt8} {l : Text}

/-- Outside of strings, what is no quote changes nothing. -/
theorem scanStep_outside {n : ℕ} (hb : b ≠ 0x22) :
    scanStep ⟨n, none⟩ b = some ⟨n, none⟩ := if_neg hb

theorem scan_startValue (h : startValue st b = some y) :
    scanStep ⟨frameStrings st, none⟩ b = some y.scan ∧ y.1.Quoteless := by
  unfold startValue at h
  by_cases hquote : b = 0x22
  · subst hquote
    rw [if_pos rfl] at h
    obtain rfl := Option.some.inj h
    exact ⟨by simp [scanStep, State.scan, Mode.strings, Mode.inside], trivial⟩
  · rw [if_neg hquote] at h
    rw [scanStep_outside hquote]
    split_ifs at h <;> obtain rfl := Option.some.inj h <;>
      simp [State.scan, Mode.strings, Mode.inside, Mode.Quoteless,
        Value.strings]

theorem scan_afterValue (h : afterValue v st b = some y) :
    scanStep ⟨v.strings + frameStrings st, none⟩ b = some y.scan ∧
      y.1.Quoteless := by
  have hquote : b ≠ 0x22 := by
    rintro rfl
    rw [afterValue.eq_def] at h
    rcases st with _ | ⟨_ | _, _⟩ <;> simp [isWs] at h
  rw [scanStep_outside hquote]
  rw [afterValue.eq_def] at h
  split at h
  · obtain rfl := Option.some.inj h
    exact ⟨rfl, trivial⟩
  split at h
  · cases h
  · split_ifs at h <;> obtain rfl := Option.some.inj h <;>
      simp [State.scan, Mode.strings, Mode.inside, Mode.Quoteless,
        Value.strings, frameStrings, itemStrings_append, itemStrings] <;> omega
  · split_ifs at h <;> obtain rfl := Option.some.inj h <;>
      simp [State.scan, Mode.strings, Mode.inside, Mode.Quoteless,
        Value.strings, frameStrings, memberStrings_append, memberStrings] <;>
      omega

theorem isWs_ne_quote (h : isWs b = true) : b ≠ 0x22 := by
  rintro rfl
  simp [isWs] at h

theorem numStep_ne_quote {q q' : Num} (h : numStep q b = some q') :
    b ≠ 0x22 := by
  rintro rfl
  cases q <;> simp [numStep, isDigit] at h

/-- **The scanner keeps step with the reader.** -/
theorem scan_step (h : step x b = some y) (hx : x.1.Quoteless) :
    scanStep x.scan b = some y.scan ∧ y.1.Quoteless := by
  obtain ⟨mode, st⟩ := x
  cases mode with
  | value =>
      rw [step] at h
      split at h
      · next hws =>
          obtain rfl := Option.some.inj h
          exact ⟨scanStep_outside (isWs_ne_quote hws), trivial⟩
      · simpa [State.scan, Mode.strings, Mode.inside] using scan_startValue h
  | firstItem =>
      rw [step] at h
      split at h
      · next hws =>
          obtain rfl := Option.some.inj h
          exact ⟨scanStep_outside (isWs_ne_quote hws), trivial⟩
      split at h
      · next hb =>
          obtain rfl := Option.some.inj h
          subst hb
          exact ⟨scanStep_outside (by decide), trivial⟩
      · simpa [State.scan, Mode.strings, Mode.inside, frameStrings,
          itemStrings] using scan_startValue h
  | firstName =>
      rw [step] at h
      split at h
      · next hws =>
          obtain rfl := Option.some.inj h
          exact ⟨scanStep_outside (isWs_ne_quote hws), trivial⟩
      split_ifs at h with hb hquote <;> obtain rfl := Option.some.inj h
      · subst hb
        exact ⟨scanStep_outside (by decide), trivial⟩
      · subst hquote
        exact ⟨rfl, trivial⟩
  | nextName members =>
      rw [step] at h
      split at h
      · next hws =>
          obtain rfl := Option.some.inj h
          exact ⟨scanStep_outside (isWs_ne_quote hws), trivial⟩
      split_ifs at h with hquote
      obtain rfl := Option.some.inj h
      subst hquote
      exact ⟨rfl, trivial⟩
  | inName members s =>
      rw [step] at h
      split at h
      · next hend =>
          obtain rfl := Option.some.inj h
          refine ⟨(if_pos hend).trans ?_, trivial⟩
          simp [State.scan, Mode.strings, Mode.inside]
          omega
      · next hend =>
          obtain ⟨s', hs', rfl⟩ := Option.map_eq_some_iff.mp h
          refine ⟨(if_neg hend).trans ?_, trivial⟩
          rw [hs']
          rfl
  | colon members name =>
      rw [step] at h
      split at h
      · next hws =>
          obtain rfl := Option.some.inj h
          exact ⟨scanStep_outside (isWs_ne_quote hws), trivial⟩
      split_ifs at h with hb
      obtain rfl := Option.some.inj h
      subst hb
      refine ⟨(scanStep_outside (by decide)).trans ?_, trivial⟩
      simp [State.scan, Mode.strings, Mode.inside, frameStrings]
  | inString s =>
      rw [step] at h
      split at h
      · next hend =>
          obtain rfl := Option.some.inj h
          refine ⟨(if_pos hend).trans ?_, trivial⟩
          simp [State.scan, Mode.strings, Mode.inside, Value.strings]
          omega
      · next hend =>
          obtain ⟨s', hs', rfl⟩ := Option.map_eq_some_iff.mp h
          refine ⟨(if_neg hend).trans ?_, trivial⟩
          rw [hs']
          rfl
  | inWord left v =>
      cases left with
      | nil => exact scan_afterValue h
      | cons c left =>
          rw [step] at h
          split_ifs at h with hb
          obtain rfl := Option.some.inj h
          subst hb
          have hx : 0x22 ∉ b :: left := hx
          refine ⟨scanStep_outside ?_, fun hmem => hx ?_⟩
          · rintro rfl
            exact hx List.mem_cons_self
          · exact List.mem_cons_of_mem b hmem
  | inNumber q text =>
      rw [step] at h
      split at h
      · next hq =>
          obtain rfl := Option.some.inj h
          exact ⟨scanStep_outside (numStep_ne_quote hq), trivial⟩
      · split_ifs at h
        exact scan_afterValue h
  | done v => exact scan_afterValue h

theorem scan_finish (h : finish x = some J) : x.scan = ⟨J.strings, none⟩ := by
  rw [finish.eq_def] at h
  split at h
  · obtain rfl := Option.some.inj h
    rfl
  · obtain rfl := Option.some.inj h
    rfl
  · split_ifs at h
    obtain rfl := Option.some.inj h
    rfl
  · cases h

theorem runFrom_scan_of_accepts (h : reader.Accepts x l J)
    (hx : x.1.Quoteless) :
    runFrom scanStep x.scan l = some ⟨J.strings, none⟩ := by
  induction l generalizing x with
  | nil => exact congrArg some (scan_finish h)
  | cons b l ih =>
      obtain ⟨y, hy, hl⟩ := Reader.accepts_cons_iff.mp h
      obtain ⟨hscan, hq⟩ := scan_step hy hx
      rw [runFrom_cons, hscan, Option.bind_some]
      exact ih hl hq

/-- **The strings of a text.** A scanner finds as many as are in the value. -/
theorem runFrom_scan_of_parse (h : parse l = some J) :
    runFrom scanStep ⟨0, none⟩ l = some ⟨J.strings, none⟩ :=
  runFrom_scan_of_accepts (parse_eq_some.mp h).2 trivial

end Scan

/-! ## Lines -/

section Lines

variable {n N : ℕ} {raw sep rest l name : Text} {inside : Option Str}

theorem runFrom_scan_outside (h : ∀ b ∈ l, b ≠ 0x22) :
    runFrom scanStep ⟨n, none⟩ l = some ⟨n, none⟩ := by
  induction l with
  | nil => rfl
  | cons b l ih =>
      obtain ⟨hb, hl⟩ := List.forall_mem_cons.mp h
      rw [runFrom_cons, scanStep_outside hb, Option.bind_some, ih hl]

theorem runFrom_scan_plain (h : ∀ b ∈ l, Plain b) (text : Text) :
    runFrom scanStep ⟨n, some ⟨text, .none⟩⟩ l =
      some ⟨n, some ⟨text ++ l, .none⟩⟩ := by
  induction l generalizing text with
  | nil => simp
  | cons b l ih =>
      obtain ⟨⟨hctl, hquote, hslash⟩, hl⟩ := List.forall_mem_cons.mp h
      have hstep : scanStep ⟨n, some ⟨text, .none⟩⟩ b =
          some ⟨n, some ⟨text ++ [b], .none⟩⟩ := by
        simp [scanStep, strStep, hquote, hslash, UInt8.not_lt.mpr hctl]
      rw [runFrom_cons, hstep, Option.bind_some, ih hl]
      simp

/-- A name and the opening quote of what belongs to it. -/
theorem runFrom_scan_name (h : ∀ b ∈ name, Plain b) :
    runFrom scanStep ⟨n, none⟩ (0x22 :: (name ++ [0x22, 0x3A, 0x22])) =
      some ⟨n + 1, some ⟨[], .none⟩⟩ := by
  have hopen : scanStep ⟨n, none⟩ 0x22 = some ⟨n, some ⟨[], .none⟩⟩ := rfl
  rw [runFrom_cons, hopen, Option.bind_some, runFrom_append,
    runFrom_scan_plain h]
  rfl

/-- A line does not end within a string. -/
theorem runFrom_scan_newline (hsep : ∀ b ∈ sep, Plain b) (text : Text) :
    runFrom scanStep ⟨n, some ⟨text, .none⟩⟩ (sep ++ 0x0A :: rest) = none := by
  have hstep : scanStep ⟨n, some ⟨text ++ sep, .none⟩⟩ 0x0A = none := rfl
  rw [runFrom_append, runFrom_scan_plain hsep, Option.bind_some, runFrom_cons,
    hstep]
  rfl

/-- **One line.** Whatever is printed in front of the quote at the end of a
line, a string ends there; if only one does, and the line began within it, what
was printed is its body. -/
theorem runFrom_scan_line (hsep : ∀ b ∈ sep, Plain b)
    (h : runFrom scanStep ⟨n, inside⟩ (raw ++ 0x22 :: (sep ++ 0x0A :: rest)) =
      some ⟨N, none⟩) :
    ∃ k, n < k ∧ runFrom scanStep ⟨k, none⟩ rest = some ⟨N, none⟩ ∧
      (k = n + 1 → ∀ s, inside = some s →
        ∃ text, runFrom bodyStep s raw = some ⟨text, .none⟩) := by
  induction raw generalizing n inside with
  | nil =>
      rw [List.nil_append, runFrom_cons] at h
      cases inside with
      | none =>
          -- The quote begins a string, and the line ends within it.
          have hopen : scanStep ⟨n, none⟩ 0x22 = some ⟨n, some ⟨[], .none⟩⟩ :=
            rfl
          rw [hopen, Option.bind_some, runFrom_scan_newline hsep] at h
          cases h
      | some s =>
          obtain ⟨text, escape⟩ := s
          cases escape with
          | none =>
              have hend : scanStep ⟨n, some ⟨text, .none⟩⟩ 0x22 =
                  some ⟨n + 1, none⟩ := rfl
              have hline : ∀ b ∈ sep ++ [0x0A], b ≠ 0x22 := by
                intro b hb
                rcases List.mem_append.mp hb with hb | hb
                · exact (hsep b hb).2.1
                · rw [List.mem_singleton.mp hb]
                  decide
              rw [hend, Option.bind_some, List.append_cons, runFrom_append,
                runFrom_scan_outside hline, Option.bind_some] at h
              refine ⟨n + 1, Nat.lt_succ_self n, h, ?_⟩
              rintro - s hs
              obtain rfl := Option.some.inj hs
              exact ⟨text, rfl⟩
          | slash =>
              have hquote : scanStep ⟨n, some ⟨text, .slash⟩⟩ 0x22 =
                  some ⟨n, some ⟨text ++ [0x22], .none⟩⟩ := rfl
              rw [hquote, Option.bind_some, runFrom_scan_newline hsep] at h
              cases h
          | hex left code => cases left <;> cases h
          | lowSlash high => cases h
          | lowU high => cases h
          | lowHex high left code => cases left <;> cases h
  | cons b raw ih =>
      rw [List.cons_append, runFrom_cons] at h
      obtain ⟨⟨m, inside'⟩, hy, h⟩ := Option.bind_eq_some_iff.mp h
      obtain ⟨k, hk, hrest, hbody⟩ := ih h
      cases inside with
      | none =>
          have hm : m = n := by
            unfold scanStep at hy
            dsimp only at hy
            split_ifs at hy <;> cases hy <;> rfl
          exact ⟨k, hm ▸ hk, hrest, fun _ s hs => by cases hs⟩
      | some s =>
          unfold scanStep at hy
          dsimp only at hy
          split at hy
          · -- The string ends early, and another one after it.
            cases hy
            refine ⟨k, by omega, hrest, ?_⟩
            intro hk'
            omega
          · next hend =>
              obtain ⟨s', hs', heq⟩ := Option.map_eq_some_iff.mp hy
              cases heq
              refine ⟨k, hk, hrest, ?_⟩
              intro hk' t ht
              obtain rfl := Option.some.inj ht
              rw [runFrom_cons, bodyStep, if_neg hend, hs', Option.bind_some]
              exact hbody hk' s' rfl

end Lines

end Xupnp.Library.Json
