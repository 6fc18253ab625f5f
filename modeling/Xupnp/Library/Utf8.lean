import Xupnp.Library.Run

/-!
# UTF-8

The well-formed byte sequences of UTF-8, as the language of an automaton. An
ASCII byte stands for itself only, so a text is well formed exactly if the
pieces between its ASCII bytes are (`valid_append_cons`).
-/

namespace Xupnp.Library.Utf8

/-- What must come next: a new character, or so many continuation bytes; after
`E0`, `ED`, `F0` and `F4` the first of them is restricted further. -/
inductive State where
  | start
  | one
  | two
  | three
  | e0
  | ed
  | f0
  | f4
deriving DecidableEq

def step : State → UInt8 → Option State
  | .start, b =>
      if b < 0x80 then some .start
      else if b < 0xC2 then none
      else if b < 0xE0 then some .one
      else if b = 0xE0 then some .e0
      else if b = 0xED then some .ed
      else if b < 0xF0 then some .two
      else if b = 0xF0 then some .f0
      else if b < 0xF4 then some .three
      else if b = 0xF4 then some .f4
      else none
  | .one, b => if 0x80 ≤ b ∧ b ≤ 0xBF then some .start else none
  | .two, b => if 0x80 ≤ b ∧ b ≤ 0xBF then some .one else none
  | .three, b => if 0x80 ≤ b ∧ b ≤ 0xBF then some .two else none
  | .e0, b => if 0xA0 ≤ b ∧ b ≤ 0xBF then some .one else none
  | .ed, b => if 0x80 ≤ b ∧ b ≤ 0x9F then some .one else none
  | .f0, b => if 0x90 ≤ b ∧ b ≤ 0xBF then some .two else none
  | .f4, b => if 0x80 ≤ b ∧ b ≤ 0x8F then some .two else none

def isAscii (b : UInt8) : Bool := b < 0x80

/-- The text is well formed. -/
def Valid (l : List UInt8) : Prop := runFrom step .start l = some .start

instance (l : List UInt8) : Decidable (Valid l) :=
  inferInstanceAs (Decidable (_ = _))

variable {b : UInt8} {l m : List UInt8}

theorem valid_nil : Valid [] := rfl

theorem step_ascii (h : b < 0x80) : step .start b = some .start := if_pos h

/-- Inside a character there is no ASCII byte. -/
theorem step_inside {q : State} (h : b < 0x80) (hq : q ≠ .start) :
    step q b = none := by
  cases q with
  | start => exact absurd rfl hq
  | one | two | three | e0 | ed | f0 | f4 =>
      apply if_neg
      intro hb
      have := hb.1
      simp only [UInt8.lt_iff_toNat_lt, UInt8.le_iff_toNat_le,
        UInt8.reduceToNat] at h this
      omega

/-- **An ASCII byte separates.** -/
theorem valid_append_cons (h : b < 0x80) :
    Valid (l ++ b :: m) ↔ Valid l ∧ Valid m := by
  rw [Valid, Valid, runFrom_append]
  cases hl : runFrom step .start l with
  | none => simp
  | some q =>
      rw [Option.bind_some, runFrom_cons]
      by_cases hq : q = .start
      · rw [hq, step_ascii h]
        simp [Valid]
      · rw [step_inside h hq]
        simp [hq]

theorem valid_cons (h : b < 0x80) : Valid (b :: m) ↔ Valid m := by
  simpa [valid_nil] using valid_append_cons (l := []) (m := m) h

/-- An ASCII text changes nothing in front of another. -/
theorem valid_ascii_append (h : l.all isAscii = true) :
    Valid (l ++ m) ↔ Valid m := by
  induction l with
  | nil => exact Iff.rfl
  | cons b l ih =>
      obtain ⟨hb, hl⟩ := Bool.and_eq_true_iff.mp h
      rw [List.cons_append, valid_cons (of_decide_eq_true hb)]
      exact ih hl

/-- An ASCII text is read between two characters only. -/
theorem runFrom_ascii {q : State} (hne : l ≠ []) (h : l.all isAscii = true) :
    runFrom step q l = if q = .start then some .start else none := by
  obtain ⟨b, m, rfl⟩ := List.exists_cons_of_ne_nil hne
  split
  · next hq =>
      have hvalid : Valid ((b :: m) ++ []) :=
        (valid_ascii_append h).mpr valid_nil
      rw [List.append_nil] at hvalid
      rw [hq]
      exact hvalid
  · next hq =>
      have hb := List.all_eq_true.mp h b List.mem_cons_self
      rw [runFrom_cons, step_inside (of_decide_eq_true hb) hq]
      rfl

end Xupnp.Library.Utf8
