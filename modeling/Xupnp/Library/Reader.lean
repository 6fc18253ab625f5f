import Xupnp.Library.Run

/-!
# Readers

A reader takes a text byte by byte and says at its end what it has read. What
a reader makes of a text is put together from what it makes of the parts
(`accepts_append`), and what has to hold at the end is traced back through the
text (`Accepts.backward`).
-/

namespace Xupnp.Library

/-- A step for each byte, and the result of a text that ends here. -/
structure Reader (σ ε α : Type*) where
  step : σ → ε → Option σ
  finish : σ → Option α

namespace Reader

variable {σ ε α : Type*} {R : Reader σ ε α} {x y : σ} {b : ε} {l m : List ε}
  {a : α}

/-- The result of a text. -/
def read (R : Reader σ ε α) (x : σ) (l : List ε) : Option α :=
  (runFrom R.step x l).bind R.finish

/-- Started in `x`, the reader reads the text as `a`. -/
def Accepts (R : Reader σ ε α) (x : σ) (l : List ε) (a : α) : Prop :=
  R.read x l = some a

theorem accepts_append (h : runFrom R.step x l = some y) :
    R.Accepts x (l ++ m) a ↔ R.Accepts y m a := by
  rw [Accepts, read, runFrom_append, h]
  rfl

theorem accepts_cons (h : R.step x b = some y) :
    R.Accepts x (b :: m) a ↔ R.Accepts y m a := by
  rw [Accepts, read, runFrom_cons, h]
  rfl

theorem accepts_cons_iff :
    R.Accepts x (b :: m) a ↔ ∃ y, R.step x b = some y ∧ R.Accepts y m a := by
  simp [Accepts, read, runFrom_cons, Option.bind_assoc,
    Option.bind_eq_some_iff]

theorem not_accepts_cons (h : R.step x b = none) :
    ¬ R.Accepts x (b :: m) a := by
  rw [accepts_cons_iff, h]
  simp

/-- **What holds at the end held before.** -/
theorem Accepts.backward {L : σ → Prop}
    (hstep : ∀ x b y, R.step x b = some y → L y → L x)
    (hfinish : ∀ x, R.finish x = some a → L x) (h : R.Accepts x l a) :
    L x := by
  induction l generalizing x with
  | nil => exact hfinish x h
  | cons b l ih =>
      obtain ⟨y, hy, hl⟩ := accepts_cons_iff.mp h
      exact hstep x b y hy (ih hl)

end Reader

end Xupnp.Library
