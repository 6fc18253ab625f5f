import Xupnp.Library.MainLoop

/-!
# Asking a server that others ask too

A computation asks, and a server with a state of its own answers; between two
questions other things happen to the server, so that it may answer a question
otherwise than it would have before. A computation that asks no question twice
does not notice: it ends as if all answers had been known beforehand
(`served_eq_answered`), each of them one that was possible.
-/

namespace Xupnp.Library.Asking

variable {ρ τ : Type} {α : ρ → Type} {ε β γ : Type}

/-! ## What is asked -/

/-- All questions are among `rs`, and asked in that order. -/
def Along : List ρ → Asking ρ α ε β → Prop
  | _, done _ => True
  | _, stop _ => True
  | rs, ask r k => ∃ rs', (r :: rs').Sublist rs ∧ ∀ a, Along rs' (k a)

variable {rs rs' : List ρ}

theorem Along.mono {q : Asking ρ α ε β} (h : rs.Sublist rs')
    (hq : Along rs q) : Along rs' q := by
  cases q with
  | done b => trivial
  | stop e => trivial
  | ask r k =>
      obtain ⟨rest, hrest, hk⟩ := hq
      exact ⟨rest, hrest.trans h, hk⟩

theorem Along.ofExcept (x : Except ε β) :
    Along rs (ofExcept x : Asking ρ α ε β) := by
  cases x <;> trivial

theorem Along.bind {q : Asking ρ α ε γ} {f : γ → Asking ρ α ε β}
    (hq : Along rs q) (hf : ∀ c, Along rs' (f c)) :
    Along (rs ++ rs') (q >>= f) := by
  induction q generalizing rs with
  | done c => exact (hf c).mono (List.sublist_append_right rs rs')
  | stop e => trivial
  | ask r k ih =>
      obtain ⟨rest, hrest, hk⟩ := hq
      exact ⟨rest ++ rs', hrest.append_right rs', fun a => ih a (hk a)⟩

/-- Only the answers to what is asked count. -/
theorem answered_congr {q : Asking ρ α ε β} {o o' : ∀ r, α r}
    (hq : Along rs q) (h : ∀ r ∈ rs, o r = o' r) :
    q.answered o = q.answered o' := by
  induction q generalizing rs with
  | done b => rfl
  | stop e => rfl
  | ask r k ih =>
      obtain ⟨rest, hrest, hk⟩ := hq
      show (k (o r)).answered o = (k (o' r)).answered o'
      rw [h r (hrest.subset List.mem_cons_self)]
      apply ih _ (hk _)
      intro s hs
      exact h s (hrest.subset (List.mem_cons_of_mem r hs))

/-! ## A server -/

/-- The result where a server answers. `serve n` says what comes before the
`n`-th question, and answers it. -/
def served (serve : ℕ → τ → ∀ r, α r × τ) :
    Asking ρ α ε β → ℕ → τ → Except ε β
  | done b, _, _ => .ok b
  | stop e, _, _ => .error e
  | ask r k, n, t => (k (serve n t r).1).served serve (n + 1) (serve n t r).2

/-- **No question twice.** `I` is an invariant of the server, and says which
answers are possible. -/
theorem served_eq_answered [DecidableEq ρ] {A : ∀ r, α r → Prop}
    {I : τ → Prop} {serve : ℕ → τ → ∀ r, α r × τ}
    (h : ∀ n t r, I t → A r (serve n t r).1 ∧ I (serve n t r).2)
    {q : Asking ρ α ε β} (hq : Along rs q) (hrs : rs.Nodup) (n : ℕ) {t : τ}
    (ht : I t) :
    ∃ o : ∀ r, α r,
      q.served serve n t = q.answered o ∧ ∀ r, A r (o r) := by
  induction q generalizing rs n t with
  | done b => exact ⟨fun r => (serve n t r).1, rfl, fun r => (h n t r ht).1⟩
  | stop e => exact ⟨fun r => (serve n t r).1, rfl, fun r => (h n t r ht).1⟩
  | ask r k ih =>
      obtain ⟨rest, hrest, hk⟩ := hq
      obtain ⟨hr, hnodup⟩ := List.nodup_cons.mp (hrest.nodup hrs)
      obtain ⟨ha, hnext⟩ := h n t r ht
      obtain ⟨o, ho, hpossible⟩ :=
        ih (serve n t r).1 (hk _) hnodup (n + 1) hnext
      -- The rest does not ask `r`, so that its answer is free.
      refine ⟨Function.update o r (serve n t r).1, ?_, fun s => ?_⟩
      · show (k _).served serve _ _ =
          (k (Function.update o r _ r)).answered (Function.update o r _)
        rw [Function.update_self, ho]
        apply answered_congr (hk _)
        intro s hs
        exact (Function.update_of_ne (ne_of_mem_of_not_mem hs hr) _ _).symm
      · by_cases hs : s = r
        · subst hs
          rw [Function.update_self]
          exact ha
        · rw [Function.update_of_ne hs]
          exact hpossible s

end Xupnp.Library.Asking
