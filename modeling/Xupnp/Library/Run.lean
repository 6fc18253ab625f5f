import Mathlib.Data.List.Basic
import Mathlib.Data.List.Infix

/-!
# Runs of a partial step function

A system is a step function `σ → ε → Option σ`: `none` says that the step has
no next state (a fault, or a call that never returns). Everything a
development says about whole runs is reduced here, once, to what it says about
one step: invariants (`runFrom_invariant`), and refinement of an abstract
state that every event updates (`refinesAlong_iff`).
-/

namespace Xupnp.Library

variable {σ ε α : Type*}

/-- Take the events in order, stopping where a step has no next state. -/
def runFrom (step : σ → ε → Option σ) : σ → List ε → Option σ
  | s, [] => some s
  | s, e :: es => (step s e).bind fun s' => runFrom step s' es

section Run

variable {step : σ → ε → Option σ}

@[simp] theorem runFrom_nil (s : σ) : runFrom step s [] = some s := rfl

theorem runFrom_cons (s : σ) (e : ε) (es : List ε) :
    runFrom step s (e :: es) = (step s e).bind fun s' => runFrom step s' es := rfl

theorem runFrom_append (s : σ) (es fs : List ε) :
    runFrom step s (es ++ fs) =
      (runFrom step s es).bind fun s' => runFrom step s' fs := by
  induction es generalizing s with
  | nil => rfl
  | cons e es ih =>
      rw [List.cons_append, runFrom_cons, runFrom_cons]
      cases step s e with
      | none => rfl
      | some s' => exact ih s'

theorem runFrom_snoc (s : σ) (es : List ε) (e : ε) :
    runFrom step s (es ++ [e]) =
      (runFrom step s es).bind fun s' => step s' e := by
  rw [runFrom_append]
  congr 1
  funext s'
  rw [runFrom_cons]
  cases step s' e <;> rfl

/-- A run of a step that always answers is a fold. -/
theorem runFrom_total {f : σ → ε → σ} (h : ∀ s e, step s e = some (f s e))
    (s : σ) (es : List ε) : runFrom step s es = some (es.foldl f s) := by
  induction es generalizing s with
  | nil => rfl
  | cons e es ih =>
      rw [runFrom_cons, h, Option.bind_some, List.foldl_cons]
      exact ih (f s e)

end Run

/-! ## Conditions on the steps of a run -/

/-- `P` holds of the state and the event of every step the run takes. -/
def AllSteps (step : σ → ε → Option σ) (P : σ → ε → Prop) : σ → List ε → Prop
  | _, [] => True
  | s, e :: es => P s e ∧ ∀ s', step s e = some s' → AllSteps step P s' es

section AllSteps

variable {step : σ → ε → Option σ} {P Q : σ → ε → Prop}

theorem allSteps_cons {s : σ} {e : ε} {es : List ε} :
    AllSteps step P s (e :: es) ↔
      P s e ∧ ∀ s', step s e = some s' → AllSteps step P s' es := Iff.rfl

theorem allSteps_cons_some {s s' : σ} {e : ε} {es : List ε}
    (h : step s e = some s') :
    AllSteps step P s (e :: es) ↔ P s e ∧ AllSteps step P s' es := by
  rw [allSteps_cons]
  apply and_congr_right
  intro _
  constructor
  · intro hall
    exact hall s' h
  · intro hs' t ht
    obtain rfl := Option.some.inj (h.symm.trans ht)
    exact hs'

/-- **Steps of a run, by position.** The condition holds along the run exactly
when it holds at every event, in the state its predecessors lead to. -/
theorem allSteps_iff {s : σ} {es : List ε} :
    AllSteps step P s es ↔
      ∀ pre e post, es = pre ++ e :: post →
        ∀ s', runFrom step s pre = some s' → P s' e := by
  induction es generalizing s with
  | nil => simp [AllSteps]
  | cons e es ih =>
      constructor
      · rintro ⟨hP, hrest⟩ pre e' post heq s' hrun
        -- The position is the first event, or one behind it.
        cases pre with
        | nil =>
            obtain ⟨rfl, -⟩ := List.cons.inj heq
            obtain rfl := Option.some.inj hrun
            exact hP
        | cons p pre =>
            obtain ⟨rfl, htail⟩ := List.cons.inj heq
            rw [runFrom_cons] at hrun
            obtain ⟨t, ht, hrun⟩ := Option.bind_eq_some_iff.mp hrun
            exact ih.mp (hrest t ht) pre e' post htail s' hrun
      · intro h
        refine ⟨h [] e es rfl s rfl, fun t ht => ih.mpr ?_⟩
        intro pre e' post heq s' hrun
        refine h (e :: pre) e' post (by rw [heq]; rfl) s' ?_
        rw [runFrom_cons, ht]
        exact hrun

/-- **Invariant rule.** What every admitted step preserves, the run does. -/
theorem runFrom_invariant {I : σ → Prop}
    (hstep : ∀ s e s', I s → P s e → step s e = some s' → I s')
    {s t : σ} {es : List ε} (hs : I s) (hP : AllSteps step P s es)
    (hrun : runFrom step s es = some t) : I t := by
  induction es generalizing s with
  | nil =>
      obtain rfl := Option.some.inj hrun
      exact hs
  | cons e es ih =>
      rw [runFrom_cons] at hrun
      obtain ⟨s', hs', hrun⟩ := Option.bind_eq_some_iff.mp hrun
      exact ih (hstep s e s' hs hP.1 hs') (hP.2 s' hs') hrun

/-- The invariant rule for steps that need no condition. -/
theorem runFrom_invariant' {I : σ → Prop}
    (hstep : ∀ s e s', I s → step s e = some s' → I s')
    {s t : σ} {es : List ε} (hs : I s)
    (hrun : runFrom step s es = some t) : I t := by
  have hall : AllSteps step (fun _ _ => True) s es :=
    allSteps_iff.mpr fun _ _ _ _ _ _ => trivial
  exact runFrom_invariant (fun s e s' hs _ => hstep s e s' hs) hs hall hrun

/-- **Progress.** Where every admitted step has a next state and preserves the
invariant, the run goes to its end. -/
theorem runFrom_progress {I : σ → Prop}
    (hstep : ∀ s e, I s → P s e → ∃ s', step s e = some s' ∧ I s')
    {s : σ} {es : List ε} (hs : I s) (hP : AllSteps step P s es) :
    ∃ t, runFrom step s es = some t ∧ I t := by
  induction es generalizing s with
  | nil => exact ⟨s, rfl, hs⟩
  | cons e es ih =>
      obtain ⟨s', hs', hI⟩ := hstep s e hs hP.1
      rw [runFrom_cons, hs']
      exact ih hI (hP.2 s' hs')

/-- Conditions that agree on the states an invariant admits agree along a
run. -/
theorem allSteps_congr {I : σ → Prop}
    (hstep : ∀ s e s', I s → step s e = some s' → I s')
    (h : ∀ s e, I s → (P s e ↔ Q s e)) {s : σ} (hs : I s)
    {es : List ε} : AllSteps step P s es ↔ AllSteps step Q s es := by
  induction es generalizing s with
  | nil => exact Iff.rfl
  | cons e es ih =>
      refine and_congr (h s e hs) (forall_congr' fun s' => ?_)
      exact forall_congr' fun hs' => ih (hstep s e s' hs hs')

/-- A condition that keeps an invariant, and under it implies another one. -/
theorem AllSteps.of_invariant {I : σ → Prop}
    (hstep : ∀ s e s', I s → P s e → step s e = some s' → I s')
    (h : ∀ s e, I s → P s e → Q s e) {s : σ} (hs : I s) {es : List ε}
    (hP : AllSteps step P s es) : AllSteps step Q s es := by
  induction es generalizing s with
  | nil => trivial
  | cons e es ih =>
      obtain ⟨he, hrest⟩ := hP
      refine ⟨h s e hs he, fun s' hs' => ?_⟩
      exact ih (hstep s e s' hs he hs') (hrest s' hs')

/-- `I` holds of every state the run passes through. -/
def EveryState (step : σ → ε → Option σ) (I : σ → Prop) (s : σ)
    (es : List ε) : Prop :=
  ∀ pre t, pre <+: es → runFrom step s pre = some t → I t

theorem everyState_nil {I : σ → Prop} {s : σ} :
    EveryState step I s [] ↔ I s := by
  constructor
  · exact fun h => h [] s List.nil_prefix rfl
  · intro hs pre t hpre hrun
    obtain rfl := List.prefix_nil.mp hpre
    obtain rfl := Option.some.inj hrun
    exact hs

theorem everyState_cons {I : σ → Prop} {s : σ} {e : ε} {es : List ε} :
    EveryState step I s (e :: es) ↔
      I s ∧ ∀ s', step s e = some s' → EveryState step I s' es := by
  constructor
  · intro h
    refine ⟨h [] s (List.nil_prefix) rfl, fun s' hs' pre t hpre hrun => ?_⟩
    refine h (e :: pre) t (List.cons_prefix_cons.mpr ⟨rfl, hpre⟩) ?_
    rw [runFrom_cons, hs']
    exact hrun
  · rintro ⟨hs, h⟩ pre t hpre hrun
    cases pre with
    | nil =>
        obtain rfl := Option.some.inj hrun
        exact hs
    | cons p pre =>
        obtain ⟨rfl, htail⟩ := List.cons_prefix_cons.mp hpre
        rw [runFrom_cons] at hrun
        obtain ⟨s', hs', hrun⟩ := Option.bind_eq_some_iff.mp hrun
        exact h s' hs' pre t htail hrun

/-- A condition that can be tested can be tested all along a run. -/
instance decidableEveryState {I : σ → Prop} [DecidablePred I] :
    (s : σ) → (es : List ε) → Decidable (EveryState step I s es)
  | s, [] => decidable_of_iff (I s) everyState_nil.symm
  | s, e :: es =>
      have : Decidable (∀ s', step s e = some s' → EveryState step I s' es) :=
        match step s e with
        | none => isTrue fun s' hs' => by cases hs'
        | some t =>
            have : Decidable (EveryState step I t es) := decidableEveryState t es
            decidable_of_iff (EveryState step I t es)
              ⟨fun ht s' hs' => Option.some.inj hs' ▸ ht, fun ht => ht t rfl⟩
      decidable_of_iff _ everyState_cons.symm

/-- Where a step that keeps `P` keeps the stronger `I` too, a run that has `P`
all along has `I` all along. -/
theorem everyState_strengthen {J I Q : σ → Prop}
    (hJ : ∀ s e s', J s → step s e = some s' → J s')
    (hstep : ∀ s e s', J s → I s → step s e = some s' → Q s' → I s')
    {s : σ} (hs : J s) (hI : I s) {es : List ε}
    (h : EveryState step Q s es) : EveryState step I s es := by
  induction es generalizing s with
  | nil =>
      intro pre t hpre hrun
      obtain rfl := List.prefix_nil.mp hpre
      obtain rfl := Option.some.inj hrun
      exact hI
  | cons e es ih =>
      rw [everyState_cons] at h ⊢
      refine ⟨hI, fun s' hs' => ?_⟩
      have hnext := h.2 s' hs'
      have hQ : Q s' := hnext [] s' List.nil_prefix rfl
      exact ih (hJ s e s' hs hs') (hstep s e s' hs hI hs' hQ) hnext

theorem EveryState.imp {I Q : σ → Prop} (hIQ : ∀ s, I s → Q s) {s : σ}
    {es : List ε} (h : EveryState step I s es) : EveryState step Q s es :=
  fun pre t hpre hrun => hIQ t (h pre t hpre hrun)

/-- **When a property is an invariant of a run.** If on the states `J` admits a
step keeps `I` exactly under `C`, then `I` holds all along a run exactly
when every step meets `C`. -/
theorem everyState_iff {J I : σ → Prop} {C : σ → ε → Prop}
    (hJ : ∀ s e s', J s → step s e = some s' → J s')
    (hstep : ∀ s e, J s → I s →
      (C s e ↔ ∀ s', step s e = some s' → I s'))
    {s : σ} (hs : J s) (hInv : I s) {es : List ε} :
    EveryState step I s es ↔ AllSteps step C s es := by
  induction es generalizing s with
  | nil =>
      refine iff_of_true (fun pre t hpre hrun => ?_) trivial
      obtain rfl := List.prefix_nil.mp hpre
      obtain rfl := Option.some.inj hrun
      exact hInv
  | cons e es ih =>
      rw [everyState_cons, allSteps_cons, hstep s e hs hInv]
      constructor
      · rintro ⟨-, h⟩
        have hnext : ∀ s', step s e = some s' → I s' := fun s' hs' =>
          h s' hs' [] s' List.nil_prefix rfl
        exact ⟨hnext, fun s' hs' =>
          (ih (hJ s e s' hs hs') (hnext s' hs')).mp (h s' hs')⟩
      · rintro ⟨hnext, h⟩
        exact ⟨hInv, fun s' hs' =>
          (ih (hJ s e s' hs hs') (hnext s' hs')).mpr (h s' hs')⟩

end AllSteps

/-! ## History variables -/

/-- Run a system together with a record of what has happened to it. -/
def withHistory {γ : Type*} (step : σ → ε → Option σ)
    (note : σ → ε → σ → γ → γ) : σ × γ → ε → Option (σ × γ) :=
  fun (s, c) e => (step s e).map fun s' => (s', note s e s' c)

section History

variable {γ : Type*} {step : σ → ε → Option σ} {note : σ → ε → σ → γ → γ}

theorem withHistory_eq_some {x y : σ × γ} {e : ε} :
    withHistory step note x e = some y ↔
      step x.1 e = some y.1 ∧ y.2 = note x.1 e y.1 x.2 := by
  obtain ⟨s, c⟩ := x
  obtain ⟨t, d⟩ := y
  simp only [withHistory, Option.map_eq_some_iff, Prod.mk.injEq]
  constructor
  · rintro ⟨s', hs', rfl, rfl⟩
    exact ⟨hs', rfl⟩
  · rintro ⟨hs', rfl⟩
    exact ⟨t, hs', rfl, rfl⟩

/-- What is said of the next state alone does not depend on the record. -/
theorem forall_withHistory {P : σ → Prop} {x : σ × γ} {e : ε} :
    (∀ y, withHistory step note x e = some y → P y.1) ↔
      ∀ s', step x.1 e = some s' → P s' := by
  constructor
  · intro h s' hs'
    exact h (s', note x.1 e s' x.2) (withHistory_eq_some.mpr ⟨hs', rfl⟩)
  · intro h y hy
    exact h y.1 (withHistory_eq_some.mp hy).1

end History

/-! ## Refinement along a run -/

/-- After every prefix of the events there is a next state, and it stands in
`R` to the abstract state the same prefix leads to. -/
def RefinesAlong (step : σ → ε → Option σ) (astep : α → ε → α)
    (R : σ → α → Prop) (s : σ) (a : α) (es : List ε) : Prop :=
  ∀ pre, pre <+: es →
    ∃ t, runFrom step s pre = some t ∧ R t (pre.foldl astep a)

/-- **Refinement, from one step to all runs.** If a step on an event of `E`
keeps `R` exactly under `C`, a run of such events keeps it exactly when every
one of them meets `C` in the abstract state it is taken from. -/
theorem refinesAlong_iff {step : σ → ε → Option σ} {astep : α → ε → α}
    {R : σ → α → Prop} {C : α → ε → Prop} {E : ε → Prop}
    (hstep : ∀ s a e, E e → R s a →
      (C a e ↔ ∃ s', step s e = some s' ∧ R s' (astep a e)))
    {s : σ} {a : α} (hR : R s a) {es : List ε} (hE : ∀ e ∈ es, E e) :
    RefinesAlong step astep R s a es ↔
      AllSteps (fun a e => some (astep a e)) C a es := by
  have hfold : ∀ pre, runFrom (fun a e => some (astep a e)) a pre =
      some (pre.foldl astep a) := runFrom_total (fun _ _ => rfl) a
  rw [allSteps_iff]
  constructor
  · rintro href pre e post rfl a' ha'
    -- The prefixes up to `e` and past it lead to related states.
    obtain rfl := Option.some.inj ((hfold pre).symm.trans ha')
    obtain ⟨t, ht, hRt⟩ := href pre ⟨e :: post, rfl⟩
    refine (hstep t _ e (hE e (by simp)) hRt).mpr ?_
    obtain ⟨u, hu, hRu⟩ := href (pre ++ [e]) ⟨post, by simp⟩
    rw [runFrom_snoc, ht] at hu
    rw [List.foldl_append] at hRu
    exact ⟨u, hu, hRu⟩
  · intro hC pre hpre
    -- The induction adds one event at the end of the prefix.
    induction pre using List.reverseRecOn with
    | nil => exact ⟨s, rfl, hR⟩
    | append_singleton pre e ih =>
        obtain ⟨post, rfl⟩ := hpre
        obtain ⟨t, ht, hRt⟩ := ih ⟨e :: post, by simp⟩
        obtain ⟨u, hu, hRu⟩ := (hstep t _ e (hE e (by simp)) hRt).mp
          (hC pre e post (by simp) _ (hfold pre))
        refine ⟨u, ?_, ?_⟩
        · rw [runFrom_snoc, ht]
          exact hu
        · rw [List.foldl_append]
          exact hRu

end Xupnp.Library
