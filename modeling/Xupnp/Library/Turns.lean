import Xupnp.Library.MainLoop

/-!
# What one turn of a main loop does

Between two pauses a callback runs on its own. `Callback.Turns R` says that each
such stretch leads from globals to globals that `R` relates, whatever is
answered and whatever the others have done in between. If all calls in progress
are such callbacks, every turn of the main loop is in `R`
(`MainLoop.turns_step`), and what `R` preserves holds in every state of a run
(`MainLoop.turns_invariant`).
-/

namespace Xupnp.Library

namespace Asking

variable {ρ ε β γ : Type} {α : ρ → Type} {P : β → Prop} {Q : γ → Prop}

/-- Whatever is answered, the result is one of `P`. -/
def Yields (P : β → Prop) : Asking ρ α ε β → Prop
  | done b => P b
  | stop _ => True
  | ask _ k => ∀ a, (k a).Yields P

theorem Yields.bind {q : Asking ρ α ε β} {f : β → Asking ρ α ε γ}
    (hq : q.Yields P) (hf : ∀ b, P b → (f b).Yields Q) :
    (q >>= f).Yields Q := by
  induction q with
  | done b => exact hf b hq
  | stop e => trivial
  | ask r k ih => exact fun a => ih a (hq a)

theorem Yields.imp {P' : β → Prop} {q : Asking ρ α ε β} (hq : q.Yields P)
    (h : ∀ b, P b → P' b) : q.Yields P' := by
  induction q with
  | done b => exact h b hq
  | stop e => trivial
  | ask r k ih => exact fun a => ih a (hq a)

theorem Yields.ofExcept {x : Except ε β} (h : ∀ b, x = .ok b → P b) :
    (ofExcept x : Asking ρ α ε β).Yields P := by
  cases x with
  | error e => trivial
  | ok b => exact h b rfl

theorem yields_true (q : Asking ρ α ε β) : q.Yields fun _ => True := by
  induction q with
  | done b | stop e => trivial
  | ask r k ih => exact ih

end Asking

namespace Callback

variable {σ ρ ε β : Type} {α : ρ → Type} {R R' : σ → σ → Prop}

/-- The stretch that began in `s₀` and has come to `s` leads on to where `R`
has it, and so does every later one. -/
def Turns (R : σ → σ → Prop) (s₀ : σ) : Callback σ ρ α → σ → Prop
  | ret, s => R s₀ s
  | loops, s => R s₀ s
  | crashes, _ => True
  | get k, s => (k s).Turns R s₀ s
  | set s c, _ => c.Turns R s₀ s
  | ask _ k, s => R s₀ s ∧ ∀ a s', (k a).Turns R s' s'

/-- Where the stretch pauses. -/
def Pause.Turns (R : σ → σ → Prop) (s₀ s : σ) : Pause σ ρ α → Prop
  | returned => R s₀ s
  | looping => R s₀ s
  | waiting _ k => R s₀ s ∧ ∀ a s', (k a).Turns R s' s'

theorem Pause.Turns.here {s₀ s : σ} {p : Pause σ ρ α} (h : p.Turns R s₀ s) :
    R s₀ s := by
  cases p with
  | returned | looping => exact h
  | waiting r k => exact h.1

theorem run_turns {c : Callback σ ρ α} {s₀ s s' : σ} {p : Pause σ ρ α}
    (hc : c.Turns R s₀ s) (h : c.run s = some (s', p)) : p.Turns R s₀ s' := by
  induction c generalizing s with
  | ret | loops | ask =>
      obtain ⟨rfl, rfl⟩ := Prod.mk.inj (Option.some.inj h)
      exact hc
  | crashes => cases h
  | get k ih => exact ih s hc h
  | set t c ih => exact ih hc h

theorem Turns.mono (hR : ∀ s s', R s s' → R' s s') {c : Callback σ ρ α}
    {s₀ s : σ} (h : c.Turns R s₀ s) : c.Turns R' s₀ s := by
  induction c generalizing s₀ s with
  | ret | loops => exact hR _ _ h
  | crashes => trivial
  | get k ih => exact ih s h
  | set t c ih => exact ih h
  | ask r k ih => exact ⟨hR _ _ h.1, fun a s' => ih a (h.2 a s')⟩

/-- An inquiry that changes nothing itself: `T` relates the beginning of the
stretch to where the inquiry begins, and every state to itself. -/
theorem turns_inquire {T : σ → σ → Prop} {P : β → Prop} (hT : ∀ s, T s s)
    (hTR : ∀ s s', T s s' → R s s') {q : Asking ρ α ε β} (hq : q.Yields P)
    {ok : β → Callback σ ρ α} {error : ε → Callback σ ρ α}
    (hok : ∀ b, P b → ∀ s₀ s, T s₀ s → (ok b).Turns R s₀ s)
    (herror : ∀ e s₀ s, T s₀ s → (error e).Turns R s₀ s) {s₀ s : σ}
    (h : T s₀ s) : (inquire q ok error).Turns R s₀ s := by
  induction q generalizing s₀ s with
  | done b => exact hok b hq s₀ s h
  | stop e => exact herror e s₀ s h
  | ask r k ih => exact ⟨hTR _ _ h, fun a s' => ih a (hq a) (hT s')⟩

end Callback

namespace MainLoop

variable {σ ρ : Type} {α : ρ → Type} {R R' : σ → σ → Prop}
  {x y : MainLoop σ ρ α} {e : LoopEvent σ ρ α}

/-- The call goes on in `R`. -/
def FrameTurns (R : σ → σ → Prop) : Frame σ ρ α → Prop
  | .waits _ k => ∀ a s, (k a).Turns R s s
  | .loops => True

def CallsTurn (R : σ → σ → Prop) (x : MainLoop σ ρ α) : Prop :=
  ∀ f ∈ x.calls, FrameTurns R f

/-- The callback of the event runs in `R`. -/
def EventTurns (R : σ → σ → Prop) : LoopEvent σ ρ α → Prop
  | .call c => ∀ s, c.Turns R s s
  | .answer _ => True
  | .plain c => ∀ s, c.Turns R s s

theorem settle_globals (calls : List (Frame σ ρ α)) (s : σ)
    (p : Callback.Pause σ ρ α) : (settle calls (s, p)).globals = s := by
  cases p <;> rfl

theorem settle_calls {calls : List (Frame σ ρ α)} {s₀ s : σ}
    {p : Callback.Pause σ ρ α} (hcalls : ∀ f ∈ calls, FrameTurns R f)
    (hp : p.Turns R s₀ s) : (settle calls (s, p)).CallsTurn R := by
  cases p with
  | returned => exact hcalls
  | looping => exact List.forall_mem_cons.mpr ⟨trivial, hcalls⟩
  | waiting r k => exact List.forall_mem_cons.mpr ⟨hp.2, hcalls⟩

/-- A plain callback opens no call. -/
theorem settlePlain_eq {calls : List (Frame σ ρ α)} {s : σ}
    {p : Callback.Pause σ ρ α} (h : settlePlain calls (s, p) = some y) :
    y.globals = s ∧ y.calls = calls := by
  cases p with
  | returned | looping =>
      obtain rfl := Option.some.inj h
      exact ⟨rfl, rfl⟩
  | waiting r k => cases h

/-- **One turn.** -/
theorem turns_step (hR : ∀ s, R s s) (he : EventTurns R e)
    (hx : x.CallsTurn R) (h : step x e = some y) :
    R x.globals y.globals := by
  unfold step at h
  split at h
  · obtain rfl := Option.some.inj h
    exact hR _
  · cases e with
    | call c =>
        obtain ⟨⟨s, p⟩, hrun, rfl⟩ := Option.map_eq_some_iff.mp h
        rw [settle_globals]
        exact (Callback.run_turns (he _) hrun).here
    | answer o =>
        dsimp only at h
        split at h
        · rename_i r k cs hcalls
          rw [CallsTurn, hcalls, List.forall_mem_cons] at hx
          obtain ⟨⟨s, p⟩, hrun, rfl⟩ := Option.map_eq_some_iff.mp h
          rw [settle_globals]
          exact (Callback.run_turns (hx.1 _ _) hrun).here
        · cases h
    | plain c =>
        obtain ⟨⟨s, p⟩, hrun, hy⟩ := Option.bind_eq_some_iff.mp h
        rw [(settlePlain_eq hy).1]
        exact (Callback.run_turns (he _) hrun).here

/-- After a turn those calls are in progress that were before, and the one it
may have begun. -/
theorem calls_step (he : ∀ c, e = .call c → ∀ s, c.Turns R s s)
    (hx : x.CallsTurn R) (h : step x e = some y) : y.CallsTurn R := by
  unfold step at h
  split at h
  · obtain rfl := Option.some.inj h
    exact hx
  · cases e with
    | call c =>
        obtain ⟨⟨s, p⟩, hrun, rfl⟩ := Option.map_eq_some_iff.mp h
        exact settle_calls hx (Callback.run_turns (he c rfl _) hrun)
    | answer o =>
        dsimp only at h
        split at h
        · rename_i r k cs hcalls
          rw [CallsTurn, hcalls, List.forall_mem_cons] at hx
          obtain ⟨⟨s, p⟩, hrun, rfl⟩ := Option.map_eq_some_iff.mp h
          exact settle_calls hx.2 (Callback.run_turns (hx.1 _ _) hrun)
        · cases h
    | plain c =>
        obtain ⟨⟨s, p⟩, -, hy⟩ := Option.bind_eq_some_iff.mp h
        rw [CallsTurn, (settlePlain_eq hy).2]
        exact hx

/-- The calls in progress are those the run has begun. -/
theorem calls_run {es : List (LoopEvent σ ρ α)}
    (hes : ∀ c, LoopEvent.call c ∈ es → ∀ s, c.Turns R s s)
    (hx : x.CallsTurn R) (h : runFrom step x es = some y) :
    y.CallsTurn R := by
  induction es generalizing x with
  | nil =>
      obtain rfl := Option.some.inj h
      exact hx
  | cons e es ih =>
      obtain ⟨x', hstep, hrun⟩ := Option.bind_eq_some_iff.mp h
      refine ih (fun c hc => hes c (List.mem_cons_of_mem e hc)) ?_ hrun
      apply calls_step _ hx hstep
      rintro c rfl
      exact hes c List.mem_cons_self

/-- **Invariant rule**: what `R` preserves, the run does. -/
theorem turns_invariant {J : σ → Prop} (hR : ∀ s, R s s)
    (hJ : ∀ s s', J s → R s s' → J s') {es : List (LoopEvent σ ρ α)}
    (hes : ∀ e ∈ es, EventTurns R e) (hx : x.CallsTurn R)
    (hs : J x.globals) (h : runFrom step x es = some y) : J y.globals := by
  induction es generalizing x with
  | nil =>
      obtain rfl := Option.some.inj h
      exact hs
  | cons e es ih =>
      obtain ⟨x', hstep, hrun⟩ := Option.bind_eq_some_iff.mp h
      have he := hes e List.mem_cons_self
      have hturn := turns_step hR he hx hstep
      refine ih (fun e' he' => hes e' (List.mem_cons_of_mem e he')) ?_
        (hJ _ _ hs hturn) hrun
      refine calls_step ?_ hx hstep
      rintro c rfl
      exact he

end MainLoop

end Xupnp.Library
