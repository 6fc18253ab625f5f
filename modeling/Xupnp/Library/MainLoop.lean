import Xupnp.Library.Run

/-!
# Callbacks that wait on one main loop

A callback asks the outside and waits for the answer. While it waits the main
loop goes on and may run other callbacks, which may wait in turn; only the
innermost one can go on. `Asking` is a computation that asks, `Callback` one
that reads and writes globals as well, and `MainLoop` the globals with the calls
in progress. A callback is judged by what holds whenever it waits and when it
returns (`Callback.Safe`), whatever the others do in between; from this follows
what holds in every state of a run (`MainLoop.holds_run`). Where no callback has
an endless loop, all calls come to their end (`MainLoop.drains_run`).
-/

namespace Xupnp.Library

/-! ## Asking -/

/-- A computation that asks questions `r : ρ`, answered by an `α r` each. -/
inductive Asking (ρ : Type) (α : ρ → Type) (ε β : Type) where
  | done (b : β)
  | stop (e : ε)
  | ask (r : ρ) (k : α r → Asking ρ α ε β)

namespace Asking

variable {ρ : Type} {α : ρ → Type} {ε β γ : Type}

def bind : Asking ρ α ε β → (β → Asking ρ α ε γ) → Asking ρ α ε γ
  | done b, f => f b
  | stop e, _ => stop e
  | ask r k, f => ask r fun a => (k a).bind f

instance : Monad (Asking ρ α ε) where
  pure := done
  bind := bind

/-- A result that needs no question. -/
def ofExcept : Except ε β → Asking ρ α ε β
  | .ok b => done b
  | .error e => stop e

/-- The result, where the answers are known beforehand. -/
def answered (o : ∀ r, α r) : Asking ρ α ε β → Except ε β
  | done b => .ok b
  | stop e => .error e
  | ask r k => (k (o r)).answered o

/-- Whatever is answered, the computation stops with no other error than one of
`E`. -/
def Stops (E : ε → Prop) : Asking ρ α ε β → Prop
  | done _ => True
  | stop e => E e
  | ask _ k => ∀ a, (k a).Stops E

variable {o : ∀ r, α r} {E : ε → Prop}

@[simp] theorem answered_pure (b : β) :
    (pure b : Asking ρ α ε β).answered o = .ok b := rfl

@[simp] theorem answered_stop (e : ε) :
    (stop e : Asking ρ α ε β).answered o = .error e := rfl

@[simp] theorem answered_bind (q : Asking ρ α ε β)
    (f : β → Asking ρ α ε γ) :
    (q >>= f).answered o = q.answered o >>= fun b => (f b).answered o := by
  induction q with
  | done b => rfl
  | stop e => rfl
  | ask r k ih => exact ih (o r)

@[simp] theorem answered_ofExcept (x : Except ε β) :
    (ofExcept x : Asking ρ α ε β).answered o = x := by
  cases x <;> rfl

theorem Stops.bind {q : Asking ρ α ε β} {f : β → Asking ρ α ε γ}
    (hq : q.Stops E) (hf : ∀ b, (f b).Stops E) : (q >>= f).Stops E := by
  induction q with
  | done b => exact hf b
  | stop e => exact hq
  | ask r k ih => exact fun a => ih a (hq a)

theorem Stops.ofExcept {x : Except ε β} (h : ∀ e, x = .error e → E e) :
    (ofExcept x : Asking ρ α ε β).Stops E := by
  cases x with
  | error e => exact h e rfl
  | ok b => trivial

end Asking

/-! ## Callbacks -/

/-- A callback over globals `σ`: it returns, loops for ever, brings the program
down, reads or writes the globals, or asks and waits. -/
inductive Callback (σ ρ : Type) (α : ρ → Type) where
  | ret
  | loops
  | crashes
  | get (k : σ → Callback σ ρ α)
  | set (s : σ) (c : Callback σ ρ α)
  | ask (r : ρ) (k : α r → Callback σ ρ α)

namespace Callback

variable {σ ρ ε β : Type} {α : ρ → Type}

/-- Ask, and go on with the result. -/
def inquire (q : Asking ρ α ε β) (ok : β → Callback σ ρ α)
    (error : ε → Callback σ ρ α) : Callback σ ρ α :=
  match q with
  | .done b => ok b
  | .stop e => error e
  | .ask r k => .ask r fun a => inquire (k a) ok error

/-- Where a callback has got to when the main loop goes on. -/
inductive Pause (σ ρ : Type) (α : ρ → Type) where
  | returned
  | looping
  | waiting (r : ρ) (k : α r → Callback σ ρ α)

/-- Run until the callback returns, loops or waits; none if it brings the
program down. -/
def run : Callback σ ρ α → σ → Option (σ × Pause σ ρ α)
  | ret, s => some (s, .returned)
  | loops, s => some (s, .looping)
  | crashes, _ => none
  | get k, s => (k s).run s
  | set s c, _ => c.run s
  | ask r k, s => some (s, .waiting r k)

/-- Run to the end without an interruption, where the answers are known
beforehand: the globals, and whether the callback returns. -/
def complete (o : ∀ r, α r) : Callback σ ρ α → σ → Option (σ × Bool)
  | ret, s => some (s, true)
  | loops, s => some (s, false)
  | crashes, _ => none
  | get k, s => (k s).complete o s
  | set s c, _ => c.complete o s
  | ask r k, s => (k (o r)).complete o s

/-- From these globals on `I` holds whenever the callback waits or loops, and
`Q` when it returns. While it waits the globals may change to any others of
`I`. -/
def Safe (I Q : σ → Prop) : Callback σ ρ α → σ → Prop
  | ret, s => Q s
  | loops, s => I s
  | crashes, _ => True
  | get k, s => (k s).Safe I Q s
  | set s c, _ => c.Safe I Q s
  | ask _ k, s => I s ∧ ∀ a s', I s' → (k a).Safe I Q s'

/-- The callback has no endless loop. -/
def Ends : Callback σ ρ α → Prop
  | ret => True
  | loops => False
  | crashes => True
  | get k => ∀ s, (k s).Ends
  | set _ c => c.Ends
  | ask _ k => ∀ a, (k a).Ends

/-- What is known of a callback where it pauses. -/
def Pause.Safe (I Q : σ → Prop) (s : σ) : Pause σ ρ α → Prop
  | returned => Q s
  | looping => I s
  | waiting _ k => I s ∧ ∀ a s', I s' → (k a).Safe I Q s'

variable {I Q : σ → Prop}

theorem run_safe {c : Callback σ ρ α} {s s' : σ} {p : Pause σ ρ α}
    (hc : c.Safe I Q s) (h : c.run s = some (s', p)) : p.Safe I Q s' := by
  induction c generalizing s with
  | ret | loops | ask =>
      obtain ⟨rfl, rfl⟩ := Prod.mk.inj (Option.some.inj h)
      exact hc
  | crashes => cases h
  | get k ih => exact ih s hc h
  | set t c ih => exact ih hc h

theorem safe_inquire {q : Asking ρ α ε β} {ok : β → Callback σ ρ α}
    {error : ε → Callback σ ρ α} (hok : ∀ b s, I s → (ok b).Safe I Q s)
    (herror : ∀ e s, I s → (error e).Safe I Q s) {s : σ} (hs : I s) :
    (inquire q ok error).Safe I Q s := by
  induction q generalizing s with
  | done b => exact hok b s hs
  | stop e => exact herror e s hs
  | ask r k ih => exact ⟨hs, fun a s' hs' => ih a hs'⟩

theorem ends_inquire {q : Asking ρ α ε β} {ok : β → Callback σ ρ α}
    {error : ε → Callback σ ρ α} {E : ε → Prop} (hq : q.Stops E)
    (hok : ∀ b, (ok b).Ends) (herror : ∀ e, E e → (error e).Ends) :
    (inquire q ok error).Ends := by
  induction q with
  | done b => exact hok b
  | stop e => exact herror e hq
  | ask r k ih => exact fun a => ih a (hq a)

theorem complete_inquire (o : ∀ r, α r) (q : Asking ρ α ε β)
    (ok : β → Callback σ ρ α) (error : ε → Callback σ ρ α) (s : σ) :
    (inquire q ok error).complete o s =
      match q.answered o with
      | .ok b => (ok b).complete o s
      | .error e => (error e).complete o s := by
  induction q with
  | done b => rfl
  | stop e => rfl
  | ask r k ih => exact ih (o r)

end Callback

/-! ## The main loop -/

/-- A call in progress. -/
inductive Frame (σ ρ : Type) (α : ρ → Type) where
  | waits (r : ρ) (k : α r → Callback σ ρ α)
  | loops

/-- The globals, the calls in progress, innermost first, and whether an endless
loop keeps the main loop from going on. -/
structure MainLoop (σ ρ : Type) (α : ρ → Type) where
  globals : σ
  calls : List (Frame σ ρ α)
  hung : Bool

/-- A call begins, the innermost call is answered, or a callback runs that is
not counted among the calls and does not wait. -/
inductive LoopEvent (σ ρ : Type) (α : ρ → Type) where
  | call (c : Callback σ ρ α)
  | answer (o : ∀ r, α r)
  | plain (c : Callback σ ρ α)

namespace MainLoop

variable {σ ρ : Type} {α : ρ → Type}

/-- A call on top of `calls` pauses. -/
def settle (calls : List (Frame σ ρ α)) :
    σ × Callback.Pause σ ρ α → MainLoop σ ρ α
  | (s, .returned) => ⟨s, calls, false⟩
  | (s, .looping) => ⟨s, .loops :: calls, true⟩
  | (s, .waiting r k) => ⟨s, .waits r k :: calls, false⟩

/-- A callback that is not counted pauses. -/
def settlePlain (calls : List (Frame σ ρ α)) :
    σ × Callback.Pause σ ρ α → Option (MainLoop σ ρ α)
  | (s, .returned) => some ⟨s, calls, false⟩
  | (s, .looping) => some ⟨s, calls, true⟩
  | (_, .waiting _ _) => none

/-- One turn. In an endless loop nothing is handled any more. -/
def step (x : MainLoop σ ρ α) (e : LoopEvent σ ρ α) : Option (MainLoop σ ρ α) :=
  if x.hung then some x
  else
    match e with
    | .call c => (c.run x.globals).map (settle x.calls)
    | .answer o =>
        match x.calls with
        | .waits r k :: cs => ((k (o r)).run x.globals).map (settle cs)
        | _ => none
    | .plain c => (c.run x.globals).bind (settlePlain x.calls)

/-! ### What holds by the number of calls -/

section Holds

variable {I : ℕ → σ → Prop} {x y : MainLoop σ ρ α} {e : LoopEvent σ ρ α}

/-- Every call goes on as one that began over those below it. -/
def FramesSafe (I : ℕ → σ → Prop) : List (Frame σ ρ α) → Prop
  | [] => True
  | .waits _ k :: cs =>
      (∀ a s, I (cs.length + 1) s →
        (k a).Safe (I (cs.length + 1)) (I cs.length) s) ∧ FramesSafe I cs
  | .loops :: cs => FramesSafe I cs

/-- The globals are as `I` has them for the number of calls in progress. -/
structure Holds (I : ℕ → σ → Prop) (x : MainLoop σ ρ α) : Prop where
  globals : I x.calls.length x.globals
  frames : FramesSafe I x.calls

/-- A call takes `I` one step up while it is in progress, and any other
callback leaves it where it is. -/
def EventSafe (I : ℕ → σ → Prop) : LoopEvent σ ρ α → Prop
  | .call c => ∀ n s, I n s → c.Safe (I (n + 1)) (I n) s
  | .answer _ => True
  | .plain c => ∀ n s, I n s → c.Safe (I n) (I n) s

theorem settle_holds {calls : List (Frame σ ρ α)} {s : σ}
    {p : Callback.Pause σ ρ α} (hcalls : FramesSafe I calls)
    (hp : p.Safe (I (calls.length + 1)) (I calls.length) s) :
    (settle calls (s, p)).Holds I := by
  cases p with
  | returned => exact ⟨hp, hcalls⟩
  | looping => exact ⟨hp, hcalls⟩
  | waiting r k => exact ⟨hp.1, hp.2, hcalls⟩

theorem settlePlain_holds {calls : List (Frame σ ρ α)} {s : σ}
    {p : Callback.Pause σ ρ α} (hcalls : FramesSafe I calls)
    (hp : p.Safe (I calls.length) (I calls.length) s)
    (h : settlePlain calls (s, p) = some y) : y.Holds I := by
  cases p with
  | returned | looping =>
      obtain rfl := Option.some.inj h
      exact ⟨hp, hcalls⟩
  | waiting r k => cases h

/-- **One turn.** -/
theorem holds_step (he : EventSafe I e) (hx : x.Holds I)
    (h : step x e = some y) : y.Holds I := by
  obtain ⟨hglobals, hframes⟩ := hx
  unfold step at h
  split at h
  · obtain rfl := Option.some.inj h
    exact ⟨hglobals, hframes⟩
  · cases e with
    | call c =>
        obtain ⟨⟨s, p⟩, hrun, rfl⟩ := Option.map_eq_some_iff.mp h
        exact settle_holds hframes
          (Callback.run_safe (he _ _ hglobals) hrun)
    | answer o =>
        dsimp only at h
        split at h
        · rename_i r k cs hcalls
          rw [hcalls] at hglobals hframes
          obtain ⟨⟨s, p⟩, hrun, rfl⟩ := Option.map_eq_some_iff.mp h
          exact settle_holds hframes.2
            (Callback.run_safe (hframes.1 _ _ hglobals) hrun)
        · cases h
    | plain c =>
        obtain ⟨⟨s, p⟩, hrun, hy⟩ := Option.bind_eq_some_iff.mp h
        exact settlePlain_holds hframes
          (Callback.run_safe (he _ _ hglobals) hrun) hy

/-- **Every run.** -/
theorem holds_run {es : List (LoopEvent σ ρ α)} (hes : ∀ e ∈ es, EventSafe I e)
    (hx : x.Holds I) (h : runFrom step x es = some y) : y.Holds I := by
  induction es generalizing x with
  | nil =>
      obtain rfl := Option.some.inj h
      exact hx
  | cons e es ih =>
      obtain ⟨x', hstep, hrun⟩ := Option.bind_eq_some_iff.mp h
      have hx' := holds_step (hes e List.mem_cons_self) hx hstep
      exact ih (fun e' he' => hes e' (List.mem_cons_of_mem e he')) hx' hrun

end Holds

/-! ### That the calls come to their end -/

section Drains

variable {x y : MainLoop σ ρ α} {e : LoopEvent σ ρ α}

/-- Whatever the answers are, `P` holds after finitely many of them, or the
program is down. -/
inductive Eventually (P : MainLoop σ ρ α → Prop) : MainLoop σ ρ α → Prop where
  | now {x : MainLoop σ ρ α} (h : P x) : Eventually P x
  | answers {x : MainLoop σ ρ α} {r : ρ} {k : α r → Callback σ ρ α}
      {cs : List (Frame σ ρ α)} (hcalls : x.calls = .waits r k :: cs)
      (hhung : x.hung = false)
      (h : ∀ o y, step x (.answer o) = some y → Eventually P y) :
      Eventually P x

/-- The calls come to their end. -/
abbrev Drains : MainLoop σ ρ α → Prop := Eventually fun x => x.calls = []

theorem not_eventually_of_hung {P : MainLoop σ ρ α → Prop} (h : x.hung = true)
    (hP : ¬ P x) : ¬ Eventually P x := by
  intro hx
  cases hx with
  | now hnow => exact hP hnow
  | answers _ hhung _ => cases h.symm.trans hhung

/-- What holds by the number of calls may be used when the time has come. -/
theorem Eventually.of_holds {I : ℕ → σ → Prop} {P Q : MainLoop σ ρ α → Prop}
    (hPQ : ∀ y, y.Holds I → P y → Q y) (h : Eventually P x)
    (hx : x.Holds I) : Eventually Q x := by
  induction h with
  | now h => exact .now (hPQ _ hx h)
  | answers hcalls hhung _ ih =>
      exact .answers hcalls hhung fun o y hy =>
        ih o y hy (holds_step (show EventSafe I (.answer o) from trivial) hx hy)

/-- No call in progress has an endless loop. -/
def FramesEnd : List (Frame σ ρ α) → Prop
  | [] => True
  | .waits _ k :: cs => (∀ a, (k a).Ends) ∧ FramesEnd cs
  | .loops :: _ => False

/-- Where a callback without an endless loop pauses, the calls below it going to
their end. -/
theorem drains_settle {c : Callback σ ρ α} {cs : List (Frame σ ρ α)}
    (hc : c.Ends)
    (hcs : ∀ s, Drains (⟨s, cs, false⟩ : MainLoop σ ρ α)) {s s' : σ}
    {p : Callback.Pause σ ρ α} (h : c.run s = some (s', p)) :
    Drains (settle cs (s', p)) := by
  induction c generalizing s s' p with
  | ret =>
      obtain ⟨rfl, rfl⟩ := Prod.mk.inj (Option.some.inj h)
      exact hcs s
  | loops => exact absurd hc id
  | crashes => cases h
  | get k ih => exact ih s (hc s) h
  | set t c ih => exact ih hc h
  | ask r k ih =>
      obtain ⟨rfl, rfl⟩ := Prod.mk.inj (Option.some.inj h)
      refine .answers rfl rfl fun o y hy => ?_
      obtain ⟨⟨s₁, p₁⟩, hrun, rfl⟩ := Option.map_eq_some_iff.mp hy
      exact ih (o r) (hc (o r)) hrun

/-- **All calls end**, the innermost first. -/
theorem drains_of_ends {cs : List (Frame σ ρ α)} (hcs : FramesEnd cs) (s : σ) :
    Drains (⟨s, cs, false⟩ : MainLoop σ ρ α) := by
  induction cs generalizing s with
  | nil => exact .now rfl
  | cons f cs ih =>
      cases f with
      | loops => exact absurd hcs id
      | waits r k =>
          refine .answers rfl rfl fun o y hy => ?_
          obtain ⟨⟨s₁, p₁⟩, hrun, rfl⟩ := Option.map_eq_some_iff.mp hy
          exact drains_settle (hcs.1 (o r)) (ih hcs.2) hrun

/-- The event brings no callback with an endless loop. -/
def EventEnds : LoopEvent σ ρ α → Prop
  | .call c => c.Ends
  | .answer _ => True
  | .plain c => c.Ends

/-- A callback without an endless loop pauses where it waits or returns. -/
theorem run_ends {c : Callback σ ρ α} {s s' : σ} {p : Callback.Pause σ ρ α}
    (hc : c.Ends) (h : c.run s = some (s', p)) :
    p = .returned ∨ ∃ r k, p = .waiting r k ∧ ∀ a, (k a).Ends := by
  induction c generalizing s with
  | ret =>
      obtain ⟨-, rfl⟩ := Prod.mk.inj (Option.some.inj h)
      exact Or.inl rfl
  | loops => exact absurd hc id
  | crashes => cases h
  | get k ih => exact ih s (hc s) h
  | set t c ih => exact ih hc h
  | ask r k =>
      obtain ⟨-, rfl⟩ := Prod.mk.inj (Option.some.inj h)
      exact Or.inr ⟨r, k, rfl, hc⟩

theorem settle_ends {calls : List (Frame σ ρ α)} (hcalls : FramesEnd calls)
    {s : σ} {p : Callback.Pause σ ρ α}
    (hp : p = .returned ∨ ∃ r k, p = .waiting r k ∧ ∀ a, (k a).Ends) :
    FramesEnd (settle calls (s, p)).calls ∧ (settle calls (s, p)).hung = false := by
  rcases hp with rfl | ⟨r, k, rfl, hk⟩
  · exact ⟨hcalls, rfl⟩
  · exact ⟨⟨hk, hcalls⟩, rfl⟩

theorem ends_step (he : EventEnds e) (hx : FramesEnd x.calls ∧ x.hung = false)
    (h : step x e = some y) : FramesEnd y.calls ∧ y.hung = false := by
  obtain ⟨hcalls, hhung⟩ := hx
  unfold step at h
  rw [hhung, if_neg (by decide)] at h
  cases e with
  | call c =>
      obtain ⟨⟨s, p⟩, hrun, rfl⟩ := Option.map_eq_some_iff.mp h
      exact settle_ends hcalls (run_ends he hrun)
  | answer o =>
      dsimp only at h
      split at h
      · rename_i r k cs heq
        rw [heq] at hcalls
        obtain ⟨⟨s, p⟩, hrun, rfl⟩ := Option.map_eq_some_iff.mp h
        exact settle_ends hcalls.2 (run_ends (hcalls.1 _) hrun)
      · cases h
  | plain c =>
      obtain ⟨⟨s, p⟩, hrun, hy⟩ := Option.bind_eq_some_iff.mp h
      rcases run_ends he hrun with rfl | ⟨r, k, rfl, -⟩
      · obtain rfl := Option.some.inj hy
        exact ⟨hcalls, rfl⟩
      · cases hy

/-- **Every state of a run drains** where no callback has an endless loop. -/
theorem drains_run {es : List (LoopEvent σ ρ α)} (hes : ∀ e ∈ es, EventEnds e)
    (hx : FramesEnd x.calls ∧ x.hung = false)
    (h : runFrom step x es = some y) : Drains y := by
  induction es generalizing x with
  | nil =>
      obtain rfl := Option.some.inj h
      obtain ⟨s, cs, hung⟩ := x
      obtain ⟨hcs, rfl⟩ := hx
      exact drains_of_ends hcs s
  | cons e es ih =>
      obtain ⟨x', hstep, hrun⟩ := Option.bind_eq_some_iff.mp h
      have hx' := ends_step (hes e List.mem_cons_self) hx hstep
      exact ih (fun e' he' => hes e' (List.mem_cons_of_mem e he')) hx' hrun

end Drains

/-! ### Calls that are not interrupted -/

section Complete

variable {o : ∀ r, α r} {c : Callback σ ρ α} {s s' : σ}

/-- Answered in the same way every time, a callback comes to the end
`complete` says. -/
theorem answers_complete {returns : Bool} (cs : List (Frame σ ρ α))
    (h : c.complete o s = some (s', returns)) : ∃ n y,
    ((c.run s).map (settle cs)).bind (fun x =>
      runFrom step x (List.replicate n (.answer o))) = some y ∧
      y = (if returns then ⟨s', cs, false⟩ else ⟨s', .loops :: cs, true⟩) := by
  induction c generalizing s with
  | ret | loops =>
      obtain ⟨rfl, rfl⟩ := Prod.mk.inj (Option.some.inj h)
      exact ⟨0, _, rfl, rfl⟩
  | crashes => cases h
  | get k ih => exact ih s h
  | set t c ih => exact ih h
  | ask r k ih =>
      obtain ⟨n, y, hrun, hy⟩ := ih (o r) h
      exact ⟨n + 1, y, hrun, hy⟩

end Complete

end MainLoop

end Xupnp.Library
