import Xupnp.Library.Alternating

/-!
# Calls that hold a mutex

The mutex is not recursive: a call that locks it while it is held waits, and
in a program whose calls come one after the other it waits for ever. A call is
a function of the guarded state that returns, or stops on the way: it waits,
or it faults. What has been done with the mutex is kept as a record, so that a
call can be asked whether it gave back what it took.
-/

namespace Xupnp.Library

variable {σ α β : Type}

/-- The state and the record of its mutex: `true` for every lock and `false`
for every unlock, oldest first. -/
structure Guarded (σ : Type) where
  data : σ
  ops : List Bool

/-- Is the mutex held? -/
def Guarded.locked (s : Guarded σ) : Bool := s.ops.getLastD false

/-- Why a call does not return: it waits for the mutex for ever, or does
something undefined. -/
inductive NoReturn where
  | waits
  | faults
deriving DecidableEq

/-- A call on the guarded state. -/
abbrev Locking (σ α : Type) := StateT (Guarded σ) (Except NoReturn) α

namespace Locking

def lock : Locking σ Unit := fun s =>
  if s.locked then .error .waits else .ok ((), { s with ops := s.ops ++ [true] })

/-- Unlocking a free mutex is undefined. -/
def unlock : Locking σ Unit := fun s =>
  if s.locked then .ok ((), { s with ops := s.ops ++ [false] })
  else .error .faults

/-- Look at the state. There may be nothing to see. -/
def read (f : σ → Option α) : Locking σ α := fun s =>
  match f s.data with
  | some a => .ok (a, s)
  | none => .error .faults

def update (f : σ → σ) : Locking σ Unit := fun s =>
  .ok ((), { s with data := f s.data })

/-! ## Running a call -/

theorem bind_apply (m : Locking σ α) (k : α → Locking σ β) (s : Guarded σ) :
    (m >>= k) s = (m s).bind fun p => k p.1 p.2 := by
  rfl

theorem bind_ok {m : Locking σ α} {k : α → Locking σ β} {s t : Guarded σ}
    {a : α} (h : m s = .ok (a, t)) : (m >>= k) s = k a t := by
  rw [bind_apply, h]
  rfl

theorem bind_error {m : Locking σ α} {k : α → Locking σ β} {s : Guarded σ}
    {stop : NoReturn} (h : m s = .error stop) : (m >>= k) s = .error stop := by
  rw [bind_apply, h]
  rfl

theorem read_some {f : σ → Option α} {s : Guarded σ} {a : α}
    (h : f s.data = some a) : read f s = .ok (a, s) := by
  simp [read, h]

theorem read_none {f : σ → Option α} {s : Guarded σ} (h : f s.data = none) :
    read f s = .error .faults := by
  simp [read, h]

@[simp] theorem locked_concat (d : σ) (l : List Bool) (b : Bool) :
    (Guarded.mk d (l ++ [b])).locked = b := by
  simp [Guarded.locked]

/-- After a critical section the mutex is free. -/
@[simp] theorem locked_section (d : σ) (l : List Bool) :
    (Guarded.mk d (l ++ [true, false])).locked = false := by
  simp [Guarded.locked]

theorem lock_free {s : Guarded σ} (h : s.locked = false) :
    lock s = .ok ((), { s with ops := s.ops ++ [true] }) := by
  simp [lock, h]

theorem lock_held {s : Guarded σ} (h : s.locked = true) :
    lock s = .error .waits := by
  simp [lock, h]

theorem unlock_held {s : Guarded σ} (h : s.locked = true) :
    unlock s = .ok ((), { s with ops := s.ops ++ [false] }) := by
  simp [unlock, h]

/-- A call that begins with `lock` waits while the mutex is held. -/
theorem waits_of_held {s : Guarded σ} (h : s.locked = true)
    (k : Unit → Locking σ β) : (lock >>= k) s = .error .waits :=
  bind_error (lock_held h)

/-- What the first part of a call does, the call does: stop, or go on. -/
theorem bind_cases {m : Locking σ α} {k : α → Locking σ β} {s : Guarded σ}
    {r : Except NoReturn (β × Guarded σ)} (h : (m >>= k) s = r) :
    (∃ stop, m s = .error stop ∧ r = .error stop) ∨
      ∃ a t, m s = .ok (a, t) ∧ k a t = r := by
  cases hm : m s with
  | error stop => exact .inl ⟨stop, rfl, by rw [← h, bind_error hm]⟩
  | ok p =>
      obtain ⟨a, t⟩ := p
      exact .inr ⟨a, t, rfl, by rw [← h, bind_ok hm]⟩

/-- The state a call leaves behind is that of its result. -/
theorem map_snd_eq_ok {r : Except NoReturn (α × Guarded σ)} {s' : Guarded σ} :
    r.map Prod.snd = .ok s' ↔ ∃ a, r = .ok (a, s') := by
  cases r with
  | error stop => simp [Except.map]
  | ok p => simp [Except.map, Prod.ext_iff]

theorem map_snd_eq_error {r : Except NoReturn (α × Guarded σ)}
    {stop : NoReturn} : r.map Prod.snd = .error stop ↔ r = .error stop := by
  cases r <;> simp [Except.map]

/-! ## Calls that give back what they take -/

/-- The call leaves the mutex alone. -/
structure Quiet (m : Locking σ α) : Prop where
  goes_on : ∀ s, m s ≠ .error .waits
  keeps : ∀ s a s', m s = .ok (a, s') → s'.ops = s.ops

/-- Called with the mutex free, the call never waits, and releases the mutex
as often as it takes it, each time before it takes it again or returns. -/
structure Balanced (m : Locking σ α) : Prop where
  goes_on : ∀ s, s.locked = false → m s ≠ .error .waits
  matched : ∀ s a s', s.locked = false → m s = .ok (a, s') →
    ∃ own, s'.ops = s.ops ++ own ∧ Matched own

theorem quiet_pure (a : α) : Quiet (pure a : Locking σ α) := by
  constructor
  · intro s h
    cases h
  · intro s b s' h
    cases h
    rfl

theorem quiet_read (f : σ → Option α) : Quiet (read f) := by
  constructor
  · intro s h
    cases hf : f s.data with
    | none => rw [read_none hf] at h; cases h
    | some a => rw [read_some hf] at h; cases h
  · intro s a s' h
    cases hf : f s.data with
    | none => rw [read_none hf] at h; cases h
    | some b => rw [read_some hf] at h; cases h; rfl

theorem quiet_update (f : σ → σ) : Quiet (update f) := by
  constructor
  · intro s h
    cases h
  · intro s a s' h
    cases h
    rfl

theorem Quiet.balanced {m : Locking σ α} (h : Quiet m) : Balanced m := by
  constructor
  · intro s _
    exact h.goes_on s
  · intro s a s' _ hm
    exact ⟨[], by rw [h.keeps s a s' hm, List.append_nil], .nil⟩

/-- What follows a matched record finds the mutex free. -/
theorem locked_of_matched {s s' : Guarded σ} {own : List Bool}
    (hs : s.locked = false) (hops : s'.ops = s.ops ++ own)
    (hown : Matched own) : s'.locked = false := by
  rw [Guarded.locked, hops]
  exact hown.getLastD_append s.ops hs

theorem Balanced.free {m : Locking σ α} (h : Balanced m) {s s' : Guarded σ}
    {a : α} (hs : s.locked = false) (hm : m s = .ok (a, s')) :
    s'.locked = false := by
  obtain ⟨own, hops, hown⟩ := h.matched s a s' hs hm
  exact locked_of_matched hs hops hown

theorem Balanced.bind {m : Locking σ α} {k : α → Locking σ β}
    (hm : Balanced m) (hk : ∀ a, Balanced (k a)) : Balanced (m >>= k) := by
  constructor
  · intro s hs h
    rcases bind_cases h with ⟨stop, hstop, heq⟩ | ⟨a, t, ht, h⟩
    · obtain rfl := Except.error.inj heq
      exact hm.goes_on s hs hstop
    · exact (hk a).goes_on t (hm.free hs ht) h
  · intro s b s' hs h
    rcases bind_cases h with ⟨stop, -, heq⟩ | ⟨a, t, ht, h⟩
    · cases heq
    · obtain ⟨own, hops, hown⟩ := hm.matched s a t hs ht
      obtain ⟨own', hops', hown'⟩ := (hk a).matched t b s' (hm.free hs ht) h
      refine ⟨own ++ own', ?_, hown.append hown'⟩
      rw [hops', hops, List.append_assoc]

/-! ## Critical sections -/

/-- **Critical sections.** Lock, do something that leaves the mutex alone,
unlock, and go on. -/
theorem critical_apply {m : Locking σ α} (hm : Quiet m)
    (k : α → Locking σ β) {s : Guarded σ} (hs : s.locked = false) :
    (do lock; let a ← m; unlock; k a) s =
      (m { s with ops := s.ops ++ [true] }).bind fun p =>
        k p.1 { p.2 with ops := s.ops ++ [true, false] } := by
  rw [bind_ok (lock_free hs)]
  cases hrun : m { s with ops := s.ops ++ [true] } with
  | error stop => exact bind_error hrun
  | ok p =>
      obtain ⟨a, t⟩ := p
      have hops : t.ops = s.ops ++ [true] := hm.keeps _ a t hrun
      have hheld : t.locked = true := by
        rw [Guarded.locked, hops]
        simp
      rw [bind_ok hrun, bind_ok (unlock_held hheld), hops, List.append_assoc]
      rfl

/-- The critical section does what its inside does. -/
theorem critical_ok {m : Locking σ α} (hm : Quiet m) {k : α → Locking σ β}
    {s : Guarded σ} (hs : s.locked = false) {a : α} {t : Guarded σ}
    (h : m { s with ops := s.ops ++ [true] } = .ok (a, t)) :
    (do lock; let a ← m; unlock; k a) s =
      k a { t with ops := s.ops ++ [true, false] } := by
  rw [critical_apply hm k hs, h]
  rfl

theorem critical_error {m : Locking σ α} (hm : Quiet m)
    {k : α → Locking σ β} {s : Guarded σ} (hs : s.locked = false)
    {stop : NoReturn} (h : m { s with ops := s.ops ++ [true] } = .error stop) :
    (do lock; let a ← m; unlock; k a) s = .error stop := by
  rw [critical_apply hm k hs, h]
  rfl

theorem Balanced.critical {m : Locking σ α} {k : α → Locking σ β}
    (hm : Quiet m) (hk : ∀ a, Balanced (k a)) :
    Balanced (do lock; let a ← m; unlock; k a) := by
  have hpair : Matched [true, false] := .pair .nil
  constructor
  · intro s hs h
    cases hrun : m { s with ops := s.ops ++ [true] } with
    | error stop =>
        rw [critical_error hm hs hrun] at h
        obtain rfl := Except.error.inj h
        exact hm.goes_on _ hrun
    | ok p =>
        rw [critical_ok hm hs hrun] at h
        exact (hk p.1).goes_on _ (locked_section _ _) h
  · intro s b s' hs h
    cases hrun : m { s with ops := s.ops ++ [true] } with
    | error stop => rw [critical_error hm hs hrun] at h; cases h
    | ok p =>
        rw [critical_ok hm hs hrun] at h
        obtain ⟨own, hops, hown⟩ :=
          (hk p.1).matched _ b s' (locked_section _ _) h
        refine ⟨[true, false] ++ own, ?_, hpair.append hown⟩
        rw [hops, List.append_assoc]

end Locking

end Xupnp.Library
