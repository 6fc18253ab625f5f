import Mathlib.Data.List.Destutter

/-!
# Telling changes only

A notifier that remembers what it told last, and tells what differs from it.
Over any sequence of values it tells the sequence without the repetitions in a
row (`OnChange.told_foldl`).

Where what it remembers is written by others as well, who tell nobody, a
listener may have something else: `Shared.stale_iff` says when.
-/

namespace Xupnp.Library

variable {κ : Type*} [DecidableEq κ]

/-- What has been told, oldest first. What was told last is remembered. -/
structure OnChange (κ : Type*) where
  last : Option κ
  told : List κ
  last_eq : last = told.getLast?

namespace OnChange

def start : OnChange κ := ⟨none, [], rfl⟩

def tell (s : OnChange κ) (k : κ) : OnChange κ :=
  if s.last = some k then s
  else ⟨some k, s.told ++ [k], List.getLast?_concat.symm⟩

theorem told_tell (s : OnChange κ) (k : κ) :
    (s.tell k).told = if s.last = some k then s.told else s.told ++ [k] := by
  rw [tell]
  split <;> rfl

/-- What is remembered is what was given last. -/
@[simp] theorem last_tell (s : OnChange κ) (k : κ) :
    (s.tell k).last = some k := by
  rw [tell]
  split
  · assumption
  · rfl

theorem told_foldl_from {s : OnChange κ} {pre : List κ} {k : κ}
    (h : s.told = pre ++ [k]) (l : List κ) :
    (l.foldl tell s).told = pre ++ l.destutter' (· ≠ ·) k := by
  induction l generalizing s pre k with
  | nil => exact h
  | cons a l ih =>
      have hlast : s.last = some k := by
        rw [s.last_eq, h, List.getLast?_concat]
      rw [List.foldl_cons]
      by_cases ha : k = a
      · rw [List.destutter'_cons_neg (h := not_not.mpr ha)]
        apply ih
        rw [told_tell, if_pos (hlast.trans (congrArg some ha)), h]
      · rw [List.destutter'_cons_pos (h := ha)]
        have htold : (s.tell a).told = (pre ++ [k]) ++ [a] := by
          rw [told_tell, hlast, if_neg fun hk => ha (Option.some.inj hk), h]
        rw [ih htold, List.append_assoc]
        rfl

/-- **What is told** is what is given, without the repetitions in a row. -/
theorem told_foldl (l : List κ) :
    (l.foldl tell start).told = l.destutter (· ≠ ·) := by
  cases l with
  | nil => rfl
  | cons a l =>
      have hfirst : (start.tell a).told = [] ++ [a] := rfl
      exact told_foldl_from hfirst l

/-- The last thing told is the last one given. -/
theorem last_foldl (l : List κ) : (l.foldl tell start).last = l.getLast? := by
  induction l using List.reverseRecOn with
  | nil => rfl
  | append_singleton l a ih =>
      rw [List.foldl_append, List.getLast?_concat]
      exact last_tell _ a

/-- For a listener who takes in only some of what is told, nothing is lost by
telling it once. -/
theorem getLast?_filterMap_told {β : Type*} (f : κ → Option β) (l : List κ) :
    ((l.foldl tell start).told.filterMap f).getLast? =
      (l.filterMap f).getLast? := by
  induction l using List.reverseRecOn with
  | nil => rfl
  | append_singleton l a ih =>
      rw [List.foldl_append, List.foldl_cons, List.foldl_nil, told_tell,
        List.filterMap_append]
      split <;> rename_i hlast
      · rw [last_eq] at hlast
        obtain ⟨pre, hpre⟩ := List.getLast?_eq_some_iff.mp hlast
        rw [List.getLast?_append, ← ih, hpre, List.filterMap_append]
        cases hf : f a with
        | none => simp [hf]
        | some b => simp [hf]
      · rw [List.filterMap_append, List.getLast?_append, ih,
          List.getLast?_append]

end OnChange

/-! ## A cell that others write, too -/

/-- A value comes from the notifier, or from somebody who does not tell. -/
inductive Write (κ : Type*) where
  | told (k : κ)
  | untold (k : κ)

def Write.value : Write κ → κ
  | told k => k
  | untold k => k

/-- The cell, and what a listener has heard last. -/
structure Shared (κ : Type*) where
  cell : κ
  heard : κ

namespace Shared

/-- The notifier tells what differs from the cell. -/
def write (s : Shared κ) : Write κ → Shared κ
  | .told k => if k = s.cell then s else ⟨k, k⟩
  | .untold k => { s with cell := k }

/-- What is in the cell already makes no difference. -/
theorem write_of_value {s : Shared κ} {w : Write κ} (h : w.value = s.cell) :
    s.write w = s := by
  cases w with
  | told k => exact if_pos h
  | untold k =>
      obtain rfl : k = s.cell := h
      rfl

theorem foldl_of_value {s : Shared κ} {ws : List (Write κ)}
    (h : ∀ w ∈ ws, w.value = s.cell) : ws.foldl write s = s := by
  induction ws with
  | nil => rfl
  | cons w ws ih =>
      obtain ⟨hw, hrest⟩ := List.forall_mem_cons.mp h
      rw [List.foldl_cons, write_of_value hw]
      exact ih hrest

/-- **When the listener has something else**: somebody has written what the
listener had not heard, and nothing else has come since. -/
theorem stale_iff {s : Shared κ} (hs : s.cell = s.heard)
    (ws : List (Write κ)) :
    (ws.foldl write s).cell ≠ (ws.foldl write s).heard ↔
      ∃ pre k post, ws = pre ++ .untold k :: post ∧
        k ≠ (pre.foldl write s).heard ∧ ∀ w ∈ post, w.value = k := by
  constructor
  · intro hne
    induction ws using List.reverseRecOn with
    | nil => exact absurd hs hne
    | append_singleton ws w ih =>
        rw [List.foldl_append] at hne
        change ((ws.foldl write s).write w).cell ≠
          ((ws.foldl write s).write w).heard at hne
        by_cases hw : w.value = (ws.foldl write s).cell
        · rw [write_of_value hw] at hne
          obtain ⟨pre, k, post, rfl, hk, hpost⟩ := ih hne
          refine ⟨pre, k, post ++ [w], by simp, hk, ?_⟩
          have hcell : ((pre ++ .untold k :: post).foldl write s).cell = k := by
            rw [List.foldl_append, List.foldl_cons, foldl_of_value hpost]
            rfl
          intro w' hw'
          rcases List.mem_append.mp hw' with hw' | hw'
          · exact hpost w' hw'
          · rw [List.mem_singleton.mp hw', hw, hcell]
        · cases w with
          | told k =>
              have hwrite : (ws.foldl write s).write (.told k) = ⟨k, k⟩ :=
                if_neg hw
              rw [hwrite] at hne
              exact absurd rfl hne
          | untold k => exact ⟨ws, k, [], rfl, hne, fun _ hw => nomatch hw⟩
  · rintro ⟨pre, k, post, rfl, hk, hpost⟩
    rw [List.foldl_append, List.foldl_cons, foldl_of_value hpost]
    exact hk

end Shared

end Xupnp.Library
