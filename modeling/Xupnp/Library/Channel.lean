import Mathlib.Data.List.Basic

/-!
# A channel that keeps the order

What is sent is delivered once, and in the order in which it was sent. A
receiver that writes each message into a register holds the last one it has been
given (`lastWritten`); once nothing is in flight it holds the last one sent
(`Channel.lastWritten_sent`).
-/

namespace Xupnp.Library

variable {α β : Type*}

/-! ## Registers -/

/-- A register in which each message leaves the value `f` has for it, if it has
one. -/
def lastWritten (f : α → Option β) (init : β) (l : List α) : β :=
  (l.filterMap f).getLastD init

section Register

variable {f : α → Option β} {init : β} {l : List α} {a : α} {b : β}

@[simp] theorem lastWritten_nil : lastWritten f init [] = init := rfl

theorem lastWritten_append (l l' : List α) :
    lastWritten f init (l ++ l') = lastWritten f (lastWritten f init l) l' := by
  unfold lastWritten
  rw [List.filterMap_append, List.getLastD_eq_getLast?,
    List.getLastD_eq_getLast?, List.getLastD_eq_getLast?,
    List.getLast?_append]
  cases (l'.filterMap f).getLast? <;> rfl

theorem lastWritten_concat_some (h : f a = some b) :
    lastWritten f init (l ++ [a]) = b := by
  rw [lastWritten_append, lastWritten, List.filterMap_cons_some h]
  rfl

theorem lastWritten_concat_none (h : f a = none) :
    lastWritten f init (l ++ [a]) = lastWritten f init l := by
  rw [lastWritten_append, lastWritten, List.filterMap_cons_none h]
  rfl

end Register

/-! ## Channels -/

/-- Everything that has been sent, oldest first, and how much of it has been
delivered. -/
structure Channel (α : Type*) where
  sent : List α
  delivered : ℕ
  delivered_le : delivered ≤ sent.length

namespace Channel

variable {c c' : Channel α} {a : α}

def empty : Channel α := ⟨[], 0, Nat.zero_le _⟩

def send (c : Channel α) (new : List α) : Channel α :=
  ⟨c.sent ++ new, c.delivered, Nat.le_trans c.delivered_le (by simp)⟩

def received (c : Channel α) : List α := c.sent.take c.delivered

def inFlight (c : Channel α) : List α := c.sent.drop c.delivered

/-- Deliver the oldest message in flight. -/
def deliver (c : Channel α) : Option (α × Channel α) :=
  if h : c.delivered < c.sent.length then
    some (c.sent[c.delivered], ⟨c.sent, c.delivered + 1, h⟩)
  else none

theorem received_append_inFlight (c : Channel α) :
    c.received ++ c.inFlight = c.sent := List.take_append_drop _ _

theorem received_of_quiet (h : c.inFlight = []) : c.received = c.sent := by
  rw [← c.received_append_inFlight, h, List.append_nil]

@[simp] theorem sent_send (c : Channel α) (new : List α) :
    (c.send new).sent = c.sent ++ new := rfl

/-- What is sent later has not been delivered. -/
@[simp] theorem received_send (c : Channel α) (new : List α) :
    (c.send new).received = c.received :=
  List.take_append_of_le_length c.delivered_le

@[simp] theorem received_empty : (empty : Channel α).received = [] := rfl

theorem deliver_some (h : c.deliver = some (a, c')) :
    c'.sent = c.sent ∧ c'.received = c.received ++ [a] := by
  unfold deliver at h
  split at h
  · rename_i hlt
    obtain ⟨rfl, rfl⟩ := Prod.mk.inj (Option.some.inj h)
    exact ⟨rfl, (List.take_succ_eq_append_getElem hlt)⟩
  · cases h

/-- **Once nothing is in flight** the register holds the last value sent. -/
theorem lastWritten_sent {f : α → Option β} {init : β} (h : c.inFlight = []) :
    lastWritten f init c.received = lastWritten f init c.sent := by
  rw [received_of_quiet h]

end Channel

end Xupnp.Library
