import Xupnp.Library.CString

/-!
# Strings in the memory of a caller

A function stores bytes from an address on, and its caller takes what is there
for a string in a buffer of some size. A string that is stored with its NUL is
there if it is short enough (`holdsStr_store_terminated`), and so is one that
is filled up with NULs (`holdsStr_store_padTo`): one that fills the buffer
leaves no string behind.
-/

namespace Xupnp.Library

/-- The memory from an address on, after some bytes are stored there. -/
def store (mem l : List UInt8) : List UInt8 := l ++ mem.drop l.length

namespace CStr

/-- A string with its NUL. -/
def terminated (s : CStr) : List UInt8 := s.bytes ++ [0]

/-- The string at an address: up to the first NUL. -/
def atAddress (mem : List UInt8) : CStr := .ofBytes (mem.takeWhile (· ≠ 0))

/-- A buffer of `n` bytes holds this string, with its NUL. -/
def HeldIn (n : ℕ) (mem : List UInt8) (s : CStr) : Prop :=
  s.bytes.length < n ∧ s.terminated <+: mem

variable {n : ℕ} {mem l : List UInt8} {s t : CStr}

theorem length_terminated (s : CStr) :
    s.terminated.length = s.bytes.length + 1 := List.length_append

theorem prefix_store (mem l : List UInt8) : l <+: store mem l :=
  List.prefix_append _ _

/-- Of two strings at one address each has its NUL first. -/
theorem terminated_prefix_unique (hs : s.terminated <+: mem)
    (ht : t.terminated <+: mem) : t = s := by
  have hle : ∀ {a b : CStr}, a.terminated <+: mem → b.terminated <+: mem →
      a.bytes.length ≤ b.bytes.length := by
    intro a b ha hb
    by_contra hlt
    -- The NUL of the shorter one would be a character of the longer one.
    have hnul : b.terminated <+: a.bytes := by
      have hfront : a.bytes <+: mem := (List.prefix_append _ _).trans ha
      apply List.prefix_of_prefix_length_le hb hfront
      rw [length_terminated]
      omega
    exact a.nul_free (hnul.subset (by simp [terminated]))
  have hlen : t.terminated.length = s.terminated.length := by
    rw [length_terminated, length_terminated]
    exact congrArg _ (Nat.le_antisymm (hle ht hs) (hle hs ht))
  have heq := (List.prefix_of_prefix_length_le ht hs hlen.le).eq_of_length hlen
  exact CStr.ext (List.append_cancel_right heq)

theorem heldIn_iff (h : s.terminated <+: mem) :
    HeldIn n mem t ↔ t = s ∧ s.bytes.length < n := by
  constructor
  · rintro ⟨hlen, ht⟩
    obtain rfl := terminated_prefix_unique h ht
    exact ⟨rfl, hlen⟩
  · rintro ⟨rfl, hlen⟩
    exact ⟨hlen, h⟩

/-- A buffer that is full of characters holds no string. -/
theorem not_heldIn (h : l <+: mem) (hl : (0 : UInt8) ∉ l) (hn : n ≤ l.length) :
    ¬ HeldIn n mem t := by
  rintro ⟨hlen, ht⟩
  have hnul : t.terminated <+: l := by
    apply List.prefix_of_prefix_length_le ht h
    rw [length_terminated]
    omega
  exact hl (hnul.subset (by simp [terminated]))

theorem heldIn_store_terminated :
    HeldIn n (store mem s.terminated) t ↔ t = s ∧ s.bytes.length < n :=
  heldIn_iff (prefix_store _ _)

/-- What `strncpy` stores. -/
theorem heldIn_store_padTo :
    HeldIn n (store mem (padTo n s.bytes)) t ↔ t = s ∧ s.bytes.length < n := by
  by_cases hlen : s.bytes.length < n
  · have hpad : s.terminated <+: padTo n s.bytes := by
      obtain ⟨k, hk⟩ : ∃ k, n - s.bytes.length = k + 1 :=
        Nat.exists_eq_succ_of_ne_zero (by omega)
      rw [padTo, List.take_of_length_le hlen.le, hk, List.replicate_succ]
      exact ⟨List.replicate k 0, by simp [terminated]⟩
    exact heldIn_iff (hpad.trans (prefix_store _ _))
  · have hfull : s.bytes.take n <+: store mem (padTo n s.bytes) :=
      (List.prefix_append _ _).trans (prefix_store _ _)
    have hfree : (0 : UInt8) ∉ s.bytes.take n := fun h =>
      s.nul_free (List.mem_of_mem_take h)
    have hlong : n ≤ (s.bytes.take n).length := by
      rw [List.length_take]
      omega
    exact iff_of_false (not_heldIn hfull hfree hlong) fun h => hlen h.2

/-- What is in front of the first NUL is the string at the address. -/
theorem bytes_atAddress (hl : (0 : UInt8) ∉ l) (rest : List UInt8) :
    (atAddress (l ++ 0 :: rest)).bytes = l := by
  have hall : ∀ b ∈ l, decide (b ≠ 0) = true := fun b hb =>
    decide_eq_true (ne_of_mem_of_not_mem hb hl)
  have hfront : (l ++ 0 :: rest).takeWhile (· ≠ 0) = l := by
    rw [List.takeWhile_append_of_pos hall]
    simp
  show ((l ++ 0 :: rest).takeWhile (· ≠ 0)).filter (· ≠ 0) = l
  rw [hfront]
  exact List.filter_eq_self.mpr hall

/-- What is at the address is in the buffer if there is a NUL in it. -/
theorem heldIn_atAddress : HeldIn n mem (atAddress mem) ↔ 0 ∈ mem.take n := by
  constructor
  · rintro ⟨hlen, hmem⟩
    have htake : (atAddress mem).terminated <+: mem.take n := by
      apply List.prefix_take_iff.mpr
      rw [length_terminated]
      exact ⟨hmem, hlen⟩
    exact htake.subset (by simp [terminated])
  · intro h
    obtain ⟨front, rest, htake, hfree⟩ := List.eq_append_cons_of_mem h
    have hmem : mem = front ++ 0 :: (rest ++ mem.drop n) := by
      rw [← List.cons_append, ← List.append_assoc, ← htake,
        List.take_append_drop]
    have hbytes : (atAddress mem).bytes = front := by
      rw [hmem]
      exact bytes_atAddress hfree _
    have hlen : front.length < n := by
      have hle := congrArg List.length htake
      rw [List.length_take, List.length_append, List.length_cons] at hle
      omega
    refine ⟨by rwa [hbytes], ?_⟩
    rw [terminated, hbytes, hmem]
    exact ⟨rest ++ mem.drop n, by simp⟩

end CStr

end Xupnp.Library
