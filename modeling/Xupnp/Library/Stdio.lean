import Mathlib.Data.List.Infix

/-!
# Reading a stream piece by piece

A call of `fgets` ends behind a new line, and where its buffer is full. Called
until the stream ends it cuts every line into pieces, and what is left for the
last piece of a line is the remainder of its length (`pieces_lines`).
-/

namespace Xupnp.Library.Stdio

section

variable {α : Type*} [DecidableEq α]

/-- What the calls of `fgets (s, n + 1, stream)` read until the stream ends,
the first of them having read something already. -/
def pieces (nl : α) (n : ℕ) : List α → List α → List (List α)
  | [], [] => []
  | read, [] => [read]
  | read, b :: stream =>
      if b = nl ∨ read.length + 1 = n then
        (read ++ [b]) :: pieces nl n [] stream
      else pieces nl n (read ++ [b]) stream

/-- Lines, each with its end. -/
def unlines (nl : α) (lines : List (List α)) : List α :=
  lines.flatMap (· ++ [nl])

variable {nl : α} {n : ℕ} {read line rest : List α} {lines : List (List α)}

theorem pieces_cons (nl : α) (n : ℕ) (read : List α) (b : α)
    (stream : List α) :
    pieces nl n read (b :: stream) =
      if b = nl ∨ read.length + 1 = n then
        (read ++ [b]) :: pieces nl n [] stream
      else pieces nl n (read ++ [b]) stream := by
  cases read <;> rfl

/-- No call reads more than fits. -/
theorem length_of_mem_pieces {stream piece : List α} (hread : read.length < n)
    (h : piece ∈ pieces nl n read stream) : piece.length ≤ n := by
  induction stream generalizing read with
  | nil =>
      cases read with
      | nil => cases h
      | cons b read =>
          rw [List.mem_singleton.mp h]
          exact hread.le
  | cons b stream ih =>
      have hlen : (read ++ [b]).length = read.length + 1 := List.length_append
      rw [pieces_cons] at h
      split at h
      · rcases List.mem_cons.mp h with rfl | h
        · rw [hlen]
          exact hread
        · have hnil : ([] : List α).length < n := Nat.zero_lt_of_lt hread
          exact ih hnil h
      · next hmore =>
          have hfull := (not_or.mp hmore).2
          refine ih ?_ h
          rw [hlen]
          omega

/-- A line ends with a piece, which is what is left of it. -/
theorem pieces_line (hread : read.length < n) (hline : nl ∉ line) :
    ∃ pre last, pieces nl n read (line ++ nl :: rest) =
        pre ++ (last ++ [nl]) :: pieces nl n [] rest ∧
      last <:+ read ++ line ∧
      last.length = (read.length + line.length) % n := by
  induction line generalizing read with
  | nil =>
      refine ⟨[], read, ?_, ?_, ?_⟩
      · rw [List.nil_append, pieces_cons, if_pos (.inl rfl)]
        rfl
      · rw [List.append_nil]
      · exact (Nat.mod_eq_of_lt hread).symm
  | cons b line ih =>
      obtain ⟨hb, hline⟩ := not_or.mp fun h => hline (List.mem_cons.mpr h)
      rw [List.cons_append, pieces_cons]
      by_cases hfull : read.length + 1 = n
      · have hpos : ([] : List α).length < n := by
          rw [← hfull]
          exact Nat.succ_pos _
        obtain ⟨pre, last, hpieces, hsuffix, hlen⟩ := ih hpos hline
        refine ⟨(read ++ [b]) :: pre, last, ?_, ?_, ?_⟩
        · rw [if_pos (.inr hfull), hpieces]
          rfl
        · have happ : read ++ b :: line = read ++ [b] ++ line := by simp
          rw [happ]
          exact hsuffix.trans (List.suffix_append _ _)
        · have hsum : read.length + (b :: line).length = n + line.length := by
            rw [List.length_cons]
            omega
          rw [hlen, hsum, Nat.add_mod_left, List.length_nil, Nat.zero_add]
      · have hread' : (read ++ [b]).length < n := by
          rw [List.length_append, List.length_singleton]
          omega
        obtain ⟨pre, last, hpieces, hsuffix, hlen⟩ := ih hread' hline
        refine ⟨pre, last, ?_, ?_, ?_⟩
        · rw [if_neg (not_or.mpr ⟨Ne.symm hb, hfull⟩), hpieces]
        · simpa using hsuffix
        · rw [hlen, List.length_append, List.length_singleton,
            List.length_cons]
          congr 1
          omega

/-- **The last piece of some lines.** -/
theorem pieces_lines (hn : 0 < n) (hlines : ∀ l ∈ lines, nl ∉ l)
    (hline : nl ∉ line) :
    ∃ pre last, pieces nl n [] (unlines nl (lines ++ [line])) =
        pre ++ [last ++ [nl]] ∧
      last <:+ line ∧ last.length = line.length % n := by
  induction lines with
  | nil =>
      obtain ⟨pre, last, hpieces, hsuffix, hlen⟩ :=
        @pieces_line α _ nl n [] line [] hn hline
      refine ⟨pre, last, ?_, hsuffix, ?_⟩
      · simpa [unlines, pieces] using hpieces
      · rw [hlen, List.length_nil, Nat.zero_add]
  | cons l lines ih =>
      obtain ⟨hl, hlines⟩ := List.forall_mem_cons.mp hlines
      obtain ⟨pre, last, hpieces, hsuffix, hlen⟩ := ih hlines
      obtain ⟨pre', last', hpieces', -, -⟩ :=
        @pieces_line α _ nl n [] l (unlines nl (lines ++ [line])) hn hl
      refine ⟨pre' ++ (last' ++ [nl]) :: pre, last, ?_, hsuffix, hlen⟩
      have hunlines : unlines nl (l :: lines ++ [line]) =
          l ++ nl :: unlines nl (lines ++ [line]) := by simp [unlines]
      rw [hunlines, hpieces', hpieces]
      simp

/-- Nothing but the end of the stream is read of no lines. -/
theorem pieces_nil : pieces nl n [] (unlines nl []) = [] := rfl

end

end Xupnp.Library.Stdio
