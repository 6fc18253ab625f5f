import Xupnp.Library.Stdio
import Xupnp.Library.Tokens

/-!
# Texts of `key=value` lines

A line sets a key where the key stands in front of its first `=`, up to white
space, and something stands behind it. A text is any bytes. A scanner that cuts
it at line ends and `=`, and maybe at more, finds the key as a part of its own,
with another part behind it, if no NUL ends the text for it
(`tokens_of_keyValue`).
-/

namespace Xupnp.Library.KeyLines

open CStr (isSpace stripBytes)

/-- The lines of a text. -/
def lines (text : List UInt8) : List (List UInt8) :=
  text.splitOnP (· == 0x0A)

/-- What is in front of the first `=`, without white space around it. -/
def lineKey (line : List UInt8) : List UInt8 :=
  stripBytes (line.takeWhile (· ≠ 0x3D))

/-- What is behind it, likewise. -/
def lineValue (line : List UInt8) : List UInt8 :=
  stripBytes (line.drop ((line.takeWhile (· ≠ 0x3D)).length + 1))

/-- The value the line gives to the key. -/
def keyValue (key : CStr) (line : List UInt8) : Option (List UInt8) :=
  if 0x3D ∈ line ∧ lineKey line = key.bytes ∧ lineValue line ≠ [] then
    some (lineValue line)
  else none

/-- Some line of the text gives this value to the key. -/
def Sets (text : List UInt8) (key : CStr) (value : List UInt8) : Prop :=
  ∃ line ∈ lines text, keyValue key line = some value

/-- The first value the text gives to the key. -/
def firstValue (text : List UInt8) (key : CStr) : Option (List UInt8) :=
  (lines text).findSome? (keyValue key)

/-- What a line sets is not blank. -/
theorem keyValue_eq_some {key : CStr} {line value : List UInt8} :
    keyValue key line = some value ↔
      0x3D ∈ line ∧ lineKey line = key.bytes ∧ lineValue line = value ∧
        value ≠ [] := by
  unfold keyValue
  constructor
  · intro h
    split at h
    · next hcond =>
        obtain rfl := Option.some.inj h
        exact ⟨hcond.1, hcond.2.1, rfl, hcond.2.2⟩
    · cases h
  · rintro ⟨heq, hkey, rfl, hne⟩
    exact if_pos ⟨heq, hkey, hne⟩

/-- A line without the key gives it no value. -/
theorem keyValue_eq_none {key : CStr} {line : List UInt8}
    (h : ¬ key.bytes <:+: line) : keyValue key line = none := by
  rw [Option.eq_none_iff_forall_ne_some]
  intro value hvalue
  obtain ⟨-, hkey, -⟩ := keyValue_eq_some.mp hvalue
  have hin : lineKey line <:+: line :=
    (CStr.stripBytes_infix _).trans (List.takeWhile_prefix _).isInfix
  exact h (hkey ▸ hin)

/-- A line put together from a key and a value. -/
theorem keyValue_join {key : CStr} {name value v : List UInt8}
    (hname : 0x3D ∉ name) :
    keyValue key (name ++ 0x3D :: value) = some v ↔
      stripBytes name = key.bytes ∧ stripBytes value = v ∧ v ≠ [] := by
  have hfront : (name ++ 0x3D :: value).takeWhile (· ≠ 0x3D) = name :=
    takeWhile_append_cons hname
  have hbehind : (name ++ 0x3D :: value).drop (name.length + 1) = value := by
    rw [List.drop_append]
    simp
  rw [keyValue_eq_some, lineKey, lineValue, hfront, hbehind]
  exact and_iff_right (by simp)

/-- A text that begins with whole lines. -/
theorem splitOnP_unlines_append {p : UInt8 → Bool} (hp : p 0x0A = true)
    (ls : List (List UInt8)) (rest : List UInt8) :
    (Stdio.unlines 0x0A ls ++ rest).splitOnP p =
      ls.flatMap (·.splitOnP p) ++ rest.splitOnP p := by
  induction ls with
  | nil => rfl
  | cons l ls ih =>
      have hcons : Stdio.unlines 0x0A (l :: ls) ++ rest =
          l ++ 0x0A :: (Stdio.unlines 0x0A ls ++ rest) := by
        simp [Stdio.unlines]
      rw [hcons, List.splitOnP_append_cons _ _ hp, ih, List.flatMap_cons,
        List.append_assoc]

/-- A text put together from its lines. -/
theorem splitOnP_unlines {p : UInt8 → Bool} (hp : p 0x0A = true)
    {ls : List (List UInt8)} :
    (Stdio.unlines 0x0A ls).splitOnP p = ls.flatMap (·.splitOnP p) ++ [[]] := by
  have happend := splitOnP_unlines_append hp ls []
  rwa [List.append_nil] at happend

theorem lines_unlines {ls : List (List UInt8)} (h : ∀ l ∈ ls, 0x0A ∉ l) :
    lines (Stdio.unlines 0x0A ls) = ls ++ [[]] := by
  rw [lines, splitOnP_unlines rfl]
  congr 1
  induction ls with
  | nil => rfl
  | cons l ls ih =>
      obtain ⟨hl, hls⟩ := List.forall_mem_cons.mp h
      have hfree : ∀ b ∈ l, (b == 0x0A) = false := fun b hb =>
        beq_eq_false_iff_ne.mpr (ne_of_mem_of_not_mem hb hl)
      rw [List.flatMap_cons, List.splitOnP_eq_singleton hfree, ih hls]
      rfl

/-! ## A NUL in a text -/

section Nul

variable {text line : List UInt8} {init rest : List (List UInt8)}

theorem lines_cons (c : UInt8) (text : List UInt8) : lines (c :: text) =
    if c = 0x0A then [] :: lines text else (lines text).modifyHead (c :: ·) := by
  rw [lines, List.splitOnP_cons_eq_if_modifyHead]
  simp only [beq_iff_eq]
  rfl

/-- In front of the first NUL there are the lines without one, and what is in
front of it on the first line with one. -/
theorem lines_upToNul (h : lines text = init ++ line :: rest)
    (hinit : ∀ l ∈ init, 0 ∉ l) (hline : 0 ∈ line) :
    lines (text.takeWhile (· ≠ 0)) = init ++ [line.takeWhile (· ≠ 0)] := by
  induction text generalizing init line with
  | nil =>
      have hmem : line ∈ lines [] := by simp [h]
      obtain rfl : line = [] := List.mem_singleton.mp hmem
      cases hline
  | cons c text ih =>
      obtain ⟨l, ls, hls⟩ := List.exists_cons_of_ne_nil
        (List.splitOnP_ne_nil (· == 0x0A) text)
      change lines text = l :: ls at hls
      rw [lines_cons] at h
      by_cases hc : c = 0x0A
      · subst hc
        have hkeep : (0x0A :: text).takeWhile (· ≠ 0) =
            0x0A :: text.takeWhile (· ≠ 0) := by simp
        rw [if_pos rfl] at h
        rw [hkeep, lines_cons, if_pos rfl]
        cases init with
        | nil =>
            obtain ⟨rfl, -⟩ := List.cons.inj h
            cases hline
        | cons l' init =>
            obtain ⟨rfl, htail⟩ := List.cons.inj h
            exact congrArg _
              (ih htail (fun l hl => hinit l (List.mem_cons_of_mem _ hl)) hline)
      · rw [if_neg hc, hls, List.modifyHead_cons] at h
        by_cases hzero : c = 0
        · subst hzero
          cases init with
          | nil =>
              obtain ⟨rfl, -⟩ := List.cons.inj h
              simp [lines]
          | cons l' init =>
              obtain ⟨rfl, -⟩ := List.cons.inj h
              exact absurd List.mem_cons_self (hinit _ List.mem_cons_self)
        · have hkeep : ∀ m : List UInt8, (c :: m).takeWhile (· ≠ 0) =
              c :: m.takeWhile (· ≠ 0) := by simp [hzero]
          rw [hkeep, lines_cons, if_neg hc]
          cases init with
          | nil =>
              obtain ⟨rfl, rfl⟩ := List.cons.inj h
              have hl : 0 ∈ l :=
                (List.mem_cons.mp hline).resolve_left (Ne.symm hzero)
              rw [@ih l [] hls (by simp) hl, hkeep]
              rfl
          | cons l' init =>
              obtain ⟨rfl, rfl⟩ := List.cons.inj h
              have hl : ∀ m ∈ l :: init, 0 ∉ m := by
                intro m hm
                rcases List.mem_cons.mp hm with rfl | hm
                · exact fun h0 => hinit _ List.mem_cons_self
                    (List.mem_cons_of_mem c h0)
                · exact hinit m (List.mem_cons_of_mem _ hm)
              rw [@ih line (l :: init) hls hl hline]
              rfl

/-- What is no line end is on a line. -/
theorem mem_lines {b : UInt8} (hb : b ≠ 0x0A) (h : b ∈ text) :
    ∃ line ∈ lines text, b ∈ line := by
  induction text with
  | nil => cases h
  | cons c text ih =>
      obtain ⟨l, ls, hls⟩ := List.exists_cons_of_ne_nil
        (List.splitOnP_ne_nil (· == 0x0A) text)
      change lines text = l :: ls at hls
      rw [hls] at ih
      rw [lines_cons, hls]
      split
      · next hc =>
          have hmem := (List.mem_cons.mp h).resolve_left (fun h => hb (h.trans hc))
          obtain ⟨line, hline, hbl⟩ := ih hmem
          exact ⟨line, List.mem_cons_of_mem _ hline, hbl⟩
      · rw [List.modifyHead_cons]
        rcases List.mem_cons.mp h with rfl | h
        · exact ⟨_, List.mem_cons_self, List.mem_cons_self⟩
        · obtain ⟨line, hline, hbl⟩ := ih h
          rcases List.mem_cons.mp hline with rfl | hline
          · exact ⟨_, List.mem_cons_self, List.mem_cons_of_mem _ hbl⟩
          · exact ⟨line, List.mem_cons_of_mem _ hline, hbl⟩

/-- There is a first line with a NUL, if there is a NUL. -/
theorem nul_line_cases (text : List UInt8) :
    0 ∉ text ∨ ∃ init line rest, lines text = init ++ line :: rest ∧
      (∀ l ∈ init, 0 ∉ l) ∧ 0 ∈ line := by
  rcases first_cases (fun l : List UInt8 => decide (0 ∈ l)) (lines text) with
    hnone | ⟨init, line, rest, hlines, hinit, hline⟩
  · apply Or.inl
    intro h
    obtain ⟨line, hmem, hzero⟩ := mem_lines (by decide) h
    exact of_decide_eq_false (hnone line hmem) hzero
  · exact .inr ⟨init, line, rest, hlines,
      fun l hl => of_decide_eq_false (hinit l hl), of_decide_eq_true hline⟩

end Nul

section Tokens

variable {p : UInt8 → Bool} {text value line l : List UInt8} {key : CStr}

/-- What is lost in stripping is white space. -/
theorem mem_stripBytes_or {b : UInt8} (h : b ∈ l) :
    b ∈ stripBytes l ∨ isSpace b = true := by
  by_cases hb : isSpace b = true
  · exact .inr hb
  left
  have hfilter : ∀ m : List UInt8, b ∈ m → b ∈ m.dropWhile isSpace := by
    intro m hm
    induction m with
    | nil => exact hm
    | cons c m ih =>
        rw [List.dropWhile_cons]
        split
        · next hc =>
            rcases List.mem_cons.mp hm with rfl | hm
            · exact absurd hc hb
            · exact ih hm
        · exact hm
  have hrev := hfilter _ (List.mem_reverse.mpr (hfilter l h))
  rw [stripBytes, List.rdropWhile]
  exact List.mem_reverse.mpr hrev

/-- The parts of a line are parts of the text. -/
theorem splitOnP_infix {q : UInt8 → Bool} (hqp : ∀ b, q b = true → p b = true)
    {part : List UInt8} (h : part ∈ l.splitOnP q) :
    part.splitOnP p <:+: l.splitOnP p := by
  induction hn : l.length using Nat.strong_induction_on generalizing l with
  | _ n ih =>
      rcases splitOnP_cases q l with ⟨-, hsplit⟩ |
        ⟨first, d, rest, rfl, hd, -, hsplit⟩
      · rw [hsplit] at h
        rw [List.mem_singleton.mp h]
      · rw [hsplit] at h
        rw [List.splitOnP_append_cons _ _ (hqp d hd)]
        rcases List.mem_cons.mp h with rfl | h
        · exact (List.prefix_append _ _).isInfix
        · have hlt : rest.length < n := by
            rw [← hn, List.length_append, List.length_cons]
            omega
          exact (ih rest.length hlt h rfl).trans
            (List.suffix_append _ _).isInfix

/-- The line is cut at its first `=`, and its key is not cut. -/
theorem splitOnP_of_keyValue (hcut : p 0x3D = true)
    (hspace : ∀ b, isSpace b = true → b ≠ 0x0A → p b = false)
    (hkey : key.bytes.countP p = 0) (hline : 0x0A ∉ line)
    (h : keyValue key line = some value) :
    ∃ k v : List UInt8, line.splitOnP p = k :: v.splitOnP p ∧
      stripBytes k = key.bytes := by
  obtain ⟨heq, hname, -⟩ := keyValue_eq_some.mp h
  obtain ⟨v, hkv⟩ := takeWhile_cut heq
  have hfree : ∀ b ∈ line.takeWhile (· ≠ 0x3D), p b = false := by
    intro b hb
    rcases mem_stripBytes_or hb with hb' | hb'
    · have hbkey : b ∈ key.bytes := hname ▸ hb'
      simpa using List.countP_eq_zero.mp hkey b hbkey
    · apply hspace b hb'
      rintro rfl
      exact hline ((List.takeWhile_prefix _).subset hb)
  refine ⟨line.takeWhile (· ≠ 0x3D), v, ?_, hname⟩
  conv_lhs => rw [hkv]
  rw [List.splitOnP_append_cons _ _ hcut, List.splitOnP_eq_singleton hfree]
  rfl

/-- Parts next to one another, as strings. -/
theorem splitSet_of_bytes {s : CStr} {pre post : List (List UInt8)}
    {k x : List UInt8} (h : s.bytes.splitOnP p = pre ++ k :: x :: post) :
    ∃ pre' part next post', s.splitSet p = pre' ++ part :: next :: post' ∧
      part.bytes = k := by
  rw [← CStr.map_bytes_splitSet] at h
  obtain ⟨pre', rest, hparts, -, hrest⟩ := List.map_eq_append_iff.mp h
  obtain ⟨part, rest', rfl, hpart, hrest⟩ := List.map_eq_cons_iff.mp hrest
  obtain ⟨next, post', rfl, -, -⟩ := List.map_eq_cons_iff.mp hrest
  exact ⟨pre', part, next, post', hparts, hpart⟩

/-- **A line that sets a key.** -/
theorem tokens_of_keyValue (hline : ∀ b, b = 0x0A ∨ b = 0x3D → p b = true)
    (hspace : ∀ b, isSpace b = true → b ≠ 0x0A → p b = false)
    (hkey : key.bytes.countP p = 0) (hnul : 0 ∉ text)
    (h : Sets text key value) :
    ∃ pre part next post,
      (CStr.upToNul text).tokens p = pre ++ part :: next :: post ∧
        part.strip.bytes = key.bytes := by
  obtain ⟨line, hmem, hvalue⟩ := h
  have hnl : 0x0A ∉ line := fun hb =>
    List.countP_eq_zero.mp (countP_of_mem_splitOnP hmem) 0x0A hb rfl
  obtain ⟨k, v, hparts, hk⟩ := splitOnP_of_keyValue
    (hline _ (.inr rfl)) hspace hkey hnl hvalue
  obtain ⟨x, xs, hx⟩ := List.exists_cons_of_ne_nil (List.splitOnP_ne_nil p v)
  obtain ⟨pre, post, happ⟩ := splitOnP_infix (p := p)
    (fun b hb => hline b (.inl (by simpa using hb))) hmem
  rw [hparts, hx] at happ
  have hbytes := CStr.bytes_upToNul_of_free hnul
  have hcut : (CStr.upToNul text).bytes.splitOnP p =
      pre ++ k :: x :: (xs ++ post) := by
    rw [hbytes, ← happ]
    simp
  obtain ⟨pre', part, next, post', hsplit, hpart⟩ := splitSet_of_bytes hcut
  refine ⟨pre', part, next, post', ?_, ?_⟩
  · rw [CStr.tokens_of_ne_nil, hsplit]
    intro hnil
    rw [hnil, List.splitOnP_nil] at hcut
    have hlen := congrArg List.length hcut
    simp only [List.length_append, List.length_cons, List.length_nil] at hlen
    omega
  · show stripBytes part.bytes = _
    rw [hpart, hk]

end Tokens

end Xupnp.Library.KeyLines
