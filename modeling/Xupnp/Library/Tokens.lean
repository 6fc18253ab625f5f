import Xupnp.Library.CString
import Xupnp.Library.Fields

/-!
# The parts of a text between its delimiters

A text is cut at every delimiter, and the parts are looked through in order for
a word. Where the word has no delimiter in it, it is found in the part that
holds its first occurrence in the text, and behind that part there are as many
more as there are delimiters behind the occurrence (`splitOnP_of_strstr`).
-/

namespace Xupnp.Library

section Split

variable {α : Type*} {p : α → Bool} {l key : List α}

theorem length_splitOnP (p : α → Bool) (l : List α) :
    (l.splitOnP p).length = l.countP p + 1 := by
  induction l with
  | nil => rfl
  | cons a l ih =>
      rw [List.splitOnP_cons_eq_if_modifyHead]
      split
      · next ha => rw [List.length_cons, ih, List.countP_cons_of_pos ha]
      · next ha =>
          rw [List.length_modifyHead, ih, List.countP_cons_of_neg ha]

/-- The first delimiter, if there is one. -/
theorem splitOnP_cases (p : α → Bool) (l : List α) :
    (l.countP p = 0 ∧ l.splitOnP p = [l]) ∨
      ∃ part d rest, l = part ++ d :: rest ∧ p d = true ∧
        part.countP p = 0 ∧ l.splitOnP p = part :: rest.splitOnP p := by
  induction l with
  | nil => exact .inl ⟨rfl, rfl⟩
  | cons a l ih =>
      cases ha : p a with
      | true =>
          refine .inr ⟨[], a, l, rfl, ha, rfl, ?_⟩
          rw [List.splitOnP_cons_eq_if_modifyHead, if_pos ha]
      | false =>
          have hna : ¬ p a = true := by simp [ha]
          rw [List.splitOnP_cons_eq_if_modifyHead, if_neg hna,
            List.countP_cons_of_neg hna]
          rcases ih with ⟨hcount, hsplit⟩ | ⟨part, d, rest, rfl, hd, hcount, hsplit⟩
          · rw [hsplit]
            exact .inl ⟨hcount, rfl⟩
          · refine .inr ⟨a :: part, d, rest, rfl, hd, ?_, ?_⟩
            · rwa [List.countP_cons_of_neg hna]
            · rw [hsplit]
              rfl

/-- A text is cut at the first of an element it has. -/
theorem takeWhile_cut [DecidableEq α] {d : α} (h : d ∈ l) :
    ∃ rest, l = l.takeWhile (· ≠ d) ++ d :: rest := by
  have hsplit := List.takeWhile_append_dropWhile (p := (· ≠ d)) (l := l)
  cases hdrop : l.dropWhile (· ≠ d) with
  | nil =>
      rw [hdrop, List.append_nil] at hsplit
      have hall := List.takeWhile_eq_self_iff.mp hsplit d h
      exact absurd rfl (of_decide_eq_true hall)
  | cons c rest =>
      have hc := List.head?_dropWhile_not (fun b => decide (b ≠ d)) l
      rw [hdrop] at hc
      have hc' : c = d := by simpa using hc
      rw [hdrop, hc'] at hsplit
      exact ⟨rest, hsplit.symm⟩

/-- Up to an element that is not in the front, the front is all. -/
theorem takeWhile_append_cons [DecidableEq α] {d : α} {m : List α}
    (h : d ∉ l) : (l ++ d :: m).takeWhile (· ≠ d) = l := by
  rw [List.takeWhile_append_of_pos fun b hb =>
    decide_eq_true (ne_of_mem_of_not_mem hb h)]
  simp

/-- No part has a delimiter in it. -/
theorem countP_of_mem_splitOnP {part : List α} (h : part ∈ l.splitOnP p) :
    part.countP p = 0 := by
  induction hn : l.length using Nat.strong_induction_on generalizing l with
  | _ n ih =>
      rcases splitOnP_cases p l with ⟨hcount, hsplit⟩ |
        ⟨first, d, rest, rfl, -, hcount, hsplit⟩
      · rw [hsplit] at h
        rwa [List.mem_singleton.mp h]
      · rw [hsplit] at h
        rcases List.mem_cons.mp h with rfl | h
        · exact hcount
        · refine ih rest.length ?_ h rfl
          rw [← hn, List.length_append, List.length_cons]
          omega

/-- The parts are not longer than the text. -/
theorem sum_length_splitOnP (p : α → Bool) (l : List α) :
    ((l.splitOnP p).map List.length).sum ≤ l.length := by
  induction hn : l.length using Nat.strong_induction_on generalizing l with
  | _ n ih =>
      rcases splitOnP_cases p l with ⟨-, hsplit⟩ |
        ⟨part, d, rest, rfl, -, -, hsplit⟩
      · rw [hsplit, ← hn]
        simp
      · rw [List.length_append, List.length_cons] at hn
        have hrest := ih rest.length (by omega) rest rfl
        rw [hsplit, List.map_cons, List.sum_cons]
        omega

/-- The first part is what is in front of the first delimiter. -/
theorem splitOnP_takeWhile (p : α → Bool) (l : List α) :
    ∃ rest, l.splitOnP p = l.takeWhile (! p ·) :: rest := by
  rcases splitOnP_cases p l with ⟨hcount, hsplit⟩ |
    ⟨part, d, rest, rfl, hd, hcount, hsplit⟩
  · have hall : l.takeWhile (! p ·) = l :=
      List.takeWhile_eq_self_iff.mpr fun b hb => by
        simpa using List.countP_eq_zero.mp hcount b hb
    exact ⟨[], by rw [hsplit, hall]⟩
  · have hpart : ∀ b ∈ part, (! p b) = true := fun b hb => by
      simpa using List.countP_eq_zero.mp hcount b hb
    refine ⟨rest.splitOnP p, ?_⟩
    rw [hsplit, List.takeWhile_append_of_pos hpart,
      List.takeWhile_cons_of_neg (by simp [hd]), List.append_nil]

/-- What has no delimiter in it goes into the first part. -/
theorem splitOnP_append_free {m : List α} (h : ∀ a ∈ l, p a = false) :
    (l ++ m).splitOnP p = (m.splitOnP p).modifyHead (l ++ ·) := by
  induction l with
  | nil => exact (congrFun List.modifyHead_id _).symm
  | cons a l ih =>
      obtain ⟨ha, hl⟩ := List.forall_mem_cons.mp h
      rw [List.cons_append, List.splitOnP_cons_eq_if_modifyHead, ha,
        if_neg (by simp), ih hl, List.modifyHead_modifyHead]
      rfl

/-- The parts in front of a delimiter of the front are its own. -/
theorem getElem?_splitOnP_append {u v : List α} {i : ℕ}
    (hi : i < u.countP p) :
    ((u ++ v).splitOnP p)[i]? = (u.splitOnP p)[i]? := by
  induction hn : u.length using Nat.strong_induction_on generalizing u i with
  | _ n ih =>
      rcases splitOnP_cases p u with ⟨hcount, -⟩ |
        ⟨part, d, rest, rfl, hd, hcount, hsplit⟩
      · omega
      · have hfree : ∀ a ∈ part, p a = false := fun a ha =>
          Bool.eq_false_iff.mpr (List.countP_eq_zero.mp hcount a ha)
        have happ : (part ++ d :: rest ++ v).splitOnP p =
            part :: (rest ++ v).splitOnP p := by
          rw [List.append_assoc, List.cons_append,
            List.splitOnP_append_cons _ _ hd, List.splitOnP_eq_singleton hfree]
          rfl
        rw [happ, hsplit]
        cases i with
        | zero => rfl
        | succ i =>
            rw [List.countP_append, hcount, List.countP_cons_of_pos hd] at hi
            have hlt : rest.length < n := by
              rw [← hn, List.length_append, List.length_cons]
              omega
            exact ih rest.length hlt (by omega) rfl

/-- The first element of a kind, if there is one. -/
theorem first_cases (q : α → Bool) (l : List α) :
    (∀ x ∈ l, q x = false) ∨ ∃ pre x post, l = pre ++ x :: post ∧
      (∀ y ∈ pre, q y = false) ∧ q x = true := by
  induction l with
  | nil => exact .inl (by simp)
  | cons a l ih =>
      cases ha : q a with
      | true => exact .inr ⟨[], a, l, rfl, by simp, ha⟩
      | false =>
          rcases ih with hnone | ⟨pre, x, post, rfl, hpre, hx⟩
          · exact .inl (List.forall_mem_cons.mpr ⟨ha, hnone⟩)
          · exact .inr ⟨a :: pre, x, post, rfl,
              List.forall_mem_cons.mpr ⟨ha, hpre⟩, hx⟩

/-- What is behind the first element that is not of a kind. -/
theorem tail_dropWhile_append {q : α → Bool} {pre post : List α} {x : α}
    (hpre : ∀ y ∈ pre, q y = true) (hx : q x = false) :
    ((pre ++ x :: post).dropWhile q).tail = post := by
  rw [List.dropWhile_append_of_pos hpre, List.dropWhile_cons_of_neg (by simp [hx])]
  rfl

/-- The last element of a kind, with none of its kind behind it. -/
theorem getLast?_filter_eq_some {q : α → Bool} {a : α} :
    (l.filter q).getLast? = some a ↔
      ∃ pre post, l = pre ++ a :: post ∧ q a = true ∧
        ∀ b ∈ post, q b = false := by
  rw [List.getLast?_filter, List.find?_eq_some_iff_append]
  constructor
  · rintro ⟨ha, post, pre, hl, hpost⟩
    refine ⟨pre.reverse, post.reverse, ?_, ha, fun b hb => ?_⟩
    · rw [← List.reverse_reverse l, hl]
      simp
    · simpa using hpost b (List.mem_reverse.mp hb)
  · rintro ⟨pre, post, rfl, ha, hpost⟩
    refine ⟨ha, post.reverse, pre.reverse, by simp, fun b hb => ?_⟩
    simpa using hpost b (List.mem_reverse.mp hb)

/-- The last element of a kind among the first ones, by its index. -/
theorem getLast?_filter_take_iff {q : α → Bool} {a : α} {r : ℕ} :
    ((l.take r).filter q).getLast? = some a ↔
      ∃ n < r, l[n]? = some a ∧ q a = true ∧
        ∀ m b, m < r → l[m]? = some b → q b = true → m ≤ n := by
  have htake : ∀ {m : ℕ}, m < r → (l.take r)[m]? = l[m]? := fun hm => by
    rw [List.getElem?_take, if_pos hm]
  rw [getLast?_filter_eq_some]
  constructor
  · rintro ⟨pre, post, hl, ha, hpost⟩
    have hlen : pre.length < r := by
      have hle := List.length_take_le r l
      rw [hl] at hle
      simp at hle
      omega
    refine ⟨pre.length, hlen, ?_, ha, fun m b hm hb hq => ?_⟩
    · rw [← htake hlen, hl]
      simp
    · by_contra hlt
      rw [← htake hm, hl, List.getElem?_append_right (by omega),
        List.getElem?_cons, if_neg (by omega)] at hb
      rw [hpost b (List.mem_of_getElem? hb)] at hq
      cases hq
  · rintro ⟨n, hn, hget, ha, hlast⟩
    rw [← htake hn] at hget
    obtain ⟨hlt, rfl⟩ := List.getElem?_eq_some_iff.mp hget
    refine ⟨(l.take r).take n, (l.take r).drop (n + 1), ?_, ha, ?_⟩
    · rw [← List.drop_eq_getElem_cons hlt, List.take_append_drop]
    · intro b hb
      obtain ⟨i, hi⟩ := List.mem_iff_getElem?.mp hb
      rw [List.getElem?_drop, List.getElem?_take] at hi
      split at hi
      · next hm =>
          rw [Bool.eq_false_iff]
          intro hq
          have hle := hlast _ b hm hi hq
          omega
      · cases hi

/-- What a list is filtered and mapped to, by its index. -/
theorem getElem?_filterMap_iff {β : Type*} {f : α → Option β} {n : ℕ} {b : β} :
    (l.filterMap f)[n]? = some b ↔
      ∃ pre a post, l = pre ++ a :: post ∧ f a = some b ∧
        pre.countP (fun a => (f a).isSome) = n := by
  induction l generalizing n with
  | nil => simp
  | cons x l ih =>
      rw [List.filterMap_cons]
      constructor
      · intro h
        cases hx : f x with
        | none =>
            rw [hx] at h
            obtain ⟨pre, a, post, rfl, ha, hn⟩ := ih.mp h
            exact ⟨x :: pre, a, post, rfl, ha, by simp [hx, hn]⟩
        | some c =>
            rw [hx] at h
            cases n with
            | zero => exact ⟨[], x, l, rfl, hx.trans h, rfl⟩
            | succ n =>
                obtain ⟨pre, a, post, rfl, ha, hn⟩ := ih.mp h
                exact ⟨x :: pre, a, post, rfl, ha, by simp [hx, hn]⟩
      · rintro ⟨pre, a, post, heq, ha, hn⟩
        cases pre with
        | nil =>
            obtain ⟨rfl, rfl⟩ := List.cons.inj heq
            obtain rfl : n = 0 := hn.symm
            simp [ha]
        | cons y pre =>
            obtain ⟨rfl, rfl⟩ := List.cons.inj heq
            rw [List.countP_cons] at hn
            cases hx : f x with
            | none =>
                rw [hx] at hn
                exact ih.mpr ⟨pre, a, post, rfl, ha, by simpa using hn⟩
            | some c =>
                rw [hx] at hn
                obtain rfl : n = pre.countP (fun a => (f a).isSome) + 1 := by
                  simpa using hn.symm
                exact ih.mpr ⟨pre, a, post, rfl, ha, rfl⟩

end Split

/-! ## Words in the parts -/

section Words

variable {α : Type*} [DecidableEq α] {p : α → Bool} {l key text : List α}

omit [DecidableEq α] in
/-- An occurrence of a word reaches over no element that is not in it. -/
theorem prefix_append_cons_cases {d : α} {u : List α} (hd : d ∉ key)
    (h : u ++ key <+: l ++ d :: text) :
    u ++ key <+: l ∨ ∃ u', u = l ++ d :: u' ∧ u' ++ key <+: text := by
  induction l generalizing u with
  | nil =>
      cases u with
      | nil => exact .inl (prefix_of_prefix_append hd h)
      | cons a u =>
          obtain ⟨rfl, htail⟩ := List.cons_prefix_cons.mp h
          exact .inr ⟨u, rfl, htail⟩
  | cons b l ih =>
      cases u with
      | nil => exact .inl (prefix_of_prefix_append hd h)
      | cons a u =>
          obtain ⟨rfl, htail⟩ := List.cons_prefix_cons.mp h
          rcases ih htail with hl | ⟨u', rfl, hu'⟩
          · exact .inl (List.cons_prefix_cons.mpr ⟨rfl, hl⟩)
          · exact .inr ⟨u', rfl, hu'⟩

omit [DecidableEq α] in
/-- A part has the word in it exactly if the word occurs behind as many
delimiters as there are parts in front. -/
theorem getElem?_splitOnP_infix (hkey : key.countP p = 0) (i : ℕ) :
    (∃ part ∈ (l.splitOnP p)[i]?, key <:+: part) ↔
      ∃ u, u ++ key <+: l ∧ u.countP p = i := by
  induction hn : l.length using Nat.strong_induction_on generalizing l i with
  | _ n ih =>
      rcases splitOnP_cases p l with ⟨hcount, hsplit⟩ |
        ⟨first, d, rest, rfl, hd, hcount, hsplit⟩
      · have hfront : ∀ u, u ++ key <+: l → u.countP p = 0 := by
          intro u hu
          have hle := ((List.prefix_append u key).trans hu).countP_le (p := p)
          omega
        rw [hsplit]
        constructor
        · rintro ⟨part, hpart, u, v, rfl⟩
          cases i with
          | zero =>
              obtain rfl : l = u ++ key ++ v := by simpa using hpart
              have hu := List.prefix_append (u ++ key) v
              exact ⟨u, hu, hfront u hu⟩
          | succ i => cases hpart
        · rintro ⟨u, hu, rfl⟩
          refine ⟨l, by rw [hfront u hu]; rfl, ?_⟩
          exact (List.suffix_append u key).isInfix.trans hu.isInfix
      · have hdkey : d ∉ key := fun h => List.countP_eq_zero.mp hkey d h hd
        have hfront : ∀ u, u ++ key <+: first → u.countP p = 0 := by
          intro u hu
          have hle := ((List.prefix_append u key).trans hu).countP_le (p := p)
          omega
        have hbehind : ∀ u, (first ++ d :: u).countP p = u.countP p + 1 := by
          intro u
          rw [List.countP_append, hcount, List.countP_cons_of_pos hd,
            Nat.zero_add]
        rw [hsplit]
        cases i with
        | zero =>
            constructor
            · rintro ⟨part, hpart, u, v, rfl⟩
              obtain rfl : first = u ++ key ++ v := by simpa using hpart
              have hu := List.prefix_append (u ++ key) v
              exact ⟨u, hu.trans (List.prefix_append _ _), hfront u hu⟩
            · rintro ⟨u, hu, hzero⟩
              rcases prefix_append_cons_cases hdkey hu with hu | ⟨u', rfl, -⟩
              · refine ⟨first, rfl, ?_⟩
                exact (List.suffix_append u key).isInfix.trans hu.isInfix
              · rw [hbehind] at hzero
                cases hzero
        | succ i =>
            have hlt : rest.length < n := by
              rw [← hn, List.length_append, List.length_cons]
              omega
            rw [List.getElem?_cons_succ]
            refine (ih rest.length hlt i rfl).trans ?_
            constructor
            · rintro ⟨u, hu, rfl⟩
              refine ⟨first ++ d :: u, ?_, hbehind u⟩
              rw [List.append_assoc, List.cons_append,
                List.prefix_append_right_inj, List.cons_prefix_cons]
              exact ⟨rfl, hu⟩
            · rintro ⟨u, hu, hi⟩
              rcases prefix_append_cons_cases hdkey hu with hu | ⟨u', rfl, hu'⟩
              · rw [hfront u hu] at hi
                cases hi
              · rw [hbehind] at hi
                exact ⟨u', hu', Nat.succ.inj hi⟩

/-- Up to a delimiter that is not in the word there is no occurrence but those
in front of it. -/
theorem strstr_append_cons {d : α} (hd : d ∉ key) (hne : key ≠ [])
    (hl : ¬ key <:+: l) : strstr (l ++ d :: text) key = strstr text key := by
  induction l with
  | nil =>
      apply strstr_cons_not_prefixed
      intro h
      exact hne (List.prefix_nil.mp (prefix_of_prefix_append hd h))
  | cons a l ih =>
      have hskip : strstr (a :: (l ++ d :: text)) key =
          strstr (l ++ d :: text) key := by
        apply strstr_cons_not_prefixed
        intro h
        exact hl (prefix_of_prefix_append hd h).isInfix
      rw [List.cons_append, hskip]
      exact ih fun h => hl (List.infix_cons h)

/-- What is found in the front stays in front of what follows. -/
theorem strstr_append_of_infix (hl : key <:+: l) (text : List α) :
    ∃ u, strstr l key = some u ∧ key <+: u ∧
      strstr (l ++ text) key = some (u ++ text) := by
  induction l with
  | nil =>
      obtain rfl := List.infix_nil.mp hl
      exact ⟨[], strstr_prefixed List.nil_prefix, List.nil_prefix,
        strstr_prefixed List.nil_prefix⟩
  | cons a l ih =>
      by_cases hpre : key <+: a :: l
      · exact ⟨a :: l, strstr_prefixed hpre, hpre,
          strstr_prefixed (hpre.trans (List.prefix_append _ _))⟩
      · rcases List.infix_cons_iff.mp hl with h | h
        · exact absurd h hpre
        · obtain ⟨u, hu, hkey, happ⟩ := ih h
          refine ⟨u, ?_, hkey, ?_⟩
          · rwa [strstr_cons_not_prefixed hpre]
          · by_cases hpre' : key <+: a :: (l ++ text)
            · -- An occurrence that starts at `a` would lie within `a :: l`.
              have hlen : key.length ≤ (a :: l).length := hl.length_le
              exact absurd (List.prefix_of_prefix_length_le hpre'
                (List.prefix_append (a :: l) text) hlen) hpre
            · rwa [List.cons_append, strstr_cons_not_prefixed hpre']

/-- In a part there is no delimiter behind the word either. -/
theorem countP_drop_of_strstr (hcount : l.countP p = 0) {u : List α}
    (h : strstr l key = some u) : (u.drop key.length).countP p = 0 :=
  List.countP_eq_zero.mpr fun b hb => List.countP_eq_zero.mp hcount b
    ((suffix_of_strstr h).subset (List.mem_of_mem_drop hb))

/-- **The first part with the word in it.** -/
theorem splitOnP_of_strstr (hkey : key.countP p = 0) (hne : key ≠ [])
    {u : List α} (h : strstr text key = some u) :
    ∃ pre part post, text.splitOnP p = pre ++ part :: post ∧
      key <:+: part ∧ (∀ x ∈ pre, ¬ key <:+: x) ∧
      post.length = (u.drop key.length).countP p := by
  have hkey' : ∀ d, p d = true → d ∉ key := fun d hd hmem =>
    List.countP_eq_zero.mp hkey d hmem hd
  induction hn : text.length using Nat.strong_induction_on generalizing text with
  | _ n ih =>
      rcases splitOnP_cases p text with ⟨hcount, hsplit⟩ |
        ⟨first, d, rest, rfl, hd, hcount, hsplit⟩
      · have hin : key <:+: text := by
          by_contra hno
          rw [strstr_eq_none_iff.mpr hno] at h
          cases h
        exact ⟨[], text, [], hsplit, hin, by simp,
          (countP_drop_of_strstr hcount h).symm⟩
      · by_cases hin : key <:+: first
        · obtain ⟨v, hv, hpre, happ⟩ := strstr_append_of_infix hin (d :: rest)
          rw [happ] at h
          obtain rfl := Option.some.inj h
          refine ⟨[], first, rest.splitOnP p, hsplit, hin, by simp, ?_⟩
          rw [List.drop_append_of_le_length hpre.length_le, List.countP_append,
            countP_drop_of_strstr hcount hv, length_splitOnP,
            List.countP_cons_of_pos hd]
          omega
        · rw [strstr_append_cons (hkey' d hd) hne hin] at h
          have hlt : rest.length < n := by
            rw [← hn, List.length_append, List.length_cons]
            omega
          obtain ⟨pre, part, post, hrest, hpart, hpre, hpost⟩ :=
            ih rest.length hlt h rfl
          refine ⟨first :: pre, part, post, ?_, hpart, ?_, hpost⟩
          · rw [hsplit, hrest]
            rfl
          · intro x hx
            rcases List.mem_cons.mp hx with rfl | hx
            · exact hin
            · exact hpre x hx

end Words

/-! ## Strings -/

namespace CStr

/-- Strings in a row. -/
def concat (l : List CStr) : CStr := l.foldr (· ++ ·) .empty

theorem concat_cons (s : CStr) (l : List CStr) :
    concat (s :: l) = s ++ concat l := rfl

/-- What a function that takes a string sees of some bytes: those in front of
the first NUL. -/
def upToNul (l : List UInt8) : CStr where
  bytes := l.takeWhile (· ≠ 0)
  nul_free := fun h => by simpa using List.mem_takeWhile_imp h

/-- `g_strsplit_set (s, …, -1)`: an empty string has no parts. -/
def tokens (p : UInt8 → Bool) (s : CStr) : List CStr :=
  if s.bytes = [] then [] else s.splitSet p

variable {p : UInt8 → Bool} {s t key : CStr}

@[simp] theorem bytes_upToNul (l : List UInt8) :
    (upToNul l).bytes = l.takeWhile (· ≠ 0) := rfl

theorem bytes_upToNul_of_free {l : List UInt8} (h : 0 ∉ l) :
    (upToNul l).bytes = l :=
  List.takeWhile_eq_self_iff.mpr fun _ hb =>
    decide_eq_true (ne_of_mem_of_not_mem hb h)

theorem bytes_ofBytes {l : List UInt8} (h : 0 ∉ l) : (ofBytes l).bytes = l :=
  List.filter_eq_self.mpr fun _ hb =>
    decide_eq_true (ne_of_mem_of_not_mem hb h)

theorem map_bytes_splitSet (p : UInt8 → Bool) (s : CStr) :
    (s.splitSet p).map bytes = s.bytes.splitOnP p := by
  rw [splitSet, List.map_map]
  conv_rhs => rw [← List.map_id (s.bytes.splitOnP p)]
  refine List.map_congr_left fun l hl => bytes_ofBytes ?_
  exact fun h => s.nul_free
    (((infix_of_mem_splitOnP p s.bytes).1 l hl).subset h)

theorem tokens_of_ne_nil (h : s.bytes ≠ []) : s.tokens p = s.splitSet p :=
  if_neg h

theorem tokens_empty (h : s.bytes = []) : s.tokens p = [] := if_pos h

theorem infix_of_mem_tokens (h : t ∈ s.tokens p) : t.bytes <:+: s.bytes := by
  unfold tokens at h
  split at h
  · cases h
  · exact infix_of_mem_splitSet h

theorem length_tokens (h : s.bytes ≠ []) :
    (s.tokens p).length = s.bytes.countP p + 1 := by
  rw [tokens_of_ne_nil h, ← length_splitOnP, ← map_bytes_splitSet,
    List.length_map]

theorem sum_length_tokens (p : UInt8 → Bool) (s : CStr) :
    ((s.tokens p).map fun t => t.bytes.length).sum ≤ s.bytes.length := by
  by_cases h : s.bytes = []
  · rw [tokens_empty h]
    exact Nat.zero_le _
  · have hparts : (s.tokens p).map (fun t => t.bytes.length) =
        (s.bytes.splitOnP p).map List.length := by
      rw [tokens_of_ne_nil h, ← map_bytes_splitSet, List.map_map]
      rfl
    rw [hparts]
    exact sum_length_splitOnP p s.bytes

theorem infix_dropWhile {k l : List UInt8} {b : UInt8}
    (hb : isSpace b = false) (h : b :: k <:+: l) :
    b :: k <:+: l.dropWhile isSpace := by
  induction l with
  | nil => exact h
  | cons c l ih =>
      rw [List.dropWhile_cons]
      split
      · next hc =>
          rcases List.infix_cons_iff.mp h with h | h
          · obtain ⟨rfl, -⟩ := List.cons_prefix_cons.mp h
            rw [hb] at hc
            cases hc
          · exact ih h
      · exact h

theorem infix_rdropWhile {k l : List UInt8} {b : UInt8}
    (hb : isSpace b = false) (h : k ++ [b] <:+: l) :
    k ++ [b] <:+: l.rdropWhile isSpace := by
  have hrev : b :: k.reverse <:+: l.reverse := by
    simpa using List.reverse_infix.mpr h
  have hdrop := List.reverse_infix.mpr (infix_dropWhile hb hrev)
  simpa [List.rdropWhile] using hdrop

theorem countP_dropWhile_isSpace (hp : ∀ b, isSpace b = true → p b = false)
    (l : List UInt8) : (l.dropWhile isSpace).countP p = l.countP p := by
  induction l with
  | nil => rfl
  | cons b l ih =>
      rw [List.dropWhile_cons]
      split
      · next hb => rw [ih, List.countP_cons_of_neg (by simp [hp b hb])]
      · rfl

/-- Stripping takes nothing of a kind that no white space is of. -/
theorem countP_stripBytes (hp : ∀ b, isSpace b = true → p b = false)
    (l : List UInt8) : (stripBytes l).countP p = l.countP p := by
  rw [stripBytes, List.rdropWhile, List.countP_reverse,
    countP_dropWhile_isSpace hp, List.countP_reverse,
    countP_dropWhile_isSpace hp]

/-- Stripping the white space around a text leaves the words that have none
around them. -/
theorem contains_strip (hkey : key.strip = key) :
    s.strip.contains key = s.contains key := by
  rw [Bool.eq_iff_iff, contains_iff, contains_iff]
  constructor
  · intro h
    have hstrip := stripBytes_infix s.bytes
    exact h.trans hstrip
  · intro h
    have hbytes : stripBytes key.bytes = key.bytes := congrArg bytes hkey
    have hhead := head_stripBytes key.bytes
    have hlast := getLast_stripBytes key.bytes
    rw [hbytes] at hhead hlast
    show key.bytes <:+: (s.bytes.dropWhile isSpace).rdropWhile isSpace
    rcases List.eq_nil_or_concat' key.bytes with hnil | ⟨m, c, hc⟩
    · rw [hnil]
      exact List.nil_infix
    · have hdrop : key.bytes <:+: s.bytes.dropWhile isSpace := by
        cases hcons : key.bytes with
        | nil => exact List.nil_infix
        | cons b k =>
            rw [hcons] at h hhead
            exact infix_dropWhile (hhead b rfl) h
      rw [hc] at hdrop hlast ⊢
      exact infix_rdropWhile (hlast c (by simp)) hdrop

/-- **The first part with a word in it.** -/
theorem tokens_first (hkey : key.bytes.countP p = 0)
    (hne : key.bytes ≠ []) {u : List UInt8}
    (h : strstr s.bytes key.bytes = some u) :
    ∃ pre part post, s.tokens p = pre ++ part :: post ∧
      part.contains key = true ∧ (∀ x ∈ pre, x.contains key = false) ∧
      post.length = (u.drop key.bytes.length).countP p := by
  obtain ⟨pre, part, post, hsplit, hpart, hpre, hpost⟩ :=
    splitOnP_of_strstr hkey hne h
  have hs : s.bytes ≠ [] := by
    intro hnil
    rw [hnil] at h
    have hin : key.bytes <:+: [] := by
      by_contra hno
      rw [strstr_eq_none_iff.mpr hno] at h
      cases h
    exact hne (List.infix_nil.mp hin)
  rw [← map_bytes_splitSet, List.map_eq_append_iff] at hsplit
  obtain ⟨pre', rest, htokens, rfl, hrest⟩ := hsplit
  obtain ⟨part', post', rfl, rfl, rfl⟩ := List.map_eq_cons_iff.mp hrest
  refine ⟨pre', part', post', ?_, contains_iff.mpr hpart, ?_, ?_⟩
  · rw [tokens_of_ne_nil hs, htokens]
  · intro x hx
    rw [Bool.eq_false_iff, ne_eq, contains_iff]
    exact hpre x.bytes (List.mem_map_of_mem hx)
  · rwa [List.length_map] at hpost

/-- A word that is not in the text is in none of its parts. -/
theorem tokens_none (h : strstr s.bytes key.bytes = none) :
    ∀ x ∈ s.tokens p, x.contains key = false := by
  intro x hx
  rw [Bool.eq_false_iff, ne_eq, contains_iff]
  intro hin
  exact strstr_eq_none_iff.mp h (hin.trans (infix_of_mem_tokens hx))

end CStr

end Xupnp.Library
