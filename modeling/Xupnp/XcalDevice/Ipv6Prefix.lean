import Xupnp.Library.Escape
import Xupnp.Library.KeyLines

/-!
# The IPv6 prefix (`parseipv6prefix`, `getipv6prefix`)

Both functions are alike. Behind the line of the interface they look for a
closing `/AddrPrefix` in every line that mentions `AddrPrefix`, from a part of
the line on that is not set back between the lines: a closing tag is passed
over unless more marks are in front of it than an earlier such line has in all.
`parseipv6prefix_serves_iff` says so of every file, and
`parseipv6prefix_plain_iff` of files where only elements close.
-/

namespace Xupnp.XcalDevice

open Xupnp.Library

/-! ## The code -/

/-- `"'\\n''\\0'"` -/
def isPrefixLineDelim (b : UInt8) : Bool := b ∈ CStr.ascii "'\n"

/-- `"'<''>''='"` -/
def isPrefixDelim (b : UInt8) : Bool := b ∈ CStr.ascii "'<>="

def closing : CStr := .lit "/AddrPrefix"

def closesPrefix (token : CStr) : Bool := token.strip.contains closing

/-- The inner loop from `prefixloopvar` on, where `before` is the token in
front, if there is one: the index it ends at, and what it takes for the
prefix. Tokens it has passed are stripped. -/
def prefixTokenLoop (before : Option CStr) (prefixloopvar : ℕ) :
    List CStr → ℕ × Option (Option CStr)
  | [] => (prefixloopvar, none)
  | token :: rest =>
      if closesPrefix token then (prefixloopvar, some before)
      else prefixTokenLoop (some token.strip) (prefixloopvar + 1) rest

/-- `prefixtokens` of a line. -/
def prefixTokens (line : CStr) : List CStr :=
  line.strip.tokens isPrefixDelim

/-- The token in front of an index, `none` for that of `-1`. -/
def tokenBefore (tokens : List CStr) : ℕ → Option CStr
  | 0 => none
  | i + 1 => tokens[i]?

def mentionsPrefix (line : CStr) : Bool :=
  line.strip.contains (.lit "AddrPrefix")

def namesInterface (hostMacIf line : CStr) : Bool :=
  line.strip.contains (.lit "ifacename") && line.strip.contains hostMacIf

/-- The outer loop, with `ifacematch` and `prefixloopvar`. It ends with the
prefix or without, or reads `prefixtokens[-1]` (`none`). -/
def prefixLineLoop (hostMacIf : CStr) :
    Bool → ℕ → List CStr → Option (Option CStr)
  | _, _, [] => some none
  | false, prefixloopvar, line :: lines =>
      prefixLineLoop hostMacIf (namesInterface hostMacIf line) prefixloopvar
        lines
  | true, prefixloopvar, line :: lines =>
      if mentionsPrefix line then
        match prefixTokenLoop (tokenBefore (prefixTokens line) prefixloopvar)
            prefixloopvar ((prefixTokens line).drop prefixloopvar) with
        | (_, some before) => before.map some
        | (prefixloopvar, none) =>
            prefixLineLoop hostMacIf true prefixloopvar lines
      else prefixLineLoop hostMacIf true prefixloopvar lines

/-- `parseipv6prefix`, equally `getipv6prefix`: the result and `ipv6prefix`.
The file is `none` if it is not configured or cannot be read. -/
def parseipv6prefix (hostMacIf : CStr) (prefixfile : Option (List UInt8))
    (ipv6Prefix : CStr) : Option (Bool × CStr) :=
  match prefixfile with
  | none => some (false, ipv6Prefix)
  | some text =>
      (prefixLineLoop hostMacIf false 0
        ((CStr.upToNul text).tokens isPrefixLineDelim)).map
        fun found => (found.isSome, found.getD ipv6Prefix)

/-! ## The first element -/

/-- The text of an element whose start tag begins here. -/
def elementHere (t : List UInt8) : Option (List UInt8) :=
  if CStr.ascii "<AddrPrefix" <+: t then
    match t.dropWhile (· ≠ 0x3E) with
    | [] => none
    | _ :: u =>
        if CStr.ascii "</AddrPrefix>" <+: u.dropWhile (· ≠ 0x3C) then
          some (u.takeWhile (· ≠ 0x3C))
        else none
  else none

/-- The text of the first element `<AddrPrefix…>p</AddrPrefix>` of a line. -/
def element (line : List UInt8) : Option (List UInt8) :=
  line.tails.findSome? elementHere

/-- The line says that it is for the interface. -/
def IsInterfaceLine (hostMacIf : CStr) (line : List UInt8) : Prop :=
  CStr.ascii "ifacename" <:+: line ∧ hostMacIf.bytes <:+: line

instance (hostMacIf : CStr) : DecidablePred (IsInterfaceLine hostMacIf) :=
  fun _ => instDecidableAnd

/-- The first element behind the line of the interface. -/
def elementBehind (hostMacIf : CStr) (text : List UInt8) :
    Option (List UInt8) :=
  (((KeyLines.lines text).dropWhile fun line =>
    ¬ IsInterfaceLine hostMacIf line).tail).findSome? element

/-- The element says what the prefix is, or it stays. -/
def PrefixServed (hostMacIf : CStr) (prefixfile : Option (List UInt8))
    (ipv6Prefix : CStr) : Prop :=
  match prefixfile.bind (elementBehind hostMacIf) with
  | some p => ∃ served, served.bytes = p ∧
      parseipv6prefix hostMacIf prefixfile ipv6Prefix = some (true, served)
  | none => parseipv6prefix hostMacIf prefixfile ipv6Prefix =
      some (false, ipv6Prefix)

/-! ## Which closing tags are reached -/

/-- The lines the code looks at: behind the first one that names the
interface. An apostrophe ends a line too, and a NUL the file. -/
def linesBehind (hostMacIf : CStr) (text : List UInt8) : List CStr :=
  (((CStr.upToNul text).tokens isPrefixLineDelim).dropWhile fun line =>
    !namesInterface hostMacIf line).tail

/-- How many marks a line has. -/
def marks (line : CStr) : ℕ := line.strip.bytes.countP isPrefixDelim

/-- Behind `u` the line closes, with more marks in `u` than an earlier line
that mentions `AddrPrefix` has. -/
def Reaches (earlier : List CStr) (line : CStr) (u : List UInt8) : Prop :=
  u ++ closing.bytes <+: line.strip.bytes ∧
    ∀ l ∈ earlier, mentionsPrefix l = true →
      marks l < u.countP isPrefixDelim

/-- What is between the last two marks, or in front of the only one. -/
def partBefore (u : List UInt8) : Option (List UInt8) :=
  match u.countP isPrefixDelim with
  | 0 => none
  | n + 1 => (u.splitOnP isPrefixDelim)[n]?

/-- What is taken for the prefix: white space stays where an earlier line has
just one mark less. -/
def taken (earlier : List CStr) (u : List UInt8) : Option (List UInt8) :=
  if ∃ l ∈ earlier, mentionsPrefix l = true ∧
      marks l + 1 = u.countP isPrefixDelim then
    partBefore u
  else (partBefore u).map CStr.stripBytes

/-- No closing tag is reached. -/
def NoneReached (lines : List CStr) : Prop :=
  ∀ pre line post, lines = pre ++ line :: post → ∀ u, ¬ Reaches pre line u

/-- In front of the first closing tag that is reached is this. -/
def FirstReached (lines : List CStr) (p : Option (List UInt8)) : Prop :=
  ∃ pre line post u, lines = pre ++ line :: post ∧ NoneReached pre ∧
    Reaches pre line u ∧ (∀ v, Reaches pre line v → u.length ≤ v.length) ∧
    taken pre u = p

section Line

variable {hostMacIf line token : CStr} {tokens passed rest : List CStr}
  {index : ℕ} {before : Option CStr} {u : List UInt8}

theorem closesPrefix_iff :
    closesPrefix token = true ↔ closing.bytes <:+: token.bytes := by
  have hstrip : token.strip.contains closing = token.contains closing :=
    CStr.contains_strip (by decide)
  rw [closesPrefix, hstrip, CStr.contains_iff]

/-- A line that closes mentions the prefix. -/
theorem mentionsPrefix_of_closing (h : u ++ closing.bytes <+: line.strip.bytes) :
    mentionsPrefix line = true := by
  have hword : (CStr.lit "AddrPrefix").bytes <:+: closing.bytes :=
    (List.suffix_cons 0x2F _).isInfix
  rw [mentionsPrefix, CStr.contains_iff]
  exact hword.trans ((List.suffix_append u _).isInfix.trans h.isInfix)

/-- The parts of a line that mentions the prefix. -/
theorem bytes_prefixTokens (h : mentionsPrefix line = true) :
    (prefixTokens line).map CStr.bytes =
      line.strip.bytes.splitOnP isPrefixDelim := by
  have hne : line.strip.bytes ≠ [] := by
    intro hnil
    rw [mentionsPrefix, CStr.contains_iff, hnil, List.infix_nil] at h
    exact absurd h (by decide)
  rw [prefixTokens, CStr.tokens_of_ne_nil hne, CStr.map_bytes_splitSet]

theorem length_prefixTokens (h : mentionsPrefix line = true) :
    (prefixTokens line).length = marks line + 1 := by
  rw [marks, ← length_splitOnP, ← bytes_prefixTokens h, List.length_map]

/-- A part closes exactly if the line closes behind as many marks. -/
theorem closes_getElem?_iff (h : mentionsPrefix line = true) (i : ℕ) :
    (∃ token ∈ (prefixTokens line)[i]?, closesPrefix token = true) ↔
      ∃ u, u ++ closing.bytes <+: line.strip.bytes ∧
        u.countP isPrefixDelim = i := by
  rw [← getElem?_splitOnP_infix (by decide), ← bytes_prefixTokens h,
    List.getElem?_map]
  simp only [closesPrefix_iff, Option.mem_def, Option.map_eq_some_iff]
  simp

/-- What is in front of a part. -/
theorem tokenBefore_eq (hu : u ++ closing.bytes <+: line.strip.bytes) :
    (tokenBefore (prefixTokens line) (u.countP isPrefixDelim)).map CStr.bytes =
      partBefore u := by
  have hmention := mentionsPrefix_of_closing hu
  unfold partBefore
  cases hcount : u.countP isPrefixDelim with
  | zero => rfl
  | succ n =>
      obtain ⟨v, hv⟩ := (List.prefix_append u _).trans hu
      have hpart := getElem?_splitOnP_append (p := isPrefixDelim) (u := u)
        (v := v) (i := n) (by omega)
      rw [hv, ← bytes_prefixTokens hmention, List.getElem?_map] at hpart
      exact hpart

/-- The inner loop passes over what does not close. -/
theorem prefixTokenLoop_append (h : ∀ t ∈ passed, closesPrefix t = false) :
    prefixTokenLoop before index (passed ++ rest) =
      prefixTokenLoop ((passed.getLast?.map CStr.strip).or before)
        (index + passed.length) rest := by
  induction passed generalizing before index with
  | nil => rfl
  | cons t passed ih =>
      obtain ⟨ht, hpassed⟩ := List.forall_mem_cons.mp h
      rw [List.cons_append, prefixTokenLoop, ht]
      refine (ih hpassed).trans ?_
      rw [List.length_cons, Nat.add_right_comm, Nat.add_assoc]
      cases passed with
      | nil => rfl
      | cons t' passed =>
          rw [List.getLast?_cons_cons]
          cases hlast : (t' :: passed).getLast? with
          | none => exact absurd (List.getLast?_eq_none_iff.mp hlast) (by simp)
          | some last => rfl

/-- What the inner loop makes of a line, from the index on. -/
def lineLoop (index : ℕ) (line : CStr) : ℕ × Option (Option CStr) :=
  prefixTokenLoop (tokenBefore (prefixTokens line) index) index
    ((prefixTokens line).drop index)

/-- From the index on nothing closes. -/
theorem lineLoop_none (hmention : mentionsPrefix line = true)
    (h : ∀ u, u ++ closing.bytes <+: line.strip.bytes →
      u.countP isPrefixDelim < index) :
    lineLoop index line = (max index (marks line + 1), none) := by
  have hopen : ∀ t ∈ (prefixTokens line).drop index,
      closesPrefix t = false := by
    intro t ht
    rw [Bool.eq_false_iff]
    intro hcloses
    obtain ⟨i, hi⟩ := List.mem_iff_getElem?.mp ht
    rw [List.getElem?_drop] at hi
    obtain ⟨u, hu, hcount⟩ :=
      (closes_getElem?_iff hmention (index + i)).mp ⟨t, hi, hcloses⟩
    have hlt := h u hu
    omega
  have hloop : prefixTokenLoop (tokenBefore (prefixTokens line) index) index
      ((prefixTokens line).drop index ++ []) = _ :=
    prefixTokenLoop_append hopen
  rw [List.append_nil] at hloop
  rw [lineLoop, hloop, prefixTokenLoop, List.length_drop,
    length_prefixTokens hmention]
  congr 1
  omega

/-- Where the line closes behind `u` for the first time from the index on, no
part in front of that one closes. -/
theorem open_of_first {n : ℕ} (hu : u ++ closing.bytes <+: line.strip.bytes)
    (hmin : ∀ v, v ++ closing.bytes <+: line.strip.bytes →
      index ≤ v.countP isPrefixDelim → u.length ≤ v.length)
    (hn : index + n ≤ u.countP isPrefixDelim) :
    ∀ t ∈ ((prefixTokens line).drop index).take n, closesPrefix t = false := by
  intro t ht
  rw [Bool.eq_false_iff]
  intro ht'
  obtain ⟨i, hi⟩ := List.mem_iff_getElem?.mp ht
  rw [List.getElem?_take, List.getElem?_drop] at hi
  split at hi
  · obtain ⟨v, hv, hcount⟩ := (closes_getElem?_iff
      (mentionsPrefix_of_closing hu) (index + i)).mp ⟨t, hi, ht'⟩
    have hle := hmin v hv (by omega)
    have huv : u <+: v := List.prefix_of_prefix_length_le
      ((List.prefix_append u _).trans hu) ((List.prefix_append v _).trans hv)
      hle
    have hmono := huv.countP_le (p := isPrefixDelim)
    omega
  · cases hi

/-- From the index on the line closes behind `u` for the first time. -/
theorem lineLoop_some (hu : u ++ closing.bytes <+: line.strip.bytes)
    (hindex : index ≤ u.countP isPrefixDelim)
    (hmin : ∀ v, v ++ closing.bytes <+: line.strip.bytes →
      index ≤ v.countP isPrefixDelim → u.length ≤ v.length) :
    ∃ before, (lineLoop index line).2 = some before ∧
      before.map CStr.bytes =
        if index = u.countP isPrefixDelim then partBefore u
        else (partBefore u).map CStr.stripBytes := by
  have hmention := mentionsPrefix_of_closing hu
  have hbefore := tokenBefore_eq hu
  obtain ⟨n, hn⟩ := Nat.exists_eq_add_of_le hindex
  obtain ⟨token, htoken, hcloses⟩ :=
    (closes_getElem?_iff hmention _).mpr ⟨u, hu, rfl⟩
  rw [hn, Option.mem_def, ← List.getElem?_drop] at htoken
  obtain ⟨hlt, hget⟩ := List.getElem?_eq_some_iff.mp htoken
  -- The parts from the index on, up to the one that closes behind `u`.
  have hsplit : (prefixTokens line).drop index =
      ((prefixTokens line).drop index).take n ++
        token :: ((prefixTokens line).drop index).drop (n + 1) := by
    rw [← hget, ← List.drop_eq_getElem_cons hlt, List.take_append_drop]
  have hpassed : ∀ t ∈ ((prefixTokens line).drop index).take n,
      closesPrefix t = false :=
    open_of_first hu hmin (hn ▸ Nat.le_refl _)
  refine ⟨((((prefixTokens line).drop index).take n).getLast?.map
    CStr.strip).or (tokenBefore (prefixTokens line) index), ?_, ?_⟩
  · have hloop : prefixTokenLoop (tokenBefore (prefixTokens line) index) index
        (((prefixTokens line).drop index).take n ++
          token :: ((prefixTokens line).drop index).drop (n + 1)) = _ :=
      prefixTokenLoop_append hpassed
    rw [← hsplit] at hloop
    rw [lineLoop, hloop, prefixTokenLoop, hcloses]
    rfl
  · rw [← hbefore, hn]
    cases n with
    | zero =>
        rw [if_pos (Nat.add_zero index).symm]
        rfl
    | succ m =>
        have hne : index ≠ index + (m + 1) := by omega
        have hm : m < ((prefixTokens line).drop index).length := by omega
        have hlast := List.getElem?_eq_getElem hm
        rw [if_neg hne, List.getLast?_take, if_neg (Nat.succ_ne_zero m),
          Nat.add_sub_cancel, hlast]
        rw [List.getElem?_drop] at hlast
        show some (CStr.stripBytes _) =
          ((tokenBefore (prefixTokens line) (index + m + 1)).map
            CStr.bytes).map CStr.stripBytes
        rw [tokenBefore, hlast]
        rfl

end Line

/-! ## The lines in turn -/

/-- Where the index stands behind some lines. -/
def indexBehind (earlier : List CStr) : ℕ :=
  ((earlier.filter mentionsPrefix).map fun l => marks l + 1).foldl max 0

section Lines

variable {hostMacIf line : CStr} {earlier lines pre rest : List CStr}
  {u : List UInt8} {p : Option (List UInt8)}

theorem indexBehind_concat (earlier : List CStr) (line : CStr) :
    indexBehind (earlier ++ [line]) =
      if mentionsPrefix line then max (indexBehind earlier) (marks line + 1)
      else indexBehind earlier := by
  unfold indexBehind
  cases h : mentionsPrefix line <;> simp [h]

theorem indexBehind_le_iff {n : ℕ} :
    indexBehind earlier ≤ n ↔
      ∀ l ∈ earlier, mentionsPrefix l = true → marks l < n := by
  induction earlier using List.reverseRecOn with
  | nil => simp [indexBehind]
  | append_singleton earlier line ih =>
      rw [indexBehind_concat, List.forall_mem_append,
        List.forall_mem_singleton, ← ih]
      split
      · next h => simp [h]
      · next h => simp [h]

/-- What is taken, by where the index stands. -/
theorem taken_eq (h : Reaches earlier line u) :
    (if indexBehind earlier = u.countP isPrefixDelim then partBefore u
      else (partBefore u).map CStr.stripBytes) = taken earlier u := by
  have hle := indexBehind_le_iff.mpr h.2
  unfold taken
  cases hcount : u.countP isPrefixDelim with
  | zero => simp [partBefore, hcount]
  | succ n =>
      refine if_congr ?_ rfl rfl
      constructor
      · intro heq
        by_contra hnone
        have hless : indexBehind earlier ≤ n := by
          apply indexBehind_le_iff.mpr
          intro l hl hmention
          have hlt := h.2 l hl hmention
          have hne : marks l + 1 ≠ n + 1 := fun h => hnone ⟨l, hl, hmention, h⟩
          omega
        omega
      · rintro ⟨l, hl, hmention, hmarks⟩
        have hlt := indexBehind_le_iff.mp le_rfl l hl hmention
        omega

/-- One line behind that of the interface. -/
theorem prefixLineLoop_cons (hostMacIf : CStr) (index : ℕ) (line : CStr)
    (lines : List CStr) :
    prefixLineLoop hostMacIf true index (line :: lines) =
      if mentionsPrefix line then
        match lineLoop index line with
        | (_, some before) => before.map some
        | (index, none) => prefixLineLoop hostMacIf true index lines
      else prefixLineLoop hostMacIf true index lines := rfl

theorem prefixLineLoop_skip (h : ∀ u, ¬ Reaches earlier line u) :
    prefixLineLoop hostMacIf true (indexBehind earlier) (line :: rest) =
      prefixLineLoop hostMacIf true (indexBehind (earlier ++ [line])) rest := by
  rw [prefixLineLoop_cons, indexBehind_concat]
  split
  · next hmention =>
      rw [lineLoop_none hmention]
      intro u hu
      by_contra hle
      exact h u ⟨hu, indexBehind_le_iff.mp (not_lt.mp hle)⟩
  · rfl

theorem noneReached_concat (h : NoneReached (pre ++ [line])) :
    NoneReached pre ∧ ∀ u, ¬ Reaches pre line u := by
  refine ⟨fun pre' line' post heq => ?_, h pre line [] rfl⟩
  exact h pre' line' (post ++ [line]) (by rw [heq]; simp)

/-- The lines that are not reached move the index. -/
theorem prefixLineLoop_append (h : NoneReached pre) :
    prefixLineLoop hostMacIf true 0 (pre ++ rest) =
      prefixLineLoop hostMacIf true (indexBehind pre) rest := by
  induction pre using List.reverseRecOn generalizing rest with
  | nil => rfl
  | append_singleton pre line ih =>
      obtain ⟨hpre, hline⟩ := noneReached_concat h
      rw [List.append_assoc, ih hpre]
      exact prefixLineLoop_skip hline

theorem prefixLineLoop_none (h : NoneReached lines) :
    prefixLineLoop hostMacIf true 0 lines = some none := by
  have hloop : prefixLineLoop hostMacIf true 0 (lines ++ []) = _ :=
    prefixLineLoop_append h
  rw [List.append_nil] at hloop
  rw [hloop, prefixLineLoop]

theorem prefixLineLoop_first (hostMacIf : CStr) (h : FirstReached lines p) :
    ∃ before : Option CStr, before.map CStr.bytes = p ∧
      prefixLineLoop hostMacIf true 0 lines = before.map some := by
  obtain ⟨pre, line, post, u, rfl, hpre, hu, hmin, rfl⟩ := h
  obtain ⟨before, hbefore, hbytes⟩ := lineLoop_some
    hu.1 (indexBehind_le_iff.mpr hu.2)
    fun v hv hle => hmin v ⟨hv, indexBehind_le_iff.mp hle⟩
  refine ⟨before, hbytes.trans (taken_eq hu), ?_⟩
  rw [prefixLineLoop_append hpre, prefixLineLoop_cons,
    if_pos (mentionsPrefix_of_closing hu.1)]
  cases hline : lineLoop (indexBehind pre) line with
  | mk index found =>
      rw [hline] at hbefore
      obtain rfl : found = some before := hbefore
      rfl

theorem exists_shortest (h : ∃ u, Reaches earlier line u) :
    ∃ u, Reaches earlier line u ∧
      ∀ v, Reaches earlier line v → u.length ≤ v.length := by
  obtain ⟨u, hu, hmin⟩ := WellFounded.has_min
    (measure (List.length (α := UInt8))).wf {u | Reaches earlier line u} h
  exact ⟨u, hu, fun v hv => not_lt.mp (hmin v hv)⟩

/-- Some closing tag is the first that is reached, if one is. -/
theorem reached_cases (lines : List CStr) :
    NoneReached lines ∨ ∃ p, FirstReached lines p := by
  induction lines using List.reverseRecOn with
  | nil =>
      apply Or.inl
      intro pre line post heq
      simp at heq
  | append_singleton init line ih =>
      rcases ih with hinit | ⟨p, pre, line', post, u, rfl, hfirst⟩
      · by_cases hline : ∃ u, Reaches init line u
        · obtain ⟨u, hu, hmin⟩ := exists_shortest hline
          exact .inr ⟨_, init, line, [], u, rfl, hinit, hu, hmin, rfl⟩
        · apply Or.inl
          intro pre line' post heq u hu
          rcases List.eq_nil_or_concat' post with rfl | ⟨post, l, rfl⟩
          · obtain ⟨rfl, hlast⟩ := List.append_inj' heq rfl
            obtain rfl := List.singleton_injective hlast
            exact hline ⟨u, hu⟩
          · rw [← List.cons_append, ← List.append_assoc] at heq
            obtain ⟨rfl, -⟩ := List.append_inj' heq rfl
            exact hinit pre line' post rfl u hu
      · exact .inr ⟨p, pre, line', post ++ [line], u, by simp, hfirst⟩

/-- **The outer loop.** It ends without a prefix exactly if no closing tag is
reached, and otherwise with what is in front of the first one. -/
theorem noneReached_iff (hostMacIf : CStr) :
    NoneReached lines ↔
      prefixLineLoop hostMacIf true 0 lines = some none := by
  refine ⟨prefixLineLoop_none, fun h => ?_⟩
  rcases reached_cases lines with hnone | ⟨p, hfirst⟩
  · exact hnone
  · obtain ⟨before, -, hloop⟩ :=
      prefixLineLoop_first hostMacIf hfirst
    rw [hloop] at h
    cases before <;> cases h

theorem firstReached_iff (hostMacIf : CStr) :
    FirstReached lines p ↔ ∃ before : Option CStr,
      before.map CStr.bytes = p ∧
        prefixLineLoop hostMacIf true 0 lines = before.map some := by
  refine ⟨prefixLineLoop_first hostMacIf, ?_⟩
  rintro ⟨before, rfl, h⟩
  rcases reached_cases lines with hnone | ⟨p, hfirst⟩
  · rw [prefixLineLoop_none hnone] at h
    cases before <;> cases h
  · obtain ⟨before', rfl, hloop⟩ :=
      prefixLineLoop_first hostMacIf hfirst
    rw [hloop] at h
    rwa [← Option.map_injective (Option.some_injective _) h]

/-- In front of the interface nothing is looked for. -/
theorem prefixLineLoop_false (hostMacIf : CStr) (index : ℕ)
    (lines : List CStr) :
    prefixLineLoop hostMacIf false index lines =
      prefixLineLoop hostMacIf true index
        ((lines.dropWhile fun line => !namesInterface hostMacIf line).tail)
      := by
  induction lines with
  | nil => rfl
  | cons line lines ih =>
      rw [prefixLineLoop, List.dropWhile_cons]
      cases namesInterface hostMacIf line with
      | true => rfl
      | false => exact ih

/-- What is read of a file. -/
theorem parseipv6prefix_some (hostMacIf ipv6Prefix : CStr)
    (text : List UInt8) :
    parseipv6prefix hostMacIf (some text) ipv6Prefix =
      (prefixLineLoop hostMacIf true 0 (linesBehind hostMacIf text)).map
        fun found => (found.isSome, found.getD ipv6Prefix) := by
  unfold parseipv6prefix
  dsimp only
  rw [prefixLineLoop_false]
  rfl

end Lines

/-! ## Results -/

section Results

variable {hostMacIf ipv6Prefix : CStr} {text : List UInt8}

/-- **Served.** The prefix is that of the first element exactly if the file
cannot be read, or the first closing tag that is reached has it in front, or
there is no element and none is reached. -/
theorem parseipv6prefix_serves_iff (hostMacIf : CStr)
    (prefixfile : Option (List UInt8)) (ipv6Prefix : CStr) :
    PrefixServed hostMacIf prefixfile ipv6Prefix ↔
      ∀ text ∈ prefixfile,
        (∀ p, elementBehind hostMacIf text = some p →
          FirstReached (linesBehind hostMacIf text) (some p)) ∧
        (elementBehind hostMacIf text = none →
          NoneReached (linesBehind hostMacIf text)) := by
  cases prefixfile with
  | none =>
      refine iff_of_true rfl ?_
      intro text htext
      cases htext
  | some text =>
      simp only [Option.mem_def, Option.some.injEq, forall_eq']
      rw [PrefixServed, Option.bind_some, parseipv6prefix_some]
      simp only [firstReached_iff hostMacIf, noneReached_iff hostMacIf]
      generalize prefixLineLoop hostMacIf true 0 (linesBehind hostMacIf text) =
        found
      cases elementBehind hostMacIf text with
      | none =>
          cases found with
          | none => simp
          | some before => cases before <;> simp
      | some p =>
          cases found with
          | none => simp
          | some before => cases before <;> simp

/-- A comment moves the index behind the element. -/
def skippedFile : List UInt8 :=
  CStr.ascii "ifacename=eth0\n"
    ++ CStr.ascii "<!-- AddrPrefix timestamp= pref= valid= length= -->\n"
    ++ CStr.ascii "<AddrPrefix length=\"64\">2001:db8::</AddrPrefix>\n"

theorem parseipv6prefix_skipped :
    elementBehind (.lit "eth0") skippedFile =
        some (CStr.ascii "2001:db8::") ∧
      parseipv6prefix (.lit "eth0") (some skippedFile) .empty =
        some (false, .empty) ∧
      ¬ PrefixServed (.lit "eth0") (some skippedFile) .empty := by
  have helement : elementBehind (.lit "eth0") skippedFile =
      some (CStr.ascii "2001:db8::") := by decide +kernel
  have hparse : parseipv6prefix (.lit "eth0") (some skippedFile) .empty =
      some (false, .empty) := by decide +kernel
  refine ⟨helement, hparse, ?_⟩
  rw [PrefixServed, hparse, Option.bind_some, helement]
  rintro ⟨served, -, h⟩
  cases congrArg Prod.fst (Option.some.inj h)

end Results

/-! ## Plain files -/

/-- An element on a line of its own, which closes at its end only. -/
structure PlainElement where
  attrs : List UInt8
  text : List UInt8
  attrs_free : ∀ b ∈ attrs, b = 0x3D ∨ isPrefixDelim b = false
  text_free : ∀ b ∈ text, isPrefixDelim b = false
  attrs_open : ¬ closing.bytes <:+: CStr.ascii "AddrPrefix" ++ attrs
  text_open : ¬ closing.bytes <:+: text
  stripped : CStr.stripBytes text = text

namespace PlainElement

variable (e : PlainElement)

/-- What is in front of its closing tag. -/
def front : List UInt8 :=
  0x3C :: (CStr.ascii "AddrPrefix" ++ e.attrs ++ 0x3E :: (e.text ++ [0x3C]))

def line : List UInt8 := e.front ++ closing.bytes ++ [0x3E]

theorem line_eq : e.line = 0x3C :: (CStr.ascii "AddrPrefix" ++ e.attrs ++
    0x3E :: (e.text ++ 0x3C :: (closing.bytes ++ [0x3E]))) := by
  simp [line, front]

theorem countP_attrs : e.attrs.countP isPrefixDelim = e.attrs.count 0x3D := by
  apply List.countP_congr
  intro b hb
  rcases e.attrs_free b hb with rfl | h
  · decide
  · rw [h]
    refine iff_of_false (by simp) ?_
    rw [beq_iff_eq]
    rintro rfl
    exact absurd h (by decide)

/-- In front of the text there are the parts of the start tag. -/
theorem length_startTag : ((0x3C :: (CStr.ascii "AddrPrefix" ++
    e.attrs)).splitOnP isPrefixDelim).length = e.attrs.count 0x3D + 2 := by
  have hname : (CStr.ascii "AddrPrefix").countP isPrefixDelim = 0 := by decide
  have hmark : isPrefixDelim 0x3C = true := by decide
  rw [length_splitOnP, List.countP_cons_of_pos hmark, List.countP_append,
    hname, countP_attrs, Nat.zero_add]

theorem splitOnP_front : e.front.splitOnP isPrefixDelim =
    (0x3C :: (CStr.ascii "AddrPrefix" ++ e.attrs)).splitOnP isPrefixDelim ++
      [e.text, []] := by
  have hfront : e.front = 0x3C :: (CStr.ascii "AddrPrefix" ++ e.attrs) ++
      0x3E :: (e.text ++ 0x3C :: []) := by simp [front]
  rw [hfront, List.splitOnP_append_cons _ _ (by decide),
    List.splitOnP_append_cons _ _ (by decide),
    List.splitOnP_eq_singleton e.text_free]
  rfl

theorem countP_front :
    e.front.countP isPrefixDelim = e.attrs.count 0x3D + 3 := by
  have hlen := length_splitOnP isPrefixDelim e.front
  rw [splitOnP_front, List.length_append, length_startTag] at hlen
  simp only [List.length_cons, List.length_nil] at hlen
  omega

theorem partBefore_front : partBefore e.front = some e.text := by
  rw [partBefore, countP_front]
  show (e.front.splitOnP isPrefixDelim)[e.attrs.count 0x3D + 2]? = _
  rw [splitOnP_front, ← length_startTag, List.getElem?_append_right le_rfl]
  simp

/-- It closes only at its end. -/
theorem eq_front {u : List UInt8} (h : u ++ closing.bytes <+: e.line) :
    u = e.front := by
  have hmarks : 0x3C ∉ closing.bytes ∧ 0x3E ∉ closing.bytes := by decide
  rw [line_eq] at h
  rcases prefix_append_cons_cases (l := []) hmarks.1 h with
    hnil | ⟨u₁, rfl, h₁⟩
  · have hlen := hnil.length_le
    rw [List.length_append] at hlen
    exact absurd (Nat.le_trans (Nat.le_add_left _ _) hlen) (by decide)
  rcases prefix_append_cons_cases hmarks.2 h₁ with hname | ⟨u₂, rfl, h₂⟩
  · exact absurd ((List.suffix_append _ _).isInfix.trans hname.isInfix)
      e.attrs_open
  rcases prefix_append_cons_cases hmarks.1 h₂ with htext | ⟨u₃, rfl, h₃⟩
  · exact absurd ((List.suffix_append _ _).isInfix.trans htext.isInfix)
      e.text_open
  cases u₃ with
  | nil => rfl
  | cons b u₃ =>
      have hlen := h₃.length_le
      simp only [List.length_append, List.length_cons, List.length_nil] at hlen
      obtain rfl : u₃ = [] := List.eq_nil_of_length_eq_zero (by omega)
      have htail : closing.bytes <+: closing.bytes.tail ++ [0x3E] :=
        (List.cons_prefix_cons.mp h₃).2
      exact absurd htail (by decide)

theorem strip_line : CStr.stripBytes e.line = e.line := by
  apply CStr.stripBytes_eq_self
  · intro b hb
    obtain rfl : 0x3C = b := by simpa [line_eq] using hb
    decide
  · intro b hb
    obtain rfl : 0x3E = b := by simpa [line] using hb
    decide

theorem element_line : element e.line = some e.text := by
  have hattrs : ∀ b ∈ CStr.ascii "<AddrPrefix" ++ e.attrs,
      decide (b ≠ 0x3E) = true := by
    intro b hb
    rw [decide_eq_true_eq]
    rintro rfl
    rcases List.mem_append.mp hb with hb | hb
    · exact absurd hb (by decide)
    · rcases e.attrs_free _ hb with h | h
      · cases h
      · exact absurd h (by decide)
  have htext : ∀ b ∈ e.text, decide (b ≠ 0x3C) = true := by
    intro b hb
    rw [decide_eq_true_eq]
    rintro rfl
    exact absurd (e.text_free _ hb) (by decide)
  have hline : e.line = CStr.ascii "<AddrPrefix" ++ e.attrs ++
      0x3E :: (e.text ++ CStr.ascii "</AddrPrefix>") := by
    rw [line_eq]
    simp
    rfl
  have hhere : elementHere e.line = some e.text := by
    have hstart : CStr.ascii "<AddrPrefix" <+: e.line := by
      rw [hline, List.append_assoc]
      exact List.prefix_append _ _
    have hdrop : e.line.dropWhile (· ≠ 0x3E) =
        0x3E :: (e.text ++ CStr.ascii "</AddrPrefix>") := by
      rw [hline, List.dropWhile_append_of_pos hattrs]
      rfl
    have hend : (e.text ++ CStr.ascii "</AddrPrefix>").dropWhile (· ≠ 0x3C) =
        CStr.ascii "</AddrPrefix>" := by
      rw [List.dropWhile_append_of_pos htext]
      rfl
    have htake : (e.text ++ CStr.ascii "</AddrPrefix>").takeWhile (· ≠ 0x3C) =
        e.text := by
      rw [List.takeWhile_append_of_pos htext]
      exact List.append_nil _
    rw [elementHere, if_pos hstart, hdrop]
    show (if CStr.ascii "</AddrPrefix>" <+: List.dropWhile _ _ then _ else _) =
      _
    rw [hend, htake, if_pos List.prefix_rfl]
  rw [element, line_eq, List.tails_cons, ← line_eq, List.findSome?_cons, hhere]

end PlainElement

/-- A file where one element closes and no line ends early. -/
structure PlainFile (hostMacIf : CStr) where
  front : List (List UInt8)
  interface : List UInt8
  notes : List (List UInt8)
  element : PlainElement
  behind : List (List UInt8)
  unbroken : ∀ l ∈ front ++ interface :: (notes ++ element.line :: behind),
    ∀ b ∈ l, isPrefixLineDelim b = false ∧ b ≠ 0
  front_other : ∀ l ∈ front, ¬ IsInterfaceLine hostMacIf l
  interface_line : IsInterfaceLine hostMacIf interface
  notes_open : ∀ l ∈ notes, ¬ closing.bytes <:+: l
  behind_open : ∀ l ∈ behind, ¬ closing.bytes <:+: l

namespace PlainFile

variable {hostMacIf : CStr} (f : PlainFile hostMacIf)

def lines : List (List UInt8) :=
  f.front ++ f.interface :: (f.notes ++ f.element.line :: f.behind)

def text : List UInt8 := Stdio.unlines 0x0A f.lines

theorem text_nul : 0 ∉ f.text := by
  intro h
  obtain ⟨l, hl, hmem⟩ := List.mem_flatMap.mp h
  rcases List.mem_append.mp hmem with hmem | hmem
  · exact (f.unbroken l hl 0 hmem).2 rfl
  · exact absurd hmem (by decide)

/-- Both cuts make the same lines. -/
theorem splitOnP_text {p : UInt8 → Bool} (hp : p 0x0A = true)
    (hfree : ∀ b, isPrefixLineDelim b = false → p b = false) :
    f.text.splitOnP p = f.lines ++ [[]] := by
  rw [text, KeyLines.splitOnP_unlines hp]
  have hline : ∀ l ∈ f.lines, l.splitOnP p = [l] := fun l hl =>
    List.splitOnP_eq_singleton fun b hb => hfree b (f.unbroken l hl b hb).1
  rw [List.flatMap_congr hline, List.flatMap_singleton']

theorem namesInterface_ofBytes (hhost : hostMacIf.strip = hostMacIf)
    {l : List UInt8} (hl : 0 ∉ l) :
    namesInterface hostMacIf (.ofBytes l) =
      decide (IsInterfaceLine hostMacIf l) := by
  have hkey : (CStr.lit "ifacename").strip = CStr.lit "ifacename" := by decide
  rw [namesInterface, CStr.contains_strip hkey, CStr.contains_strip hhost,
    Bool.eq_iff_iff, Bool.and_eq_true, CStr.contains_iff, CStr.contains_iff,
    CStr.bytes_ofBytes hl, decide_eq_true_eq]
  rfl

theorem linesBehind_text (hhost : hostMacIf.strip = hostMacIf) :
    linesBehind hostMacIf f.text =
      f.notes.map CStr.ofBytes ++ .ofBytes f.element.line ::
        (f.behind ++ [[]]).map CStr.ofBytes := by
  have hbytes := CStr.bytes_upToNul_of_free f.text_nul
  have hne : (CStr.upToNul f.text).bytes ≠ [] := by
    rw [hbytes]
    simp [text, lines, Stdio.unlines]
  have hnul : ∀ l ∈ f.lines, 0 ∉ l := fun l hl h0 =>
    (f.unbroken l hl 0 h0).2 rfl
  rw [linesBehind, CStr.tokens_of_ne_nil hne, CStr.splitSet, hbytes,
    f.splitOnP_text (by decide) fun _ h => h, lines, List.append_assoc,
    List.cons_append, List.map_append, List.map_cons, List.append_assoc,
    List.cons_append, List.map_append, List.map_cons]
  apply tail_dropWhile_append
  · intro line hline
    obtain ⟨l, hl, rfl⟩ := List.mem_map.mp hline
    have hmem : l ∈ f.lines := List.mem_append_left _ hl
    rw [namesInterface_ofBytes hhost (hnul l hmem),
      decide_eq_false (f.front_other l hl)]
    rfl
  · have hmem : f.interface ∈ f.lines := by simp [lines]
    rw [namesInterface_ofBytes hhost (hnul _ hmem),
      decide_eq_true f.interface_line]
    rfl

/-- Where nothing closes there is no element. -/
theorem element_eq_none {l : List UInt8} (h : ¬ closing.bytes <:+: l) :
    XcalDevice.element l = none := by
  apply List.findSome?_eq_none_iff.mpr
  intro t ht
  have hopen : ¬ closing.bytes <:+: t := fun hin =>
    h (hin.trans ((List.mem_tails _ _).mp ht).isInfix)
  have htag : closing.bytes <:+: CStr.ascii "</AddrPrefix>" := by decide
  unfold elementHere
  split
  · split
    · rfl
    · next b u hdrop =>
        have hsuffix : u <:+ t :=
          (List.suffix_cons b u).trans (hdrop ▸ List.dropWhile_suffix _)
        rw [if_neg]
        intro hend
        have hin := htag.trans
          (hend.isInfix.trans (List.dropWhile_suffix _).isInfix)
        exact hopen (hin.trans hsuffix.isInfix)
  · rfl

theorem elementBehind_text :
    elementBehind hostMacIf f.text = some f.element.text := by
  have hbehind : ((f.lines ++ [[]]).dropWhile fun line =>
      decide (¬ IsInterfaceLine hostMacIf line)).tail =
        f.notes ++ f.element.line :: (f.behind ++ [[]]) := by
    rw [lines, List.append_assoc, List.cons_append, List.append_assoc,
      List.cons_append]
    apply tail_dropWhile_append
    · intro l hl
      exact decide_eq_true (f.front_other l hl)
    · exact decide_eq_false (not_not.mpr f.interface_line)
  have hnotes : f.notes.findSome? XcalDevice.element = none :=
    List.findSome?_eq_none_iff.mpr fun l hl =>
      element_eq_none (f.notes_open l hl)
  rw [elementBehind, KeyLines.lines, f.splitOnP_text rfl, hbehind,
    List.findSome?_append, hnotes, List.findSome?_cons,
    f.element.element_line]
  · rfl
  · intro b hb
    rw [beq_eq_false_iff_ne]
    rintro rfl
    exact absurd hb (by decide)

section Reached

variable {earlier : List CStr} {line : CStr} {l u : List UInt8}

theorem bytes_line (hl : l ∈ f.lines) : (CStr.ofBytes l).bytes = l :=
  CStr.bytes_ofBytes fun h0 => (f.unbroken l hl 0 h0).2 rfl

theorem strip_element :
    (CStr.ofBytes f.element.line).strip.bytes = f.element.line := by
  show CStr.stripBytes (CStr.ofBytes f.element.line).bytes = _
  rw [f.bytes_line (by simp [lines]), f.element.strip_line]

/-- What moves the index. -/
theorem note_iff (hl : l ∈ f.notes) :
    (mentionsPrefix (.ofBytes l) = true ↔ CStr.ascii "AddrPrefix" <:+: l) ∧
      marks (.ofBytes l) = l.countP isPrefixDelim := by
  have hkey : (CStr.lit "AddrPrefix").strip = CStr.lit "AddrPrefix" := by
    decide
  have hbytes := f.bytes_line (l := l) (by simp [lines, hl])
  constructor
  · rw [mentionsPrefix, CStr.contains_strip hkey, CStr.contains_iff, hbytes]
    rfl
  · show (CStr.stripBytes (CStr.ofBytes l).bytes).countP _ = _
    rw [hbytes, CStr.countP_stripBytes (forall_byte (by decide +kernel))]

/-- The element is reached. -/
theorem reaches_element_iff :
    Reaches (f.notes.map CStr.ofBytes) (.ofBytes f.element.line)
        f.element.front ↔
      ∀ l ∈ f.notes, CStr.ascii "AddrPrefix" <:+: l →
        l.countP isPrefixDelim < f.element.attrs.count 0x3D + 3 := by
  rw [Reaches, f.strip_element, f.element.countP_front, List.forall_mem_map]
  refine (and_iff_right ?_).trans (forall₂_congr fun l hl => ?_)
  · exact List.prefix_append _ _
  · rw [(f.note_iff hl).1, (f.note_iff hl).2]

/-- No other line is reached. -/
theorem not_reaches (hline : line ∈ f.notes.map CStr.ofBytes ∨
    line ∈ (f.behind ++ [[]]).map CStr.ofBytes) : ¬ Reaches earlier line u := by
  have hopen : ¬ closing.bytes <:+: line.bytes := by
    rcases hline with hline | hline
    · obtain ⟨l, hl, rfl⟩ := List.mem_map.mp hline
      rw [f.bytes_line (by simp [lines, hl])]
      exact f.notes_open l hl
    · obtain ⟨l, hl, rfl⟩ := List.mem_map.mp hline
      rcases List.mem_append.mp hl with hl | hl
      · rw [f.bytes_line (by simp [lines, hl])]
        exact f.behind_open l hl
      · rw [List.mem_singleton.mp hl]
        decide
  have hstrip : line.strip.bytes <:+: line.bytes :=
    CStr.stripBytes_infix line.bytes
  rintro ⟨hu, -⟩
  exact hopen (((List.suffix_append _ _).isInfix.trans hu.isInfix).trans hstrip)

/-- So the one that is reached is the element. -/
theorem eq_of_reaches {pre post : List CStr}
    (hlines : f.notes.map CStr.ofBytes ++ .ofBytes f.element.line ::
      (f.behind ++ [[]]).map CStr.ofBytes = pre ++ line :: post)
    (h : Reaches pre line u) :
    pre = f.notes.map CStr.ofBytes ∧ line = .ofBytes f.element.line ∧
      u = f.element.front := by
  have hother := fun hline => f.not_reaches hline h
  have hsame : pre = f.notes.map CStr.ofBytes ∧
      line = .ofBytes f.element.line := by
    rcases List.append_eq_append_iff.mp hlines with
      ⟨m, hpre, hrest⟩ | ⟨m, hnotes, hrest⟩
    · cases m with
      | nil =>
          rw [List.append_nil] at hpre
          exact ⟨hpre, (List.cons.inj hrest).1.symm⟩
      | cons x m =>
          obtain ⟨-, hrest⟩ := List.cons.inj hrest
          exact absurd (hother (.inr (by rw [hrest]; simp))) id
    · cases m with
      | nil =>
          rw [List.append_nil] at hnotes
          exact ⟨hnotes.symm, (List.cons.inj hrest).1⟩
      | cons x m =>
          obtain ⟨rfl, -⟩ := List.cons.inj hrest
          exact absurd (hother (.inl (by rw [hnotes]; simp))) id
  refine ⟨hsame.1, hsame.2, f.element.eq_front ?_⟩
  have hu := h.1
  rwa [hsame.2, f.strip_element] at hu

end Reached

end PlainFile

/-- **Plain files.** The prefix is that of the element exactly if every line
between that mentions the prefix has fewer marks than are in front of the
closing tag. -/
theorem parseipv6prefix_plain_iff {hostMacIf : CStr}
    (hhost : hostMacIf.strip = hostMacIf) (f : PlainFile hostMacIf)
    (ipv6Prefix : CStr) :
    PrefixServed hostMacIf (some f.text) ipv6Prefix ↔
      ∀ l ∈ f.notes, CStr.ascii "AddrPrefix" <:+: l →
        l.countP isPrefixDelim < f.element.attrs.count 0x3D + 3 := by
  rw [← f.reaches_element_iff, parseipv6prefix_serves_iff]
  simp only [Option.mem_def, Option.some.injEq, forall_eq',
    f.elementBehind_text, f.linesBehind_text hhost, reduceCtorEq,
    false_implies, and_true]
  constructor
  · rintro ⟨pre, line, post, u, hlines, -, hu, -, -⟩
    obtain ⟨rfl, rfl, rfl⟩ := f.eq_of_reaches hlines hu
    exact hu
  · intro hfront
    refine ⟨_, _, _, f.element.front, rfl, ?_, hfront, ?_, ?_⟩
    · intro pre line post hnotes u
      exact f.not_reaches (.inl (by rw [hnotes]; simp))
    · intro v hv
      have hv' := hv.1
      rw [f.strip_element] at hv'
      rw [f.element.eq_front hv']
    · unfold taken
      rw [f.element.partBefore_front, Option.map_some, f.element.stripped,
        ite_self]

end Xupnp.XcalDevice
