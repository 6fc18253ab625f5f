import Mathlib.Data.List.DropRight
import Mathlib.Data.List.Infix
import Mathlib.Order.Lattice
import Mathlib.Data.List.Lex
import Mathlib.Data.Nat.Digits.Lemmas
import Mathlib.Tactic.IntervalCases

/-!
# C strings

A C string is its bytes up to the terminator, so it holds no NUL. The order is
the one of `strcmp`: lexicographic on unsigned bytes. Fixed buffers
(`char b[n]`) are byte lists of length `n`; `strncpy` and `strncmp` are given
on them, together with the GLib helpers the daemons use.
-/

namespace Xupnp.Library

/-- A NUL-terminated string, without its terminator. -/
@[ext] structure CStr where
  bytes : List UInt8
  nul_free : (0 : UInt8) ∉ bytes
deriving DecidableEq

namespace CStr

/-- The bytes of an ASCII literal. -/
def ascii (s : String) : List UInt8 :=
  s.toList.map fun c => UInt8.ofNat c.toNat

/-- The string of some bytes. -/
def ofBytes (l : List UInt8) : CStr := ⟨l.filter (· ≠ 0), by simp⟩

/-- A literal. -/
def lit (s : String) : CStr := ofBytes (ascii s)

/-- `""`, also what `g_string_new(NULL)` holds. -/
def empty : CStr := ⟨[], by simp⟩

instance : Inhabited CStr := ⟨empty⟩

theorem bytes_injective : Function.Injective bytes := fun _ _ => CStr.ext

/-- The bytes as `unsigned char` values. -/
def codes (s : CStr) : List ℕ := s.bytes.map UInt8.toNat

theorem codes_injective : Function.Injective codes := fun _ _ h =>
  bytes_injective (List.map_injective_iff.mpr (fun _ _ => UInt8.toNat_inj.mp) h)

/-- The order of `strcmp`. -/
instance : LinearOrder CStr := LinearOrder.lift' codes codes_injective

instance : Append CStr where
  append s t := ⟨s.bytes ++ t.bytes, by simp [s.nul_free, t.nul_free]⟩

@[simp] theorem bytes_append (s t : CStr) :
    (s ++ t).bytes = s.bytes ++ t.bytes := rfl

theorem append_empty (s : CStr) : s ++ .empty = s :=
  CStr.ext (List.append_nil s.bytes)

theorem empty_append (s : CStr) : .empty ++ s = s := CStr.ext rfl

theorem append_assoc (s t u : CStr) : s ++ t ++ u = s ++ (t ++ u) :=
  CStr.ext (List.append_assoc s.bytes t.bytes u.bytes)

/-- The digits of a number, most significant first. -/
def digits (n : ℕ) : List UInt8 :=
  if n = 0 then [0x30]
  else (Nat.digits 10 n).reverse.map fun d => UInt8.ofNat (0x30 + d)

/-- `%d` -/
def decimal (z : ℤ) : CStr :=
  ofBytes ((if z < 0 then [0x2D] else []) ++ digits z.natAbs)

theorem mem_digits {n : ℕ} {b : UInt8} (h : b ∈ digits n) :
    0x30 ≤ b ∧ b ≤ 0x39 := by
  rw [digits] at h
  split at h
  · rw [List.mem_singleton.mp h]
    decide
  · obtain ⟨d, hd, rfl⟩ := List.mem_map.mp h
    have hlt : d < 10 :=
      Nat.digits_lt_base (by decide) (List.mem_reverse.mp hd)
    interval_cases d <;> decide

/-- The number some digits stand for. -/
def digitsValue (l : List UInt8) : ℕ :=
  l.foldl (fun n b => 10 * n + (b.toNat - 0x30)) 0

theorem digitsValue_digits (n : ℕ) : digitsValue (digits n) = n := by
  rw [digits]
  split
  · next h => exact h.symm
  · have hdigit : ∀ d ∈ Nat.digits 10 n,
        (UInt8.ofNat (0x30 + d)).toNat - 0x30 = d := by
      intro d hd
      have hlt : d < 10 := Nat.digits_lt_base (by decide) hd
      rw [UInt8.toNat_ofNat']
      omega
    have hfold : ∀ l : List ℕ,
        (∀ d ∈ l, (UInt8.ofNat (0x30 + d)).toNat - 0x30 = d) →
        digitsValue (l.reverse.map fun d => UInt8.ofNat (0x30 + d)) =
          Nat.ofDigits 10 l := by
      intro l hl
      induction l with
      | nil => rfl
      | cons d l ih =>
          have hd := hl d List.mem_cons_self
          have ih := ih fun d hd => hl d (List.mem_cons_of_mem _ hd)
          rw [digitsValue] at ih ⊢
          rw [List.reverse_cons, List.map_append, List.foldl_append, ih,
            Nat.ofDigits_cons]
          show 10 * _ + ((UInt8.ofNat (0x30 + d)).toNat - 0x30) = _
          rw [hd, Nat.add_comm]
    rw [hfold _ hdigit, Nat.ofDigits_digits]

theorem digits_injective : Function.Injective digits :=
  Function.LeftInverse.injective digitsValue_digits

theorem length_digits_le {n k : ℕ} (hk : 0 < k) (h : n < 10 ^ k) :
    (digits n).length ≤ k := by
  rw [digits]
  split
  · exact hk
  · rw [List.length_map, List.length_reverse]
    exact (Nat.digits_length_le_iff (by decide) n).mpr h

/-- `%u`, equally `%lu` -/
def unsigned (n : ℕ) : CStr :=
  ⟨digits n, fun h => absurd (mem_digits h).1 (by decide)⟩

/-- The part of `s` from byte `n` on. -/
def dropBytes (n : ℕ) (s : CStr) : CStr :=
  ⟨s.bytes.drop n, fun h => s.nul_free (List.mem_of_mem_drop h)⟩

/-- The first `n` bytes of `s`. -/
def takeBytes (n : ℕ) (s : CStr) : CStr :=
  ⟨s.bytes.take n, fun h => s.nul_free (List.mem_of_mem_take h)⟩

@[simp] theorem takeBytes_bytes (n : ℕ) (s : CStr) :
    (s.takeBytes n).bytes = s.bytes.take n := rfl

/-- Some bytes in place of each. -/
def flatMap (f : UInt8 → List UInt8) (hf : ∀ b, b ≠ 0 → 0 ∉ f b) (s : CStr) :
    CStr where
  bytes := s.bytes.flatMap f
  nul_free := by
    intro h
    obtain ⟨b, hb, h⟩ := List.mem_flatMap.mp h
    exact hf b (ne_of_mem_of_not_mem hb s.nul_free) h

/-- `atoi`: white space, a sign and digits, as far as a `long` reaches, cut to
an `int`. -/
def atoi (s : CStr) : Int32 :=
  let text := s.bytes.dropWhile fun b => b == 0x20 || (0x09 ≤ b && b ≤ 0x0D)
  let number (l : List UInt8) : ℤ :=
    (l.takeWhile fun b => 0x30 ≤ b && b ≤ 0x39).foldl
      (fun n b => 10 * n + (b.toNat - 0x30)) 0
  let value :=
    match text with
    | 0x2D :: l => -number l
    | 0x2B :: l => number l
    | l => number l
  Int32.ofInt (max (-2 ^ 63) (min (2 ^ 63 - 1) value))

/-- `strtoul` to base 10, where `ULONG_MAX` is `ulongMax`: a number that is too
large counts as `ulongMax`, and a negative one is negated in the type. -/
def strtoul (ulongMax : UInt64) (s : CStr) : UInt64 :=
  let text := s.bytes.dropWhile fun b => b == 0x20 || (0x09 ≤ b && b ≤ 0x0D)
  let number (l : List UInt8) : ℕ :=
    digitsValue (l.takeWhile fun b => 0x30 ≤ b && b ≤ 0x39)
  let value (l : List UInt8) : UInt64 :=
    if number l ≤ ulongMax.toNat then .ofNat (number l) else ulongMax
  match text with
  | 0x2D :: l =>
      if number l ≤ ulongMax.toNat then (0 - value l) &&& ulongMax
      else ulongMax
  | 0x2B :: l => value l
  | l => value l

/-! ## White space -/

/-- `g_ascii_isspace`: vertical tab is not among them. -/
def isSpace (b : UInt8) : Bool :=
  b == 0x20 || b == 0x09 || b == 0x0A || b == 0x0C || b == 0x0D

/-- Cut white space from both ends of a byte list. -/
def stripBytes (l : List UInt8) : List UInt8 :=
  (l.dropWhile isSpace).rdropWhile isSpace

theorem stripBytes_sublist (l : List UInt8) : (stripBytes l).Sublist l :=
  ((List.rdropWhile_prefix _ _).sublist).trans (List.dropWhile_sublist _)

theorem stripBytes_infix (l : List UInt8) : stripBytes l <:+: l :=
  ((List.rdropWhile_prefix _ _).isInfix).trans (List.dropWhile_suffix _).isInfix

theorem mem_of_mem_stripBytes {b : UInt8} {l : List UInt8}
    (h : b ∈ stripBytes l) : b ∈ l :=
  (stripBytes_sublist l).subset h

/-- A list that ends in no space has none to lose at the end. -/
theorem rdropWhile_eq_self {l : List UInt8}
    (h : ∀ hl : l ≠ [], isSpace (l.getLast hl) = false) :
    l.rdropWhile isSpace = l :=
  List.rdropWhile_eq_self_iff.mpr fun hl => by simp [h hl]

theorem stripBytes_eq_self {l : List UInt8}
    (hhead : ∀ b ∈ l.head?, isSpace b = false)
    (hlast : ∀ b ∈ l.getLast?, isSpace b = false) : stripBytes l = l := by
  have hdrop : l.dropWhile isSpace = l := by
    cases l with
    | nil => rfl
    | cons b l => simp [hhead b (by simp)]
  rw [stripBytes, hdrop]
  exact rdropWhile_eq_self fun hl =>
    hlast _ (List.getLast?_eq_getLast_of_ne_nil hl)

theorem head_stripBytes (l : List UInt8) :
    ∀ b ∈ (stripBytes l).head?, isSpace b = false := by
  intro b hb
  unfold stripBytes at hb
  have hpre := List.rdropWhile_prefix isSpace (l.dropWhile isSpace)
  -- Cutting at the end keeps the first byte, if any byte is left.
  have hb' : b ∈ (l.dropWhile isSpace).head? := by
    cases hm : (l.dropWhile isSpace).rdropWhile isSpace with
    | nil => simp [hm] at hb
    | cons c m =>
        rw [hm] at hb hpre
        obtain ⟨t, ht⟩ := hpre
        rw [← ht]
        simpa using hb
  exact List.head?_dropWhile_not isSpace l |> fun h => by
    rw [Option.mem_def] at hb'
    rw [hb'] at h
    simpa using h

theorem getLast_stripBytes (l : List UInt8) :
    ∀ b ∈ (stripBytes l).getLast?, isSpace b = false := by
  intro b hb
  unfold stripBytes at hb
  have hne : (l.dropWhile isSpace).rdropWhile isSpace ≠ [] := by
    intro h
    simp [h] at hb
  rw [List.getLast?_eq_getLast_of_ne_nil hne, Option.mem_def,
    Option.some.injEq] at hb
  have := List.rdropWhile_last_not isSpace _ hne
  rw [hb] at this
  simpa using this

theorem stripBytes_idem (l : List UInt8) :
    stripBytes (stripBytes l) = stripBytes l :=
  stripBytes_eq_self (head_stripBytes l) (getLast_stripBytes l)

/-- `g_strstrip`. -/
def strip (s : CStr) : CStr :=
  ⟨stripBytes s.bytes, fun h => s.nul_free (mem_of_mem_stripBytes h)⟩

@[simp] theorem strip_strip (s : CStr) : s.strip.strip = s.strip :=
  CStr.ext (stripBytes_idem s.bytes)

/-! ## Searching -/

/-- The parts of a string between delimiters. -/
def splitSet (p : UInt8 → Bool) (s : CStr) : List CStr :=
  (s.bytes.splitOnP p).map ofBytes

/-- Splitting cuts pieces out of a list, the first at its front. -/
theorem infix_of_mem_splitOnP (p : UInt8 → Bool) (l : List UInt8) :
    (∀ t ∈ l.splitOnP p, t <:+: l) ∧ ∀ t ∈ (l.splitOnP p).head?, t <+: l := by
  induction l with
  | nil => simp [List.splitOnP_nil]
  | cons b l ih =>
      obtain ⟨hall, hhead⟩ := ih
      rw [List.splitOnP_cons_eq_if_modifyHead]
      split
      · constructor
        · intro t ht
          rcases List.mem_cons.mp ht with rfl | ht
          · exact List.nil_infix
          · exact List.infix_cons (hall t ht)
        · intro t ht
          obtain rfl : [] = t := by simpa using ht
          exact List.nil_prefix
      · cases hl : l.splitOnP p with
        | nil => exact absurd hl (List.splitOnP_ne_nil p l)
        | cons u us =>
            rw [hl] at hall hhead
            have hfirst : b :: u <+: b :: l :=
              List.cons_prefix_cons.mpr ⟨rfl, hhead u rfl⟩
            constructor
            · intro t ht
              rcases List.mem_cons.mp ht with rfl | ht
              · exact hfirst.isInfix
              · exact List.infix_cons (hall t (List.mem_cons_of_mem u ht))
            · intro t ht
              obtain rfl : b :: u = t := by simpa using ht
              exact hfirst

/-- A part of a string is cut out of it as it stands. -/
theorem infix_of_mem_splitSet {p : UInt8 → Bool} {s t : CStr}
    (h : t ∈ s.splitSet p) : t.bytes <:+: s.bytes := by
  obtain ⟨l, hl, rfl⟩ := List.mem_map.mp h
  have hin := (infix_of_mem_splitOnP p s.bytes).1 l hl
  have hself : l.filter (· ≠ 0) = l := by
    apply List.filter_eq_self.mpr
    intro b hb
    exact decide_eq_true (ne_of_mem_of_not_mem (hin.subset hb) s.nul_free)
  show l.filter (· ≠ 0) <:+: s.bytes
  rw [hself]
  exact hin

/-- `strstr (h, n) != NULL`, equally `g_strrstr (h, n) != NULL`. -/
def contains (h n : CStr) : Bool :=
  h.bytes.tails.any fun t => n.bytes.isPrefixOf t

theorem contains_iff {h n : CStr} :
    h.contains n = true ↔ n.bytes <:+: h.bytes := by
  rw [List.infix_iff_prefix_suffix]
  simp [contains, and_comm]

/-- ASCII lower case of a byte. -/
def lowerByte (b : UInt8) : UInt8 :=
  if 0x41 ≤ b ∧ b ≤ 0x5A then b + 0x20 else b

/-- `strcasestr (h, n) != NULL`. -/
def containsCase (h n : CStr) : Bool :=
  (h.bytes.map lowerByte).tails.any fun t =>
    (n.bytes.map lowerByte).isPrefixOf t

/-! ## Fixed buffers -/

/-- The first `n` bytes of `l`, filled up with NULs: what `strncpy` writes. -/
def padTo (n : ℕ) (l : List UInt8) : List UInt8 :=
  l.take n ++ List.replicate (n - l.length) 0

theorem length_padTo (n : ℕ) (l : List UInt8) : (padTo n l).length = n := by
  simp [padTo]
  omega

/-- A `char b[n]`. -/
def Buffer (n : ℕ) : Type := {l : List UInt8 // l.length = n}

instance {n : ℕ} : DecidableEq (Buffer n) :=
  inferInstanceAs (DecidableEq {l : List UInt8 // l.length = n})

/-- `strncpy (b, s, n)` into a buffer of `n` bytes. -/
def strncpy (n : ℕ) (l : List UInt8) : Buffer n := ⟨padTo n l, length_padTo n l⟩

/-- The characters a buffer holds: up to its first NUL, all of them if there is
none. -/
def Buffer.chars {n : ℕ} (b : Buffer n) : List UInt8 := b.1.takeWhile (· ≠ 0)

/-- `strncmp (s, b, n) == 0` for a string and a buffer of `n` bytes. -/
def strncmpEq {n : ℕ} (s : CStr) (b : Buffer n) : Bool :=
  s.bytes.take n == b.chars

theorem takeWhile_padTo {n : ℕ} {l : List UInt8} (h : (0 : UInt8) ∉ l) :
    (padTo n l).takeWhile (· ≠ 0) = l.take n := by
  have hall : ∀ b ∈ l.take n, decide (b ≠ 0) = true := by
    intro b hb
    apply decide_eq_true
    rintro rfl
    exact h (List.mem_of_mem_take hb)
  -- The bytes copied hold no NUL, and the padding starts with one.
  rw [padTo, List.takeWhile_append_of_pos hall]
  simp

/-- Copying a string keeps its first `n` characters. -/
theorem chars_strncpy (n : ℕ) (s : CStr) :
    (strncpy n s.bytes).chars = s.bytes.take n :=
  takeWhile_padTo s.nul_free

theorem strncmpEq_iff {n : ℕ} {s : CStr} {b : Buffer n} :
    strncmpEq s b = true ↔ s.bytes.take n = b.chars := by
  simp [strncmpEq]

end CStr

/-! ## Checked copies -/

/-- The `strcpy_s` of a build: the one of safeclib, or under `SAFEC_DUMMY_API` a
plain `strcpy`. -/
inductive SafeLib where
  | safec
  | dummy
deriving DecidableEq

section Checked

variable {lib : SafeLib} {dmax : ℕ} {src : CStr}

/-- `strcpy_s (dest, dmax, src)`: what is in `dest` afterwards, and whether the
result is `EOK`. -/
def strcpyS (lib : SafeLib) (dmax : ℕ) (src : CStr) : CStr × Bool :=
  match lib with
  | .safec => if src.bytes.length < dmax then (src, true) else (.empty, false)
  | .dummy => (src, true)

/-- What is copied, if the result is `EOK`. -/
def strcpyOk (lib : SafeLib) (dmax : ℕ) (src : CStr) : Option CStr :=
  match strcpyS lib dmax src with
  | (dest, true) => some dest
  | (_, false) => none

theorem strcpyS_of_lt (h : src.bytes.length < dmax) :
    strcpyS lib dmax src = (src, true) := by
  cases lib with
  | safec => exact if_pos h
  | dummy => rfl

theorem strcpyS_of_not_lt (h : ¬ src.bytes.length < dmax) :
    strcpyS .safec dmax src = (.empty, false) := if_neg h

theorem strcpyOk_of_lt (h : src.bytes.length < dmax) :
    strcpyOk lib dmax src = some src := by
  rw [strcpyOk, strcpyS_of_lt h]

end Checked

end Xupnp.Library
