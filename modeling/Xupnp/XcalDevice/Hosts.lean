import Xupnp.Library.KeyLines

/-!
# The hosts the gateway serves

`getetchosts` makes one text of the lines of the hosts file, with the address
of the gateway in front of each. The first line sets the text and the others
are appended to it, by tests in the other order; together they treat every line
alike (`getetchosts_bytes`). But the lines end at the first NUL of the file,
which the delimiters name and no string can hold: `getetchosts_serves_iff`.
-/

namespace Xupnp.XcalDevice

open Xupnp.Library

/-! ## The code -/

def hostsFile (ipv6Enabled : Bool) : CStr :=
  if ipv6Enabled then .lit "//etc//xi-xconf-hosts.list"
  else .lit "//etc//hosts"

def localhost : CStr := .lit "127.0.0.1"

/-- What is printed for one token: `"%s"`, `" "` and `"%s;"`. -/
def hostEntry (gwyip token : CStr) : CStr :=
  gwyip ++ .lit " " ++ (token.strip ++ .lit ";")

/-- `etchosts` behind the first token, whatever it was before. -/
def firstHost (gwyip : CStr) : List CStr → CStr
  | [] => .empty
  | token :: _ =>
      if 0 < token.strip.bytes.length ∧
          token.strip.contains localhost = false then
        hostEntry gwyip token
      else .empty

/-- The loop over the tokens from the second one on. -/
def hostsLoop (gwyip etchosts : CStr) : List CStr → CStr
  | [] => etchosts
  | token :: rest =>
      if token.strip.contains localhost = false then
        if 0 < token.strip.bytes.length then
          hostsLoop gwyip (etchosts ++ hostEntry gwyip token) rest
        else hostsLoop gwyip etchosts rest
      else hostsLoop gwyip etchosts rest

/-- `getetchosts`: the result and `etchosts`. A file is `none` if it cannot be
read. -/
def getetchosts (files : CStr → Option (List UInt8)) (ipv6Enabled : Bool)
    (gwyip etchosts : CStr) : Bool × CStr :=
  match files (hostsFile ipv6Enabled) with
  | none => (false, etchosts)
  | some etchostsfile =>
      -- `"\n\0"` names the line end only: the NUL ends the string.
      let tokens := (CStr.upToNul etchostsfile).tokens (· == 0x0A)
      (true, hostsLoop gwyip (firstHost gwyip tokens) (tokens.drop 1))

/-! ## What is to be served -/

/-- A line that is served: not blank, and not one of the local host. -/
def ServesLine (line : List UInt8) : Prop :=
  CStr.stripBytes line ≠ [] ∧ ¬ localhost.bytes <:+: line

instance : DecidablePred ServesLine := fun _ => instDecidableAnd

/-- What is served of a line, behind the address of the gateway. -/
def servedLine (gwyip : CStr) (line : List UInt8) : List UInt8 :=
  gwyip.bytes ++ CStr.ascii " " ++ CStr.stripBytes line ++ CStr.ascii ";"

/-- What is served of some lines. -/
def servedLines (gwyip : CStr) (lines : List (List UInt8)) : List UInt8 :=
  (lines.filter ServesLine).flatMap (servedLine gwyip)

/-- The lines of the file are served, or `etchosts` stays. -/
def HostsServed (files : CStr → Option (List UInt8)) (ipv6Enabled : Bool)
    (gwyip etchosts : CStr) : Prop :=
  match files (hostsFile ipv6Enabled) with
  | none => getetchosts files ipv6Enabled gwyip etchosts = (false, etchosts)
  | some text =>
      (getetchosts files ipv6Enabled gwyip etchosts).1 = true ∧
        (getetchosts files ipv6Enabled gwyip etchosts).2.bytes =
          servedLines gwyip (KeyLines.lines text)

/-- The first line with a NUL is one of the local host, and those behind it
make the text that is made of what it has in front of the NUL. -/
def NulHarmless (gwyip : CStr) (text : List UInt8) : Prop :=
  ∀ init line rest, KeyLines.lines text = init ++ line :: rest →
    (∀ l ∈ init, 0 ∉ l) → 0 ∈ line → localhost.bytes <:+: line ∧
      servedLines gwyip rest = servedLines gwyip [line.takeWhile (· ≠ 0)]

section Loop

variable {gwyip token : CStr}

theorem servesLine_iff : ServesLine token.bytes ↔
    0 < token.strip.bytes.length ∧
      token.strip.contains localhost = false := by
  have hlocal : token.strip.contains localhost = token.contains localhost :=
    CStr.contains_strip (by decide)
  rw [hlocal, ServesLine, List.length_pos_iff, Bool.eq_false_iff, ne_eq,
    ne_eq, ne_eq, CStr.contains_iff]
  rfl

theorem hostsLoop_cons (gwyip etchosts token : CStr) (rest : List CStr) :
    hostsLoop gwyip etchosts (token :: rest) =
      if ServesLine token.bytes then
        hostsLoop gwyip (etchosts ++ hostEntry gwyip token) rest
      else hostsLoop gwyip etchosts rest := by
  rw [hostsLoop, ← ite_and]
  exact if_congr (and_comm.trans servesLine_iff.symm) rfl rfl

theorem firstHost_cons (gwyip token : CStr) (rest : List CStr) :
    firstHost gwyip (token :: rest) =
      if ServesLine token.bytes then hostEntry gwyip token else .empty :=
  if_congr servesLine_iff.symm rfl rfl

theorem bytes_hostEntry (gwyip token : CStr) :
    (hostEntry gwyip token).bytes = servedLine gwyip token.bytes := by
  simp only [hostEntry, servedLine, CStr.bytes_append, List.append_assoc]
  rfl

theorem servedLines_cons (line : List UInt8) (lines : List (List UInt8)) :
    servedLines gwyip (line :: lines) =
      (if ServesLine line then servedLine gwyip line else []) ++
        servedLines gwyip lines := by
  unfold servedLines
  by_cases h : ServesLine line <;> simp [h]

theorem servedLines_append (lines lines' : List (List UInt8)) :
    servedLines gwyip (lines ++ lines') =
      servedLines gwyip lines ++ servedLines gwyip lines' := by
  simp [servedLines]

/-- The loop appends the served lines to what it starts from. -/
theorem bytes_hostsLoop (gwyip etchosts : CStr) (tokens : List CStr) :
    (hostsLoop gwyip etchosts tokens).bytes =
      etchosts.bytes ++ servedLines gwyip (tokens.map CStr.bytes) := by
  induction tokens generalizing etchosts with
  | nil => exact (List.append_nil _).symm
  | cons token rest ih =>
      rw [hostsLoop_cons, List.map_cons, servedLines_cons]
      split
      · rw [ih, CStr.bytes_append, bytes_hostEntry, List.append_assoc]
      · exact ih etchosts

/-- The first token counts like the others. -/
theorem hostsLoop_firstHost (gwyip : CStr) (tokens : List CStr) :
    hostsLoop gwyip (firstHost gwyip tokens) (tokens.drop 1) =
      hostsLoop gwyip .empty tokens := by
  cases tokens with
  | nil => rfl
  | cons token rest =>
      rw [hostsLoop_cons, firstHost_cons]
      split
      · rw [CStr.empty_append]
        rfl
      · rfl

/-- An empty string has no token, and no line of it is served. -/
theorem servedLines_tokens (gwyip text : CStr) :
    servedLines gwyip ((text.tokens (· == 0x0A)).map CStr.bytes) =
      servedLines gwyip (KeyLines.lines text.bytes) := by
  by_cases h : text.bytes = []
  · obtain rfl : text = .empty := CStr.ext h
    rfl
  · rw [CStr.tokens_of_ne_nil h, CStr.map_bytes_splitSet]
    rfl

end Loop

/-! ## What is served -/

section

variable {files : CStr → Option (List UInt8)} {ipv6Enabled : Bool}
  {gwyip etchosts : CStr} {text : List UInt8}

/-- The lines up to the first NUL are served, by one rule. -/
theorem getetchosts_bytes (hfile : files (hostsFile ipv6Enabled) = some text) :
    (getetchosts files ipv6Enabled gwyip etchosts).1 = true ∧
      (getetchosts files ipv6Enabled gwyip etchosts).2.bytes =
        servedLines gwyip (KeyLines.lines (text.takeWhile (· ≠ 0))) := by
  rw [getetchosts, hfile]
  refine ⟨rfl, ?_⟩
  show (hostsLoop gwyip _ _).bytes = _
  rw [hostsLoop_firstHost, bytes_hostsLoop, servedLines_tokens]
  rfl

/-- White space does not hide a NUL. -/
theorem zero_mem_stripBytes {line : List UInt8} (h : 0 ∈ line) :
    0 ∈ CStr.stripBytes line :=
  (KeyLines.mem_stripBytes_or h).resolve_right (by decide)

/-- What is served of a text without a NUL has none. -/
theorem zero_not_mem_servedLines {line : List UInt8} (h : 0 ∉ line) :
    0 ∉ servedLines gwyip [line] := by
  rw [servedLines_cons]
  have hline : 0 ∉ servedLine gwyip line := by
    have hstrip : 0 ∉ CStr.stripBytes line := fun h0 =>
      h (CStr.mem_of_mem_stripBytes h0)
    simp only [servedLine, List.mem_append, not_or]
    exact ⟨⟨⟨gwyip.nul_free, by decide⟩, hstrip⟩, by decide⟩
  split
  · simpa [servedLines] using hline
  · simp [servedLines]

/-- A line with a NUL in it is served with the NUL, if it is served. -/
theorem servedLines_nul_iff {init rest : List (List UInt8)}
    {line : List UInt8}
    (hlines : KeyLines.lines text = init ++ line :: rest)
    (hinit : ∀ l ∈ init, 0 ∉ l) (hline : 0 ∈ line) :
    servedLines gwyip (KeyLines.lines (text.takeWhile (· ≠ 0))) =
        servedLines gwyip (KeyLines.lines text) ↔
      localhost.bytes <:+: line ∧
        servedLines gwyip rest =
          servedLines gwyip [line.takeWhile (· ≠ 0)] := by
  rw [KeyLines.lines_upToNul hlines hinit hline, hlines, servedLines_append,
    servedLines_append, List.append_cancel_left_eq]
  by_cases hlocal : localhost.bytes <:+: line
  · have hskip : ¬ ServesLine line := fun h => h.2 hlocal
    rw [servedLines_cons line rest, if_neg hskip, List.nil_append,
      and_iff_right hlocal]
    exact eq_comm
  · refine iff_of_false ?_ fun h => hlocal h.1
    intro heq
    have hserves : ServesLine line :=
      ⟨List.ne_nil_of_mem (zero_mem_stripBytes hline), hlocal⟩
    have hfree : 0 ∉ line.takeWhile (· ≠ 0) := (CStr.upToNul line).nul_free
    have hserved : 0 ∉ servedLines gwyip [line.takeWhile (· ≠ 0)] :=
      zero_not_mem_servedLines hfree
    apply hserved
    rw [heq, servedLines_cons, if_pos hserves]
    have hmem := zero_mem_stripBytes hline
    simp [servedLine, hmem]

/-- **The served hosts.** The lines of the file are served exactly if the file
cannot be read, has no NUL, or has one that makes no difference. -/
theorem getetchosts_serves_iff (files : CStr → Option (List UInt8))
    (ipv6Enabled : Bool) (gwyip etchosts : CStr) :
    HostsServed files ipv6Enabled gwyip etchosts ↔
      ∀ text ∈ files (hostsFile ipv6Enabled), 0 ∈ text →
        NulHarmless gwyip text := by
  unfold HostsServed
  cases hfile : files (hostsFile ipv6Enabled) with
  | none =>
      rw [getetchosts, hfile]
      exact iff_of_true rfl (by simp)
  | some text =>
      have hserved : (getetchosts files ipv6Enabled gwyip etchosts).1 = true ∧
          _ := getetchosts_bytes hfile
      obtain ⟨hresult, hbytes⟩ := hserved
      simp only [Option.mem_def, Option.some.injEq, forall_eq']
      rw [hresult, hbytes, and_iff_right rfl]
      rcases KeyLines.nul_line_cases text with hnul |
        ⟨init, line, rest, hlines, hinit, hline⟩
      · have hall : text.takeWhile (· ≠ 0) = text :=
          CStr.bytes_upToNul_of_free hnul
        rw [hall]
        exact iff_of_true rfl fun h => absurd h hnul
      · have hpart : line <:+: text :=
          (CStr.infix_of_mem_splitOnP (· == 0x0A) text).1 line
            (by rw [← KeyLines.lines, hlines]; simp)
        constructor
        · intro heq _ init line rest hlines hinit hline
          exact (servedLines_nul_iff hlines hinit hline).mp heq
        · intro h
          have hharmless := h (hpart.subset hline) init line rest hlines
            hinit hline
          exact (servedLines_nul_iff hlines hinit hline).mpr hharmless

end

/-- A NUL on the line of the local host. -/
def nulHosts : List UInt8 :=
  CStr.ascii "127.0.0.1 localhost" ++ 0 :: CStr.ascii "\n10.0.0.2 a\n"

/-- The host behind it is not served. -/
theorem getetchosts_serves_fails :
    getetchosts (fun _ => some nulHosts) false (.lit "10.0.0.1") .empty =
        (true, .empty) ∧
      servedLines (.lit "10.0.0.1") (KeyLines.lines nulHosts) =
        CStr.ascii "10.0.0.1 10.0.0.2 a;" ∧
      ¬ HostsServed (fun _ => some nulHosts) false (.lit "10.0.0.1")
        .empty := by
  have hcode : getetchosts (fun _ => some nulHosts) false (.lit "10.0.0.1")
      .empty = (true, .empty) := by decide +kernel
  have hspec : servedLines (.lit "10.0.0.1") (KeyLines.lines nulHosts) =
      CStr.ascii "10.0.0.1 10.0.0.2 a;" := by decide +kernel
  refine ⟨hcode, hspec, ?_⟩
  intro h
  have hbytes := h.2
  rw [hcode, hspec] at hbytes
  exact absurd hbytes (by decide)

/-- A blank line first, the local host, and two more. -/
example : getetchosts
      (fun _ => some
        (CStr.ascii " \n127.0.0.1 localhost\n10.0.0.2 a\n10.0.0.3 b"))
      false (.lit "10.0.0.1") (.lit "null") =
    (true, .lit "10.0.0.1 10.0.0.2 a;10.0.0.1 10.0.0.3 b;") := by
  decide +kernel

end Xupnp.XcalDevice
