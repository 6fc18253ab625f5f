import Xupnp.Library.Stdio
import Xupnp.Library.Tokens

/-!
# The subnet of the broadband gateway

`getIpSubnet` reads the output of a route command line by line into the buffer
of the caller. The size it gives to `fgets` is the size of the constant
`MAX_OUTVALUE`, not its value, so a line is read in pieces of three bytes, each
over the one before: `getIpSubnet_serves_iff` says which lines come out whole.
-/

namespace Xupnp.XcalDevice

open Xupnp.Library

/-- A line without its end. -/
structure TextLine where
  text : CStr
  one_line : 0x0A ∉ text.bytes

/-- A run of the route command: the lines that `awk` prints, and what
`v_secure_pclose` returns. -/
structure RouteRun where
  lines : List TextLine
  status : Int32

/-- What is read through the pipe. -/
def RouteRun.output (run : RouteRun) : List UInt8 :=
  Stdio.unlines 0x0A (run.lines.map fun line => line.text.bytes)

/-! ## The code -/

/-- `sizeof (MAX_OUTVALUE)`, the size of an `int` -/
def sizeofMaxOutvalue : ℕ := 4

/-- A new line at the end of `outValue` is overwritten. -/
def stripNewline (outValue : CStr) : CStr :=
  if outValue.bytes.getLast? = some 0x0A then
    outValue.takeBytes (outValue.bytes.length - 1)
  else outValue

/-- What the calls of `fgets` read. -/
def subnetPieces (run : RouteRun) : List (List UInt8) :=
  Stdio.pieces 0x0A (sizeofMaxOutvalue - 1) [] run.output

/-- The loop: `outValue` after each of the pieces. -/
def subnetLoop (outValue : CStr) : List (List UInt8) → CStr
  | [] => outValue
  | piece :: rest => subnetLoop (stripNewline (.ofBytes piece)) rest

/-- `getIpSubnet`: the result and `outValue`. The command is `none` where
`v_secure_popen` fails. -/
def getIpSubnet (command : Option RouteRun) (outValue : CStr) : Bool × CStr :=
  match command with
  | none => (false, outValue)
  | some run => (run.status == 0, subnetLoop outValue (subnetPieces run))

/-! ## The last line -/

/-- The last line, or what was there before if there is none. -/
def lastSubnet (run : RouteRun) (outValue : CStr) : CStr :=
  (run.lines.getLast?.map TextLine.text).getD outValue

/-- Where `getIpSubnet` succeeds it has the last line. -/
def ServesSubnet (command : Option RouteRun) (outValue : CStr) : Prop :=
  ∀ run ∈ command, (getIpSubnet command outValue).1 = true →
    (getIpSubnet command outValue).2 = lastSubnet run outValue

theorem subnetLoop_append (outValue : CStr) (pre : List (List UInt8))
    (piece : List UInt8) :
    subnetLoop outValue (pre ++ [piece]) = stripNewline (.ofBytes piece) := by
  induction pre generalizing outValue with
  | nil => rfl
  | cons x pre ih => exact ih _

/-- The end of a line is stripped. -/
theorem stripNewline_end {l : List UInt8} (h : (0 : UInt8) ∉ l) :
    (stripNewline (.ofBytes (l ++ [0x0A]))).bytes = l := by
  have hbytes : (CStr.ofBytes (l ++ [0x0A])).bytes = l ++ [0x0A] := by
    apply CStr.bytes_ofBytes
    rw [List.mem_append]
    rintro (hl | hend)
    · exact h hl
    · revert hend
      decide
  unfold stripNewline
  rw [hbytes, if_pos (by simp), CStr.takeBytes_bytes, hbytes]
  simp

/-- The last piece is what is left of the last line. -/
theorem subnetPieces_lines {run : RouteRun} {pre : List TextLine}
    {line : TextLine} (h : run.lines = pre ++ [line]) :
    ∃ front last, subnetPieces run = front ++ [last ++ [0x0A]] ∧
      last <:+ line.text.bytes ∧
      last.length = line.text.bytes.length % 3 := by
  have hlines : ∀ l ∈ pre.map fun line => line.text.bytes, 0x0A ∉ l := by
    intro l hl
    obtain ⟨x, -, rfl⟩ := List.mem_map.mp hl
    exact x.one_line
  have houtput : run.output = Stdio.unlines 0x0A
      (pre.map (fun line => line.text.bytes) ++ [line.text.bytes]) := by
    rw [RouteRun.output, h, List.map_append]
    rfl
  rw [subnetPieces, houtput]
  exact Stdio.pieces_lines (n := 3) (by decide) hlines line.one_line

/-- A run that prints nothing leaves nothing to read. -/
theorem subnetPieces_nil {run : RouteRun} (h : run.lines = []) :
    subnetPieces run = [] := by
  rw [subnetPieces, RouteRun.output, h]
  exact Stdio.pieces_nil

/-- What is left of a line is all of it where the line is shorter than a
piece. -/
theorem eq_line_iff {line : TextLine} {last : List UInt8}
    (hsuffix : last <:+ line.text.bytes)
    (hlen : last.length = line.text.bytes.length % 3) :
    last = line.text.bytes ↔ line.text.bytes.length ≤ 2 := by
  constructor
  · rintro rfl
    omega
  · intro hshort
    apply hsuffix.eq_of_length
    omega

/-- A line comes out whole if it is shorter than a piece. -/
theorem subnetLoop_eq_iff {run : RouteRun} {pre : List TextLine}
    {line : TextLine} (h : run.lines = pre ++ [line]) (outValue : CStr) :
    subnetLoop outValue (subnetPieces run) = line.text ↔
      line.text.bytes.length ≤ 2 := by
  obtain ⟨front, last, hpieces, hsuffix, hlen⟩ := subnetPieces_lines h
  have hfree : (0 : UInt8) ∉ last := fun hmem =>
    line.text.nul_free (hsuffix.subset hmem)
  rw [hpieces, subnetLoop_append, ← CStr.bytes_injective.eq_iff,
    stripNewline_end hfree]
  exact eq_line_iff hsuffix hlen

theorem lastSubnet_append {run : RouteRun} {pre : List TextLine}
    {line : TextLine} (h : run.lines = pre ++ [line]) (outValue : CStr) :
    lastSubnet run outValue = line.text := by
  rw [lastSubnet, h, List.getLast?_append]
  rfl

/-- **Which lines are served.** Where the command succeeds, and prints
something, its last line has two characters or fewer. -/
theorem getIpSubnet_serves_iff (command : Option RouteRun) (outValue : CStr) :
    ServesSubnet command outValue ↔
      ∀ run ∈ command, run.status = 0 →
        ∀ line ∈ run.lines.getLast?, line.text.bytes.length ≤ 2 := by
  cases command with
  | none => simp [ServesSubnet]
  | some run =>
      have hserves : ServesSubnet (some run) outValue ↔ (run.status = 0 →
          subnetLoop outValue (subnetPieces run) =
            lastSubnet run outValue) := by
        simp [ServesSubnet, getIpSubnet]
      rw [hserves]
      simp only [Option.mem_def, Option.some_inj, forall_eq']
      refine forall_congr' fun _ => ?_
      rcases List.eq_nil_or_concat' run.lines with hnil | ⟨pre, line, hline⟩
      · rw [subnetPieces_nil hnil, lastSubnet, hnil]
        simp [subnetLoop]
      · rw [lastSubnet_append hline, subnetLoop_eq_iff hline, hline,
          List.getLast?_append]
        simp

/-- A subnet of which the last two digits are served. -/
theorem getIpSubnet_cut : ¬ ServesSubnet
    (some ⟨[⟨.lit "10.0.0.0/24", by decide⟩], 0⟩) .empty := by
  intro h
  have hserved := h _ rfl rfl
  revert hserved
  decide

end Xupnp.XcalDevice
