import Xupnp.Library.Shell
import Xupnp.Discovery.Trace
import Xupnp.Discovery.Steps

/-!
# The command of the gateway script

`sendDiscoveryResult` puts the arguments of the gateway script between double
quotes as they stand and gives the text to a shell.
`sendDiscoveryResult_commands_iff` says when the shell runs the script with
these arguments: when every one of them means itself between double quotes.
The gate in front of the call does not see to that.
-/

namespace Xupnp.Discovery

open Xupnp.Library

/-- What the shell is meant to run: the script, with the eight arguments. -/
def setupWords (cfg : Settings) (d : GwyDeviceData) : List Shell.Text :=
  cfg.gwSetupFile.bytes :: (gwRouteArgs cfg d).map CStr.bytes

/-- The script has a name and its arguments mean themselves between double
quotes. -/
def SetupQuotable (cfg : Settings) (d : GwyDeviceData) : Prop :=
  Shell.Name cfg.gwSetupFile.bytes ∧
    ∀ arg ∈ gwRouteArgs cfg d, Shell.quotable arg.bytes = true

section Read

/-- The arguments as they are written. -/
def quotedArgs (args : List CStr) : Shell.Text :=
  args.flatMap fun arg => (quotedArg arg).bytes

theorem bytes_quotedArg (arg : CStr) :
    (quotedArg arg).bytes = 0x20 :: 0x22 :: (arg.bytes ++ [0x22]) := by
  have hopen : (CStr.lit " \"").bytes = [0x20, 0x22] := by decide
  have hclose : (CStr.lit "\"").bytes = [0x22] := by decide
  rw [quotedArg, CStr.bytes_append, CStr.bytes_append, hopen, hclose]
  rfl

theorem quotedArgs_cons (arg : CStr) (args : List CStr) :
    quotedArgs (arg :: args) =
      0x20 :: 0x22 :: (arg.bytes ++ 0x22 :: quotedArgs args) := by
  simp [quotedArgs, bytes_quotedArg]

theorem bytes_gwRouteParam (cfg : Settings) (d : GwyDeviceData) :
    (gwRouteParam cfg d).bytes =
      cfg.gwSetupFile.bytes ++ quotedArgs (gwRouteArgs cfg d) := by
  have hfold : ∀ (args : List CStr) (s : CStr),
      (args.foldl (fun s arg => s ++ quotedArg arg) s).bytes =
        s.bytes ++ quotedArgs args := by
    intro args
    induction args with
    | nil => simp [quotedArgs]
    | cons arg args ih =>
        intro s
        rw [List.foldl_cons, ih, CStr.bytes_append, List.append_assoc]
        rfl
  exact hfold _ _

theorem atEnd_quotedArgs (args : List CStr) :
    Shell.AtEnd (quotedArgs args) := by
  cases args with
  | nil => exact Or.inl rfl
  | cons arg args => exact Or.inr ⟨_, quotedArgs_cons arg args⟩

/-- Each argument is read as itself exactly if it means itself. -/
theorem accepts_quotedArgs (args : List CStr) (words : List Shell.Text)
    (w : Shell.Text) :
    Shell.reader.Accepts (.word words w .bare) (quotedArgs args)
        (words ++ w :: args.map CStr.bytes) ↔
      ∀ arg ∈ args, Shell.quotable arg.bytes = true := by
  induction args generalizing words w with
  | nil => exact iff_of_true rfl (by simp)
  | cons arg args ih =>
      have hnext := ih (words ++ [w]) arg.bytes
      have hquoted := Shell.accepts_quoted (words ++ [w]) arg.bytes
        (args.map CStr.bytes) (atEnd_quotedArgs args)
      have hwords : words ++ w :: (arg :: args).map CStr.bytes =
          words ++ [w] ++ arg.bytes :: args.map CStr.bytes := by simp
      rw [quotedArgs_cons, hwords,
        Reader.accepts_cons (y := .between (words ++ [w])) rfl,
        Reader.accepts_cons (y := .word (words ++ [w]) [] .double) rfl,
        hquoted, hnext]
      simp

/-- **When the shell runs what is meant.** -/
theorem command_gwRouteParam_iff (cfg : Settings) (d : GwyDeviceData) :
    Shell.command (gwRouteParam cfg d).bytes = some (setupWords cfg d) ↔
      SetupQuotable cfg d := by
  have hargs : gwRouteArgs cfg d = d.gwyip :: (gwRouteArgs cfg d).tail := rfl
  have hquoted := Shell.accepts_quoted [cfg.gwSetupFile.bytes] d.gwyip.bytes
    ((gwRouteArgs cfg d).tail.map CStr.bytes)
    (atEnd_quotedArgs (gwRouteArgs cfg d).tail)
  have hrest := accepts_quotedArgs (gwRouteArgs cfg d).tail
    [cfg.gwSetupFile.bytes] d.gwyip.bytes
  rw [bytes_gwRouteParam, hargs, quotedArgs_cons]
  refine Shell.accepts_name.trans (and_congr_right' ?_)
  rw [Reader.accepts_cons (y := .word [cfg.gwSetupFile.bytes] [] .double) rfl]
  refine hquoted.trans ((and_congr_right' hrest).trans ?_)
  rw [hargs]
  simp

end Read

/-- **The commands of a publication.** Every text given to the shell is read as
the script with its eight arguments, exactly when these can be quoted as they
stand, in each of the first two listed records that pass the gate. -/
theorem sendDiscoveryResult_commands_iff (cfg : Settings) (io : Io)
    (s : XState) :
    (∀ c, Effect.gwSetup c ∈
        (sendDiscoveryResult cfg io s).trace.drop s.trace.length →
      Shell.command (gwRouteParam cfg c).bytes = some (setupWords cfg c)) ↔
      ∀ c ∈ setupRecords cfg 2 s.xdevlist, SetupQuotable cfg c := by
  have hmem : ∀ c, Effect.gwSetup c ∈
      (sendDiscoveryResult cfg io s).trace.drop s.trace.length ↔
        c ∈ setupRecords cfg 2 s.xdevlist := by
    intro c
    rw [sendDiscoveryResult_setups, List.drop_left]
    simp
  apply forall_congr'
  intro c
  rw [hmem, command_gwRouteParam_iff]

/-- A gateway whose device type closes the quotes around it. -/
def forgedType : GwyDeviceData :=
  { initGwydata with
    serialNum := .lit "A"
    isgateway := true
    gwyip := .lit "10.0.0.2"
    devicetype := .lit "XG1\" \"x" }

/-- It passes the gate, and the script gets a ninth argument. -/
theorem updateGwylist_forged_argument :
    ∃ c, Effect.gwSetup c ∈ (updateGwylist routeSettings quietIo forgedType
        (startState none)).trace ∧
      Shell.command (gwRouteParam routeSettings c).bytes =
        some (["/lib/rdk/gwSetup.sh", "10.0.0.2", "", "", "eth1", "50", "",
          "", "XG1", "x"].map CStr.ascii) ∧
      Shell.command (gwRouteParam routeSettings c).bytes ≠
        some (setupWords routeSettings c) := by
  refine ⟨checked forgedType, ?_, by decide, by decide⟩
  have htrace : (updateGwylist routeSettings quietIo forgedType
      (startState none)).trace = [.gwSetup (checked forgedType)] := rfl
  rw [htrace]
  exact List.mem_singleton_self _

end Xupnp.Discovery
