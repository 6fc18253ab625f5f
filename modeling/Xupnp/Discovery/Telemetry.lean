import Xupnp.Discovery.Steps

/-!
# The telemetry event of a publication

With `ENABLE_FEATURE_TELEMETRY2_0` a publication also reports the address and
the type of every listed device that is not a broadband one. The report is put
together without a bound and copied into a buffer of 4096 bytes, and the length
of the report is the bound of the copy: `telemetryBuff_in_bounds_iff`.
-/

namespace Xupnp.Discovery

open Xupnp.Library

/-! ## The report -/

/-- `"%s,%s,"` -/
def logEntry (gwdata : GwyDeviceData) : CStr :=
  gwdata.bcastmacaddress ++ .lit "," ++ gwdata.devicetype ++ .lit ","

/-- What a round of the loop adds to the report. -/
def logDevice (logDevicesList : CStr) (gwdata : GwyDeviceData) : CStr :=
  if gwdata.recvdevtype ≠ .lit "broadband" then
    logDevicesList ++ logEntry gwdata
  else logDevicesList

/-- The loop of `sendDiscoveryResult`, with its report. -/
def publishLogged (cfg : Settings) : Publication → CStr → List GwyDeviceData →
    Publication × List GwyDeviceData × CStr
  | p, logDevicesList, [] => (p, [], logDevicesList)
  | p, logDevicesList, d :: ds =>
      let logDevicesList := logDevice logDevicesList d
      let (p, d) := publishDevice cfg p d
      let (p, ds, logDevicesList) := publishLogged cfg p logDevicesList ds
      (p, d :: ds, logDevicesList)

/-- `g_string_truncate (logDevicesList, logDevicesList->len-1)`, if there is
anything to cut. -/
def cutLast (logDevicesList : CStr) : CStr :=
  if logDevicesList.bytes.length ≠ 0 then
    logDevicesList.takeBytes (logDevicesList.bytes.length - 1)
  else logDevicesList

/-- The report of a publication. -/
def logDevicesList (cfg : Settings) (io : Io) (s : XState) : CStr :=
  let s := if s.bSerialNum then s else getserialnum io s
  cutLast (publishLogged cfg ⟨true, true, s⟩ .empty s.xdevlist).2.2

/-! ## The buffer -/

/-- `sizeof (telemetryBuff)` -/
def telemetryBuffSize : ℕ := 4096

/-- `strncpy (dest, src, n)` into a buffer of `k` bytes; none if it writes
behind the buffer. -/
def strncpyInto {k : ℕ} (dest : CStr.Buffer k) (src : CStr) (n : ℕ) :
    Option (CStr.Buffer k) :=
  if h : n ≤ k then
    some ⟨CStr.padTo n src.bytes ++ dest.1.drop n, by
      rw [List.length_append, CStr.length_padTo, List.length_drop, dest.2]
      omega⟩
  else none

/-- `telemetryBuff` when the event is sent. -/
def telemetryBuff (logDevicesList : CStr) :
    Option (CStr.Buffer telemetryBuffSize) :=
  strncpyInto (CStr.strncpy telemetryBuffSize []) logDevicesList
    logDevicesList.bytes.length

/-- The buffer holds the whole report and its end. -/
def Terminated (logDevicesList : CStr) : Prop :=
  ∃ b, telemetryBuff logDevicesList = some b ∧ (0 : UInt8) ∈ b.1 ∧
    b.chars = logDevicesList.bytes

/-- What the listed devices take in the report. -/
def reportLength (ds : List GwyDeviceData) : ℕ :=
  ((ds.filter (·.recvdevtype ≠ .lit "broadband")).map fun d =>
    d.bcastmacaddress.bytes.length + d.devicetype.bytes.length + 2).sum

section Report

variable (cfg : Settings) (io : Io) (s : XState)

/-- Reporting does not disturb the publication. -/
theorem publishLogged_publishDevices (p : Publication) (log : CStr)
    (ds : List GwyDeviceData) :
    ((publishLogged cfg p log ds).1, (publishLogged cfg p log ds).2.1) =
      publishDevices cfg p ds := by
  induction ds generalizing p log with
  | nil => rfl
  | cons d ds ih =>
      have ih := ih (publishDevice cfg p d).1 (logDevice log d)
      show ((publishLogged cfg (publishDevice cfg p d).1 (logDevice log d) ds).1,
        (publishDevice cfg p d).2 :: (publishLogged cfg (publishDevice cfg p d).1
          (logDevice log d) ds).2.1) =
        ((publishDevices cfg (publishDevice cfg p d).1 ds).1,
          (publishDevice cfg p d).2 ::
            (publishDevices cfg (publishDevice cfg p d).1 ds).2)
      rw [← ih]

theorem length_logEntry (d : GwyDeviceData) : (logEntry d).bytes.length =
    d.bcastmacaddress.bytes.length + d.devicetype.bytes.length + 2 := by
  have hcomma : (CStr.lit ",").bytes.length = 1 := rfl
  rw [logEntry]
  simp only [CStr.bytes_append, List.length_append, hcomma]
  omega

/-- A round adds what its record takes. -/
theorem length_logDevice (log : CStr) (d : GwyDeviceData) :
    (logDevice log d).bytes.length = log.bytes.length + reportLength [d] := by
  rw [logDevice, reportLength]
  by_cases h : d.recvdevtype = .lit "broadband"
  · rw [if_neg (not_not.mpr h), List.filter_cons_of_neg (by simp [h])]
    rfl
  · rw [if_pos h, List.filter_cons_of_pos (by simp [h]), CStr.bytes_append,
      List.length_append, length_logEntry]
    rfl

theorem reportLength_cons (d : GwyDeviceData) (ds : List GwyDeviceData) :
    reportLength (d :: ds) = reportLength [d] + reportLength ds := by
  rw [reportLength, reportLength, reportLength, ← List.sum_append,
    ← List.map_append, ← List.filter_append, List.singleton_append]

/-- The loop adds what the records take. -/
theorem length_publishLogged (p : Publication) (log : CStr)
    (ds : List GwyDeviceData) :
    (publishLogged cfg p log ds).2.2.bytes.length =
      log.bytes.length + reportLength ds := by
  induction ds generalizing p log with
  | nil => rfl
  | cons d ds ih =>
      calc (publishLogged cfg p log (d :: ds)).2.2.bytes.length
          = (publishLogged cfg (publishDevice cfg p d).1 (logDevice log d)
              ds).2.2.bytes.length := rfl
        _ = (logDevice log d).bytes.length + reportLength ds := ih _ _
        _ = log.bytes.length + reportLength [d] + reportLength ds := by
          rw [length_logDevice]
        _ = log.bytes.length + reportLength (d :: ds) := by
          rw [Nat.add_assoc, ← reportLength_cons]

theorem length_cutLast (log : CStr) :
    (cutLast log).bytes.length = log.bytes.length - 1 := by
  rw [cutLast]
  split
  · rw [CStr.takeBytes_bytes, List.length_take]
    omega
  · omega

/-- The number of bytes copied: without the last comma. -/
theorem length_logDevicesList :
    (logDevicesList cfg io s).bytes.length = reportLength s.xdevlist - 1 := by
  have hserial : (if s.bSerialNum then s else getserialnum io s).xdevlist =
      s.xdevlist := getserialnum_keeps (fun _ _ => rfl) io s
  show (cutLast _).bytes.length = _
  rw [length_cutLast, length_publishLogged, hserial]
  show 0 + _ - 1 = _
  rw [Nat.zero_add]

/-- A report shorter than the buffer leaves the zeros behind it. -/
theorem terminated_iff (log : CStr) :
    Terminated log ↔ log.bytes.length ≤ telemetryBuffSize - 1 := by
  have hsize : telemetryBuffSize = 4096 := rfl
  have hzero : (CStr.strncpy telemetryBuffSize []).1 =
      List.replicate telemetryBuffSize 0 := rfl
  have hpad : CStr.padTo log.bytes.length log.bytes = log.bytes := by
    rw [CStr.padTo, List.take_length, Nat.sub_self]
    exact List.append_nil _
  constructor
  · rintro ⟨b, hb, hmem, -⟩
    unfold telemetryBuff strncpyInto at hb
    split at hb
    · rename_i hle
      obtain rfl := Option.some.inj hb
      by_contra hlong
      have hfull : log.bytes.length = telemetryBuffSize := by omega
      dsimp only at hmem
      rw [hpad, hzero, hfull, List.drop_replicate, Nat.sub_self] at hmem
      exact log.nul_free (by simpa using hmem)
    · cases hb
  · intro hle
    have hfit : log.bytes.length ≤ telemetryBuffSize := by omega
    have hrest : telemetryBuffSize - log.bytes.length ≠ 0 := by omega
    refine ⟨_, dif_pos hfit, ?_, ?_⟩
    · show 0 ∈ CStr.padTo _ _ ++ List.drop _ _
      rw [hzero, List.drop_replicate]
      exact List.mem_append_right _ (List.mem_replicate.mpr ⟨hrest, rfl⟩)
    · show (CStr.padTo _ _ ++ List.drop _ _).takeWhile (· ≠ 0) = _
      rw [hzero, List.drop_replicate, hpad]
      have hpadded : log.bytes ++
          List.replicate (telemetryBuffSize - log.bytes.length) 0 =
            CStr.padTo telemetryBuffSize log.bytes := by
        rw [CStr.padTo, List.take_of_length_le hfit]
      rw [hpadded, CStr.takeWhile_padTo log.nul_free,
        List.take_of_length_le hfit]

end Report

/-! ## The result -/

/-- **Result.** The copy is of at most 4095 bytes, and the buffer stays
terminated and in bounds, exactly if the listed devices take at most 4096. -/
theorem telemetryBuff_in_bounds_iff (cfg : Settings) (io : Io) (s : XState) :
    ((logDevicesList cfg io s).bytes.length ≤ 4095 ↔
      reportLength s.xdevlist ≤ 4096) ∧
    (Terminated (logDevicesList cfg io s) ↔ reportLength s.xdevlist ≤ 4096) := by
  have hlen : (logDevicesList cfg io s).bytes.length ≤ 4095 ↔
      reportLength s.xdevlist ≤ 4096 := by
    rw [length_logDevicesList]
    omega
  exact ⟨hlen, (terminated_iff _).trans hlen⟩

/-- A client with an address of 17 bytes and a type of five. -/
def loggedClient (n : ℕ) : GwyDeviceData :=
  { initGwydata with
    serialNum := .unsigned n
    bcastmacaddress := .lit "00:11:22:33:44:55"
    devicetype := .lit "XI3v2" }

theorem reportLength_loggedClients (l : List ℕ) :
    reportLength (l.map loggedClient) = 24 * l.length := by
  induction l with
  | nil => rfl
  | cons n l ih =>
      have hone : reportLength [loggedClient n] = 24 := rfl
      rw [List.map_cons, reportLength_cons, hone, ih, List.length_cons]
      omega

/-- 171 of them. -/
def manyClients : XState :=
  { startState none with xdevlist := (List.range 171).map loggedClient }

/-- The report on 171 clients runs over the buffer. -/
theorem telemetryBuff_in_bounds_fails :
    (logDevicesList routeSettings quietIo manyClients).bytes.length = 4103 ∧
      telemetryBuff (logDevicesList routeSettings quietIo manyClients) =
        none := by
  have hreport : reportLength manyClients.xdevlist = 4104 := by
    show reportLength ((List.range 171).map loggedClient) = _
    rw [reportLength_loggedClients, List.length_range]
  have hlen : (logDevicesList routeSettings quietIo manyClients).bytes.length =
      4103 := by
    rw [length_logDevicesList, hreport]
  have hlong : ¬ (logDevicesList routeSettings quietIo
      manyClients).bytes.length ≤ telemetryBuffSize := by
    rw [hlen]
    decide
  refine ⟨hlen, ?_⟩
  rw [telemetryBuff, strncpyInto, dif_neg hlong]

end Xupnp.Discovery
