import Mathlib.Algebra.Order.BigOperators.Group.List
import Xupnp.XcalDevice.BroadbandGetters

/-!
# What the buffers of the callers hold

The contract of a string getter: where it returns `TRUE`, at most 256 bytes were
stored, and the buffer holds the value that is served, with its NUL. Each way of
filling the buffer keeps it for the strings that are short enough, and so do the
getters (`get_serves_iff`), but `getBaseUrl`, which relies on what was in the
buffer before, and `getIpSubnet`, which reads in pieces.
-/

namespace Xupnp.XcalDevice

open Xupnp.Library

/-- `MAXSIZE` of `xcal-device-main.c` -/
def maxSize : ℕ := 256

/-- The buffer has the value. -/
structure Served (mem : List UInt8) (call : GetterCall) (value : CStr) :
    Prop where
  within : ∀ l ∈ call.writes, l.length ≤ maxSize
  held : CStr.HeldIn maxSize (call.memory mem) value

/-- Where the getter returns `TRUE` the buffer has the value. -/
def Contract (mem : List UInt8) (call : Option GetterCall) (value : CStr) :
    Prop :=
  ∀ c ∈ call, c.result = true → Served mem c value

namespace BroadbandLibrary

/-- The parts of the address that go into `recv_id`. -/
def macParts (lib : BroadbandLibrary) : List CStr :=
  ((lib.eroutermacaddress.tokens isMacDelim).take 6).map CStr.strip

def uid (lib : BroadbandLibrary) : CStr :=
  .lit "ebf5a0a0-1dd1-11b2-a90f-" ++ .concat lib.macParts

/-- What a getter serves. -/
def value (lib : BroadbandLibrary) (mem : List UInt8) : StringGetter → CStr
  | .getBaseUrl => lib.baseUrl
  | .getTrmUrl => lib.trmurl
  | .getGatewayIp => lib.gwyip
  | .getGatewayIpv6 => lib.gwyipv6
  | .getGatewayStbIp => lib.gwystbip
  | .getHostMacAddress =>
      (lib.devConf.hostMacIf.map fun ifname => (lib.hwaddr ifname).text).getD
        .empty
  | .getBcastMacAddress =>
      (lib.devConf.bcastIf.map fun ifname => (lib.hwaddr ifname).text).getD
        .empty
  | .getRecvDevType => lib.recvdevtype
  | .getDeviceType => lib.devicetype
  | .getBuildVersion => lib.buildversion
  | .getSystemsIds => lib.systemids
  | .getRouteDataGateway => lib.dataGatewayIPaddress
  | .getIpSubnet =>
      (lib.route.map fun run => lastSubnet run (.atAddress mem)).getD .empty
  | .getTimeZone => lib.dsgtimezone
  | .getDeviceName => lib.devicename
  | .getModelNumber => lib.devicename
  | .getMake => lib.make
  | .getSerialNum => lib.serialNum
  | .getBcastIf => lib.devConf.bcastIf.getD .empty
  | .getCVPIf => lib.devConf.cvpIf.getD .empty
  | .getCVPXmlFile => lib.devConf.cvpXmlFile.getD .empty
  | .getAccountId => lib.accountId.getD .empty
  | .getReceiverId => lib.uid
  | .getUUID => .lit "uuid:" ++ lib.uid
  | .getDevXmlPath => lib.devConf.devXmlPath.getD .empty
  | .getDevXmlFile refactor =>
      xmlFile (lib.devConf.devXmlPath.getD .empty)
        (if refactor then broadbandDeviceXmlFile
          else lib.devConf.devXmlFile.getD .empty)
  | .getDevKeyPath => lib.devConf.devKeyPath.getD .empty
  | .getDevKeyFile => lib.devConf.devKeyFile.getD .empty
  | .getDevCertPath => lib.devConf.devCertPath.getD .empty
  | .getDevCertFile => lib.devConf.devCertFile.getD .empty

/-- The getter keeps its contract, whatever `outValue` holds before. -/
def Serves (lib : BroadbandLibrary) (mem : List UInt8) (g : StringGetter) :
    Prop :=
  Contract mem (lib.get g) (lib.value mem g)

/-! ## When it does -/

/-- `strcpy_s` stores the string within its bound or refuses it. -/
def Fits (lib : BroadbandLibrary) (src : CStr) : Prop :=
  lib.safeLib = .safec ∨ src.bytes.length < maxSize

/-- The address of the interface has no six parts, or they are not too long. -/
def MacFits (lib : BroadbandLibrary) (n : ℕ) : Prop :=
  6 ≤ (lib.eroutermacaddress.tokens isMacDelim).length →
    (lib.macParts.map fun part => part.bytes.length).sum ≤ n

/-- The states in which a getter keeps its contract. -/
def Keeps (lib : BroadbandLibrary) (mem : List UInt8) : StringGetter → Prop
  | .getBaseUrl => lib.gwyip = .empty ∨ lib.recvId = .empty ∨
      CStr.HeldIn maxSize mem lib.baseUrl
  | .getTrmUrl => lib.Fits lib.trmurl
  | .getGatewayIp => lib.Fits lib.gwyip
  | .getGatewayIpv6 => lib.client = true ∨ lib.Fits lib.gwyipv6
  | .getGatewayStbIp => lib.client = true ∨ lib.Fits lib.gwystbip
  | .getHostMacAddress => True
  | .getBcastMacAddress => True
  | .getRecvDevType => lib.Fits lib.recvdevtype
  | .getDeviceType => lib.Fits lib.devicetype
  | .getBuildVersion => lib.Fits lib.buildversion
  | .getSystemsIds => lib.Fits lib.systemids
  | .getRouteDataGateway => lib.Fits lib.dataGatewayIPaddress
  | .getIpSubnet => ∀ run ∈ lib.route, run.status = 0 →
      (run.lines = [] → 0 ∈ mem.take maxSize) ∧
        ∀ line ∈ run.lines.getLast?, line.text.bytes.length ≤ 2
  | .getTimeZone => lib.Fits lib.dsgtimezone
  | .getDeviceName => lib.Fits lib.devicename
  | .getModelNumber => lib.Fits lib.devicename
  | .getMake => lib.Fits lib.make
  | .getSerialNum => lib.Fits lib.serialNum
  | .getBcastIf => ∀ s ∈ lib.devConf.bcastIf, lib.Fits s
  | .getCVPIf => lib.client = true ∨ ∀ s ∈ lib.devConf.cvpIf, lib.Fits s
  | .getCVPXmlFile =>
      lib.client = true ∨ ∀ s ∈ lib.devConf.cvpXmlFile, lib.Fits s
  | .getAccountId => ∀ id ∈ lib.accountId, id.bytes.length ≤ 23
  | .getReceiverId => lib.safeLib = .safec ∨ lib.MacFits 231
  | .getUUID => lib.MacFits 226
  | .getDevXmlPath => ∀ path ∈ lib.devConf.devXmlPath, lib.Fits path
  | .getDevXmlFile true => lib.devConf.devXmlFile.isSome →
      ∀ path ∈ lib.devConf.devXmlPath, path.bytes.length ≤ 232
  | .getDevXmlFile false => ∀ file ∈ lib.devConf.devXmlFile, file ≠ .empty →
      ∀ path ∈ lib.devConf.devXmlPath,
        path.bytes.length + file.bytes.length ≤ 254
  | .getDevKeyPath => ∀ path ∈ lib.devConf.devKeyPath,
      path.bytes.length < maxSize
  | .getDevKeyFile => ∀ file ∈ lib.devConf.devKeyFile,
      file.bytes.length < maxSize
  | .getDevCertPath => ∀ path ∈ lib.devConf.devCertPath,
      path.bytes.length < maxSize
  | .getDevCertFile => ∀ file ∈ lib.devConf.devCertFile,
      file.bytes.length < maxSize

/-! ## The three ways of copying -/

section Copies

variable {lib : BroadbandLibrary} {mem : List UInt8} {s value : CStr}

theorem contract_some {call : GetterCall} :
    Contract mem (some call) value ↔
      (call.result = true → Served mem call value) := by
  simp [Contract]

theorem contract_none : Contract mem none value := by
  simp [Contract]

theorem contract_refused : Contract mem (some lib.refused) value :=
  contract_some.mpr fun h => Bool.noConfusion h

/-- One string with its NUL is stored. -/
theorem served_terminated {result : Bool} {after : BroadbandLibrary} :
    Served mem ⟨result, [s.terminated], after⟩ value ↔
      value = s ∧ s.bytes.length < maxSize := by
  have hheld : CStr.HeldIn maxSize (store mem s.terminated) value ↔ _ :=
    CStr.heldIn_store_terminated
  constructor
  · intro h
    exact hheld.mp h.held
  · intro h
    refine ⟨List.forall_mem_singleton.mpr ?_, hheld.mpr h⟩
    rw [CStr.length_terminated]
    exact h.2

theorem contract_printed :
    Contract mem (some (lib.printed s)) s ↔ s.bytes.length < maxSize := by
  rw [contract_some, printed, served_terminated]
  simp

theorem contract_copied_short (h : s.bytes.length < maxSize) :
    Contract mem (some (lib.copied s)) value ↔ value = s := by
  have hstored : strcpyS lib.safeLib maxOutvalue s = (s, true) :=
    strcpyS_of_lt h
  rw [contract_some, copied, hstored, served_terminated]
  simp [h]

theorem contract_copied : Contract mem (some (lib.copied s)) s ↔ lib.Fits s := by
  by_cases h : s.bytes.length < maxSize
  · exact iff_of_true ((contract_copied_short h).mpr rfl) (.inr h)
  · unfold Fits
    rw [or_iff_left h, contract_some, copied]
    cases lib.safeLib with
    | safec =>
        have hstored : strcpyS .safec maxOutvalue s = (.empty, false) :=
          strcpyS_of_not_lt h
        rw [hstored]
        simp
    | dummy =>
        show (true = true → Served mem ⟨true, [s.terminated], lib⟩ s) ↔ _
        rw [served_terminated]
        simp [h]

theorem fits_empty : lib.Fits .empty := .inr (by decide)

theorem contract_copiedUnlessEmpty :
    Contract mem (some (lib.copiedUnlessEmpty s)) s ↔ lib.Fits s := by
  unfold copiedUnlessEmpty
  split
  · next h =>
      rw [h]
      exact iff_of_true contract_refused fits_empty
  · exact contract_copied

theorem contract_unlessClient {call : GetterCall} {p : Prop}
    (h : Contract mem (some call) value ↔ p) :
    Contract mem (some (if lib.client then lib.refused else call)) value ↔
      lib.client = true ∨ p := by
  cases lib.client with
  | true => exact iff_of_true contract_refused (.inl rfl)
  | false => simpa using h

theorem contract_strncpied (src : Option CStr) :
    Contract mem (some (lib.strncpied src)) (src.getD .empty) ↔
      ∀ s ∈ src, s.bytes.length < maxSize := by
  cases src with
  | none => exact iff_of_true contract_refused (by simp)
  | some s =>
      rw [strncpied]
      simp only [Option.mem_def, Option.some_inj, forall_eq', Option.getD_some]
      split
      · next h =>
          rw [h]
          exact iff_of_true contract_refused (by decide)
      · rw [contract_some]
        have hheld : CStr.HeldIn maxSize
            (store mem (CStr.padTo maxFileLength s.bytes)) s ↔ _ :=
          CStr.heldIn_store_padTo
        constructor
        · intro h
          exact (hheld.mp (h rfl).held).2
        · intro h _
          refine ⟨List.forall_mem_singleton.mpr ?_, hheld.mpr ⟨rfl, h⟩⟩
          rw [CStr.length_padTo]
          exact le_rfl

theorem contract_map (conf : Option CStr) :
    Contract mem (conf.map lib.copiedUnlessEmpty) (conf.getD .empty) ↔
      ∀ s ∈ conf, lib.Fits s := by
  cases conf with
  | none => exact iff_of_true contract_none (by simp)
  | some s =>
      rw [Option.map_some, Option.getD_some, contract_copiedUnlessEmpty]
      simp

theorem contract_mapUnlessClient (conf : Option CStr) :
    Contract mem (if lib.client then none
        else conf.map lib.copiedUnlessEmpty) (conf.getD .empty) ↔
      lib.client = true ∨ ∀ s ∈ conf, lib.Fits s := by
  cases lib.client with
  | true => exact iff_of_true contract_none (.inl rfl)
  | false => simpa using contract_map conf

theorem contract_copiedIfSet (conf : Option CStr) :
    Contract mem (some (lib.copiedIfSet conf)) (conf.getD .empty) ↔
      ∀ s ∈ conf, lib.Fits s := by
  cases conf with
  | none => exact iff_of_true contract_refused (by simp)
  | some s => exact contract_copiedUnlessEmpty.trans (by simp)

end Copies

/-! ## The address of the interface -/

section Uid

variable {lib : BroadbandLibrary} {mem : List UInt8}

/-- The text of an address has 17 characters. -/
theorem length_text (a : HwAddr) : a.text.bytes.length ≤ 17 :=
  List.length_filter_le _ _

theorem mapM_getElem? {α : Type} {l : List α} {n : ℕ} (h : n ≤ l.length) :
    ((List.range n).mapM fun i => l[i]?) = some (l.take n) := by
  induction n with
  | zero => rfl
  | succ n ih =>
      have hn : n < l.length := h
      rw [List.range_succ, List.mapM_append, ih hn.le, List.take_add_one]
      simp [hn]

theorem foldl_parts (uid : CStr) (parts : List CStr) :
    parts.foldl (fun id part => id ++ part.strip) uid =
      uid ++ .concat (parts.map CStr.strip) := by
  induction parts generalizing uid with
  | nil => exact (CStr.append_empty uid).symm
  | cons part parts ih =>
      rw [List.foldl_cons, ih, List.map_cons, CStr.concat_cons,
        CStr.append_assoc]

/-- An address has no part, too few, or six of them. -/
theorem withUid_cases (lib : BroadbandLibrary)
    (f : BroadbandLibrary → CStr → GetterCall) :
    ((lib.eroutermacaddress.tokens isMacDelim).length < 6 ∧
        (lib.withUid f = none ∨ lib.withUid f = some lib.refused)) ∨
      (6 ≤ (lib.eroutermacaddress.tokens isMacDelim).length ∧
        lib.withUid f = some (f { lib with recvId := lib.uid } lib.uid)) := by
  unfold withUid getUidfromRecvId uid macParts
  cases htokens : lib.eroutermacaddress.tokens isMacDelim with
  | nil => exact .inl ⟨by decide, .inr rfl⟩
  | cons token rest =>
      by_cases hlen : 6 ≤ (token :: rest).length
      · refine .inr ⟨hlen, ?_⟩
        dsimp only
        rw [mapM_getElem? hlen, Option.map_some, foldl_parts]
        rfl
      · refine .inl ⟨not_le.mp hlen, .inl ?_⟩
        have hnone : ((List.range 6).mapM fun i => (token :: rest)[i]?) =
            none := by
          rw [← Option.not_isSome_iff_eq_none, mapM_getElem?_isSome]
          exact hlen
        dsimp only
        rw [hnone]
        rfl

theorem length_concat (l : List CStr) :
    (CStr.concat l).bytes.length =
      (l.map fun part => part.bytes.length).sum := by
  induction l with
  | nil => rfl
  | cons s l ih =>
      rw [CStr.concat_cons, CStr.bytes_append, List.length_append, ih,
        List.map_cons, List.sum_cons]

theorem length_uid (lib : BroadbandLibrary) :
    lib.uid.bytes.length =
      24 + (lib.macParts.map fun part => part.bytes.length).sum := by
  rw [uid, CStr.bytes_append, List.length_append, length_concat]
  rfl

theorem uid_ne_empty (lib : BroadbandLibrary) : lib.uid ≠ .empty := by
  intro h
  have hlen := length_uid lib
  rw [h] at hlen
  have hzero : CStr.empty.bytes.length = 0 := rfl
  omega

/-- The contract of what is done with `recv_id`. -/
theorem contract_withUid {f : BroadbandLibrary → CStr → GetterCall}
    {value : CStr} {p : Prop} {n : ℕ}
    (h : Contract mem (some (f { lib with recvId := lib.uid } lib.uid)) value ↔
      p ∨ (lib.macParts.map fun part => part.bytes.length).sum ≤ n) :
    Contract mem (lib.withUid f) value ↔ p ∨ lib.MacFits n := by
  unfold MacFits
  rcases withUid_cases lib f with ⟨hlen, hcall⟩ | ⟨hlen, hcall⟩
  · refine iff_of_true ?_ (.inr fun hsix => absurd hlen (not_lt.mpr hsix))
    rcases hcall with hcall | hcall
    · rw [hcall]
      exact contract_none
    · rw [hcall]
      exact contract_refused
  · rw [hcall, h]
    simp [hlen]

end Uid

/-! ## The subnet -/

section Subnet

variable {lib : BroadbandLibrary} {mem : List UInt8} {run : RouteRun}

theorem length_of_mem_pieceWrites {piece l : List UInt8}
    (h : l ∈ pieceWrites piece) : l.length ≤ piece.length + 1 := by
  unfold pieceWrites at h
  split at h
  · rcases List.mem_cons.mp h with rfl | h
    · simp
    · rw [List.mem_singleton.mp h]
      simp
  · rw [List.mem_singleton.mp h]
    simp

theorem length_subnet_writes {l : List UInt8}
    (h : l ∈ (subnetPieces run).flatMap pieceWrites) : l.length ≤ maxSize := by
  obtain ⟨piece, hpiece, hl⟩ := List.mem_flatMap.mp h
  have hlen : piece.length ≤ 3 :=
    Stdio.length_of_mem_pieces (by decide) hpiece
  exact (length_of_mem_pieceWrites hl).trans
    ((Nat.add_le_add_right hlen 1).trans (by decide))

/-- The last line is in the buffer if nothing of it was cut. -/
theorem heldIn_subnet {pre : List TextLine} {line : TextLine}
    (h : run.lines = pre ++ [line]) :
    CStr.HeldIn maxSize
        (((subnetPieces run).flatMap pieceWrites).foldl store mem) line.text ↔
      line.text.bytes.length ≤ 2 := by
  obtain ⟨front, last, hpieces, hsuffix, hlen⟩ := subnetPieces_lines h
  have hfree : (0 : UInt8) ∉ last := fun hmem =>
    line.text.nul_free (hsuffix.subset hmem)
  have hwrites : pieceWrites (last ++ [0x0A]) =
      [last ++ [0x0A] ++ [0], (⟨last, hfree⟩ : CStr).terminated] := by
    simp [pieceWrites, CStr.terminated]
  rw [hpieces, List.flatMap_append, List.flatMap_singleton, hwrites,
    List.foldl_append, List.foldl_cons, List.foldl_cons, List.foldl_nil,
    CStr.heldIn_store_terminated, ← eq_line_iff hsuffix hlen]
  constructor
  · rintro ⟨heq, -⟩
    rw [heq]
  · intro heq
    refine ⟨CStr.ext heq.symm, ?_⟩
    show last.length < 256
    omega

theorem contract_subnet :
    Contract mem (lib.get .getIpSubnet) (lib.value mem .getIpSubnet) ↔
      lib.Keeps mem .getIpSubnet := by
  unfold get value Keeps
  cases lib.route with
  | none => exact iff_of_true contract_refused (by simp)
  | some run =>
      simp only [Option.map_some, Option.getD_some, Option.mem_def,
        Option.some_inj, forall_eq']
      rw [contract_some]
      have hserved : ∀ value, Served mem
          ⟨run.status == 0, (subnetPieces run).flatMap pieceWrites, lib⟩
            value ↔
          CStr.HeldIn maxSize
            (((subnetPieces run).flatMap pieceWrites).foldl store mem) value :=
        fun value => ⟨Served.held, fun h =>
          ⟨fun _ => length_subnet_writes, h⟩⟩
      rw [hserved, beq_iff_eq]
      refine forall_congr' fun _ => ?_
      rcases List.eq_nil_or_concat' run.lines with hnil | ⟨pre, line, hline⟩
      · rw [subnetPieces_nil hnil, lastSubnet, hnil]
        simpa using CStr.heldIn_atAddress
      · rw [lastSubnet_append hline, heldIn_subnet hline, hline,
          List.getLast?_append]
        simp

end Subnet

/-! ## Every getter -/

variable {lib : BroadbandLibrary} {mem : List UInt8}

theorem contract_baseUrl :
    Contract mem (lib.get .getBaseUrl) lib.baseUrl ↔
      lib.Keeps mem .getBaseUrl := by
  show Contract mem (some (if _ then _ else _)) _ ↔
    lib.gwyip = .empty ∨ lib.recvId = .empty ∨ _
  split
  · next h =>
      rw [contract_some, or_iff_right h.1, or_iff_right h.2]
      constructor
      · intro hserved
        exact (hserved rfl).held
      · intro hheld _
        exact ⟨by simp, hheld⟩
  · next h =>
      refine iff_of_true contract_refused ?_
      tauto

theorem contract_mac {after : BroadbandLibrary} (a : HwAddr) :
    Contract mem (some (after.copied a.text)) a.text :=
  contract_copied.mpr (.inr ((length_text a).trans_lt (by decide)))

theorem contract_uuid :
    Contract mem (lib.get .getUUID) (.lit "uuid:" ++ lib.uid) ↔
      lib.MacFits 226 := by
  have hprinted : Contract mem
      (some (uuidCall { lib with recvId := lib.uid } lib.uid))
        (.lit "uuid:" ++ lib.uid) ↔ False ∨
      (lib.macParts.map fun part => part.bytes.length).sum ≤ 226 := by
    rw [uuidCall, if_neg (uid_ne_empty lib), contract_printed,
      CStr.bytes_append, List.length_append, length_uid, false_or]
    show 5 + _ < 256 ↔ _
    omega
  have huuid := contract_withUid hprinted
  rwa [false_or] at huuid

theorem contract_receiverId :
    Contract mem (lib.get .getReceiverId) lib.uid ↔
      lib.safeLib = .safec ∨ lib.MacFits 231 := by
  have hcopied : Contract mem
      (some (copiedUnlessEmpty { lib with recvId := lib.uid } lib.uid))
        lib.uid ↔ lib.safeLib = .safec ∨
      (lib.macParts.map fun part => part.bytes.length).sum ≤ 231 := by
    rw [contract_copiedUnlessEmpty]
    refine or_congr_right ?_
    rw [length_uid]
    show 24 + _ < 256 ↔ _
    omega
  exact contract_withUid hcopied

theorem contract_accountId :
    Contract mem (lib.get .getAccountId) (lib.accountId.getD .empty) ↔
      ∀ id ∈ lib.accountId, id.bytes.length ≤ 23 := by
  unfold get
  cases lib.accountId with
  | none => exact iff_of_true contract_refused (by simp)
  | some id =>
      have hshort : (id.takeBytes 23).bytes.length < maxSize := by
        rw [CStr.takeBytes_bytes, List.length_take, maxSize]
        omega
      show Contract mem (some (lib.copied (id.takeBytes 23))) id ↔ _
      rw [contract_copied_short hshort, ← CStr.bytes_injective.eq_iff,
        CStr.takeBytes_bytes, eq_comm, List.take_eq_self_iff]
      simp

theorem length_xmlFile (path file : CStr) :
    (xmlFile path file).bytes.length =
      path.bytes.length + 1 + file.bytes.length := by
  simp only [xmlFile, CStr.bytes_append, List.length_append]
  rfl

/-- A file in the path, if the path is set. -/
theorem contract_xmlFile (path : Option CStr) (file : CStr) :
    Contract mem (path.map fun path => lib.printed (xmlFile path file))
        (xmlFile (path.getD .empty) file) ↔
      ∀ p ∈ path, p.bytes.length + file.bytes.length ≤ 254 := by
  cases path with
  | none => exact iff_of_true contract_none (by simp)
  | some p =>
      rw [Option.map_some, Option.getD_some, contract_printed, length_xmlFile]
      simp only [Option.mem_def, Option.some_inj, forall_eq']
      show _ + 1 + _ < 256 ↔ _
      omega

theorem contract_devXmlFile (refactor : Bool) :
    Contract mem (lib.get (.getDevXmlFile refactor))
        (lib.value mem (.getDevXmlFile refactor)) ↔
      lib.Keeps mem (.getDevXmlFile refactor) := by
  have hfile := @contract_xmlFile lib mem lib.devConf.devXmlPath
  cases hconf : lib.devConf.devXmlFile with
  | none =>
      have hrefused : lib.get (.getDevXmlFile refactor) =
          some lib.refused := by simp [get, hconf]
      rw [hrefused]
      refine iff_of_true contract_refused ?_
      cases refactor <;> simp [Keeps, hconf]
  | some file =>
      cases refactor with
      | true =>
          simp only [get, value, Keeps, hconf, if_pos, hfile]
          have hlen : broadbandDeviceXmlFile.bytes.length = 22 := by decide
          rw [hlen]
          simp
      | false =>
          simp only [get, value, Keeps, hconf, Option.getD_some,
            Bool.false_eq_true, if_false, Option.mem_def, Option.some_inj,
            forall_eq']
          split
          · next h => exact iff_of_true contract_refused (absurd h)
          · next h => rw [hfile]; simp [h]

/-- **What the buffers hold.** -/
theorem get_serves_iff (lib : BroadbandLibrary) (mem : List UInt8)
    (g : StringGetter) : lib.Serves mem g ↔ lib.Keeps mem g := by
  unfold Serves
  cases g with
  | getBaseUrl => exact contract_baseUrl
  | getTrmUrl => exact contract_copiedUnlessEmpty
  | getGatewayIp => exact contract_copiedUnlessEmpty
  | getGatewayIpv6 => exact contract_unlessClient contract_copiedUnlessEmpty
  | getGatewayStbIp => exact contract_unlessClient contract_copiedUnlessEmpty
  | getHostMacAddress =>
      refine iff_of_true ?_ trivial
      unfold get value
      cases lib.client <;> cases lib.devConf.hostMacIf
      · exact contract_refused
      · exact contract_mac _
      · exact contract_refused
      · exact contract_refused
  | getBcastMacAddress =>
      refine iff_of_true ?_ trivial
      unfold get value
      cases lib.devConf.bcastIf
      · exact contract_refused
      · exact contract_mac _
  | getRecvDevType => exact contract_copiedUnlessEmpty
  | getDeviceType => exact contract_copiedUnlessEmpty
  | getBuildVersion => exact contract_copiedUnlessEmpty
  | getSystemsIds => exact contract_copiedUnlessEmpty
  | getRouteDataGateway => exact contract_copiedUnlessEmpty
  | getIpSubnet => exact contract_subnet
  | getTimeZone => exact contract_copiedUnlessEmpty
  | getDeviceName => exact contract_copied
  | getModelNumber => exact contract_copiedUnlessEmpty
  | getMake => exact contract_copiedUnlessEmpty
  | getSerialNum => exact contract_copiedUnlessEmpty
  | getBcastIf => exact contract_map lib.devConf.bcastIf
  | getCVPIf => exact contract_mapUnlessClient lib.devConf.cvpIf
  | getCVPXmlFile => exact contract_mapUnlessClient lib.devConf.cvpXmlFile
  | getAccountId => exact contract_accountId
  | getReceiverId => exact contract_receiverId
  | getUUID => exact contract_uuid
  | getDevXmlPath => exact contract_copiedIfSet lib.devConf.devXmlPath
  | getDevXmlFile refactor => exact contract_devXmlFile refactor
  | getDevKeyPath => exact contract_strncpied lib.devConf.devKeyPath
  | getDevKeyFile => exact contract_strncpied lib.devConf.devKeyFile
  | getDevCertPath => exact contract_strncpied lib.devConf.devCertPath
  | getDevCertFile => exact contract_strncpied lib.devConf.devCertFile

/-- A device that has its addresses, with nothing configured. -/
def plainLibrary : BroadbandLibrary where
  safeLib := .safec
  client := true
  devConf := ⟨none, none, none, none, none, none, none, none, none, none⟩
  url := .empty
  trmurl := .empty
  gwyip := .lit "10.0.0.1"
  gwyipv6 := .empty
  gwystbip := .empty
  systemids := .empty
  dsgtimezone := .empty
  serialNum := .empty
  recvId := .lit "ebf5a0a0-1dd1-11b2-a90f-001122334455"
  hostmacaddress := .empty
  bcastmacaddress := .empty
  eroutermacaddress := .lit "00:11:22:33:44:55"
  devicename := .empty
  buildversion := .empty
  recvdevtype := .empty
  devicetype := .empty
  make := .empty
  dataGatewayIPaddress := .empty
  hwaddr := fun _ => ⟨0, 0x11, 0x22, 0x33, 0x44, 0x55⟩
  accountId := none
  route := none

/-- The URL is put together, and the buffer stays as it was. -/
theorem getBaseUrl_unwritten :
    ¬ plainLibrary.Serves (List.replicate 256 0) .getBaseUrl := by
  intro h
  have hheld := (h _ rfl rfl).held.2
  revert hheld
  decide

/-- The address that is read at the start is short enough. -/
theorem getUUID_serves_of_text {a : HwAddr}
    (h : lib.eroutermacaddress = a.text) : lib.Serves mem .getUUID := by
  refine contract_uuid.mpr fun _ => ?_
  have hstrip : ((lib.macParts).map fun part => part.bytes.length).sum ≤
      (((lib.eroutermacaddress.tokens isMacDelim).take 6).map
        fun part => part.bytes.length).sum := by
    rw [macParts, List.map_map]
    exact List.sum_le_sum fun part _ =>
      (CStr.stripBytes_sublist part.bytes).length_le
  have htake : (((lib.eroutermacaddress.tokens isMacDelim).take 6).map
        fun part => part.bytes.length).sum ≤
      ((lib.eroutermacaddress.tokens isMacDelim).map
        fun part => part.bytes.length).sum :=
    ((List.take_sublist _ _).map _).sum_le_sum fun _ _ => Nat.zero_le _
  have htokens := CStr.sum_length_tokens isMacDelim lib.eroutermacaddress
  have htext := length_text a
  rw [h] at htokens htake hstrip
  omega

end BroadbandLibrary

end Xupnp.XcalDevice
