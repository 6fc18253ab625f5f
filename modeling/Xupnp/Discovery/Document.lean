import Mathlib.Data.List.Forall2
import Xupnp.Library.JsonLines
import Xupnp.Discovery.Steps

/-!
# The published document

`sendDiscoveryResult` writes JSON by hand, with the fields between quotes as
they stand. `listedMembers` says which member stands for which field, and
`sendDiscoveryResult_parse_iff` when a reader gets back what is listed: when
every field that is printed reads as the field its member is named after.
-/

namespace Xupnp.Discovery

open Xupnp.Library

/-! ## What the document is meant to say -/

/-- A member of a device's object: the field it is named after, and which
records show it. -/
structure Member where
  name : String
  field : GwyDeviceData → CStr
  present : GwyDeviceData → Bool

/-- The device type names a client. -/
def isXI (d : GwyDeviceData) : Bool :=
  d.devicetype.strip.containsCase (.lit "XI")

def isBroadband (d : GwyDeviceData) : Bool := d.recvdevtype = .lit "broadband"

def isHybrid (d : GwyDeviceData) : Bool := d.recvdevtype = .lit "hybrid"

/-- The members of the objects in `xmediagateways`. -/
def listedMembers : List Member :=
  let always : GwyDeviceData → Bool := fun _ => true
  let identified : GwyDeviceData → Bool := fun d => d.sproxyI
  let gateway : GwyDeviceData → Bool := fun d => !isXI d
  let video : GwyDeviceData → Bool := fun d => !isXI d && !isBroadband d
  [⟨"sno", (·.serialNum), always⟩,
    ⟨"isgateway", fun d => yesNo d.isgateway, always⟩,
    ⟨"deviceName", (·.devicename), always⟩,
    ⟨"recvDevType", (·.recvdevtype), always⟩,
    ⟨"DevType", (·.devicetype), always⟩,
    ⟨"bcastMacAddress", (·.bcastmacaddress), always⟩,
    ⟨"accountId", (·.accountid), identified⟩,
    ⟨"modelNumber", (·.modelnumber), identified⟩,
    ⟨"modelClass", (·.modelclass), identified⟩,
    ⟨"make", (·.make), identified⟩,
    ⟨"softwareRevision", (·.softwarerevision), identified⟩,
    ⟨"hardwareRevision", (·.hardwarerevision),
      fun d => d.sproxyI && !isBroadband d⟩,
    ⟨"managementUrl", (·.managementurl),
      fun d => d.sproxyI && !isBroadband d⟩,
    ⟨"buildVersion", (·.buildversion), fun d => !d.sproxyI⟩,
    ⟨"gatewayip", (·.gwyip), gateway⟩,
    ⟨"gatewayipv6", (·.gwyipv6), gateway⟩,
    ⟨"hostMacAddress", (·.hostmacaddress), gateway⟩,
    ⟨"IPSubNet", (·.ipSubNet), fun d => !isXI d && !isHybrid d⟩,
    ⟨"gatewayStbIP", (·.gatewaystbip), video⟩,
    ⟨"ipv6Prefix", fun d => d.ipv6prefix, video⟩,
    ⟨"timezone", (·.dsgtimezone), video⟩,
    ⟨"rawoffset", fun d => .decimal d.rawoffset, video⟩,
    ⟨"dstoffset", fun d => .decimal d.dstoffset, video⟩,
    ⟨"dstsavings", fun d => .decimal d.dstsavings, video⟩,
    ⟨"usesdaylighttime", fun d => yesNo d.usesdaylighttime, video⟩,
    ⟨"requiresTRM",
      fun d => if d.requirestrm then .lit "true" else .lit "false", video⟩,
    ⟨"baseTrmUrl", (·.basetrmurl), video⟩,
    ⟨"systemids", (·.systemids), video⟩,
    ⟨"playbackUrl", (·.playbackurl), video⟩,
    ⟨"dnsconfig", (·.dnsconfig), video⟩,
    ⟨"hosts", (·.etchosts), video⟩,
    ⟨"dataGatewayIPaddress", (·.dataGatewayIPaddress),
      fun d => isXI d || d.sproxyI⟩,
    ⟨"clientip", (·.clientip), fun d => isXI d || d.sproxyI⟩,
    ⟨"receiverid", (·.receiverid), always⟩]

/-- The members of a record. -/
def membersOf (d : GwyDeviceData) : List Member :=
  listedMembers.filter (·.present d)

def Member.value (m : Member) (d : GwyDeviceData) : Json.Text × Json.Value :=
  ((CStr.lit m.name).bytes, .str (m.field d).bytes)

/-- An object with the stored fields as its members, in any order. -/
def DescribesDevice (d : GwyDeviceData) (o : Json.Value) : Prop :=
  ∃ members, o = .obj members ∧
    members.Perm ((membersOf d).map (·.value d))

/-- One object for each record, in the order of the list. -/
def Describes (ds : List GwyDeviceData) (J : Json.Value) : Prop :=
  ∃ objects, J = .obj [((CStr.lit "xmediagateways").bytes, .arr objects)] ∧
    List.Forall₂ DescribesDevice ds objects

/-! ## When it does -/

/-- Between quotes the text reads as `v`. -/
def ReadsAs (printed v : CStr) : Prop :=
  Utf8.Valid printed.bytes ∧ Json.Body printed.bytes v.bytes

/-- The text can stand between quotes as it is. -/
def Printable (v : CStr) : Prop :=
  Utf8.Valid v.bytes ∧ ∀ b ∈ v.bytes, Json.Plain b

theorem readsAs_self_iff (v : CStr) : ReadsAs v v ↔ Printable v :=
  and_congr_right fun _ => Json.body_self_iff

/-- The object of this record is right. `softwareRevision` is printed from
`buildversion`, every other member from the field it is named after. -/
def Shown (d : GwyDeviceData) : Prop :=
  (∀ m ∈ membersOf d, m.name ≠ "softwareRevision" → Printable (m.field d)) ∧
    (d.sproxyI = true → ReadsAs d.buildversion d.softwarerevision)

/-- What is printed in a member. -/
def Member.printed (m : Member) (d : GwyDeviceData) : CStr :=
  if m.name = "softwareRevision" then d.buildversion else m.field d

/-- The printer prints the members of the record. -/
theorem deviceMembers_perm (d : GwyDeviceData) :
    (deviceMembers d).Perm
      ((membersOf d).map fun m => (m.name, m.printed d)) := by
  have hne : CStr.lit "broadband" ≠ CStr.lit "hybrid" := by decide
  -- A client's last members are printed in another order.
  have hswap : ∀ a b c : String × CStr, [a, b, c].Perm [b, a, c] :=
    fun a b c => .swap b a [c]
  cases hi : d.sproxyI <;>
    cases hx : d.devicetype.strip.containsCase (.lit "XI") <;>
    by_cases hb : d.recvdevtype = .lit "broadband" <;>
    by_cases hh : d.recvdevtype = .lit "hybrid" <;>
    simp [deviceMembers, membersOf, listedMembers, Member.printed, isXI,
      isBroadband, isHybrid, hi, hx, hb, hh, hne, hne.symm, hswap]

/-! ## Names -/

/-- A name that needs no escaping. -/
def PlainName (n : String) : Prop :=
  (CStr.lit n).bytes.all (fun b => Json.Plain b ∧ Utf8.isAscii b) = true

instance (n : String) : Decidable (PlainName n) :=
  inferInstanceAs (Decidable (_ = _))

theorem PlainName.plain {n : String} (hn : PlainName n) :
    ∀ b ∈ (CStr.lit n).bytes, Json.Plain b := fun b hb =>
  (of_decide_eq_true (List.all_eq_true.mp hn b hb)).1

theorem PlainName.ascii {n : String} (hn : PlainName n) :
    (CStr.lit n).bytes.all Utf8.isAscii = true :=
  List.all_eq_true.mpr fun b hb =>
    (of_decide_eq_true (List.all_eq_true.mp hn b hb)).2

/-- The names of an object's members are plain. -/
theorem deviceMembers_plain (d : GwyDeviceData) :
    ∀ n ∈ (deviceMembers d).map Prod.fst, PlainName n := by
  unfold deviceMembers
  split_ifs <;> simp only [List.map_append, List.map_cons, List.map_nil] <;>
    decide

/-- No name occurs twice in an object. -/
theorem deviceMembers_nodup (d : GwyDeviceData) :
    ((deviceMembers d).map Prod.fst).Nodup := by
  unfold deviceMembers
  split_ifs <;> simp only [List.map_append, List.map_cons, List.map_nil] <;>
    decide

/-! ## Reading what is printed -/

/-- A member as it is read: its name, and the text its body stands for. -/
def readMember (m : String × CStr) : Json.Text × Json.Value :=
  ((CStr.lit m.1).bytes, .str (Json.bodyText m.2.bytes))

/-- What is printed between the quotes can be read. -/
def IsBody (v : CStr) : Prop := Json.Body v.bytes (Json.bodyText v.bytes)

def readDevice (d : GwyDeviceData) : Json.Value :=
  .obj ((deviceMembers d).map readMember)

section Read

variable {st : List Json.Frame} {rest : Json.Text} {J : Json.Value}

theorem bytes_printMember (n : String) (v : CStr) :
    (printMember (n, v)).bytes =
      0x22 :: ((CStr.lit n).bytes ++ [0x22, 0x3A, 0x22])
        ++ (v.bytes ++ [0x22]) := by
  have hquote : (CStr.lit "\"").bytes = [0x22] := by decide
  have hcolon : (CStr.lit "\":\"").bytes = [0x22, 0x3A, 0x22] := by decide
  simp [printMember, hquote, hcolon]

/-- One member. -/
theorem runFrom_printMember {n : String} (hn : PlainName n) {v : CStr}
    (hv : IsBody v) (members : List (Json.Text × Json.Value)) :
    runFrom Json.step (.nextName members, st) (printMember (n, v)).bytes =
      some (.done (.str (Json.bodyText v.bytes)),
        .obj members (CStr.lit n).bytes :: st) := by
  have hbody : runFrom Json.step
      (.inString ⟨[], .none⟩, .obj members (CStr.lit n).bytes :: st) v.bytes =
      some (.inString ⟨Json.bodyText v.bytes, .none⟩,
        .obj members (CStr.lit n).bytes :: st) :=
    Json.runFrom_body .inString (fun _ _ hend => if_neg hend) hv
  rw [bytes_printMember, runFrom_append, Json.runFrom_name hn.plain,
    Option.bind_some, runFrom_append, hbody]
  rfl

/-- The members of an object, and its closing brace. -/
theorem runFrom_printMembers (st : List Json.Frame)
    {ms : List (String × CStr)} (hne : ms ≠ [])
    (hnames : ∀ n ∈ ms.map Prod.fst, PlainName n) (hms : ∀ m ∈ ms, IsBody m.2)
    (done : List (Json.Text × Json.Value)) :
    runFrom Json.step (.nextName done, st) (printMembers ms).bytes =
      some (.done (.obj (done ++ ms.map readMember)), st) := by
  induction ms generalizing done with
  | nil => exact absurd rfl hne
  | cons m ms ih =>
      obtain ⟨n, v⟩ := m
      have hn : PlainName n := hnames n (by simp)
      have hv : IsBody v := hms (n, v) (by simp)
      cases ms with
      | nil =>
          have hclose : (CStr.lit "\n\t\t\x7d").bytes =
              [0x0A, 0x09, 0x09, 0x7D] := by decide
          rw [printMembers, CStr.bytes_append, runFrom_append,
            runFrom_printMember hn hv, hclose]
          rfl
      | cons m' ms =>
          have hsep : (CStr.lit ",\n\t\t\t").bytes =
              [0x2C, 0x0A, 0x09, 0x09, 0x09] := by decide
          have hrest := ih (by simp)
            (fun n hn => hnames n (List.mem_cons_of_mem _ hn))
            (fun m hm => hms m (List.mem_cons_of_mem _ hm))
            (done ++ [readMember (n, v)])
          have hnext : runFrom Json.step
              (.done (.str (Json.bodyText v.bytes)),
                .obj done (CStr.lit n).bytes :: st)
              [0x2C, 0x0A, 0x09, 0x09, 0x09] =
              some (.nextName (done ++ [readMember (n, v)]), st) := rfl
          rw [printMembers, CStr.bytes_append, CStr.bytes_append,
            List.append_assoc, runFrom_append, runFrom_printMember hn hv,
            Option.bind_some, hsep, runFrom_append, hnext, Option.bind_some,
            hrest]
          · simp
          · simp

theorem deviceMembers_ne_nil (d : GwyDeviceData) : deviceMembers d ≠ [] := by
  simp [deviceMembers]

/-- The members start with a quote. -/
theorem head_printMembers {ms : List (String × CStr)} (hne : ms ≠ []) :
    (printMembers ms).bytes.head? = some 0x22 := by
  match ms, hne with
  | [(n, v)], _ => simp [printMembers, bytes_printMember]
  | (n, v) :: m :: ms, _ => simp [printMembers, bytes_printMember]

/-- The object of a record. -/
theorem runFrom_printDevice {d : GwyDeviceData}
    (hd : ∀ m ∈ deviceMembers d, IsBody m.2) (items : List Json.Value) :
    runFrom Json.step (.value, .arr items :: st) (printDevice d).bytes =
      some (.done (readDevice d), .arr items :: st) := by
  have hopen : (CStr.lit "\n\t\t\x7b\n\t\t\t").bytes =
      [0x0A, 0x09, 0x09, 0x7B, 0x0A, 0x09, 0x09, 0x09] := by decide
  have hmembers := runFrom_printMembers (.arr items :: st)
    (deviceMembers_ne_nil d) (deviceMembers_plain d) hd []
  obtain ⟨l, hl⟩ := List.head?_eq_some_iff.mp
    (head_printMembers (deviceMembers_ne_nil d))
  rw [hl] at hmembers
  rw [printDevice, CStr.bytes_append, hopen, runFrom_append, hl]
  exact hmembers

/-- The objects of the records, and the closing bracket. -/
theorem runFrom_printDevices {ds : List GwyDeviceData} (hne : ds ≠ [])
    (hds : ∀ d ∈ ds, ∀ m ∈ deviceMembers d, IsBody m.2)
    (items : List Json.Value) :
    runFrom Json.step (.value, .arr items :: st)
        ((printDevices ds).bytes ++ [0x0A, 0x09, 0x5D]) =
      some (.done (.arr (items ++ ds.map readDevice)), st) := by
  induction ds generalizing items with
  | nil => exact absurd rfl hne
  | cons d ds ih =>
      obtain ⟨hd, hds⟩ := List.forall_mem_cons.mp hds
      cases ds with
      | nil =>
          rw [printDevices, runFrom_append, runFrom_printDevice hd]
          rfl
      | cons d' ds =>
          have hcomma : (CStr.lit ",").bytes = [0x2C] := by decide
          have hnext : runFrom Json.step
              (.done (readDevice d), .arr items :: st) [0x2C] =
              some (.value, .arr (items ++ [readDevice d]) :: st) := rfl
          have hrest := ih (by simp) hds (items ++ [readDevice d])
          rw [printDevices, CStr.bytes_append, CStr.bytes_append, hcomma,
            List.append_assoc, List.append_assoc, runFrom_append,
            runFrom_printDevice hd, Option.bind_some, runFrom_append, hnext,
            Option.bind_some, hrest]
          · simp
          · simp

/-- Inside an array the first object is read as a later one is. -/
theorem runFrom_firstItem {ds : List GwyDeviceData} (hne : ds ≠ []) :
    runFrom Json.step (.firstItem, st) ((printDevices ds).bytes ++ rest) =
      runFrom Json.step (.value, .arr [] :: st)
        ((printDevices ds).bytes ++ rest) := by
  have hopen : (CStr.lit "\n\t\t\x7b\n\t\t\t").bytes =
      [0x0A, 0x09, 0x09, 0x7B, 0x0A, 0x09, 0x09, 0x09] := by decide
  have hdevice : ∀ d, [0x0A, 0x09, 0x09, 0x7B] <+: (printDevice d).bytes := by
    intro d
    rw [printDevice, CStr.bytes_append, hopen]
    exact ⟨[0x0A, 0x09, 0x09, 0x09] ++ _, rfl⟩
  have hhead : [0x0A, 0x09, 0x09, 0x7B] <+: (printDevices ds).bytes := by
    match ds, hne with
    | [d], _ => exact hdevice d
    | d :: d' :: ds, _ =>
        rw [printDevices, CStr.bytes_append, CStr.bytes_append,
          List.append_assoc]
        · exact (hdevice d).trans (List.prefix_append _ _)
        · simp
  obtain ⟨l, hl⟩ := hhead
  rw [← hl, List.append_assoc, runFrom_append, runFrom_append]
  rfl

theorem bytes_discoveryDocument (ds : List GwyDeviceData) :
    (discoveryDocument ds).bytes =
      (0x7B :: 0x0A :: 0x22 :: ((CStr.lit "xmediagateways").bytes ++
        [0x22, 0x3A, 0x0A, 0x09, 0x5B])) ++ ((printDevices ds).bytes ++
          ([0x0A, 0x09, 0x5D] ++ [0x0A, 0x7D, 0x0A])) := by
  have hopen : (CStr.lit "\x7b\n\"xmediagateways\":\n\t[").bytes =
      0x7B :: 0x0A :: 0x22 :: ((CStr.lit "xmediagateways").bytes ++
        [0x22, 0x3A, 0x0A, 0x09, 0x5B]) := by decide
  have hclose : (CStr.lit "\n\t]\n\x7d\n").bytes =
      [0x0A, 0x09, 0x5D] ++ [0x0A, 0x7D, 0x0A] := by decide
  rw [discoveryDocument, CStr.bytes_append, CStr.bytes_append, hopen, hclose,
    List.append_assoc]

/-- The document, when every line of it can be read. -/
theorem accepts_discoveryDocument {ds : List GwyDeviceData}
    (hds : ∀ d ∈ ds, ∀ m ∈ deviceMembers d, IsBody m.2) :
    Json.reader.Accepts (.value, []) (discoveryDocument ds).bytes
      (.obj [((CStr.lit "xmediagateways").bytes,
        .arr (ds.map readDevice))]) := by
  have hopen : runFrom Json.step (.value, [])
      (0x7B :: 0x0A :: 0x22 :: ((CStr.lit "xmediagateways").bytes ++
        [0x22, 0x3A, 0x0A, 0x09, 0x5B])) =
      some (.firstItem, [.obj [] (CStr.lit "xmediagateways").bytes]) := rfl
  have hclose : Json.reader.Accepts (.done (.arr (ds.map readDevice)),
      [.obj [] (CStr.lit "xmediagateways").bytes]) [0x0A, 0x7D, 0x0A]
      (.obj [((CStr.lit "xmediagateways").bytes,
        .arr (ds.map readDevice))]) := rfl
  rw [bytes_discoveryDocument, Reader.accepts_append hopen, ← List.append_assoc]
  by_cases hne : ds = []
  · subst hne
    rfl
  · have hrun : runFrom Json.step
        (.firstItem, [.obj [] (CStr.lit "xmediagateways").bytes])
        ((printDevices ds).bytes ++ [0x0A, 0x09, 0x5D]) =
        some (.done (.arr (ds.map readDevice)),
          [.obj [] (CStr.lit "xmediagateways").bytes]) :=
      (runFrom_firstItem hne).trans (runFrom_printDevices hne hds [])
    rw [Reader.accepts_append hrun]
    exact hclose

end Read

/-! ## Counting the strings -/

section Scan

variable {n N : ℕ} {rest : Json.Text}

/-- One member, up to the new line behind it. -/
theorem scan_printMember {name : String} (hn : PlainName name) (v : CStr)
    (sep : Json.Text) (hsep : ∀ b ∈ sep, Json.Plain b)
    (h : runFrom Json.scanStep ⟨n, none⟩
      ((printMember (name, v)).bytes ++ (sep ++ 0x0A :: rest)) =
        some ⟨N, none⟩) :
    ∃ k, n + 2 ≤ k ∧ runFrom Json.scanStep ⟨k, none⟩ rest = some ⟨N, none⟩ ∧
      (k = n + 2 → IsBody v) := by
  rw [bytes_printMember, List.append_assoc, runFrom_append,
    Json.runFrom_scan_name hn.plain, Option.bind_some, List.append_assoc,
    List.singleton_append] at h
  obtain ⟨k, hk, hrest, hbody⟩ := Json.runFrom_scan_line hsep h
  refine ⟨k, hk, hrest, fun heq => ?_⟩
  obtain ⟨text, htext⟩ := hbody heq _ rfl
  exact Json.body_bodyText htext

/-- The members of an object, and its closing brace. -/
theorem scan_printMembers {ms : List (String × CStr)}
    (hnames : ∀ n ∈ ms.map Prod.fst, PlainName n)
    (h : runFrom Json.scanStep ⟨n, none⟩ ((printMembers ms).bytes ++ rest) =
      some ⟨N, none⟩) :
    ∃ k, n + 2 * ms.length ≤ k ∧
      runFrom Json.scanStep ⟨k, none⟩ rest = some ⟨N, none⟩ ∧
      (k = n + 2 * ms.length → ∀ m ∈ ms, IsBody m.2) := by
  induction ms generalizing n with
  | nil => exact ⟨n, le_rfl, h, by simp⟩
  | cons m ms ih =>
      obtain ⟨name, v⟩ := m
      have hn : PlainName name := hnames name (by simp)
      cases ms with
      | nil =>
          have hclose : (CStr.lit "\n\t\t\x7d").bytes =
              [0x0A, 0x09, 0x09, 0x7D] := by decide
          rw [printMembers, CStr.bytes_append, hclose, List.append_assoc] at h
          obtain ⟨k, hk, hrest, hbody⟩ :=
            scan_printMember hn v [] (by simp) h
          exact ⟨k, hk, hrest, fun heq => by simpa using hbody heq⟩
      | cons m' ms =>
          have hsep : (CStr.lit ",\n\t\t\t").bytes =
              [0x2C, 0x0A, 0x09, 0x09, 0x09] := by decide
          rw [printMembers, CStr.bytes_append, CStr.bytes_append, hsep,
            List.append_assoc, List.append_assoc] at h
          · obtain ⟨k, hk, hrest, hbody⟩ := scan_printMember hn v
              [0x2C] (List.forall_mem_singleton.mpr (by decide)) h
            obtain ⟨k', hk', hrest', hbody'⟩ := ih
              (fun n hn => hnames n (List.mem_cons_of_mem _ hn)) hrest
            rw [List.length_cons]
            refine ⟨k', by omega, hrest', fun heq => ?_⟩
            exact List.forall_mem_cons.mpr
              ⟨hbody (by omega), hbody' (by omega)⟩
          · simp

theorem scan_printDevice {d : GwyDeviceData}
    (h : runFrom Json.scanStep ⟨n, none⟩ ((printDevice d).bytes ++ rest) =
      some ⟨N, none⟩) :
    ∃ k, n + 2 * (deviceMembers d).length ≤ k ∧
      runFrom Json.scanStep ⟨k, none⟩ rest = some ⟨N, none⟩ ∧
      (k = n + 2 * (deviceMembers d).length →
        ∀ m ∈ deviceMembers d, IsBody m.2) := by
  have hopen : ∀ b ∈ (CStr.lit "\n\t\t\x7b\n\t\t\t").bytes, b ≠ 0x22 := by
    simp [CStr.lit, CStr.ofBytes, CStr.ascii]
  rw [printDevice, CStr.bytes_append, List.append_assoc, runFrom_append,
    Json.runFrom_scan_outside hopen] at h
  exact scan_printMembers (deviceMembers_plain d) h

/-- How many strings there are in the objects of the records. -/
def printedStrings (ds : List GwyDeviceData) : ℕ :=
  (ds.map fun d => 2 * (deviceMembers d).length).sum

theorem scan_printDevices {ds : List GwyDeviceData}
    (h : runFrom Json.scanStep ⟨n, none⟩ ((printDevices ds).bytes ++ rest) =
      some ⟨N, none⟩) :
    ∃ k, n + printedStrings ds ≤ k ∧
      runFrom Json.scanStep ⟨k, none⟩ rest = some ⟨N, none⟩ ∧
      (k = n + printedStrings ds →
        ∀ d ∈ ds, ∀ m ∈ deviceMembers d, IsBody m.2) := by
  induction ds generalizing n with
  | nil => exact ⟨n, le_rfl, h, by simp⟩
  | cons d ds ih =>
      have hsum : printedStrings (d :: ds) =
          2 * (deviceMembers d).length + printedStrings ds := rfl
      rw [hsum]
      cases ds with
      | nil =>
          obtain ⟨k, hk, hrest, hbody⟩ := scan_printDevice h
          have hnil : printedStrings [] = 0 := rfl
          refine ⟨k, by omega, hrest, fun heq => ?_⟩
          exact List.forall_mem_singleton.mpr (hbody (by omega))
      | cons d' ds =>
          have hcomma : (CStr.lit ",").bytes = [0x2C] := by decide
          rw [printDevices, CStr.bytes_append, CStr.bytes_append, hcomma,
            List.append_assoc, List.append_assoc] at h
          · obtain ⟨k, hk, hrest, hbody⟩ := scan_printDevice h
            rw [List.singleton_append, runFrom_cons,
              Json.scanStep_outside (by decide), Option.bind_some] at hrest
            obtain ⟨k', hk', hrest', hbody'⟩ := ih hrest
            refine ⟨k', by omega, hrest', fun heq => ?_⟩
            exact List.forall_mem_cons.mpr
              ⟨hbody (by omega), hbody' (by omega)⟩
          · simp

/-- A text of no more strings than were printed has one on each line. -/
theorem isBody_of_scan {ds : List GwyDeviceData}
    (h : runFrom Json.scanStep ⟨0, none⟩ (discoveryDocument ds).bytes =
      some ⟨1 + printedStrings ds, none⟩) :
    ∀ d ∈ ds, ∀ m ∈ deviceMembers d, IsBody m.2 := by
  have hopen : runFrom Json.scanStep ⟨0, none⟩
      (0x7B :: 0x0A :: 0x22 :: ((CStr.lit "xmediagateways").bytes ++
        [0x22, 0x3A, 0x0A, 0x09, 0x5B])) = some ⟨1, none⟩ := rfl
  rw [bytes_discoveryDocument, runFrom_append, hopen, Option.bind_some] at h
  obtain ⟨k, hk, hrest, hbody⟩ := scan_printDevices h
  have hend : runFrom Json.scanStep ⟨k, none⟩
      ([0x0A, 0x09, 0x5D] ++ [0x0A, 0x7D, 0x0A]) = some ⟨k, none⟩ := rfl
  rw [hend] at hrest
  exact hbody (congrArg Json.Scan.ended (Option.some.inj hrest))

end Scan

/-! ## UTF-8 -/

section Utf8

variable {rest : Json.Text}

theorem valid_printMember {n : String} (hn : PlainName n) (v : CStr) :
    Utf8.Valid ((printMember (n, v)).bytes ++ rest) ↔
      Utf8.Valid v.bytes ∧ Utf8.Valid rest := by
  have hname : (0x22 :: ((CStr.lit n).bytes ++ [0x22, 0x3A, 0x22])).all
      Utf8.isAscii = true := by
    have hquotes : [0x22, 0x3A, 0x22].all Utf8.isAscii = true := rfl
    rw [List.all_cons, List.all_append, hn.ascii, hquotes]
    rfl
  rw [bytes_printMember, List.append_assoc, Utf8.valid_ascii_append hname,
    List.append_assoc]
  exact Utf8.valid_append_cons (by decide)

theorem valid_printMembers {ms : List (String × CStr)}
    (hnames : ∀ n ∈ ms.map Prod.fst, PlainName n) :
    Utf8.Valid ((printMembers ms).bytes ++ rest) ↔
      (∀ m ∈ ms, Utf8.Valid m.2.bytes) ∧ Utf8.Valid rest := by
  induction ms with
  | nil => simp [printMembers, CStr.empty]
  | cons m ms ih =>
      obtain ⟨n, v⟩ := m
      have hn : PlainName n := hnames n (by simp)
      cases ms with
      | nil =>
          have hclose : (CStr.lit "\n\t\t\x7d").bytes.all Utf8.isAscii = true :=
            by decide
          rw [printMembers, CStr.bytes_append, List.append_assoc,
            valid_printMember hn, Utf8.valid_ascii_append hclose]
          simp
      | cons m' ms =>
          have hsep : (CStr.lit ",\n\t\t\t").bytes.all Utf8.isAscii = true :=
            by decide
          rw [printMembers, CStr.bytes_append, CStr.bytes_append,
            List.append_assoc, List.append_assoc, valid_printMember hn,
            Utf8.valid_ascii_append hsep,
            ih fun n hn => hnames n (List.mem_cons_of_mem _ hn)]
          · simp [and_assoc]
          · simp

theorem valid_printDevice (d : GwyDeviceData) :
    Utf8.Valid ((printDevice d).bytes ++ rest) ↔
      (∀ m ∈ deviceMembers d, Utf8.Valid m.2.bytes) ∧ Utf8.Valid rest := by
  have hopen : (CStr.lit "\n\t\t\x7b\n\t\t\t").bytes.all Utf8.isAscii = true :=
    by decide
  rw [printDevice, CStr.bytes_append, List.append_assoc,
    Utf8.valid_ascii_append hopen, valid_printMembers (deviceMembers_plain d)]

theorem valid_printDevices (ds : List GwyDeviceData) :
    Utf8.Valid ((printDevices ds).bytes ++ rest) ↔
      (∀ d ∈ ds, ∀ m ∈ deviceMembers d, Utf8.Valid m.2.bytes) ∧
        Utf8.Valid rest := by
  induction ds with
  | nil => simp [printDevices, CStr.empty]
  | cons d ds ih =>
      cases ds with
      | nil =>
          rw [printDevices, valid_printDevice]
          simp
      | cons d' ds =>
          have hcomma : (CStr.lit ",").bytes.all Utf8.isAscii = true := by decide
          rw [printDevices, CStr.bytes_append, CStr.bytes_append,
            List.append_assoc, List.append_assoc, valid_printDevice,
            Utf8.valid_ascii_append hcomma, ih]
          · simp [and_assoc]
          · simp

theorem valid_discoveryDocument (ds : List GwyDeviceData) :
    Utf8.Valid (discoveryDocument ds).bytes ↔
      ∀ d ∈ ds, ∀ m ∈ deviceMembers d, Utf8.Valid m.2.bytes := by
  have hopen : (CStr.lit "\x7b\n\"xmediagateways\":\n\t[").bytes.all
      Utf8.isAscii = true := by decide
  have hclose : Utf8.Valid (CStr.lit "\n\t]\n\x7d\n").bytes := by decide
  rw [discoveryDocument, CStr.bytes_append, CStr.bytes_append,
    List.append_assoc, Utf8.valid_ascii_append hopen, valid_printDevices]
  exact and_iff_left hclose

end Utf8

/-! ## The value that is read -/

section Describes

variable {ds : List GwyDeviceData} {d : GwyDeviceData} {J o : Json.Value}

theorem memberStrings_of_str {members : List (Json.Text × Json.Value)}
    (h : ∀ m ∈ members, ∃ t, m.2 = .str t) :
    Json.memberStrings members = 2 * members.length := by
  induction members with
  | nil => rfl
  | cons m members ih =>
      obtain ⟨name, v⟩ := m
      obtain ⟨⟨t, rfl⟩, hms⟩ := List.forall_mem_cons.mp h
      rw [Json.memberStrings, ih hms, List.length_cons, Json.Value.strings]
      omega

/-- The object of a record has as many strings as are printed. -/
theorem strings_of_describesDevice (h : DescribesDevice d o) :
    o.strings = 2 * (deviceMembers d).length := by
  obtain ⟨members, rfl, hperm⟩ := h
  have hstr : ∀ m ∈ members, ∃ t, m.2 = .str t := by
    intro m hm
    obtain ⟨m', -, rfl⟩ := List.mem_map.mp (hperm.mem_iff.mp hm)
    exact ⟨_, rfl⟩
  have hlength : members.length = (deviceMembers d).length := by
    rw [hperm.length_eq, (deviceMembers_perm d).length_eq, List.length_map,
      List.length_map]
  rw [Json.Value.strings, memberStrings_of_str hstr, hlength]

theorem strings_of_describes (h : Describes ds J) :
    J.strings = 1 + printedStrings ds := by
  obtain ⟨objects, rfl, hobjects⟩ := h
  have hitems : Json.itemStrings objects = printedStrings ds := by
    induction hobjects with
    | nil => rfl
    | cons ho _ ih =>
        rw [Json.itemStrings, strings_of_describesDevice ho, ih]
        rfl
  simp [Json.Value.strings, Json.memberStrings, hitems]

/-- The members of a record have different names. -/
theorem membersOf_nodup (d : GwyDeviceData) :
    ((membersOf d).map fun m => (CStr.lit m.name).bytes).Nodup := by
  have hall : (listedMembers.map fun m => (CStr.lit m.name).bytes).Nodup := by
    decide +kernel
  exact hall.sublist (List.filter_sublist.map _)

/-- An object describes its record exactly if each member is read as the field
it is named after. -/
theorem describesDevice_readDevice_iff (d : GwyDeviceData) :
    DescribesDevice d (readDevice d) ↔
      ∀ m ∈ membersOf d,
        Json.bodyText (m.printed d).bytes = (m.field d).bytes := by
  have hread : ((deviceMembers d).map readMember).Perm
      ((membersOf d).map fun m => ((CStr.lit m.name).bytes,
        Json.Value.str (Json.bodyText (m.printed d).bytes))) := by
    simpa [Function.comp_def, readMember] using
      (deviceMembers_perm d).map readMember
  constructor
  · rintro ⟨members, hmembers, hperm⟩ m hm
    obtain rfl := Json.Value.obj.inj hmembers
    have hmem := (hread.symm.trans hperm).mem_iff.mp
      (List.mem_map_of_mem hm)
    obtain ⟨m', hm', heq⟩ := List.mem_map.mp hmem
    obtain ⟨hname, hvalue⟩ := Prod.mk.inj heq
    obtain rfl := List.inj_on_of_nodup_map (membersOf_nodup d) hm' hm hname
    exact (Json.Value.str.inj hvalue).symm
  · intro h
    refine ⟨_, rfl, hread.trans (List.Perm.of_eq ?_)⟩
    apply List.map_congr_left
    intro m hm
    rw [Member.value, h m hm]

theorem describes_read_iff (ds : List GwyDeviceData) :
    Describes ds (.obj [((CStr.lit "xmediagateways").bytes,
        .arr (ds.map readDevice))]) ↔
      ∀ d ∈ ds, ∀ m ∈ membersOf d,
        Json.bodyText (m.printed d).bytes = (m.field d).bytes := by
  have hobjects : List.Forall₂ DescribesDevice ds (ds.map readDevice) ↔
      ∀ d ∈ ds, DescribesDevice d (readDevice d) := by
    rw [List.forall₂_map_right_iff, List.forall₂_same]
  rw [← forall₂_congr fun d (_ : d ∈ ds) => describesDevice_readDevice_iff d,
    ← hobjects]
  constructor
  · rintro ⟨objects, hJ, h⟩
    simp only [Json.Value.obj.injEq, List.cons.injEq, Prod.mk.injEq, true_and,
      Json.Value.arr.injEq, and_true] at hJ
    rwa [hJ]
  · exact fun h => ⟨_, rfl, h⟩

theorem printed_mem {m : Member} (hm : m ∈ membersOf d) :
    (m.name, m.printed d) ∈ deviceMembers d :=
  (deviceMembers_perm d).mem_iff.mpr
    (List.mem_map_of_mem (f := fun m : Member => (m.name, m.printed d)) hm)

theorem forall_printed {P : CStr → Prop} :
    (∀ m ∈ deviceMembers d, P m.2) ↔ ∀ m ∈ membersOf d, P (m.printed d) := by
  constructor
  · exact fun h m hm => h _ (printed_mem hm)
  · intro h m hm
    obtain ⟨m', hm', rfl⟩ :=
      List.mem_map.mp ((deviceMembers_perm d).mem_iff.mp hm)
    exact h m' hm'

/-- The one member that is printed from another field. -/
theorem softwareRevision_mem {m : Member} (hm : m ∈ listedMembers)
    (hname : m.name = "softwareRevision") :
    (∀ d, m.present d = d.sproxyI) ∧ ∀ d, m.field d = d.softwarerevision := by
  simp only [listedMembers, List.mem_cons, List.not_mem_nil, or_false] at hm
  rcases hm with rfl | rfl | rfl | rfl | rfl | rfl | rfl | rfl | rfl | rfl |
    rfl | rfl | rfl | rfl | rfl | rfl | rfl | rfl | rfl | rfl | rfl | rfl |
    rfl | rfl | rfl | rfl | rfl | rfl | rfl | rfl | rfl | rfl | rfl | rfl <;>
    simp at hname ⊢

/-- Every member that is printed reads as its field. -/
theorem shown_iff (d : GwyDeviceData) :
    Shown d ↔ ∀ m ∈ membersOf d, ReadsAs (m.printed d) (m.field d) := by
  constructor
  · rintro ⟨hplain, hrevision⟩ m hm
    obtain ⟨hlisted, hpresent⟩ := List.mem_filter.mp hm
    rw [Member.printed]
    split
    · next hname =>
        obtain ⟨hp, hf⟩ := softwareRevision_mem hlisted hname
        rw [hf]
        exact hrevision (hp d ▸ hpresent)
    · next hname => exact (readsAs_self_iff _).mpr (hplain m hm hname)
  · intro h
    constructor
    · intro m hm hname
      have := h m hm
      rwa [Member.printed, if_neg hname, readsAs_self_iff] at this
    · intro hid
      exact h ⟨"softwareRevision", (·.softwarerevision), fun d => d.sproxyI⟩
        (List.mem_filter.mpr ⟨by simp [listedMembers], hid⟩)

end Describes

/-- **When a reader gets back what is listed.** A document is JSON with one
object for each record, in the order of the list and with the stored fields as
members, exactly if every record can be shown. -/
theorem parse_discoveryDocument_iff (ds : List GwyDeviceData) :
    (∃ J, Json.parse (discoveryDocument ds).bytes = some J ∧
        Describes ds J) ↔ ∀ d ∈ ds, Shown d := by
  have hshown : (∀ d ∈ ds, Shown d) ↔
      Utf8.Valid (discoveryDocument ds).bytes ∧
        ∀ d ∈ ds, ∀ m ∈ membersOf d,
          Json.Body (m.printed d).bytes (m.field d).bytes := by
    rw [valid_discoveryDocument]
    simp only [shown_iff, ReadsAs, forall_and,
      forall_printed (P := fun v => Utf8.Valid v.bytes)]
  rw [hshown]
  constructor
  · rintro ⟨J, hparse, hJ⟩
    obtain ⟨hvalid, haccepts⟩ := Json.parse_eq_some.mp hparse
    have hscan := Json.runFrom_scan_of_parse hparse
    rw [strings_of_describes hJ] at hscan
    have hbody := isBody_of_scan hscan
    -- So every line is read, and what is read is the value.
    obtain rfl := Option.some.inj
      (haccepts.symm.trans (accepts_discoveryDocument hbody))
    have hfields := (describes_read_iff ds).mp hJ
    refine ⟨hvalid, fun d hd m hm => ?_⟩
    rw [← hfields d hd m hm]
    exact forall_printed.mp (hbody d hd) m hm
  · rintro ⟨hvalid, hbody⟩
    have hread : ∀ d ∈ ds, ∀ m ∈ deviceMembers d, IsBody m.2 := fun d hd =>
      forall_printed.mpr fun m hm => Json.body_bodyText (hbody d hd m hm)
    refine ⟨_, Json.parse_eq_some.mpr ⟨hvalid,
      accepts_discoveryDocument hread⟩, (describes_read_iff ds).mpr ?_⟩
    exact fun d hd m hm => (hbody d hd m hm).bodyText_eq

/-! ## The published text -/

theorem sendDiscoveryResult_outputcontents (cfg : Settings) (io : Io)
    (s : XState) :
    (sendDiscoveryResult cfg io s).outputcontents =
      discoveryDocument s.xdevlist := by
  simp only [sendDiscoveryResult]
  split
  · rfl
  · unfold getserialnum
    split <;> rfl

/-- **The published text.** It is JSON with one object for each device, in the
order of the list and with its fields as members, exactly when every field that
is printed reads as the field its member is named after. -/
theorem sendDiscoveryResult_parse_iff (cfg : Settings) (io : Io) (s : XState) :
    (∃ J, Json.parse (sendDiscoveryResult cfg io s).outputcontents.bytes =
        some J ∧ Describes s.xdevlist J) ↔ ∀ d ∈ s.xdevlist, Shown d := by
  rw [sendDiscoveryResult_outputcontents]
  exact parse_discoveryDocument_iff s.xdevlist

/-- A name with a quote in it breaks the text, and a device that is asked for
its software revision is shown with its build version. -/
theorem sendDiscoveryResult_quote :
    (¬ ∃ J, Json.parse (updateGwylist broadbandSettings quietIo
        { initGwydata with serialNum := .lit "A", devicename := .lit "a\"b" }
        (startState none)).outputcontents.bytes = some J) ∧
      ¬ ∃ J, Json.parse (updateGwylist broadbandSettings quietIo
          { initGwydata with
            serialNum := .lit "A"
            sproxyI := true
            buildversion := .lit "1"
            softwarerevision := .lit "2" }
          (startState none)).outputcontents.bytes = some J ∧
        Describes [{ initGwydata with
          serialNum := .lit "A"
          sproxyI := true
          buildversion := .lit "1"
          softwarerevision := .lit "2" }] J := by
  constructor
  · rintro ⟨J, h⟩
    have hnone : Json.parse (updateGwylist broadbandSettings quietIo
        { initGwydata with serialNum := .lit "A", devicename := .lit "a\"b" }
        (startState none)).outputcontents.bytes = none := by decide +kernel
    rw [hnone] at h
    cases h
  · intro h
    have hshown := (parse_discoveryDocument_iff _).mp h _ List.mem_cons_self
    have hbody := (hshown.2 rfl).2.bodyText_eq
    revert hbody
    decide

end Xupnp.Discovery
