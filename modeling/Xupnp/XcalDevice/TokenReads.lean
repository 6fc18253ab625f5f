import Xupnp.XcalDevice.DeviceName
import Xupnp.XcalDevice.Ipv6Prefix

/-!
# Reads of token vectors

Four scanners read a token in front of or behind the one they are at, each with
a check that is missing or off by one. Where the read leaves the vector the
model has no result, and `tokens_in_range_iff` says when that is: by what is in
the texts behind the word that is looked for.
-/

namespace Xupnp.XcalDevice

open Xupnp.Library

/-! ## The code -/

/-- `" \\n\\t\\b\\0"` -/
def isVendorDelim (b : UInt8) : Bool := b ∈ [0x20, 0x0A, 0x09, 0x08]

def subOption4 : CStr := .lit "SUBOPTION4"

/-- The loop: the check is on `loopvar + 1`, the read at `loopvar + 2`. -/
def serialNumLoop (serialNum : CStr) : List CStr → Option (Bool × CStr)
  | [] => some (false, serialNum)
  | token :: rest =>
      if token.strip.contains subOption4 then
        if 0 < rest.length then
          rest[1]?.map fun next => (true, next.strip)
        else some (true, serialNum)
      else serialNumLoop serialNum rest

/-- `parseserialnum`, equally `getserialnum`: the result and `serial_num`. The
file is `none` if it cannot be read. -/
def parseserialnum (udhcpcvendorfile : Option (List UInt8))
    (serialNum : CStr) : Option (Bool × CStr) :=
  match udhcpcvendorfile with
  | none => some (false, serialNum)
  | some text =>
      serialNumLoop serialNum ((CStr.upToNul text).tokens isVendorDelim)

/-- `"':''\\n'"` -/
def isMacDelim (b : UInt8) : Bool := b ∈ CStr.ascii "':\n"

/-- `getUidfromRecvId` of `idm_server.c`: the result and `recv_id`. -/
def getUidfromRecvId (bcastMacaddress recvId : CStr) : Option (Bool × CStr) :=
  match bcastMacaddress.tokens isMacDelim with
  | [] => some (false, recvId)
  | token :: rest =>
      ((List.range 6).mapM fun i => (token :: rest)[i]?).map fun parts =>
        (true, parts.foldl (fun id part => id ++ part.strip)
          (.lit "ebf5a0a0-1dd1-11b2-a90f-"))

/-! ## Where the reads go -/

/-- What the four scanners read. -/
structure TokenTexts where
  vendorFile : List UInt8
  deviceNameFile : List UInt8
  ipv6PrefixFile : List UInt8
  hostMacIf : CStr
  bcastMacaddress : CStr

/-- Every read is of a token of the vector, whatever the results were
before. -/
structure TokensInRange (t : TokenTexts) : Prop where
  serialNum : ∀ serialNum, (parseserialnum (some t.vendorFile) serialNum).isSome
  devicename : ∀ devicename,
    (parsedevicename (some t.deviceNameFile) devicename).isSome
  ipv6Prefix : ∀ ipv6Prefix, Option.isSome <|
    parseipv6prefix t.hostMacIf (some t.ipv6PrefixFile) ipv6Prefix
  recvId : ∀ recvId, (getUidfromRecvId t.bcastMacaddress recvId).isSome

/-- What stands behind the first occurrence of a word, up to a NUL. -/
def behindWord (text : List UInt8) (key : CStr) : Option (List UInt8) :=
  (strstr (CStr.upToNul text).bytes key.bytes).map fun t =>
    t.drop key.bytes.length

/-- Behind the words there is room for what is read. -/
structure RoomBehind (t : TokenTexts) : Prop where
  serialNum : ∀ rest ∈ behindWord t.vendorFile subOption4,
    rest.countP isVendorDelim ≠ 1
  devicename : ∀ rest ∈ behindWord t.deviceNameFile deviceNameKey,
    rest.countP isNameDelim ≠ 0
  /-- The first line with `AddrPrefix` does not close before it is cut. -/
  ipv6Prefix : ∀ line ∈
      (linesBehind t.hostMacIf t.ipv6PrefixFile).find? mentionsPrefix,
    ∀ token ∈ (prefixTokens line).head?, closesPrefix token = false
  recvId : t.bcastMacaddress.bytes = [] ∨
    5 ≤ t.bcastMacaddress.bytes.countP isMacDelim

section Serial

variable {serialNum part : CStr} {pre post : List CStr} {text : List UInt8}

theorem contains_subOption4 (token : CStr) :
    token.strip.contains subOption4 = token.contains subOption4 :=
  CStr.contains_strip (by decide)

theorem serialNumLoop_append {tokens : List CStr}
    (hpre : ∀ x ∈ pre, x.contains subOption4 = false) :
    serialNumLoop serialNum (pre ++ tokens) =
      serialNumLoop serialNum tokens := by
  induction pre with
  | nil => rfl
  | cons x pre ih =>
      obtain ⟨hx, hpre⟩ := List.forall_mem_cons.mp hpre
      rw [List.cons_append, serialNumLoop, contains_subOption4, hx]
      exact ih hpre

theorem serialNumLoop_first
    (hpre : ∀ x ∈ pre, x.contains subOption4 = false)
    (hpart : part.contains subOption4 = true) :
    (serialNumLoop serialNum (pre ++ part :: post)).isSome ↔
      post.length ≠ 1 := by
  rw [serialNumLoop_append hpre, serialNumLoop, contains_subOption4, hpart,
    if_pos rfl]
  cases post with
  | nil => simp
  | cons next post => cases post <;> simp

theorem parseserialnum_isSome :
    (parseserialnum (some text) serialNum).isSome ↔
      ∀ rest ∈ behindWord text subOption4,
        rest.countP isVendorDelim ≠ 1 := by
  show (serialNumLoop serialNum
    ((CStr.upToNul text).tokens isVendorDelim)).isSome ↔ _
  unfold behindWord
  cases h : strstr (CStr.upToNul text).bytes subOption4.bytes with
  | none =>
      have hnone := CStr.tokens_none (p := isVendorDelim) h
      have hloop : serialNumLoop serialNum
          ((CStr.upToNul text).tokens isVendorDelim ++ []) =
            serialNumLoop serialNum [] :=
        serialNumLoop_append hnone
      rw [List.append_nil] at hloop
      rw [hloop]
      exact iff_of_true rfl (by simp)
  | some u =>
      obtain ⟨pre, part, post, htokens, hpart, hpre, hpost⟩ :=
        CStr.tokens_first (p := isVendorDelim) (by decide) (by decide) h
      rw [htokens, serialNumLoop_first hpre hpart, hpost]
      simp

end Serial

section DeviceName

variable {devicename : CStr} {text : List UInt8}

theorem parsedevicename_isSome :
    (parsedevicename (some text) devicename).isSome ↔
      ∀ rest ∈ behindWord text deviceNameKey,
        rest.countP isNameDelim ≠ 0 := by
  show ((deviceNameLoop devicename
    ((CStr.upToNul text).tokens isNameDelim)).map _).isSome ↔ _
  rw [Option.isSome_map]
  unfold behindWord
  cases h : strstr (CStr.upToNul text).bytes deviceNameKey.bytes with
  | none =>
      rw [deviceNameLoop_none (CStr.tokens_none h)]
      exact iff_of_true rfl (by simp)
  | some u =>
      obtain ⟨pre, part, post, htokens, hpart, hpre, hpost⟩ :=
        CStr.tokens_first (p := isNameDelim) (by decide) (by decide) h
      rw [htokens, deviceNameLoop_first hpre hpart, Option.isSome_map]
      simp only [Option.map_some, Option.mem_def, Option.some.injEq,
        forall_eq']
      rw [← hpost]
      cases post <;> simp

end DeviceName

section Prefix

variable {hostMacIf ipv6Prefix line : CStr} {lines : List CStr}
  {text u : List UInt8}

theorem partBefore_eq_none_iff :
    partBefore u = none ↔ u.countP isPrefixDelim = 0 := by
  unfold partBefore
  cases h : u.countP isPrefixDelim with
  | zero => simp
  | succ n =>
      have hlen := length_splitOnP isPrefixDelim u
      simp only [List.getElem?_eq_none_iff]
      omega

theorem taken_eq_none_iff {earlier : List CStr} :
    taken earlier u = none ↔ u.countP isPrefixDelim = 0 := by
  unfold taken
  split
  · exact partBefore_eq_none_iff
  · rw [Option.map_eq_none_iff, partBefore_eq_none_iff]

/-- A line is reached in front of all marks exactly if it closes there and no
line before mentions the prefix. -/
theorem reaches_unmarked_iff {earlier : List CStr} :
    (∃ u, Reaches earlier line u ∧ u.countP isPrefixDelim = 0) ↔
      (∀ l ∈ earlier, mentionsPrefix l = false) ∧
        mentionsPrefix line = true ∧
        ∃ token ∈ (prefixTokens line).head?, closesPrefix token = true := by
  rw [List.head?_eq_getElem?]
  constructor
  · rintro ⟨u, ⟨hu, hearlier⟩, hcount⟩
    have hmention := mentionsPrefix_of_closing hu
    refine ⟨fun l hl => ?_, hmention,
      (closes_getElem?_iff hmention 0).mpr ⟨u, hu, hcount⟩⟩
    rw [Bool.eq_false_iff]
    intro h
    have hlt := hearlier l hl h
    omega
  · rintro ⟨hearlier, hmention, hcloses⟩
    obtain ⟨u, hu, hcount⟩ := (closes_getElem?_iff hmention 0).mp hcloses
    refine ⟨u, ⟨hu, fun l hl h => ?_⟩, hcount⟩
    rw [hearlier l hl] at h
    cases h

/-- In front of a part that closes there is none exactly if it is the first of
its line and no line before mentions the prefix. -/
theorem firstReached_none_iff :
    FirstReached lines none ↔ ∃ line ∈ lines.find? mentionsPrefix,
      ∃ token ∈ (prefixTokens line).head?, closesPrefix token = true := by
  constructor
  · rintro ⟨pre, line, post, u, rfl, -, hu, -, htaken⟩
    obtain ⟨hpre, hmention, hcloses⟩ := reaches_unmarked_iff.mp
      ⟨u, hu, taken_eq_none_iff.mp htaken⟩
    refine ⟨line, ?_, hcloses⟩
    rw [List.find?_append, List.find?_eq_none.mpr (by simpa using hpre),
      List.find?_cons_of_pos hmention]
    rfl
  · rintro ⟨line, hline, hcloses⟩
    obtain ⟨hmention, pre, post, rfl, hpre⟩ :=
      List.find?_eq_some_iff_append.mp hline
    have hpre' : ∀ x ∈ pre, mentionsPrefix x = false := by simpa using hpre
    obtain ⟨v, hv, hcount⟩ :=
      reaches_unmarked_iff.mpr ⟨hpre', hmention, hcloses⟩
    obtain ⟨u, hu, hmin⟩ := exists_shortest ⟨v, hv⟩
    have huv : u <+: v := List.prefix_of_prefix_length_le
      ((List.prefix_append u _).trans hu.1)
      ((List.prefix_append v _).trans hv.1) (hmin v hv)
    have hmono := huv.countP_le (p := isPrefixDelim)
    refine ⟨pre, line, post, u, rfl, ?_, hu, hmin,
      taken_eq_none_iff.mpr (by omega)⟩
    intro pre' line' post' heq w hw
    have hmention' := mentionsPrefix_of_closing hw.1
    rw [hpre' line' (by simp [heq])] at hmention'
    cases hmention'

theorem parseipv6prefix_isSome :
    (Option.isSome <| parseipv6prefix hostMacIf (some text) ipv6Prefix) ↔
      ∀ line ∈ (linesBehind hostMacIf text).find? mentionsPrefix,
        ∀ token ∈ (prefixTokens line).head?, closesPrefix token = false := by
  have hnone : FirstReached (linesBehind hostMacIf text) none ↔ _ :=
    firstReached_iff hostMacIf
  rw [firstReached_none_iff] at hnone
  have hloop : (∃ before : Option CStr, before.map CStr.bytes = none ∧
        prefixLineLoop hostMacIf true 0 (linesBehind hostMacIf text) =
          before.map some) ↔
      prefixLineLoop hostMacIf true 0 (linesBehind hostMacIf text) = none := by
    constructor
    · rintro ⟨before, hbefore, h⟩
      rwa [Option.map_eq_none_iff.mp hbefore] at h
    · intro h
      exact ⟨none, rfl, h⟩
  rw [parseipv6prefix_some, Option.isSome_map, Option.isSome_iff_ne_none,
    ne_eq]
  refine (not_congr (hnone.trans hloop).symm).trans ?_
  simp

end Prefix

section RecvId

variable {bcastMacaddress recvId : CStr}

theorem isSome_mapM {α β : Type} {f : α → Option β} {l : List α} :
    (l.mapM f).isSome ↔ ∀ x ∈ l, (f x).isSome := by
  induction l with
  | nil => exact iff_of_true rfl (by simp)
  | cons a l ih =>
      rw [List.mapM_cons, List.forall_mem_cons, ← ih]
      cases f a with
      | none => simp
      | some b => cases List.mapM f l <;> simp

theorem mapM_getElem?_isSome {α : Type} (l : List α) (n : ℕ) :
    ((List.range n).mapM fun i => l[i]?).isSome ↔ n ≤ l.length := by
  have hread : ∀ i, (l[i]?).isSome = true ↔ i < l.length := by
    intro i
    rw [Option.isSome_iff_ne_none, ne_eq, List.getElem?_eq_none_iff]
    omega
  rw [isSome_mapM]
  simp only [List.mem_range, hread]
  constructor
  · intro h
    by_contra hlt
    exact absurd (h l.length (by omega)) (lt_irrefl _)
  · intro h i hi
    omega

theorem getUidfromRecvId_isSome :
    (getUidfromRecvId bcastMacaddress recvId).isSome ↔
      bcastMacaddress.bytes = [] ∨
        5 ≤ bcastMacaddress.bytes.countP isMacDelim := by
  unfold getUidfromRecvId
  by_cases hnil : bcastMacaddress.bytes = []
  · rw [CStr.tokens_empty hnil]
    exact iff_of_true rfl (.inl hnil)
  · have hlen := CStr.length_tokens (p := isMacDelim) hnil
    cases htokens : bcastMacaddress.tokens isMacDelim with
    | nil =>
        rw [htokens] at hlen
        cases hlen
    | cons token rest =>
        rw [htokens] at hlen
        dsimp only
        rw [Option.isSome_map, mapM_getElem?_isSome, or_iff_right hnil, hlen]
        omega

end RecvId

/-- **In range.** The reads stay in the vectors exactly if there is room behind
the words. -/
theorem tokens_in_range_iff (t : TokenTexts) :
    TokensInRange t ↔ RoomBehind t := by
  constructor
  · intro h
    exact ⟨parseserialnum_isSome.mp (h.serialNum .empty),
      parsedevicename_isSome.mp (h.devicename .empty),
      parseipv6prefix_isSome.mp (h.ipv6Prefix .empty),
      getUidfromRecvId_isSome.mp (h.recvId .empty)⟩
  · intro h
    exact ⟨fun _ => parseserialnum_isSome.mpr h.serialNum,
      fun _ => parsedevicename_isSome.mpr h.devicename,
      fun _ => parseipv6prefix_isSome.mpr h.ipv6Prefix,
      fun _ => getUidfromRecvId_isSome.mpr h.recvId⟩

/-- A word in the last token but one, a key at the end, a tag on two lines and
an address without colons. -/
def shortTexts : TokenTexts where
  vendorFile := CStr.ascii "SUBOPTION4 M11806TA0001"
  deviceNameFile := CStr.ascii "deviceName"
  ipv6PrefixFile :=
    CStr.ascii "ifacename=eth0\n" ++ CStr.ascii "2001:db8::/AddrPrefix\n"
  hostMacIf := .lit "eth0"
  bcastMacaddress := .lit "001122334455"

theorem tokens_out_of_range :
    parseserialnum (some shortTexts.vendorFile) .empty = none ∧
      parsedevicename (some shortTexts.deviceNameFile) .empty = none ∧
      parseipv6prefix shortTexts.hostMacIf (some shortTexts.ipv6PrefixFile)
        .empty = none ∧
      getUidfromRecvId shortTexts.bcastMacaddress .empty = none ∧
      ¬ TokensInRange shortTexts := by
  have hserial : parseserialnum (some shortTexts.vendorFile) .empty = none :=
    by decide +kernel
  refine ⟨hserial, by decide +kernel, by decide +kernel, by decide +kernel,
    fun h => ?_⟩
  have hsome := h.serialNum .empty
  rw [hserial] at hsome
  cases hsome

end Xupnp.XcalDevice
