import Xupnp.Library.Escape
import Xupnp.XcalDevice.SysEvents

/-!
# The link of the remote user interface (`get_uri_value`)

The link names the partner and carries a JSON text about the gateway, percent
encoded; the whole is XML escaped into the description of the service. The two
copies of the code differ in what they hand to `g_strconcat` for the partner.
In `xcal-device.c` it is the id, and the link reads back exactly where it has
no quotation mark (`getUriValue_readsBack_iff`). In the video library it is the
result of `getPartnerId`, which is no string: the link never reads back
(`getUriValue_never_readsBack`).
-/

namespace Xupnp.XcalDevice

open Xupnp.Library

/-! ## The encoders -/

/-- The references `xmlescape` writes. -/
def xmlName (b : UInt8) : Option (List UInt8) :=
  if b = 0x26 then some (CStr.ascii "amp")
  else if b = 0x22 then some (CStr.ascii "guot")
  else if b = 0x27 then some (CStr.ascii "apos")
  else if b = 0x3C then some (CStr.ascii "lt")
  else if b = 0x3E then some (CStr.ascii "gt")
  else none

theorem xmlName_plain (b : UInt8) :
    ∀ name ∈ xmlName b, 0 ∉ name ∧ 0x3B ∉ name := by
  unfold xmlName
  split_ifs
  all_goals decide

theorem nul_notMem_xmlEscape (b : UInt8) (hb : b ≠ 0) :
    0 ∉ Entity.escapeByte xmlName b := by
  unfold Entity.escapeByte
  cases hname : xmlName b with
  | none => simpa using hb.symm
  | some name => simpa using (xmlName_plain b name hname).1

/-- `xmlescape` -/
def xmlescape (instr : CStr) : CStr :=
  instr.flatMap (Entity.escapeByte xmlName) nul_notMem_xmlEscape

/-- The array `unreserved`. -/
def unreserved (b : UInt8) : Bool :=
  (0x30 ≤ b && b ≤ 0x39) || (0x41 ≤ b && b ≤ 0x5A) || (0x61 ≤ b && b ≤ 0x7A)
    || (CStr.ascii "-_.!~*'()").contains b

theorem nul_notMem_uriEscape (b : UInt8) (hb : b ≠ 0) :
    0 ∉ Percent.escapeByte unreserved b := by
  intro h
  rcases Percent.mem_escapeByte h with ⟨-, h⟩ | h | h
  · exact hb h.symm
  · exact absurd h (by decide)
  · exact h rfl

/-- `uriescape` -/
def uriescape (instr : CStr) : CStr :=
  instr.flatMap (Percent.escapeByte unreserved) nul_notMem_uriEscape

/-! ## The link -/

/-- What the link is made of. -/
structure UriSource where
  uriOverride : Option CStr
  /-- `partner_id`, which `getID` finds each time in the video library. -/
  partnerId : CStr
  recvId : CStr
  systemids : CStr
  ipAddressBufferCVP2 : CStr
  /-- The time, as `%f` prints it. -/
  time : CStr
  hostmacaddress : Option CStr
deriving DecidableEq

/-- `getStrValueFromMap` on a map that is not empty. -/
def getStrValueFromMap (pszKey : CStr) (entry : CStr × CStr)
    (map : List (CStr × CStr)) : CStr :=
  match (entry :: map).find? fun e =>
      (e.1.bytes.map CStr.lowerByte).isPrefixOf
        (pszKey.bytes.map CStr.lowerByte) with
  | some e => e.2
  | none => entry.2

/-- `getGatewayName`, with `gatewayNameMap`. -/
def getGatewayName (partnerId : CStr) : CStr :=
  getStrValueFromMap partnerId (.lit "comcast", .lit "Comcast Gateway")
    [(.lit "cox", .lit "Cox Gateway")]

/-- `g_ascii_up` on a byte. -/
def upperByte (b : UInt8) : UInt8 :=
  if 0x61 ≤ b ∧ b ≤ 0x7A then b - 0x20 else b

/-- `get_eSTBMAC` -/
def getESTBMAC (hostmacaddress : Option CStr) : Option CStr :=
  match hostmacaddress with
  | some mac =>
      if mac.bytes.length = 17 then
        some <| .ofBytes <| (mac.bytes.zipIdx.filter fun c =>
          c.2 ≠ 2 ∧ c.2 ≠ 5 ∧ c.2 ≠ 8 ∧ c.2 ≠ 11 ∧ c.2 ≠ 14).map fun c =>
            upperByte c.1
      else none
  | none => none

namespace UriSource

def urilink (dev : UriSource) : CStr :=
  dev.uriOverride.getD (.lit "http://syndeo.xcal.tv/app/x2rui/rui.html")

/-- `udnvalue`, of 25 bytes. -/
def udnvalue (dev : UriSource) : CStr :=
  (.lit "CVP-" ++ dev.time).takeBytes 24

/-- `gw_value` -/
def gwValue (dev : UriSource) : CStr :=
  let ids := getUriIds dev.systemids
  .lit "\x7b"
    ++ .lit "\"deviceType\":\"DMS\","
    ++ .lit "\"friendlyName\":\"" ++ getGatewayName dev.partnerId ++ .lit "\","
    ++ .lit "\"receiverID\":\"" ++ dev.recvId ++ .lit "\","
    ++ .lit "\"udn\":\"" ++ dev.udnvalue ++ .lit "\","
    ++ .lit "\"gatewayIP\":\"" ++ dev.ipAddressBufferCVP2 ++ .lit "\","
    ++ .lit "\"baseURL\":\""
    ++ playbackUrlText dev.ipAddressBufferCVP2 dev.recvId ++ .lit "\","
    ++ .lit "\"trmURL\":\""
    ++ (.lit "ws://" ++ dev.ipAddressBufferCVP2 ++ .lit ":9988")
    ++ .lit "\","
    ++ .lit "\"channelMapId\":\"" ++ ids.channelMapId ++ .lit "\","
    ++ .lit "\"controllerId\":\"" ++ ids.controllerId ++ .lit "\","
    ++ .lit "\"plantId\":\"" ++ ids.plantId ++ .lit "\","
    ++ .lit "\"vodServerId\":\"" ++ ids.vodServerId ++ .lit "\","
    ++ .lit "\"eSTBMAC\":\""
    ++ (getESTBMAC dev.hostmacaddress).getD (.lit "UNKNOWN") ++ .lit "\""
    ++ .lit "\x7d"

end UriSource

/-- An argument of `g_strconcat`. -/
inductive Operand where
  | null
  | str (s : CStr)
  /-- A pointer to no string. -/
  | wild

/-- `g_strconcat` stops at the first `NULL`. -/
def gStrconcat : List Operand → Option CStr
  | [] => some .empty
  | .null :: _ => some .empty
  | .str s :: args => (gStrconcat args).map (s ++ ·)
  | .wild :: _ => none

/-- `getPartnerId` of the video library: only its result. -/
def getPartnerId (partnerId : CStr) : Bool :=
  partnerId ≠ .empty && (strcpyS .safec maxOutvalue partnerId).2

/-- What stands for the partner in the link. The `BOOL` of the video library is
taken for a pointer. -/
def partnerOperand (c : Copy) (partnerId : CStr) : Operand :=
  match c with
  | .videoLibrary => if getPartnerId partnerId then .wild else .null
  | .xcalDevice => .str partnerId

/-- `get_uri_value`, if it returns. -/
def getUriValue (c : Copy) (dev : UriSource) : Option CStr :=
  (gStrconcat
    [.str dev.urilink, .str (.lit "?partner="),
      partnerOperand c dev.partnerId, .str (.lit "&gw="),
      .str (uriescape dev.gwValue)]).map xmlescape

/-! ## Reading it back -/

/-- The entities of XML. -/
def xmlEntities : List (List UInt8 × UInt8) :=
  [(CStr.ascii "amp", 0x26), (CStr.ascii "lt", 0x3C), (CStr.ascii "gt", 0x3E),
    (CStr.ascii "apos", 0x27), (CStr.ascii "quot", 0x22)]

def xmlUnescape (value : CStr) : Option (List UInt8) :=
  (Entity.unescaper xmlEntities).unescape value.bytes

/-- The link in front of the gateway. -/
def UriSource.prefixText (dev : UriSource) : CStr :=
  dev.urilink ++ .lit "?partner=" ++ dev.partnerId ++ .lit "&gw="

/-- The value stands for the link, partner and gateway. -/
def ReadsBack (c : Copy) (dev : UriSource) : Prop :=
  ∃ value ∈ getUriValue c dev, ∃ e : List UInt8,
    xmlUnescape value = some (dev.prefixText.bytes ++ e) ∧
      Percent.unescaper.unescape e = some dev.gwValue.bytes

section Encoders

variable {text : CStr} {m : List UInt8}

/-- One of the five references is not among the entities. -/
theorem reread_xmlName (b : UInt8) :
    Entity.reread xmlEntities xmlName b = if b = 0x22 then none else some b := by
  rcases eq_or_ne b 0x26 with rfl | hamp
  · decide
  rcases eq_or_ne b 0x22 with rfl | hquot
  · decide
  rcases eq_or_ne b 0x27 with rfl | hapos
  · decide
  rcases eq_or_ne b 0x3C with rfl | hlt
  · decide
  rcases eq_or_ne b 0x3E with rfl | hgt
  · decide
  have hname : xmlName b = none := by
    rw [xmlName, if_neg hamp, if_neg hquot, if_neg hapos, if_neg hlt,
      if_neg hgt]
  rw [Entity.reread, hname, if_neg hquot]

theorem xmlUnescape_xmlescape_iff :
    xmlUnescape (xmlescape text) = some m ↔
      m = text.bytes ∧ 0x22 ∉ text.bytes := by
  have hself : ∀ b, ∀ c ∈ Entity.reread xmlEntities xmlName b, c = b := by
    intro b c hc
    rw [reread_xmlName] at hc
    split at hc
    · cases hc
    · exact (Option.some.inj hc).symm
  have hiff := Entity.unescape_escape_iff (by decide)
    (fun b name h => (xmlName_plain b name h).2) hself (l := text.bytes)
    (m := m)
  show (Entity.unescaper xmlEntities).unescape
    (text.bytes.flatMap (Entity.escapeByte xmlName)) = _ ↔ _
  rw [hiff]
  refine and_congr_right fun _ => ?_
  constructor
  · intro h hq
    exact absurd (h _ hq) (by decide)
  · intro h b hb
    rw [reread_xmlName, if_neg (ne_of_mem_of_not_mem hb h)]

theorem percent_unescape_uriescape (text : CStr) :
    Percent.unescaper.unescape (uriescape text).bytes = some text.bytes :=
  Percent.unescape_escape (by decide) _

/-- A percent encoded text has no quotation mark. -/
theorem quote_notMem_uriescape (text : CStr) :
    0x22 ∉ (uriescape text).bytes := by
  intro h
  obtain ⟨b, -, h⟩ := List.mem_flatMap.mp h
  rcases Percent.mem_escapeByte h with ⟨hb, h⟩ | h | h
  · rw [← h] at hb
    exact absurd hb (by decide)
  · exact absurd h (by decide)
  · exact h rfl

end Encoders

/-! ## Results -/

section Results

variable {dev : UriSource}

/-- What `xcal-device.c` puts together before the XML escaping. -/
theorem getUriValue_xcalDevice (dev : UriSource) :
    getUriValue .xcalDevice dev =
      some (xmlescape (dev.prefixText ++ uriescape dev.gwValue)) := by
  have happ : dev.urilink ++ (CStr.lit "?partner=" ++ (dev.partnerId
      ++ (CStr.lit "&gw=" ++ (uriescape dev.gwValue ++ CStr.empty)))) =
      dev.prefixText ++ uriescape dev.gwValue := by
    apply CStr.ext
    simp [UriSource.prefixText, CStr.empty]
  rw [← happ]
  rfl

/-- In the video library the link ends before the partner, or the code reads
from a pointer that is none. -/
theorem getUriValue_videoLibrary (dev : UriSource) :
    getUriValue .videoLibrary dev =
      if getPartnerId dev.partnerId then none
      else some (xmlescape (dev.urilink ++ .lit "?partner=")) := by
  have happ : dev.urilink ++ (CStr.lit "?partner=" ++ CStr.empty) =
      dev.urilink ++ CStr.lit "?partner=" := by
    apply CStr.ext
    simp [CStr.empty]
  rw [getUriValue, partnerOperand]
  cases getPartnerId dev.partnerId with
  | true => rfl
  | false =>
      rw [← happ]
      rfl

/-- **The sibling.** With the id in its place the link reads back exactly if
neither the address nor the id has a quotation mark in it. -/
theorem getUriValue_readsBack_iff (dev : UriSource) :
    ReadsBack .xcalDevice dev ↔
      0x22 ∉ dev.urilink.bytes ∧ 0x22 ∉ dev.partnerId.bytes := by
  have hquote : 0x22 ∉ (dev.prefixText ++ uriescape dev.gwValue).bytes ↔
      0x22 ∉ dev.urilink.bytes ∧ 0x22 ∉ dev.partnerId.bytes := by
    have hlits : 0x22 ∉ (CStr.lit "?partner=").bytes ∧
        0x22 ∉ (CStr.lit "&gw=").bytes := by decide
    have hgw := quote_notMem_uriescape dev.gwValue
    simp [UriSource.prefixText, hlits, hgw]
  rw [← hquote]
  constructor
  · rintro ⟨value, hvalue, e, hread, -⟩
    rw [getUriValue_xcalDevice] at hvalue
    obtain rfl := Option.some.inj hvalue
    exact (xmlUnescape_xmlescape_iff.mp hread).2
  · intro h
    exact ⟨_, getUriValue_xcalDevice dev, (uriescape dev.gwValue).bytes,
      xmlUnescape_xmlescape_iff.mpr ⟨rfl, h⟩, percent_unescape_uriescape _⟩

/-- What is too short for the gateway does not read back. -/
theorem not_readsBack_of_eq {c : Copy} {text : CStr}
    (h : ∀ value ∈ getUriValue c dev, value = xmlescape text)
    (hlen : text.bytes.length < dev.prefixText.bytes.length) :
    ¬ ReadsBack c dev := by
  rintro ⟨value, hvalue, e, hread, -⟩
  rw [h value hvalue] at hread
  have heq := congrArg List.length (xmlUnescape_xmlescape_iff.mp hread).1
  rw [List.length_append] at heq
  omega

theorem length_partner_lt (dev : UriSource) :
    (dev.urilink ++ .lit "?partner=").bytes.length <
      dev.prefixText.bytes.length := by
  have hgw : (CStr.lit "&gw=").bytes.length = 4 := by decide
  simp only [UriSource.prefixText, CStr.bytes_append, List.length_append]
  omega

/-- **Never.** Whatever the link of the video library is made of, it does not
read back. -/
theorem getUriValue_never_readsBack (dev : UriSource) :
    ¬ ReadsBack .videoLibrary dev := by
  refine not_readsBack_of_eq ?_ (length_partner_lt dev)
  intro value hvalue
  rw [getUriValue_videoLibrary] at hvalue
  split at hvalue
  · cases hvalue
  · exact (Option.some.inj hvalue).symm

end Results

/-- A partner with an id, and one without. -/
def uriPartner (partnerId : CStr) : UriSource where
  uriOverride := none
  partnerId := partnerId
  recvId := .lit "P0118"
  systemids := .lit "channelMapId:1;controllerId:2;plantId:3;vodServerId:4"
  ipAddressBufferCVP2 := .lit "10.0.0.1"
  time := .lit "1500000000.000000"
  hostmacaddress := some (.lit "00:11:22:33:44:5a")

/-- With the id of a partner there is no link at all, without one it lacks the
gateway. -/
theorem getUriValue_reads_no_string :
    getUriValue .videoLibrary (uriPartner (.lit "comcast")) = none ∧
      ¬ ReadsBack .videoLibrary (uriPartner (.lit "comcast")) ∧
      ¬ ReadsBack .videoLibrary (uriPartner .empty) := by
  refine ⟨by decide, ?_, ?_⟩
  · rintro ⟨value, hvalue, -⟩
    cases hvalue
  · apply not_readsBack_of_eq _ (length_partner_lt _)
    intro value hvalue
    exact (Option.some.inj hvalue).symm

/-- The id without its colons. -/
example : getESTBMAC (uriPartner .empty).hostmacaddress =
    some (.lit "00112233445A") := by decide +kernel

end Xupnp.XcalDevice
