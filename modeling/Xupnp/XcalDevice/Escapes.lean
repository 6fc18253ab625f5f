import Mathlib.Data.Bool.AllAny
import Xupnp.XcalDevice.UriValue

/-!
# What the two encoders write (`uriescape`, `xmlescape`)

`uriescape` looks its bytes up in an array that it fills on every call, and
writes what `encodeURIComponent` writes (`uriescape_encodes`). `xmlescape` has
the entity of the quotation mark misspelt, so that what it writes is escaped
text exactly where there is none (`xmlescape_escapes_iff`).
-/

namespace Xupnp.XcalDevice

open Xupnp.Library

/-! ## The array of `uriescape` -/

/-- `isalnum` in the C locale. -/
def isalnum (i : ℕ) : Bool :=
  (0x30 ≤ i && i ≤ 0x39) || (0x41 ≤ i && i ≤ 0x5A) || (0x61 ≤ i && i ≤ 0x7A)

/-- What the first loop puts at `i`: the byte itself, or 0. -/
def unreservedEntry (i : ℕ) : UInt8 :=
  if isalnum i || i == '-'.toNat || i == '_'.toNat || i == '.'.toNat
    || i == '!'.toNat || i == '~'.toNat || i == '*'.toNat
    || i == '\''.toNat || i == '('.toNat || i == ')'.toNat
  then UInt8.ofNat i else 0

/-- `unreserved`, as the first loop fills it. -/
def unreservedArray : List UInt8 := (List.range 256).map unreservedEntry

/-- The second loop. -/
def uriescapeLoop (unreserved : List UInt8) :
    List UInt8 → List UInt8 → List UInt8
  | outstr, [] => outstr
  | outstr, b :: instr =>
      uriescapeLoop unreserved
        (outstr ++
          if unreserved.getD b.toNat 0 ≠ 0 then [b]
          else [0x25, Percent.hexDigit (b / 16), Percent.hexDigit (b % 16)])
        instr

/-- The array marks what `unreserved` says. -/
theorem unreservedArray_ne_zero (b : UInt8) :
    unreservedArray.getD b.toNat 0 ≠ 0 ↔ unreserved b = true := by
  have hentry : unreservedArray.getD b.toNat 0 = unreservedEntry b.toNat := by
    rw [List.getD_eq_getElem?_getD, unreservedArray, List.getElem?_map,
      List.getElem?_range b.toNat_lt]
    rfl
  rw [hentry]
  exact forall_byte
    (P := fun b => unreservedEntry b.toNat ≠ 0 ↔ unreserved b = true)
    (by decide +kernel) b

theorem uriescapeLoop_unreservedArray (outstr instr : List UInt8) :
    uriescapeLoop unreservedArray outstr instr =
      outstr ++ instr.flatMap (Percent.escapeByte unreserved) := by
  induction instr generalizing outstr with
  | nil => simp [uriescapeLoop]
  | cons b instr ih =>
      rw [uriescapeLoop, ih, List.flatMap_cons, List.append_assoc,
        Percent.escapeByte]
      simp only [unreservedArray_ne_zero]

/-- The two loops write `uriescape`. -/
theorem uriescape_eq_loop (instr : CStr) :
    (uriescape instr).bytes =
      uriescapeLoop unreservedArray [] instr.bytes := by
  rw [uriescapeLoop_unreservedArray]
  rfl

/-! ## `encodeURIComponent` -/

/-- The characters that are not escaped. -/
def uriUnescaped : List UInt8 :=
  CStr.ascii "ABCDEFGHIJKLMNOPQRSTUVWXYZ"
    ++ CStr.ascii "abcdefghijklmnopqrstuvwxyz"
    ++ CStr.ascii "0123456789-_.!~*'()"

/-- The digit of a value below 16. -/
def upperHex (n : ℕ) : UInt8 := (CStr.ascii "0123456789ABCDEF").getD n 0

/-- `encodeURIComponent`, each byte on its own. -/
def encodeURIComponent (l : List UInt8) : List UInt8 :=
  l.flatMap fun b =>
    if b ∈ uriUnescaped then [b]
    else [0x25, upperHex (b.toNat / 16), upperHex (b.toNat % 16)]

theorem unreserved_iff (b : UInt8) :
    unreserved b = true ↔ b ∈ uriUnescaped := by
  have hmem : ∀ b ∈ uriUnescaped, unreserved b = true :=
    List.all_iff_forall_prop.mp (by decide +kernel)
  have hall : ∀ b, unreserved b = true → b ∈ uriUnescaped :=
    forall_byte (by decide +kernel)
  exact ⟨hall b, hmem b⟩

theorem hexDigit_eq {b : UInt8} (h : b < 16) :
    Percent.hexDigit b = upperHex b.toNat :=
  forall_byte (P := fun b => b < 16 → Percent.hexDigit b = upperHex b.toNat)
    (by decide +kernel) b h

theorem escapeByte_unreserved (b : UInt8) :
    Percent.escapeByte unreserved b =
      if b ∈ uriUnescaped then [b]
      else [0x25, upperHex (b.toNat / 16), upperHex (b.toNat % 16)] := by
  have hhigh : (b / 16).toNat = b.toNat / 16 := rfl
  have hlow : (b % 16).toNat = b.toNat % 16 := rfl
  rw [Percent.escapeByte, hexDigit_eq (Percent.high_lt b),
    hexDigit_eq (Percent.low_lt b), hhigh, hlow]
  exact if_congr (unreserved_iff b) rfl rfl

/-- **Escaped for a URI.** What is written consists of unreserved characters
and of upper-case triples, decodes to what was given, and is what
`encodeURIComponent` makes of the bytes. -/
theorem uriescape_encodes (instr : CStr) :
    Percent.Encoded (fun b => b ∈ uriUnescaped) (uriescape instr).bytes ∧
      Percent.unescaper.unescape (uriescape instr).bytes =
        some instr.bytes ∧
      (uriescape instr).bytes = encodeURIComponent instr.bytes := by
  have hkeep : unreserved = fun b => decide (b ∈ uriUnescaped) := by
    funext b
    exact Bool.eq_iff_iff.mpr ((unreserved_iff b).trans decide_eq_true_iff.symm)
  refine ⟨?_, percent_unescape_uriescape instr, ?_⟩
  · rw [← hkeep]
    exact Percent.encoded_escape instr.bytes
  · show instr.bytes.flatMap (Percent.escapeByte unreserved) = _
    exact congrArg instr.bytes.flatMap (funext escapeByte_unreserved)

/-! ## Escaped for XML -/

/-- The text holds none of the marks but in references, which are all known,
and stands for the string. -/
structure XmlEscapes (text instr : CStr) : Prop where
  no_mark : ∀ b ∈ text.bytes, b ≠ 0x3C ∧ b ≠ 0x3E ∧ b ≠ 0x22 ∧ b ≠ 0x27
  reference : ∀ pre post, text.bytes = pre ++ 0x26 :: post →
    ∃ e ∈ xmlEntities, e.1 ++ [0x3B] <+: post
  expands : xmlUnescape text = some instr.bytes

section Xml

variable {instr : CStr}

/-- What has a name is a mark, and names hold none. -/
theorem xmlName_eq_none {b : UInt8} (h : xmlName b = none) :
    b ≠ 0x3C ∧ b ≠ 0x3E ∧ b ≠ 0x22 ∧ b ≠ 0x27 := by
  unfold xmlName at h
  split_ifs at h with hamp hquot hapos hlt hgt
  exact ⟨hlt, hgt, hquot, hapos⟩

theorem xmlName_no_mark (b : UInt8) : ∀ name ∈ xmlName b,
    ∀ c ∈ 0x26 :: (name ++ [0x3B]),
      c ≠ 0x3C ∧ c ≠ 0x3E ∧ c ≠ 0x22 ∧ c ≠ 0x27 := by
  intro name hname
  unfold xmlName at hname
  split_ifs at hname
  case neg => cases hname
  all_goals
    obtain rfl := Option.some.inj hname
    exact List.all_iff_forall_prop.mp (by decide)

theorem amp_notMem_xmlName (b : UInt8) : ∀ name ∈ xmlName b, 0x26 ∉ name := by
  unfold xmlName
  split_ifs
  all_goals decide

/-- The other four names are those of XML. -/
theorem xmlName_known {b : UInt8} (hb : b ≠ 0x22) : ∀ name ∈ xmlName b,
    ∃ e ∈ xmlEntities, e.1 = name := by
  unfold xmlName
  rw [if_neg hb]
  split_ifs
  all_goals decide

/-- **Escaped for XML.** The text is escaped exactly if there was no quotation
mark in the string. -/
theorem xmlescape_escapes_iff (instr : CStr) :
    XmlEscapes (xmlescape instr) instr ↔ 0x22 ∉ instr.bytes := by
  constructor
  · intro h
    exact (xmlUnescape_xmlescape_iff.mp h.expands).2
  · intro hquot
    refine ⟨?_, ?_, xmlUnescape_xmlescape_iff.mpr ⟨rfl, hquot⟩⟩
    · intro c hc
      rcases Entity.mem_escape hc with ⟨-, hnone⟩ | ⟨b, -, name, hname, hc⟩
      · exact xmlName_eq_none hnone
      · exact xmlName_no_mark b name hname c hc
    · intro pre post h
      obtain ⟨b, hb, name, hname, hpost⟩ :=
        Entity.reference_of_amp (by decide) amp_notMem_xmlName h
      obtain ⟨e, he, rfl⟩ :=
        xmlName_known (ne_of_mem_of_not_mem hb hquot) name hname
      exact ⟨e, he, hpost⟩

/-- A quotation mark alone. -/
theorem xmlescape_quote :
    ¬ XmlEscapes (xmlescape (.lit "\"")) (.lit "\"") := by
  intro h
  have hnone : xmlUnescape (xmlescape (.lit "\"")) = none := by decide
  rw [h.expands] at hnone
  cases hnone

end Xml

end Xupnp.XcalDevice
