import Xupnp.Library.Xml
import Xupnp.XcalDevice.Getters
import Xupnp.XcalDevice.UriValue

/-!
# The listing of user interfaces (`getruiurl`, `getRUIUrl`)

`GetCompatibleUIs` answers with an XML document: the names of the partner's
service, four icons, and the link to the user interface. Only the link is
escaped, and by a function that has a name for the quotation mark which XML does
not know. The document is read as the listing it was meant to be exactly if the
link can be sent in it (`uiListing_read_iff`): one that holds a quotation mark
or a byte XML has no place for spoils the whole document, and what does not fit
the buffer of the library is not sent at all.
-/

namespace Xupnp.XcalDevice

open Xupnp.Library
open Xml (Name branch leaf)

/-! ## The code -/

/-- `getPartnerName`, with `partnerNameMap`. -/
def getPartnerName (partnerId : CStr) : CStr :=
  getStrValueFromMap partnerId (.lit "comcast", .lit "comcast")
    [(.lit "cox", .lit "cox")]

/-- `getProductName`, with `productNameMap`. -/
def getProductName (partnerId : CStr) : CStr :=
  getStrValueFromMap partnerId (.lit "comcast", .lit "xfinity")
    [(.lit "cox", .lit "contour")]

/-- `getServiceName`, with `serviceNameMap`. -/
def getServiceName (partnerId : CStr) : CStr :=
  getStrValueFromMap partnerId (.lit "comcast", .lit "Comcast XFINITY Guide")
    [(.lit "cox", .lit "Cox Contour Guide")]

/-- `getServiceDescription`, with `serviceDescriptionMap`. -/
def getServiceDescription (partnerId : CStr) : CStr :=
  getStrValueFromMap partnerId
    (.lit "comcast", .lit "Comcast XFINITY Guide application")
    [(.lit "cox", .lit "Cox Contour Guide application")]

/-- `get_compatible_uis_icon` -/
def getCompatibleUisIcon (partnerId : CStr) (size depth : ℤ)
    (imageType imageExt : CStr) : CStr :=
  .lit "<icon><mimetype>image/" ++ imageType
    ++ .lit "</mimetype><width>" ++ .decimal size
    ++ .lit "</width><height>" ++ .decimal size
    ++ .lit "</height><depth>" ++ .decimal depth
    ++ .lit "</depth> <url>http://syndeo.xcal.tv/app/x2rui/dlna/"
    ++ getPartnerName partnerId ++ .lit "/" ++ getProductName partnerId
    ++ .lit "_" ++ .decimal size ++ .lit "." ++ imageExt ++ .lit "</url></icon>"

/-- `get_compatible_uis_icon_list` -/
def getCompatibleUisIconList (partnerId : CStr) : CStr :=
  .lit "<iconList>"
    ++ getCompatibleUisIcon partnerId 48 32 (.lit "png") (.lit "png")
    ++ getCompatibleUisIcon partnerId 120 32 (.lit "png") (.lit "png")
    ++ getCompatibleUisIcon partnerId 48 32 (.lit "jpeg") (.lit "jpg")
    ++ getCompatibleUisIcon partnerId 120 32 (.lit "jpeg") (.lit "jpg")
    ++ .lit "</iconList>"

/-- The text `getruiurl` and `getRUIUrl` print around the value of the link. -/
def ruiDocument (partnerId urivalue : CStr) : CStr :=
  .lit "<?xml version=\"1.0\" encoding=\"UTF-8\"?>"
    ++ .lit "<uilist xmlns=\"urn:schemas-upnp-org:remoteui:uilist-1-0\" "
    ++ .lit "xmlns:xsi=\"http://www.w3.org/2001/XMLSchema-instance\" "
    ++ .lit "xsi:schemaLocation=\"urn:schemas-upnp-org:remoteui:uilist-1-0 "
    ++ .lit "CompatibleUIs.xsd\"><ui><uiID>1234-9876-1265-8758</uiID>"
    ++ .lit "<name>" ++ getServiceName partnerId ++ .lit "</name>"
    ++ .lit "<description>" ++ getServiceDescription partnerId
    ++ .lit "</description>"
    ++ getCompatibleUisIconList partnerId
    ++ .lit "<fork>true</fork><lifetime>-1</lifetime>"
    ++ .lit "<protocol shortName=\"DLNA-HTML5-1.0\"><uri>"
    ++ urivalue
    ++ .lit "</uri></protocol></ui></uilist>"

/-- `ruiurl` after `getruiurl` or `getRUIUrl`, if it returns. -/
def getruiurl (c : Copy) (ruiPath : Option CStr) (dev : UriSource) :
    Option CStr :=
  match ruiPath with
  | some path => some path
  | none => (getUriValue c dev).map (ruiDocument dev.partnerId)

/-- What is left of the text where it is sent from: the device of the libraries
has a buffer for it, and does not mind a `getRUIUrl` that fails. -/
def sentRui (c : Copy) (ruiurl : CStr) : CStr :=
  match c with
  | .videoLibrary => strcpied ruiUrlSize ruiurl
  | .xcalDevice => ruiurl

/-- What `get_rui_url_cb` sends as `UIListing`. -/
def uiListing (c : Copy) (ruiPath : Option CStr) (dev : UriSource) :
    Option CStr := (getruiurl c ruiPath dev).map (sentRui c)

/-! ## The listing -/

/-- An icon, in front of the next. -/
def iconTree (partnerId : CStr) (size depth : ℤ) (imageType imageExt : CStr)
    (next : Siblings Xml.Node) : Siblings Xml.Node :=
  branch (.lit "icon")
    (leaf (.lit "mimetype") (CStr.ascii "image/" ++ imageType.bytes)
    (leaf (.lit "width") (CStr.decimal size).bytes
    (leaf (.lit "height") (CStr.decimal size).bytes
    (leaf (.lit "depth") (CStr.decimal depth).bytes
    (.node (.text [0x20]) .nil
    (leaf (.lit "url") (CStr.ascii "http://syndeo.xcal.tv/app/x2rui/dlna/"
      ++ ((getPartnerName partnerId).bytes ++ (CStr.ascii "/"
      ++ ((getProductName partnerId).bytes ++ (CStr.ascii "_"
      ++ ((CStr.decimal size).bytes ++ (CStr.ascii "."
      ++ imageExt.bytes))))))) .nil)))))) next

def uilistAttributes : Xml.Attributes :=
  ⟨[(.lit "xmlns", CStr.ascii "urn:schemas-upnp-org:remoteui:uilist-1-0"),
    (.lit "xmlns:xsi",
      CStr.ascii "http://www.w3.org/2001/XMLSchema-instance"),
    (.lit "xsi:schemaLocation", CStr.ascii
      "urn:schemas-upnp-org:remoteui:uilist-1-0 CompatibleUIs.xsd")],
    by decide⟩

def protocolAttributes : Xml.Attributes :=
  ⟨[(.lit "shortName", CStr.ascii "DLNA-HTML5-1.0")], by decide⟩

/-- What is in the element of the listing. -/
def uiTree (partnerId link : CStr) : Siblings Xml.Node :=
  branch (.lit "ui")
    (leaf (.lit "uiID") (CStr.ascii "1234-9876-1265-8758")
    (leaf (.lit "name") (getServiceName partnerId).bytes
    (leaf (.lit "description") (getServiceDescription partnerId).bytes
    (branch (.lit "iconList")
      (iconTree partnerId 48 32 (.lit "png") (.lit "png")
      (iconTree partnerId 120 32 (.lit "png") (.lit "png")
      (iconTree partnerId 48 32 (.lit "jpeg") (.lit "jpg")
      (iconTree partnerId 120 32 (.lit "jpeg") (.lit "jpg") .nil))))
    (leaf (.lit "fork") (CStr.ascii "true")
    (leaf (.lit "lifetime") (CStr.ascii "-1")
    (.node (.element (.lit "protocol") protocolAttributes)
      (leaf (.lit "uri") link.bytes .nil) .nil))))))) .nil

/-- **The listing** that the document is meant to be, with the link in it. -/
def listing (partnerId link : CStr) : Siblings Xml.Node :=
  .node (.element (.lit "uilist") uilistAttributes) (uiTree partnerId link) .nil

/-- The link in front of the XML escaping. -/
def linkText (c : Copy) (dev : UriSource) : Option CStr :=
  match c with
  | .videoLibrary =>
      if getPartnerId dev.partnerId then none
      else some (dev.urilink ++ .lit "?partner=")
  | .xcalDevice => some (dev.prefixText ++ uriescape dev.gwValue)

/-- A link that can be sent. -/
structure Sendable (c : Copy) (partnerId link : CStr) : Prop where
  allowed : Xml.Allowed link.bytes
  unquoted : 0x22 ∉ link.bytes
  fits : c = .videoLibrary →
    (ruiDocument partnerId (xmlescape link)).bytes.length < ruiUrlSize

/-! ## Texts that stand for themselves -/

section Verbatim

variable {l m : List UInt8}

/-- A printable text that is written as it stands. -/
def Verbatim (l : List UInt8) : Prop :=
  l.isEmpty = false ∧ Xml.Printable l ∧
    l.all (fun b => (xmlName b).isNone) = true

instance (l : List UInt8) : Decidable (Verbatim l) :=
  inferInstanceAs (Decidable (_ ∧ _))

theorem Verbatim.ne_nil (h : Verbatim l) : l ≠ [] :=
  List.isEmpty_eq_false_iff.mp h.1

theorem Verbatim.printable (h : Verbatim l) : Xml.Printable l := h.2.1

theorem Verbatim.plain (h : Verbatim l) : ∀ b ∈ l, xmlName b = none :=
  fun b hb => Option.isNone_iff_eq_none.mp (List.all_eq_true.mp h.2.2 b hb)

theorem Verbatim.append (hl : Verbatim l) (hm : Verbatim m) :
    Verbatim (l ++ m) := by
  refine ⟨?_, Xml.printable_append.mpr ⟨hl.printable, hm.printable⟩, ?_⟩
  · exact List.isEmpty_eq_false_iff.mpr
      (List.append_ne_nil_of_left_ne_nil hl.ne_nil m)
  · rw [List.all_append, hl.2.2, hm.2.2]
    rfl

theorem Verbatim.escape_eq (h : Verbatim l) : Xml.escape xmlName l = l := by
  have hbyte : ∀ b ∈ l, Entity.escapeByte xmlName b = [b] := by
    intro b hb
    rw [Entity.escapeByte, h.plain b hb]
  rw [Xml.escape, List.flatMap_congr hbyte]
  simp

theorem Verbatim.legible (h : Verbatim l) :
    Xml.Legible xmlEntities xmlName l := by
  intro b hb
  rw [Entity.reread, h.plain b hb]

theorem legible_iff : Xml.Legible xmlEntities xmlName l ↔ 0x22 ∉ l := by
  constructor
  · intro h hq
    exact absurd (h _ hq) (by decide)
  · intro h b hb
    rw [reread_xmlName, if_neg (ne_of_mem_of_not_mem hb h)]

/-- A value of a map is one of those it was given. -/
theorem getStrValueFromMap_mem (pszKey : CStr) (entry : CStr × CStr)
    (map : List (CStr × CStr)) :
    getStrValueFromMap pszKey entry map ∈ (entry :: map).map Prod.snd := by
  rw [getStrValueFromMap]
  split
  · next e he => exact List.mem_map_of_mem (List.mem_of_find?_eq_some he)
  · exact List.mem_cons_self

/-- The values of a map are written as they stand if all of them are. -/
theorem verbatim_getStrValueFromMap {entry : CStr × CStr}
    {map : List (CStr × CStr)}
    (h : ((entry :: map).map Prod.snd).all (fun v => decide (Verbatim v.bytes)) =
      true)
    (pszKey : CStr) : Verbatim (getStrValueFromMap pszKey entry map).bytes :=
  of_decide_eq_true
    (List.all_eq_true.mp h _ (getStrValueFromMap_mem pszKey entry map))

theorem verbatim_getPartnerName (partnerId : CStr) :
    Verbatim (getPartnerName partnerId).bytes :=
  verbatim_getStrValueFromMap (by decide) partnerId

theorem verbatim_getProductName (partnerId : CStr) :
    Verbatim (getProductName partnerId).bytes :=
  verbatim_getStrValueFromMap (by decide) partnerId

theorem verbatim_getServiceName (partnerId : CStr) :
    Verbatim (getServiceName partnerId).bytes :=
  verbatim_getStrValueFromMap (by decide) partnerId

theorem verbatim_getServiceDescription (partnerId : CStr) :
    Verbatim (getServiceDescription partnerId).bytes :=
  verbatim_getStrValueFromMap (by decide) partnerId

end Verbatim

/-! ## The document is the listing, printed -/

section Printed

variable {partnerId link : CStr} {next : Siblings Xml.Node} {name : Name}
  {content : List UInt8}

theorem print_leaf (h : Verbatim content) :
    Xml.print xmlName (leaf name content next) =
      Xml.openTag xmlName name ⟨[], List.nodup_nil⟩ ++
        (content ++ (Xml.closeTag name ++ Xml.print xmlName next)) := by
  show _ ++ ((Xml.escape xmlName content ++ []) ++ _) = _
  rw [List.append_nil, h.escape_eq]

theorem print_branch (children : Siblings Xml.Node) :
    Xml.print xmlName (branch name children next) =
      Xml.openTag xmlName name ⟨[], List.nodup_nil⟩ ++
        (Xml.print xmlName children ++
          (Xml.closeTag name ++ Xml.print xmlName next)) := rfl

theorem print_space :
    Xml.print xmlName (.node (.text [0x20]) .nil next) =
      0x20 :: Xml.print xmlName next := rfl

/-- The texts of an icon. -/
structure VerbatimIcon (size depth : ℤ) (imageType imageExt : CStr) : Prop where
  size : Verbatim (CStr.decimal size).bytes
  depth : Verbatim (CStr.decimal depth).bytes
  imageType : Verbatim imageType.bytes
  imageExt : Verbatim imageExt.bytes

section Icon

variable {size depth : ℤ} {imageType imageExt : CStr}

theorem VerbatimIcon.mimetype (h : VerbatimIcon size depth imageType imageExt) :
    Verbatim (CStr.ascii "image/" ++ imageType.bytes) := by
  have himage : Verbatim (CStr.ascii "image/") := by decide
  exact himage.append h.imageType

theorem VerbatimIcon.url (h : VerbatimIcon size depth imageType imageExt)
    (partnerId : CStr) :
    Verbatim (CStr.ascii "http://syndeo.xcal.tv/app/x2rui/dlna/"
      ++ ((getPartnerName partnerId).bytes ++ (CStr.ascii "/"
      ++ ((getProductName partnerId).bytes ++ (CStr.ascii "_"
      ++ ((CStr.decimal size).bytes ++ (CStr.ascii "."
      ++ imageExt.bytes))))))) := by
  have hserver : Verbatim
      (CStr.ascii "http://syndeo.xcal.tv/app/x2rui/dlna/") := by decide
  have hslash : Verbatim (CStr.ascii "/") := by decide
  have hunder : Verbatim (CStr.ascii "_") := by decide
  have hdot : Verbatim (CStr.ascii ".") := by decide
  exact hserver.append <| (verbatim_getPartnerName partnerId).append <|
    hslash.append <| (verbatim_getProductName partnerId).append <|
    hunder.append <| h.size.append <| hdot.append h.imageExt

/-- An icon is printed as the code writes it. -/
theorem print_iconTree (h : VerbatimIcon size depth imageType imageExt) :
    Xml.print xmlName
        (iconTree partnerId size depth imageType imageExt next) =
      (getCompatibleUisIcon partnerId size depth imageType imageExt).bytes ++
        Xml.print xmlName next := by
  have h₀ : (CStr.lit "<icon><mimetype>image/").bytes =
      Xml.openTag xmlName (.lit "icon") ⟨[], List.nodup_nil⟩ ++
        (Xml.openTag xmlName (.lit "mimetype") ⟨[], List.nodup_nil⟩ ++
          CStr.ascii "image/") := by decide +kernel
  have h₁ : (CStr.lit "</mimetype><width>").bytes =
      Xml.closeTag (.lit "mimetype") ++
        Xml.openTag xmlName (.lit "width") ⟨[], List.nodup_nil⟩ := by
    decide +kernel
  have h₂ : (CStr.lit "</width><height>").bytes =
      Xml.closeTag (.lit "width") ++
        Xml.openTag xmlName (.lit "height") ⟨[], List.nodup_nil⟩ := by
    decide +kernel
  have h₃ : (CStr.lit "</height><depth>").bytes =
      Xml.closeTag (.lit "height") ++
        Xml.openTag xmlName (.lit "depth") ⟨[], List.nodup_nil⟩ := by
    decide +kernel
  have h₄ : (CStr.lit
      "</depth> <url>http://syndeo.xcal.tv/app/x2rui/dlna/").bytes =
      Xml.closeTag (.lit "depth") ++ (0x20 ::
        (Xml.openTag xmlName (.lit "url") ⟨[], List.nodup_nil⟩ ++
          CStr.ascii "http://syndeo.xcal.tv/app/x2rui/dlna/")) := by
    decide +kernel
  have h₅ : (CStr.lit "</url></icon>").bytes =
      Xml.closeTag (.lit "url") ++ Xml.closeTag (.lit "icon") := by
    decide +kernel
  have hslash : (CStr.lit "/").bytes = CStr.ascii "/" := by decide
  have hunder : (CStr.lit "_").bytes = CStr.ascii "_" := by decide
  have hdot : (CStr.lit ".").bytes = CStr.ascii "." := by decide
  rw [iconTree, print_branch, print_leaf h.mimetype, print_leaf h.size,
    print_leaf h.size, print_leaf h.depth, print_space,
    print_leaf (h.url partnerId)]
  simp only [getCompatibleUisIcon, CStr.bytes_append, h₀, h₁, h₂, h₃, h₄, h₅,
    hslash, hunder, hdot, List.append_assoc, List.cons_append, Xml.print,
    List.nil_append]

end Icon

/-- The four icons. -/
theorem verbatimIcons :
    VerbatimIcon 48 32 (.lit "png") (.lit "png") ∧
      VerbatimIcon 120 32 (.lit "png") (.lit "png") ∧
      VerbatimIcon 48 32 (.lit "jpeg") (.lit "jpg") ∧
      VerbatimIcon 120 32 (.lit "jpeg") (.lit "jpg") := by
  have h48 : Verbatim (CStr.decimal 48).bytes := by decide +kernel
  have h120 : Verbatim (CStr.decimal 120).bytes :=
    by decide +kernel
  have h32 : Verbatim (CStr.decimal 32).bytes := by decide +kernel
  have hpng : Verbatim (CStr.lit "png").bytes := by decide
  have hjpeg : Verbatim (CStr.lit "jpeg").bytes := by decide
  have hjpg : Verbatim (CStr.lit "jpg").bytes := by decide
  exact ⟨⟨h48, h32, hpng, hpng⟩, ⟨h120, h32, hpng, hpng⟩,
    ⟨h48, h32, hjpeg, hjpg⟩, ⟨h120, h32, hjpeg, hjpg⟩⟩

/-- **The document** is the listing as it is printed. -/
theorem ruiDocument_eq (partnerId link : CStr) :
    (ruiDocument partnerId (xmlescape link)).bytes =
      Xml.declaration ++ Xml.print xmlName (listing partnerId link) := by
  obtain ⟨hicon₁, hicon₂, hicon₃, hicon₄⟩ := verbatimIcons
  have hdecl : (CStr.lit
      "<?xml version=\"1.0\" encoding=\"UTF-8\"?>").bytes =
      Xml.declaration := by decide +kernel
  -- One tag is spread over four literals.
  have hopen : ∀ rest, (CStr.lit
      "<uilist xmlns=\"urn:schemas-upnp-org:remoteui:uilist-1-0\" ").bytes ++
      ((CStr.lit
        "xmlns:xsi=\"http://www.w3.org/2001/XMLSchema-instance\" ").bytes ++
      ((CStr.lit
        "xsi:schemaLocation=\"urn:schemas-upnp-org:remoteui:uilist-1-0 ").bytes
      ++ ((CStr.lit
        "CompatibleUIs.xsd\"><ui><uiID>1234-9876-1265-8758</uiID>").bytes ++
          rest))) =
      Xml.openTag xmlName (.lit "uilist") uilistAttributes ++
        (Xml.openTag xmlName (.lit "ui") ⟨[], List.nodup_nil⟩ ++
        (Xml.openTag xmlName (.lit "uiID") ⟨[], List.nodup_nil⟩ ++
        (CStr.ascii "1234-9876-1265-8758" ++
          (Xml.closeTag (.lit "uiID") ++ rest)))) := by
    intro rest
    simp only [← List.append_assoc]
    exact congrArg (· ++ rest) (by decide +kernel)
  have hname : (CStr.lit "<name>").bytes =
      Xml.openTag xmlName (.lit "name") ⟨[], List.nodup_nil⟩ := by
    decide +kernel
  have hname' : (CStr.lit "</name>").bytes = Xml.closeTag (.lit "name") := by
    decide +kernel
  have hdesc : (CStr.lit "<description>").bytes =
      Xml.openTag xmlName (.lit "description") ⟨[], List.nodup_nil⟩ := by
    decide +kernel
  have hdesc' : (CStr.lit "</description>").bytes =
      Xml.closeTag (.lit "description") := by decide +kernel
  have hicons : (CStr.lit "<iconList>").bytes =
      Xml.openTag xmlName (.lit "iconList") ⟨[], List.nodup_nil⟩ := by
    decide +kernel
  have hicons' : (CStr.lit "</iconList>").bytes =
      Xml.closeTag (.lit "iconList") := by decide +kernel
  have hfork : (CStr.lit "<fork>true</fork><lifetime>-1</lifetime>").bytes =
      Xml.openTag xmlName (.lit "fork") ⟨[], List.nodup_nil⟩ ++
        (CStr.ascii "true" ++ (Xml.closeTag (.lit "fork") ++
        (Xml.openTag xmlName (.lit "lifetime") ⟨[], List.nodup_nil⟩ ++
        (CStr.ascii "-1" ++ Xml.closeTag (.lit "lifetime"))))) := by
    decide +kernel
  have hprotocol :
      (CStr.lit "<protocol shortName=\"DLNA-HTML5-1.0\"><uri>").bytes =
      Xml.openTag xmlName (.lit "protocol") protocolAttributes ++
        Xml.openTag xmlName (.lit "uri") ⟨[], List.nodup_nil⟩ := by
    decide +kernel
  have hclose : (CStr.lit "</uri></protocol></ui></uilist>").bytes =
      Xml.closeTag (.lit "uri") ++ (Xml.closeTag (.lit "protocol") ++
        (Xml.closeTag (.lit "ui") ++ Xml.closeTag (.lit "uilist"))) := by
    decide +kernel
  have huri : Xml.print xmlName (leaf (.lit "uri") link.bytes .nil) =
      Xml.openTag xmlName (.lit "uri") ⟨[], List.nodup_nil⟩ ++
        ((xmlescape link).bytes ++ Xml.closeTag (.lit "uri")) := by
    show _ ++ (((xmlescape link).bytes ++ []) ++ (_ ++ [])) = _
    rw [List.append_nil, List.append_nil]
  have hlisting : Xml.print xmlName (listing partnerId link) =
      Xml.openTag xmlName (.lit "uilist") uilistAttributes ++
        (Xml.print xmlName (uiTree partnerId link) ++
          (Xml.closeTag (.lit "uilist") ++ [])) := rfl
  rw [hlisting, uiTree, print_branch, print_leaf (by decide),
    print_leaf (verbatim_getServiceName _),
    print_leaf (verbatim_getServiceDescription _), print_branch,
    print_iconTree hicon₁, print_iconTree hicon₂, print_iconTree hicon₃,
    print_iconTree hicon₄, print_leaf (by decide),
    print_leaf (by decide)]
  simp only [ruiDocument, getCompatibleUisIconList, CStr.bytes_append,
    List.append_assoc, hdecl, hopen, hname, hname', hdesc, hdesc', hicons,
    hicons', hfork, hprotocol, hclose, Xml.print, huri, List.append_nil]

end Printed

/-! ## The document is read as the listing -/

section Read

variable {c : Copy} {dev : UriSource} {partnerId link : CStr}
  {es : List Xml.Event}

theorem printable_getCompatibleUisIcon {size depth : ℤ}
    {imageType imageExt : CStr}
    (h : VerbatimIcon size depth imageType imageExt) :
    Xml.Printable
      (getCompatibleUisIcon partnerId size depth imageType imageExt).bytes := by
  simp only [getCompatibleUisIcon, CStr.bytes_append, Xml.printable_append]
  have hpartner := (verbatim_getPartnerName partnerId).printable
  have hproduct := (verbatim_getProductName partnerId).printable
  have hsize := h.size.printable
  have hdepth := h.depth.printable
  have htype := h.imageType.printable
  have hext := h.imageExt.printable
  refine ⟨⟨⟨⟨⟨⟨⟨⟨⟨⟨⟨⟨⟨⟨⟨⟨?_, htype⟩, ?_⟩, hsize⟩, ?_⟩, hsize⟩, ?_⟩, hdepth⟩, ?_⟩,
    hpartner⟩, ?_⟩, hproduct⟩, ?_⟩, hsize⟩, ?_⟩, hext⟩, ?_⟩
  all_goals decide

/-- Around the value of the link the document is printable. -/
theorem ruiDocument_bytes (partnerId : CStr) :
    ∃ before, Xml.Printable before ∧ ∀ urivalue : CStr,
      (ruiDocument partnerId urivalue).bytes = before ++
        (urivalue.bytes ++ (CStr.lit "</uri></protocol></ui></uilist>").bytes)
      := by
  obtain ⟨hicon₁, hicon₂, hicon₃, hicon₄⟩ := verbatimIcons
  have hicons : Xml.Printable (getCompatibleUisIconList partnerId).bytes := by
    simp only [getCompatibleUisIconList, CStr.bytes_append,
      Xml.printable_append]
    refine ⟨⟨⟨⟨⟨by decide, ?_⟩, ?_⟩, ?_⟩, ?_⟩, by decide⟩
    · exact printable_getCompatibleUisIcon hicon₁
    · exact printable_getCompatibleUisIcon hicon₂
    · exact printable_getCompatibleUisIcon hicon₃
    · exact printable_getCompatibleUisIcon hicon₄
  have hname := (verbatim_getServiceName partnerId).printable
  have hdesc := (verbatim_getServiceDescription partnerId).printable
  refine ⟨_, ?_, fun urivalue => List.append_assoc _ _ _⟩
  simp only [CStr.bytes_append, Xml.printable_append]
  refine ⟨⟨⟨⟨⟨⟨⟨⟨⟨⟨⟨⟨⟨?_, ?_⟩, ?_⟩, ?_⟩, ?_⟩, ?_⟩, hname⟩, ?_⟩, ?_⟩, hdesc⟩, ?_⟩,
    hicons⟩, ?_⟩, ?_⟩
  all_goals decide +kernel

theorem printableNames_xmlName : Xml.PrintableNames xmlName := by
  have hall : ∀ b : UInt8, ∀ name ∈ xmlName b,
      Xml.Printable [b] ∧ Xml.Printable name :=
    forall_byte (by decide +kernel)
  exact hall

/-- A document holds what XML allows exactly if the link in it does. -/
theorem allowed_ruiDocument_iff (partnerId link : CStr) :
    Xml.Allowed (ruiDocument partnerId (xmlescape link)).bytes ↔
      Xml.Allowed link.bytes := by
  obtain ⟨before, hbefore, hbytes⟩ := ruiDocument_bytes partnerId
  have hafter : Xml.Printable
      (CStr.lit "</uri></protocol></ui></uilist>").bytes := by decide
  rw [hbytes, Xml.allowed_printable_append hbefore,
    Xml.allowed_append_printable hafter]
  exact Xml.allowed_escape printableNames_xmlName

theorem escaping_xmlName : Xml.Escaping xmlEntities xmlName where
  amp := by decide
  lt := by decide
  quote := by decide
  names := by
    have hall : ∀ b : UInt8, ∀ name ∈ xmlName b,
        0x3B ∉ name ∧ 0x3C ∉ name ∧ 0x22 ∉ name :=
      forall_byte (by decide +kernel)
    exact hall
  self := by
    intro b c hc
    rw [reread_xmlName] at hc
    split at hc
    · cases hc
    · exact (Option.some.inj hc).symm

theorem normal_leaf {b : Bool} {name : Name} {content : List UInt8}
    {next : Siblings Xml.Node} (h : Verbatim content)
    (hnext : Xml.Normal false next) :
    Xml.Normal b (leaf name content next) :=
  ⟨⟨rfl, h.ne_nil, rfl, trivial⟩, hnext⟩

theorem normal_iconTree {b : Bool} {size depth : ℤ} {imageType imageExt : CStr}
    (h : VerbatimIcon size depth imageType imageExt)
    {next : Siblings Xml.Node} (hnext : Xml.Normal false next) :
    Xml.Normal b (iconTree partnerId size depth imageType imageExt next) :=
  ⟨normal_leaf h.mimetype <| normal_leaf h.size <| normal_leaf h.size <|
    normal_leaf h.depth ⟨rfl, List.cons_ne_nil _ _, rfl,
      normal_leaf (h.url partnerId) trivial⟩, hnext⟩

theorem normal_uiTree (partnerId : CStr) (hlink : link.bytes ≠ []) :
    Xml.Normal false (uiTree partnerId link) := by
  obtain ⟨hicon₁, hicon₂, hicon₃, hicon₄⟩ := verbatimIcons
  refine ⟨?_, trivial⟩
  apply normal_leaf (by decide)
  apply normal_leaf (verbatim_getServiceName partnerId)
  apply normal_leaf (verbatim_getServiceDescription partnerId)
  constructor
  · exact normal_iconTree hicon₁ <| normal_iconTree hicon₂ <|
      normal_iconTree hicon₃ <| normal_iconTree hicon₄ trivial
  · apply normal_leaf (by decide)
    apply normal_leaf (by decide)
    exact ⟨⟨⟨rfl, hlink, rfl, trivial⟩, trivial⟩, trivial⟩

theorem legible_iconTree {size depth : ℤ} {imageType imageExt : CStr}
    (h : VerbatimIcon size depth imageType imageExt)
    {next : Siblings Xml.Node} :
    (∀ text ∈ Xml.texts
        (iconTree partnerId size depth imageType imageExt next),
      Xml.Legible xmlEntities xmlName text) ↔
      ∀ text ∈ Xml.texts next, Xml.Legible xmlEntities xmlName text := by
  have hspace : Verbatim [0x20] := by decide
  rw [iconTree, Xml.forall_texts_branch]
  simp only [Xml.forall_texts_leaf, Xml.forall_texts_text,
    h.mimetype.legible, h.size.legible, h.depth.legible, hspace.legible,
    (h.url partnerId).legible, true_and]
  exact and_iff_right fun text ht => absurd ht List.not_mem_nil

/-- The link is the only text of the listing that may be illegible. -/
theorem legible_listing_iff (partnerId link : CStr) :
    (∀ text ∈ Xml.texts (listing partnerId link),
      Xml.Legible xmlEntities xmlName text) ↔ 0x22 ∉ link.bytes := by
  obtain ⟨hicon₁, hicon₂, hicon₃, hicon₄⟩ := verbatimIcons
  have hid : Verbatim (CStr.ascii "1234-9876-1265-8758") := by decide
  have hfork : Verbatim (CStr.ascii "true") := by decide
  have hlifetime : Verbatim (CStr.ascii "-1") := by decide
  have hattributes : ∀ attributes : Xml.Attributes,
      attributes.1.all (fun a => decide (Verbatim a.2)) = true →
      ∀ a ∈ attributes.1, Xml.Legible xmlEntities xmlName a.2 := by
    intro attributes h a ha
    have hverbatim := List.all_eq_true.mp h a ha
    exact (of_decide_eq_true hverbatim).legible
  have huilist := hattributes uilistAttributes (by decide +kernel)
  have hprotocol := hattributes protocolAttributes (by decide +kernel)
  have hnil : ∀ text ∈ Xml.texts .nil,
      Xml.Legible xmlEntities xmlName text :=
    fun text ht => absurd ht List.not_mem_nil
  rw [listing, Xml.forall_texts_element, uiTree, Xml.forall_texts_branch,
    Xml.forall_texts_leaf, Xml.forall_texts_leaf, Xml.forall_texts_leaf,
    Xml.forall_texts_branch, legible_iconTree hicon₁, legible_iconTree hicon₂,
    legible_iconTree hicon₃, legible_iconTree hicon₄, Xml.forall_texts_leaf,
    Xml.forall_texts_leaf, Xml.forall_texts_element, Xml.forall_texts_leaf,
    legible_iff (l := link.bytes)]
  constructor
  · rintro ⟨-, ⟨⟨-, -, -, -, -, -, -, ⟨hlink, -⟩, -⟩, -⟩, -⟩
    exact hlink
  · intro hlink
    exact ⟨huilist, ⟨⟨hid.legible, (verbatim_getServiceName partnerId).legible,
      (verbatim_getServiceDescription partnerId).legible, hnil,
      hfork.legible, hlifetime.legible, hprotocol, ⟨hlink, hnil⟩, hnil⟩, hnil⟩, hnil⟩

theorem linkText_ne_nil (h : link ∈ linkText c dev) : link.bytes ≠ [] := by
  have hpartner : CStr.lit "?partner=" ≠ .empty := by decide
  intro hnil
  apply hpartner
  apply CStr.ext
  cases c with
  | videoLibrary =>
      rw [linkText] at h
      split at h
      · cases h
      · obtain rfl := Option.some.inj h
        exact (List.append_eq_nil_iff.mp hnil).2
  | xcalDevice =>
      obtain rfl := Option.some.inj h
      have h₁ := (List.append_eq_nil_iff.mp hnil).1
      have h₂ := (List.append_eq_nil_iff.mp h₁).1
      have h₃ := (List.append_eq_nil_iff.mp h₂).1
      exact (List.append_eq_nil_iff.mp h₃).2

/-- The value of the link is the link, escaped. -/
theorem getUriValue_eq_linkText (c : Copy) (dev : UriSource) :
    getUriValue c dev = (linkText c dev).map xmlescape := by
  cases c with
  | videoLibrary =>
      rw [getUriValue_videoLibrary, linkText]
      split <;> rfl
  | xcalDevice => exact getUriValue_xcalDevice dev

/-- A document with a link. -/
theorem read_ruiDocument_iff (partnerId : CStr) (hlink : link.bytes ≠ []) :
    Xml.read xmlEntities (ruiDocument partnerId (xmlescape link)).bytes =
        some es ↔
      (Xml.Allowed link.bytes ∧ 0x22 ∉ link.bytes) ∧
        es = Xml.events (listing partnerId link) := by
  have hallowed := allowed_ruiDocument_iff partnerId link
  rw [ruiDocument_eq] at hallowed ⊢
  rw [← hallowed, ← legible_listing_iff partnerId link, and_assoc]
  exact Xml.read_print escaping_xmlName (normal_uiTree partnerId hlink)

/-- What is sent with a link. -/
theorem uiListing_of_linkText (c : Copy) (dev : UriSource) :
    uiListing c none dev = (linkText c dev).map fun link =>
      sentRui c (ruiDocument dev.partnerId (xmlescape link)) := by
  rw [uiListing, getruiurl, getUriValue_eq_linkText, Option.map_map,
    Option.map_map]
  simp only [Function.comp_def]

/-- Nothing is read from a buffer that the text does not fit. -/
theorem read_sentRui_iff {doc : CStr} :
    Xml.read xmlEntities (sentRui c doc).bytes = some es ↔
      Xml.read xmlEntities doc.bytes = some es ∧
        (c = .videoLibrary → doc.bytes.length < ruiUrlSize) := by
  have hempty : Xml.read xmlEntities CStr.empty.bytes = none := by decide
  cases c with
  | xcalDevice => exact (and_iff_left fun h => by cases h).symm
  | videoLibrary =>
      rw [sentRui]
      by_cases h : doc.bytes.length < ruiUrlSize
      · rw [strcpied_of_lt h]
        exact (and_iff_left fun _ => h).symm
      · rw [strcpied_of_not_lt h, hempty]
        constructor
        · intro hread
          cases hread
        · intro hread
          exact absurd (hread.2 rfl) h

/-- A percent encoded text is printable. -/
theorem printable_uriescape (text : CStr) :
    Xml.Printable (uriescape text).bytes := by
  have hkept : ∀ b : UInt8, unreserved b = true →
      (0x20 ≤ b && b < 0x80) = true := forall_byte (by decide +kernel)
  have hdigit : ∀ b : UInt8, Percent.hexValue b ≠ none →
      (0x20 ≤ b && b < 0x80) = true := forall_byte (by decide +kernel)
  apply List.all_eq_true.mpr
  intro a ha
  obtain ⟨b, -, ha⟩ := List.mem_flatMap.mp ha
  rcases Percent.mem_escapeByte ha with ⟨hb, rfl⟩ | rfl | h
  · exact hkept a hb
  · decide
  · exact hdigit a h

/-- The link of `xcal-device.c` can be sent exactly if the address and the id
can. -/
theorem sendable_xcalDevice_iff (dev : UriSource) :
    Sendable .xcalDevice dev.partnerId
        (dev.prefixText ++ uriescape dev.gwValue) ↔
      (Xml.Allowed dev.urilink.bytes ∧ Xml.Allowed dev.partnerId.bytes) ∧
        0x22 ∉ dev.urilink.bytes ∧ 0x22 ∉ dev.partnerId.bytes := by
  have hquote : 0x22 ∉ (dev.prefixText ++ uriescape dev.gwValue).bytes ↔
      0x22 ∉ dev.urilink.bytes ∧ 0x22 ∉ dev.partnerId.bytes := by
    have hlits : 0x22 ∉ (CStr.lit "?partner=").bytes ∧
        0x22 ∉ (CStr.lit "&gw=").bytes := by decide
    have hgw := quote_notMem_uriescape dev.gwValue
    simp [UriSource.prefixText, hlits, hgw]
  have hallowed : Xml.Allowed (dev.prefixText ++ uriescape dev.gwValue).bytes ↔
      Xml.Allowed dev.urilink.bytes ∧ Xml.Allowed dev.partnerId.bytes := by
    have hpartner : (CStr.lit "?partner=").bytes =
        0x3F :: CStr.ascii "partner=" := by decide
    have hgw : (CStr.lit "&gw=").bytes = CStr.ascii "&gw=" := by decide
    have hbytes : (dev.prefixText ++ uriescape dev.gwValue).bytes =
        dev.urilink.bytes ++ 0x3F :: (CStr.ascii "partner=" ++
          (dev.partnerId.bytes ++
            (CStr.ascii "&gw=" ++ (uriescape dev.gwValue).bytes))) := by
      simp [UriSource.prefixText, hpartner, hgw]
    have hrest : Xml.Printable
        (CStr.ascii "&gw=" ++ (uriescape dev.gwValue).bytes) :=
      Xml.printable_append.mpr ⟨by decide, printable_uriescape _⟩
    rw [hbytes, Xml.allowed_append_cons (by decide),
      Xml.allowed_printable_append (by decide),
      Xml.allowed_append_printable hrest]
  constructor
  · intro h
    exact ⟨hallowed.mp h.allowed, hquote.mp h.unquoted⟩
  · rintro ⟨h, hq⟩
    exact ⟨hallowed.mpr h, hquote.mpr hq, fun h => by cases h⟩

end Read

end Xupnp.XcalDevice
