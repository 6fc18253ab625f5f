import Xupnp.Library.EditInTurn
import Xupnp.XcalDevice.XmlTree

/-!
# The device description is rewritten

`updatexmldata` reads the device description, sets a few nodes of it and writes
it back over the file it came from. The file is emptied before the document is
dumped: `updatexmldata_keeps_iff` says when a call that fails leaves the file as
it was, and one that succeeds leaves the document in it as it was requested.
-/

namespace Xupnp.XcalDevice

open Xupnp.Library
open Siblings (First Editor)

/-! ## The code -/

/-- A node to set. No text node is meant by its name. -/
structure XmlRequest where
  name : CStr
  value : CStr
  name_ne : name ≠ .lit "text"

/-- Who updates the description. -/
inductive Updater where
  /-- `xcal-device-main.c`, where `friendlyName` may be `NULL`. -/
  | xcalDevice (rfcEnabled : Bool) (friendlyName : Option CStr)
  /-- `idm_server.c` -/
  | idmServer

/-- The nodes it sets, in order. -/
def Updater.requests (struuid serialno : CStr) : Updater → List XmlRequest
  | .xcalDevice rfcEnabled friendlyName =>
      [⟨.lit "UPC", if rfcEnabled then .lit "10000" else .lit "", by decide⟩,
        ⟨.lit "UDN", struuid, by decide⟩,
        ⟨.lit "serialNumber", serialno, by decide⟩] ++
      (friendlyName.map fun name =>
        ⟨.lit "friendlyName", name, by decide⟩).toList
  | .idmServer =>
      [⟨.lit "UDN", struuid, by decide⟩,
        ⟨.lit "serialNumber", serialno, by decide⟩]

/-- What libxml2 and the file system do in a call. -/
structure XmlWorld where
  decode : CStr → CStr
  /-- `xmlReadFile` -/
  parse : List UInt8 → Option XmlDoc
  /-- Does `fopen (xmlfilename, "w")` succeed. -/
  opens : Bool
  /-- The text that `xmlDocFormatDump` writes. -/
  dump : XmlDoc → List UInt8
  /-- What it has written instead where it fails. -/
  torn : Option (List UInt8)

/-- The end of a call: its result, the file, and the document that was given to
`xmlDocFormatDump`, if it got there. -/
structure XmlUpdate where
  result : Bool
  file : Option (List UInt8)
  dumped : Option XmlDoc

/-- The calls of `set_content`: the document after them, or none if one has
failed. -/
def setContents (decode : CStr → CStr) (doc : XmlDoc) :
    List XmlRequest → Option (Option XmlDoc)
  | [] => some (some doc)
  | r :: rs =>
      match setContent decode doc r.name r.value with
      | none => none
      | some (0, doc') => setContents decode doc' rs
      | some (_ + 1, _) => some none

/-- `updatexmldata`. The file is `none` if there is none. -/
def updatexmldata (w : XmlWorld) (u : Updater) (struuid serialno : CStr)
    (file : Option (List UInt8)) : Option XmlUpdate :=
  match file.bind w.parse with
  | none => some ⟨false, file, none⟩
  | some doc =>
      match setContents w.decode doc (u.requests struuid serialno) with
      | none => none
      | some none => some ⟨false, file, none⟩
      | some (some doc') =>
          if w.opens then
            match w.torn with
            | none => some ⟨true, some (w.dump doc'), some doc'⟩
            | some written => some ⟨false, some written, some doc'⟩
          else some ⟨false, file, none⟩

/-! ## What it is for -/

/-- The first node of each name has the content that is requested, and the
other nodes are as before, but for those that were below one of these. -/
structure AsRequested (doc doc' : XmlDoc) (rs : List XmlRequest) : Prop where
  prolog : doc'.prolog = doc.prolog
  set : ∀ r ∈ rs, ∃ p, First (Named r.name) doc.root p ∧
    First (Named r.name) doc'.root p ∧
    (doc'.root.labelAt p).map XmlNode.attributes =
      (doc.root.labelAt p).map XmlNode.attributes ∧
    (doc'.root.nodeAt p).map xmlNodeGetContent = some r.value
  others : ∀ q, (∀ r ∈ rs, ∀ p, First (Named r.name) doc.root p →
    q ≠ p ∧ ¬ p.Below q) → doc'.root.labelAt q = doc.root.labelAt q

/-- A call that fails leaves the file as it was, and after one that succeeds the
document is in it as it was requested. -/
def KeepsFile (w : XmlWorld) (u : Updater) (struuid serialno : CStr)
    (file : Option (List UInt8)) : Prop :=
  ∀ run ∈ updatexmldata w u struuid serialno file,
    (run.result = false → run.file = file) ∧
    (run.result = true → ∃ doc doc', file.bind w.parse = some doc ∧
      run.dumped = some doc' ∧ run.file = some (w.dump doc') ∧
      AsRequested doc doc' (u.requests struuid serialno))

/-! ## The nodes, one after the other -/

theorem label_text {decode : CStr → CStr} {value : CStr} {a b : XmlNode}
    {q : Pos} (h : b ∈ (xmlNodeSetContent decode value a).2.labelAt q) :
    b.name = some (.lit "text") := by
  cases a with
  | element name attributes =>
      rcases q with _ | ⟨_ | _, q⟩
      · obtain rfl : XmlNode.text (decode value) = b := Option.some.inj h
        rfl
      · cases h
      · cases h
  | text content => cases h
  | cdata content => cases h
  | comment content => cases h
  | pi target content => cases h

/-- `set_content` as an edit of the tree. -/
def xmlEditor (decode : CStr → CStr) : Editor XmlNode CStr XmlRequest where
  kind := XmlNode.name
  name := XmlRequest.name
  edit r a := xmlNodeSetContent decode r.value a
  readable a := a.name ≠ none
  keeps r a := xmlNodeSetContent_name a
  fresh r a q b hb s hname := by
    rw [label_text hb] at hname
    exact s.name_ne (Option.some.inj hname).symm

/-- The values go in as they are, where a node that is set is an element. -/
def Plain (decode : CStr → CStr) (t : Siblings XmlNode)
    (rs : List XmlRequest) : Prop :=
  ∀ r ∈ rs, ∀ p, First (Named r.name) t p → ∀ a ∈ t.labelAt p,
    a.isElement = true → decode r.value = r.value

/-- Where the file is read and opened again, and the nodes are found one after
the other, the document is dumped, none of the nodes is below another one and
the values go in as they are; or what a dump that fails has written is what the
file had. -/
def UpdateSafe (w : XmlWorld) (rs : List XmlRequest)
    (file : Option (List UInt8)) : Prop :=
  ∀ doc t', file.bind w.parse = some doc → w.opens = true →
    (xmlEditor w.decode).SetInTurn doc.root rs t' →
    (∀ written ∈ w.torn, file = some written) ∧
    (w.torn = none → (xmlEditor w.decode).Apart doc.root rs ∧
      Plain w.decode doc.root rs)

section

variable {decode : CStr → CStr} {doc doc' : XmlDoc} {rs : List XmlRequest}
  {struuid serialno : CStr}

theorem setContents_cons (r : XmlRequest) (rs : List XmlRequest)
    (h : setContents decode doc (r :: rs) = some (some doc')) :
    ∃ p a, getNodeByName r.name doc.root = some (some (p, a)) ∧
      setContents decode { doc with
        root := doc.root.replaceAt p (xmlNodeSetContent decode r.value a) } rs =
          some (some doc') := by
  rw [setContents, setContent] at h
  cases hfound : getNodeByName r.name doc.root with
  | none =>
      rw [hfound] at h
      cases h
  | some found =>
      rw [hfound] at h
      cases found with
      | none => cases h
      | some x => exact ⟨x.1, x.2, rfl, h⟩

/-- The calls that succeed set the nodes in turn. -/
theorem setContents_iff :
    setContents decode doc rs = some (some doc') ↔
      doc'.prolog = doc.prolog ∧
        (xmlEditor decode).SetInTurn doc.root rs doc'.root := by
  constructor
  · intro h
    induction rs generalizing doc with
    | nil =>
        obtain rfl : doc = doc' := Option.some.inj (Option.some.inj h)
        exact ⟨rfl, .nil⟩
    | cons r rs ih =>
        obtain ⟨p, a, hfound, hrest⟩ := setContents_cons r rs h
        obtain ⟨hprolog, hturn⟩ := ih hrest
        obtain ⟨hfirst, hlabel, hreadable⟩ := getNodeByName_some hfound
        exact ⟨hprolog, .cons hfirst hlabel hreadable hturn⟩
  · rintro ⟨hprolog, hturn⟩
    obtain ⟨prolog, root⟩ := doc
    obtain ⟨prolog', root'⟩ := doc'
    obtain rfl : prolog' = prolog := hprolog
    dsimp only at hturn
    induction hturn with
    | nil => rfl
    | @cons t t' p a r rs first label readable rest ih =>
        obtain ⟨b, hb, hfound⟩ := getNodeByName_of_first first readable
        obtain rfl : a = b := Option.some.inj (label.symm.trans hb)
        rw [setContents, setContent_found hfound]
        exact ih

theorem requests_nodup (u : Updater) :
    ((u.requests struuid serialno).map (xmlEditor decode).name).Nodup := by
  cases u with
  | xcalDevice rfcEnabled friendlyName =>
      cases friendlyName with
      | none =>
          show [CStr.lit "UPC", .lit "UDN", .lit "serialNumber"].Nodup
          decide
      | some name =>
          show [CStr.lit "UPC", .lit "UDN", .lit "serialNumber",
            .lit "friendlyName"].Nodup
          decide
  | idmServer =>
      show [CStr.lit "UDN", .lit "serialNumber"].Nodup
      decide

/-- **What was set in turn is as requested.** -/
theorem asRequested_iff
    (hturn : (xmlEditor decode).SetInTurn doc.root rs doc'.root)
    (hprolog : doc'.prolog = doc.prolog)
    (hnodup : (rs.map (xmlEditor decode).name).Nodup) :
    AsRequested doc doc' rs ↔
      (xmlEditor decode).Apart doc.root rs ∧ Plain decode doc.root rs := by
  constructor
  · intro h
    have hapart : (xmlEditor decode).Apart doc.root rs := by
      refine hturn.apart fun r hr => ?_
      obtain ⟨p, hp, hp', -, -⟩ := h.set r hr
      exact ⟨p, hp, hp'⟩
    refine ⟨hapart, fun r hr p hp a ha helement => ?_⟩
    obtain ⟨q, b, hq, hb, -, hnode⟩ := (hturn.edited hnodup hapart).set r hr
    obtain rfl : p = q := hp.unique hq
    obtain rfl : a = b := Option.some.inj (ha.symm.trans hb)
    obtain ⟨q, hq', -, -, hcontent⟩ := h.set r hr
    obtain rfl : p = q := hp.unique hq'
    rw [hnode, Option.map_some] at hcontent
    have hread := @xmlNodeGetContent_set decode r.value a
    rw [if_pos helement] at hread
    exact hread.symm.trans (Option.some.inj hcontent)
  · rintro ⟨hapart, hplain⟩
    have hedited := hturn.edited hnodup hapart
    refine ⟨hprolog, fun r hr => ?_, hedited.others⟩
    obtain ⟨p, a, hp, ha, hp', hnode⟩ := hedited.set r hr
    have hedit : (xmlEditor decode).edit r a =
        xmlNodeSetContent decode r.value a := rfl
    refine ⟨p, hp, hp', ?_, ?_⟩
    · rw [Siblings.labelAt, hnode, hedit, ha, Option.map_some, Option.map_some,
        Option.map_some, xmlNodeSetContent_attributes]
    · rw [hnode, hedit, Option.map_some, xmlNodeGetContent_set]
      split
      · next helement => rw [hplain r hr p hp a ha helement]
      · rfl

end

section

variable {w : XmlWorld} {u : Updater} {struuid serialno : CStr}
  {file : Option (List UInt8)} {doc doc' : XmlDoc}

/-- A call that ends before the file is opened leaves it alone. -/
theorem keepsFile_of_unopened
    (h : ∀ run ∈ updatexmldata w u struuid serialno file,
      run = ⟨false, file, none⟩) : KeepsFile w u struuid serialno file := by
  intro run hrun
  rw [h run hrun]
  exact ⟨fun _ => rfl, fun hresult => Bool.noConfusion hresult⟩

/-- Without a node, or without the file, there is nothing to dump. -/
theorem updatexmldata_unopened (hparse : file.bind w.parse = some doc)
    (h : w.opens = true → ∀ doc', setContents w.decode doc
      (u.requests struuid serialno) ≠ some (some doc')) :
    ∀ run ∈ updatexmldata w u struuid serialno file,
      run = ⟨false, file, none⟩ := by
  intro run hrun
  rw [updatexmldata, hparse] at hrun
  dsimp only at hrun
  cases hset : setContents w.decode doc (u.requests struuid serialno) with
  | none =>
      rw [hset] at hrun
      cases hrun
  | some found =>
      rw [hset] at hrun
      cases found with
      | none => exact (Option.some.inj hrun).symm
      | some doc' =>
          have hclosed : ¬ w.opens = true := fun hopens => h hopens doc' hset
          dsimp only at hrun
          rw [if_neg hclosed] at hrun
          exact (Option.some.inj hrun).symm

/-- The call gets as far as the dump. -/
theorem keepsFile_of_dumped (hparse : file.bind w.parse = some doc)
    (hset : setContents w.decode doc (u.requests struuid serialno) =
      some (some doc')) (hopens : w.opens = true) :
    KeepsFile w u struuid serialno file ↔
      (∀ written ∈ w.torn, file = some written) ∧
      (w.torn = none →
        AsRequested doc doc' (u.requests struuid serialno)) := by
  unfold KeepsFile updatexmldata
  rw [hparse]
  dsimp only
  rw [hset]
  dsimp only
  rw [if_pos hopens]
  cases w.torn with
  | none =>
      constructor
      · intro h
        refine ⟨by simp, fun _ => ?_⟩
        obtain ⟨d, d', hd, hd', -, hrequested⟩ := (h _ rfl).2 rfl
        obtain rfl := Option.some.inj hd
        obtain rfl := Option.some.inj hd'
        exact hrequested
      · rintro ⟨-, hrequested⟩ run hrun
        obtain rfl := Option.some.inj hrun
        exact ⟨fun hresult => Bool.noConfusion hresult, fun _ =>
          ⟨doc, doc', rfl, rfl, rfl, hrequested rfl⟩⟩
  | some written =>
      constructor
      · intro h
        refine ⟨fun x hx => ?_, fun hnone => by cases hnone⟩
        obtain rfl := Option.some.inj hx
        exact ((h _ rfl).1 rfl).symm
      · rintro ⟨hwritten, -⟩ run hrun
        obtain rfl := Option.some.inj hrun
        exact ⟨fun _ => (hwritten written rfl).symm,
          fun hresult => Bool.noConfusion hresult⟩

end

/-- **When the file is kept.** -/
theorem updatexmldata_keeps_iff (w : XmlWorld) (u : Updater)
    (struuid serialno : CStr) (file : Option (List UInt8)) :
    KeepsFile w u struuid serialno file ↔
      UpdateSafe w (u.requests struuid serialno) file := by
  cases hparse : file.bind w.parse with
  | none =>
      refine iff_of_true (keepsFile_of_unopened fun run hrun => ?_) ?_
      · rw [updatexmldata, hparse] at hrun
        exact (Option.some.inj hrun).symm
      · intro doc t' hdoc
        rw [hparse] at hdoc
        cases hdoc
  | some doc =>
      by_cases hreach : w.opens = true ∧ ∃ doc', setContents w.decode doc
          (u.requests struuid serialno) = some (some doc')
      · obtain ⟨hopens, doc', hset⟩ := hreach
        obtain ⟨hprolog, hturn⟩ := setContents_iff.mp hset
        rw [keepsFile_of_dumped hparse hset hopens,
          asRequested_iff hturn hprolog (requests_nodup u)]
        constructor
        · intro h d t' hd _ _
          rw [hparse] at hd
          obtain rfl := Option.some.inj hd
          exact h
        · intro h
          exact h doc doc'.root hparse hopens hturn
      · have hstop : w.opens = true → ∀ doc', setContents w.decode doc
            (u.requests struuid serialno) ≠ some (some doc') :=
          fun hopens doc' hset => hreach ⟨hopens, doc', hset⟩
        refine iff_of_true
          (keepsFile_of_unopened (updatexmldata_unopened hparse hstop)) ?_
        intro d t' hd hopens hturn
        rw [hparse] at hd
        obtain rfl := Option.some.inj hd
        have hset := @setContents_iff w.decode doc { doc with root := t' }
          (u.requests struuid serialno)
        exact absurd (hset.mpr ⟨rfl, hturn⟩) (hstop hopens _)

def serialNumberName : XmlName := ⟨.lit "serialNumber", by decide⟩

def upcName : XmlName := ⟨.lit "UPC", by decide⟩

/-! ## A device without space -/

/-- A byte of a text or of the value of an attribute, as it is written. -/
def writeByte (b : UInt8) : List UInt8 :=
  if b = 0x26 then CStr.ascii "&amp;"
  else if b = 0x3C then CStr.ascii "&lt;"
  else if b = 0x3E then CStr.ascii "&gt;"
  else if b = 0x22 then CStr.ascii "&quot;"
  else [b]

def writeAttribute (attr : CStr × CStr) : List UInt8 :=
  0x20 :: attr.1.bytes ++ CStr.ascii "=\"" ++ attr.2.bytes.flatMap writeByte ++
    CStr.ascii "\""

/-- Nodes as they are written, on one line. -/
def writeNodes : Siblings XmlNode → List UInt8
  | .nil => []
  | .node (.element name attributes) .nil next =>
      CStr.ascii "<" ++ name.1.bytes ++ attributes.flatMap writeAttribute ++
        CStr.ascii "/>" ++ writeNodes next
  | .node (.element name attributes) children next =>
      CStr.ascii "<" ++ name.1.bytes ++ attributes.flatMap writeAttribute ++
        CStr.ascii ">" ++ writeNodes children ++
        CStr.ascii "</" ++ name.1.bytes ++ CStr.ascii ">" ++ writeNodes next
  | .node (.text content) _ next =>
      content.bytes.flatMap writeByte ++ writeNodes next
  | .node (.cdata content) _ next =>
      CStr.ascii "<![CDATA[" ++ content.bytes ++ CStr.ascii "]]>" ++
        writeNodes next
  | .node (.comment content) _ next =>
      CStr.ascii "<!--" ++ content.bytes ++ CStr.ascii "-->" ++ writeNodes next
  | .node (.pi target content) _ next =>
      CStr.ascii "<?" ++ target.1.bytes ++ 0x20 :: content.bytes ++
        CStr.ascii "?>" ++ writeNodes next

def writeDoc (doc : XmlDoc) : List UInt8 :=
  (doc.prolog.flatMap fun a => writeNodes (.node a .nil .nil)) ++
    writeNodes doc.root

/-- A description with the nodes that are set. -/
def plainDoc : XmlDoc where
  prolog := []
  root := .node (.element rootName [])
    (.node (.element friendlyNameName []) .nil
      (.node (.element serialNumberName []) .nil
        (.node (.element udnName []) .nil
          (.node (.element upcName []) .nil .nil))))
    .nil

/-- There is no space left on the device. -/
def fullDisk : XmlWorld where
  decode := id
  parse := fun text => if text = writeDoc plainDoc then some plainDoc else none
  opens := true
  dump := writeDoc
  torn := some []

/-- The file is emptied, and the call fails. -/
theorem updatexmldata_full_disk :
    ¬ KeepsFile fullDisk (.xcalDevice false (some (.lit "XFINITY")))
      (.lit "uuid:1") (.lit "S1") (some (CStr.ascii
        "<root><friendlyName/><serialNumber/><UDN/><UPC/></root>")) := by
  intro h
  have hkept := (h _ rfl).1 rfl
  revert hkept
  decide

example : (updatexmldata { fullDisk with torn := none }
    (.xcalDevice true (some (.lit "XFINITY"))) (.lit "uuid:1") (.lit "S1")
    (some (writeDoc plainDoc))).bind XmlUpdate.file =
    some (CStr.ascii <| "<root><friendlyName>XFINITY</friendlyName>" ++
      "<serialNumber>S1</serialNumber><UDN>uuid:1</UDN>" ++
      "<UPC>10000</UPC></root>") := by decide

end Xupnp.XcalDevice
