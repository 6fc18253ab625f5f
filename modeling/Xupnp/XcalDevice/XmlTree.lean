import Xupnp.Library.CString
import Xupnp.Library.Siblings

/-!
# The nodes of a device description

The device description is an XML document, and its nodes are looked for by
name: down first, then on to the next sibling. libxml2 gives every node a name
but the CDATA sections, and the search takes the length of each name it meets.
`getNodeByName_sets_iff` says when the first node of a name is found, and what
setting its content does.
-/

namespace Xupnp.XcalDevice

open Xupnp.Library
open Siblings (First)

/-! ## The tree of libxml2 -/

abbrev XmlName := {s : CStr // s ≠ .empty}

/-- `xmlNode`, without its pointers. Character references and the predefined
entities are part of the texts. A reference to another entity is not among the
nodes: its child is the declaration in the document type, outside the tree. -/
inductive XmlNode where
  | element (name : XmlName) (attributes : List (CStr × CStr))
  | text (content : CStr)
  | cdata (content : CStr)
  | comment (content : CStr)
  | pi (target : XmlName) (content : CStr)

namespace XmlNode

/-- `name`, which is `NULL` for a CDATA section. -/
def name : XmlNode → Option CStr
  | .element name _ => some name.1
  | .text _ => some (.lit "text")
  | .cdata _ => none
  | .comment _ => some (.lit "comment")
  | .pi target _ => some target.1

def attributes : XmlNode → List (CStr × CStr)
  | .element _ attributes => attributes
  | _ => []

def isElement : XmlNode → Bool
  | .element _ _ => true
  | _ => false

/-- What a node is to the text of the nodes above it. -/
def ownText : XmlNode → CStr
  | .text content => content
  | .cdata content => content
  | _ => .empty

end XmlNode

/-- The text of some siblings and of what is below them. -/
def siblingsText : Siblings XmlNode → CStr
  | .nil => .empty
  | .node a children next =>
      a.ownText ++ siblingsText children ++ siblingsText next

/-- `xmlNodeGetContent` -/
def xmlNodeGetContent : XmlNode × Siblings XmlNode → CStr
  | (.element _ _, children) => siblingsText children
  | (.text content, _) => content
  | (.cdata content, _) => content
  | (.comment content, _) => content
  | (.pi _ content, _) => content

/-- `xmlNodeSetContent`: an element gets one text, in which references are
decoded. The value is taken as it is for the content of the other nodes. -/
def xmlNodeSetContent (decode : CStr → CStr) (value : CStr) :
    XmlNode → XmlNode × Siblings XmlNode
  | .element name attributes =>
      (.element name attributes, .node (.text (decode value)) .nil .nil)
  | .text _ => (.text value, .nil)
  | .cdata _ => (.cdata value, .nil)
  | .comment _ => (.comment value, .nil)
  | .pi target _ => (.pi target value, .nil)

/-- `xmlDoc`: what is in front of the root element, and its siblings from there
on. -/
structure XmlDoc where
  prolog : List XmlNode
  root : Siblings XmlNode

/-! ## The code -/

/-- `get_node_by_name`: the node and where it is, or `NULL`. There is no result
where the length of a name that is `NULL` is taken. -/
def getNodeByName (nodeName : CStr) :
    Siblings XmlNode → Option (Option (Pos × XmlNode))
  | .nil => some none
  | .node curNode children next =>
      match curNode.name with
      | none => none
      | some name =>
          if name = nodeName then some (some ([], curNode))
          else
            match getNodeByName nodeName children with
            | none => none
            | some (some (p, a)) => some (some (.child :: p, a))
            | some none =>
                match getNodeByName nodeName next with
                | none => none
                | some (some (p, a)) => some (some (.next :: p, a))
                | some none => some none

/-- `set_content`: the result and the document. -/
def setContent (decode : CStr → CStr) (doc : XmlDoc)
    (nodeName newValue : CStr) : Option (ℕ × XmlDoc) :=
  match getNodeByName nodeName doc.root with
  | none => none
  | some none => some (1, doc)
  | some (some (p, a)) =>
      some (0, { doc with
        root := doc.root.replaceAt p (xmlNodeSetContent decode newValue a) })

/-- `get_content` -/
def getContent (doc : XmlDoc) (nodeName : CStr) : Option (Option CStr) :=
  match getNodeByName nodeName doc.root with
  | none => none
  | some none => some none
  | some (some (p, _)) => some ((doc.root.nodeAt p).map xmlNodeGetContent)

/-! ## What it is for -/

def Named (nodeName : CStr) (a : XmlNode) : Prop := a.name = some nodeName

/-- The content of one node is the value, and the other nodes are as before,
but for those that were below it. -/
structure ContentSet (doc doc' : XmlDoc) (p : Pos) (value : CStr) : Prop where
  prolog : doc'.prolog = doc.prolog
  others : ∀ q, q ≠ p → ¬ p.Below q →
    doc'.root.labelAt q = doc.root.labelAt q
  node : ∃ a a', doc.root.labelAt p = some a ∧ doc'.root.labelAt p = some a' ∧
    a'.name = a.name ∧ a'.attributes = a.attributes
  content : (doc'.root.nodeAt p).map xmlNodeGetContent = some value

/-- The search finds the first node of the name, if there is one, and setting
its content sets it and nothing else, so that it is found again. -/
structure FindsAndSets (decode : CStr → CStr) (doc : XmlDoc)
    (nodeName newValue : CStr) : Prop where
  finds : ∃ found, getNodeByName nodeName doc.root = some found ∧
    (∀ x ∈ found, First (Named nodeName) doc.root x.1 ∧
      doc.root.labelAt x.1 = some x.2) ∧
    (found = none ↔ ∀ p, ∀ a ∈ doc.root.labelAt p, ¬ Named nodeName a)
  sets : ∀ p a, getNodeByName nodeName doc.root = some (some (p, a)) →
    ∃ doc' a', setContent decode doc nodeName newValue = some (0, doc') ∧
      ContentSet doc doc' p newValue ∧
      getNodeByName nodeName doc'.root = some (some (p, a')) ∧
      getContent doc' nodeName = some (some newValue)

/-- Every node without a name comes behind one of the name, and the value is
one that libxml2 does not decode, if it is an element that is set. -/
structure Searchable (decode : CStr → CStr) (doc : XmlDoc)
    (nodeName newValue : CStr) : Prop where
  nameless : ∀ q, ∀ a ∈ doc.root.labelAt q, a.name = none →
    ∃ p, p.Before q ∧ ∃ b ∈ doc.root.labelAt p, Named nodeName b
  value : ∀ p, First (Named nodeName) doc.root p →
    ∀ a ∈ doc.root.labelAt p, a.isElement = true → decode newValue = newValue

section

variable {decode : CStr → CStr} {doc : XmlDoc} {nodeName value : CStr}
  {t : Siblings XmlNode} {p : Pos} {a : XmlNode}

/-! ## The search -/

/-- The search stops here: the name is the one it looks for, or there is none. -/
def stops (nodeName : CStr) (a : XmlNode) : Bool :=
  a.name.all (· == nodeName)

theorem stops_iff : stops nodeName a = true ↔
    a.name = none ∨ Named nodeName a := by
  unfold stops Named
  cases a.name <;> simp

/-- What comes of the node where the search stops. -/
def reached : Option (Pos × XmlNode) → Option (Option (Pos × XmlNode))
  | none => some none
  | some x => x.2.name.map fun _ => some x

/-- The search goes on to the first node where it stops. -/
theorem getNodeByName_eq (nodeName : CStr) (t : Siblings XmlNode) :
    getNodeByName nodeName t = reached (t.find? (stops nodeName)) := by
  induction t with
  | nil => rfl
  | node a children next ihc ihn =>
      rw [getNodeByName, Siblings.find?, ihc, ihn]
      cases hname : a.name with
      | none =>
          have hstop : stops nodeName a = true := by simp [stops, hname]
          simp [hstop, reached, hname]
      | some name =>
          by_cases h : name = nodeName
          · have hstop : stops nodeName a = true := by simp [stops, hname, h]
            simp [hstop, reached, hname, h]
          · have hstop : stops nodeName a = false := by simp [stops, hname, h]
            simp only [hstop, h, if_false, Bool.false_eq_true]
            cases children.find? (stops nodeName) with
            | some x => cases hx : x.2.name <;> simp [reached, hx]
            | none =>
                cases next.find? (stops nodeName) with
                | none => rfl
                | some x => cases hx : x.2.name <;> simp [reached, hx]

theorem getNodeByName_some (h : getNodeByName nodeName t = some (some (p, a))) :
    First (Named nodeName) t p ∧ t.labelAt p = some a ∧
      ∀ q, q.Before p → ∀ b ∈ t.labelAt q, b.name ≠ none := by
  rw [getNodeByName_eq] at h
  cases hfind : t.find? (stops nodeName) with
  | none =>
      rw [hfind] at h
      cases h
  | some x =>
      rw [hfind, reached, Option.map_eq_some_iff] at h
      obtain ⟨name, hname, hx⟩ := h
      obtain rfl : x = (p, a) := Option.some.inj hx
      obtain ⟨hlabel, hstop, hbefore⟩ := Siblings.find?_eq_some hfind
      have hpass : ∀ q, q.Before p → ∀ b ∈ t.labelAt q,
          ¬ (b.name = none ∨ Named nodeName b) := by
        intro q hq b hb
        rw [← stops_iff, hbefore q hq b hb]
        exact Bool.false_ne_true
      have hnamed : Named nodeName a := by
        rcases stops_iff.mp hstop with hnone | hnamed
        · rw [hnone] at hname
          cases hname
        · exact hnamed
      refine ⟨⟨⟨a, hlabel, hnamed⟩, ?_⟩, hlabel, ?_⟩
      · exact fun q hq b hb hb' => hpass q hq b hb (.inr hb')
      · exact fun q hq b hb hb' => hpass q hq b hb (.inl hb')

theorem getNodeByName_null (h : getNodeByName nodeName t = some none) :
    ∀ q, ∀ b ∈ t.labelAt q, b.name ≠ none ∧ ¬ Named nodeName b := by
  rw [getNodeByName_eq] at h
  cases hfind : t.find? (stops nodeName) with
  | none =>
      intro q b hb
      have hpass : ¬ (b.name = none ∨ Named nodeName b) := by
        rw [← stops_iff, Siblings.find?_eq_none hfind q b hb]
        exact Bool.false_ne_true
      exact not_or.mp hpass
  | some x =>
      rw [hfind, reached, Option.map_eq_some_iff] at h
      obtain ⟨name, -, hx⟩ := h
      cases hx

/-- The search ends badly at a node without a name that has none of the name in
front of it. -/
theorem getNodeByName_fault (h : getNodeByName nodeName t = none) :
    ∃ q, (∃ b ∈ t.labelAt q, b.name = none) ∧
      ∀ p, p.Before q → ∀ b ∈ t.labelAt p, ¬ Named nodeName b := by
  rw [getNodeByName_eq] at h
  cases hfind : t.find? (stops nodeName) with
  | none =>
      rw [hfind] at h
      cases h
  | some x =>
      rw [hfind, reached, Option.map_eq_none_iff] at h
      obtain ⟨hlabel, -, hbefore⟩ := Siblings.find?_eq_some hfind
      refine ⟨x.1, ⟨x.2, hlabel, h⟩, fun p hp b hb hnamed => ?_⟩
      have hstop := stops_iff.mpr (.inr hnamed)
      rw [hbefore p hp b hb] at hstop
      cases hstop

/-- The first node of a name is found if every node in front of it has a
name. -/
theorem getNodeByName_of_first (h : First (Named nodeName) t p)
    (hnamed : ∀ q, q.Before p → ∀ b ∈ t.labelAt q, b.name ≠ none) :
    ∃ a, t.labelAt p = some a ∧
      getNodeByName nodeName t = some (some (p, a)) := by
  obtain ⟨b, hb, hname⟩ := h.here
  have hfirst : First (stops nodeName · = true) t p := by
    refine ⟨⟨b, hb, stops_iff.mpr (.inr hname)⟩, fun q hq c hc hstop => ?_⟩
    rcases stops_iff.mp hstop with hnone | hname'
    · exact hnamed q hq c hc hnone
    · exact h.before q hq c hc hname'
  obtain ⟨a, ha, hfind⟩ := Siblings.find?_of_first hfirst
  obtain rfl : a = b := Option.some.inj (ha.symm.trans hb)
  refine ⟨a, ha, ?_⟩
  rw [getNodeByName_eq, hfind, reached, hname]
  rfl

/-! ## Setting the content -/

theorem xmlNodeSetContent_name (a : XmlNode) :
    (xmlNodeSetContent decode value a).1.name = a.name := by
  cases a <;> rfl

theorem xmlNodeSetContent_attributes (a : XmlNode) :
    (xmlNodeSetContent decode value a).1.attributes = a.attributes := by
  cases a <;> rfl

/-- What the content is read as. -/
theorem xmlNodeGetContent_set (a : XmlNode) :
    xmlNodeGetContent (xmlNodeSetContent decode value a) =
      if a.isElement then decode value else value := by
  cases a with
  | element name attributes =>
      show decode value ++ .empty ++ .empty = decode value
      rw [CStr.append_empty, CStr.append_empty]
  | text content => rfl
  | cdata content => rfl
  | comment content => rfl
  | pi target content => rfl

/-- The node that was found is found again, with its new content. -/
theorem getNodeByName_setContent
    (h : getNodeByName nodeName doc.root = some (some (p, a))) :
    getNodeByName nodeName
        (doc.root.replaceAt p (xmlNodeSetContent decode value a)) =
      some (some (p, (xmlNodeSetContent decode value a).1)) := by
  obtain ⟨hfirst, hlabel, hnamed⟩ := getNodeByName_some h
  have hname' : Named nodeName (xmlNodeSetContent decode value a).1 :=
    (xmlNodeSetContent_name a).trans (hfirst.holds hlabel)
  obtain ⟨c, hc, hfound⟩ := getNodeByName_of_first
    (hfirst.replaceAt hname') fun q hq b hb => by
      rw [Siblings.labelAt_replaceAt_before hq] at hb
      exact hnamed q hq b hb
  rw [Siblings.labelAt_replaceAt_self (Option.isSome_of_mem hlabel)] at hc
  obtain rfl := Option.some.inj hc
  exact hfound

/-- `set_content` at the node that was found. -/
theorem setContent_found
    (h : getNodeByName nodeName doc.root = some (some (p, a))) :
    setContent decode doc nodeName value =
      some (0, { doc with
        root := doc.root.replaceAt p (xmlNodeSetContent decode value a) }) := by
  rw [setContent, h]

/-- What the content is after a node was set. -/
theorem content_replaceAt (hlabel : doc.root.labelAt p = some a) :
    ((doc.root.replaceAt p (xmlNodeSetContent decode value a)).nodeAt p).map
        xmlNodeGetContent =
      some (if a.isElement then decode value else value) := by
  rw [Siblings.nodeAt_replaceAt_self (Option.isSome_of_mem hlabel),
    Option.map_some, xmlNodeGetContent_set]

/-- **Only the one node is set.** -/
theorem contentSet_replaceAt (hlabel : doc.root.labelAt p = some a)
    (hvalue : a.isElement = true → decode value = value) :
    ContentSet doc { doc with
      root := doc.root.replaceAt p (xmlNodeSetContent decode value a) }
        p value where
  prolog := rfl
  others := fun q hne hbelow => Siblings.labelAt_replaceAt hne hbelow
  node := by
    refine ⟨a, (xmlNodeSetContent decode value a).1, hlabel, ?_,
      xmlNodeSetContent_name a, xmlNodeSetContent_attributes a⟩
    exact Siblings.labelAt_replaceAt_self (Option.isSome_of_mem hlabel)
  content := by
    rw [content_replaceAt hlabel]
    split
    · next h => rw [hvalue h]
    · rfl

theorem findsAndSets_of_searchable
    (h : Searchable decode doc nodeName value) :
    FindsAndSets decode doc nodeName value := by
  cases hfound : getNodeByName nodeName doc.root with
  | none =>
      obtain ⟨q, ⟨b, hb, hnone⟩, hbefore⟩ := getNodeByName_fault hfound
      obtain ⟨p, hp, c, hc, hnamed⟩ := h.nameless q b hb hnone
      exact absurd hnamed (hbefore p hp c hc)
  | some found =>
      refine ⟨⟨found, hfound, ?_, ?_⟩, ?_⟩
      · rintro ⟨p, a⟩ hx
        rw [Option.mem_def.mp hx] at hfound
        obtain ⟨hfirst, hlabel, -⟩ := getNodeByName_some hfound
        exact ⟨hfirst, hlabel⟩
      · constructor
        · rintro rfl
          exact fun p a ha => (getNodeByName_null hfound p a ha).2
        · intro hnone
          cases found with
          | none => rfl
          | some x =>
              obtain ⟨b, hb, hnamed⟩ := (getNodeByName_some hfound).1.here
              exact absurd hnamed (hnone _ b hb)
      · intro p a hpa
        obtain ⟨hfirst, hlabel, -⟩ := getNodeByName_some hpa
        have hvalue := h.value p hfirst a hlabel
        have hagain :=
          @getNodeByName_setContent decode doc nodeName value p a hpa
        refine ⟨_, _, setContent_found hpa,
          contentSet_replaceAt hlabel hvalue, hagain, ?_⟩
        rw [getContent, hagain]
        exact congrArg some (contentSet_replaceAt hlabel hvalue).content

theorem searchable_of_findsAndSets
    (h : FindsAndSets decode doc nodeName value) :
    Searchable decode doc nodeName value := by
  obtain ⟨⟨found, hfound, -, -⟩, hsets⟩ := h
  constructor
  · intro q a ha hnone
    cases found with
    | none => exact absurd hnone (getNodeByName_null hfound q a ha).1
    | some x =>
        obtain ⟨hfirst, hlabel, hnamed⟩ := getNodeByName_some hfound
        refine ⟨x.1, ?_, hfirst.here⟩
        rcases Pos.before_trichotomy x.1 q with hlt | rfl | hlt
        · exact hlt
        · have hname := hfirst.holds ha
          rw [Named, hnone] at hname
          cases hname
        · exact absurd hnone (hnamed q hlt a ha)
  · intro p hfirst a ha helement
    cases found with
    | none =>
        obtain ⟨b, hb, hname⟩ := hfirst.here
        exact absurd hname (getNodeByName_null hfound p b hb).2
    | some x =>
        obtain ⟨hfirst', hlabel, -⟩ := getNodeByName_some hfound
        obtain rfl := hfirst.unique hfirst'
        obtain ⟨doc', a', hset, hcontent, -, -⟩ := hsets x.1 x.2 hfound
        rw [setContent_found hfound] at hset
        obtain rfl := (Prod.mk.inj (Option.some.inj hset)).2
        obtain rfl : a = x.2 := Option.some.inj (ha.symm.trans hlabel)
        have hread := hcontent.content
        rw [content_replaceAt hlabel, if_pos helement] at hread
        exact Option.some.inj hread

end

/-- **When a node is found and set.** -/
theorem getNodeByName_sets_iff (decode : CStr → CStr) (doc : XmlDoc)
    (nodeName newValue : CStr) :
    FindsAndSets decode doc nodeName newValue ↔
      Searchable decode doc nodeName newValue :=
  ⟨searchable_of_findsAndSets, findsAndSets_of_searchable⟩

def rootName : XmlName := ⟨.lit "root", by decide⟩

def friendlyNameName : XmlName := ⟨.lit "friendlyName", by decide⟩

def udnName : XmlName := ⟨.lit "UDN", by decide⟩

/-- A description with a CDATA section in front of the `UDN`. -/
def cdataDoc : XmlDoc where
  prolog := []
  root := .node (.element rootName [])
    (.node (.element friendlyNameName [])
      (.node (.cdata (.lit "XFINITY")) .nil .nil)
      (.node (.element udnName []) .nil .nil))
    .nil

/-- The length of the name of the CDATA section is taken. -/
theorem getNodeByName_cdata :
    ¬ FindsAndSets id cdataDoc (.lit "UDN") (.lit "uuid:1") := by
  rintro ⟨⟨found, hfound, -⟩, -⟩
  have hfault : getNodeByName (.lit "UDN") cdataDoc.root = none := by decide
  rw [hfault] at hfound
  cases hfound

end Xupnp.XcalDevice
