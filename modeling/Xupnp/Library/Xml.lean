import Mathlib.Tactic.SplitIfs
import Xupnp.Library.CString
import Xupnp.Library.Escape
import Xupnp.Library.Reader
import Xupnp.Library.Siblings
import Xupnp.Library.Utf8

/-!
# Texts of XML

A document is printed as a declaration and one element. A reader goes over the
bytes with the names of the elements that are open, and reports what begins,
what ends and the text between. It reads the part of XML that such documents
are written in: there are no comments, no sections and no document types, a
reference names one of the entities the reader knows, and nothing stands around
the equals sign of an attribute.

What escapes the texts and what reads them may know different entities. A
printed document reads back exactly if each of its texts does (`read_print`).
-/

namespace Xupnp.Library.Xml

/-! ## Trees -/

def isNameStart (b : UInt8) : Bool :=
  (0x41 ≤ b && b ≤ 0x5A) || (0x61 ≤ b && b ≤ 0x7A) || b == 0x5F || b == 0x3A

def isNameByte (b : UInt8) : Bool :=
  isNameStart b || (0x30 ≤ b && b ≤ 0x39) || b == 0x2D || b == 0x2E

/-- A name in ASCII. -/
def IsName : List UInt8 → Prop
  | [] => False
  | b :: l => isNameStart b = true ∧ l.all isNameByte = true

instance : DecidablePred IsName
  | [] => inferInstanceAs (Decidable False)
  | _ :: _ => inferInstanceAs (Decidable (_ ∧ _))

abbrev Name := {l : List UInt8 // IsName l}

/-- A name that is known when this is compiled. -/
def Name.lit (s : String) (h : IsName (CStr.ascii s) := by decide) : Name :=
  ⟨CStr.ascii s, h⟩

def Name.ofBytes (l : List UInt8) : Option Name :=
  if h : IsName l then some ⟨l, h⟩ else none

/-- Names with their values, no name twice. -/
abbrev Attributes :=
  {l : List (Name × List UInt8) // (l.map Prod.fst).Nodup}

def Attributes.ofList (l : List (Name × List UInt8)) : Option Attributes :=
  if h : (l.map Prod.fst).Nodup then some ⟨l, h⟩ else none

inductive Node where
  | element (name : Name) (attributes : Attributes)
  | text (content : List UInt8)

/-- An element without attributes. -/
def branch (name : Name) (children next : Siblings Node) : Siblings Node :=
  .node (.element name ⟨[], List.nodup_nil⟩) children next

/-- An element with nothing but a text in it. -/
def leaf (name : Name) (content : List UInt8) (next : Siblings Node) :
    Siblings Node := branch name (.node (.text content) .nil .nil) next

/-- What a reader reports. -/
inductive Event where
  | opened (name : Name) (attributes : Attributes)
  | text (content : List UInt8)
  | closed (name : Name)
deriving DecidableEq

/-- A tree, as it is reported. -/
def events : Siblings Node → List Event
  | .nil => []
  | .node (.text content) _ next => .text content :: events next
  | .node (.element name attributes) children next =>
      .opened name attributes :: (events children ++ .closed name :: events next)

/-- No text is empty, has something below it or stands next to another one. -/
def Normal : Bool → Siblings Node → Prop
  | _, .nil => True
  | behindText, .node (.text content) children next =>
      behindText = false ∧ content ≠ [] ∧ children = .nil ∧ Normal true next
  | _, .node (.element _ _) children next =>
      Normal false children ∧ Normal false next

/-! ## Printing -/

section Print

variable (written : UInt8 → Option (List UInt8))

/-- A text in which some bytes are references. -/
def escape (text : List UInt8) : List UInt8 :=
  text.flatMap (Entity.escapeByte written)

def printAttribute (a : Name × List UInt8) : List UInt8 :=
  0x20 :: (a.1.1 ++ 0x3D :: 0x22 :: (escape written a.2 ++ [0x22]))

def openTag (name : Name) (attributes : Attributes) : List UInt8 :=
  0x3C :: (name.1 ++ (attributes.1.flatMap (printAttribute written) ++ [0x3E]))

def closeTag (name : Name) : List UInt8 := 0x3C :: 0x2F :: (name.1 ++ [0x3E])

def print : Siblings Node → List UInt8
  | .nil => []
  | .node (.text content) _ next => escape written content ++ print next
  | .node (.element name attributes) children next =>
      openTag written name attributes ++
        (print children ++ (closeTag name ++ print next))

end Print

/-! ## Reading -/

/-- What is being read. -/
inductive Mode where
  | content (p : Entity.State)
  | opening
  | name (read : List UInt8)
  /-- White space in a tag, with what the tag has told so far. -/
  | gap (name : Name) (attributes : List (Name × List UInt8))
  | key (name : Name) (attributes : List (Name × List UInt8))
      (read : List UInt8)
  | equals (name : Name) (attributes : List (Name × List UInt8)) (key : Name)
  | value (name : Name) (attributes : List (Name × List UInt8)) (key : Name)
      (quote : UInt8) (p : Entity.State) (read : List UInt8)
  /-- Behind a value. -/
  | behind (name : Name) (attributes : List (Name × List UInt8))
  /-- Behind the slash of an element without content. -/
  | slash (name : Name) (attributes : List (Name × List UInt8))
  | closing (read : List UInt8)

/-- The open elements and the events, the last ones first. -/
structure State where
  mode : Mode
  stack : List Name
  read : List Event

def isWhite (b : UInt8) : Bool :=
  b == 0x20 || b == 0x09 || b == 0x0A || b == 0x0D

/-- More of a text. -/
def addText (out : List UInt8) : List Event → List Event
  | .text content :: read => .text (content ++ out) :: read
  | read => if out = [] then read else .text out :: read

namespace State

/-- An element begins: inside another one, or as the first. -/
def openElement (s : State) (name : Name)
    (attributes : List (Name × List UInt8)) : Option State :=
  if s.stack = [] ∧ s.read ≠ [] then none
  else (Attributes.ofList attributes).map fun a =>
    ⟨.content .text, name :: s.stack, .opened name a :: s.read⟩

/-- The innermost element ends. -/
def closeElement (s : State) (name : Name) : Option State :=
  match s.stack with
  | top :: stack =>
      if top = name then some ⟨.content .text, stack, .closed name :: s.read⟩
      else none
  | [] => none

/-- What may come behind a name or a value in a tag. -/
def inTag (s : State) (name : Name) (attributes : List (Name × List UInt8))
    (b : UInt8) : Option State :=
  if b = 0x3E then s.openElement name attributes
  else if b = 0x2F then some { s with mode := .slash name attributes }
  else if isWhite b then some { s with mode := .gap name attributes }
  else none

end State

/-- One byte, for a reader that knows some entities. -/
def step (known : List (List UInt8 × UInt8)) (s : State) (b : UInt8) :
    Option State :=
  match s.mode with
  | .content p =>
      if b = 0x3C then
        if p = .text then some { s with mode := .opening } else none
      else if s.stack = [] then if isWhite b then some s else none
      else ((Entity.unescaper known).step p b).map fun x =>
        { s with mode := .content x.1, read := addText x.2 s.read }
  | .opening =>
      if b = 0x2F then some { s with mode := .closing [] }
      else if isNameStart b then some { s with mode := .name [b] } else none
  | .name read =>
      if isNameByte b then some { s with mode := .name (read ++ [b]) }
      else (Name.ofBytes read).bind fun name => s.inTag name [] b
  | .gap name attributes =>
      if isNameStart b then some { s with mode := .key name attributes [b] }
      else s.inTag name attributes b
  | .key name attributes read =>
      if isNameByte b then
        some { s with mode := .key name attributes (read ++ [b]) }
      else if b = 0x3D then
        (Name.ofBytes read).map fun key =>
          { s with mode := .equals name attributes key }
      else none
  | .equals name attributes key =>
      if b = 0x22 ∨ b = 0x27 then
        some { s with mode := .value name attributes key b .text [] }
      else none
  | .value name attributes key quote p read =>
      if b = quote then
        if p = .text then
          some { s with mode := .behind name (attributes ++ [(key, read)]) }
        else none
      else if b = 0x3C then none
      else ((Entity.unescaper known).step p b).map fun x =>
        { s with mode := .value name attributes key quote x.1 (read ++ x.2) }
  | .behind name attributes => s.inTag name attributes b
  | .slash name attributes =>
      if b = 0x3E then
        (s.openElement name attributes).bind (·.closeElement name)
      else none
  | .closing read =>
      if isNameByte b then some { s with mode := .closing (read ++ [b]) }
      else if b = 0x3E then (Name.ofBytes read).bind s.closeElement
      else none

/-- A document ends when its element has. -/
def finish (s : State) : Option (List Event) :=
  match s.mode, s.stack with
  | .content .text, [] => if s.read = [] then none else some s.read.reverse
  | _, _ => none

def reader (known : List (List UInt8 × UInt8)) :
    Reader State UInt8 (List Event) where
  step := step known
  finish := finish

def declaration : List UInt8 :=
  CStr.ascii "<?xml version=\"1.0\" encoding=\"UTF-8\"?>"

/-- Carriage returns are not among them, which are read as line feeds. -/
def isAllowed (b : UInt8) : Bool := 0x20 ≤ b || b == 0x09 || b == 0x0A

/-- The bytes of UTF-8 that a document holds. -/
def Allowed (l : List UInt8) : Prop :=
  Utf8.Valid l ∧ l.all isAllowed = true

instance (l : List UInt8) : Decidable (Allowed l) :=
  inferInstanceAs (Decidable (_ ∧ _))

/-- What a document reads as: a declaration, which may be missing, and an
element. -/
def read (known : List (List UInt8 × UInt8)) (doc : List UInt8) :
    Option (List Event) :=
  if Allowed doc then
    (reader known).read ⟨.content .text, [], []⟩
      (if declaration.isPrefixOf doc then doc.drop declaration.length else doc)
  else none

/-! ## Bytes that are allowed -/

section Bytes

variable {written : UInt8 → Option (List UInt8)} {l m : List UInt8}

/-- A printable text in ASCII. -/
def Printable (l : List UInt8) : Prop :=
  l.all (fun b => 0x20 ≤ b && b < 0x80) = true

instance (l : List UInt8) : Decidable (Printable l) :=
  inferInstanceAs (Decidable (_ = _))

theorem printable_append : Printable (l ++ m) ↔ Printable l ∧ Printable m := by
  rw [Printable, List.all_append, Bool.and_eq_true]
  rfl

theorem Printable.all_isAllowed (h : Printable l) :
    l.all isAllowed = true := by
  rw [List.all_eq_true]
  intro b hb
  have hp := List.all_eq_true.mp h b hb
  rw [Bool.and_eq_true] at hp
  simp [isAllowed, hp.1]

theorem Printable.all_isAscii (h : Printable l) :
    l.all Utf8.isAscii = true := by
  rw [List.all_eq_true]
  intro b hb
  have hp := List.all_eq_true.mp h b hb
  rw [Bool.and_eq_true] at hp
  exact hp.2

/-- A printable text changes nothing in front of another one. -/
theorem allowed_printable_append (h : Printable l) :
    Allowed (l ++ m) ↔ Allowed m := by
  rw [Allowed, Allowed, Utf8.valid_ascii_append h.all_isAscii,
    List.all_append, h.all_isAllowed, Bool.true_and]

/-- It separates what is in front of it from what is behind it. -/
theorem allowed_append_cons {b : UInt8} (h : Printable [b]) :
    Allowed (l ++ b :: m) ↔ Allowed l ∧ Allowed m := by
  have hascii : b < 0x80 := by
    have hb := List.all_eq_true.mp h.all_isAscii b List.mem_cons_self
    exact of_decide_eq_true hb
  have hb : isAllowed b = true :=
    List.all_eq_true.mp h.all_isAllowed b List.mem_cons_self
  rw [Allowed, Allowed, Allowed, Utf8.valid_append_cons hascii,
    List.all_append, List.all_cons, hb, Bool.true_and, Bool.and_eq_true]
  exact and_and_and_comm

theorem allowed_append_printable {m : List UInt8} (hm : Printable m) :
    Allowed (l ++ m) ↔ Allowed l := by
  cases m with
  | nil => rw [List.append_nil]
  | cons b m =>
      have hsplit := printable_append.mp (show Printable ([b] ++ m) from hm)
      have hnil : Allowed [] := ⟨Utf8.valid_nil, rfl⟩
      have hrest : Allowed m := by
        have h := allowed_printable_append (m := []) hsplit.2
        rw [List.append_nil] at h
        exact h.mpr hnil
      rw [allowed_append_cons hsplit.1]
      exact and_iff_left hrest

/-- References that are printable, for bytes that are. -/
def PrintableNames (written : UInt8 → Option (List UInt8)) : Prop :=
  ∀ b, ∀ name ∈ written b, Printable [b] ∧ Printable name

theorem PrintableNames.escapeByte (h : PrintableNames written) {b : UInt8}
    (hb : written b ≠ none) :
    Printable [b] ∧ Printable (Entity.escapeByte written b) := by
  rw [Entity.escapeByte]
  cases hname : written b with
  | none => exact absurd hname hb
  | some name =>
      obtain ⟨hb, hname⟩ := h b name hname
      refine ⟨hb, ?_⟩
      show Printable ([0x26] ++ (name ++ [0x3B]))
      rw [printable_append, printable_append]
      exact ⟨by decide, hname, by decide⟩

theorem escapeByte_ne_nil (b : UInt8) : Entity.escapeByte written b ≠ [] := by
  rw [Entity.escapeByte]
  cases written b <;> exact List.cons_ne_nil _ _

theorem runFrom_escape (h : PrintableNames written) (q : Utf8.State) :
    runFrom Utf8.step q (escape written l) = runFrom Utf8.step q l := by
  induction l generalizing q with
  | nil => rfl
  | cons b l ih =>
      have hb : runFrom Utf8.step q (Entity.escapeByte written b) =
          runFrom Utf8.step q [b] := by
        by_cases hname : written b = none
        · rw [Entity.escapeByte, hname]
        · obtain ⟨hb, hesc⟩ := h.escapeByte hname
          rw [Utf8.runFrom_ascii (escapeByte_ne_nil b) hesc.all_isAscii,
            Utf8.runFrom_ascii (List.cons_ne_nil _ _) hb.all_isAscii]
      show runFrom Utf8.step q (Entity.escapeByte written b ++ escape written l)
        = runFrom Utf8.step q ([b] ++ l)
      rw [runFrom_append, runFrom_append, hb]
      exact congrArg _ (funext ih)

theorem all_escape (h : PrintableNames written) :
    (escape written l).all isAllowed = l.all isAllowed := by
  induction l with
  | nil => rfl
  | cons b l ih =>
      have hb : (Entity.escapeByte written b).all isAllowed =
          [b].all isAllowed := by
        by_cases hname : written b = none
        · rw [Entity.escapeByte, hname]
        · obtain ⟨hb, hesc⟩ := h.escapeByte hname
          rw [hesc.all_isAllowed, hb.all_isAllowed]
      show (Entity.escapeByte written b ++ escape written l).all isAllowed =
        ([b] ++ l).all isAllowed
      rw [List.all_append, List.all_append, hb, ih]

/-- **Escaping** neither makes a text one that is allowed nor spoils it. -/
theorem allowed_escape (h : PrintableNames written) :
    Allowed (escape written l) ↔ Allowed l := by
  rw [Allowed, Allowed, Utf8.Valid, Utf8.Valid, runFrom_escape h,
    all_escape h]

end Bytes

/-! ## Texts -/

section Texts

variable {known : List (List UInt8 × UInt8)}
  {written : UInt8 → Option (List UInt8)} {es : List Event}
  {l name : List UInt8}

/-- The text is read as itself. -/
def Legible (known : List (List UInt8 × UInt8))
    (written : UInt8 → Option (List UInt8)) (text : List UInt8) : Prop :=
  ∀ b ∈ text, Entity.reread known written b = some b

/-- References are written for what ends a text, and no reference stands for
another byte. -/
structure Escaping (known : List (List UInt8 × UInt8))
    (written : UInt8 → Option (List UInt8)) : Prop where
  amp : written 0x26 ≠ none
  lt : written 0x3C ≠ none
  quote : written 0x22 ≠ none
  names : ∀ b, ∀ name ∈ written b, 0x3B ∉ name ∧ 0x3C ∉ name ∧ 0x22 ∉ name
  self : ∀ b, ∀ c ∈ Entity.reread known written b, c = b

/-- The states of a reader inside a text, which does not go on behind the bytes
in `stop`. -/
structure Embeds (known : List (List UInt8 × UInt8)) (stop : List UInt8)
    (f : Entity.State → List UInt8 → State) : Prop where
  step_eq : ∀ p out b, b ∉ stop → step known (f p out) b =
    ((Entity.unescaper known).step p b).map fun x => f x.1 (out ++ x.2)

variable {stop : List UInt8} {f : Entity.State → List UInt8 → State}

theorem Embeds.accepts_cons (h : Embeds known stop f) {p q : Entity.State}
    {out o : List UInt8} {b : UInt8} (hb : b ∉ stop)
    (hstep : (Entity.unescaper known).step p b = some (q, o)) :
    (reader known).Accepts (f p out) (b :: l) es ↔
      (reader known).Accepts (f q (out ++ o)) l es := by
  apply Reader.accepts_cons
  show step known (f p out) b = _
  rw [h.step_eq p out b hb, hstep]
  rfl

/-- A reference, from behind its ampersand. -/
theorem Embeds.accepts_name (h : Embeds known stop f) {out read : List UInt8}
    (hsemi : 0x3B ∉ stop) (hname : 0x3B ∉ name)
    (hstop : ∀ b ∈ stop, b ∉ name) :
    (reader known).Accepts (f (.name read) out) (name ++ 0x3B :: l) es ↔
      ∃ c ∈ known.lookup (read ++ name),
        (reader known).Accepts (f .text (out ++ [c])) l es := by
  induction name generalizing read with
  | nil =>
      rw [List.nil_append, List.append_nil]
      have hstep : (Entity.unescaper known).step (.name read) 0x3B =
          (known.lookup read).map fun c => (.text, [c]) := by
        simp [Entity.unescaper]
      cases hc : known.lookup read with
      | none =>
          rw [hc] at hstep
          constructor
          · intro hacc
            refine absurd hacc (Reader.not_accepts_cons ?_)
            show step known (f (.name read) out) 0x3B = none
            rw [h.step_eq _ _ _ hsemi, hstep]
            rfl
          · rintro ⟨c, hc, -⟩
            cases hc
      | some c =>
          rw [hc] at hstep
          rw [h.accepts_cons hsemi hstep]
          simp
  | cons b name ih =>
      rw [List.mem_cons, not_or] at hname
      have hb : b ∉ stop := fun hb => hstop b hb List.mem_cons_self
      have hstep : (Entity.unescaper known).step (.name read) b =
          some (.name (read ++ [b]), []) := if_neg fun hb => hname.1 hb.symm
      rw [List.cons_append, h.accepts_cons hb hstep, List.append_nil,
        ih hname.2 fun b hb hm => hstop b hb (List.mem_cons_of_mem _ hm),
        List.append_assoc]
      rfl

/-- One byte of a text. -/
theorem Embeds.accepts_escapeByte (h : Embeds known stop f)
    (hwritten : Escaping known written)
    (hstop : ∀ b ∈ stop, b = 0x3C ∨ b = 0x22) {out : List UInt8} (b : UInt8) :
    (reader known).Accepts (f .text out) (Entity.escapeByte written b ++ l) es ↔
      Entity.reread known written b = some b ∧
        (reader known).Accepts (f .text (out ++ [b])) l es := by
  have hamp : 0x26 ∉ stop := by
    intro hb
    rcases hstop _ hb with hb | hb <;> exact absurd hb (by decide)
  have hsemi : 0x3B ∉ stop := by
    intro hb
    rcases hstop _ hb with hb | hb <;> exact absurd hb (by decide)
  have hself := hwritten.self b
  unfold Entity.escapeByte Entity.reread at *
  cases hb : written b with
  | none =>
      have hne : b ≠ 0x26 := by
        rintro rfl
        exact hwritten.amp hb
      have hin : b ∉ stop := by
        intro hin
        rcases hstop b hin with rfl | rfl
        · exact hwritten.lt hb
        · exact hwritten.quote hb
      have hstep : (Entity.unescaper known).step .text b =
          some (.text, [b]) := congrArg some (if_neg hne)
      rw [List.singleton_append, h.accepts_cons hin hstep]
      exact (and_iff_right rfl).symm
  | some name =>
      rw [hb] at hself
      have hnames := hwritten.names b name hb
      have hstep : (Entity.unescaper known).step .text 0x26 =
          some (.name [], []) := congrArg some (if_pos rfl)
      have hin : ∀ c ∈ stop, c ∉ name := by
        intro c hc
        rcases hstop c hc with rfl | rfl
        · exact hnames.2.1
        · exact hnames.2.2
      show (reader known).Accepts _ (0x26 :: ((name ++ [0x3B]) ++ l)) es ↔ _
      rw [h.accepts_cons hamp hstep, List.append_nil, List.append_assoc]
      show (reader known).Accepts _ (name ++ 0x3B :: l) es ↔ _
      rw [h.accepts_name hsemi hnames.1 hin, List.nil_append]
      constructor
      · rintro ⟨c, hc, hacc⟩
        obtain rfl := hself c hc
        exact ⟨hc, hacc⟩
      · rintro ⟨hc, hacc⟩
        exact ⟨b, hc, hacc⟩

/-- **Byte by byte.** A text is read exactly if each of its bytes is. -/
theorem Embeds.accepts_escape (h : Embeds known stop f)
    (hwritten : Escaping known written)
    (hstop : ∀ b ∈ stop, b = 0x3C ∨ b = 0x22) {out text : List UInt8} :
    (reader known).Accepts (f .text out) (escape written text ++ l) es ↔
      Legible known written text ∧
        (reader known).Accepts (f .text (out ++ text)) l es := by
  induction text generalizing out with
  | nil =>
      rw [List.append_nil]
      exact (and_iff_right fun b hb => absurd hb List.not_mem_nil).symm
  | cons b text ih =>
      rw [escape, List.flatMap_cons, List.append_assoc,
        h.accepts_escapeByte hwritten hstop]
      rw [escape] at ih
      rw [ih, Legible, Legible, List.forall_mem_cons, and_assoc,
        List.append_assoc]
      rfl

end Texts

/-! ## Tags -/

section Tags

variable {known : List (List UInt8 × UInt8)}
  {written : UInt8 → Option (List UInt8)} {es : List Event} {l : List UInt8}
  {name key : Name} {before : List (Name × List UInt8)}
  {attributes : Attributes} {s : State}

theorem isNameByte_of_start {b : UInt8} (h : isNameStart b = true) :
    isNameByte b = true := by
  simp [isNameByte, h]

/-- A name has a first byte. -/
theorem Name.exists_cons (name : Name) :
    ∃ b l, name.1 = b :: l ∧ isNameStart b = true ∧
      ∀ c ∈ l, isNameByte c = true := by
  obtain ⟨l, h⟩ := name
  cases l with
  | nil => exact absurd h id
  | cons b l => exact ⟨b, l, rfl, h.1, List.all_eq_true.mp h.2⟩

theorem ofBytes_name (name : Name) : Name.ofBytes name.1 = some name :=
  dif_pos name.2

theorem ofList_attributes (attributes : Attributes) :
    Attributes.ofList attributes.1 = some attributes := dif_pos attributes.2

/-- The bytes of a name are taken up one by one. -/
theorem accepts_nameBytes {f : List UInt8 → State}
    (hf : ∀ read b, isNameByte b = true →
      step known (f read) b = some (f (read ++ [b])))
    {m : List UInt8} (hm : ∀ b ∈ m, isNameByte b = true) (read : List UInt8) :
    (reader known).Accepts (f read) (m ++ l) es ↔
      (reader known).Accepts (f (read ++ m)) l es := by
  induction m generalizing read with
  | nil => rw [List.nil_append, List.append_nil]
  | cons b m ih =>
      rw [List.forall_mem_cons] at hm
      rw [List.cons_append, Reader.accepts_cons (hf read b hm.1), ih hm.2,
        List.append_assoc]
      rfl

/-- A name with a byte in front of it that starts it. -/
theorem accepts_startedName {f : List UInt8 → State}
    (hstart : ∀ b, isNameStart b = true → step known s b = some (f [b]))
    (hf : ∀ read b, isNameByte b = true →
      step known (f read) b = some (f (read ++ [b]))) :
    (reader known).Accepts s (name.1 ++ l) es ↔
      (reader known).Accepts (f name.1) l es := by
  obtain ⟨b, m, hname, hb, hm⟩ := name.exists_cons
  rw [hname, List.cons_append, Reader.accepts_cons (hstart b hb),
    accepts_nameBytes hf hm]
  rfl

/-- The states inside of a value. -/
theorem embeds_value (s : State) (name : Name)
    (before : List (Name × List UInt8)) (key : Name) :
    Embeds known [0x22, 0x3C] fun p out =>
      { s with mode := .value name before key 0x22 p out } where
  step_eq := by
    intro p out b hb
    simp only [List.mem_cons, List.not_mem_nil, or_false, not_or] at hb
    show (if b = 0x22 then _ else _) = _
    rw [if_neg hb.1, if_neg hb.2]

theorem escape_stops : ∀ b ∈ ([0x22, 0x3C] : List UInt8),
    b = 0x3C ∨ b = 0x22 := by simp

/-- An attribute, behind a name or another attribute. -/
theorem accepts_printAttribute (hwritten : Escaping known written)
    {a : Name × List UInt8} :
    (reader known).Accepts { s with mode := .behind name before }
        (printAttribute written a ++ l) es ↔
      Legible known written a.2 ∧
        (reader known).Accepts
          { s with mode := .behind name (before ++ [a]) } l es := by
  obtain ⟨key, value⟩ := a
  have hgap : step known { s with mode := .behind name before } 0x20 =
      some { s with mode := .gap name before } := rfl
  have hstart : ∀ b, isNameStart b = true →
      step known { s with mode := .gap name before } b =
        some { s with mode := .key name before [b] } := fun b hb => if_pos hb
  have hbytes : ∀ read b, isNameByte b = true →
      step known { s with mode := .key name before read } b =
        some { s with mode := .key name before (read ++ [b]) } :=
    fun read b hb => if_pos hb
  have hequals : step known { s with mode := .key name before key.1 } 0x3D =
      some { s with mode := .equals name before key } := by
    show (Name.ofBytes key.1).map _ = _
    rw [ofBytes_name]
    rfl
  have hquote : step known { s with mode := .equals name before key } 0x22 =
      some { s with mode := .value name before key 0x22 .text [] } := rfl
  have hend : step known
      { s with mode := .value name before key 0x22 .text value } 0x22 =
        some { s with mode := .behind name (before ++ [(key, value)]) } := rfl
  show (reader known).Accepts _
    (0x20 :: ((key.1 ++ 0x3D :: 0x22 :: (escape written value ++ [0x22])) ++ l))
    es ↔ _
  rw [Reader.accepts_cons hgap, List.append_assoc,
    accepts_startedName hstart hbytes]
  show (reader known).Accepts _
    (0x3D :: 0x22 :: ((escape written value ++ [0x22]) ++ l)) es ↔ _
  rw [Reader.accepts_cons hequals, Reader.accepts_cons hquote,
    List.append_assoc,
    (embeds_value s name before key).accepts_escape hwritten escape_stops,
    List.nil_append]
  show _ ∧ (reader known).Accepts _ (0x22 :: l) es ↔ _
  rw [Reader.accepts_cons hend]

/-- The attributes of a tag, one after another. -/
theorem accepts_printAttributes (hwritten : Escaping known written)
    {as : List (Name × List UInt8)} :
    (reader known).Accepts { s with mode := .behind name before }
        (as.flatMap (printAttribute written) ++ l) es ↔
      (∀ a ∈ as, Legible known written a.2) ∧
        (reader known).Accepts
          { s with mode := .behind name (before ++ as) } l es := by
  induction as generalizing before with
  | nil =>
      rw [List.append_nil]
      exact (and_iff_right fun a ha => absurd ha List.not_mem_nil).symm
  | cons a as ih =>
      rw [List.flatMap_cons, List.append_assoc,
        accepts_printAttribute hwritten, ih, List.forall_mem_cons, and_assoc,
        List.append_assoc]
      rfl

/-- Behind its name a tag goes on as behind an attribute. -/
theorem accepts_behindName {b : UInt8} (hb : isNameByte b = false) :
    (reader known).Accepts { s with mode := .name name.1 } (b :: l) es ↔
      (reader known).Accepts { s with mode := .behind name [] } (b :: l) es := by
  have hstep : (reader known).step { s with mode := .name name.1 } b =
      (reader known).step { s with mode := .behind name [] } b := by
    show (if isNameByte b = true then _ else _) = _
    rw [hb, if_neg Bool.false_ne_true, ofBytes_name]
    rfl
  rw [Reader.accepts_cons_iff, Reader.accepts_cons_iff, hstep]

/-- **A tag** opens its element if each of its values is legible. -/
theorem accepts_openTag (hwritten : Escaping known written)
    (hmode : s.mode = .content .text) (hs : s.stack = [] → s.read = []) :
    (reader known).Accepts s (openTag written name attributes ++ l) es ↔
      (∀ a ∈ attributes.1, Legible known written a.2) ∧
        (reader known).Accepts ⟨.content .text, name :: s.stack,
          .opened name attributes :: s.read⟩ l es := by
  have hopening : step known s 0x3C = some { s with mode := .opening } := by
    rw [step, hmode]
    rfl
  have hend : step known { s with mode := .behind name attributes.1 } 0x3E =
      some ⟨.content .text, name :: s.stack,
        .opened name attributes :: s.read⟩ := by
    show State.openElement _ name attributes.1 = _
    have hopen : ¬ (s.stack = [] ∧ s.read ≠ []) := fun h => h.2 (hs h.1)
    rw [State.openElement, if_neg hopen, ofList_attributes]
    rfl
  have hstart : ∀ b, isNameStart b = true →
      step known { s with mode := .opening } b =
        some { s with mode := .name [b] } := by
    intro b hb
    have hne : b ≠ 0x2F := by
      rintro rfl
      exact absurd hb (by decide)
    show (if b = 0x2F then _ else _) = _
    rw [if_neg hne, if_pos hb]
  have hbytes : ∀ read b, isNameByte b = true →
      step known { s with mode := .name read } b =
        some { s with mode := .name (read ++ [b]) } := fun read b hb => if_pos hb
  have hname : (reader known).Accepts { s with mode := .name name.1 }
      (attributes.1.flatMap (printAttribute written) ++ 0x3E :: l) es ↔
      (reader known).Accepts { s with mode := .behind name [] }
        (attributes.1.flatMap (printAttribute written) ++ 0x3E :: l) es := by
    cases attributes.1 with
    | nil => exact accepts_behindName (by decide)
    | cons a as => exact accepts_behindName (b := 0x20) (by decide)
  show (reader known).Accepts s (0x3C :: ((name.1 ++
    (attributes.1.flatMap (printAttribute written) ++ [0x3E])) ++ l)) es ↔ _
  rw [Reader.accepts_cons hopening, List.append_assoc, List.append_assoc,
    accepts_startedName hstart hbytes]
  show (reader known).Accepts _
    (attributes.1.flatMap (printAttribute written) ++ 0x3E :: l) es ↔ _
  rw [hname, accepts_printAttributes hwritten, List.nil_append,
    Reader.accepts_cons hend]

/-- The end tag of the innermost element. -/
theorem accepts_closeTag {stack : List Name} {read : List Event} :
    (reader known).Accepts ⟨.content .text, name :: stack, read⟩
        (closeTag name ++ l) es ↔
      (reader known).Accepts ⟨.content .text, stack, .closed name :: read⟩
        l es := by
  have hopening : step known ⟨.content .text, name :: stack, read⟩ 0x3C =
      some ⟨.opening, name :: stack, read⟩ := rfl
  have hslash : step known ⟨.opening, name :: stack, read⟩ 0x2F =
      some ⟨.closing [], name :: stack, read⟩ := rfl
  have hend : step known ⟨.closing name.1, name :: stack, read⟩ 0x3E =
      some ⟨.content .text, stack, .closed name :: read⟩ := by
    show (Name.ofBytes name.1).bind _ = _
    rw [ofBytes_name]
    exact if_pos rfl
  have hstep : ∀ m b, isNameByte b = true →
      step known ⟨.closing m, name :: stack, read⟩ b =
        some ⟨.closing (m ++ [b]), name :: stack, read⟩ :=
    fun m b hb => if_pos hb
  have hbytes : ∀ b ∈ name.1, isNameByte b = true := by
    obtain ⟨b, m, hname, hb, hm⟩ := name.exists_cons
    rw [hname, List.forall_mem_cons]
    exact ⟨isNameByte_of_start hb, hm⟩
  show (reader known).Accepts _
    (0x3C :: 0x2F :: ((name.1 ++ [0x3E]) ++ l)) es ↔ _
  rw [Reader.accepts_cons hopening, Reader.accepts_cons hslash,
    List.append_assoc, accepts_nameBytes hstep hbytes, List.nil_append]
  show (reader known).Accepts _ (0x3E :: l) es ↔ _
  rw [Reader.accepts_cons hend]

end Tags

/-! ## Documents -/

section Documents

variable {known : List (List UInt8 × UInt8)}
  {written : UInt8 → Option (List UInt8)} {es : List Event} {l : List UInt8}
  {stack : List Name} {r : List Event} {t : Siblings Node}

def endsInText : List Event → Bool
  | .text _ :: _ => true
  | _ => false

/-- The values and the texts of a tree. -/
def texts : Siblings Node → List (List UInt8)
  | .nil => []
  | .node (.text content) _ next => content :: texts next
  | .node (.element _ attributes) children next =>
      attributes.1.map Prod.snd ++ (texts children ++ texts next)

theorem forall_texts_element {P : List UInt8 → Prop} {name : Name}
    {attributes : Attributes} {children next : Siblings Node} :
    (∀ text ∈ texts (.node (.element name attributes) children next), P text) ↔
      (∀ a ∈ attributes.1, P a.2) ∧ (∀ text ∈ texts children, P text) ∧
        ∀ text ∈ texts next, P text := by
  rw [texts, List.forall_mem_append, List.forall_mem_append,
    List.forall_mem_map]

theorem forall_texts_branch {P : List UInt8 → Prop} {name : Name}
    {children next : Siblings Node} :
    (∀ text ∈ texts (branch name children next), P text) ↔
      (∀ text ∈ texts children, P text) ∧ ∀ text ∈ texts next, P text := by
  rw [branch, forall_texts_element]
  exact and_iff_right fun a ha => absurd ha List.not_mem_nil

theorem forall_texts_text {P : List UInt8 → Prop} {content : List UInt8}
    {children next : Siblings Node} :
    (∀ text ∈ texts (.node (.text content) children next), P text) ↔
      P content ∧ ∀ text ∈ texts next, P text := List.forall_mem_cons

theorem forall_texts_leaf {P : List UInt8 → Prop} {name : Name}
    {content : List UInt8} {next : Siblings Node} :
    (∀ text ∈ texts (leaf name content next), P text) ↔
      P content ∧ ∀ text ∈ texts next, P text := by
  rw [leaf, forall_texts_branch]
  exact and_congr_left fun _ => List.forall_mem_singleton

theorem addText_addText (out o : List UInt8) (read : List Event) :
    addText o (addText out read) = addText (out ++ o) read := by
  have hcons : ∀ (e : Event) (read : List Event), (∀ c, e ≠ .text c) →
      addText o (addText out (e :: read)) = addText (out ++ o) (e :: read) := by
    intro e read he
    cases e with
    | text c => exact absurd rfl (he c)
    | opened | closed =>
        cases out with
        | nil => rfl
        | cons b out => simp [addText]
  cases read with
  | nil =>
      cases out with
      | nil => rfl
      | cons b out => simp [addText]
  | cons e read =>
      cases e with
      | text content => simp [addText]
      | opened => exact hcons _ _ fun c h => by cases h
      | closed => exact hcons _ _ fun c h => by cases h

theorem addText_eq {content : List UInt8} (hne : content ≠ [])
    (h : endsInText r = false) :
    addText content r = .text content :: r := by
  cases r with
  | nil => exact if_neg hne
  | cons e _ =>
      cases e with
      | text => cases h
      | opened => exact if_neg hne
      | closed => exact if_neg hne

/-- The states inside of the content of an element. -/
theorem embeds_content (name : Name) (stack : List Name)
    (r : List Event) :
    Embeds known [0x3C] fun p out =>
      ⟨.content p, name :: stack, addText out r⟩ where
  step_eq := by
    intro p out b hb
    rw [List.mem_singleton] at hb
    show (if b = 0x3C then _ else _) = _
    rw [if_neg hb, if_neg (List.cons_ne_nil _ _)]
    simp [addText_addText]

theorem content_stops : ∀ b ∈ ([0x3C] : List UInt8), b = 0x3C ∨ b = 0x22 := by
  simp

/-- A text that follows no other. -/
theorem accepts_text (hwritten : Escaping known written) (hstack : stack ≠ [])
    {content : List UInt8} (hne : content ≠ [])
    (hbehind : endsInText r = false) :
    (reader known).Accepts ⟨.content .text, stack, r⟩
        (escape written content ++ l) es ↔
      Legible known written content ∧
        (reader known).Accepts
          ⟨.content .text, stack, .text content :: r⟩ l es := by
  obtain ⟨name, stack, rfl⟩ := List.exists_cons_of_ne_nil hstack
  have hempty : addText [] r = r := by
    cases r with
    | nil => rfl
    | cons e read => cases e <;> simp [addText]
  have h : (reader known).Accepts
      ⟨.content .text, name :: stack, addText [] r⟩
        (escape written content ++ l) es ↔
      Legible known written content ∧ (reader known).Accepts
        ⟨.content .text, name :: stack, addText ([] ++ content) r⟩ l es :=
    (embeds_content name stack r).accepts_escape hwritten content_stops
  rw [hempty, List.nil_append, addText_eq hne hbehind] at h
  exact h

/-- **Print and read.** Inside of an element the siblings are reported one
after another, if all of their texts are legible. -/
theorem accepts_print (hwritten : Escaping known written)
    (hstack : stack ≠ []) (hnormal : Normal (endsInText r) t) :
    (reader known).Accepts ⟨.content .text, stack, r⟩
        (print written t ++ l) es ↔
      (∀ text ∈ texts t, Legible known written text) ∧
        (reader known).Accepts
          ⟨.content .text, stack, (events t).reverse ++ r⟩ l es := by
  induction t generalizing stack r l with
  | nil => exact (and_iff_right fun text h => absurd h List.not_mem_nil).symm
  | node a children next ihc ihn =>
      cases a with
      | text content =>
          obtain ⟨hbehind, hne, -, hnext⟩ := hnormal
          show (reader known).Accepts _
            ((escape written content ++ print written next) ++ l) es ↔ _
          rw [List.append_assoc, accepts_text hwritten hstack hne hbehind,
            ihn (r := .text content :: r) hstack hnext]
          simp [texts, events, and_assoc]
      | element name attributes =>
          obtain ⟨hchildren, hnext⟩ := hnormal
          have hinner : name :: stack ≠ [] := List.cons_ne_nil _ _
          show (reader known).Accepts _ ((openTag written name attributes ++
            (print written children ++ (closeTag name ++ print written next)))
              ++ l) es ↔ _
          rw [List.append_assoc, List.append_assoc, List.append_assoc,
            accepts_openTag hwritten rfl fun h => absurd h hstack,
            ihc (r := .opened name attributes :: r) hinner hchildren,
            accepts_closeTag]
          rw [ihn (r := .closed name :: _) hstack hnext,
            forall_texts_element, and_assoc, and_assoc]
          simp [events]

/-- An element that is a document. -/
theorem read_reader_print (hwritten : Escaping known written) {name : Name}
    {attributes : Attributes} {children : Siblings Node}
    (hnormal : Normal false children) :
    (reader known).read ⟨.content .text, [], []⟩
        (print written (.node (.element name attributes) children .nil)) =
          some es ↔
      (∀ text ∈ texts (.node (.element name attributes) children .nil),
        Legible known written text) ∧
          es = events (.node (.element name attributes) children .nil) := by
  show (reader known).Accepts _ (openTag written name attributes ++
    (print written children ++ (closeTag name ++ []))) es ↔ _
  rw [accepts_openTag hwritten rfl fun _ => rfl,
    accepts_print (r := [.opened name attributes]) hwritten
      (List.cons_ne_nil _ _) hnormal, accepts_closeTag]
  have hfinish : ∀ read : List Event, (reader known).Accepts
      ⟨.content .text, [], .closed name :: read⟩ [] es ↔
        es = (Event.closed name :: read).reverse := by
    intro read
    exact Option.some_inj.trans eq_comm
  rw [hfinish, forall_texts_element, and_assoc]
  simp [texts, events]

/-- **Round trip.** A document that is printed, of bytes that are allowed,
reads back exactly if each of its texts does. -/
theorem read_print (hwritten : Escaping known written) {name : Name}
    {attributes : Attributes} {children : Siblings Node}
    (hnormal : Normal false children) :
    let t := Siblings.node (.element name attributes) children .nil
    let doc := declaration ++ print written t
    read known doc = some es ↔
      Allowed doc ∧ (∀ text ∈ texts t, Legible known written text) ∧
        es = events t := by
  intro t doc
  have hdecl : declaration.isPrefixOf doc = true :=
    List.isPrefixOf_iff_prefix.mpr (List.prefix_append _ _)
  have hrest : doc.drop declaration.length = print written t :=
    List.drop_left
  rw [read, if_pos hdecl, hrest]
  split
  · next hallowed =>
      rw [ read_reader_print hwritten hnormal]
      exact (and_iff_right hallowed).symm
  · next hallowed => simp [hallowed]

end Documents

end Xupnp.Library.Xml
