import Mathlib.Data.List.Basic
import Xupnp.Library.Reader
import Xupnp.Library.Utf8
import Xupnp.Library.CString

/-!
# JSON texts

A reader for JSON that takes a text byte by byte, with the open arrays and
objects on a stack. Strings stand for the bytes they decode to and numbers for
their own text.
-/

namespace Xupnp.Library.Json

open Xupnp.Library

abbrev Text := List UInt8

inductive Value where
  | null
  | bool (b : Bool)
  | num (text : Text)
  | str (text : Text)
  | arr (items : List Value)
  | obj (members : List (Text × Value))

/-! ## Strings -/

/-- Where in an escape sequence the reader is. `left` counts the digits after
the next one; a high surrogate waits for its low one. -/
inductive Escape where
  | none
  | slash
  | hex (left code : ℕ)
  | lowSlash (high : ℕ)
  | lowU (high : ℕ)
  | lowHex (high left code : ℕ)
deriving DecidableEq

/-- A string in reading: what it has decoded to. -/
structure Str where
  text : Text
  escape : Escape

def hexDigit (b : UInt8) : Option ℕ :=
  if 0x30 ≤ b ∧ b ≤ 0x39 then some (b.toNat - 0x30)
  else if 0x41 ≤ b ∧ b ≤ 0x46 then some (b.toNat - 0x37)
  else if 0x61 ≤ b ∧ b ≤ 0x66 then some (b.toNat - 0x57)
  else Option.none

/-- The UTF-8 form of a code point. -/
def utf8 (code : ℕ) : Text :=
  if code < 0x80 then [UInt8.ofNat code]
  else if code < 0x800 then
    [UInt8.ofNat (0xC0 + code / 0x40), UInt8.ofNat (0x80 + code % 0x40)]
  else if code < 0x10000 then
    [UInt8.ofNat (0xE0 + code / 0x1000),
      UInt8.ofNat (0x80 + code / 0x40 % 0x40), UInt8.ofNat (0x80 + code % 0x40)]
  else
    [UInt8.ofNat (0xF0 + code / 0x40000),
      UInt8.ofNat (0x80 + code / 0x1000 % 0x40),
      UInt8.ofNat (0x80 + code / 0x40 % 0x40), UInt8.ofNat (0x80 + code % 0x40)]

/-- What `\` and one more byte stand for. -/
def shortEscape (b : UInt8) : Option UInt8 :=
  if b = 0x22 ∨ b = 0x5C ∨ b = 0x2F then some b
  else if b = 0x62 then some 0x08
  else if b = 0x66 then some 0x0C
  else if b = 0x6E then some 0x0A
  else if b = 0x72 then some 0x0D
  else if b = 0x74 then some 0x09
  else Option.none

/-- One byte inside a string, its closing quote apart. -/
def strStep (s : Str) (b : UInt8) : Option Str :=
  match s.escape with
  | .none =>
      if b = 0x5C then some { s with escape := .slash }
      else if b < 0x20 then Option.none
      else some { s with text := s.text ++ [b] }
  | .slash =>
      if b = 0x75 then some { s with escape := .hex 3 0 }
      else (shortEscape b).map fun c => ⟨s.text ++ [c], .none⟩
  | .hex (left + 1) code =>
      (hexDigit b).map fun d => { s with escape := .hex left (16 * code + d) }
  | .hex 0 code => (hexDigit b).bind fun d =>
      let code := 16 * code + d
      -- A surrogate stands for no character without its other half.
      if 0xD800 ≤ code ∧ code < 0xDC00 then
        some { s with escape := .lowSlash code }
      else if 0xDC00 ≤ code ∧ code < 0xE000 then Option.none
      else some ⟨s.text ++ utf8 code, .none⟩
  | .lowSlash high =>
      if b = 0x5C then some { s with escape := .lowU high } else Option.none
  | .lowU high =>
      if b = 0x75 then some { s with escape := .lowHex high 3 0 }
      else Option.none
  | .lowHex high (left + 1) code => (hexDigit b).map fun d =>
      { s with escape := .lowHex high left (16 * code + d) }
  | .lowHex high 0 code => (hexDigit b).bind fun d =>
      let code := 16 * code + d
      if 0xDC00 ≤ code ∧ code < 0xE000 then
        some ⟨s.text ++
          utf8 (0x10000 + 0x400 * (high - 0xD800) + (code - 0xDC00)), .none⟩
      else Option.none

/-! ## Numbers -/

/-- How far into a number the reader is. -/
inductive Num where
  | minus
  | zero
  | int
  | point
  | frac
  | e
  | esign
  | exp

def isDigit (b : UInt8) : Bool := 0x30 ≤ b && b ≤ 0x39

/-- A number may end here. -/
def Num.complete : Num → Bool
  | .zero | .int | .frac | .exp => true
  | .minus | .point | .e | .esign => false

/-- The next byte, if the number goes on with it. -/
def numStep : Num → UInt8 → Option Num
  | .minus, b =>
      if b = 0x30 then some .zero else if isDigit b then some .int else none
  | .zero, b =>
      if b = 0x2E then some .point
      else if b = 0x65 ∨ b = 0x45 then some .e
      else none
  | .int, b =>
      if isDigit b then some .int
      else if b = 0x2E then some .point
      else if b = 0x65 ∨ b = 0x45 then some .e
      else none
  | .point, b => if isDigit b then some .frac else none
  | .frac, b =>
      if isDigit b then some .frac
      else if b = 0x65 ∨ b = 0x45 then some .e
      else none
  | .e, b =>
      if isDigit b then some .exp
      else if b = 0x2B ∨ b = 0x2D then some .esign
      else none
  | .esign, b => if isDigit b then some .exp else none
  | .exp, b => if isDigit b then some .exp else none

/-! ## Values -/

/-- An array or object that is still open: what it has so far, and the name the
next value belongs to. -/
inductive Frame where
  | arr (items : List Value)
  | obj (members : List (Text × Value)) (name : Text)

/-- What the reader is in the middle of. -/
inductive Mode where
  | value
  | firstItem
  | firstName
  | nextName (members : List (Text × Value))
  | inName (members : List (Text × Value)) (s : Str)
  | colon (members : List (Text × Value)) (name : Text)
  | inString (s : Str)
  | inWord (left : Text) (v : Value)
  | inNumber (q : Num) (text : Text)
  | done (v : Value)

abbrev State := Mode × List Frame

def isWs (b : UInt8) : Bool :=
  b == 0x20 || b == 0x09 || b == 0x0A || b == 0x0D

/-- The first byte of a value. -/
def startValue (st : List Frame) (b : UInt8) : Option State :=
  if b = 0x22 then some (.inString ⟨[], .none⟩, st)
  else if b = 0x7B then some (.firstName, st)
  else if b = 0x5B then some (.firstItem, st)
  else if b = 0x74 then some (.inWord [0x72, 0x75, 0x65] (.bool true), st)
  else if b = 0x66 then
    some (.inWord [0x61, 0x6C, 0x73, 0x65] (.bool false), st)
  else if b = 0x6E then some (.inWord [0x75, 0x6C, 0x6C] .null, st)
  else if b = 0x2D then some (.inNumber .minus [b], st)
  else if b = 0x30 then some (.inNumber .zero [b], st)
  else if isDigit b then some (.inNumber .int [b], st)
  else none

/-- A byte after a complete value. -/
def afterValue (v : Value) (st : List Frame) (b : UInt8) : Option State :=
  if isWs b then some (.done v, st)
  else
    match st with
    | [] => none
    | .arr items :: st =>
        if b = 0x2C then some (.value, .arr (items ++ [v]) :: st)
        else if b = 0x5D then some (.done (.arr (items ++ [v])), st)
        else none
    | .obj members name :: st =>
        if b = 0x2C then some (.nextName (members ++ [(name, v)]), st)
        else if b = 0x7D then some (.done (.obj (members ++ [(name, v)])), st)
        else none

/-- One byte. -/
def step : State → UInt8 → Option State
  | (.value, st), b =>
      if isWs b then some (.value, st) else startValue st b
  | (.firstItem, st), b =>
      if isWs b then some (.firstItem, st)
      else if b = 0x5D then some (.done (.arr []), st)
      else startValue (.arr [] :: st) b
  | (.firstName, st), b =>
      if isWs b then some (.firstName, st)
      else if b = 0x7D then some (.done (.obj []), st)
      else if b = 0x22 then some (.inName [] ⟨[], .none⟩, st)
      else none
  | (.nextName members, st), b =>
      if isWs b then some (.nextName members, st)
      else if b = 0x22 then some (.inName members ⟨[], .none⟩, st)
      else none
  | (.inName members s, st), b =>
      if s.escape = .none ∧ b = 0x22 then some (.colon members s.text, st)
      else (strStep s b).map fun s => (.inName members s, st)
  | (.colon members name, st), b =>
      if isWs b then some (.colon members name, st)
      else if b = 0x3A then some (.value, .obj members name :: st)
      else none
  | (.inString s, st), b =>
      if s.escape = .none ∧ b = 0x22 then some (.done (.str s.text), st)
      else (strStep s b).map fun s => (.inString s, st)
  | (.inWord [] v, st), b => afterValue v st b
  | (.inWord (c :: left) v, st), b =>
      if b = c then some (.inWord left v, st) else none
  | (.inNumber q text, st), b =>
      match numStep q b with
      | some q => some (.inNumber q (text ++ [b]), st)
      | none => if q.complete then afterValue (.num text) st b else none
  | (.done v, st), b => afterValue v st b

/-- The value of a text that ends here. -/
def finish : State → Option Value
  | (.done v, []) => some v
  | (.inWord [] v, []) => some v
  | (.inNumber q text, []) => if q.complete then some (.num text) else none
  | _ => none

def reader : Reader State UInt8 Value := ⟨step, finish⟩

/-- The value of a JSON text. -/
def parse (l : Text) : Option Value :=
  if Utf8.Valid l then reader.read (.value, []) l else none

theorem parse_eq_some {l : Text} {J : Value} :
    parse l = some J ↔ Utf8.Valid l ∧ reader.Accepts (.value, []) l J := by
  simp [parse, Reader.Accepts]

/-- A byte that stands for itself in a string. -/
def Plain (b : UInt8) : Prop := 0x20 ≤ b ∧ b ≠ 0x22 ∧ b ≠ 0x5C

instance (b : UInt8) : Decidable (Plain b) :=
  inferInstanceAs (Decidable (_ ∧ _))

end Xupnp.Library.Json
