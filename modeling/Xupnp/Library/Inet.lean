import Xupnp.Library.CString

/-!
# Internet addresses as text

`inet_aton` and `inet_pton` of the C library. `inet_aton` takes one to four
numbers in C notation and lets anything follow after white space; `inet_pton`
takes exactly the dotted quad, or the colon notation for IPv6. Both work on the
bytes from left to right.
-/

namespace Xupnp.Library

namespace Inet

/-- `isspace` in the C locale. -/
def isCSpace (b : UInt8) : Bool := b == 0x20 || (0x09 ≤ b && b ≤ 0x0D)

/-- `isdigit` -/
def isDigit (b : UInt8) : Bool := 0x30 ≤ b && b ≤ 0x39

/-- The value of a hexadecimal digit. -/
def hexVal (b : UInt8) : Option ℕ :=
  if isDigit b then some (b.toNat - 0x30)
  else if 0x41 ≤ b && b ≤ 0x46 then some (b.toNat - 0x37)
  else if 0x61 ≤ b && b ≤ 0x66 then some (b.toNat - 0x57)
  else none

/-- The digits of a number in base `base`, and what follows them. -/
def takeDigits (base : ℕ) (acc : ℕ) : List UInt8 → ℕ × List UInt8
  | [] => (acc, [])
  | b :: l =>
      match hexVal b with
      | some d =>
          if d < base then takeDigits base (acc * base + d) l else (acc, b :: l)
      | none => (acc, b :: l)

/-- `strtoul (s, &end, 0)` on a text that begins with a digit. -/
def strtoul : List UInt8 → ℕ × List UInt8
  | 0x30 :: x :: d :: l =>
      if (x = 0x78 ∨ x = 0x58) ∧ (hexVal d).isSome then
        takeDigits 16 0 (d :: l)
      else takeDigits 8 0 (0x30 :: x :: d :: l)
  | 0x30 :: l => takeDigits 8 0 (0x30 :: l)
  | l => takeDigits 10 0 l

/-- At most `n` numbers separated by dots, all but the last one byte each. -/
def atonParts : ℕ → List UInt8 → Option (List ℕ × List UInt8)
  | 0, _ => none
  | n + 1, l =>
      if l.head?.any isDigit then
        match strtoul l with
        | (val, 0x2E :: rest) =>
            -- A number in front of a dot is one byte.
            if val ≤ 0xFF then
              (atonParts n rest).map fun (ps, rest) => (val :: ps, rest)
            else none
        | (val, rest) => if val ≤ 0xFFFFFFFF then some ([val], rest) else none
      else none

/-- `htonl` on a little-endian machine. -/
def htonl (v : ℕ) : ℕ :=
  v % 0x100 * 0x1000000 + v / 0x100 % 0x100 * 0x10000
    + v / 0x10000 % 0x100 * 0x100 + v / 0x1000000 % 0x100

/-- The word with the parts in place. The last part fills the bytes the others
leave and has to fit there. -/
def atonWord : List ℕ → Option ℕ
  | [v] => if v ≤ 0xFFFFFFFF then some (htonl v) else none
  | [a, v] => if v ≤ 0xFFFFFF then some (a + htonl v) else none
  | [a, b, v] => if v ≤ 0xFFFF then some (a + b * 0x100 + htonl v) else none
  | [a, b, c, v] =>
      if v ≤ 0xFF then some (a + b * 0x100 + c * 0x10000 + htonl v) else none
  | _ => none

/-- `inet_aton`: the `s_addr` it stores, on a little-endian machine. -/
def aton (s : CStr) : Option ℕ := do
  let (ps, rest) ← atonParts 4 s.bytes
  if rest.head?.all isCSpace then atonWord ps else none

/-- The loop of `inet_pton` for IPv4: the octets begun, whether the present one
has a digit, and its value. -/
def pton4Loop : ℕ → Bool → ℕ → List UInt8 → Bool
  | octets, _, _, [] => octets == 4
  | octets, sawDigit, val, b :: l =>
      if isDigit b then
        let new := val * 10 + (b.toNat - 0x30)
        -- No number begins with a zero, but for the zero itself.
        if sawDigit && val == 0 then false
        else if 255 < new then false
        else if sawDigit then pton4Loop octets true new l
        else if octets == 4 then false
        else pton4Loop (octets + 1) true new l
      else if b == 0x2E && sawDigit then
        if octets == 4 then false else pton4Loop octets false 0 l
      else false

/-- `inet_pton (AF_INET, …) == 1` -/
def pton4 (l : List UInt8) : Bool := pton4Loop 0 false 0 l

/-- The loop of `inet_pton` for IPv6: the bytes stored, whether `::` was met,
the digits of the present group, and the text from its start. -/
def pton6Loop (bytes : ℕ) (colon : Bool) (xdigits : ℕ) (curtok : List UInt8) :
    List UInt8 → Bool
  | [] =>
      if 0 < xdigits ∧ 16 < bytes + 2 then false
      else
        let bytes := if 0 < xdigits then bytes + 2 else bytes
        if colon then bytes != 16 else bytes == 16
  | b :: l =>
      if (hexVal b).isSome then
        if xdigits == 4 then false
        else pton6Loop bytes colon (xdigits + 1) curtok l
      else if b == 0x3A then
        if xdigits == 0 then
          -- `::` may stand once.
          if colon then false else pton6Loop bytes true 0 l l
        else if l.isEmpty || 16 < bytes + 2 then false
        else pton6Loop (bytes + 2) colon 0 l l
      -- The last two groups may be written as an IPv4 address.
      else if b == 0x2E && bytes + 4 ≤ 16 && pton4 curtok then
        if colon then bytes + 4 != 16 else bytes + 4 == 16
      else false

/-- `inet_pton (AF_INET6, …) == 1` -/
def pton6 : List UInt8 → Bool
  | [] => false
  | 0x3A :: 0x3A :: l => pton6Loop 0 false 0 (0x3A :: l) (0x3A :: l)
  | 0x3A :: _ => false
  | l => pton6Loop 0 false 0 l l

example : aton (.lit "10.0.193.253 up") = some 0xFDC1000A := by decide

example : (pton4 (CStr.ascii "10.0.0.2") && pton6 (CStr.ascii "fe80::10.0.0.2")
    && !pton4 (CStr.ascii "10.0.0.02")) = true := by decide

end Inet

end Xupnp.Library
