import CriticalCss.Text.Utf8
/-! Texts as bytes, in units of 8, 16 or 32 bits. A text that is known to start with ASCII shows by
its first zero bytes how long its units are, and whether their high bytes come first.
-/

namespace CriticalCss.Text

/-- The order of the bytes of a unit. -/
inductive ByteOrder where
  | highFirst
  | lowFirst
  deriving DecidableEq, Repr

/-- How a text is written as bytes. -/
inductive Encoding where
  | utf8
  | utf16 (order : ByteOrder)
  | utf32 (order : ByteOrder)
  deriving DecidableEq, Repr

namespace Encoding

/-- The encoding that zero bytes at the start tell. -/
def detect : List UInt8 → Encoding
  | first :: second :: third :: fourth :: _ =>
    if first = 0 then if second = 0 then utf32 .highFirst else utf16 .highFirst
    else if second = 0 then
      if third = 0 && fourth = 0 then utf32 .lowFirst else utf16 .lowFirst
    else utf8
  | [first, second] =>
    if first = 0 then utf16 .highFirst else if second = 0 then utf16 .lowFirst else utf8
  | _ => utf8

/-- A number of two parts, of which the lower is below a base. -/
def joinParts (order : ByteOrder) (base first second : Nat) : Nat :=
  match order with
  | .highFirst => first * base + second
  | .lowFirst => second * base + first

/-- The units of two bytes; nothing if a byte is left over. -/
def pairs? (order : ByteOrder) : List UInt8 → Option (List Nat)
  | [] => some []
  | [_] => none
  | first :: second :: rest =>
    (pairs? order rest).map (joinParts order 0x100 first.toNat second.toNat :: ·)

/-- The units of two parts each; nothing if a part is left over. -/
def joinPairs? (order : ByteOrder) : List Nat → Option (List Nat)
  | [] => some []
  | [_] => none
  | first :: second :: rest =>
    (joinPairs? order rest).map (joinParts order 0x10000 first second :: ·)

/-- Is the unit the first half of a surrogate pair? -/
def isHighHalf (unit : Nat) : Bool :=
  0xD800 ≤ unit && unit ≤ 0xDBFF

/-- Is the unit the second half of a surrogate pair? -/
def isLowHalf (unit : Nat) : Bool :=
  0xDC00 ≤ unit && unit ≤ 0xDFFF

/-- The character of a code point; half of a surrogate pair is replaced. -/
def charOf (code : Nat) : Char :=
  if code.isValidChar then Char.ofNat code else Utf8.replacement

/-- The characters of units of 16 bits. -/
def charsOfPairs : List Nat → List Char
  | [] => []
  | [unit] => [charOf unit]
  | high :: low :: rest =>
    if isHighHalf high && isLowHalf low then
      charOf (0x10000 + (high - 0xD800) * 0x400 + (low - 0xDC00)) :: charsOfPairs rest
    else charOf high :: charsOfPairs (low :: rest)

/-- The greatest code point. -/
def lastCode : Nat := 0x10FFFF

/-- Reads bytes as text. -/
def decode? (encoding : Encoding) (bytes : List UInt8) : Option (List Char) :=
  match encoding with
  | utf8 => (Utf8.decode bytes).toOption
  | utf16 order => (pairs? order bytes).map charsOfPairs
  | utf32 order => do
    let units ← (pairs? order bytes).bind (joinPairs? order)
    if units.all (· ≤ lastCode) then some (units.map charOf) else none

end Encoding

end CriticalCss.Text
