import CriticalCss.Text.Quoted
/-! Reading bytes as text. A character takes one to four bytes: the first tells how many follow and
in which range the second has to be, every further one is a continuation byte. What cannot be read
is reported with its place and the reason, or replaced.
-/

namespace CriticalCss.Text.Utf8

/-- Why bytes are no text. -/
inductive Reason where
  | badStart
  | badContinuation
  | endsEarly
  deriving DecidableEq, Repr

/-- The wording of a reason. -/
def Reason.message : Reason → String
  | badStart => "invalid start byte"
  | badContinuation => "invalid continuation byte"
  | endsEarly => "unexpected end of data"

/-- Bytes that are no text: the first of them, their number, where they start, and the reason. -/
structure Fault where
  byte : UInt8
  count : Nat
  position : Nat
  reason : Reason
  deriving DecidableEq, Repr

/-- The wording of a fault. -/
def Fault.message (fault : Fault) : String :=
  let place :=
    if fault.count = 1 then
      "byte 0x" ++ String.ofList (hexPadded 2 fault.byte.toNat) ++ " in position "
        ++ toString fault.position
    else
      "bytes in position " ++ toString fault.position ++ "-"
        ++ toString (fault.position + fault.count - 1)
  "'utf-8' codec can't decode " ++ place ++ ": " ++ fault.reason.message

/-- What the first byte of a character tells: its share of the code point, the number of bytes that
follow, and the range of the first of these. -/
structure Lead where
  bits : Nat
  following : Nat
  least : Nat
  most : Nat

/-- Reads a first byte. The ranges keep out surrogates, code points above 0x10FFFF, and characters
written longer than needed. -/
def lead? (byte : UInt8) : Option Lead :=
  let n := byte.toNat
  if n < 0x80 then some ⟨n, 0, 0x80, 0xBF⟩
  else if n < 0xC2 then none
  else if n < 0xE0 then some ⟨n - 0xC0, 1, 0x80, 0xBF⟩
  else if n = 0xE0 then some ⟨0, 2, 0xA0, 0xBF⟩
  else if n = 0xED then some ⟨0xD, 2, 0x80, 0x9F⟩
  else if n < 0xF0 then some ⟨n - 0xE0, 2, 0x80, 0xBF⟩
  else if n = 0xF0 then some ⟨0, 3, 0x90, 0xBF⟩
  else if n < 0xF4 then some ⟨n - 0xF0, 3, 0x80, 0xBF⟩
  else if n = 0xF4 then some ⟨4, 3, 0x80, 0x8F⟩
  else none

/-- Where reading stands: before a character, or inside one that started with `first` at `position`
and has `taken` bytes so far. -/
inductive Stage where
  | between
  | inside (first : UInt8) (position taken bits following least most : Nat)

/-- Reads bytes from a position on. -/
def decodeFrom (position : Nat) (stage : Stage) : List UInt8 → Except Fault (List Char)
  | [] =>
    match stage with
    | .between => .ok []
    | .inside first start taken _ _ _ _ => .error ⟨first, taken, start, .endsEarly⟩
  | byte :: rest =>
    match stage with
    | .between =>
      match lead? byte with
      | none => .error ⟨byte, 1, position, .badStart⟩
      | some lead =>
        if lead.following = 0 then
          (decodeFrom (position + 1) .between rest).map (Char.ofNat lead.bits :: ·)
        else
          decodeFrom (position + 1)
            (.inside byte position 1 lead.bits lead.following lead.least lead.most) rest
    | .inside first start taken bits following least most =>
      if least ≤ byte.toNat && byte.toNat ≤ most then
        let bits := bits * 64 + (byte.toNat - 0x80)
        if following ≤ 1 then
          (decodeFrom (position + 1) .between rest).map (Char.ofNat bits :: ·)
        else
          decodeFrom (position + 1) (.inside first start (taken + 1) bits (following - 1) 0x80 0xBF)
            rest
      else .error ⟨first, taken, start, .badContinuation⟩

/-- Reads bytes as text. -/
def decode (bytes : List UInt8) : Except Fault (List Char) :=
  decodeFrom 0 .between bytes

--------------------------------------------------------------------------------
-- Replacing
--------------------------------------------------------------------------------

/-- What stands for bytes that cannot be read. -/
def replacement : Char := '\uFFFD'

/-- Takes a byte before a character: gives what is read by it, and where reading stands. -/
def openChar (byte : UInt8) : List Char × Stage :=
  match lead? byte with
  | none => ([replacement], .between)
  | some lead =>
    if lead.following = 0 then ([Char.ofNat lead.bits], .between)
    else ([], .inside byte 0 1 lead.bits lead.following lead.least lead.most)

/-- Takes a byte. If it does not go on with the character that is open the bytes of that are
replaced, and the byte is taken as one before a character. -/
def Stage.advance (stage : Stage) (byte : UInt8) : List Char × Stage :=
  match stage with
  | .between => openChar byte
  | .inside first start taken bits following least most =>
    if least ≤ byte.toNat && byte.toNat ≤ most then
      let bits := bits * 64 + (byte.toNat - 0x80)
      if following ≤ 1 then ([Char.ofNat bits], .between)
      else ([], .inside first start (taken + 1) bits (following - 1) 0x80 0xBF)
    else
      let (read, stage) := openChar byte
      (replacement :: read, stage)

/-- Reads bytes from a stage on, and replaces what cannot be read. -/
def repairFrom (stage : Stage) : List UInt8 → List Char
  | [] =>
    match stage with
    | .between => []
    | .inside .. => [replacement]
  | byte :: rest =>
    let (read, stage) := stage.advance byte
    read ++ repairFrom stage rest

/-- Reads bytes as text, and replaces what cannot be read. -/
def repair (bytes : List UInt8) : List Char :=
  repairFrom .between bytes

end CriticalCss.Text.Utf8
