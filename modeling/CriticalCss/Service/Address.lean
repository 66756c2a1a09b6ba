import CriticalCss.Text.Blank
import CriticalCss.Text.Digit
import CriticalCss.Text.Quoted
import CriticalCss.Text.Utf8
/-! Addresses that callers give, and the paths that they lead to. An address may name a scheme and a
host; if it lacks one of them it is taken below the root of the service. Steps that stay or go back
are resolved before the escapes of the path are, so an escaped step is a step like others.
-/

namespace CriticalCss.Service

/-- Why an address leads nowhere. -/
inductive AddressFault where
  | tooLong
  | control (c : Char) (position : Nat)
  | doubleSlash
  | leadingColon
  deriving DecidableEq, Repr

/-- The wording of a fault. -/
def AddressFault.message : AddressFault → String
  | tooLong => "URL too long"
  | control c position =>
    "Invalid non-printable ASCII character in URL, " ++ Text.quoted (String.singleton c)
      ++ " at position " ++ toString position ++ "."
  | doubleSlash => "Relative URLs cannot have a path starting with '//'"
  | leadingColon => "Relative URLs cannot have a path starting with ':'"

/-- The parts of an address that matter for the path. -/
structure Address where
  scheme : List Char
  host : List Char
  path : List Char

namespace Address

/-- The most characters of an address. -/
def longest : Nat := 65536

/-- Is the character a control character? -/
def isControl (c : Char) : Bool :=
  c.toNat < 0x20 || c.toNat = 0x7F

/-- Can the character stand in the name of a scheme? -/
def isSchemeChar (c : Char) : Bool :=
  c.isAlphanum || c == '+' || c == '.' || c == '-'

/-- Splits the name of a scheme off, which a colon ends and which may be empty. -/
def splitScheme (text : List Char) : List Char × List Char :=
  let name := text.takeWhile isSchemeChar
  match text.dropWhile isSchemeChar with
  | ':' :: rest => if name.head?.all Char.isAlpha then (name, rest) else ([], text)
  | _ => ([], text)

/-- Does the character end the path? -/
def endsPath (c : Char) : Bool :=
  c == '?' || c == '#'

/-- Splits the host off, which follows two slashes. -/
def splitHost (text : List Char) : List Char × List Char :=
  let isHostChar (c : Char) : Bool := c != '/' && !endsPath c
  match text with
  | '/' :: '/' :: rest => (rest.takeWhile isHostChar, rest.dropWhile isHostChar)
  | _ => ([], text)

/-- Splits an address, and drops what follows the path. -/
def ofText (text : String) : Address :=
  let (scheme, rest) := splitScheme text.toList
  let (host, rest) := splitHost rest
  ⟨scheme, host, rest.takeWhile (!endsPath ·)⟩

/-- Takes a step: one that stays is dropped, and one that goes back takes the last step away, but
not the emptiness in front of the first slash. -/
def takeStep (taken : List (List Char)) (step : List Char) : List (List Char) :=
  if step = ['.'] then taken
  else if step = ['.', '.'] then if taken = [[]] then taken else taken.dropLast
  else taken ++ [step]

/-- A path without the steps that stay or go back. -/
def straighten (path : List Char) : List Char :=
  ['/'].intercalate ((Text.splitWhere (· == '/') path).foldl takeStep [])

/-- The bytes of a path, with its escapes resolved. -/
def unescape : List Char → List UInt8
  | [] => []
  | '%' :: high :: low :: rest =>
    if Text.isHexDigit high && Text.isHexDigit low then
      UInt8.ofNat (Text.digitsValue 16 [high, low]) :: unescape rest
    else '%'.toUInt8 :: unescape (high :: low :: rest)
  | c :: rest => (String.singleton c).toUTF8.toList ++ unescape rest

/-- Does the address tell neither scheme nor host? -/
def isBare (address : Address) : Bool :=
  address.scheme.isEmpty && address.host.isEmpty

/-- What is wrong with an address that is split. A path alone may not look like more than that. -/
def fault? (address : Address) : Option AddressFault :=
  if !address.isBare then none
  else if address.path.take 2 = ['/', '/'] then some .doubleSlash
  else if address.path.head? = some ':' then some .leadingColon
  else none

/-- The path below the root of the service. Only an address with scheme and host has one of its
own. -/
def target (address : Address) : List Char :=
  if !address.scheme.isEmpty && !address.host.isEmpty then straighten address.path
  else
    let path := if address.isBare then address.path else straighten address.path
    straighten ('/' :: path.dropWhile (· == '/'))

/-- The path that an address leads to. -/
def read (text : String) : Except AddressFault String :=
  let chars := text.toList
  if longest < chars.length then .error .tooLong
  else
    match chars.findIdx? isControl with
    | some position => .error (.control (chars.getD position ' ') position)
    | none =>
      let address := ofText text
      match address.fault? with
      | some fault => .error fault
      | none =>
        let path := address.target
        .ok (if path.isEmpty then "/" else String.ofList (Text.Utf8.repair (unescape path)))

end Address

end CriticalCss.Service
