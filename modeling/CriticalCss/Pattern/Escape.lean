import CriticalCss.Pattern.Group
import CriticalCss.Text.CharacterName
/-! Escapes of a pattern: characters by code point, control characters, character classes,
conditions on a place, and references to groups by number.
-/

namespace CriticalCss.Pattern

/-- An octal digit. -/
def isOctalDigit (c : Char) : Bool :=
  '0' ≤ c && c ≤ '7'

/-- What an escape stands for inside a set: a code point or a class. -/
inductive SetEscape where
  | code (code : Nat)
  | named (name : CharClass) (negated : Bool)

/-- Control characters with a letter of their own. -/
def controlEscape? : Char → Option Nat
  | 'a' => some 7
  | 'b' => some 8
  | 'f' => some 12
  | 'n' => some 10
  | 'r' => some 13
  | 't' => some 9
  | 'v' => some 11
  | '\\' => some 92
  | _ => none

/-- Classes with a letter of their own. -/
def classEscape? : Char → Option (CharClass × Bool)
  | 'd' => some (.digit, false)
  | 'D' => some (.digit, true)
  | 's' => some (.space, false)
  | 'S' => some (.space, true)
  | 'w' => some (.word, false)
  | 'W' => some (.word, true)
  | _ => none

/-- Conditions with a letter of their own. -/
def anchorEscape? : Char → Option Anchor
  | 'A' => some .textStart
  | 'b' => some .wordBoundary
  | 'B' => some .insideWord
  | 'Z' => some .textEnd
  | _ => none

/-- Reads the digits of an escape by code point; exactly `count` of them are needed. -/
def readCode (letter : Char) (count : Nat) : Read Nat := do
  let digits ← takeChars Text.isHexDigit count
  let text := '\\' :: letter :: digits
  if digits.length < count then failBack (.incompleteEscape (String.ofList text)) text.length
  else
    let code := Text.digitsValue 16 digits
    if 0x10FFFF < code then failBack (.badEscape (String.ofList text)) text.length
    else return code

/-- Escapes that mean the same inside and outside of sets: by code point or by name. -/
def readCommonEscape? (letter : Char) : Read (Option Nat) := do
  match letter with
  | 'x' => return some (← readCode 'x' 2)
  | 'u' => return some (← readCode 'u' 4)
  | 'U' => return some (← readCode 'U' 8)
  | 'N' =>
    if ← accept '\x7b' then
      let letters ← takeUntil '\x7d' "character name"
      let name := String.ofList letters
      match Text.characterNamed? name with
      | some c => return some c.toNat
      | none => failBack (.unknownCharacterName name) (letters.length + 4)
    else failBack .missingBrace 0
  | _ => return none

/-- An octal escape with the given digits. -/
def octalCode (digits : List Char) : Read Nat := do
  let code := Text.digitsValue 8 digits
  if 0o377 < code then
    failBack (.octalTooLarge (String.ofList ('\\' :: digits))) (digits.length + 1)
  else return code

/-- Refuses an escape of one letter. -/
def badLetter {α : Type} (letter : Char) : Read α :=
  failBack (.badEscape (String.ofList ['\\', letter])) 2

/-- Reads the rest of an escape inside a set. -/
def readSetEscape (letter : Char) : Read SetEscape := do
  match controlEscape? letter with
  | some code => return .code code
  | none =>
    match classEscape? letter with
    | some (name, negated) => return .named name negated
    | none =>
      match ← readCommonEscape? letter with
      | some code => return .code code
      | none =>
        if isOctalDigit letter then
          let more ← takeChars isOctalDigit 2
          return .code (← octalCode (letter :: more))
        else if letter.isDigit || letter.isAlpha then badLetter letter
        else return .code letter.toNat

/-- A reference to the group with the given number, written with so many characters. -/
def groupReference (number length : Nat) : Read Expr := do
  let state ← get
  if number ≤ state.widths.length then
    if ((state.widths[number - 1]?).join).isNone then failBack .openGroup length
    checkBehind number
    return .reference number
  else failBack (.invalidReference number) (length - 1)

/-- Reads the rest of an escape outside of sets. -/
def readEscape (letter : Char) : Read Expr := do
  match anchorEscape? letter with
  | some anchor => return .anchor anchor
  | none =>
    match classEscape? letter with
    | some (name, negated) => return .set false [.named name negated]
    | none =>
      match controlEscape? letter with
      | some code => return .code code
      | none =>
        match ← readCommonEscape? letter with
        | some code => return .code code
        | none =>
          if letter = '0' then
            let more ← takeChars isOctalDigit 2
            return .code (Text.digitsValue 8 (letter :: more))
          else if letter.isDigit then
            match ← takeChars Char.isDigit 1 with
            | [second] =>
              if isOctalDigit letter && isOctalDigit second then
                match ← takeChars isOctalDigit 1 with
                | [third] => return .code (← octalCode [letter, second, third])
                | _ => groupReference (Text.digitsValue 10 [letter, second]) 3
              else groupReference (Text.digitsValue 10 [letter, second]) 3
            | _ => groupReference (Text.digitsValue 10 [letter]) 2
          else if letter.isAlpha then badLetter letter
          else return .code letter.toNat

end CriticalCss.Pattern
