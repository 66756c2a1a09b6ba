import CriticalCss.Text.Blank
import CriticalCss.Text.CharacterName.Aliases
import CriticalCss.Text.CharacterName.AncientScripts
import CriticalCss.Text.CharacterName.AsianScripts
import CriticalCss.Text.CharacterName.EastAsianScripts
import CriticalCss.Text.CharacterName.EuropeanScripts
import CriticalCss.Text.CharacterName.Notations
import CriticalCss.Text.CharacterName.Pictographs
import CriticalCss.Text.CharacterName.PresentationForms
import CriticalCss.Text.CharacterName.Punctuation
import CriticalCss.Text.CharacterName.ScholarlyLetters
import CriticalCss.Text.CharacterName.Shapes
import CriticalCss.Text.CharacterName.Syllabaries
import CriticalCss.Text.CharacterName.WordSigns
import CriticalCss.Text.Digit
import CriticalCss.Text.Ranges
/-! Characters by their names. Most names are listed, in tables for parts of the code space. The
names of Hangul syllables are made of the names of their parts, and those of ideographs and a few
other signs of a common beginning and the code point. A listed name may be written in any case,
those of Hangul syllables and unified ideographs in capitals only.
-/

namespace CriticalCss.Text

namespace CharacterName

--------------------------------------------------------------------------------
-- Listed names
--------------------------------------------------------------------------------

/-- The entries of a row: how many words of the name before stay, and the text of the others. -/
def entries (row : List Char) : List (Nat × List Char) :=
  (row.foldr
    (fun c (read : List (Nat × List Char) × List Char) =>
      if c.isLower then ((c.toNat - 'a'.toNat, read.2) :: read.1, [])
      else (read.1, c :: read.2))
    ([], [])).1

/-- The words of the names that entries stand for, behind a name with the given words. -/
def names (before : List (List Char)) : List (Nat × List Char) → List (List (List Char))
  | [] => []
  | (kept, added) :: rest =>
    let name := before.take kept ++ splitWhere (· == ' ') added
    name :: names name rest

/-- The code point that a row has for a name. -/
def inRow? (name : List (List Char)) (row : Nat × List String) : Option Nat :=
  ((names [] (entries (row.2.flatMap String.toList))).findIdx? (· == name)).map (row.1 + ·)

/-- The tables of names. -/
def tables : List (List (Nat × List String)) :=
  [europeanScripts, punctuation, shapes, pictographs, aliases, scholarlyLetters, asianScripts,
    syllabaries, eastAsianScripts, presentationForms, notations, ancientScripts, wordSigns]

/-- The code point with a listed name. -/
def listed? (name : List Char) : Option Nat :=
  let name := splitWhere (· == ' ') name
  tables.findSome? (·.findSome? (inRow? name))

--------------------------------------------------------------------------------
-- Names with a code point
--------------------------------------------------------------------------------

/-- What follows a beginning of a text. -/
def dropBeginning? (beginning : String) (text : List Char) : Option (List Char) :=
  if beginning.toList.isPrefixOf text then some (text.drop beginning.length) else none

/-- Unified ideographs. -/
def ideographRanges : List (Nat × Nat) :=
  [(0x3400, 0x4DBF), (0x4E00, 0x9FFF), (0x20000, 0x2A6DF), (0x2A700, 0x2B738),
    (0x2B740, 0x2B81D), (0x2B820, 0x2CEA1), (0x2CEB0, 0x2EBE0), (0x30000, 0x3134A)]

/-- The code point written with four or five digits, if it is in one of the ranges. -/
def codeWithin? (ranges : List (Nat × Nat)) (digits : List Char) : Option Nat :=
  let code := digitsValue 16 digits
  if (digits.length = 4 || digits.length = 5) && digits.all (fun c => c.isDigit || c.isUpper)
      && digits.all isHexDigit && inRanges ranges code then some code
  else none

/-- Beginnings of names that end in the code point, written with as many digits as it has. -/
def numberedNames : List (String × List (Nat × Nat)) :=
  [("CJK COMPATIBILITY IDEOGRAPH-", [(0xF900, 0xFA6D), (0xFA70, 0xFAD9), (0x2F800, 0x2FA1D)]),
    ("KHITAN SMALL SCRIPT CHARACTER-", [(0x18B00, 0x18CD5)]),
    ("NUSHU CHARACTER-", [(0x1B170, 0x1B2FB)])]

/-- The code point with a numbered name. -/
def numbered? (name : List Char) : Option Nat :=
  numberedNames.findSome? fun (beginning, ranges) => do
    let digits ← dropBeginning? beginning name
    if digits.head? = some '0' then none else codeWithin? ranges digits

--------------------------------------------------------------------------------
-- Hangul syllables
--------------------------------------------------------------------------------

/-- Names of the consonants that a syllable begins with. -/
def firstConsonants : List String :=
  ["G", "GG", "N", "D", "DD", "R", "M", "B", "BB", "S", "SS", "", "J", "JJ", "C", "K", "T", "P",
    "H"]

/-- Names of the vowels of a syllable. -/
def vowels : List String :=
  ["A", "AE", "YA", "YAE", "EO", "E", "YEO", "YE", "O", "WA", "WAE", "OE", "YO", "U", "WEO", "WE",
    "WI", "YU", "EU", "YI", "I"]

/-- Names of the consonants that a syllable ends in. -/
def lastConsonants : List String :=
  ["", "G", "GG", "GS", "N", "NJ", "NH", "D", "L", "LG", "LM", "LB", "LS", "LT", "LP", "LH", "M",
    "B", "BS", "S", "SS", "NG", "J", "C", "K", "T", "P", "H"]

/-- The longest of the names that a text begins with: its number and what follows it. -/
def takeLongest? (options : List String) (text : List Char) : Option (Nat × List Char) :=
  (options.zipIdx.foldl
    (fun (best : Option (Nat × Nat)) (name, index) =>
      if name.toList.isPrefixOf text && best.all (·.1 < name.length) then
        some (name.length, index)
      else best)
    none).map fun (length, index) => (index, text.drop length)

/-- The code point of the syllable whose parts have these names one after the other. -/
def syllable? (parts : List Char) : Option Nat := do
  let (first, rest) ← takeLongest? firstConsonants parts
  let (vowel, rest) ← takeLongest? vowels rest
  let (last, rest) ← takeLongest? lastConsonants rest
  if rest.isEmpty then
    some (0xAC00 + (first * vowels.length + vowel) * lastConsonants.length + last)
  else none

end CharacterName

open CharacterName in
/-- The character with the given name. -/
def characterNamed? (name : String) : Option Char :=
  let code? :=
    match dropBeginning? "HANGUL SYLLABLE " name.toList with
    | some parts => syllable? parts
    | none =>
      match dropBeginning? "CJK UNIFIED IDEOGRAPH-" name.toList with
      | some digits => codeWithin? ideographRanges digits
      | none =>
        let name := name.toList.map Char.toUpper
        (numbered? name).or (listed? name)
  code?.map Char.ofNat

end CriticalCss.Text
