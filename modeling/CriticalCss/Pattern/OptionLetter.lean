import CriticalCss.Pattern.Sign
import CriticalCss.Text.Letter
/-! Options written inside a pattern, as letters that are switched on or off for the whole pattern
or for one group.
-/

namespace CriticalCss.Pattern

/-- Options read so far, and which of the two readings of the classes was asked for. -/
structure OptionLetters where
  options : Options := {}
  unicode : Bool := false

/-- Is the letter that of an option? -/
def isOptionLetter (sign : Sign) : Bool :=
  match sign with
  | .plain c => c == 'i' || c == 'L' || c == 'm' || c == 's' || c == 'x' || c == 'a' || c == 't'
      || c == 'u'
  | .escaped _ => false

/-- Adds the option with the given letter. -/
def OptionLetters.add (letters : OptionLetters) : Char → OptionLetters
  | 'i' => { letters with options := { letters.options with ignoreCase := true } }
  | 'm' => { letters with options := { letters.options with multiline := true } }
  | 's' => { letters with options := { letters.options with dotAll := true } }
  | 'x' => { letters with options := { letters.options with verbose := true } }
  | 't' => { letters with options := { letters.options with template := true } }
  | 'a' => { letters with options := { letters.options with ascii := true } }
  | 'u' => { letters with unicode := true }
  | _ => letters

/-- Is the sign a letter? -/
def Sign.isLetter : Sign → Bool
  | plain c => Text.isLetter c
  | escaped _ => false

/-- Reads option letters from the given one on, up to the sign that ends them. -/
def readOptionsOn : Nat → Sign → OptionLetters → Read (OptionLetters × Char)
  | 0, _, _ => failBack .missingOptionEnd 0
  | rounds + 1, sign, letters => do
    let letter := match sign with
      | .plain c => c
      | .escaped c => c
    if letter = 'L' then failBack .localeOption 0
    let letters := letters.add letter
    if (letter = 'a' && letters.unicode) || (letter = 'u' && letters.options.ascii) then
      failBack .conflictingClasses 0
    match ← take with
    | none => failBack .missingOptionEnd 0
    | some (.plain ')') => return (letters, ')')
    | some (.plain '-') => return (letters, '-')
    | some (.plain ':') => return (letters, ':')
    | some next =>
      if isOptionLetter next then readOptionsOn rounds next letters
      else failBack (if next.isLetter then .unknownOption else .missingOptionEnd) next.length

/-- Reads the letters of options to switch off, up to the colon. -/
def readOptionsOff : Nat → Sign → OptionLetters → Read OptionLetters
  | 0, _, _ => failBack .missingColon 0
  | rounds + 1, sign, letters => do
    let letter := match sign with
      | .plain c => c
      | .escaped c => c
    if letter = 'a' || letter = 'u' || letter = 'L' then failBack .classOptionOff 0
    let letters := letters.add letter
    match ← take with
    | none => failBack .missingColon 0
    | some (.plain ':') => return letters
    | some next =>
      if isOptionLetter next then readOptionsOff rounds next letters
      else failBack (if next.isLetter then .unknownOption else .missingColon) next.length

/-- The options that hold where either of two sets of options does. -/
def Options.union (a b : Options) : Options where
  ignoreCase := a.ignoreCase || b.ignoreCase
  multiline := a.multiline || b.multiline
  dotAll := a.dotAll || b.dotAll
  ascii := a.ascii || b.ascii
  verbose := a.verbose || b.verbose
  template := a.template || b.template

/-- Have two sets of options one in common? -/
def Options.overlap (a b : Options) : Bool :=
  (a.ignoreCase && b.ignoreCase) || (a.multiline && b.multiline) || (a.dotAll && b.dotAll)
    || (a.verbose && b.verbose) || (a.template && b.template)

/-- Reads options whose first sign is taken. Gives nothing if they hold for the whole pattern, where
they are kept, and otherwise the change for the group that follows. -/
def readOptions (first : Sign) : Read (Option OptionChange) := do
  let rounds := (← remaining) + 1
  let (on, ending) ←
    if first = .plain '-' then pure ({}, '-') else readOptionsOn rounds first {}
  if ending = ')' then
    modify fun state =>
      { state with
        options := state.options.union on.options
        unicode := state.unicode || on.unicode }
    return none
  if on.options.template then failBack .globalOptionOn 1
  let off ←
    if ending = '-' then
      match ← take with
      | none => failBack .missingOption 0
      | some sign =>
        if isOptionLetter sign then readOptionsOff rounds sign {}
        else failBack (if sign.isLetter then .unknownOption else .missingOption) sign.length
    else pure {}
  if off.options.template then failBack .globalOptionOff 1
  if on.options.overlap off.options then failBack .optionOnAndOff 1
  return some ⟨on.options, off.options, on.unicode⟩

end CriticalCss.Pattern
