import CriticalCss.Text.Digit
import CriticalCss.Text.Quoted
/-! Search patterns: what they are made of, and what can be wrong with one.

A pattern is a regular expression with groups, references to groups, assertions that look ahead or
behind, greedy, lazy and possessive repetition, and options that hold for the whole pattern or
for one group.
-/

namespace CriticalCss.Pattern

/-- The options of a pattern or of a group in it. -/
structure Options where
  ignoreCase : Bool := false
  multiline : Bool := false
  dotAll : Bool := false
  /-- The character classes and case hold for ASCII only. -/
  ascii : Bool := false
  /-- Blanks and comments in the pattern are skipped. -/
  verbose : Bool := false
  /-- Repetition is not allowed. -/
  template : Bool := false
  deriving DecidableEq, Repr

/-- A class of characters with a letter of its own. -/
inductive CharClass where
  | digit
  | space
  | word
  deriving DecidableEq, Repr

/-- A member of a character set. Code points are numbers, for an escape can name one that no text
holds. -/
inductive SetItem where
  | code (code : Nat)
  | range (first last : Nat)
  | named (name : CharClass) (negated : Bool)
  deriving DecidableEq, Repr

/-- A condition on a place in the text. -/
inductive Anchor where
  | lineStart
  | lineEnd
  | textStart
  | textEnd
  | wordBoundary
  | insideWord
  deriving DecidableEq, Repr

/-- How a repetition chooses among the numbers of rounds it allows. -/
inductive Mode where
  | greedy
  | lazy
  | possessive
  deriving DecidableEq, Repr

/-- Options switched on and off for a group. -/
structure OptionChange where
  on : Options
  off : Options
  /-- The classes are those of all scripts again. -/
  unicode : Bool
  deriving DecidableEq, Repr

/-- A regular expression. -/
inductive Expr where
  | empty
  | code (code : Nat)
  /-- Any character but one. -/
  | otherCode (code : Nat)
  | anyChar
  | set (negated : Bool) (items : List SetItem)
  | anchor (anchor : Anchor)
  | repeated (mode : Mode) (least : Nat) (most : Option Nat) (body : Expr)
  /-- A group; with a number it remembers what it matched. -/
  | group (number : Option Nat) (body : Expr)
  | scoped (change : OptionChange) (body : Expr)
  | atomic (body : Expr)
  | lookAhead (negated : Bool) (body : Expr)
  /-- An assertion on the text before the place, of the given least and greatest width. -/
  | lookBehind (negated : Bool) (least most : Nat) (body : Expr)
  | reference (number : Nat)
  | conditional (number : Nat) (yes no : Expr)
  | cat (first second : Expr)
  | alt (first second : Expr)
  deriving DecidableEq, Repr

/-- What is wrong with a pattern. -/
inductive Fault where
  | endInEscape
  | incompleteEscape (escape : String)
  | badEscape (escape : String)
  | octalTooLarge (escape : String)
  | missingBrace
  | missingName (what : String)
  | unterminatedName (terminator : Char)
  | unknownCharacterName (name : String)
  | openGroup
  | groupInLookBehind
  | invalidReference (number : Nat)
  | unterminatedSet
  | badRange (first last : String)
  | nothingToRepeat
  | multipleRepeat
  | leastAboveMost
  | unexpectedEnd
  | badGroupName (name : String)
  | unknownGroupName (name : String)
  | repeatedGroupName (name : String) (group previous : Nat)
  | badGroupNumber
  | unknownExtension (text : String)
  | unterminatedComment
  | unterminatedGroup
  | tooManyBranches
  | optionsNotAtStart
  | unbalanced
  | localeOption
  | conflictingClasses
  | missingOptionEnd
  | unknownOption
  | missingOption
  | missingColon
  | globalOptionOn
  | globalOptionOff
  | classOptionOff
  | optionOnAndOff
  | lookBehindWidth
  /-- An assertion looks further behind than can be written down. -/
  | lookBehindTooFar
  | templateRepeat (mode : Mode)
  | repetitionTooLarge
  /-- A number of rounds has too many digits. -/
  | numberTooLong (digits : Nat)
  /-- The classes are to be those of ASCII and those of all scripts. -/
  | classesOfBothKinds
  deriving DecidableEq, Repr

/-- The wording of a fault. -/
def Fault.message : Fault → String
  | endInEscape => "bad escape (end of pattern)"
  | incompleteEscape escape => "incomplete escape " ++ escape
  | badEscape escape => "bad escape " ++ escape
  | octalTooLarge escape => "octal escape value " ++ escape ++ " outside of range 0-0o377"
  | missingBrace => "missing \x7b"
  | missingName what => "missing " ++ what
  | unterminatedName terminator => "missing " ++ terminator.toString ++ ", unterminated name"
  | unknownCharacterName name => "undefined character name " ++ Text.quoted name
  | openGroup => "cannot refer to an open group"
  | groupInLookBehind => "cannot refer to group defined in the same lookbehind subpattern"
  | invalidReference number => "invalid group reference " ++ toString number
  | unterminatedSet => "unterminated character set"
  | badRange first last => "bad character range " ++ first ++ "-" ++ last
  | nothingToRepeat => "nothing to repeat"
  | multipleRepeat => "multiple repeat"
  | leastAboveMost => "min repeat greater than max repeat"
  | unexpectedEnd => "unexpected end of pattern"
  | badGroupName name => "bad character in group name " ++ Text.quoted name
  | unknownGroupName name => "unknown group name " ++ Text.quoted name
  | repeatedGroupName name group previous =>
    "redefinition of group name " ++ Text.quoted name ++ " as group " ++ toString group
      ++ "; was group " ++ toString previous
  | badGroupNumber => "bad group number"
  | unknownExtension text => "unknown extension ?" ++ text
  | unterminatedComment => "missing ), unterminated comment"
  | unterminatedGroup => "missing ), unterminated subpattern"
  | tooManyBranches => "conditional backref with more than two branches"
  | optionsNotAtStart => "global flags not at the start of the expression"
  | unbalanced => "unbalanced parenthesis"
  | localeOption => "bad inline flags: cannot use 'L' flag with a str pattern"
  | conflictingClasses => "bad inline flags: flags 'a', 'u' and 'L' are incompatible"
  | missingOptionEnd => "missing -, : or )"
  | unknownOption => "unknown flag"
  | missingOption => "missing flag"
  | missingColon => "missing :"
  | globalOptionOn => "bad inline flags: cannot turn on global flag"
  | globalOptionOff => "bad inline flags: cannot turn off global flag"
  | classOptionOff => "bad inline flags: cannot turn off flags 'a', 'u' and 'L'"
  | optionOnAndOff => "bad inline flags: flag turned on and off"
  | lookBehindWidth => "look-behind requires fixed-width pattern"
  | lookBehindTooFar => "invalid SRE code"
  | templateRepeat .greedy => "internal: unsupported template operator MAX_REPEAT"
  | templateRepeat .lazy => "internal: unsupported template operator MIN_REPEAT"
  | templateRepeat .possessive => "internal: unsupported template operator POSSESSIVE_REPEAT"
  | repetitionTooLarge => "the repetition number is too large"
  | numberTooLong digits => Text.tooManyDigits digits
  | classesOfBothKinds => "ASCII and UNICODE flags are incompatible"

/-- A fault and, for most, the place in the pattern where it shows. -/
structure PatternError where
  fault : Fault
  position : Option Nat
  deriving DecidableEq, Repr

/-- The wording of an error: the fault, its position, and if the pattern has several lines the line
and the column too. -/
def PatternError.message (error : PatternError) (pattern : String) : String :=
  match error.position with
  | none => error.fault.message
  | some position =>
    let text := error.fault.message ++ " at position " ++ toString position
    let before := pattern.toList.take position
    if pattern.toList.contains '\n' then
      let column := (before.reverse.takeWhile (· != '\n')).length + 1
      text ++ " (line " ++ toString (before.count '\n' + 1) ++ ", column " ++ toString column ++ ")"
    else text

end CriticalCss.Pattern
