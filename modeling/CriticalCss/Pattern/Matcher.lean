import CriticalCss.Pattern.Branch
import CriticalCss.Text.Alphanumeric
import CriticalCss.Text.Blank
import CriticalCss.Text.CaseFold
import CriticalCss.Text.Digit
import CriticalCss.Text.Uppercase
/-! Matching a pattern against a text, by trying the ways to match in order of preference and giving
each the rest of the pattern to go on with. A match moves forward only, and a repetition whose
least number of rounds is done goes on only after a round that moved, so the search ends.
-/

namespace CriticalCss.Pattern

--------------------------------------------------------------------------------
-- Characters
--------------------------------------------------------------------------------

/-- The representative of a character among those that the options do not tell apart. -/
def Options.key (options : Options) (c : Char) : Char :=
  if !options.ignoreCase then c else if options.ascii then c.toLower else Text.caseKey c

/-- Is the character in a class? -/
def CharClass.holds (options : Options) (name : CharClass) (c : Char) : Bool :=
  match name with
  | .digit => if options.ascii then c.isDigit else Text.isDigit c
  | .space =>
    if options.ascii then c == ' ' || ('\t' ≤ c && c ≤ '\r') else Text.isBlank c
  | .word => if options.ascii then c.isAlphanum || c == '_' else Text.isWord c

/-- Is the character the one with the given code point, as far as the options tell? -/
def Options.sameCode (options : Options) (code : Nat) (c : Char) : Bool :=
  code.isValidChar && options.key (Char.ofNat code) == options.key c

/-- The code points that the options do not tell apart from a character. -/
def Options.variants (options : Options) (c : Char) : List Nat :=
  if !options.ignoreCase then [c.toNat]
  else if options.ascii then [c.toNat, c.toLower.toNat, c.toUpper.toNat]
  else c.toNat :: Text.caseVariants c

/-- The lower case of a character, of other than ASCII letters only if the options tell it. -/
def Options.lower (options : Options) (c : Char) : Char :=
  if options.ascii then c.toLower else Text.lowerChar c

/-- The last code point of the basic plane. -/
def lastBasicCode : Nat := 0xFFFF

/-- Does the set item hold the character? Beyond the basic plane a single code point in a set that
ignores case is compared with the lower case of the character, and a range holds characters whose
lower case has its upper case in the range, be it ASCII or not. -/
def SetItem.holds (options : Options) (item : SetItem) (c : Char) : Bool :=
  match item with
  | .code value =>
    if options.ignoreCase && lastBasicCode < value then (options.lower c).toNat == value
    else options.sameCode value c
  | .range first last =>
    let within (code : Nat) : Bool := first ≤ code && code ≤ last
    (options.variants c).any within
      || (options.ignoreCase && lastBasicCode < last
        && within (Text.upperChar (options.lower c)).toNat)
  | .named name negated => name.holds options c != negated

/-- The options inside a group that changes them. -/
def OptionChange.apply (change : OptionChange) (options : Options) : Options where
  ignoreCase := (options.ignoreCase || change.on.ignoreCase) && !change.off.ignoreCase
  multiline := (options.multiline || change.on.multiline) && !change.off.multiline
  dotAll := (options.dotAll || change.on.dotAll) && !change.off.dotAll
  ascii := change.on.ascii || (options.ascii && !change.unicode)
  verbose := (options.verbose || change.on.verbose) && !change.off.verbose
  template := options.template

--------------------------------------------------------------------------------
-- Places
--------------------------------------------------------------------------------

/-- A place in a text, and what the groups have matched, the latest first. -/
structure Place where
  position : Nat
  captures : List (Nat × Nat × Nat)

/-- The character before a position. -/
def charBefore (text : Array Char) (position : Nat) : Option Char :=
  if position = 0 then none else text[position - 1]?

/-- Does an anchor hold at a position? Neither of the word anchors holds in an empty text. -/
def Anchor.holds (options : Options) (text : Array Char) (position : Nat) (anchor : Anchor)
    : Bool :=
  let isWord (c? : Option Char) : Bool := c?.any (CharClass.word.holds options)
  let atBoundary := isWord (charBefore text position) != isWord text[position]?
  match anchor with
  | .textStart => position == 0
  | .textEnd => position == text.size
  | .lineStart =>
    position == 0 || (options.multiline && charBefore text position == some '\n')
  | .lineEnd =>
    position == text.size || (position + 1 == text.size && text[position]? == some '\n')
      || (options.multiline && text[position]? == some '\n')
  | .wordBoundary => text.size != 0 && atBoundary
  | .insideWord => text.size != 0 && !atBoundary

/-- What a group has matched last. -/
def Place.capture? (place : Place) (text : Array Char) (number : Nat) : Option (List Char) :=
  (place.captures.lookup number).map fun span => (text.extract span.1 span.2).toList

/-- Does the text go on with the given characters? Case is compared by lower case alone. -/
def goesOnWith (options : Options) (text : Array Char) (position : Nat) : List Char → Bool
  | [] => true
  | c :: rest =>
    let key (c : Char) : Char := if options.ignoreCase then options.lower c else c
    match text[position]? with
    | some d => key c == key d && goesOnWith options text (position + 1) rest
    | none => false

/-- Matches one character that satisfies a test. -/
def stepChar (text : Array Char) (place : Place) (test : Char → Bool)
    (next : Place → Option Place)
    : Option Place :=
  match text[place.position]? with
  | some c => if test c then next { place with position := place.position + 1 } else none
  | none => none

/-- The first result, or the second if there is none. -/
def firstOf (first : Option Place) (second : Unit → Option Place) : Option Place :=
  match first with
  | some place => some place
  | none => second ()

--------------------------------------------------------------------------------
-- Expressions
--------------------------------------------------------------------------------

/-- How many more rounds are allowed after one. -/
def fewer (most : Option Nat) : Option Nat :=
  most.map (· - 1)

mutual
/-- Matches an expression at a place and goes on with what follows it. -/
def Expr.run (text : Array Char) (options : Options) (expr : Expr) (place : Place)
    (next : Place → Option Place)
    : Option Place :=
  match expr with
  | .empty => next place
  | .code value => stepChar text place (options.sameCode value) next
  | .otherCode value => stepChar text place (fun c => !options.sameCode value c) next
  | .anyChar => stepChar text place (fun c => options.dotAll || c != '\n') next
  | .set negated items =>
    stepChar text place (fun c => items.any (·.holds options c) != negated) next
  | .anchor found => if found.holds options text place.position then next place else none
  | .cat first second =>
    first.run text options place fun place => second.run text options place next
  | .alt first second =>
    firstOf (first.run text options place next) fun _ => second.run text options place next
  | .group none body => body.run text options place next
  | .group (some number) body =>
    body.run text options place fun reached =>
      next { reached with
        captures := (number, place.position, reached.position) :: reached.captures }
  | .scoped change body => body.run text (change.apply options) place next
  | .atomic body =>
    match body.run text options place some with
    | some reached => next reached
    | none => none
  | .lookAhead false body =>
    match body.run text options place some with
    | some reached => next { reached with position := place.position }
    | none => none
  | .lookAhead true body =>
    match body.run text options place some with
    | some _ => none
    | none => next place
  | .lookBehind negated width _ body =>
    if place.position < width then
      if negated then next place else none
    else
      match body.run text options { place with position := place.position - width } some with
      | some reached =>
        if negated then none else next { reached with position := place.position }
      | none => if negated then next place else none
  | .reference number =>
    match place.capture? text number with
    | some chars =>
      if goesOnWith options text place.position chars then
        next { place with position := place.position + chars.length }
      else none
    | none => none
  | .conditional number yes no =>
    if (place.captures.lookup number).isSome then yes.run text options place next
    else no.run text options place next
  | .repeated .possessive least most body =>
    match body.runAlone text options least (most.map (· - least)) place with
    | some reached => next reached
    | none => none
  | .repeated mode least most body =>
    body.runRounds text options (mode == .lazy) least (most.map (· - least)) place next
termination_by (2 * sizeOf expr, 0, 0)

/-- Matches so many rounds of an expression, then as many more as `most` allows, and goes on with
what follows. -/
def Expr.runRounds (text : Array Char) (options : Options) (isLazy : Bool) (least : Nat)
    (most : Option Nat) (body : Expr) (place : Place) (next : Place → Option Place)
    : Option Place :=
  match least with
  | least + 1 =>
    body.run text options place fun reached =>
      body.runRounds text options isLazy least most reached next
  | 0 =>
    let more : Unit → Option Place := fun _ =>
      if most = some 0 then none
      else
        body.run text options place fun reached =>
          if place.position < reached.position ∧ reached.position ≤ text.size then
            body.runRounds text options isLazy 0 (fewer most) reached next
          else next reached
    if isLazy then firstOf (next place) more
    else firstOf (more ()) fun _ => next place
termination_by (2 * sizeOf body + 1, least, text.size - place.position)

/-- Matches rounds of an expression, each in the first way that it can be matched. -/
def Expr.runAlone (text : Array Char) (options : Options) (least : Nat) (most : Option Nat)
    (body : Expr) (place : Place)
    : Option Place :=
  match least with
  | least + 1 =>
    match body.run text options place some with
    | some reached => body.runAlone text options least most reached
    | none => none
  | 0 =>
    if most = some 0 then some place
    else
      match body.run text options place some with
      | some reached =>
        if place.position < reached.position ∧ reached.position ≤ text.size then
          body.runAlone text options 0 (fewer most) reached
        else some reached
      | none => some place
termination_by (2 * sizeOf body + 1, least, text.size - place.position)
end

--------------------------------------------------------------------------------
-- Search
--------------------------------------------------------------------------------

/-- Does a set item name a character that has a case, or a range that is not looked through? -/
def SetItem.hasCase (options : Options) (item : SetItem) : Bool :=
  let cased (code : Nat) : Bool :=
    code.isValidChar
      && (if options.ascii then (Char.ofNat code).isAlpha else Text.hasCase (Char.ofNat code))
  match item with
  | .code value => cased value
  | .range first last =>
    lastBasicCode < last || (List.range (last + 1 - first)).any fun index => cased (first + index)
  | .named .. => false

/-- The set that an expression begins with, and the options there. -/
def Expr.firstSet? (options : Options) : Expr → Option (Options × Bool × List SetItem)
  | .set negated items => some (options, negated, items)
  | .cat first second =>
    if first.items.isEmpty then second.firstSet? options else first.firstSet? options
  | .group _ body => body.firstSet? options
  | .scoped change body => body.firstSet? (change.apply options)
  | _ => none

/-- Can a match start with a character? If the expression begins with a set, the classes in it must
hold as those of the whole pattern too, unless the set tells cases apart that are to be ignored. -/
def Expr.canStartWith (options : Options) (expr : Expr) (c : Char) : Bool :=
  match expr.firstSet? options with
  | none => true
  | some (inner, negated, items) =>
    inner.ascii == options.ascii
      || (inner.ignoreCase && items.any (·.hasCase inner))
      || items.any (·.holds { options with ignoreCase := false } c) != negated

/-- Does the expression match somewhere in the text? -/
def Expr.foundIn (options : Options) (expr : Expr) (text : List Char) : Bool :=
  let chars := text.toArray
  (List.range (chars.size + 1)).any fun start =>
    chars[start]?.all (expr.canStartWith options)
      && (expr.run chars options ⟨start, []⟩ some).isSome

end CriticalCss.Pattern
