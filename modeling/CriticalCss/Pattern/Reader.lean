import CriticalCss.Pattern.Branch
import CriticalCss.Pattern.CharSet
import CriticalCss.Pattern.OptionLetter
import CriticalCss.Pattern.Repetition
import CriticalCss.Text.Identifier
/-! Reading search patterns. Options do not influence what a pattern is read as, apart from the one
for verbose patterns and the one that forbids repetition, which only a pattern itself can set. So a
pattern that can be read can be read under every choice of the other options.
-/

namespace CriticalCss.Pattern

/-- Whitespace that a verbose pattern skips. -/
def isPatternBlank (c : Char) : Bool :=
  c == ' ' || c == '\t' || c == '\n' || c == '\r' || c == '\x0b' || c == '\x0c'

/-- Skips the comment of a verbose pattern, up to and with the end of its line. -/
def skipLine : Nat → Read Unit
  | 0 => return ()
  | rounds + 1 => do
    match ← take with
    | none => return ()
    | some sign => if sign = .plain '\n' then return () else skipLine rounds

/-- Skips a comment in brackets, which starts at `start`. -/
def skipComment (start : Nat) : Nat → Read Unit
  | 0 => failAt .unterminatedComment start
  | rounds + 1 => do
    match ← take with
    | none => failAt .unterminatedComment start
    | some sign => if sign = .plain ')' then return () else skipComment start rounds

/-- Refuses a name that is no identifier. -/
def checkName (name : List Char) : Read Unit := do
  if Text.isIdentifier name then return ()
  else failBack (.badGroupName (String.ofList name)) (name.length + 1)

/-- Reads a reference by name, up to and with its closing bracket. -/
def readNamedReference : Read Expr := do
  let name ← takeUntil ')' "group name"
  checkName name
  let state ← get
  match state.names.lookup (String.ofList name) with
  | none => failBack (.unknownGroupName (String.ofList name)) (name.length + 1)
  | some number =>
    if ((state.widths[number - 1]?).join).isNone then failBack .openGroup (name.length + 1)
    checkBehind number
    return .reference number

/-- Group numbers from here on cannot be referred to. -/
def groupBound : Nat := 2147483647

/-- Reads what a condition refers to, up to and with its closing bracket. -/
def readCondition : Read Nat := do
  let name ← takeUntil ')' "group name"
  let back := name.length + 1
  let state ← get
  if Text.isIdentifier name then
    match state.names.lookup (String.ofList name) with
    | none => failBack (.unknownGroupName (String.ofList name)) back
    | some number =>
      checkBehind number
      return number
  else
    match conditionNumber? name with
    | some (.ofNat number) =>
      if number = 0 then failBack .badGroupNumber back
      else if groupBound ≤ number then failBack (.invalidReference number) back
      else
        if (state.conditions.lookup number).isNone then
          set { state with
            conditions := state.conditions ++ [(number, state.position - back)] }
        checkBehind number
        return number
    | _ => failBack (.badGroupName (String.ofList name)) back

/-- What stands behind an opening bracket. -/
inductive Opening where
  /-- A group that remembers what it matched, with its name if it has one. -/
  | capture (name : Option (List Char))
  | plain
  | atomic
  | look (ahead negated : Bool)
  | scoped (change : OptionChange)
  /-- Options for the whole pattern, which are read to their end. -/
  | options
  | condition
  | reference (expr : Expr)
  | comment

/-- Reads what stands behind an opening bracket and a letter P. -/
def readNamed : Read Opening := do
  if ← accept '<' then
    let name ← takeUntil '>' "group name"
    checkName name
    return .capture (some name)
  else if ← accept '=' then return .reference (← readNamedReference)
  else
    match ← take with
    | none => failBack .unexpectedEnd 0
    | some sign =>
      failBack (.unknownExtension (String.ofList ('P' :: sign.text))) (sign.length + 2)

/-- Reads what stands behind an opening bracket, which is at `start`. -/
def readOpening (start : Nat) : Read Opening := do
  if !(← accept '?') then return .capture none
  match ← take with
  | none => failBack .unexpectedEnd 0
  | some (.plain 'P') => readNamed
  | some (.plain ':') => return .plain
  | some (.plain '#') =>
    skipComment start ((← remaining) + 1)
    return .comment
  | some (.plain '=') => return .look true false
  | some (.plain '!') => return .look true true
  | some (.plain '<') =>
    match ← take with
    | none => failBack .unexpectedEnd 0
    | some (.plain '=') => return .look false false
    | some (.plain '!') => return .look false true
    | some sign =>
      failBack (.unknownExtension (String.ofList ('<' :: sign.text))) (sign.length + 2)
  | some (.plain '(') => return .condition
  | some (.plain '>') => return .atomic
  | some sign =>
    if isOptionLetter sign || sign = .plain '-' then
      match ← readOptions sign with
      | some change => return .scoped change
      | none => return .options
    else failBack (.unknownExtension (String.ofList sign.text)) (sign.length + 1)

/-- Takes the bracket that closes the group opened at `start`. -/
def closeBracket (start : Nat) : Read Unit := do
  if ← accept ')' then return () else failAt .unterminatedGroup start

mutual
/-- Reads alternatives. The rounds bound the steps that are left; every step but the one into the
first alternative takes a sign. -/
def readAlternatives (rounds : Nat) (verbose top : Bool) : Read Expr := do
  match rounds with
  | 0 => failBack .unexpectedEnd 0
  | rounds + 1 =>
    let first ← readSequence rounds verbose top []
    if ← accept '|' then
      let state ← get
      let verbose := if top then state.options.verbose else verbose
      return first.alternatives (← readMoreAlternatives rounds verbose)
    else return first

/-- Reads the alternatives behind a bar. -/
def readMoreAlternatives (rounds : Nat) (verbose : Bool) : Read (List Expr) := do
  match rounds with
  | 0 => failBack .unexpectedEnd 0
  | rounds + 1 =>
    let next ← readSequence rounds verbose false []
    if ← accept '|' then return next :: (← readMoreAlternatives rounds verbose)
    else return [next]

/-- Reads a sequence, the items so far given in reverse. With `first` it is the one that options
for the whole pattern can start. -/
def readSequence (rounds : Nat) (verbose first : Bool) (read : List Expr) : Read Expr := do
  match rounds with
  | 0 => failBack .unexpectedEnd 0
  | rounds + 1 =>
    match ← peek with
    | none => return .sequence read.reverse
    | some sign =>
      if sign = .plain '|' || sign = .plain ')' then return .sequence read.reverse
      else
        let start := (← get).position
        advance sign.length
        match sign with
        | .escaped letter => readSequence rounds verbose first ((← readEscape letter) :: read)
        | .plain c =>
          if verbose && isPatternBlank c then readSequence rounds verbose first read
          else if verbose && c = '#' then
            skipLine (← remaining)
            readSequence rounds verbose first read
          else
            match c with
            | '[' => readSequence rounds verbose first ((← readSet) :: read)
            | '.' => readSequence rounds verbose first (.anyChar :: read)
            | '^' => readSequence rounds verbose first (.anchor .lineStart :: read)
            | '$' => readSequence rounds verbose first (.anchor .lineEnd :: read)
            | '?' => readSequence rounds verbose first (← repeatLast start 0 (some 1) read)
            | '*' => readSequence rounds verbose first (← repeatLast start 0 none read)
            | '+' => readSequence rounds verbose first (← repeatLast start 1 none read)
            | '\x7b' =>
              match ← readBounds with
              | none => readSequence rounds verbose first (.code c.toNat :: read)
              | some (least, most) =>
                readSequence rounds verbose first (← repeatLast start least most read)
            | '(' =>
              match ← readOpening start with
              | .comment => readSequence rounds verbose first read
              | .options =>
                if !first || !read.isEmpty then failAt .optionsNotAtStart start
                let verbose := (← get).options.verbose
                readSequence rounds verbose first read
              | .reference expr => readSequence rounds verbose first (expr :: read)
              | opening =>
                let expr ← readGroup rounds verbose start opening
                readSequence rounds verbose first (expr :: read)
            | _ => readSequence rounds verbose first (.code c.toNat :: read)

/-- Reads the content of a group and its closing bracket. -/
def readGroup (rounds : Nat) (verbose : Bool) (start : Nat) (opening : Opening) : Read Expr := do
  match rounds with
  | 0 => failBack .unexpectedEnd 0
  | rounds + 1 =>
    match opening with
    | .capture name =>
      let number ← openGroup name
      let body ← readAlternatives rounds verbose false
      closeBracket start
      closeGroup number body
      return .group (some number) body
    | .atomic =>
      let body ← readAlternatives rounds verbose false
      closeBracket start
      return .atomic body
    | .scoped change =>
      let body ← readAlternatives rounds
        ((verbose || change.on.verbose) && !change.off.verbose) false
      closeBracket start
      return .scoped change body
    | .look ahead negated =>
      let before := (← get).groupsBehind
      if !ahead && before.isNone then
        modify fun state => { state with groupsBehind := some state.widths.length }
      let body ← readAlternatives rounds verbose false
      if !ahead && before.isNone then
        modify fun state => { state with groupsBehind := none }
      closeBracket start
      if ahead then return .lookAhead negated body
      else
        let (least, most) := body.width (← get).widths
        return .lookBehind negated least most body
    | .condition =>
      let number ← readCondition
      let yes ← readSequence rounds verbose false []
      let no ←
        if ← accept '|' then
          let no ← readSequence rounds verbose false []
          if (← peek) = some (.plain '|') then failBack .tooManyBranches 0
          pure no
        else pure .empty
      closeBracket start
      return .conditional number yes no
    | _ =>
      let body ← readAlternatives rounds verbose false
      closeBracket start
      return .group none body
end

/-- Finds what makes an expression unfit for searching: repetition where it is switched off, and
assertions that look behind over a width that is not fixed. -/
def Expr.unfit? (template : Bool) : Expr → Option Fault
  | .repeated mode _ _ body =>
    if template then some (.templateRepeat mode) else body.unfit? template
  | .lookBehind _ least most body =>
    if least ≠ most then some .lookBehindWidth else body.unfit? template
  | .group _ body | .scoped _ body | .atomic body | .lookAhead _ body => body.unfit? template
  | .conditional _ yes no => (yes.unfit? template).or (no.unfit? template)
  | .cat first second | .alt first second =>
    (first.unfit? template).or (second.unfit? template)
  | _ => none

/-- The least width over which an assertion cannot look behind. -/
def lookBehindBound : Nat := 0x80000000

/-- Does an assertion look behind too far? -/
def Expr.looksTooFar : Expr → Bool
  | .lookBehind _ least _ body => lookBehindBound ≤ least || body.looksTooFar
  | .repeated _ _ _ body | .group _ body | .scoped _ body | .atomic body | .lookAhead _ body =>
    body.looksTooFar
  | .conditional _ yes no => yes.looksTooFar || no.looksTooFar
  | .cat first second | .alt first second => first.looksTooFar || second.looksTooFar
  | _ => false

/-- Reads a whole pattern. -/
def readPattern : Read Expr := do
  advance 0
  let expr ← readAlternatives (3 * (← remaining) + 3) false true
  let state ← get
  if state.options.ascii && state.unicode then throw ⟨.classesOfBothKinds, none⟩
  if (← peek).isSome then failBack .unbalanced 0
  for (number, position) in state.conditions do
    if state.widths.length < number then failAt (.invalidReference number) position
  match expr.unfit? state.options.template with
  | some fault => throw ⟨fault, none⟩
  | none => if expr.looksTooFar then throw ⟨.lookBehindTooFar, none⟩ else return expr

end CriticalCss.Pattern
