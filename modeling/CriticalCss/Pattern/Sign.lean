import CriticalCss.Pattern.Basic
/-! Reading a pattern sign by sign. A sign is a single character or a backslash with the character
behind it. One sign of look-ahead decides every step, and a backslash at the very end of a pattern
is a fault as soon as it is the next sign.
-/

namespace CriticalCss.Pattern

/-- One sign of a pattern. -/
inductive Sign where
  | plain (c : Char)
  | escaped (c : Char)
  deriving DecidableEq

/-- The text of a sign. -/
def Sign.text : Sign → List Char
  | plain c => [c]
  | escaped c => ['\\', c]

/-- The number of characters of a sign. -/
def Sign.length (sign : Sign) : Nat :=
  sign.text.length

/-- What is known while a pattern is read. -/
structure ReadState where
  /-- The number of characters read. -/
  position : Nat
  rest : List Char
  /-- The options that hold for the whole pattern. -/
  options : Options := {}
  /-- The classes of all scripts are asked for. -/
  unicode : Bool := false
  /-- For every group from number one on the least and greatest width of what it matches, nothing
  while it is open. -/
  widths : List (Option (Nat × Nat)) := []
  names : List (String × Nat) := []
  /-- Inside an assertion that looks behind, the number of groups before it. -/
  groupsBehind : Option Nat := none
  /-- Groups that conditions refer to by number, each with the first place that does. -/
  conditions : List (Nat × Nat) := []

/-- A step of reading. -/
abbrev Read := StateT ReadState (Except PatternError)

/-- Fails with a fault so many characters before the place that is reached. -/
def failBack {α : Type} (fault : Fault) (back : Nat) : Read α := fun state =>
  .error ⟨fault, some (state.position - back)⟩

/-- Fails with a fault at a given place. -/
def failAt {α : Type} (fault : Fault) (position : Nat) : Read α := fun _ =>
  .error ⟨fault, some position⟩

/-- The next sign, if there is one. -/
def peek : Read (Option Sign) := do
  match (← get).rest with
  | [] => return none
  | '\\' :: c :: _ => return some (.escaped c)
  | c :: _ => return some (.plain c)

/-- Moves so many characters on. A backslash at the very end is found as soon as it comes next. -/
def advance (count : Nat) : Read Unit := do
  let state ← get
  let rest := state.rest.drop count
  if rest = ['\\'] then failAt .endInEscape (state.position + count)
  else set { state with position := state.position + count, rest }

/-- Takes the next sign. -/
def take : Read (Option Sign) := do
  let sign ← peek
  match sign with
  | some sign => advance sign.length
  | none => pure ()
  return sign

/-- Takes the next sign if it is the given character. -/
def accept (c : Char) : Read Bool := do
  if (← peek) = some (.plain c) then
    advance 1
    return true
  else return false

/-- Takes up to so many characters while they satisfy a test. -/
def takeChars (test : Char → Bool) : Nat → Read (List Char)
  | 0 => return []
  | count + 1 => do
    match ← peek with
    | some (.plain c) =>
      if test c then
        advance 1
        return c :: (← takeChars test count)
      else return []
    | _ => return []

/-- The rest of a pattern is at most this long; enough rounds for any loop over it. -/
def remaining : Read Nat :=
  return (← get).rest.length

/-- Takes everything up to a terminator, which is taken too. -/
def takeUntil (terminator : Char) (what : String) : Read (List Char) := do
  let rec loop (rounds : Nat) (read : List Char) : Read (List Char) := do
    match rounds with
    | 0 => failBack .unexpectedEnd 0
    | rounds + 1 =>
      match ← take with
      | none =>
        if read.isEmpty then failBack (.missingName what) 0
        else failBack (.unterminatedName terminator) read.length
      | some sign =>
        if sign = .plain terminator then
          if read.isEmpty then failBack (.missingName what) 1 else return read
        else loop rounds (read ++ sign.text)
  loop ((← remaining) + 1) []

end CriticalCss.Pattern
