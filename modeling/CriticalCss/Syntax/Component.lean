import CriticalCss.Syntax.Lexer
/-! Component values: the tokens of a style sheet with everything between a bracket and its partner
gathered into one node. Only the innermost open bracket can be closed; any other closing bracket is
a flaw that stays where it is. Brackets that are open at the end of the text end there.
-/

namespace CriticalCss.Syntax

/-- An atom, a block in brackets, or a function with its arguments, each with its line. -/
inductive Component where
  | atom (line : Nat) (atom : Atom)
  | block (line : Nat) (bracket : Bracket) (content : List Component)
  | function (line : Nat) (name : List Char) (arguments : List Component)
  deriving Repr

namespace Component

/-- The line of the first character. -/
def line : Component → Nat
  | atom line _ => line
  | block line _ _ => line
  | function line _ _ => line

/-- Is the component the literal with the given text? -/
def isLiteral (component : Component) (text : String) : Bool :=
  match component with
  | atom _ (.literal found) => found = text.toList
  | _ => false

/-- Is the component whitespace? -/
def isWhitespace : Component → Bool
  | atom _ (.whitespace _) => true
  | _ => false

/-- The content of a block in curly brackets. -/
def curlyContent? : Component → Option (List Component)
  | block _ .curly content => some content
  | _ => none

/-- Gathers components up to the bracket that closes the innermost open one, and gives what follows
it. -/
def gather (closer : Option Bracket) (lexemes : List Lexeme)
    : { result : List Component × List Lexeme // result.2.length ≤ lexemes.length } :=
  match lexemes with
  | [] => ⟨([], []), Nat.le_refl 0⟩
  | ⟨line, .atom found⟩ :: rest =>
    let ⟨(components, after), _⟩ := gather closer rest
    ⟨(.atom line found :: components, after), by simp only [List.length_cons] at *; omega⟩
  | ⟨line, .closing bracket⟩ :: rest =>
    if closer = some bracket then ⟨([], rest), by simp⟩
    else
      let ⟨(components, after), _⟩ := gather closer rest
      ⟨(.atom line (.flaw (.unmatched bracket)) :: components, after), by
        simp only [List.length_cons] at *; omega⟩
  | ⟨line, .opening bracket⟩ :: rest =>
    let ⟨(content, inner), _⟩ := gather (some bracket) rest
    let ⟨(components, after), _⟩ := gather closer inner
    ⟨(.block line bracket content :: components, after), by
      simp only [List.length_cons] at *; omega⟩
  | ⟨line, .function name⟩ :: rest =>
    let ⟨(arguments, inner), _⟩ := gather (some .round) rest
    let ⟨(components, after), _⟩ := gather closer inner
    ⟨(.function line name arguments :: components, after), by
      simp only [List.length_cons] at *; omega⟩
termination_by lexemes.length
decreasing_by all_goals simp only [List.length_cons] at *; omega

/-- The components of a text. -/
def ofText (text : String) : List Component :=
  (gather none (lex text)).val.1

end Component

end CriticalCss.Syntax
