import CriticalCss.Stylesheet.Basic
import CriticalCss.Text.Blank
/-! Printing a style sheet, one rule or declaration per line, blocks indented by two spaces. Only
what can be read back is printed: a tree with a rule that no text can express is refused.
-/

namespace CriticalCss

/-- Why a tree cannot be printed. -/
inductive PrintError where
  | noSelectors
  | foreignNode (typeWord : String)
  | unnamedAtRule
  | hollowBlock (name : String)
  | badDeclaration (shown : String)
  deriving DecidableEq, Repr

/-- The wording of the reason. -/
def PrintError.message : PrintError → String
  | noSelectors => "style rule has no selectors"
  | foreignNode typeWord => "cannot serialize node of type " ++ typeWord
  | unnamedAtRule => "at-rule without a name"
  | hollowBlock name => "@" ++ name ++ " block has no body"
  | badDeclaration shown => "invalid declaration: " ++ shown

/-- The declaration as messages show it. -/
def Declaration.shown : Declaration → String
  | set property value important =>
    "Declaration(property=" ++ Text.quoted property ++ ", value=" ++ Text.quoted value
      ++ ", important=" ++ (if important then "True" else "False") ++ ")"
  | foreign shown => shown

/-- The blanks in front of a line at the given depth. -/
def indent (depth : Nat) : String :=
  String.ofList (List.replicate (2 * depth) ' ')

/-- The line of a declaration. -/
def Declaration.line (depth : Nat) (declaration : Declaration) : Except PrintError String :=
  match declaration with
  | set property value important =>
    if property.isEmpty then .error (.badDeclaration declaration.shown)
    else
      .ok (indent depth ++ property ++ ": " ++ value
        ++ (if important then " !important;" else ";"))
  | foreign shown => .error (.badDeclaration shown)

/-- The lines of declarations. -/
def declarationLines (depth : Nat) (declarations : List Declaration)
    : Except PrintError (List String) :=
  declarations.mapM (Declaration.line depth)

/-- The beginning of an at-rule: its name, and its prelude if it has one. -/
def atRuleHead (depth : Nat) (name prelude : String) : String :=
  indent depth ++ "@" ++ name ++ (if prelude.isEmpty then "" else " " ++ prelude)

/-- The lines of a block between its first and its last line. -/
def blockLines (depth : Nat) (head : String) (body : List String) : List String :=
  (head ++ " \x7b") :: body ++ [indent depth ++ "\x7d"]

/-- Refuses an at-rule without a name. -/
def named (name : String) (lines : Except PrintError (List String))
    : Except PrintError (List String) :=
  if name.isEmpty then .error .unnamedAtRule else lines

mutual
/-- The lines of a rule. -/
def Node.lines (depth : Nat) : Node → Except PrintError (List String)
  | .style selectors declarations =>
    if selectors.isEmpty then .error .noSelectors
    else do
      let body ← declarationLines (depth + 1) declarations
      return blockLines depth (indent depth ++ ", ".intercalate selectors) body
  | .verbatim name _ text _ _ => named name (.ok [indent depth ++ Text.trimString text])
  | .statement name prelude _ => named name (.ok [atRuleHead depth name prelude ++ ";"])
  | .declarationBlock name prelude body => named name do
      let body ← declarationLines (depth + 1) body
      return blockLines depth (atRuleHead depth name prelude) body
  | .ruleBlock name prelude body => named name do
      let body ← Stylesheet.lines (depth + 1) body
      return blockLines depth (atRuleHead depth name prelude) body
  | .hollow name _ _ => named name (.error (.hollowBlock name))
  | .foreign typeWord => .error (.foreignNode typeWord)

/-- The lines of several rules. -/
def Stylesheet.lines (depth : Nat) : List Node → Except PrintError (List String)
  | [] => .ok []
  | node :: rest => do
    let first ← node.lines depth
    let others ← Stylesheet.lines depth rest
    return first ++ others
end

/-- Prints a style sheet. Every line ends with a line end, so an empty sheet gives an empty text. -/
def Stylesheet.print (sheet : Stylesheet) : Except PrintError String := do
  let lines ← Stylesheet.lines 0 sheet
  return String.join (lines.map (· ++ "\n"))

end CriticalCss
