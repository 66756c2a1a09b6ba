import CriticalCss.Text.Blank
/-! Paths in a tree of folders. A path is absolute or starts at the working folder. Empty steps and
those that stay in place are dropped as soon as it is read; steps to the parent folder are kept
until the path is resolved.
-/

namespace CriticalCss.Files

/-- A path. -/
structure Path where
  /-- What it starts with: nothing, one slash, or exactly two. -/
  slashes : Nat
  steps : List String
  deriving DecidableEq, Repr

namespace Path

/-- Reads a path. -/
def ofText (text : String) : Path where
  slashes :=
    match (text.toList.takeWhile (· == '/')).length with
    | 0 => 0
    | 2 => 2
    | _ => 1
  steps :=
    ((Text.splitWhere (· == '/') text.toList).map String.ofList).filter fun step =>
      !step.isEmpty && step != "."

/-- The text of a path. -/
def text (path : Path) : String :=
  let steps := "/".intercalate path.steps
  if path.slashes = 0 && path.steps.isEmpty then "."
  else String.ofList (List.replicate path.slashes '/') ++ steps

/-- Does the path start at the top? -/
def isAbsolute (path : Path) : Bool :=
  path.slashes != 0

/-- The path seen from a folder; an absolute path stays what it is. -/
def within (folder path : Path) : Path :=
  if path.isAbsolute then path else { folder with steps := folder.steps ++ path.steps }

/-- Takes the steps to parent folders, starting from the steps in front of them. Above the top there
is nothing but the top. -/
def climb (taken : List String) : List String → List String
  | [] => taken
  | step :: rest => climb (if step = ".." then taken.dropLast else taken ++ [step]) rest

/-- The path from the top, without steps to parent folders, as seen from the working folder. -/
def resolve (workingFolder : List String) (path : Path) : Path :=
  ⟨1, climb (if path.isAbsolute then [] else workingFolder) path.steps⟩

/-- Does the path lie in a folder, or is it that folder? -/
def isIn (path folder : Path) : Bool :=
  path.slashes == folder.slashes && folder.steps.isPrefixOf path.steps

end Path

end CriticalCss.Files
