import CriticalCss.Files.Path
import CriticalCss.Text.Utf8
/-! A tree of folders and files that style sheets are read from. A path is walked step by step, and
every folder on the way has to be there, also if a later step leaves it again.
-/

namespace CriticalCss.Files

/-- A tree: its files with their bytes, and folders that are there even if they hold no file. -/
structure Tree where
  files : List (List String × List UInt8) := []
  folders : List (List String) := []
  /-- Where paths start that are not absolute. -/
  workingFolder : List String := []

/-- Why a file cannot be opened. -/
inductive OpenError where
  | missing
  | isFolder
  | notFolder
  | nameTooLong
  deriving DecidableEq, Repr

/-- The number and the wording of the reason, with the path it is about. -/
def OpenError.message (error : OpenError) (path : Path) : String :=
  let reason :=
    match error with
    | missing => "[Errno 2] No such file or directory: "
    | isFolder => "[Errno 21] Is a directory: "
    | notFolder => "[Errno 20] Not a directory: "
    | nameTooLong => "[Errno 36] File name too long: "
  reason ++ Text.quoted path.text

namespace Tree

/-- The bytes of the file at a place. -/
def file? (tree : Tree) (place : List String) : Option (List UInt8) :=
  tree.files.lookup place

/-- Is there a folder at a place? The top is one, and so is every place that something lies in. -/
def isFolder (tree : Tree) (place : List String) : Bool :=
  place.isEmpty || tree.folders.any place.isPrefixOf
    || tree.files.any fun file => place.isPrefixOf file.1 && file.1 != place

/-- The greatest number of bytes that a name may have. -/
def longestName : Nat := 255

/-- The greatest number of bytes that a path may have. -/
def longestPath : Nat := 4095

/-- Walks on from a place. -/
def walk (tree : Tree) (place : List String) : List String → Except OpenError (List String)
  | [] => .ok place
  | step :: rest =>
    if !tree.isFolder place then
      if (tree.file? place).isSome then .error .notFolder else .error .missing
    else if step = ".." then tree.walk place.dropLast rest
    else if longestName < step.utf8ByteSize then .error .nameTooLong
    else
      let next := place ++ [step]
      if tree.isFolder next || (tree.file? next).isSome then tree.walk next rest
      else .error .missing

/-- The bytes of the file that a path leads to. -/
def bytes (tree : Tree) (path : Path) : Except OpenError (List UInt8) := do
  if longestPath < path.text.utf8ByteSize then throw .nameTooLong
  let place ← tree.walk (if path.isAbsolute then [] else tree.workingFolder) path.steps
  match tree.file? place with
  | some bytes => return bytes
  | none => .error .isFolder

/-- Line ends as single line feeds. -/
def unifyLines : List Char → List Char
  | '\r' :: '\n' :: rest => '\n' :: unifyLines rest
  | '\r' :: rest => '\n' :: unifyLines rest
  | c :: rest => c :: unifyLines rest
  | [] => []

end Tree

end CriticalCss.Files
