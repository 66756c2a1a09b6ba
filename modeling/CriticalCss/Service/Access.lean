import CriticalCss.Files.Path
import CriticalCss.Request.Basic
import CriticalCss.Text.Lowercase
/-! Who may call the service, and which files a call may name. Callers present a key, bare or as a
bearer token. Files are named below one folder, and no path leads out of it.
-/

namespace CriticalCss.Service

--------------------------------------------------------------------------------
-- Keys
--------------------------------------------------------------------------------

/-- The key in a token: what stands behind the word for bearers, if it is there. -/
def presentedKey (token : String) : String :=
  let token := Text.trim token.toList
  if Text.lower (token.take 7) = "bearer ".toList then String.ofList (Text.trim (token.drop 7))
  else String.ofList token

/-- May somebody call who presents a token, or none? Without a key everybody may. -/
def isAuthorized (config : Config) (token : Option String) : Bool :=
  match config.apiKey.filter fun key => !key.isEmpty with
  | none => true
  | some key => presentedKey (token.getD "") = key

--------------------------------------------------------------------------------
-- Files
--------------------------------------------------------------------------------

/-- Why a file may not be named. -/
inductive Denial where
  /-- No file may. -/
  | disabled
  | outside
  /-- The path, or that of the folder, holds a character that no path can. -/
  | unusable
  deriving DecidableEq, Repr

/-- Resolves the path of a file below a folder; nothing if it leads out of the folder. -/
def resolveBelow (workingFolder : List String) (root name : String) : Option Files.Path :=
  let root := (Files.Path.ofText root).resolve workingFolder
  let path := (root.within (Files.Path.ofText name)).resolve workingFolder
  if path.isIn root then some path else none

/-- The request with the path of its style sheet resolved, if it names one. -/
def confine (config : Config) (workingFolder : List String) (request : Request)
    : Except Denial Request :=
  match request.cssPath.filter fun name => !name.isEmpty with
  | none => .ok request
  | some name =>
    match config.stylesheetRoot.filter fun root => !root.isEmpty with
    | none => .error .disabled
    | some root =>
      if root.toList.contains '\x00' || name.toList.contains '\x00' then .error .unusable
      else
        match resolveBelow workingFolder root name with
        | some path => .ok { request with cssPath := some path.text }
        | none => .error .outside

end CriticalCss.Service
