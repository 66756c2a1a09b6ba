import CriticalCss.Files.Tree
import CriticalCss.Proofs.Text.Cutting

/-! Where the text of a path leads. The pieces between its slashes are followed one by one: nothing
and a single dot stay in place, two dots go up, everything else goes down. What is left are names
only, which can be written as a path again.
-/

namespace CriticalCss.Files

--------------------------------------------------------------------------------
-- Following a text
--------------------------------------------------------------------------------

/-- The pieces of a text between its slashes. -/
def pieces (text : String) : List String :=
  (Text.splitWhere (· == '/') text.toList).map String.ofList

/-- Does the text start at the top? -/
def startsAtTop (text : String) : Bool :=
  text.toList.head? == some '/'

/-- Goes on from a place by one piece. -/
def follow (place : List String) (piece : String) : List String :=
  if piece = "" ∨ piece = "." then place
  else if piece = ".." then place.dropLast
  else place ++ [piece]

/-- The place that a text leads to, seen from the working folder. -/
def destination (workingFolder : List String) (text : String) : List String :=
  (pieces text).foldl follow (if startsAtTop text then [] else workingFolder)

/-- The text of a path below a folder: what starts at the top is not below it. -/
def below (folder text : String) : String :=
  if startsAtTop text then text else folder ++ "/" ++ text

/-- A name that a folder or a file can have. -/
structure IsName (name : String) : Prop where
  filled : name ≠ ""
  moves : name ≠ "." ∧ name ≠ ".."
  whole : '/' ∉ name.toList

/-- A way from the top by names only. -/
def IsPlace (place : List String) : Prop :=
  ∀ name ∈ place, IsName name

theorem pieces_append (front rest : String)
    : pieces (front ++ "/" ++ rest) = pieces front ++ pieces rest := by
  have chars : (front ++ "/" ++ rest).toList = front.toList ++ '/' :: rest.toList := by simp
  rw [pieces, chars, Text.splitWhere_append (by rfl), List.map_append]
  rfl

theorem not_mem_of_mem_pieces {text piece : String} (member : piece ∈ pieces text)
    : '/' ∉ piece.toList := by
  obtain ⟨chars, own, rfl⟩ := List.mem_map.mp member
  intro slash
  rw [String.toList_ofList] at slash
  simpa using Text.cut_of_mem_splitWhere own '/' slash

/-- Following pieces from a place leads to a place. -/
theorem isPlace_follow {place : List String} {piece : String} (isPlace : IsPlace place)
    (whole : '/' ∉ piece.toList)
    : IsPlace (follow place piece) := by
  unfold follow
  split
  · exact isPlace
  · rename_i moves
    split
    · exact fun name member => isPlace name (List.dropLast_subset place member)
    · rename_i down
      rw [not_or] at moves
      intro name member
      rcases List.mem_append.mp member with before | own
      · exact isPlace name before
      · obtain rfl := List.mem_singleton.mp own
        exact ⟨moves.1, ⟨moves.2, down⟩, whole⟩

theorem isPlace_foldl {place : List String} (isPlace : IsPlace place) {steps : List String}
    (whole : ∀ step ∈ steps, '/' ∉ step.toList)
    : IsPlace (steps.foldl follow place) := by
  induction steps generalizing place with
  | nil => exact isPlace
  | cons step rest ih =>
    rw [List.forall_mem_cons] at whole
    exact ih (isPlace_follow isPlace whole.1) whole.2

theorem isPlace_destination {workingFolder : List String} (home : IsPlace workingFolder)
    (text : String)
    : IsPlace (destination workingFolder text) := by
  refine isPlace_foldl ?_ fun _ => not_mem_of_mem_pieces
  split
  · exact fun _ => nofun
  · exact home

/-- Names lead straight down. -/
theorem foldl_follow_of_isPlace {names : List String} (isPlace : IsPlace names)
    (place : List String)
    : names.foldl follow place = place ++ names := by
  induction names generalizing place with
  | nil => simp
  | cons name rest ih =>
    obtain ⟨own, others⟩ := List.forall_mem_cons.mp isPlace
    have down : follow place name = place ++ [name] := by
      simp [follow, own.filled, own.moves]
    rw [List.foldl_cons, down, ih others, List.append_assoc]
    rfl

--------------------------------------------------------------------------------
-- Paths
--------------------------------------------------------------------------------

namespace Path

theorem isAbsolute_ofText (text : String) : (ofText text).isAbsolute = startsAtTop text := by
  unfold isAbsolute ofText startsAtTop
  cases text.toList with
  | nil => rfl
  | cons c rest =>
    by_cases slash : c = '/'
    · subst slash
      rw [List.takeWhile_cons_of_pos (by rfl), List.length_cons]
      split <;> simp_all
    · simp [slash]

/-- A step that is kept when a path is read. -/
def moves (step : String) : Bool :=
  !step.isEmpty && step != "."

theorem moves_iff {step : String} : moves step = true ↔ ¬(step = "" ∨ step = ".") := by
  simp [moves]

/-- Climbing is following, for what stays in place has been dropped before. -/
theorem climb_filter (place steps : List String)
    : climb place (steps.filter moves) = steps.foldl follow place := by
  induction steps generalizing place with
  | nil => rfl
  | cons step rest ih =>
    rw [List.filter_cons, List.foldl_cons, ← ih, follow]
    by_cases stays : step = "" ∨ step = "."
    · rw [if_neg (by rw [moves_iff]; exact not_not_intro stays), if_pos stays]
    · rw [if_pos (moves_iff.mpr stays), if_neg stays, climb]

/-- Resolving the path of a text gives the place that the text leads to. -/
theorem resolve_ofText (workingFolder : List String) (text : String)
    : (ofText text).resolve workingFolder = ⟨1, destination workingFolder text⟩ := by
  rw [resolve, isAbsolute_ofText]
  exact congrArg (Path.mk 1) (climb_filter _ _)

theorem filter_of_isPlace {place : List String} (isPlace : IsPlace place)
    : place.filter moves = place := by
  refine List.filter_eq_self.mpr fun name member => ?_
  have own := isPlace name member
  rw [moves_iff, not_or]
  exact ⟨own.filled, own.moves.1⟩

/-- Resolving a path below the place of a folder gives the place that both texts lead to
together. -/
theorem resolve_within {workingFolder : List String} (home : IsPlace workingFolder)
    {folder : String} (filled : folder ≠ "") (text : String)
    : (within ⟨1, destination workingFolder folder⟩ (ofText text)).resolve workingFolder
      = ⟨1, destination workingFolder (below folder text)⟩ := by
  unfold within below
  rw [isAbsolute_ofText]
  cases top : startsAtTop text with
  | true => exact resolve_ofText workingFolder text
  | false =>
    have start : startsAtTop (folder ++ "/" ++ text) = startsAtTop folder := by
      cases chars : folder.toList with
      | nil => exact absurd (String.toList_eq_nil_iff.mp chars) filled
      | cons c rest => simp [startsAtTop, chars]
    have isPlace := isPlace_destination home folder
    have steps
        : destination workingFolder folder ++ (ofText text).steps
          = (destination workingFolder folder ++ pieces text).filter moves := by
      rw [List.filter_append, filter_of_isPlace isPlace]
      rfl
    have followed
        : (pieces text).foldl follow (destination workingFolder folder)
          = destination workingFolder (folder ++ "/" ++ text) := by
      rw [destination, destination, pieces_append, List.foldl_append, start]
    show Path.mk 1 (climb [] (destination workingFolder folder ++ (ofText text).steps)) = _
    rw [steps, climb_filter, List.foldl_append, foldl_follow_of_isPlace isPlace, List.nil_append,
      followed]
    rfl

/-- The text of a place, seen from the top. -/
def placeText (place : List String) : String :=
  "/" ++ "/".intercalate place

theorem pieces_intercalate {place : List String} (isPlace : IsPlace place) (filled : place ≠ [])
    : pieces ("/".intercalate place) = place := by
  induction place with
  | nil => exact absurd rfl filled
  | cons name rest ih =>
    obtain ⟨own, others⟩ := List.forall_mem_cons.mp isPlace
    have single : pieces name = [name] := by
      rw [pieces, Text.splitWhere_of_none]
      · simp
      · intro c member
        simpa using fun slash : c = '/' => own.whole (slash ▸ member)
    cases rest with
    | nil => simpa using single
    | cons next rest =>
      rw [String.intercalate_cons_cons, pieces_append, single, ih others (by simp)]
      rfl

theorem pieces_placeText (place : List String)
    : pieces (placeText place) = "" :: pieces ("/".intercalate place) := by
  have front := pieces_append "" ("/".intercalate place)
  rwa [String.empty_append] at front

theorem startsAtTop_intercalate {place : List String} (isPlace : IsPlace place)
    : startsAtTop ("/".intercalate place) = false := by
  cases place with
  | nil => rfl
  | cons name rest =>
    obtain ⟨own, -⟩ := List.forall_mem_cons.mp isPlace
    have front : ∃ more, ("/".intercalate (name :: rest)).toList = name.toList ++ more := by
      cases rest with
      | nil => exact ⟨[], by simp⟩
      | cons next rest =>
        exact ⟨'/' :: ("/".intercalate (next :: rest)).toList, by
          simp [String.intercalate_cons_cons]⟩
    obtain ⟨more, chars⟩ := front
    unfold startsAtTop
    rw [chars]
    cases letters : name.toList with
    | nil => exact absurd (String.toList_eq_nil_iff.mp letters) own.filled
    | cons c others =>
      have whole := own.whole
      rw [letters, List.mem_cons, not_or] at whole
      simpa using fun slash : c = '/' => whole.1 slash.symm

/-- The text of a place is read as the path to it. -/
theorem ofText_placeText {place : List String} (isPlace : IsPlace place)
    : ofText (placeText place) = ⟨1, place⟩ := by
  have steps : (pieces (placeText place)).filter moves = place := by
    rw [pieces_placeText]
    by_cases filled : place = []
    · subst filled
      rfl
    · rw [pieces_intercalate isPlace filled, List.filter_cons_of_neg (by simp [moves]),
        filter_of_isPlace isPlace]
  have slashes : ((placeText place).toList.takeWhile (· == '/')).length = 1 := by
    have chars : (placeText place).toList = '/' :: ("/".intercalate place).toList := by
      simp [placeText]
    have stop := startsAtTop_intercalate isPlace
    unfold startsAtTop at stop
    rw [chars, List.takeWhile_cons_of_pos (by rfl)]
    cases letters : ("/".intercalate place).toList with
    | nil => rfl
    | cons c rest =>
      rw [letters] at stop
      rw [List.takeWhile_cons_of_neg (by simpa using stop)]
      rfl
  have same : ofText (placeText place) = ⟨_, (pieces (placeText place)).filter moves⟩ := rfl
  rw [same, steps]
  simp only [slashes]

end Path

--------------------------------------------------------------------------------
-- Trees
--------------------------------------------------------------------------------

namespace Tree

/-- A walk along names stays on its way. -/
theorem walk_eq_of_isPlace {tree : Tree} {place steps reached : List String}
    (isPlace : IsPlace steps) (walked : tree.walk place steps = .ok reached)
    : reached = place ++ steps := by
  induction steps generalizing place with
  | nil =>
    cases walked
    simp
  | cons step rest ih =>
    obtain ⟨own, others⟩ := List.forall_mem_cons.mp isPlace
    unfold walk at walked
    split at walked
    · split at walked <;> cases walked
    · rw [if_neg own.moves.2] at walked
      split at walked
      · cases walked
      · dsimp only at walked
        split at walked
        · simpa using ih others walked
        · cases walked

/-- What is read at the text of a place is the file that is there. -/
theorem file?_of_bytes {tree : Tree} {place : List String} {found : List UInt8}
    (isPlace : IsPlace place) (read : tree.bytes (.ofText (Path.placeText place)) = .ok found)
    : tree.file? place = some found := by
  rw [Path.ofText_placeText isPlace] at read
  by_cases long : longestPath < (Path.mk 1 place).text.utf8ByteSize
  · rw [bytes, if_pos long] at read
    cases read
  · rw [bytes, if_neg long] at read
    have read : (tree.walk [] place >>= _) = Except.ok found := read
    cases walked : tree.walk [] place with
    | error error =>
      rw [walked] at read
      cases read
    | ok reached =>
      have reached : reached = place := walk_eq_of_isPlace isPlace walked
      rw [walked, reached] at read
      cases own : tree.file? place with
      | some bytes => simpa [own, bind, Except.bind, pure, Except.pure] using read
      | none => simp [own, bind, Except.bind] at read

end Tree

end CriticalCss.Files
