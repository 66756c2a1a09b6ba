import CriticalCss.Proofs.Stylesheet.Found
import CriticalCss.Proofs.Text.Cutting
import Mathlib.Data.List.DropRight

/-! The components of a printed sheet. Every rule is laid out from the components it was found with,
so that reading what is laid out gives the same rules again.
-/

namespace CriticalCss

open Syntax

--------------------------------------------------------------------------------
-- Pieces
--------------------------------------------------------------------------------

/-- Whitespace as a component. -/
def blank (text : List Char) : Component :=
  .atom 0 (.whitespace text)

/-- A literal of one character as a component. -/
def mark (c : Char) : Component :=
  .atom 0 (.literal [c])

/-- A line end with the blanks in front of the line behind it. -/
def lineBreak (depth : Nat) : Component :=
  blank ('\n' :: List.replicate (2 * depth) ' ')

/-- The components without the whitespace at both ends. -/
def trimBlanks (components : List Component) : List Component :=
  (components.dropWhile Component.isWhitespace).rdropWhile Component.isWhitespace

/-- The components that are printed for a selector, a value or a prelude. -/
def piece (components : List Component) : List Component :=
  trimBlanks (unifySpaces components)

--------------------------------------------------------------------------------
-- Layout
--------------------------------------------------------------------------------

/-- What stands between the colon and the semicolon of a declaration, a mark of importance aside. -/
def Setting.padded (setting : Setting) : List Component :=
  if (piece setting.value).isEmpty && setting.important then [blank [' ', ' ']]
  else blank [' '] :: (piece setting.value ++ if setting.important then [blank [' ']] else [])

/-- The mark of importance in components. -/
def importance : List Component :=
  [mark '!', .atom 0 (.ident "important".toList)]

/-- The components of a declaration. -/
def Setting.layout (setting : Setting) : List Component :=
  .atom 0 (.ident (propertyName setting.name).toList) :: mark ':'
    :: (setting.padded ++ ((if setting.important then importance else []) ++ [mark ';']))

/-- The components of declarations inside a block at the given depth. -/
def settingsLayout (depth : Nat) (settings : List Setting) : List Component :=
  settings.flatMap (fun setting => lineBreak (depth + 1) :: setting.layout) ++ [lineBreak depth]

theorem settingsLayout_cons (depth : Nat) (setting : Setting) (rest : List Setting)
    : settingsLayout depth (setting :: rest)
      = lineBreak (depth + 1) :: (setting.layout ++ settingsLayout depth rest) := by
  simp [settingsLayout]

/-- The components of a list of selectors. -/
def selectorsLayout : List (List Component) → List Component
  | [] => []
  | [group] => piece group
  | group :: rest => piece group ++ mark ',' :: blank [' '] :: selectorsLayout rest

theorem selectorsLayout_cons_cons (group next : List Component) (others : List (List Component))
    : selectorsLayout (group :: next :: others)
      = piece group ++ mark ',' :: blank [' '] :: selectorsLayout (next :: others) :=
  rfl

/-- The components of a prelude, with the space in front of it if there is one. -/
def preludeLayout (prelude : List Component) : List Component :=
  if (piece prelude).isEmpty then [] else blank [' '] :: piece prelude

/-- The components of the name and the prelude of an at-rule. -/
def headLayout (keyword : List Char) (prelude : List Component) : List Component :=
  .atom 0 (.atKeyword (lowerAscii keyword)) :: preludeLayout prelude

mutual
/-- The components of an item at the given depth. -/
def Item.layout (depth : Nat) : Item → List Component
  | .style selectors settings =>
    selectorsLayout selectors ++ [blank [' '], .block 0 .curly (settingsLayout depth settings)]
  | .verbatim keyword prelude none => .atom 0 (.atKeyword keyword) :: (prelude ++ [mark ';'])
  | .verbatim keyword prelude (some content) =>
    .atom 0 (.atKeyword keyword) :: (prelude ++ [.block 0 .curly content])
  | .declarationBlock keyword prelude settings =>
    headLayout keyword prelude ++ [blank [' '], .block 0 .curly (settingsLayout depth settings)]
  | .ruleBlock keyword prelude body =>
    headLayout keyword prelude
      ++ [blank [' '], .block 0 .curly (Item.bodyLayout (depth + 1) body ++ [lineBreak depth])]

/-- The components of items inside a block, each on a line of its own. -/
def Item.bodyLayout (depth : Nat) : List Item → List Component
  | [] => []
  | item :: rest => lineBreak depth :: (item.layout depth ++ Item.bodyLayout depth rest)
end

/-- The components of a sheet. -/
def sheetLayout (items : List Item) : List Component :=
  items.flatMap fun item => item.layout 0 ++ [lineBreak 0]

theorem sheetLayout_cons (item : Item) (rest : List Item)
    : sheetLayout (item :: rest) = item.layout 0 ++ lineBreak 0 :: sheetLayout rest := by
  simp [sheetLayout]

--------------------------------------------------------------------------------
-- Trimming
--------------------------------------------------------------------------------

/-- What is written between something and whitespace is a line end or nothing. -/
theorem isBlank_gapBetween {left : Option Kind} {line : Nat} {text : List Char} {c : Char}
    (member : c ∈ gapBetween left (.atom line (.whitespace text)))
    : Text.isBlank c = true := by
  cases left with
  | none => cases member
  | some left =>
    have apart : runTogether left .whitespace = false := by
      simp [runTogether, Kind.startsWithName, Kind.startsWithNumber, Kind.isMark]
    rw [gapBetween_whitespace, apart, if_neg Bool.false_ne_true] at member
    split at member
    · split at member
      · cases member
      · rw [List.mem_singleton.mp member]
        decide
    · cases member

/-- The kind that stands in front of what follows the components. -/
def lastKind (left : Option Kind) (components : List Component) : Option Kind :=
  components.getLast?.elim left fun last => some last.kind

theorem writeAfter_append (left : Option Kind) (components rest : List Component)
    : writeAfter left (components ++ rest)
      = writeAfter left components ++ writeAfter (lastKind left components) rest := by
  induction components generalizing left with
  | nil => rfl
  | cons component others ih =>
    have last : lastKind left (component :: others) = lastKind component.kind others := by
      cases others with
      | nil => rfl
      | cons _ _ => simp [lastKind, List.getLast?_cons]
    rw [List.cons_append, writeAfter, writeAfter, ih, last]
    simp only [List.append_assoc]

/-- Whitespace at the end of components is trimmed from their text. -/
theorem trim_writeAll_concat {blanks : List Char} (allBlank : ∀ c ∈ blanks, Text.isBlank c = true)
    (components : List Component) (line : Nat)
    : Text.trim (writeAll (components ++ [.atom line (.whitespace blanks)]))
      = Text.trim (writeAll components) := by
  rw [writeAll, writeAfter_append]
  refine Text.trim_append ?_ _
  intro c member
  rw [writeAfter, writeAfter, List.append_nil, List.mem_append] at member
  rcases member with inGap | inBlanks
  · exact isBlank_gapBetween inGap
  · exact allBlank c inBlanks

/-- Whitespace at the start of components is trimmed from their text. -/
theorem trim_writeAll_cons {blanks : List Char} (allBlank : ∀ c ∈ blanks, Text.isBlank c = true)
    (components : List Component) (line : Nat)
    : Text.trim (writeAll (.atom line (.whitespace blanks) :: components))
      = Text.trim (writeAll components) := by
  have inert : Kind.isInert .whitespace :=
    ⟨fun right => by simp [runTogether, Kind.endsInName, Kind.isMark], by decide⟩
  have written
      : writeAll (.atom line (.whitespace blanks) :: components) = blanks ++ writeAll components := by
    show [] ++ blanks ++ writeAfter (some .whitespace) components = _
    rw [writeAfter_inert inert]
    rfl
  rw [written, Text.trim, Text.trimStart, List.dropWhile_append_of_pos allBlank]
  rfl

--------------------------------------------------------------------------------
-- Pieces and their texts
--------------------------------------------------------------------------------

/-- Is the component, if it is whitespace, a single space? -/
def isUnified (component : Component) : Prop :=
  component.isWhitespace = true → ∃ line, component = .atom line (.whitespace [' '])

theorem isUnified_of_mem_unifySpaces {components : List Component} {component : Component}
    (member : component ∈ unifySpaces components)
    : isUnified component := by
  obtain ⟨own, _, rfl⟩ := List.mem_map.mp member
  intro space
  cases own with
  | atom line found =>
    cases found with
    | whitespace text => exact ⟨line, rfl⟩
    | _ => cases space
  | block line bracket content => cases space
  | function line name arguments => cases space

theorem unifySpaces_of_isUnified {components : List Component}
    (unified : ∀ component ∈ components, isUnified component)
    : unifySpaces components = components := by
  rw [unifySpaces]
  refine (List.map_congr_left fun component member => ?_).trans (List.map_id _)
  have own := unified component member
  cases component with
  | atom line found =>
    cases found with
    | whitespace text =>
      obtain ⟨_, same⟩ := own rfl
      cases same
      rfl
    | _ => rfl
  | block line bracket content => rfl
  | function line name arguments => rfl

theorem trimBlanks_cons {component : Component} (space : component.isWhitespace = true)
    (components : List Component)
    : trimBlanks (component :: components) = trimBlanks components := by
  rw [trimBlanks, trimBlanks, List.dropWhile_cons_of_pos space]

theorem trimBlanks_concat {component : Component} (space : component.isWhitespace = true)
    (components : List Component)
    : trimBlanks (components ++ [component]) = trimBlanks components := by
  rw [trimBlanks, trimBlanks, List.dropWhile_append]
  split
  · rename_i nothing
    rw [List.isEmpty_iff.mp nothing, List.dropWhile_cons_of_pos space]
    rfl
  · exact List.rdropWhile_concat_pos _ _ _ space

theorem trimBlanks_sublist (components : List Component)
    : (trimBlanks components).Sublist components :=
  (List.rdropWhile_prefix _ _).sublist.trans (List.dropWhile_sublist _)

/-- Trimmed components start with no whitespace. -/
theorem dropWhile_trimBlanks (components : List Component)
    : (trimBlanks components).dropWhile Component.isWhitespace = trimBlanks components := by
  refine List.dropWhile_eq_self_iff.mpr fun filled => ?_
  obtain ⟨rest, same⟩ : trimBlanks components <+: components.dropWhile Component.isWhitespace :=
    List.rdropWhile_prefix _ _
  have first := List.dropWhile_eq_self_iff.mp
    (List.dropWhile_idempotent (p := Component.isWhitespace) (l := components))
  simp only [← same] at first
  simpa [List.getElem_append_left filled] using first (by simp; omega)

/-- Nothing is left to trim of trimmed components. -/
theorem trimBlanks_trimBlanks (components : List Component)
    : trimBlanks (trimBlanks components) = trimBlanks components := by
  conv => lhs; rw [trimBlanks, dropWhile_trimBlanks]
  exact List.rdropWhile_idempotent _ _

/-- A piece starts with no whitespace. -/
theorem isWhitespace_head_piece {components more : List Component} {first : Component}
    (starts : piece components = first :: more)
    : first.isWhitespace = false := by
  have kept := dropWhile_trimBlanks (unifySpaces components)
  rw [← piece, starts] at kept
  rw [← Bool.not_eq_true]
  intro space
  rw [List.dropWhile_cons_of_pos space] at kept
  have shorter := (List.dropWhile_sublist (p := Component.isWhitespace) (l := more)).length_le
  rw [kept, List.length_cons] at shorter
  omega

/-- Whitespace at the ends of components has no part in their trimmed text.
Witness: induction on the components, first from their start and then from their end.
-/
theorem trim_writeAll_trimBlanks {components : List Component}
    (unified : ∀ component ∈ components, isUnified component)
    : Text.trim (writeAll (trimBlanks components)) = Text.trim (writeAll components) := by
  have single : ∀ c ∈ [' '], Text.isBlank c = true := List.all_eq_true.mp (by decide)
  have ends (components : List Component)
      (unified : ∀ component ∈ components, isUnified component)
      : Text.trim (writeAll (components.rdropWhile Component.isWhitespace))
        = Text.trim (writeAll components) := by
    induction components using List.reverseRecOn with
    | nil => rfl
    | append_singleton components last ih =>
      by_cases space : last.isWhitespace = true
      · obtain ⟨line, rfl⟩ := unified last (by simp) space
        rw [List.rdropWhile_concat_pos _ _ _ space,
          ih fun component member => unified component (List.mem_append_left _ member),
          trim_writeAll_concat single]
      · rw [List.rdropWhile_concat_neg _ _ _ space]
  induction components with
  | nil => rfl
  | cons first rest ih =>
    by_cases space : first.isWhitespace = true
    · obtain ⟨line, rfl⟩ := unified first List.mem_cons_self space
      rw [trimBlanks_cons space,
        ih fun component member => unified component (List.mem_cons_of_mem _ member),
        trim_writeAll_cons single]
    · rw [trimBlanks, List.dropWhile_cons_of_neg space]
      exact ends _ unified

/-- The text of components is that of the piece that is printed for them. -/
theorem compactText_eq (components : List Component)
    : compactText components = String.ofList (Text.trim (writeAll (piece components))) := by
  rw [compactText, piece, trim_writeAll_trimBlanks fun _ => isUnified_of_mem_unifySpaces]

theorem compactText_congr {components others : List Component}
    (same : piece components = piece others)
    : compactText components = compactText others := by
  rw [compactText_eq, compactText_eq, same]

theorem isUnified_of_mem_piece {components : List Component} {component : Component}
    (member : component ∈ piece components)
    : isUnified component :=
  isUnified_of_mem_unifySpaces ((trimBlanks_sublist _).subset member)

theorem piece_piece (components : List Component) : piece (piece components) = piece components := by
  rw [piece, unifySpaces_of_isUnified fun _ => isUnified_of_mem_piece, piece, trimBlanks_trimBlanks]

/-- Blanks around components have no part in what is printed for them. -/
theorem piece_blank_cons (text : List Char) (components : List Component)
    : piece (blank text :: components) = piece components :=
  trimBlanks_cons rfl _

theorem piece_concat_blank (components : List Component) (text : List Char)
    : piece (components ++ [blank text]) = piece components := by
  rw [piece, unifySpaces, List.map_append]
  exact trimBlanks_concat rfl _

end CriticalCss
