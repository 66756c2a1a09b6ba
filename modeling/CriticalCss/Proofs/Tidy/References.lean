import CriticalCss.Proofs.Tidy.Passes

/-! References survive the passes that go by them. A definition that is taken away has no say in
what is referred to, and the cleaning behind it takes only what says nothing, so the declarations
whose references count are the same before, between and after the passes over definitions.
-/

namespace CriticalCss.Tidy

--------------------------------------------------------------------------------
-- The passes over declarations as one
--------------------------------------------------------------------------------

/-- Does one of the passes over declarations take the declaration away? -/
def isUnfit (patterns : List Pattern) (limit : Int) (declaration : Declaration) : Bool :=
  isUnwanted patterns declaration || isOversized limit declaration

/-- A sheet after both passes over declarations. -/
def withoutUnfit (patterns : List Pattern) (limit : Int) (sheet : Stylesheet) : Stylesheet :=
  Stylesheet.withoutEmpty (Stylesheet.dropDeclarations (isUnfit patterns limit) sheet)

/-- Both passes over declarations are one, also when there are no patterns and the first pass does
not even clean. -/
theorem removeOversized_removeUnwanted (patterns : List Pattern) (limit : Int)
    (sheet : Stylesheet)
    : (removeOversized limit (removeUnwanted patterns sheet).sheet).sheet
      = withoutUnfit patterns limit sheet := by
  cases patterns with
  | nil =>
    have same : isUnfit [] limit = isOversized limit := by
      funext declaration
      simp [isUnfit, isUnwanted]
    simp [removeOversized, removeUnwanted, withoutUnfit, same]
  | cons pattern others =>
    simp only [removeOversized, removeUnwanted, withoutUnfit, List.isEmpty_cons,
      Bool.false_eq_true, if_false]
    exact Stylesheet.withoutEmpty_dropDeclarations_twice _ _ _

/-- All passes: those over declarations as one, then font faces, then keyframes. -/
theorem run_sheet (patterns : List Pattern) (limit : Int) (sheet : Stylesheet)
    : (run patterns limit sheet).sheet
      = (removeUnusedKeyframes
          (removeUnusedFontFaces (withoutUnfit patterns limit sheet)).sheet).sheet := by
  rw [← removeOversized_removeUnwanted]
  rfl

--------------------------------------------------------------------------------
-- Definitions do not count
--------------------------------------------------------------------------------

theorem isUnusedFontFace_ignoresBodies (families : List (List Char))
    : IgnoresBodies (isUnusedFontFace families) := by
  intro name prelude body other
  simp [isUnusedFontFace, fontFaceBody?]

theorem isUnusedKeyframes_ignoresBodies (names : List (List Char))
    : IgnoresBodies (isUnusedKeyframes names) := by
  intro name prelude body other
  rfl

/-- A font face refers to nothing that counts. -/
theorem declarations_of_isUnusedFontFace {families : List (List Char)} (node : Node)
    (unused : isUnusedFontFace families node = true)
    : node.declarations isDefinition = [] := by
  simp only [isUnusedFontFace] at unused
  split at unused
  · contradiction
  · rename_i body found
    unfold fontFaceBody? at found
    split at found
    · simp [Node.declarations, isDefinition]
    · rfl
    · contradiction

/-- Keyframes refer to nothing that counts. -/
theorem declarations_of_isUnusedKeyframes {names : List (List Char)} (node : Node)
    (unused : isUnusedKeyframes names node = true)
    : node.declarations isDefinition = [] := by
  cases node with
  | declarationBlock name prelude body =>
    simp_all [isUnusedKeyframes, Node.atRule?, Node.declarations, isDefinition]
  | ruleBlock name prelude body =>
    simp_all [isUnusedKeyframes, Node.atRule?, Node.declarations, isDefinition]
  | style | verbatim | foreign => simp [isUnusedKeyframes, Node.atRule?] at unused
  | statement | hollow => rfl

/-- Taking definitions away changes no reference, if every style rule has a selector. -/
theorem referring_withoutEmpty_dropAtRules {test : Node → Bool} {sheet : Stylesheet}
    (silent : ∀ node, test node = true → node.declarations isDefinition = [])
    (selective : Stylesheet.Selective sheet)
    : referring (Stylesheet.withoutEmpty (Stylesheet.dropAtRules test sheet))
      = referring sheet := by
  unfold referring
  rw [Stylesheet.declarations_withoutEmpty isDefinition (selective.dropAtRules test)]
  exact Stylesheet.declarations_dropAtRules silent sheet

theorem referring_removeUnusedFontFaces {sheet : Stylesheet}
    (selective : Stylesheet.Selective sheet)
    : referring (removeUnusedFontFaces sheet).sheet = referring sheet :=
  referring_withoutEmpty_dropAtRules declarations_of_isUnusedFontFace selective

theorem referring_removeUnusedKeyframes {sheet : Stylesheet}
    (selective : Stylesheet.Selective sheet)
    : referring (removeUnusedKeyframes sheet).sheet = referring sheet :=
  referring_withoutEmpty_dropAtRules declarations_of_isUnusedKeyframes selective

/-- The pass over keyframes goes by the same references as the pass over font faces. -/
theorem referring_fontPass (patterns : List Pattern) (limit : Int) (sheet : Stylesheet)
    : referring (removeUnusedFontFaces (withoutUnfit patterns limit sheet)).sheet
      = referring (withoutUnfit patterns limit sheet) :=
  referring_removeUnusedFontFaces (Stylesheet.selective_withoutEmpty _)

/-- The references of a tidied sheet are those that both passes over definitions went by. -/
theorem referring_run (patterns : List Pattern) (limit : Int) (sheet : Stylesheet)
    : referring (run patterns limit sheet).sheet
      = referring (withoutUnfit patterns limit sheet) := by
  have selective : Stylesheet.Selective
      (removeUnusedFontFaces (withoutUnfit patterns limit sheet)).sheet :=
    Stylesheet.selective_withoutEmpty _
  rw [run_sheet, referring_removeUnusedKeyframes selective, referring_fontPass]

end CriticalCss.Tidy
