import CriticalCss.Proofs.Tidy.Monotonicity

/-! A cleaned tree is the greatest part of a tree in which nothing is empty. There is only one such
part, so that cleaning is told by what it has to come to: all that is empty goes, at every depth,
and nothing else does. Tidying, which cleans behind each of its passes, leaves a clean sheet.
-/

namespace CriticalCss

/-- Whatever part of a tree is clean is a part of the cleaned tree. -/
theorem Stylesheet.Part.withoutEmpty_of_isClean {part sheet : List Node}
    (smaller : Stylesheet.Part part sheet) (clean : Stylesheet.IsClean part)
    : Stylesheet.Part part (Stylesheet.withoutEmpty sheet) := by
  have both := smaller.withoutEmpty
  rwa [clean.withoutEmpty_eq_self] at both

/-- What cleaning a tree has to come to: nothing empty is left, and nothing else is taken. -/
structure Stylesheet.CleansTo (sheet cleaned : List Node) : Prop where
  /-- No rule is empty, at any depth. -/
  clean : IsClean cleaned
  /-- What is left is a part of the tree, in the order of the tree. -/
  part : Part cleaned sheet
  /-- There is no greater one without empty rules. -/
  greatest : ∀ other, Part other sheet → IsClean other → Part other cleaned
  /-- Of the rules that hold no rules those that are not empty stay, as and where they were. -/
  leaves
    : (placed cleaned).filter (!·.node.holdsRules) = (placed sheet).filter (·.node.isFilledLeaf)
  /-- So do all at-rules that are verbatim or end with a semicolon. -/
  fixed : (placed cleaned).filter (·.node.isSealed) = (placed sheet).filter (·.node.isSealed)
  /-- No declaration is lost if all style rules have selectors, whatever at-rules are skipped. -/
  declarations
    : Selective sheet
      → ∀ skip, Stylesheet.declarations skip cleaned = Stylesheet.declarations skip sheet
  /-- A clean tree is left as it is. -/
  unchanged : IsClean sheet → cleaned = sheet

theorem Stylesheet.cleansTo_withoutEmpty (sheet : List Node)
    : CleansTo sheet (withoutEmpty sheet) where
  clean := isClean_withoutEmpty sheet
  part := part_withoutEmpty sheet
  greatest _ smaller clean := smaller.withoutEmpty_of_isClean clean
  leaves := leaves_placed_withoutEmpty sheet
  fixed := sealed_placed_withoutEmpty sheet
  declarations selective skip := declarations_withoutEmpty skip selective
  unchanged clean := clean.withoutEmpty_eq_self

/-- There is one greatest clean part. -/
theorem Stylesheet.CleansTo.unique {sheet cleaned other : List Node}
    (first : CleansTo sheet cleaned) (second : CleansTo sheet other)
    : cleaned = other := by
  apply Part.antisymm
  · exact second.greatest cleaned first.part first.clean
  · exact first.greatest other second.part second.clean

/-- What cleaning a tree has to come to is what it gives and nothing else; what it gives is clean,
so that cleaning it again leaves it as it is.
-/
theorem Stylesheet.cleansTo_iff (sheet : List Node)
    : (∀ cleaned, CleansTo sheet cleaned ↔ cleaned = withoutEmpty sheet)
      ∧ withoutEmpty (withoutEmpty sheet) = withoutEmpty sheet := by
  refine ⟨?_, withoutEmpty_withoutEmpty sheet⟩
  intro cleaned
  constructor
  · intro cleans
    exact cleans.unique (cleansTo_withoutEmpty sheet)
  · rintro rfl
    exact cleansTo_withoutEmpty sheet

/-- A sheet with a block that holds nothing but empty rules, and one with an import as well. -/
def nestedSheet : Stylesheet :=
  [.ruleBlock "media" "print"
      [.ruleBlock "supports" "(top: 0)" [.style ["a"] []], .hollow "font-face" "" false],
    .ruleBlock "media" "screen"
      [.verbatim "import" "" "@import url(x);" .none .null, .declarationBlock "page" "" []],
    .style ["b"] [.set "top" "0" false]]

/-- Emptiness goes outwards through both blocks of the one, and stops at the import in the other. -/
theorem Stylesheet.cleansTo_iff_nestedSheet
    : let cleaned : Stylesheet :=
        [.ruleBlock "media" "screen" [.verbatim "import" "" "@import url(x);" .none .null],
          .style ["b"] [.set "top" "0" false]]
      CleansTo nestedSheet cleaned
      ∧ Selective nestedSheet
      ∧ Tidy.referring cleaned = Tidy.referring nestedSheet := by
  intro cleaned
  have cleans : CleansTo nestedSheet cleaned := ((cleansTo_iff nestedSheet).1 cleaned).mpr rfl
  have selective : Selective nestedSheet := by
    simp [nestedSheet, Selective, Node.Selective]
  exact ⟨cleans, selective, cleans.declarations selective Tidy.isDefinition⟩

/-- A tidied sheet is clean, even if no pass had anything to take. -/
theorem Tidy.isClean_run (patterns : List Pattern) (limit : Int) (sheet : Stylesheet)
    : Stylesheet.IsClean (run patterns limit sheet).sheet := by
  rw [run_sheet]
  exact Stylesheet.isClean_withoutEmpty _

end CriticalCss
