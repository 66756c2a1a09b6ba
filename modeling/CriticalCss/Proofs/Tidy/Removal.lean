import Mathlib
import CriticalCss.Proofs.Request.Acceptance
import CriticalCss.Proofs.Tidy.References

/-! Tidying only takes away. Every pass leaves a part of its sheet, in order, with the rules that
stay under their own selectors, names and preludes. Outside of definitions exactly the declarations
go that a pattern is found in or that hold too large a payload: neither the cleaning behind the
passes nor the passes over definitions take another one with them.
-/

namespace CriticalCss

--------------------------------------------------------------------------------
-- Parts of a sheet
--------------------------------------------------------------------------------

/-- The first list of rules is what is left of the second when rules are taken out, and declarations
of style rules and of blocks, and the same inside of blocks of rules.
-/
inductive Stylesheet.Part : List Node → List Node → Prop where
  | nil : Part [] []
  | gone (node : Node) {less more : List Node} (later : Part less more)
    : Part less (node :: more)
  | same (node : Node) {less more : List Node} (later : Part less more)
    : Part (node :: less) (node :: more)
  | style (selectors : List String) {fewer declarations : List Declaration}
      {less more : List Node} (kept : fewer.Sublist declarations) (later : Part less more)
    : Part (.style selectors fewer :: less) (.style selectors declarations :: more)
  | declarationBlock (name prelude : String) {fewer body : List Declaration}
      {less more : List Node} (kept : fewer.Sublist body) (later : Part less more)
    : Part (.declarationBlock name prelude fewer :: less)
        (.declarationBlock name prelude body :: more)
  | ruleBlock (name prelude : String) {inner body less more : List Node} (inside : Part inner body)
      (later : Part less more)
    : Part (.ruleBlock name prelude inner :: less) (.ruleBlock name prelude body :: more)

namespace Stylesheet.Part

theorem refl (sheet : List Node) : Part sheet sheet := by
  induction sheet with
  | nil => exact .nil
  | cons node rest ih => exact .same node ih

/-- Nothing is a part of everything. -/
theorem empty (sheet : List Node) : Part [] sheet := by
  induction sheet with
  | nil => exact .nil
  | cons node rest ih => exact .gone node ih

/-- Nothing has no part but nothing. -/
theorem eq_nil {sheet : List Node} (part : Part sheet []) : sheet = [] := by
  cases part
  rfl

/-- A part of a part is a part, by induction on the larger one. -/
theorem trans {less middle more : List Node} (first : Part less middle)
    (second : Part middle more)
    : Part less more := by
  induction second generalizing less with
  | nil => exact first
  | gone node _ ih => exact .gone node (ih first)
  | same node _ ih =>
    cases first with
    | gone _ later => exact .gone node (ih later)
    | same _ later => exact .same node (ih later)
    | style selectors kept later => exact .style selectors kept (ih later)
    | declarationBlock name prelude kept later =>
      exact .declarationBlock name prelude kept (ih later)
    | ruleBlock name prelude inside later => exact .ruleBlock name prelude inside (ih later)
  | style selectors kept _ ih =>
    cases first with
    | gone _ later => exact .gone _ (ih later)
    | same _ later => exact .style selectors kept (ih later)
    | style _ fewer later => exact .style selectors (fewer.trans kept) (ih later)
  | declarationBlock name prelude kept _ ih =>
    cases first with
    | gone _ later => exact .gone _ (ih later)
    | same _ later => exact .declarationBlock name prelude kept (ih later)
    | declarationBlock _ _ fewer later =>
      exact .declarationBlock name prelude (fewer.trans kept) (ih later)
  | ruleBlock name prelude inside _ within ih =>
    cases first with
    | gone _ later => exact .gone _ (ih later)
    | same _ later => exact .ruleBlock name prelude inside (ih later)
    | ruleBlock _ _ deeper later => exact .ruleBlock name prelude (within deeper) (ih later)

/-- No part is longer than the whole. -/
theorem length_le {less more : List Node} (part : Part less more) : less.length ≤ more.length := by
  induction part with
  | nil => exact Nat.le_refl _
  | gone node _ ih => exact Nat.le_succ_of_le ih
  | same _ _ ih | style _ _ _ ih | declarationBlock _ _ _ _ ih | ruleBlock _ _ _ _ _ ih =>
    exact Nat.succ_le_succ ih

/-- A tree with a further rule in front is no part of what the tree has for a part. -/
theorem not_of_cons {node : Node} {less more : List Node} (part : Part less more)
    : ¬Part (node :: more) less := by
  intro other
  have longer := other.length_le
  have shorter := part.length_le
  rw [List.length_cons] at longer
  omega

/-- Two trees are the same if each is a part of the other. -/
theorem antisymm {less more : List Node} (first : Part less more) (second : Part more less)
    : less = more := by
  induction first with
  | nil => rfl
  | gone node later _ => exact absurd second later.not_of_cons
  | same node later ih =>
    cases second with
    | gone _ rests => exact absurd rests later.not_of_cons
    | same _ rests | style _ _ rests | declarationBlock _ _ _ rests | ruleBlock _ _ _ rests =>
      rw [ih rests]
  | style selectors kept later ih =>
    cases second with
    | gone _ rests => exact absurd rests later.not_of_cons
    | same _ rests => rw [ih rests]
    | style _ back rests => rw [kept.antisymm back, ih rests]
  | declarationBlock name prelude kept later ih =>
    cases second with
    | gone _ rests => exact absurd rests later.not_of_cons
    | same _ rests => rw [ih rests]
    | declarationBlock _ _ back rests => rw [kept.antisymm back, ih rests]
  | ruleBlock name prelude inside later within ih =>
    cases second with
    | gone _ rests => exact absurd rests later.not_of_cons
    | same _ rests => rw [ih rests]
    | ruleBlock _ _ back rests => rw [within back, ih rests]

/-- The declarations of a part are some of those of the whole, in order, whatever is skipped. -/
theorem declarations_sublist {less more : List Node} (skip : String → Bool)
    (part : Part less more)
    : (Stylesheet.declarations skip less).Sublist (Stylesheet.declarations skip more) := by
  induction part with
  | nil => exact .refl _
  | gone node _ ih => exact ih.trans (List.sublist_append_right _ _)
  | same node _ ih => exact (List.Sublist.refl _).append ih
  | style selectors kept _ ih => exact kept.append ih
  | declarationBlock name prelude kept _ ih =>
    refine List.Sublist.append ?_ ih
    simp only [Node.declarations]
    split
    · exact .refl _
    · exact kept
  | ruleBlock name prelude _ _ within ih =>
    refine List.Sublist.append ?_ ih
    simp only [Node.declarations]
    split
    · exact .refl _
    · exact within

end Stylesheet.Part

--------------------------------------------------------------------------------
-- What each pass leaves
--------------------------------------------------------------------------------

/-- Cleaning leaves a part. -/
theorem Stylesheet.part_withoutEmpty (sheet : List Node)
    : Part (Stylesheet.withoutEmpty sheet) sheet := by
  induction sheet using Stylesheet.induction with
  | nil => exact .nil
  | block name prelude body rest inner later =>
    rw [Stylesheet.withoutEmpty_cons, Node.withoutEmpty_ruleBlock]
    split
    · exact .gone _ later
    · exact .ruleBlock name prelude inner later
  | leaf node rest leaf later =>
    rw [Stylesheet.withoutEmpty_cons]
    rcases Node.withoutEmpty_leaf leaf with gone | kept
    · rw [gone]
      exact .gone node later
    · rw [kept]
      exact .same node later

/-- A pass over declarations leaves a part. -/
theorem Stylesheet.part_dropDeclarations (test : Declaration → Bool) (sheet : List Node)
    : Part (Stylesheet.dropDeclarations test sheet) sheet := by
  induction sheet using Stylesheet.induction with
  | nil => exact .nil
  | block name prelude body rest inner later => exact .ruleBlock name prelude inner later
  | leaf node rest leaf later =>
    cases node with
    | ruleBlock => simp [Node.holdsRules] at leaf
    | style selectors declarations => exact .style selectors List.filter_sublist later
    | declarationBlock name prelude body =>
      exact .declarationBlock name prelude List.filter_sublist later
    | _ => exact .same _ later

/-- A pass over at-rules leaves a part. -/
theorem Stylesheet.part_dropAtRules (test : Node → Bool) (sheet : List Node)
    : Part (Stylesheet.dropAtRules test sheet) sheet := by
  induction sheet using Stylesheet.induction with
  | nil => exact .nil
  | block name prelude body rest inner later =>
    rw [Stylesheet.dropAtRules_cons, Node.dropAtRules]
    split
    · exact .gone _ later
    · refine .ruleBlock name prelude ?_ later
      split
      · exact .refl body
      · exact inner
  | leaf node rest leaf later =>
    rw [Stylesheet.dropAtRules_cons, Node.dropAtRules_leaf test leaf]
    split
    · exact .gone node later
    · exact .same node later

/-- A pass over declarations leaves the selectors of style rules alone. -/
theorem Stylesheet.Selective.dropDeclarations {sheet : List Node} (test : Declaration → Bool)
    (selective : Stylesheet.Selective sheet)
    : Stylesheet.Selective (Stylesheet.dropDeclarations test sheet) := by
  induction sheet using Stylesheet.induction with
  | nil => trivial
  | block name prelude body rest inner later => exact ⟨inner selective.1, later selective.2⟩
  | leaf node rest leaf later =>
    refine ⟨?_, later selective.2⟩
    cases node with
    | ruleBlock => simp [Node.holdsRules] at leaf
    | style selectors declarations => exact selective.1
    | _ => trivial

namespace Tidy

--------------------------------------------------------------------------------
-- Patterns and what they are found in
--------------------------------------------------------------------------------

/-- Is the pattern found anywhere in a text, without regard to case? -/
def isFound (source text : String) : Bool :=
  match Pattern.compile source { ignoreCase := true } with
  | .ok pattern => pattern.search text
  | .error _ => false

/-- Does the declaration stay? No pattern is found in its property, and every payload in its value
is within the limit.
-/
def isFit (sources : List String) (limit : Int) (declaration : Declaration) : Bool :=
  sources.all (!isFound · declaration.property)
    && (payloads declaration.value.toList).all fun payload => payload.length ≤ limit

/-- The compiled patterns are those that the sources compile to. -/
theorem mem_compilePatterns_iff {sources : List String} {patterns : List Pattern}
    (compiled : compilePatterns sources = .ok patterns) (pattern : Pattern)
    : pattern ∈ patterns
      ↔ ∃ source ∈ sources, Pattern.compile source { ignoreCase := true } = .ok pattern := by
  unfold compilePatterns at compiled
  induction sources generalizing patterns with
  | nil =>
    cases compiled
    simp
  | cons source rest ih =>
    rw [List.mapM_cons] at compiled
    obtain ⟨first, own, compiled⟩ := exists_ok_of_bind compiled
    obtain ⟨others, later, compiled⟩ := exists_ok_of_bind compiled
    cases compiled
    have same : Pattern.compile source { ignoreCase := true } = .ok first := by
      split at own
      · rename_i found
        cases own
        exact found
      · cases own
    simp only [List.mem_cons, exists_eq_or_imp, ih later, same, Except.ok.injEq,
      @eq_comm _ pattern first]

/-- A declaration is unwanted if one of the sources is found in its property. -/
theorem isUnwanted_eq {sources : List String} {patterns : List Pattern}
    (compiled : compilePatterns sources = .ok patterns) (declaration : Declaration)
    : isUnwanted patterns declaration = sources.any (isFound · declaration.property) := by
  rw [Bool.eq_iff_iff, isUnwanted, List.any_eq_true, List.any_eq_true]
  constructor
  · rintro ⟨pattern, member, found⟩
    obtain ⟨source, listed, same⟩ := (mem_compilePatterns_iff compiled pattern).mp member
    refine ⟨source, listed, ?_⟩
    rw [isFound, same]
    exact found
  · rintro ⟨source, listed, found⟩
    unfold isFound at found
    split at found
    · rename_i pattern same
      exact ⟨pattern, (mem_compilePatterns_iff compiled pattern).mpr ⟨source, listed, same⟩, found⟩
    · cases found

/-- The passes over declarations leave just the fit ones. -/
theorem not_isUnfit_eq {sources : List String} {patterns : List Pattern}
    (compiled : compilePatterns sources = .ok patterns) (limit : Int) (declaration : Declaration)
    : (!isUnfit patterns limit declaration) = isFit sources limit declaration := by
  have small
      : (!isOversized limit declaration)
        = (payloads declaration.value.toList).all fun payload => payload.length ≤ limit := by
    simp [isOversized, holdsOversized, List.not_any_eq_all_not, ← decide_not]
  rw [isUnfit, Bool.not_or, small, isUnwanted_eq compiled, List.not_any_eq_all_not, isFit]

--------------------------------------------------------------------------------
-- All passes
--------------------------------------------------------------------------------

/-- A tidied sheet is a part of the sheet. -/
theorem part_run (patterns : List Pattern) (limit : Int) (sheet : Stylesheet)
    : Stylesheet.Part (run patterns limit sheet).sheet sheet := by
  have dropped (test : Node → Bool) (tree : Stylesheet)
      : Stylesheet.Part (Stylesheet.withoutEmpty (Stylesheet.dropAtRules test tree)) tree :=
    (Stylesheet.part_withoutEmpty _).trans (Stylesheet.part_dropAtRules test tree)
  have fit : Stylesheet.Part (withoutUnfit patterns limit sheet) sheet :=
    (Stylesheet.part_withoutEmpty _).trans (Stylesheet.part_dropDeclarations _ sheet)
  rw [run_sheet]
  exact (dropped _ _).trans ((dropped _ _).trans fit)

/-- The declarations outside definitions are filtered by the passes over declarations and by nothing
else.
Witness: the references that the last two passes go by are those of the result.
-/
theorem referring_run_eq_filter {sheet : Stylesheet} (selective : Stylesheet.Selective sheet)
    (patterns : List Pattern) (limit : Int)
    : referring (run patterns limit sheet).sheet
      = (referring sheet).filter (!isUnfit patterns limit ·) := by
  rw [referring_run, withoutUnfit, referring,
    Stylesheet.declarations_withoutEmpty isDefinition (selective.dropDeclarations _),
    Stylesheet.declarations_dropDeclarations]
  rfl

/-- Tidying a sheet whose style rules all have selectors leaves a part of it, and of the
declarations outside definitions just those that no pattern is found in and no payload is too large
for.
-/
theorem removes_run {sources : List String} {patterns : List Pattern}
    (compiled : compilePatterns sources = .ok patterns) (limit : Int) {sheet : Stylesheet}
    (selective : Stylesheet.Selective sheet)
    : Stylesheet.Part (run patterns limit sheet).sheet sheet
      ∧ referring (run patterns limit sheet).sheet
        = (referring sheet).filter (isFit sources limit) := by
  refine ⟨part_run patterns limit sheet, ?_⟩
  rw [referring_run_eq_filter selective]
  exact congrArg (List.filter · _) (funext fun declaration =>
    not_isUnfit_eq compiled limit declaration)

/-- A sheet with declarations to take away, beside others in a block and alone in a rule. -/
def crowdedSheet : Stylesheet :=
  [.ruleBlock "media" "screen"
      [.style ["a"] [.set "zoom" "1" false, .set "top" "0" false]],
    .style ["i"] [.set "src" "data:;base64,AA" false],
    .declarationBlock "font-face" "" [.set "font-family" "x" false]]

/-- Of the three declarations outside the font face one stays. -/
theorem removes_run_crowdedSheet
    : ∃ patterns,
        compilePatterns ["O+M"] = .ok patterns
        ∧ Stylesheet.Selective crowdedSheet
        ∧ Stylesheet.Part (run patterns 1 crowdedSheet).sheet crowdedSheet
        ∧ referring (run patterns 1 crowdedSheet).sheet = [.set "top" "0" false] := by
  obtain ⟨patterns, compiled⟩ : ∃ patterns, compilePatterns ["O+M"] = .ok patterns :=
    exists_compilePatterns_iff.mpr (by decide +kernel)
  have selective : Stylesheet.Selective crowdedSheet := by
    simp [crowdedSheet, Stylesheet.Selective, Node.Selective]
  have listed
      : referring crowdedSheet
        = [.set "zoom" "1" false, .set "top" "0" false, .set "src" "data:;base64,AA" false] := by
    decide +kernel
  have found : isFit ["O+M"] 1 (.set "zoom" "1" false) = false := by cbv
  have tooLarge : isFit ["O+M"] 1 (.set "src" "data:;base64,AA" false) = false := by cbv
  have fit : isFit ["O+M"] 1 (.set "top" "0" false) = true := by cbv
  obtain ⟨part, filtered⟩ := removes_run compiled 1 selective
  refine ⟨patterns, compiled, selective, part, filtered.trans ?_⟩
  simp [listed, found, tooLarge, fit]

end Tidy

end CriticalCss
