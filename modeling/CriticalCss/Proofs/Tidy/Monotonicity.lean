import CriticalCss.Proofs.Tidy.Removal
import Mathlib.Data.List.Basic

/-! Asking tidying to take more away leaves less. With further patterns or a lower limit fewer
declarations stay, so that fewer definitions are referred to; each pass turns a part of its sheet
into a part of what it turns the sheet into, and nothing that is gone comes back.
-/

namespace CriticalCss

--------------------------------------------------------------------------------
-- Passes on parts
--------------------------------------------------------------------------------

/-- Cleaning a part leaves a part of the cleaned sheet, by induction on the sheet.
Witness: what is empty in the sheet is empty in the part.
-/
theorem Stylesheet.Part.withoutEmpty {less more : List Node} (part : Part less more)
    : Part (Stylesheet.withoutEmpty less) (Stylesheet.withoutEmpty more) := by
  have behind {node : Node} {left right : List Node}
      (later : Part (Stylesheet.withoutEmpty left) (Stylesheet.withoutEmpty right))
      : Part (Stylesheet.withoutEmpty left) (Stylesheet.withoutEmpty (node :: right)) := by
    rw [Stylesheet.withoutEmpty_cons node]
    cases node.withoutEmpty with
    | none => exact later
    | some kept => exact .gone kept later
  induction more using Stylesheet.induction generalizing less with
  | nil =>
    rw [part.eq_nil]
    exact .nil
  | block name prelude body rest inner later =>
    have inBlock {within left : List Node} (inside : Part within body) (rests : Part left rest)
        : Part (Stylesheet.withoutEmpty (.ruleBlock name prelude within :: left))
            (Stylesheet.withoutEmpty (.ruleBlock name prelude body :: rest)) := by
      rw [Stylesheet.withoutEmpty_cons, Node.withoutEmpty_ruleBlock]
      by_cases empty : Stylesheet.withoutEmpty within = []
      · rw [if_pos empty]
        exact behind (later rests)
      · have filled : Stylesheet.withoutEmpty body ≠ [] := by
          intro nothing
          exact empty (Part.eq_nil (nothing ▸ inner inside))
        rw [if_neg empty, Stylesheet.withoutEmpty_cons, Node.withoutEmpty_ruleBlock, if_neg filled]
        exact .ruleBlock name prelude (inner inside) (later rests)
    cases part with
    | gone _ rests => exact behind (later rests)
    | same _ rests => exact inBlock (.refl body) rests
    | ruleBlock _ _ inside rests => exact inBlock inside rests
  | leaf node rest leaf later =>
    cases part with
    | gone _ rests => exact behind (later rests)
    | same _ rests =>
      rw [Stylesheet.withoutEmpty_cons, Stylesheet.withoutEmpty_cons]
      cases node.withoutEmpty with
      | none => exact later rests
      | some kept => exact .same kept (later rests)
    | style selectors kept rests =>
      rename_i fewer declarations left
      rw [Stylesheet.withoutEmpty_cons, Node.withoutEmpty_style]
      by_cases empty : selectors = [] ∨ fewer = []
      · rw [if_pos empty]
        exact behind (later rests)
      · have filled : ¬ (selectors = [] ∨ declarations = []) := by
          rintro (bare | nothing)
          · exact empty (Or.inl bare)
          · exact empty (Or.inr (List.sublist_nil.mp (nothing ▸ kept)))
        rw [if_neg empty, Stylesheet.withoutEmpty_cons, Node.withoutEmpty_style, if_neg filled]
        exact .style selectors kept (later rests)
    | declarationBlock name prelude kept rests =>
      rename_i fewer body left
      rw [Stylesheet.withoutEmpty_cons, Node.withoutEmpty_declarationBlock]
      by_cases empty : fewer = []
      · rw [if_pos empty]
        exact behind (later rests)
      · have filled : body ≠ [] := by
          intro nothing
          exact empty (List.sublist_nil.mp (nothing ▸ kept))
        rw [if_neg empty, Stylesheet.withoutEmpty_cons, Node.withoutEmpty_declarationBlock,
          if_neg filled]
        exact .declarationBlock name prelude kept (later rests)
    | ruleBlock => simp [Node.holdsRules] at leaf

/-- A pass over declarations that takes more leaves a part of what one leaves that takes fewer. -/
theorem Stylesheet.part_dropDeclarations_of_imp {harder test : Declaration → Bool}
    (more : ∀ declaration, test declaration = true → harder declaration = true)
    (sheet : List Node)
    : Part (Stylesheet.dropDeclarations harder sheet) (Stylesheet.dropDeclarations test sheet) := by
  have fewer (declarations : List Declaration)
      : (declarations.filter (!harder ·)).Sublist (declarations.filter (!test ·)) := by
    apply List.monotone_filter_right
    intro declaration stays
    cases taken : test declaration with
    | true => simp [more declaration taken] at stays
    | false => rfl
  induction sheet using Stylesheet.induction with
  | nil => exact .nil
  | block name prelude body rest inner later => exact .ruleBlock name prelude inner later
  | leaf node rest leaf later =>
    cases node with
    | ruleBlock => simp [Node.holdsRules] at leaf
    | style selectors declarations => exact .style selectors (fewer declarations) later
    | declarationBlock name prelude body => exact .declarationBlock name prelude (fewer body) later
    | _ => exact .same _ later

/-- Of each rule that the one test finds the other finds every part. -/
def FindsParts (harder test : Node → Bool) : Prop :=
  ∀ small big, Stylesheet.Part [small] [big] → test big = true → harder small = true

/-- A pass over the at-rules of a part leaves a part of what the pass over the sheet leaves, if it
finds every part of what the other finds; by induction on the sheet.
-/
theorem Stylesheet.Part.dropAtRules {harder test : Node → Bool} (finds : FindsParts harder test)
    {less more : List Node} (part : Part less more)
    : Part (Stylesheet.dropAtRules harder less) (Stylesheet.dropAtRules test more) := by
  have behind {node : Node} {left right : List Node}
      (later : Part (Stylesheet.dropAtRules harder left) (Stylesheet.dropAtRules test right))
      : Part (Stylesheet.dropAtRules harder left)
          (Stylesheet.dropAtRules test (node :: right)) := by
    rw [Stylesheet.dropAtRules_cons test node]
    cases node.dropAtRules test with
    | none => exact later
    | some kept => exact .gone kept later
  -- A rule that the harder pass takes is behind us; one that it leaves, the other leaves as well.
  have onward {small big : Node} {left right : List Node} (own : Part [small] [big])
      (later : Part (Stylesheet.dropAtRules harder left) (Stylesheet.dropAtRules test right))
      (kept
        : harder small = false →
          test big = false →
          Part (Stylesheet.dropAtRules harder (small :: left))
            (Stylesheet.dropAtRules test (big :: right)))
      : Part (Stylesheet.dropAtRules harder (small :: left))
          (Stylesheet.dropAtRules test (big :: right)) := by
    cases found : harder small with
    | true =>
      have taken : small.dropAtRules harder = none := by
        unfold Node.dropAtRules
        exact if_pos found
      rw [Stylesheet.dropAtRules_cons harder small, taken]
      exact behind later
    | false =>
      refine kept found (Bool.eq_false_iff.mpr ?_)
      intro taken
      exact Bool.false_ne_true (found.symm.trans (finds small big own taken))
  induction more using Stylesheet.induction generalizing less with
  | nil =>
    rw [part.eq_nil]
    exact .nil
  | block name prelude body rest inner later =>
    have inBlock {within left : List Node} (inside : Part within body) (rests : Part left rest)
        : Part (Stylesheet.dropAtRules harder (.ruleBlock name prelude within :: left))
            (Stylesheet.dropAtRules test (.ruleBlock name prelude body :: rest)) := by
      refine onward (.ruleBlock name prelude inside .nil) (later rests) ?_
      intro stays left
      rw [Stylesheet.dropAtRules_cons, Stylesheet.dropAtRules_cons, Node.dropAtRules,
        Node.dropAtRules, stays, left]
      refine .ruleBlock name prelude ?_ (later rests)
      split
      · exact inside
      · exact inner inside
    cases part with
    | gone _ rests => exact behind (later rests)
    | same _ rests => exact inBlock (.refl body) rests
    | ruleBlock _ _ inside rests => exact inBlock inside rests
  | leaf node rest leaf later =>
    have kept {small : Node} (leaf' : small.holdsRules = false) {left : List Node}
        (whole
          : Part (small :: Stylesheet.dropAtRules harder left)
              (node :: Stylesheet.dropAtRules test rest))
        (stays : harder small = false) (left' : test node = false)
        : Part (Stylesheet.dropAtRules harder (small :: left))
            (Stylesheet.dropAtRules test (node :: rest)) := by
      rw [Stylesheet.dropAtRules_cons, Stylesheet.dropAtRules_cons, Node.dropAtRules_leaf _ leaf,
        Node.dropAtRules_leaf _ leaf', stays, left']
      exact whole
    cases part with
    | gone _ rests => exact behind (later rests)
    | same _ rests =>
      exact onward (.refl [node]) (later rests) (kept leaf (.same node (later rests)))
    | style selectors fewer rests =>
      exact onward (.style selectors fewer .nil) (later rests)
        (kept rfl (.style selectors fewer (later rests)))
    | declarationBlock name prelude fewer rests =>
      exact onward (.declarationBlock name prelude fewer .nil) (later rests)
        (kept rfl (.declarationBlock name prelude fewer (later rests)))
    | ruleBlock => simp [Node.holdsRules] at leaf

namespace Tidy

--------------------------------------------------------------------------------
-- Definitions and fewer references
--------------------------------------------------------------------------------

/-- A part refers to no family and no animation that the whole does not refer to. -/
theorem flatMap_referring_subset {β : Type} {less more : Stylesheet}
    (part : Stylesheet.Part less more) (names : Declaration → List β)
    : (referring less).flatMap names ⊆ (referring more).flatMap names := by
  intro name found
  obtain ⟨declaration, member, mentions⟩ := List.mem_flatMap.mp found
  exact List.mem_flatMap.mpr
    ⟨declaration, (part.declarations_sublist isDefinition).mem member, mentions⟩

/-- With fewer families referred to, a part of an unused font face is unused. -/
theorem findsParts_isUnusedFontFace {fewer families : List (List Char)} (sub : fewer ⊆ families)
    : FindsParts (isUnusedFontFace fewer) (isUnusedFontFace families) := by
  have unused {left body : List Declaration} (kept : left.Sublist body)
      (none
        : (!(body.filter (·.property = "font-family")).any fun declaration =>
            families.contains (normalFamily declaration.value.toList)) = true)
      : (!(left.filter (·.property = "font-family")).any fun declaration =>
          fewer.contains (normalFamily declaration.value.toList)) = true := by
    simp only [Bool.not_eq_true', List.any_eq_false, List.mem_filter, decide_eq_true_eq,
      List.contains_iff_mem] at none ⊢
    intro declaration member found
    exact none declaration ⟨kept.mem member.1, member.2⟩ (sub found)
  intro small big part found
  cases part with
  | gone _ later => cases later
  | same =>
    unfold isUnusedFontFace at found ⊢
    split at found
    · contradiction
    · exact unused (.refl _) found
  | style => contradiction
  | declarationBlock name prelude kept =>
    by_cases face : name = "font-face"
    · subst face
      exact unused kept found
    · simp [isUnusedFontFace, fontFaceBody?, face] at found
  | ruleBlock => contradiction

/-- With fewer animations referred to, a part of unused keyframes is unused. -/
theorem findsParts_isUnusedKeyframes {fewer names : List (List Char)} (sub : fewer ⊆ names)
    : FindsParts (isUnusedKeyframes fewer) (isUnusedKeyframes names) := by
  have unused {name : String} {prelude : List Char}
      (none : (isKeyframes name && !names.contains (unquote prelude)) = true)
      : (isKeyframes name && !fewer.contains (unquote prelude)) = true := by
    simp only [Bool.and_eq_true, Bool.not_eq_true', List.contains_eq_mem, decide_eq_false_iff_not]
      at none ⊢
    exact ⟨none.1, fun found => none.2 (sub found)⟩
  intro small big part found
  cases part with
  | gone _ later => cases later
  | same =>
    unfold isUnusedKeyframes at found ⊢
    split at found
    · contradiction
    · exact unused found
  | style => contradiction
  | declarationBlock => exact unused found
  | ruleBlock => exact unused found

/-- The pass over font faces turns parts into parts. -/
theorem part_removeUnusedFontFaces {less more : Stylesheet} (part : Stylesheet.Part less more)
    : Stylesheet.Part (removeUnusedFontFaces less).sheet (removeUnusedFontFaces more).sheet :=
  (part.dropAtRules
    (findsParts_isUnusedFontFace (flatMap_referring_subset part familiesOf))).withoutEmpty

/-- The pass over keyframes turns parts into parts. -/
theorem part_removeUnusedKeyframes {less more : Stylesheet} (part : Stylesheet.Part less more)
    : Stylesheet.Part (removeUnusedKeyframes less).sheet (removeUnusedKeyframes more).sheet :=
  (part.dropAtRules
    (findsParts_isUnusedKeyframes (flatMap_referring_subset part animationsOf))).withoutEmpty

--------------------------------------------------------------------------------
-- All passes
--------------------------------------------------------------------------------

/-- What is unfit stays unfit with further patterns and a lower limit. -/
theorem isUnfit_of_more {patterns others : List Pattern} (sub : patterns ⊆ others)
    {limit lower : Int} (below : lower ≤ limit) {declaration : Declaration}
    (unfit : isUnfit patterns limit declaration = true)
    : isUnfit others lower declaration = true := by
  simp only [isUnfit, isUnwanted, isOversized, holdsOversized, Bool.or_eq_true, List.any_eq_true,
    decide_eq_true_eq] at unfit ⊢
  rcases unfit with ⟨pattern, member, found⟩ | ⟨payload, member, large⟩
  · exact Or.inl ⟨pattern, sub member, found⟩
  · exact Or.inr ⟨payload, member, by omega⟩

/-- Further patterns and a lower limit leave a part of what is left without them, for any sheet. -/
theorem part_run_of_more {sources others : List String} {patterns unwanted : List Pattern}
    (compiled : compilePatterns sources = .ok patterns)
    (compiledMore : compilePatterns others = .ok unwanted) (sub : sources ⊆ others)
    {limit lower : Int} (below : lower ≤ limit) (sheet : Stylesheet)
    : Stylesheet.Part (run unwanted lower sheet).sheet (run patterns limit sheet).sheet := by
  have more : patterns ⊆ unwanted := by
    intro pattern member
    obtain ⟨source, listed, same⟩ := (mem_compilePatterns_iff compiled pattern).mp member
    exact (mem_compilePatterns_iff compiledMore pattern).mpr ⟨source, sub listed, same⟩
  have fit
      : Stylesheet.Part (withoutUnfit unwanted lower sheet)
          (withoutUnfit patterns limit sheet) :=
    (Stylesheet.part_dropDeclarations_of_imp (fun _ => isUnfit_of_more more below)
      sheet).withoutEmpty
  rw [run_sheet, run_sheet]
  exact part_removeUnusedKeyframes (part_removeUnusedFontFaces fit)

/-- A first pattern, which is found, and a limit that is too low for what the higher one allows. -/
theorem part_run_of_more_crowdedSheet
    : ∃ unwanted,
        compilePatterns [] = .ok []
        ∧ compilePatterns ["O+M"] = .ok unwanted
        ∧ Stylesheet.Part (run unwanted 1 crowdedSheet).sheet (run [] 10 crowdedSheet).sheet := by
  obtain ⟨unwanted, compiled⟩ : ∃ unwanted, compilePatterns ["O+M"] = .ok unwanted :=
    exists_compilePatterns_iff.mpr (by decide +kernel)
  exact ⟨unwanted, rfl, compiled,
    part_run_of_more rfl compiled (List.nil_subset _) (by decide) crowdedSheet⟩

end Tidy

end CriticalCss
