import CriticalCss.Proofs.Tidy.References

/-! Tidying is done after one run. What a run leaves has no declaration to drop, is clean, and holds
no definition that its own references would not keep.
-/

namespace CriticalCss.Tidy

/-- No declaration of a tidied sheet is unwanted or oversized. -/
theorem isUnfit_of_mem_run {patterns : List Pattern} {limit : Int} {sheet : Stylesheet}
    {declaration : Declaration}
    (member : declaration ∈ Stylesheet.allDeclarations (run patterns limit sheet).sheet)
    : isUnfit patterns limit declaration = false := by
  have skipNone (test : Node → Bool) (tree : List Node)
      : (Stylesheet.allDeclarations (Stylesheet.dropAtRules test tree)).Sublist
          (Stylesheet.allDeclarations tree) :=
    Stylesheet.declarations_dropAtRules_sublist _ test tree
  have cleaned (tree : List Node)
      : (Stylesheet.allDeclarations (Stylesheet.withoutEmpty tree)).Sublist
          (Stylesheet.allDeclarations tree) :=
    Stylesheet.declarations_withoutEmpty_sublist _ tree
  rw [run_sheet] at member
  have inFontPass := ((cleaned _).trans (skipNone _ _)).mem member
  have inFit := ((cleaned _).trans (skipNone _ _)).mem inFontPass
  have kept := (cleaned _).mem inFit
  rw [Stylesheet.allDeclarations, Stylesheet.declarations_dropDeclarations] at kept
  simpa using (List.mem_filter.mp kept).2

/-- A tidied sheet holds no font face that its own references leave unused. -/
theorem lacks_unusedFontFaces_run (patterns : List Pattern) (limit : Int) (sheet : Stylesheet)
    : Stylesheet.Lacks
        (isUnusedFontFace ((referring (run patterns limit sheet).sheet).flatMap familiesOf))
        (run patterns limit sheet).sheet := by
  rw [referring_run, run_sheet]
  have heads := isUnusedFontFace_ignoresBodies
    ((referring (withoutUnfit patterns limit sheet)).flatMap familiesOf)
  have afterPass := (Stylesheet.lacks_dropAtRules heads
    (withoutUnfit patterns limit sheet)).withoutEmpty heads
  exact (afterPass.dropAtRules heads _).withoutEmpty heads

/-- A tidied sheet holds no keyframes that its own references leave unused. -/
theorem lacks_unusedKeyframes_run (patterns : List Pattern) (limit : Int) (sheet : Stylesheet)
    : Stylesheet.Lacks
        (isUnusedKeyframes ((referring (run patterns limit sheet).sheet).flatMap animationsOf))
        (run patterns limit sheet).sheet := by
  rw [referring_run, run_sheet]
  have heads := isUnusedKeyframes_ignoresBodies
    ((referring (withoutUnfit patterns limit sheet)).flatMap animationsOf)
  rw [removeUnusedKeyframes, referring_fontPass]
  exact (Stylesheet.lacks_dropAtRules heads _).withoutEmpty heads

/-- A further run with the same patterns and the same limit leaves a tidied sheet as it is.
Witness: none of the passes finds anything, and each of them cleans a clean tree.
-/
theorem run_run (patterns : List Pattern) (limit : Int) (sheet : Stylesheet)
    : (run patterns limit (run patterns limit sheet).sheet).sheet
      = (run patterns limit sheet).sheet := by
  have clean : Stylesheet.withoutEmpty (run patterns limit sheet).sheet
      = (run patterns limit sheet).sheet := by
    rw [run_sheet]
    exact Stylesheet.withoutEmpty_withoutEmpty _
  have fit : withoutUnfit patterns limit (run patterns limit sheet).sheet
      = (run patterns limit sheet).sheet := by
    rw [withoutUnfit, Stylesheet.dropDeclarations_eq_self _ fun _ => isUnfit_of_mem_run, clean]
  have fonts : (removeUnusedFontFaces (run patterns limit sheet).sheet).sheet
      = (run patterns limit sheet).sheet := by
    rw [removeUnusedFontFaces, (lacks_unusedFontFaces_run patterns limit sheet).dropAtRules_eq_self]
    exact clean
  have frames : (removeUnusedKeyframes (run patterns limit sheet).sheet).sheet
      = (run patterns limit sheet).sheet := by
    rw [removeUnusedKeyframes,
      (lacks_unusedKeyframes_run patterns limit sheet).dropAtRules_eq_self]
    exact clean
  rw [run_sheet patterns limit (run patterns limit sheet).sheet, fit, fonts, frames]

end CriticalCss.Tidy
