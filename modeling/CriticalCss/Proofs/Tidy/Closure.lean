import CriticalCss.Proofs.Tidy.References

/-! The definitions that tidying keeps are those that the tidied sheet itself refers to. Font faces
and keyframes are found wherever they stand outside keyframes; each pass turns the list of those
in a sheet into the list of those in the next, so the passes can be followed list by list.
-/

namespace CriticalCss

--------------------------------------------------------------------------------
-- What stands outside keyframes
--------------------------------------------------------------------------------

variable {α : Type}

mutual
/-- What picking gives for a rule and for the rules in it. The content of keyframes is not looked
at. -/
def Node.collect (pick : Node → Option α) : Node → List α
  | .ruleBlock name prelude body =>
    (pick (.ruleBlock name prelude body)).toList
      ++ if isKeyframes name then [] else Stylesheet.collect pick body
  | node => (pick node).toList

/-- What picking gives for the rules of a sheet, in order. -/
def Stylesheet.collect (pick : Node → Option α) : List Node → List α
  | [] => []
  | node :: rest => node.collect pick ++ Stylesheet.collect pick rest
end

/-- A picking that passes over the blocks that are gone into. -/
def PassesBlocks (pick : Node → Option α) : Prop :=
  ∀ name prelude body, isKeyframes name = false → pick (.ruleBlock name prelude body) = none

section Collect

variable {pick : Node → Option α}

theorem Node.collect_leaf (pick : Node → Option α) {node : Node} (leaf : node.holdsRules = false)
    : node.collect pick = (pick node).toList := by
  cases node with
  | ruleBlock => simp [Node.holdsRules] at leaf
  | _ => simp [Node.collect]

theorem Stylesheet.collect_append (pick : Node → Option α) (left right : List Node)
    : Stylesheet.collect pick (left ++ right)
      = Stylesheet.collect pick left ++ Stylesheet.collect pick right := by
  induction left with
  | nil => rfl
  | cons node rest ih => simp [Stylesheet.collect, ih]

/-- What is picked can be worked on afterwards. -/
theorem Stylesheet.collect_bind {β : Type} (next : α → Option β) (sheet : List Node)
    : Stylesheet.collect (fun node => (pick node).bind next) sheet
      = (Stylesheet.collect pick sheet).filterMap next := by
  have one (found : Option α) : (found.bind next).toList = found.toList.filterMap next := by
    cases found with
    | none => rfl
    | some item => cases h : next item <;> simp [h]
  induction sheet using Stylesheet.induction with
  | nil => rfl
  | block name prelude body rest inner later =>
    simp only [Stylesheet.collect, Node.collect, List.filterMap_append, one, later]
    split
    · rfl
    · rw [inner]
  | leaf node rest leaf later =>
    simp only [Stylesheet.collect, Node.collect_leaf _ leaf, List.filterMap_append, one, later]

/-- Picking from a cleaned tree is picking from cleaned rules.
Witness: a block that is cleaned away holds nothing to pick.
-/
theorem Stylesheet.collect_withoutEmpty (pick : Node → Option α) (sheet : List Node)
    : Stylesheet.collect pick (Stylesheet.withoutEmpty sheet)
      = Stylesheet.collect (fun node => node.withoutEmpty.bind pick) sheet := by
  induction sheet using Stylesheet.induction with
  | nil => rfl
  | block name prelude body rest inner later =>
    rw [Stylesheet.withoutEmpty_cons, Stylesheet.collect_append, later, Stylesheet.collect,
      Node.collect, Node.withoutEmpty_ruleBlock, List.append_left_inj]
    cases closed : isKeyframes name with
    | true => split <;> simp [Stylesheet.collect, Node.collect, closed]
    | false =>
      rw [← inner]
      split
      · rename_i empty
        simp [empty, Stylesheet.collect]
      · simp [Stylesheet.collect, Node.collect, closed]
  | leaf node rest leaf later =>
    rw [Stylesheet.withoutEmpty_cons, Stylesheet.collect_append, later, Stylesheet.collect,
      Node.collect_leaf _ leaf, List.append_left_inj]
    rcases Node.withoutEmpty_leaf leaf with gone | kept
    · simp [gone, Stylesheet.collect]
    · simp [kept, Stylesheet.collect, Node.collect_leaf _ leaf]

/-- Picking after a pass over at-rules is picking from what the pass does not take, if it takes no
block that is gone into. -/
theorem Stylesheet.collect_dropAtRules {test : Node → Bool}
    (spares : ∀ name prelude body,
      isKeyframes name = false → test (.ruleBlock name prelude body) = false)
    (passes : PassesBlocks pick) (sheet : List Node)
    : Stylesheet.collect pick (Stylesheet.dropAtRules test sheet)
      = Stylesheet.collect (fun node => if test node then none else pick node) sheet := by
  induction sheet using Stylesheet.induction with
  | nil => rfl
  | block name prelude body rest inner later =>
    rw [Stylesheet.dropAtRules_cons, Stylesheet.collect_append, later, Stylesheet.collect,
      Node.collect, Node.dropAtRules, List.append_left_inj]
    cases closed : isKeyframes name with
    | true => split <;> simp [Stylesheet.collect, Node.collect, closed]
    | false =>
      simp [spares name prelude body closed, Stylesheet.collect, Node.collect, closed,
        passes name prelude _ closed, inner]
  | leaf node rest leaf later =>
    rw [Stylesheet.dropAtRules_cons, Stylesheet.collect_append, later, Stylesheet.collect,
      Node.collect_leaf _ leaf, Node.dropAtRules_leaf test leaf, List.append_left_inj]
    split <;> simp [Stylesheet.collect, Node.collect_leaf _ leaf]

/-- Picking after a pass over declarations is picking from rules that have gone through it. -/
theorem Stylesheet.collect_dropDeclarations (pick : Node → Option α) (test : Declaration → Bool)
    (sheet : List Node)
    : Stylesheet.collect pick (Stylesheet.dropDeclarations test sheet)
      = Stylesheet.collect (fun node => pick (node.dropDeclarations test)) sheet := by
  induction sheet using Stylesheet.induction with
  | nil => rfl
  | block name prelude body rest inner later =>
    simp only [Stylesheet.dropDeclarations, Node.dropDeclarations, Stylesheet.collect,
      Node.collect, later]
    split
    · rfl
    · rw [inner]
  | leaf node rest leaf later =>
    have leafAfter : (node.dropDeclarations test).holdsRules = false := by
      cases node with
      | ruleBlock => simp [Node.holdsRules] at leaf
      | _ => rfl
    simp only [Stylesheet.dropDeclarations, Stylesheet.collect, Node.collect_leaf _ leaf,
      Node.collect_leaf _ leafAfter, later]

end Collect

namespace Tidy

--------------------------------------------------------------------------------
-- Definitions
--------------------------------------------------------------------------------

/-- The block of a font face. -/
structure FontFace where
  prelude : String
  body : List Declaration
  deriving DecidableEq, Repr

/-- The block of a keyframes rule. -/
structure Keyframes where
  name : String
  prelude : String
  body : List Node

/-- The rule as the block of a font face. -/
def fontFaceOf? : Node → Option FontFace
  | .declarationBlock name prelude body =>
    if name = "font-face" then some ⟨prelude, body⟩ else none
  | _ => none

/-- The rule as the block of a keyframes rule. -/
def keyframesOf? : Node → Option Keyframes
  | .ruleBlock name prelude body => if isKeyframes name then some ⟨name, prelude, body⟩ else none
  | _ => none

/-- The blocks of font faces outside keyframes, in order. -/
def fontFaces (sheet : Stylesheet) : List FontFace :=
  Stylesheet.collect fontFaceOf? sheet

/-- The blocks of keyframes outside other keyframes, in order. -/
def keyframesIn (sheet : Stylesheet) : List Keyframes :=
  Stylesheet.collect keyframesOf? sheet

/-- A font face without its unfit declarations, if one of its families that are left is among the
given ones. -/
def FontFace.tidied? (patterns : List Pattern) (limit : Int) (families : List (List Char))
    (face : FontFace)
    : Option FontFace :=
  let body := face.body.filter (!isUnfit patterns limit ·)
  if ∃ declaration ∈ body,
      declaration.property = "font-family" ∧ normalFamily declaration.value.toList ∈ families
  then some { face with body }
  else none

/-- Keyframes without unfit declarations, if their name is among the given ones and not all of
their content goes with the declarations. -/
def Keyframes.tidied? (patterns : List Pattern) (limit : Int) (names : List (List Char))
    (frames : Keyframes)
    : Option Keyframes :=
  let body := withoutUnfit patterns limit frames.body
  if unquote frames.prelude.toList ∈ names ∧ body.isEmpty = false
  then some { frames with body }
  else none

theorem fontFaceOf?_passesBlocks : PassesBlocks fontFaceOf? :=
  fun _ _ _ _ => rfl

theorem keyframesOf?_passesBlocks : PassesBlocks keyframesOf? := by
  intro name prelude body opened
  simp [keyframesOf?, opened]

theorem isUnusedFontFace_ruleBlock (families : List (List Char)) (name prelude : String)
    (body : List Node)
    : isUnusedFontFace families (.ruleBlock name prelude body) = false :=
  rfl

theorem isUnusedKeyframes_ruleBlock (names : List (List Char)) (name prelude : String)
    (body : List Node)
    : isUnusedKeyframes names (.ruleBlock name prelude body)
      = (isKeyframes name && !names.contains (unquote prelude.toList)) :=
  rfl

--------------------------------------------------------------------------------
-- Font faces, pass by pass
--------------------------------------------------------------------------------

/-- Cleaning takes the font faces without declarations. -/
theorem fontFaces_withoutEmpty (sheet : Stylesheet)
    : fontFaces (Stylesheet.withoutEmpty sheet)
      = (fontFaces sheet).filterMap fun face => if face.body = [] then none else some face := by
  rw [fontFaces, Stylesheet.collect_withoutEmpty, fontFaces, ← Stylesheet.collect_bind]
  refine congrArg (Stylesheet.collect · sheet) (funext fun node => ?_)
  cases node with
  | declarationBlock name prelude body =>
    rw [Node.withoutEmpty_declarationBlock]
    by_cases empty : body = [] <;> by_cases face : name = "font-face" <;>
      simp [empty, face, fontFaceOf?]
  | style selectors declarations =>
    rw [Node.withoutEmpty_style]
    split <;> rfl
  | ruleBlock name prelude body =>
    rw [Node.withoutEmpty_ruleBlock]
    split <;> rfl
  | _ => rfl

/-- A pass over declarations goes through the bodies of font faces. -/
theorem fontFaces_dropDeclarations (test : Declaration → Bool) (sheet : Stylesheet)
    : fontFaces (Stylesheet.dropDeclarations test sheet)
      = (fontFaces sheet).filterMap fun face =>
          some { face with body := face.body.filter (!test ·) } := by
  rw [fontFaces, Stylesheet.collect_dropDeclarations, fontFaces, ← Stylesheet.collect_bind]
  refine congrArg (Stylesheet.collect · sheet) (funext fun node => ?_)
  cases node with
  | declarationBlock name prelude body =>
    by_cases face : name = "font-face" <;> simp [face, fontFaceOf?, Node.dropDeclarations]
  | _ => rfl

/-- A font face is used exactly if one of its families is among the given ones. -/
theorem isUnusedFontFace_fontFace (families : List (List Char)) (prelude : String)
    (body : List Declaration)
    : isUnusedFontFace families (.declarationBlock "font-face" prelude body) = false
      ↔ ∃ declaration ∈ body,
          declaration.property = "font-family"
          ∧ normalFamily declaration.value.toList ∈ families := by
  simp [isUnusedFontFace, fontFaceBody?]

/-- A pass over font faces takes those that are unused. -/
theorem fontFaces_dropAtRules_unused (families : List (List Char)) (sheet : Stylesheet)
    : fontFaces (Stylesheet.dropAtRules (isUnusedFontFace families) sheet)
      = (fontFaces sheet).filterMap fun face =>
          if ∃ declaration ∈ face.body,
              declaration.property = "font-family"
              ∧ normalFamily declaration.value.toList ∈ families
          then some face
          else none := by
  rw [fontFaces, Stylesheet.collect_dropAtRules (fun _ _ _ _ => rfl) fontFaceOf?_passesBlocks,
    fontFaces, ← Stylesheet.collect_bind]
  refine congrArg (Stylesheet.collect · sheet) (funext fun node => ?_)
  cases node with
  | declarationBlock name prelude body =>
    by_cases face : name = "font-face"
    · subst face
      have iff := isUnusedFontFace_fontFace families prelude body
      simp only [fontFaceOf?, if_true, Option.bind_some]
      cases used : isUnusedFontFace families (.declarationBlock "font-face" prelude body) with
      | true =>
        rw [used] at iff
        rw [if_pos rfl, if_neg fun found => Bool.noConfusion (iff.mpr found)]
      | false =>
        rw [if_neg Bool.false_ne_true, if_pos (iff.mp used)]
    · simp [fontFaceOf?, face]
  | _ => simp [fontFaceOf?]

/-- A pass over keyframes takes no font face. -/
theorem fontFaces_dropAtRules_keyframes (names : List (List Char)) (sheet : Stylesheet)
    : fontFaces (Stylesheet.dropAtRules (isUnusedKeyframes names) sheet) = fontFaces sheet := by
  have spares (name prelude : String) (body : List Node) (opened : isKeyframes name = false)
      : isUnusedKeyframes names (.ruleBlock name prelude body) = false := by
    simp [isUnusedKeyframes_ruleBlock, opened]
  rw [fontFaces, Stylesheet.collect_dropAtRules spares fontFaceOf?_passesBlocks, fontFaces]
  refine congrArg (Stylesheet.collect · sheet) (funext fun node => ?_)
  cases node with
  | declarationBlock name prelude body =>
    by_cases face : name = "font-face"
    · have other : isKeyframes "font-face" = false := by decide
      simp [face, isUnusedKeyframes, Node.atRule?, other]
    · simp [fontFaceOf?, face]
  | _ => simp [fontFaceOf?]

--------------------------------------------------------------------------------
-- Keyframes, pass by pass
--------------------------------------------------------------------------------

/-- Cleaning goes through the bodies of keyframes and takes those that have nothing in them. -/
theorem keyframesIn_withoutEmpty (sheet : Stylesheet)
    : keyframesIn (Stylesheet.withoutEmpty sheet)
      = (keyframesIn sheet).filterMap fun frames =>
          if Stylesheet.withoutEmpty frames.body = [] then none
          else some { frames with body := Stylesheet.withoutEmpty frames.body } := by
  rw [keyframesIn, Stylesheet.collect_withoutEmpty, keyframesIn, ← Stylesheet.collect_bind]
  refine congrArg (Stylesheet.collect · sheet) (funext fun node => ?_)
  cases node with
  | ruleBlock name prelude body =>
    rw [Node.withoutEmpty_ruleBlock]
    by_cases empty : Stylesheet.withoutEmpty body = [] <;>
      by_cases frames : isKeyframes name = true <;> simp [empty, frames, keyframesOf?]
  | style selectors declarations =>
    rw [Node.withoutEmpty_style]
    split <;> rfl
  | declarationBlock name prelude body =>
    rw [Node.withoutEmpty_declarationBlock]
    split <;> rfl
  | _ => rfl

/-- A pass over declarations goes through the bodies of keyframes. -/
theorem keyframesIn_dropDeclarations (test : Declaration → Bool) (sheet : Stylesheet)
    : keyframesIn (Stylesheet.dropDeclarations test sheet)
      = (keyframesIn sheet).filterMap fun frames =>
          some { frames with body := Stylesheet.dropDeclarations test frames.body } := by
  rw [keyframesIn, Stylesheet.collect_dropDeclarations, keyframesIn,
    ← Stylesheet.collect_bind]
  refine congrArg (Stylesheet.collect · sheet) (funext fun node => ?_)
  cases node with
  | ruleBlock name prelude body =>
    by_cases frames : isKeyframes name = true <;>
      simp [frames, keyframesOf?, Node.dropDeclarations]
  | _ => rfl

/-- A pass over font faces takes no keyframes. -/
theorem keyframesIn_dropAtRules_fontFaces (families : List (List Char)) (sheet : Stylesheet)
    : keyframesIn (Stylesheet.dropAtRules (isUnusedFontFace families) sheet)
      = keyframesIn sheet := by
  rw [keyframesIn, Stylesheet.collect_dropAtRules (fun _ _ _ _ => rfl) keyframesOf?_passesBlocks,
    keyframesIn]
  refine congrArg (Stylesheet.collect · sheet) (funext fun node => ?_)
  cases node with
  | ruleBlock name prelude body => simp [isUnusedFontFace_ruleBlock]
  | _ => simp [keyframesOf?]

/-- A pass over keyframes takes those whose name is not referred to. -/
theorem keyframesIn_dropAtRules_unused (names : List (List Char)) (sheet : Stylesheet)
    : keyframesIn (Stylesheet.dropAtRules (isUnusedKeyframes names) sheet)
      = (keyframesIn sheet).filterMap fun frames =>
          if unquote frames.prelude.toList ∈ names then some frames else none := by
  have spares (name prelude : String) (body : List Node) (opened : isKeyframes name = false)
      : isUnusedKeyframes names (.ruleBlock name prelude body) = false := by
    simp [isUnusedKeyframes_ruleBlock, opened]
  rw [keyframesIn, Stylesheet.collect_dropAtRules spares keyframesOf?_passesBlocks, keyframesIn,
    ← Stylesheet.collect_bind]
  refine congrArg (Stylesheet.collect · sheet) (funext fun node => ?_)
  cases node with
  | ruleBlock name prelude body =>
    by_cases frames : isKeyframes name = true <;>
      by_cases used : unquote prelude.toList ∈ names <;>
      simp [keyframesOf?, isUnusedKeyframes_ruleBlock, frames, used]
  | _ => simp [keyframesOf?]

--------------------------------------------------------------------------------
-- All passes
--------------------------------------------------------------------------------

/-- The font faces of a tidied sheet are those of the sheet before that one of the families in the
references of the tidied sheet keeps.
Witness: the lists after each pass, and that all passes go by the references of the result.
-/
theorem fontFaces_run (patterns : List Pattern) (limit : Int) (sheet : Stylesheet)
    : fontFaces (run patterns limit sheet).sheet
      = (fontFaces sheet).filterMap
          (FontFace.tidied? patterns limit
            ((referring (run patterns limit sheet).sheet).flatMap familiesOf)) := by
  rw [referring_run, run_sheet, removeUnusedKeyframes, fontFaces_withoutEmpty,
    fontFaces_dropAtRules_keyframes, removeUnusedFontFaces, fontFaces_withoutEmpty,
    fontFaces_dropAtRules_unused]
  generalize (referring (withoutUnfit patterns limit sheet)).flatMap familiesOf = families
  rw [withoutUnfit, fontFaces_withoutEmpty, fontFaces_dropDeclarations]
  simp only [List.filterMap_filterMap]
  refine congrArg (List.filterMap · _) (funext fun face => ?_)
  simp only [FontFace.tidied?, Option.bind_some]
  generalize face.body.filter (!isUnfit patterns limit ·) = fit
  by_cases used : ∃ declaration ∈ fit,
      declaration.property = "font-family" ∧ normalFamily declaration.value.toList ∈ families
  · have filled : fit ≠ [] := by
      obtain ⟨declaration, member, _⟩ := used
      exact List.ne_nil_of_mem member
    simp only [filled, if_false, Option.bind_some, if_pos used]
  · by_cases empty : fit = []
    · simp [empty]
    · simp only [empty, if_false, Option.bind_some, if_neg used, Option.bind_none]

/-- The keyframes of a tidied sheet are those of the sheet before whose name is in the references
of the tidied sheet and whose content the passes over declarations do not use up. -/
theorem keyframesIn_run (patterns : List Pattern) (limit : Int) (sheet : Stylesheet)
    : keyframesIn (run patterns limit sheet).sheet
      = (keyframesIn sheet).filterMap
          (Keyframes.tidied? patterns limit
            ((referring (run patterns limit sheet).sheet).flatMap animationsOf)) := by
  rw [referring_run, run_sheet, removeUnusedKeyframes, referring_fontPass,
    keyframesIn_withoutEmpty, keyframesIn_dropAtRules_unused, removeUnusedFontFaces,
    keyframesIn_withoutEmpty, keyframesIn_dropAtRules_fontFaces]
  generalize (referring (withoutUnfit patterns limit sheet)).flatMap animationsOf = names
  rw [withoutUnfit, keyframesIn_withoutEmpty, keyframesIn_dropDeclarations]
  simp only [List.filterMap_filterMap]
  refine congrArg (List.filterMap · _) (funext fun frames => ?_)
  simp only [Keyframes.tidied?, Option.bind_some, withoutUnfit]
  have again := Stylesheet.withoutEmpty_withoutEmpty
    (Stylesheet.dropDeclarations (isUnfit patterns limit) frames.body)
  by_cases empty
      : Stylesheet.withoutEmpty
          (Stylesheet.dropDeclarations (isUnfit patterns limit) frames.body) = []
  · simp [empty]
  · by_cases used : unquote frames.prelude.toList ∈ names
    · simp [empty, used, again]
    · simp [empty, used, again]

/-- The definitions of a tidied sheet are closed under its own references: of the font faces and
keyframes outside keyframes, each with what is fit in it, exactly those stay that the declarations
of the result refer to, in order.
-/
theorem definitions_run (patterns : List Pattern) (limit : Int) (sheet : Stylesheet)
    : let result := (run patterns limit sheet).sheet
      fontFaces result
        = (fontFaces sheet).filterMap
            (FontFace.tidied? patterns limit ((referring result).flatMap familiesOf))
      ∧ keyframesIn result
        = (keyframesIn sheet).filterMap
            (Keyframes.tidied? patterns limit ((referring result).flatMap animationsOf)) :=
  ⟨fontFaces_run patterns limit sheet, keyframesIn_run patterns limit sheet⟩

end Tidy

end CriticalCss
