import CriticalCss.Proofs.Tidy.References

/-! The pass over font faces spares each one that declares a family which is referred to, wherever
it stands. Font faces are leaves of a sheet, and what is cleared away behind the pass has no leaf
that says anything.
-/

namespace CriticalCss

--------------------------------------------------------------------------------
-- Leaves
--------------------------------------------------------------------------------

mutual
/-- The rules in a rule that hold no rules, or the rule itself if it is one of them. -/
def Node.leaves : Node → List Node
  | .ruleBlock _ _ body => Stylesheet.leaves body
  | node => [node]

/-- The rules of a sheet that hold no rules, at any depth and in order. -/
def Stylesheet.leaves : List Node → List Node
  | [] => []
  | node :: rest => node.leaves ++ Stylesheet.leaves rest
end

section Wanted

variable {wanted : Node → Bool}

theorem Node.leaves_leaf {node : Node} (leaf : node.holdsRules = false) : node.leaves = [node] := by
  cases node with
  | ruleBlock => simp [Node.holdsRules] at leaf
  | _ => rfl

theorem Stylesheet.leaves_append (left right : List Node)
    : Stylesheet.leaves (left ++ right) = Stylesheet.leaves left ++ Stylesheet.leaves right := by
  induction left with
  | nil => rfl
  | cons node rest ih => rw [List.cons_append, leaves, leaves, ih, List.append_assoc]

/-- Cleaning takes no leaf that is not empty itself. -/
theorem Stylesheet.filter_leaves_withoutEmpty
    (filled : ∀ node, wanted node = true → node.withoutEmpty = some node) (sheet : List Node)
    : (Stylesheet.leaves (Stylesheet.withoutEmpty sheet)).filter wanted
      = (Stylesheet.leaves sheet).filter wanted := by
  induction sheet using Stylesheet.induction with
  | nil => rfl
  | block name prelude body rest inner later =>
    rw [withoutEmpty_cons, leaves_append, List.filter_append, later, leaves, List.filter_append,
      Node.leaves, ← inner, Node.withoutEmpty_ruleBlock, List.append_left_inj]
    split
    · rename_i empty
      rw [empty]
      rfl
    · exact congrArg _ (List.append_nil _)
  | leaf node rest leaf later =>
    rw [withoutEmpty_cons, leaves_append, List.filter_append, later, leaves, List.filter_append,
      Node.leaves_leaf leaf, List.append_left_inj]
    rcases Node.withoutEmpty_leaf leaf with gone | kept
    · have other : ¬wanted node = true := fun own => by simp [filled node own] at gone
      rw [gone, List.filter_cons_of_neg other]
      rfl
    · rw [kept, Option.toList_some, leaves, Node.leaves_leaf leaf]
      rfl

/-- A pass over at-rules that takes no block takes only leaves that satisfy its test. -/
theorem Stylesheet.filter_leaves_dropAtRules {test : Node → Bool}
    (sparesBlocks : ∀ name prelude body, test (.ruleBlock name prelude body) = false)
    (spares : ∀ node, wanted node = true → test node = false) (sheet : List Node)
    : (Stylesheet.leaves (Stylesheet.dropAtRules test sheet)).filter wanted
      = (Stylesheet.leaves sheet).filter wanted := by
  induction sheet using Stylesheet.induction with
  | nil => rfl
  | block name prelude body rest inner later =>
    rw [dropAtRules_cons, leaves_append, List.filter_append, later, leaves, List.filter_append,
      Node.leaves, Node.dropAtRules, if_neg (by simp [sparesBlocks]), List.append_left_inj]
    rw [Option.toList_some, leaves, Node.leaves, leaves, List.append_nil]
    split
    · rfl
    · exact inner
  | leaf node rest leaf later =>
    rw [dropAtRules_cons, leaves_append, List.filter_append, later, leaves, List.filter_append,
      Node.leaves_leaf leaf, Node.dropAtRules_leaf test leaf, List.append_left_inj]
    split
    · rename_i taken
      have other : ¬wanted node = true := fun own => by simp [spares node own] at taken
      rw [List.filter_cons_of_neg other]
      rfl
    · rw [Option.toList_some, leaves, Node.leaves_leaf leaf]
      rfl

end Wanted

namespace Tidy

--------------------------------------------------------------------------------
-- Font faces
--------------------------------------------------------------------------------

/-- Is the rule a font face that declares the family? -/
def declaresFamily (family : List Char) (node : Node) : Bool :=
  match fontFaceBody? node with
  | none => false
  | some body =>
    (body.filter (·.property = "font-family")).any (normalFamily ·.value.toList == family)

theorem withoutEmpty_of_declaresFamily {family : List Char} {node : Node}
    (declares : declaresFamily family node = true)
    : node.withoutEmpty = some node := by
  unfold declaresFamily at declares
  split at declares
  · cases declares
  · rename_i body found
    unfold fontFaceBody? at found
    split at found
    · cases found
      rw [Node.withoutEmpty_declarationBlock, if_neg]
      rintro rfl
      cases declares
    · cases found
      cases declares
    · cases found

theorem isUnusedFontFace_of_declaresFamily {family : List Char} {families : List (List Char)}
    (referred : family ∈ families) {node : Node} (declares : declaresFamily family node = true)
    : isUnusedFontFace families node = false := by
  unfold declaresFamily at declares
  unfold isUnusedFontFace
  cases found : fontFaceBody? node with
  | none => rfl
  | some body =>
    rw [found] at declares
    obtain ⟨declaration, member, same⟩ := List.any_eq_true.mp declares
    rw [Bool.not_eq_false', List.any_eq_true]
    refine ⟨declaration, member, ?_⟩
    rw [eq_of_beq same]
    exact List.contains_iff_mem.mpr referred

/-- The font faces that declare a family are all still there behind the pass over font faces if a
declaration outside of definitions refers to the family.
-/
theorem fontFaces_kept {sheet : Stylesheet} {declaration : Declaration}
    (survives : declaration ∈ referring sheet) {family : List Char}
    (referred : family ∈ familiesOf declaration)
    : (Stylesheet.leaves (removeUnusedFontFaces sheet).sheet).filter (declaresFamily family)
      = (Stylesheet.leaves sheet).filter (declaresFamily family) := by
  have listed : family ∈ (referring sheet).flatMap familiesOf :=
    List.mem_flatMap.mpr ⟨declaration, survives, referred⟩
  refine (Stylesheet.filter_leaves_withoutEmpty ?_ _).trans
    (Stylesheet.filter_leaves_dropAtRules ?_ ?_ sheet)
  · intro node declares
    exact withoutEmpty_of_declaresFamily declares
  · intro name prelude body
    rfl
  · intro node declares
    exact isUnusedFontFace_of_declaresFamily listed declares

end Tidy

end CriticalCss
