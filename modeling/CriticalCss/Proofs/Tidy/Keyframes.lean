import CriticalCss.Proofs.Tidy.Animations
import CriticalCss.Proofs.Tidy.References

/-! The pass over keyframes spares those of each name that is found in a list of animations. What it
leaves of them is what cleaning leaves. A name that is not found is not spared, whatever the list
says: words that would be keywords in a shorthand are passed over in a list of names as well.
-/

namespace CriticalCss

--------------------------------------------------------------------------------
-- Keyframes of a name
--------------------------------------------------------------------------------

mutual
/-- The keyframes of a name in a rule. Keyframes in keyframes are none. -/
def Node.keyframes (name : List Char) : Node → List Node
  | .ruleBlock rule prelude body =>
    if isKeyframes rule then
      if Tidy.unquote prelude.toList = name then [.ruleBlock rule prelude body] else []
    else Stylesheet.keyframes name body
  | _ => []

/-- The keyframes of a name in a sheet, at any depth and in order. -/
def Stylesheet.keyframes (name : List Char) : List Node → List Node
  | [] => []
  | node :: rest => node.keyframes name ++ Stylesheet.keyframes name rest
end

section Keyframes

variable {name : List Char}

theorem Node.keyframes_leaf {node : Node} (leaf : node.holdsRules = false)
    : node.keyframes name = [] := by
  cases node with
  | ruleBlock => simp [Node.holdsRules] at leaf
  | _ => rfl

theorem Stylesheet.keyframes_append (left right : List Node)
    : Stylesheet.keyframes name (left ++ right)
      = Stylesheet.keyframes name left ++ Stylesheet.keyframes name right := by
  induction left with
  | nil => rfl
  | cons node rest ih => rw [List.cons_append, keyframes, keyframes, ih, List.append_assoc]

/-- A block that holds something filled is left by cleaning. -/
theorem Node.withoutEmpty_of_mem {rule prelude : String} {body : List Node} {node : Node}
    (member : node ∈ body) (filled : node.withoutEmpty ≠ none)
    : (Node.ruleBlock rule prelude body).withoutEmpty
      = some (.ruleBlock rule prelude (Stylesheet.withoutEmpty body)) := by
  rw [Node.withoutEmpty_ruleBlock, if_neg]
  induction member with
  | head rest =>
    obtain ⟨kept, same⟩ := Option.ne_none_iff_exists'.mp filled
    simp [Stylesheet.withoutEmpty_cons, same]
  | tail other _ ih =>
    rw [Stylesheet.withoutEmpty_cons]
    exact fun empty => ih (List.append_eq_nil_iff.mp empty).2

/-- Cleaning a sheet cleans its keyframes one by one. -/
theorem Stylesheet.keyframes_withoutEmpty (sheet : List Node)
    : Stylesheet.keyframes name (Stylesheet.withoutEmpty sheet)
      = (Stylesheet.keyframes name sheet).filterMap Node.withoutEmpty := by
  induction sheet using Stylesheet.induction with
  | nil => rfl
  | block rule prelude body rest inner later =>
    rw [withoutEmpty_cons, keyframes_append, later, keyframes, List.filterMap_append,
      List.append_left_inj]
    rw [Node.withoutEmpty_ruleBlock, Node.keyframes]
    by_cases frames : isKeyframes rule
    · by_cases own : Tidy.unquote prelude.toList = name
      · by_cases empty : Stylesheet.withoutEmpty body = []
        · simp [frames, own, empty, Node.withoutEmpty_ruleBlock, keyframes]
        · simp [frames, own, empty, Node.withoutEmpty_ruleBlock, keyframes, Node.keyframes]
      · by_cases empty : Stylesheet.withoutEmpty body = []
        · simp [frames, own, empty, keyframes]
        · simp [frames, own, empty, keyframes, Node.keyframes]
    · by_cases empty : Stylesheet.withoutEmpty body = []
      · rw [empty] at inner
        simp [frames, empty, ← inner, keyframes]
      · simp [frames, empty, ← inner, keyframes, Node.keyframes]
  | leaf node rest leaf later =>
    rw [withoutEmpty_cons, keyframes_append, later, keyframes, Node.keyframes_leaf leaf]
    rcases Node.withoutEmpty_leaf leaf with gone | kept
    · rw [gone]
      rfl
    · rw [kept, Option.toList_some, keyframes, Node.keyframes_leaf leaf]
      rfl

/-- A pass that takes no other blocks and none of these keyframes leaves all of them as they are. -/
theorem Stylesheet.keyframes_dropAtRules {test : Node → Bool}
    (sparesBlocks
      : ∀ rule prelude body, isKeyframes rule = false
          → test (.ruleBlock rule prelude body) = false)
    (spares
      : ∀ rule prelude body, Tidy.unquote prelude.toList = name
          → test (.ruleBlock rule prelude body) = false)
    (sheet : List Node)
    : Stylesheet.keyframes name (Stylesheet.dropAtRules test sheet)
      = Stylesheet.keyframes name sheet := by
  induction sheet using Stylesheet.induction with
  | nil => rfl
  | block rule prelude body rest inner later =>
    rw [dropAtRules_cons, keyframes_append, later, keyframes, List.append_left_inj]
    rw [Node.dropAtRules]
    by_cases frames : isKeyframes rule
    · by_cases own : Tidy.unquote prelude.toList = name
      · simp [frames, own, spares, keyframes]
      · cases test (.ruleBlock rule prelude body) <;> simp [frames, own, keyframes, Node.keyframes]
    · simp [frames, sparesBlocks, inner, keyframes, Node.keyframes]
  | leaf node rest leaf later =>
    rw [dropAtRules_cons, keyframes_append, later, keyframes, Node.keyframes_leaf leaf,
      Node.dropAtRules_leaf test leaf]
    split
    · rfl
    · rw [Option.toList_some, keyframes, Node.keyframes_leaf leaf]
      rfl

end Keyframes

namespace Tidy

/-- The keyframes of a name that a declaration outside of definitions refers to are only cleaned. -/
theorem keyframes_kept {sheet : Stylesheet} {declaration : Declaration}
    (survives : declaration ∈ referring sheet) {name : List Char}
    (referred : name ∈ animationsOf declaration)
    : Stylesheet.keyframes name (removeUnusedKeyframes sheet).sheet
      = (Stylesheet.keyframes name sheet).filterMap Node.withoutEmpty := by
  have listed : name ∈ (referring sheet).flatMap animationsOf :=
    List.mem_flatMap.mpr ⟨declaration, survives, referred⟩
  rw [removeUnusedKeyframes, Stylesheet.keyframes_withoutEmpty, Stylesheet.keyframes_dropAtRules]
  · intro rule prelude body other
    simp [isUnusedKeyframes, Node.atRule?, other]
  · intro rule prelude body same
    simp [isUnusedKeyframes, Node.atRule?, same, listed]

namespace Written

open Media.Written (noGap space)

--------------------------------------------------------------------------------
-- Lists of names
--------------------------------------------------------------------------------

/-- What stands between the dashes of a vendor prefix. -/
structure Vendor where
  letters : List Char
  some : letters ≠ []
  small : ∀ c ∈ letters, 'a' ≤ c ∧ c ≤ 'z'

/-- The property of a list of names, with a vendor prefix or without. -/
def nameProperty : Option Vendor → List Char
  | none => "animation-name".toList
  | some vendor => '-' :: (vendor.letters ++ '-' :: "animation-name".toList)

theorem isAnimationProperty_of_vendor {property : String} {name : List Char} (vendor : Vendor)
    (known
      : ["animation", "animation-name", "animation\n", "animation-name\n"].contains
          (String.ofList name) = true)
    (named : property.toList = '-' :: (vendor.letters ++ '-' :: name))
    : isAnimationProperty property = true := by
  have small : ∀ c ∈ vendor.letters, (decide ('a' ≤ c) && decide (c ≤ 'z')) = true := by
    simpa using vendor.small
  have stop : ∀ c ∈ ('-' :: name).head?, (decide ('a' ≤ c) && decide (c ≤ 'z')) = false := by
    rintro _ ⟨⟩
    decide
  obtain ⟨first, others, letters⟩ := List.exists_cons_of_ne_nil vendor.some
  simp only [isAnimationProperty, named, Text.takeWhile_append_of_head small stop,
    Text.dropWhile_append_of_head small stop]
  simp only [letters, known, Bool.or_true]

theorem isAnimationProperty_of_nameProperty {property : String} {vendor : Option Vendor}
    (named : property.toList = nameProperty vendor)
    : isAnimationProperty property = true := by
  cases vendor with
  | none =>
    have same : property = "animation-name" := String.toList_inj.mp named
    simp [isAnimationProperty, same]
  | some vendor => exact isAnimationProperty_of_vendor vendor (by simp) named

/-- A list of names is read item by item if each item but the last closes the brackets in it. -/
theorem animationNames_animationText {items : List AnimationItem}
    (closed : ∀ item ∈ items.dropLast, item.text.foldl Text.depthAfter 0 = 0)
    : animationNames (animationText items)
      = items.flatMap fun item => animationNames item.text := by
  cases items with
  | nil => simp [animationText, animationNames, Text.splitCommas, Text.splitCommasFrom, itemWords]
  | cons first others =>
    have closes : ∀ piece ∈ ((first :: others).map (·.text)).dropLast,
        piece.foldl Text.depthAfter 0 = 0 := by
      simpa only [← List.map_dropLast, List.forall_mem_map] using closed
    have cut := Text.splitCommas_intercalate_flatMap (by simp) closes
    rw [animationText, animationNames, cut]
    simp only [animationNames, List.flatMap_map, List.flatMap_assoc, List.map_flatMap,
      List.filter_flatMap]

/-- In a list whose items close their brackets, the last one aside, a name is found by its own item
exactly if it is readable. While a declaration with such a list stands outside of definitions, with
a vendor prefix or without, all keyframes of each readable name in it stay, in quotes or without,
and lose only what is empty in them. With one rule that is not empty a block of them stays.
-/
theorem keepsKeyframes_items {items : List AnimationItem}
    (closed : ∀ item ∈ items.dropLast, item.text.foldl Text.depthAfter 0 = 0)
    : (animationNames (animationText items) = items.flatMap (animationNames ·.text)
        ∧ ∀ item ∈ items, item.name.compared ∈ animationNames item.text ↔ item.name.IsReadable)
      ∧ ∀ (sheet : Stylesheet) (declaration : Declaration) (vendor : Option Vendor),
          declaration ∈ referring sheet
          → declaration.property.toList = nameProperty vendor
          → declaration.value.toList = animationText items
          → ∀ item ∈ items, item.name.IsReadable
          → Stylesheet.keyframes item.name.compared (removeUnusedKeyframes sheet).sheet
                = (Stylesheet.keyframes item.name.compared sheet).filterMap Node.withoutEmpty
              ∧ ∀ rule prelude body,
                  .ruleBlock rule prelude body ∈ Stylesheet.keyframes item.name.compared sheet
                  → (∃ node ∈ body, node.withoutEmpty ≠ none)
                  → .ruleBlock rule prelude (Stylesheet.withoutEmpty body)
                      ∈ Stylesheet.keyframes item.name.compared
                          (removeUnusedKeyframes sheet).sheet := by
  have read := animationNames_animationText closed
  refine ⟨⟨read, fun item _ => item.compared_mem_iff⟩, ?_⟩
  intro sheet declaration vendor survives property value item member readable
  have refers : item.name.compared ∈ animationsOf declaration := by
    rw [animationsOf, if_pos (isAnimationProperty_of_nameProperty property), value, read]
    exact List.mem_flatMap.mpr ⟨item, member, item.compared_mem_iff.mpr readable⟩
  have kept := keyframes_kept survives refers
  refine ⟨kept, fun rule prelude body block ⟨node, inBody, filled⟩ => ?_⟩
  rw [kept]
  exact List.mem_filterMap.mpr ⟨_, block, Node.withoutEmpty_of_mem inBody filled⟩

def fadeIn : AnimationItem :=
  ⟨noGap, .named (.plain "fade-in".toList (by decide) (by decide)), noGap⟩

/-- Commas in brackets do not cut. -/
def slide : AnimationItem :=
  ⟨space.toGap,
    .quoted .double
      (QuotedLetter.plains .double "slide (x, y)".toList
        (List.forall_iff_forall_mem.mp (by decide))),
    noGap⟩

def webkit : Vendor :=
  ⟨"webkit".toList, by decide, List.forall_iff_forall_mem.mp (by decide)⟩

def slidingSheet : Stylesheet :=
  [.ruleBlock "media" "print"
      [.ruleBlock "-webkit-keyframes" "'slide (x, y)'" [.style ["from"] [.set "top" "0" false]]],
    .style ["p"] [.set "-webkit-animation-name" "fade-in, \"slide (x, y)\"" false]]

theorem keepsKeyframes_items_sliding
    : (∀ item ∈ [fadeIn, slide].dropLast, item.text.foldl Text.depthAfter 0 = 0)
      ∧ slide.name.IsReadable
      ∧ (Stylesheet.keyframes slide.name.compared (removeUnusedKeyframes slidingSheet).sheet).length
        = 1 := by
  have closed : ∀ item ∈ [fadeIn, slide].dropLast, item.text.foldl Text.depthAfter 0 = 0 := by
    decide
  have readable : slide.name.IsReadable := ⟨by decide, by decide, by decide⟩
  refine ⟨closed, readable, ?_⟩
  have kept := (keepsKeyframes_items closed).2 slidingSheet
    (.set "-webkit-animation-name" "fade-in, \"slide (x, y)\"" false) (some webkit)
    (by decide +kernel) (by decide) (by decide) slide (by simp) readable
  refine (congrArg List.length kept.1).trans ?_
  decide +kernel

def linear : AnimationItem :=
  ⟨noGap, .named (.plain "linear".toList (by decide) (by decide)), noGap⟩

def linearSheet : Stylesheet :=
  [.ruleBlock "keyframes" "linear" [.style ["from"] [.set "top" "0" false]],
    .style ["p"] [.set "animation-name" "linear" false]]

/-- A name that is a timing function in a shorthand is not found in a list of names, and its
keyframes are taken while the list stays.
-/
theorem not_keepsKeyframes_linear
    : animationText [linear] = "linear".toList
      ∧ linear.name.compared ∉ animationNames (animationText [linear])
      ∧ (referring (removeUnusedKeyframes linearSheet).sheet).map (·.value) = ["linear"]
      ∧ ((Stylesheet.keyframes linear.name.compared linearSheet).filterMap Node.withoutEmpty).length
        = 1
      ∧ (Stylesheet.keyframes linear.name.compared (removeUnusedKeyframes linearSheet).sheet).length
        = 0 := by
  refine ⟨?_, ?_, ?_, ?_, ?_⟩
  · decide
  · decide +kernel
  · decide +kernel
  · decide +kernel
  · decide +kernel

end Written

end Tidy

end CriticalCss
