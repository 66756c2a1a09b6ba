import CriticalCss.Proofs.Stylesheet.Cleanup
import CriticalCss.Tidy

/-! What the two kinds of tidying passes do to a tree. Passes over declarations can be put together
to one; passes over at-rules leave none behind that they look for, and later passes bring none back.
-/

namespace CriticalCss

--------------------------------------------------------------------------------
-- Dropping declarations
--------------------------------------------------------------------------------

section Declarations

variable (test : Declaration → Bool)

/-- What is left of the declarations are those that fail the test, in order. -/
theorem Stylesheet.declarations_dropDeclarations (skip : String → Bool) (sheet : List Node)
    : Stylesheet.declarations skip (Stylesheet.dropDeclarations test sheet)
      = (Stylesheet.declarations skip sheet).filter (!test ·) := by
  induction sheet using Stylesheet.induction with
  | nil => rfl
  | block name prelude body rest inner later =>
    simp only [Stylesheet.dropDeclarations, Node.dropDeclarations, Stylesheet.declarations,
      Node.declarations, List.filter_append, later]
    split
    · rfl
    · rw [inner]
  | leaf node rest leaf later =>
    have first
        : (node.dropDeclarations test).declarations skip
          = (node.declarations skip).filter (!test ·) := by
      cases node with
      | ruleBlock => simp [Node.holdsRules] at leaf
      | declarationBlock name prelude body =>
        simp only [Node.dropDeclarations, Node.declarations]
        split
        · rfl
        · rfl
      | _ => rfl
    simp only [Stylesheet.dropDeclarations, Stylesheet.declarations, List.filter_append, first,
      later]

/-- A tree without declarations to drop stays as it is. -/
theorem Stylesheet.dropDeclarations_eq_self {sheet : List Node}
    (clear : ∀ declaration ∈ Stylesheet.allDeclarations sheet, test declaration = false)
    : Stylesheet.dropDeclarations test sheet = sheet := by
  have keeps {declarations : List Declaration}
      (clear : ∀ declaration ∈ declarations, test declaration = false)
      : declarations.filter (!test ·) = declarations := by
    apply List.filter_eq_self.mpr
    intro declaration member
    simp [clear declaration member]
  induction sheet using Stylesheet.induction with
  | nil => rfl
  | block name prelude body rest inner later =>
    simp only [Stylesheet.allDeclarations, Stylesheet.declarations, Node.declarations,
      Bool.false_eq_true, if_false, List.mem_append] at clear
    simp only [Stylesheet.dropDeclarations, Node.dropDeclarations]
    rw [inner fun declaration member => clear declaration (Or.inl member),
      later fun declaration member => clear declaration (Or.inr member)]
  | leaf node rest leaf later =>
    simp only [Stylesheet.allDeclarations, Stylesheet.declarations, List.mem_append] at clear
    have first : node.dropDeclarations test = node := by
      cases node with
      | ruleBlock => simp [Node.holdsRules] at leaf
      | style selectors declarations =>
        have own := keeps fun declaration member => clear declaration (Or.inl member)
        exact congrArg (Node.style selectors) own
      | declarationBlock name prelude body =>
        have own := keeps fun declaration member => clear declaration (Or.inl member)
        exact congrArg (Node.declarationBlock name prelude) own
      | _ => rfl
    simp only [Stylesheet.dropDeclarations, first]
    rw [later fun declaration member => clear declaration (Or.inr member)]

/-- A rule without a block of rules, taken through two passes with their cleaning, ends as after
one pass with both tests.
Witness: declarations that are gone after the first pass are gone after both.
-/
theorem Node.withoutEmpty_dropDeclarations_twice (other : Declaration → Bool) {node : Node}
    (leaf : node.holdsRules = false)
    : (node.dropDeclarations test).withoutEmpty.bind
          (fun kept => (kept.dropDeclarations other).withoutEmpty)
      = (node.dropDeclarations fun d => test d || other d).withoutEmpty := by
  have both (declarations : List Declaration)
      : declarations.filter (fun d => !(test d || other d))
        = (declarations.filter (!test ·)).filter (!other ·) := by
    rw [List.filter_filter]
    refine congrArg (declarations.filter ·) (funext fun d => ?_)
    cases test d <;> cases other d <;> rfl
  cases node with
  | ruleBlock => simp [Node.holdsRules] at leaf
  | style selectors declarations =>
    simp only [Node.dropDeclarations, both, Node.withoutEmpty_style]
    generalize declarations.filter (!test ·) = left
    by_cases gone : selectors = [] ∨ left = []
    · rcases gone with bare | empty
      · simp [bare]
      · simp [empty]
    · simp [gone, Node.dropDeclarations, Node.withoutEmpty_style]
  | declarationBlock name prelude body =>
    simp only [Node.dropDeclarations, both, Node.withoutEmpty_declarationBlock]
    generalize body.filter (!test ·) = left
    by_cases empty : left = []
    · simp [empty]
    · simp [empty, Node.dropDeclarations, Node.withoutEmpty_declarationBlock]
  | _ => rfl

/-- Two passes over declarations, each with its cleaning, are one pass with both tests.
Witness: what the first cleaning takes away is empty after the second pass too.
-/
theorem Stylesheet.withoutEmpty_dropDeclarations_twice (other : Declaration → Bool)
    (sheet : List Node)
    : Stylesheet.withoutEmpty (Stylesheet.dropDeclarations other
          (Stylesheet.withoutEmpty (Stylesheet.dropDeclarations test sheet)))
      = Stylesheet.withoutEmpty
          (Stylesheet.dropDeclarations (fun d => test d || other d) sheet) := by
  induction sheet using Stylesheet.induction with
  | nil => rfl
  | block name prelude body rest inner later =>
    simp only [Stylesheet.dropDeclarations, Node.dropDeclarations, Stylesheet.withoutEmpty_cons,
      Node.withoutEmpty_ruleBlock]
    by_cases empty : Stylesheet.withoutEmpty (Stylesheet.dropDeclarations test body) = []
    · have stays
          : Stylesheet.withoutEmpty
              (Stylesheet.dropDeclarations (fun d => test d || other d) body) = [] := by
        rw [← inner, empty]
        rfl
      simpa [empty, stays] using later
    · simp [empty, Stylesheet.dropDeclarations, Node.dropDeclarations,
        Stylesheet.withoutEmpty_cons, Node.withoutEmpty_ruleBlock, inner, later]
  | leaf node rest leaf later =>
    have first := Node.withoutEmpty_dropDeclarations_twice test other leaf
    simp only [Stylesheet.dropDeclarations, Stylesheet.withoutEmpty_cons, ← first, ← later]
    cases (node.dropDeclarations test).withoutEmpty with
    | none => rfl
    | some kept => exact Stylesheet.withoutEmpty_cons _ _

end Declarations

--------------------------------------------------------------------------------
-- Dropping at-rules
--------------------------------------------------------------------------------

section AtRules

variable {test : Node → Bool}

/-- The rules after a first one are gone through on their own. -/
theorem Stylesheet.dropAtRules_cons (test : Node → Bool) (node : Node) (rest : List Node)
    : Stylesheet.dropAtRules test (node :: rest)
      = (node.dropAtRules test).toList ++ Stylesheet.dropAtRules test rest := by
  cases h : node.dropAtRules test <;> simp [Stylesheet.dropAtRules, h]

/-- A rule without a block of rules goes if it satisfies the test. -/
theorem Node.dropAtRules_leaf (test : Node → Bool) {node : Node} (leaf : node.holdsRules = false)
    : node.dropAtRules test = if test node then none else some node := by
  cases node with
  | ruleBlock => simp [Node.holdsRules] at leaf
  | _ => rfl

/-- Dropping at-rules whose own declarations are skipped takes no declaration away. -/
theorem Stylesheet.declarations_dropAtRules {skip : String → Bool}
    (silent : ∀ node, test node = true → node.declarations skip = []) (sheet : List Node)
    : Stylesheet.declarations skip (Stylesheet.dropAtRules test sheet)
      = Stylesheet.declarations skip sheet := by
  induction sheet using Stylesheet.induction with
  | nil => rfl
  | block name prelude body rest inner later =>
    rw [Stylesheet.dropAtRules_cons, Node.dropAtRules]
    cases found : test (.ruleBlock name prelude body) with
    | true => simp [Stylesheet.declarations, silent _ found, later]
    | false =>
      cases closed : isKeyframes name <;>
        simp [Stylesheet.declarations, Node.declarations, inner, later]
  | leaf node rest leaf later =>
    rw [Stylesheet.dropAtRules_cons, Node.dropAtRules_leaf test leaf]
    cases found : test node with
    | true => simp [Stylesheet.declarations, silent _ found, later]
    | false => simp [Stylesheet.declarations, later]

/-- Dropping at-rules makes no declaration up. -/
theorem Stylesheet.declarations_dropAtRules_sublist (skip : String → Bool) (test : Node → Bool)
    (sheet : List Node)
    : (Stylesheet.declarations skip (Stylesheet.dropAtRules test sheet)).Sublist
        (Stylesheet.declarations skip sheet) := by
  induction sheet using Stylesheet.induction with
  | nil => exact List.Sublist.refl _
  | block name prelude body rest inner later =>
    rw [Stylesheet.dropAtRules_cons, Node.dropAtRules]
    cases found : test (.ruleBlock name prelude body) with
    | true =>
      simpa [Stylesheet.declarations] using later.trans (List.sublist_append_right _ _)
    | false =>
      refine List.Sublist.append ?_ later
      cases closed : isKeyframes name with
      | true => exact List.Sublist.refl _
      | false =>
        simp only [Bool.false_eq_true, if_false, Node.declarations]
        split
        · exact List.Sublist.refl _
        · exact inner
  | leaf node rest leaf later =>
    rw [Stylesheet.dropAtRules_cons, Node.dropAtRules_leaf test leaf]
    cases found : test node with
    | true =>
      simpa [Stylesheet.declarations] using later.trans (List.sublist_append_right _ _)
    | false => exact (List.Sublist.refl _).append later

/-- Dropping at-rules leaves the selectors of style rules alone. -/
theorem Stylesheet.Selective.dropAtRules {sheet : List Node} (test : Node → Bool)
    (selective : Stylesheet.Selective sheet)
    : Stylesheet.Selective (Stylesheet.dropAtRules test sheet) := by
  induction sheet using Stylesheet.induction with
  | nil => trivial
  | block name prelude body rest inner later =>
    rw [Stylesheet.dropAtRules_cons, Node.dropAtRules]
    cases found : test (.ruleBlock name prelude body) with
    | true => simpa using later selective.2
    | false =>
      refine ⟨?_, later selective.2⟩
      cases closed : isKeyframes name with
      | true => simpa [Node.Selective] using selective.1
      | false => simpa [Node.Selective] using inner selective.1
  | leaf node rest leaf later =>
    rw [Stylesheet.dropAtRules_cons, Node.dropAtRules_leaf test leaf]
    cases found : test node with
    | true => simpa using later selective.2
    | false => exact ⟨selective.1, later selective.2⟩

mutual
/-- Does nothing in the rule that a pass over at-rules looks at satisfy the test? -/
def Node.Lacks (test : Node → Bool) : Node → Prop
  | .ruleBlock name prelude body =>
    test (.ruleBlock name prelude body) = false
    ∧ (isKeyframes name = false → Stylesheet.Lacks test body)
  | node => test node = false

/-- Does nothing in the tree that a pass over at-rules looks at satisfy the test? -/
def Stylesheet.Lacks (test : Node → Bool) : List Node → Prop
  | [] => True
  | node :: rest => node.Lacks test ∧ Stylesheet.Lacks test rest
end

theorem Node.lacks_leaf {node : Node} (leaf : node.holdsRules = false)
    : node.Lacks test ↔ test node = false := by
  cases node with
  | ruleBlock => simp [Node.holdsRules] at leaf
  | _ => simp [Node.Lacks]

/-- A pass that finds nothing leaves the tree as it is. -/
theorem Stylesheet.Lacks.dropAtRules_eq_self {sheet : List Node}
    (lacks : Stylesheet.Lacks test sheet)
    : Stylesheet.dropAtRules test sheet = sheet := by
  induction sheet using Stylesheet.induction with
  | nil => rfl
  | block name prelude body rest inner later =>
    obtain ⟨⟨absent, within⟩, behind⟩ := lacks
    rw [Stylesheet.dropAtRules_cons, Node.dropAtRules, later behind]
    cases closed : isKeyframes name with
    | true => simp [absent]
    | false => simp [absent, inner (within closed)]
  | leaf node rest leaf later =>
    have absent := (Node.lacks_leaf leaf).mp lacks.1
    simp [Stylesheet.dropAtRules_cons, Node.dropAtRules_leaf test leaf, absent, later lacks.2]

/-- A test that does not look into blocks of rules. -/
def IgnoresBodies (test : Node → Bool) : Prop :=
  ∀ name prelude body other,
    test (.ruleBlock name prelude body) = test (.ruleBlock name prelude other)

/-- A pass leaves nothing of what it looks for. -/
theorem Stylesheet.lacks_dropAtRules (heads : IgnoresBodies test) (sheet : List Node)
    : Stylesheet.Lacks test (Stylesheet.dropAtRules test sheet) := by
  induction sheet using Stylesheet.induction with
  | nil => trivial
  | block name prelude body rest inner later =>
    rw [Stylesheet.dropAtRules_cons, Node.dropAtRules]
    cases found : test (.ruleBlock name prelude body) with
    | true => simpa using later
    | false =>
      refine ⟨⟨(heads name prelude _ body).trans found, ?_⟩, later⟩
      intro opened
      simpa [opened] using inner
  | leaf node rest leaf later =>
    rw [Stylesheet.dropAtRules_cons, Node.dropAtRules_leaf test leaf]
    cases found : test node with
    | true => simpa using later
    | false => exact ⟨(Node.lacks_leaf leaf).mpr found, later⟩

/-- A pass for something else brings nothing back. -/
theorem Stylesheet.Lacks.dropAtRules {sheet : List Node} (heads : IgnoresBodies test)
    (lacks : Stylesheet.Lacks test sheet) (other : Node → Bool)
    : Stylesheet.Lacks test (Stylesheet.dropAtRules other sheet) := by
  induction sheet using Stylesheet.induction with
  | nil => trivial
  | block name prelude body rest inner later =>
    obtain ⟨⟨absent, within⟩, behind⟩ := lacks
    rw [Stylesheet.dropAtRules_cons, Node.dropAtRules]
    cases found : other (.ruleBlock name prelude body) with
    | true => simpa using later behind
    | false =>
      refine ⟨⟨(heads name prelude _ body).trans absent, ?_⟩, later behind⟩
      intro opened
      simpa [opened] using inner (within opened)
  | leaf node rest leaf later =>
    rw [Stylesheet.dropAtRules_cons, Node.dropAtRules_leaf other leaf]
    cases found : other node with
    | true => simpa using later lacks.2
    | false => exact ⟨lacks.1, later lacks.2⟩

/-- Cleaning brings nothing back. -/
theorem Stylesheet.Lacks.withoutEmpty {sheet : List Node} (heads : IgnoresBodies test)
    (lacks : Stylesheet.Lacks test sheet)
    : Stylesheet.Lacks test (Stylesheet.withoutEmpty sheet) := by
  induction sheet using Stylesheet.induction with
  | nil => trivial
  | block name prelude body rest inner later =>
    obtain ⟨⟨absent, within⟩, behind⟩ := lacks
    rw [Stylesheet.withoutEmpty_cons, Node.withoutEmpty_ruleBlock]
    by_cases empty : Stylesheet.withoutEmpty body = []
    · simpa [empty] using later behind
    · simp only [empty, if_false]
      exact ⟨⟨(heads name prelude _ body).trans absent, fun opened => inner (within opened)⟩,
        later behind⟩
  | leaf node rest leaf later =>
    rw [Stylesheet.withoutEmpty_cons]
    rcases Node.withoutEmpty_leaf leaf with gone | kept
    · simpa [gone] using later lacks.2
    · rw [kept]
      exact ⟨lacks.1, later lacks.2⟩

end AtRules

end CriticalCss
