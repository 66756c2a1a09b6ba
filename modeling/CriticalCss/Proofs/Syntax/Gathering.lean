import CriticalCss.Proofs.Syntax.Spelling

/-! Components and their tokens. The text of components is that of their tokens, and gathering the
tokens gives the components back, on whatever lines they stand.
-/

namespace CriticalCss.Syntax

--------------------------------------------------------------------------------
-- The tokens of components
--------------------------------------------------------------------------------

mutual
/-- The tokens of a component, its brackets among them. -/
def Component.tokens : Component → List Token
  | .atom _ (.flaw (.unmatched bracket)) => [.closing bracket]
  | .atom _ found => [.atom found]
  | .block _ bracket content => .opening bracket :: (tokensOf content ++ [.closing bracket])
  | .function _ name arguments => .function name :: (tokensOf arguments ++ [.closing .round])

/-- The tokens of components. -/
def tokensOf : List Component → List Token
  | [] => []
  | component :: rest => component.tokens ++ tokensOf rest
end

mutual
/-- Does no closing bracket in the component close the bracket around it? -/
def Component.isOpenIn (closer : Option Bracket) : Component → Bool
  | .atom _ (.flaw (.unmatched bracket)) => closer != some bracket
  | .atom _ _ => true
  | .block _ bracket content => allOpenIn (some bracket) content
  | .function _ _ arguments => allOpenIn (some .round) arguments

/-- Does no closing bracket in the components close the bracket around them? -/
def allOpenIn (closer : Option Bracket) : List Component → Bool
  | [] => true
  | component :: rest => component.isOpenIn closer && allOpenIn closer rest
end

mutual
/-- The component without its lines. -/
def Component.bare : Component → Component
  | .atom _ found => .atom 0 found
  | .block _ bracket content => .block 0 bracket (bareAll content)
  | .function _ name arguments => .function 0 name (bareAll arguments)

/-- The components without their lines. -/
def bareAll : List Component → List Component
  | [] => []
  | component :: rest => component.bare :: bareAll rest
end

theorem bareAll_eq_map (components : List Component)
    : bareAll components = components.map Component.bare := by
  induction components with
  | nil => rfl
  | cons component rest ih => rw [bareAll, ih, List.map_cons]

theorem tokensOf_eq_flatMap (components : List Component)
    : tokensOf components = components.flatMap Component.tokens := by
  induction components with
  | nil => rfl
  | cons component rest ih => rw [tokensOf, ih, List.flatMap_cons]

theorem tokensOf_append (left right : List Component)
    : tokensOf (left ++ right) = tokensOf left ++ tokensOf right := by
  simp [tokensOf_eq_flatMap]

theorem allOpenIn_eq_all (closer : Option Bracket) (components : List Component)
    : allOpenIn closer components = components.all (Component.isOpenIn closer) := by
  induction components with
  | nil => rfl
  | cons component rest ih => rw [allOpenIn, ih, List.all_cons]

/-- The tokens of one atom, a closing bracket that closes nothing aside. -/
theorem tokens_atom {line : Nat} {found : Atom} (matched : ∀ bracket, found ≠ .flaw (.unmatched bracket))
    : (Component.atom line found).tokens = [.atom found] := by
  unfold Component.tokens
  split
  · rename_i bracket same
    cases same
    exact absurd rfl (matched bracket)
  · rename_i same
    cases same
    rfl
  · rename_i same
    cases same
  · rename_i same
    cases same

/-- An atom stands inside any brackets, a closing bracket that closes nothing aside. -/
theorem Component.isOpenIn_atom {closer : Option Bracket} {line : Nat} {found : Atom}
    (matched : ∀ bracket, found ≠ .flaw (.unmatched bracket))
    : (Component.atom line found).isOpenIn closer = true := by
  unfold isOpenIn
  split
  · rename_i bracket same
    cases same
    exact absurd rfl (matched bracket)
  · rfl
  · rename_i same
    cases same
  · rename_i same
    cases same

theorem Legible.append_iff {left right : List Token}
    : Legible (left ++ right) ↔ Legible left ∧ Legible right := by
  constructor
  · intro legible
    exact ⟨⟨fun token member => legible.formed token (List.mem_append_left _ member),
        fun token member => legible.legible token (List.mem_append_left _ member)⟩,
      ⟨fun token member => legible.formed token (List.mem_append_right _ member),
        fun token member => legible.legible token (List.mem_append_right _ member)⟩⟩
  · rintro ⟨left, right⟩
    refine ⟨fun token member => ?_, fun token member => ?_⟩
    · exact (List.mem_append.mp member).elim (left.formed token) (right.formed token)
    · exact (List.mem_append.mp member).elim (left.legible token) (right.legible token)

--------------------------------------------------------------------------------
-- Writing
--------------------------------------------------------------------------------

/-- Nothing is written in front of a closing bracket. -/
theorem spell_closing (left : Option Kind) (tokens more : List Token) (bracket : Bracket)
    : spell left (tokens ++ .closing bracket :: more)
      = spell left tokens ++ closingChar bracket :: spell none more := by
  induction tokens generalizing left with
  | nil =>
    have alone : gap left (.closing bracket) = [] := by
      cases left <;> rfl
    simp only [List.nil_append, spell, alone]
    rfl
  | cons token rest ih => rw [List.cons_append, spell, spell, ih, List.append_assoc, List.append_assoc]

/-- Kinds that nothing runs together with. -/
def Kind.isInert (kind : Kind) : Prop :=
  (∀ right, runTogether kind right = false) ∧ kind.isMark '\\' = false

theorem Kind.isInert_function : Kind.isInert .function :=
  ⟨fun right => by simp [runTogether, endsInName, isMark], by decide⟩

theorem Kind.isInert_flaw : Kind.isInert .flaw :=
  ⟨fun right => by simp [runTogether, endsInName, isMark], by decide⟩

theorem Kind.isInert_block (bracket : Bracket) : Kind.isInert (.block bracket) :=
  ⟨fun right => by simp [runTogether, endsInName, isMark], by simp [isMark]⟩

/-- Behind anything but a backslash only the table of neighbours counts. -/
theorem gapBetween_some {left : Kind} (right : Component) (noBackslash : left.isMark '\\' = false)
    : gapBetween (some left) right
      = if runTogether left right.kind then "/**/".toList else [] := by
  show (if runTogether left right.kind then "/**/".toList else if left.isMark '\\' then _ else [])
    = _
  rw [noBackslash]
  rfl

/-- Nothing is written behind a kind that nothing runs together with. -/
theorem writeAfter_inert {kind : Kind} (inert : kind.isInert) (components : List Component)
    : writeAfter (some kind) components = writeAfter none components := by
  cases components with
  | nil => rfl
  | cons component rest =>
    have alone : gapBetween (some kind) component = [] := by
      rw [gapBetween_some component inert.2, inert.1]
      rfl
    rw [writeAfter, writeAfter, alone]
    rfl

theorem runTogether_flaw (left : Kind) : runTogether left .flaw = false := by
  simp [runTogether, Kind.startsWithName, Kind.startsWithNumber, Kind.isMark]

theorem Atom.not_isMark_backslash {found : Atom} (legible : (Token.atom found).isLegible = true)
    : found.kind.isMark '\\' = false := by
  cases found with
  | literal text =>
    simp only [Token.isLegible, bne_iff_ne, ne_eq] at legible
    simpa [Atom.kind, Kind.isMark] using legible
  | _ => simp [Atom.kind, Kind.isMark]

mutual
/-- No component that can be read back ends inside a quoted string. -/
theorem endsInString_of_legible (component : Component) (legible : Legible component.tokens)
    : endsInString component = false := by
  match component with
  | .atom line found =>
    unfold endsInString
    split
    · rename_i same
      cases same
      exact absurd (legible.legible (.atom (.flaw .endInString)) List.mem_cons_self) (by decide)
    · rename_i same
      cases same
    · rfl
  | .block line bracket content => rfl
  | .function line name arguments =>
    exact lastEndsInString_of_legible arguments
      (Legible.append_iff.mp (Legible.tail legible)).1

theorem lastEndsInString_of_legible (components : List Component)
    (legible : Legible (tokensOf components))
    : lastEndsInString components = false := by
  match components with
  | [] => rfl
  | [last] =>
    rw [tokensOf, Legible.append_iff] at legible
    exact endsInString_of_legible last legible.1
  | first :: second :: rest =>
    rw [tokensOf, Legible.append_iff] at legible
    exact lastEndsInString_of_legible (second :: rest) legible.2
end

/-- What is written between two tokens that can be read back is what is written between their
components. -/
theorem gapBetween_eq {left : Option Kind} {right : Component} (next : Token)
    (noBackslash : left.all (!·.isMark '\\') = true) (same : next.rightKind? = some right.kind)
    : gapBetween left right = gap left next := by
  cases left with
  | none => rfl
  | some left =>
    have other : left.isMark '\\' = false := by simpa using noBackslash
    have table
        : gap (some left) next = if runTogether left right.kind then "/**/".toList else [] := by
      unfold gap
      split
      · rename_i first found
        cases first
        rw [same, Option.some.injEq] at found
        rw [found]
      · rename_i noKind
        exact absurd same (noKind left right.kind rfl)
    exact (gapBetween_some right other).trans table.symm

/-- The text of components is that of their tokens. -/
theorem writeAfter_eq_spell (components : List Component) (legible : Legible (tokensOf components))
    (left : Option Kind) (noBackslash : left.all (!·.isMark '\\') = true)
    : writeAfter left components = spell left (tokensOf components) := by
  match components with
  | [] => rfl
  | .atom line found :: rest =>
    rw [tokensOf, Legible.append_iff] at legible
    by_cases unmatched : ∃ bracket, found = .flaw (.unmatched bracket)
    · obtain ⟨bracket, rfl⟩ := unmatched
      have alone : gapBetween left (.atom line (.flaw (.unmatched bracket))) = [] := by
        cases left with
        | none => rfl
        | some left =>
          rw [gapBetween_some _ (by simpa using noBackslash)]
          simp only [Component.kind, Atom.kind, runTogether_flaw]
          rfl
      show gapBetween left (.atom line (.flaw (.unmatched bracket))) ++ [closingChar bracket]
          ++ writeAfter (some .flaw) rest
        = spell left ([] ++ .closing bracket :: tokensOf rest)
      rw [spell_closing, alone, writeAfter_inert Kind.isInert_flaw,
        writeAfter_eq_spell rest legible.2 none rfl]
      rfl
    · have alone := fun bracket same => unmatched ⟨bracket, same⟩
      rw [writeAfter, tokensOf, tokens_atom alone, List.singleton_append, spell]
      rw [tokens_atom alone] at legible
      have own := Atom.not_isMark_backslash (legible.1.legible (.atom found) List.mem_cons_self)
      have behind : (some found.kind).all (!·.isMark '\\') = true := by simp [own]
      show gapBetween left (.atom line found) ++ writeAtom found ++ writeAfter (some found.kind) rest
        = gap left (.atom found) ++ (writeAtom found ++ spell (some found.kind) (tokensOf rest))
      rw [writeAfter_eq_spell rest legible.2 found.kind behind, gapBetween_eq (.atom found) noBackslash rfl,
        List.append_assoc]
  | .block line bracket content :: rest =>
    simp only [tokensOf, Component.tokens, List.cons_append, List.append_assoc, List.nil_append]
      at legible ⊢
    have inside := Legible.append_iff.mp legible.tail
    show gapBetween left (.block line bracket content)
          ++ (openingChar bracket :: writeAfter none content ++ [closingChar bracket])
          ++ writeAfter (some (.block bracket)) rest
      = gap left (.opening bracket)
        ++ ([openingChar bracket] ++ spell none (tokensOf content ++ .closing bracket :: tokensOf rest))
    rw [spell_closing, writeAfter_inert (Kind.isInert_block bracket),
      writeAfter_eq_spell content inside.1 none rfl,
      writeAfter_eq_spell rest inside.2.tail none rfl, gapBetween_eq (.opening bracket) noBackslash rfl]
    simp
  | .function line name arguments :: rest =>
    simp only [tokensOf, Component.tokens, List.cons_append, List.append_assoc, List.nil_append]
      at legible ⊢
    have inside := Legible.append_iff.mp legible.tail
    show gapBetween left (.function line name arguments)
          ++ (writeIdent name ++ '(' :: writeAfter none arguments
            ++ (if lastEndsInString arguments then [] else [')']))
          ++ writeAfter (some .function) rest
      = gap left (.function name)
        ++ (writeIdent name ++ ['(']
          ++ spell none (tokensOf arguments ++ .closing .round :: tokensOf rest))
    rw [spell_closing, writeAfter_inert Kind.isInert_function,
      writeAfter_eq_spell arguments inside.1 none rfl,
      writeAfter_eq_spell rest inside.2.tail none rfl, gapBetween_eq (.function name) noBackslash rfl,
      lastEndsInString_of_legible arguments inside.1]
    simp [closingChar]
termination_by sizeOf components

--------------------------------------------------------------------------------
-- Gathering
--------------------------------------------------------------------------------

namespace Component

section Gather

variable (closer : Option Bracket) (line : Nat) (rest : List Lexeme)

theorem gather_atom (found : Atom)
    : (gather closer (⟨line, .atom found⟩ :: rest)).1
      = (.atom line found :: (gather closer rest).1.1, (gather closer rest).1.2) := by
  rw [gather]

theorem gather_closing (bracket : Bracket)
    : (gather (some bracket) (⟨line, .closing bracket⟩ :: rest)).1 = ([], rest) := by
  rw [gather, if_pos rfl]

theorem gather_unmatched {bracket : Bracket} (other : closer ≠ some bracket)
    : (gather closer (⟨line, .closing bracket⟩ :: rest)).1
      = (.atom line (.flaw (.unmatched bracket)) :: (gather closer rest).1.1,
          (gather closer rest).1.2) := by
  rw [gather, if_neg other]

theorem gather_opening (bracket : Bracket)
    : (gather closer (⟨line, .opening bracket⟩ :: rest)).1
      = (.block line bracket (gather (some bracket) rest).1.1
            :: (gather closer (gather (some bracket) rest).1.2).1.1,
          (gather closer (gather (some bracket) rest).1.2).1.2) := by
  rw [gather]

theorem gather_function (name : List Char)
    : (gather closer (⟨line, .function name⟩ :: rest)).1
      = (.function line name (gather (some .round) rest).1.1
            :: (gather closer (gather (some .round) rest).1.2).1.1,
          (gather closer (gather (some .round) rest).1.2).1.2) := by
  rw [gather]

end Gather

/-- Tokens of components in front of the end of the brackets around them are gathered to the
components. -/
theorem gather_tokensOf (components : List Component) (closer : Option Bracket)
    (more : List Token) (lexemes : List Lexeme)
    (same : lexemes.map Lexeme.token = tokensOf components ++ more)
    (openIn : allOpenIn closer components = true)
    (ends : more = [] ∨ ∃ bracket, closer = some bracket ∧ more.head? = some (.closing bracket))
    : bareAll (gather closer lexemes).1.1 = bareAll components
      ∧ (gather closer lexemes).1.2.map Lexeme.token = more.drop 1 := by
  match components with
  | [] =>
    rw [tokensOf, List.nil_append] at same
    rcases ends with rfl | ⟨bracket, rfl, head⟩
    · rw [List.map_eq_nil_iff.mp same, gather]
      exact ⟨rfl, rfl⟩
    · obtain ⟨after, rfl⟩ : ∃ after, more = .closing bracket :: after := by
        cases more with
        | nil => cases head
        | cons token after => exact ⟨after, by rw [Option.some.inj head]⟩
      obtain ⟨⟨line, token⟩, others, rfl, rfl, rest⟩ := List.map_eq_cons_iff.mp same
      rw [gather_closing]
      exact ⟨rfl, rest⟩
  | .atom line found :: rest =>
    simp only [allOpenIn, Bool.and_eq_true] at openIn
    by_cases unmatched : ∃ bracket, found = .flaw (.unmatched bracket)
    · obtain ⟨bracket, rfl⟩ := unmatched
      obtain ⟨⟨own, token⟩, others, rfl, rfl, behind⟩ := List.map_eq_cons_iff.mp same
      have other : closer ≠ some bracket := by simpa [isOpenIn] using openIn.1
      obtain ⟨gathered, left⟩ := gather_tokensOf rest closer more others behind openIn.2 ends
      rw [gather_unmatched closer own others other]
      exact ⟨by rw [bareAll, bareAll, gathered]; rfl, left⟩
    · rw [tokensOf, tokens_atom fun bracket same => unmatched ⟨bracket, same⟩] at same
      obtain ⟨⟨own, token⟩, others, rfl, rfl, behind⟩ := List.map_eq_cons_iff.mp same
      obtain ⟨gathered, left⟩ := gather_tokensOf rest closer more others behind openIn.2 ends
      rw [gather_atom closer own others]
      exact ⟨by rw [bareAll, bareAll, gathered]; rfl, left⟩
  | .block line bracket content :: rest =>
    simp only [allOpenIn, isOpenIn, Bool.and_eq_true] at openIn
    simp only [tokensOf, tokens, List.cons_append, List.append_assoc, List.nil_append] at same
    obtain ⟨⟨own, token⟩, others, rfl, rfl, behind⟩ := List.map_eq_cons_iff.mp same
    obtain ⟨inside, left⟩ := gather_tokensOf content (some bracket) _ others behind openIn.1
      (Or.inr ⟨bracket, rfl, rfl⟩)
    obtain ⟨gathered, ended⟩ := gather_tokensOf rest closer more _ left openIn.2 ends
    rw [gather_opening closer own others]
    exact ⟨by simp only [bareAll, bare, gathered, inside], ended⟩
  | .function line name arguments :: rest =>
    simp only [allOpenIn, isOpenIn, Bool.and_eq_true] at openIn
    simp only [tokensOf, tokens, List.cons_append, List.append_assoc, List.nil_append] at same
    obtain ⟨⟨own, token⟩, others, rfl, rfl, behind⟩ := List.map_eq_cons_iff.mp same
    obtain ⟨inside, left⟩ := gather_tokensOf arguments (some .round) _ others behind openIn.1
      (Or.inr ⟨.round, rfl, rfl⟩)
    obtain ⟨gathered, ended⟩ := gather_tokensOf rest closer more _ left openIn.2 ends
    rw [gather_function closer own others]
    exact ⟨by simp only [bareAll, bare, gathered, inside], ended⟩
termination_by sizeOf components

/-- Components that are kept apart are read back from their text, on other lines perhaps. -/
theorem bareAll_ofText {components : List Component} (legible : Legible (tokensOf components))
    (apart : separate (tokensOf components) = true) (openIn : allOpenIn none components = true)
    : bareAll (ofText (String.ofList (writeAll components))) = bareAll components := by
  have written : writeAll components = spell none (tokensOf components) :=
    writeAfter_eq_spell components legible none rfl
  have lexed := lex_spell legible apart
  rw [← written] at lexed
  exact (gather_tokensOf components none [] _ (by rw [lexed, List.append_nil]) openIn
    (Or.inl rfl)).1

end Component

end CriticalCss.Syntax
