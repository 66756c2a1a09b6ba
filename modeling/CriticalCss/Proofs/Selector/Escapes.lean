import CriticalCss.Proofs.Selector.Compounds
import Mathlib.Data.List.Chain

/-! What is read from an escaped colon. Pseudos are looked for in the text of a selector, where an
escaped colon is a colon, so a name is taken for a pseudo exactly if an escaped colon of it has what
starts one behind it. All other names are safe, whatever else is escaped in them, but for the ends
of the selector.
-/

namespace CriticalCss.Selector.Written

open Tidy.Written (Identifier Letter)

--------------------------------------------------------------------------------
-- Letters
--------------------------------------------------------------------------------

/-- An escaped colon. -/
def escapedColon : Letter :=
  .escaped ':' (by decide)

theorem ne_colon_of_isNamePart {c : Char} (fits : Syntax.isNamePart c = true) : c ≠ ':' := by
  rintro rfl
  cases fits

/-- A letter has a colon only if it is an escaped one. -/
theorem Letter.eq_escapedColon_or (letter : Letter)
    : letter = escapedColon ∨ ':' ∉ letter.text := by
  cases letter with
  | plain c fits =>
    refine .inr fun colon => ne_colon_of_isNamePart fits ?_
    exact (List.mem_singleton.mp colon).symm
  | escaped c fits =>
    by_cases colon : c = ':'
    · subst colon
      exact .inl rfl
    · refine .inr ?_
      simp [Letter.text, Ne.symm colon]
  | coded digits fits space one =>
    refine .inr fun colon => ?_
    simp only [Letter.text, List.mem_cons, List.mem_append, Char.reduceEq, false_or] at colon
    rcases colon with digit | blank
    · exact absurd (fits ':' digit) (by decide)
    · exact absurd (space.spaces ':' blank) (by decide)

theorem Letter.head?_text (letter : Letter) : letter.text.head? ≠ some ':' := by
  rcases Letter.eq_escapedColon_or letter with rfl | free
  · simp [escapedColon, Letter.text]
  · exact fun first => free (List.mem_of_mem_head? first)

theorem head?_letters (letters : List Letter) : (letters.flatMap (·.text)).head? ≠ some ':' := by
  cases letters with
  | nil => simp
  | cons letter letters =>
    obtain ⟨c, more, isText⟩ := List.exists_cons_of_ne_nil (Letter.text_ne_nil letter)
    have first := Letter.head?_text letter
    rw [isText] at first
    rw [List.flatMap_cons, isText]
    exact first

/-- An escaped colon of the name has something behind it. -/
def Spells (begins : List Char → Prop) (name : Identifier) : Prop :=
  ∃ before after,
    name.letters = before ++ escapedColon :: after ∧ begins (after.flatMap (·.text))

section Search

variable {begins : List Char → Prop} {after? : List Char → Option (List Char)}
  (search : IsSearchFor begins after?)

include search

theorem occursIn_letters_iff (letters : List Letter)
    : occursIn after? (letters.flatMap (·.text)) = true
      ↔ ∃ before after,
          letters = before ++ escapedColon :: after ∧ begins (after.flatMap (·.text)) := by
  induction letters with
  | nil => simp [occursIn]
  | cons letter letters ih =>
    have split
        : (∃ before after,
            letter :: letters = before ++ escapedColon :: after
            ∧ begins (after.flatMap (·.text)))
          ↔ (letter = escapedColon ∧ begins (letters.flatMap (·.text)))
            ∨ ∃ before after,
                letters = before ++ escapedColon :: after ∧ begins (after.flatMap (·.text)) := by
      constructor
      · rintro ⟨before, after, whole, starts⟩
        cases before with
        | nil =>
          obtain ⟨rfl, rfl⟩ := List.cons.inj whole
          exact .inl ⟨rfl, starts⟩
        | cons first before =>
          exact .inr ⟨before, after, (List.cons.inj whole).2, starts⟩
      · rintro (⟨rfl, starts⟩ | ⟨before, after, rfl, starts⟩)
        · exact ⟨[], letters, rfl, starts⟩
        · exact ⟨letter :: before, after, rfl, starts⟩
    rw [split, List.flatMap_cons, ← ih]
    rcases Letter.eq_escapedColon_or letter with rfl | free
    · change occursIn after? ('\\' :: ':' :: letters.flatMap (·.text)) = true ↔ _
      rw [occursIn, search.isSome_cons_of_ne (by decide), Bool.false_or, occursIn,
        Bool.or_eq_true, search.isSome_cons_iff (head?_letters letters)]
      simp
    · have other : letter ≠ escapedColon := by
        rintro rfl
        exact free (by simp [escapedColon, Letter.text])
      rw [search.occursIn_of_not_mem free]
      simp [other]

theorem occursIn_name_iff (name : Identifier)
    : occursIn after? name.text = true ↔ Spells begins name :=
  occursIn_letters_iff search name.letters

end Search

--------------------------------------------------------------------------------
-- Single colons
--------------------------------------------------------------------------------

/-- There are no two colons one after the other. -/
def IsParted (text : List Char) : Prop :=
  text.IsChain fun c d => ¬(c = ':' ∧ d = ':')

theorem isParted_singleton (c : Char) : IsParted [c] :=
  .singleton c

theorem isParted_append {text rest : List Char} (own : IsParted text) (behind : IsParted rest)
    (first : rest.head? ≠ some ':')
    : IsParted (text ++ rest) := by
  refine List.isChain_append.mpr ⟨own, behind, ?_⟩
  rintro c - d isFirst ⟨-, rfl⟩
  exact first isFirst

theorem isParted_of_not_mem {text : List Char} (free : ':' ∉ text) : IsParted text := by
  induction text with
  | nil => exact .nil
  | cons c text ih =>
    rw [List.mem_cons, not_or] at free
    exact isParted_append (isParted_singleton c) (ih free.2)
      fun first => free.2 (List.mem_of_mem_head? first)

/-- Where no two colons are one after the other, a pseudo-class is anything with a colon. -/
theorem holdsPseudoClass_eq {names : List String} (areNames : AreNames names) {text : List Char}
    (parted : IsParted text) {afterColon : Bool}
    (first : afterColon = true → text.head? ≠ some ':')
    : holdsPseudoClass names afterColon text = occursIn (afterPseudo? names) text := by
  induction text generalizing afterColon with
  | nil => rfl
  | cons c text ih =>
    have search := isSearchFor_names areNames
    obtain ⟨apart, behind⟩ := List.isChain_cons.mp parted
    rw [holdsPseudoClass, occursIn, ih behind]
    · by_cases colon : c = ':'
      · subst colon
        have single : afterColon = false := Bool.eq_false_iff.mpr fun after => first after rfl
        have next : text.head? ≠ some ':' := fun second => apart ':' second ⟨rfl, rfl⟩
        have found : (afterPseudo? names (':' :: text)).isSome = startsWithName names text :=
          Bool.eq_iff_iff.mpr (search.isSome_cons_iff next)
        rw [found, single]
        rfl
      · rw [search.isSome_cons_of_ne colon, beq_eq_false_iff_ne.mpr colon]
        rfl
    · intro isColon second
      exact apart ':' second ⟨by simpa using isColon, rfl⟩

--------------------------------------------------------------------------------
-- Labels
--------------------------------------------------------------------------------

theorem isParted_letters (letters : List Letter) : IsParted (letters.flatMap (·.text)) := by
  induction letters with
  | nil => exact .nil
  | cons letter letters ih =>
    rw [List.flatMap_cons]
    refine isParted_append ?_ ih (head?_letters letters)
    rcases Letter.eq_escapedColon_or letter with rfl | free
    · exact List.isChain_pair.mpr (by decide)
    · exact isParted_of_not_mem free

namespace Tag

/-- The character in front of the name. -/
def sign : Tag → Char
  | className _ => '.'
  | id _ => '#'

theorem sign_ne_colon : ∀ tag : Tag, tag.sign ≠ ':'
  | className _ | id _ => by simp [sign]

theorem text_simple (tag : Tag) : tag.simple.text = tag.sign :: tag.name.text := by
  cases tag <;> rfl

end Tag

namespace Label

theorem front_compound (label : Label)
    : label.compound.front = (label.type.map (·.text)).getD [] := by
  obtain ⟨type, tags, filled⟩ := label
  cases type <;> rfl

theorem text_eq (label : Label)
    : label.text
      = (label.type.map (·.text)).getD []
        ++ label.tags.flatMap fun tag => tag.sign :: tag.name.text := by
  rw [text, Compound.text, front_compound, compound, List.flatMap_map]
  exact congrArg (_ ++ ·) (List.flatMap_congr fun tag _ => tag.text_simple)

theorem isParted_text (label : Label) : IsParted label.text := by
  have tags : ∀ tags : List Tag, IsParted (tags.flatMap fun tag => tag.sign :: tag.name.text)
      ∧ (tags.flatMap fun tag => tag.sign :: tag.name.text).head? ≠ some ':' := by
    intro tags
    induction tags with
    | nil => exact ⟨.nil, nofun⟩
    | cons tag tags ih =>
      rw [List.flatMap_cons]
      refine ⟨isParted_append ?_ ih.1 ih.2, ?_⟩
      · exact isParted_append (isParted_singleton tag.sign) (isParted_letters _) (head?_letters _)
      · simpa using tag.sign_ne_colon
  rw [text_eq]
  refine isParted_append ?_ (tags label.tags).1 (tags label.tags).2
  cases label.type with
  | none => exact .nil
  | some name => exact isParted_letters name.letters

variable {begins : List Char → Prop} {after? : List Char → Option (List Char)}

/-- What is found in the pieces of a label is what its names spell. -/
theorem pieces_clear_iff (search : IsSearchFor begins after?) (label : Label)
    : (∀ piece ∈ label.compound.pieces, occursIn after? piece = false)
      ↔ ∀ name ∈ label.names, ¬Spells begins name := by
  have name (name : Identifier) : occursIn after? name.text = false ↔ ¬Spells begins name := by
    rw [← occursIn_name_iff search, Bool.not_eq_true]
  have tag (tag : Tag) : occursIn after? tag.simple.text = false ↔ ¬Spells begins tag.name := by
    rw [tag.text_simple, occursIn, search.isSome_cons_of_ne tag.sign_ne_colon, Bool.false_or,
      name]
  have front
      : occursIn after? label.compound.front = false
        ↔ ∀ name ∈ label.type.toList, ¬Spells begins name := by
    rw [front_compound]
    cases label.type with
    | none => simp [occursIn]
    | some type => simpa using name type
  rw [Compound.pieces, List.forall_mem_cons, names, List.forall_mem_append, front]
  simp [compound, Part.bare, tag]

theorem bare_compound (label : Label) : label.compound.bare = label.text := by
  rw [Compound.bare, text, Compound.text, compound, List.flatMap_map, List.flatMap_map]
  rfl

theorem collide_compound (label : Label)
    : Part.collide label.compound.front label.compound.parts = false := by
  have none (tags : List Tag) (before : List Char)
      : Part.collide before (tags.map fun tag => .simple tag.simple) = false := by
    induction tags generalizing before with
    | nil => rfl
    | cons tag tags ih => simp [Part.collide, Part.isSingle, ih]
  exact none label.tags _

/-- A label is interactive if a name of it spells an interactive pseudo-class. -/
theorem isInteractive_eq_false_iff (label : Label)
    : isInteractive interactivePseudoClasses (String.ofList label.text) = false
      ↔ ∀ name ∈ label.names,
          ¬Spells (startsWithName interactivePseudoClasses · = true) name := by
  have search := isSearchFor_names areNames_interactive
  have names : soughtNames interactivePseudoClasses = interactivePseudoClasses := by decide
  have pieces := label.compound.occursIn_eq_false_iff search
    (fun pseudo member => by simp [compound] at member) stops_nil
  rw [List.append_nil] at pieces
  have parted : false = true → label.text.head? ≠ some ':' := fun none => nomatch none
  rw [isInteractive, names, String.toList_ofList,
    holdsPseudoClass_eq areNames_interactive label.isParted_text parted, text, pieces,
    pieces_clear_iff search]
  simp [occursIn]

/-- Nothing is cut out of a label if no name of it spells a pseudo. -/
theorem keepsIf_cutOut (label : Label)
    : KeepsIf (∀ name ∈ label.names, ¬Spells (startsWithName strippedPseudos · = true) name)
        label.text (cutOut afterStripped? label.text) := by
  have keeps := label.compound.keepsIf_cutOut stops_nil nofun
  rw [label.collide_compound, pieces_clear_iff isSearchFor_stripped] at keeps
  simp only [cutOut, List.append_nil, and_true, bare_compound] at keeps
  exact keeps

theorem occursIn_vendor_eq_false_iff (label : Label)
    : occursIn afterVendor? label.text = false
      ↔ ∀ name ∈ label.names, ¬Spells StartsVendor name := by
  have vendor := label.compound.occursIn_vendor_eq_false_iff stops_nil
  rw [pieces_clear_iff isSearchFor_vendor] at vendor
  simp only [occursIn, List.append_nil, and_true] at vendor
  exact vendor

/-- A label is asked about as it is if no name of it spells a pseudo that is cut out, and its ends
stay. -/
theorem queryFor?_eq_iff (label : Label)
    : (∀ strict, queryFor? (String.ofList label.text) strict = some (String.ofList label.text))
      ↔ ((∀ name ∈ label.names, ¬Spells (startsWithName strippedPseudos · = true) name)
          ∧ ∀ name ∈ label.names, ¬Spells StartsVendor name)
        ∧ IsSettled label.text := by
  have keeps := label.keepsIf_cutOut
  have settled : completed label.text = label.text ↔ IsSettled label.text :=
    completed_eq_self_iff label.compound.text_ne_nil
  rw [← occursIn_vendor_eq_false_iff, ← settled]
  constructor
  · intro asked
    obtain ⟨noVendor, same⟩ := queryFor?_strict_eq_some_iff.mp (asked true)
    have colons : (cutOut afterStripped? label.text).count ':' = label.text.count ':' := by
      rw [← count_colon_completed, same]
    obtain ⟨unstripped, cut⟩ := keeps.of_count colons
    rw [cut] at same
    exact ⟨⟨unstripped, noVendor⟩, same⟩
  · rintro ⟨⟨unstripped, noVendor⟩, same⟩ strict
    rw [queryFor?_of_noVendor noVendor, keeps.of_holds unstripped, same]

theorem spells_or {first second : List Char → Prop} (name : Identifier)
    : Spells (fun body => first body ∨ second body) name
      ↔ Spells first name ∨ Spells second name := by
  simp only [Spells, and_or_left, exists_or]

/-- A selector of types, class names and ids is neither interactive nor asked about as another one,
exactly if no escaped colon has a name of a pseudo behind it, be it interactive, one that no page
tells, or a vendor's, and the ends of the selector stay as they are. -/
theorem unread_iff (label : Label)
    : (isInteractive interactivePseudoClasses (String.ofList label.text) = false
        ∧ ∀ strict,
            queryFor? (String.ofList label.text) strict = some (String.ofList label.text))
      ↔ (∀ name ∈ label.names,
          ¬Spells
            (fun behind =>
              startsWithName (interactivePseudoClasses ++ strippedPseudos) behind = true
              ∨ StartsVendor behind)
            name)
        ∧ IsSettled label.text := by
  have either (behind : List Char)
      : startsWithName (interactivePseudoClasses ++ strippedPseudos) behind = true
        ↔ startsWithName interactivePseudoClasses behind = true
          ∨ startsWithName strippedPseudos behind = true := by
    simp only [startsWithName, List.any_append, Bool.or_eq_true]
  rw [isInteractive_eq_false_iff, queryFor?_eq_iff]
  simp only [either, spells_or, not_or, forall_and, and_assoc]

/-- A class name of two words with an escaped colon between them. -/
def ofWords (first second : Identifier) : Label where
  tags := [.className ⟨first.letters ++ escapedColon :: second.letters, by simp⟩]
  filled := .inr (by simp)

/-- The class `is:active` is taken for a pseudo-class, and of the class `dark:before` a part is cut
out. -/
theorem not_unread_escaped
    : String.ofList (ofWords (.plain "is".toList (by decide) (by decide))
          (.plain "active".toList (by decide) (by decide))).text
        = ".is\\:active"
      ∧ isInteractive interactivePseudoClasses ".is\\:active" = true
      ∧ String.ofList (ofWords (.plain "dark".toList (by decide) (by decide))
          (.plain "before".toList (by decide) (by decide))).text
        = ".dark\\:before"
      ∧ queryFor? ".dark\\:before" true = some ".dark\\" := by
  have free : ':' ∉ ".dark\\".toList := by decide
  have gone : afterStripped? ":before".toList = some [] := by decide
  have cut : cutOut afterStripped? ".dark\\:before".toList = ".dark\\".toList :=
    cutOut_of_last free gone
  have noVendor : occursIn afterVendor? ".dark\\:before".toList = false := by decide
  have asked := queryFor?_of_noVendor noVendor true
  rw [cut] at asked
  exact ⟨by decide, by decide, by decide, asked.trans (by decide)⟩

end Label

end CriticalCss.Selector.Written
