import CriticalCss.Proofs.Selector.Compounds
import Mathlib.Data.List.Basic

/-! The query for the elements that a chain of compounds decorates. The colons of the query tell
whether a compound was mistaken, and its stars how many compounds it has put a star for: one at
most, and that one at the end.
-/

namespace CriticalCss.Selector.Written

open Media.Written (Gap Break)

--------------------------------------------------------------------------------
-- Combinators
--------------------------------------------------------------------------------

theorem isBlank_of_isSpace {c : Char} (space : Media.Written.isSpace c = true)
    : Text.isBlank c = true := by
  simp only [Media.Written.isSpace, Bool.or_eq_true, beq_iff_eq] at space
  rcases space with (((rfl | rfl) | rfl) | rfl) | rfl <;> decide

namespace Joint

variable (joint : Joint)

theorem isStop_of_mem : ∀ c ∈ joint.text, isStop c = true ∧ c ≠ ':' ∧ c ≠ '*' := by
  have blank {c : Char} (space : Media.Written.isSpace c = true)
      : isStop c = true ∧ c ≠ ':' ∧ c ≠ '*' := by
    simp only [Media.Written.isSpace, Bool.or_eq_true, beq_iff_eq] at space
    rcases space with (((rfl | rfl) | rfl) | rfl) | rfl <;> decide
  intro c member
  cases joint with
  | descendant space => exact blank (space.spaces c member)
  | marked before mark after =>
    rw [text, List.mem_append, List.mem_cons] at member
    rcases member with front | rfl | behind
    · exact blank (before.spaces c front)
    · cases mark <;> decide
    · exact blank (after.spaces c behind)

theorem text_ne_nil : joint.text ≠ [] := by
  cases joint with
  | descendant space => exact space.some
  | marked before mark after => simp [text]

/-- A combinator is the end of a name in front of it, and it is no colon. -/
theorem stops (rest : List Char)
    : Stops (joint.text ++ rest) ∧ (joint.text ++ rest).head? ≠ some ':' := by
  obtain ⟨c, more, isText⟩ := List.exists_cons_of_ne_nil joint.text_ne_nil
  have first := joint.isStop_of_mem c (by rw [isText]; exact List.mem_cons_self)
  rw [isText]
  refine ⟨?_, ?_⟩
  · rintro d ⟨⟩
    exact first.1
  · rintro ⟨⟩
    exact first.2.1 rfl

theorem count_text : joint.text.count ':' = 0 ∧ joint.text.count '*' = 0 :=
  ⟨List.count_eq_zero.mpr fun colon => (joint.isStop_of_mem ':' colon).2.1 rfl,
    List.count_eq_zero.mpr fun star => (joint.isStop_of_mem '*' star).2.2 rfl⟩

end Joint

--------------------------------------------------------------------------------
-- Compounds
--------------------------------------------------------------------------------

theorem Part.flatMap_filter_isUntold (parts : List Part)
    : (parts.filter (!·.isUntold)).flatMap (·.text) = parts.flatMap (·.bare) := by
  induction parts with
  | nil => rfl
  | cons part parts ih =>
    cases part with
    | simple it => simpa [isUntold, text, bare] using ih
    | untold pseudo => simpa [isUntold, bare] using ih

namespace Compound

theorem text_decorated (compound : Compound)
    : compound.decorated.text = if compound.isEmptied then ['*'] else compound.bare := by
  rw [decorated]
  split
  · rfl
  · exact congrArg (compound.front ++ ·) (Part.flatMap_filter_isUntold compound.parts)

/-- Nothing is left of a compound of pseudos that no page tells. -/
theorem bare_of_isEmptied {compound : Compound} (emptied : compound.isEmptied = true)
    : compound.bare = [] := by
  simp only [isEmptied, Bool.and_eq_true, Option.isNone_iff_eq_none, List.all_eq_true] at emptied
  obtain ⟨element, untold⟩ := emptied
  rw [bare, front, element, List.append_eq_nil_iff, List.flatMap_eq_nil_iff]
  refine ⟨rfl, fun part member => ?_⟩
  cases part with
  | simple it => cases untold _ member
  | untold pseudo => rfl

theorem count_text_decorated (compound : Compound)
    : compound.decorated.text.count ':' = compound.bare.count ':'
      ∧ compound.decorated.text.count '*' = compound.bare.count '*' + compound.isEmptied.toNat := by
  rw [text_decorated]
  cases emptied : compound.isEmptied with
  | true => simp [bare_of_isEmptied emptied]
  | false => simp

end Compound

--------------------------------------------------------------------------------
-- Chains
--------------------------------------------------------------------------------

namespace Complex

/-- The chain of the decorated elements. -/
def decorated : Complex → Complex
  | single compound => single compound.decorated
  | joined front joint last => joined front.decorated joint last.decorated

theorem compounds_decorated (chain : Complex)
    : chain.decorated.compounds = chain.compounds.map (·.decorated) := by
  induction chain with
  | single compound => rfl
  | joined front joint last ih => simp [decorated, compounds, ih]

theorem marks_decorated (chain : Complex) : chain.decorated.marks = chain.marks := by
  induction chain with
  | single compound => rfl
  | joined front joint last ih => simp [decorated, marks, ih]

/-- If no compound is emptied, the decorated elements have the rest of the text. -/
theorem text_decorated {chain : Complex}
    (filled : ∀ compound ∈ chain.compounds, compound.isEmptied = false)
    : chain.decorated.text = chain.bare := by
  induction chain with
  | single compound =>
    have own := filled compound (by simp [compounds])
    simp [decorated, text, bare, Compound.text_decorated, own]
  | joined front joint last ih =>
    rw [compounds, List.forall_mem_append, List.forall_mem_singleton] at filled
    simp [decorated, text, bare, ih filled.1, Compound.text_decorated, filled.2]

--------------------------------------------------------------------------------
-- Both ends of a chain
--------------------------------------------------------------------------------

theorem text_ne_nil (chain : Complex) : chain.text ≠ [] := by
  cases chain with
  | single compound => exact compound.text_ne_nil
  | joined front joint last => simp [text, joint.text_ne_nil]

theorem head?_compounds (chain : Complex) : chain.compounds.head? = some chain.first := by
  induction chain with
  | single compound => rfl
  | joined front joint last ih => simp [compounds, first, ih]

theorem getLast?_compounds (chain : Complex) : chain.compounds.getLast? = some chain.last := by
  cases chain <;> simp [compounds, last]

theorem head?_text (chain : Complex) : chain.text.head? = chain.first.text.head? := by
  induction chain with
  | single compound => rfl
  | joined front joint last ih =>
    rw [text, List.head?_append_of_ne_nil _ front.text_ne_nil, ih, first]

theorem getLast?_text (chain : Complex) : chain.text.getLast? = chain.last.text.getLast? := by
  cases chain with
  | single compound => rfl
  | joined front joint last =>
    rw [text, ← List.append_assoc, List.getLast?_append_of_ne_nil _ last.text_ne_nil,
      Complex.last]

/-- Chains of the same compounds have the same ends. -/
theorem ends_of_compounds {left right : Complex} (same : left.compounds = right.compounds)
    : left.text.head? = right.text.head? ∧ left.text.getLast? = right.text.getLast? := by
  have firsts := left.head?_compounds
  have lasts := left.getLast?_compounds
  rw [same, head?_compounds] at firsts
  rw [same, getLast?_compounds] at lasts
  rw [head?_text, head?_text, getLast?_text, getLast?_text, Option.some.inj firsts,
    Option.some.inj lasts]
  exact ⟨rfl, rfl⟩

--------------------------------------------------------------------------------
-- What is cut out of a chain
--------------------------------------------------------------------------------

theorem keepsIf_cutOut (chain : Complex) {rest : List Char} (stops : Stops rest)
    (apart : rest.head? ≠ some ':')
    : KeepsIf
        (∀ compound ∈ chain.compounds,
          (∀ piece ∈ compound.pieces, occursIn afterStripped? piece = false)
          ∧ Part.collide compound.front compound.parts = false)
        (chain.bare ++ cutOut afterStripped? rest)
        (cutOut afterStripped? (chain.text ++ rest)) := by
  induction chain generalizing rest with
  | single compound =>
    refine (compound.keepsIf_cutOut stops apart).congr ?_
    simp [compounds]
  | joined front joint last ih =>
    obtain ⟨stops', apart'⟩ := joint.stops (last.text ++ rest)
    have noColon : ':' ∉ joint.text := fun colon => (joint.isStop_of_mem ':' colon).2.1 rfl
    have first := ih stops' apart'
    rw [cutOut_of_not_mem noColon, ← List.append_assoc] at first
    simp only [text, bare, List.append_assoc]
    have both := first.append (last.keepsIf_cutOut stops apart)
    rw [List.append_assoc] at both
    refine both.congr ?_
    rw [compounds, List.forall_mem_append, List.forall_mem_singleton]

theorem occursIn_vendor_eq_false_iff (chain : Complex) {rest : List Char} (stops : Stops rest)
    : occursIn afterVendor? (chain.text ++ rest) = false
      ↔ (∀ compound ∈ chain.compounds,
          ∀ piece ∈ compound.pieces, occursIn afterVendor? piece = false)
        ∧ occursIn afterVendor? rest = false := by
  induction chain generalizing rest with
  | single compound =>
    rw [text, compound.occursIn_vendor_eq_false_iff stops, compounds, List.forall_mem_singleton]
  | joined front joint last ih =>
    have noColon : ':' ∉ joint.text := fun colon => (joint.isStop_of_mem ':' colon).2.1 rfl
    simp only [text, List.append_assoc]
    rw [ih (joint.stops _).1, isSearchFor_vendor.occursIn_of_not_mem noColon,
      last.occursIn_vendor_eq_false_iff stops, compounds, List.forall_mem_append,
      List.forall_mem_singleton, and_assoc]

/-- A chain without a vendor's pseudo keeps what is no pseudo that no page tells, or loses colons,
according to whether its compounds are mistaken. -/
theorem keepsIf_isUnmistaken {chain : Complex} (noVendor : occursIn afterVendor? chain.text = false)
    : KeepsIf (∀ compound ∈ chain.compounds, compound.IsUnmistaken) chain.bare
        (cutOut afterStripped? chain.text) := by
  have keeps := chain.keepsIf_cutOut stops_nil nofun
  have vendor := chain.occursIn_vendor_eq_false_iff stops_nil
  simp only [cutOut, occursIn, List.append_nil, and_true] at keeps vendor
  refine keeps.congr (forall₂_congr fun compound member => ?_)
  constructor
  · rintro ⟨unstripped, apart⟩
    exact ⟨unstripped, apart, vendor.mp noVendor compound member⟩
  · intro unmistaken
    exact ⟨unmistaken.unstripped, unmistaken.apart⟩

/-- Where no compound is mistaken, there is no vendor's pseudo. -/
theorem occursIn_vendor_of_isUnmistaken {chain : Complex}
    (unmistaken : ∀ compound ∈ chain.compounds, compound.IsUnmistaken)
    : occursIn afterVendor? chain.text = false := by
  have vendor := chain.occursIn_vendor_eq_false_iff stops_nil
  simp only [occursIn, List.append_nil, and_true] at vendor
  exact vendor.mpr fun compound member => (unmistaken compound member).noVendor

--------------------------------------------------------------------------------
-- Colons and stars
--------------------------------------------------------------------------------

/-- How many compounds are emptied. -/
def emptied (chain : Complex) : Nat :=
  (chain.compounds.map (·.isEmptied.toNat)).sum

theorem count_text {c : Char} (free : ∀ joint : Joint, joint.text.count c = 0) (chain : Complex)
    : chain.text.count c = (chain.compounds.map (·.text.count c)).sum := by
  induction chain with
  | single compound => simp [text, compounds]
  | joined front joint last ih => simp [text, compounds, List.count_append, ih, free joint]

theorem count_bare {c : Char} (free : ∀ joint : Joint, joint.text.count c = 0) (chain : Complex)
    : chain.bare.count c = (chain.compounds.map (·.bare.count c)).sum := by
  induction chain with
  | single compound => simp [bare, compounds]
  | joined front joint last ih => simp [bare, compounds, List.count_append, ih, free joint]

/-- The text of the decorated elements has the colons that are left, and a star more for each
emptied compound. -/
theorem count_text_of_compounds {chain found : Complex}
    (same : found.compounds = chain.compounds.map (·.decorated))
    : found.text.count ':' = chain.bare.count ':'
      ∧ found.text.count '*' = chain.bare.count '*' + chain.emptied := by
  rw [count_text fun joint => joint.count_text.1, count_text fun joint => joint.count_text.2,
    count_bare fun joint => joint.count_text.1, count_bare fun joint => joint.count_text.2, same,
    emptied]
  induction chain.compounds with
  | nil => exact ⟨rfl, rfl⟩
  | cons compound others ih =>
    obtain ⟨colons, stars⟩ := compound.count_text_decorated
    simp only [List.map_cons, List.sum_cons, colons, stars]
    omega

theorem emptied_eq_zero_iff (chain : Complex)
    : chain.emptied = 0 ↔ ∀ compound ∈ chain.compounds, compound.isEmptied = false := by
  rw [emptied]
  induction chain.compounds with
  | nil => simp
  | cons compound others ih =>
    rw [List.map_cons, List.sum_cons, Nat.add_eq_zero_iff, ih, List.forall_mem_cons,
      Bool.toNat_eq_zero]

end Complex

--------------------------------------------------------------------------------
-- The star behind a chain
--------------------------------------------------------------------------------

theorem isBlank_of_isCombinator {c : Char} (combinator : isCombinator c = true)
    : Text.isBlank c = false := by
  simp only [isCombinator, Bool.or_eq_true, beq_iff_eq] at combinator
  rcases combinator with (rfl | rfl) | rfl <;> decide

/-- The combinator with a single space behind it. -/
def Joint.spaced : Joint → Joint
  | descendant _ => descendant Media.Written.space
  | marked before mark _ => marked before mark Media.Written.space.toGap

/-- A star is put behind a combinator with a character of its own. Behind blanks it is only if the
text in front of them ends in such a character, which is an escaped one. -/
theorem completed_joint {front : List Char} (filled : front ≠ [])
    (start : ∀ c ∈ front.head?, Text.isBlank c = false) {joint : Joint}
    (shown : joint.mark? ≠ none ∨ endsInCombinator front = true)
    : completed (front ++ joint.text) = front ++ (joint.spaced.text ++ ['*']) := by
  obtain ⟨closing, blanks, isText, isSpaced, allBlank, combinator⟩
      : ∃ closing blanks : List Char,
          joint.text = closing ++ blanks
          ∧ joint.spaced.text = closing ++ [' ']
          ∧ (∀ c ∈ blanks, Text.isBlank c = true)
          ∧ endsInCombinator (front ++ closing) = true := by
    cases joint with
    | descendant space =>
      refine ⟨[], space.chars, rfl, rfl, fun c member => isBlank_of_isSpace (space.spaces c member),
        ?_⟩
      rw [List.append_nil]
      exact shown.resolve_left (by simp [Joint.mark?])
    | marked before mark after =>
      refine ⟨before.chars ++ [mark.char], after.chars, ?_, ?_,
        fun c member => isBlank_of_isSpace (after.spaces c member), ?_⟩
      · simp [Joint.text]
      · simp [Joint.spaced, Joint.text, Media.Written.space]
      · rw [← List.append_assoc, endsInCombinator, List.getLast?_concat]
        cases mark <;> rfl
  have trimmed : Text.trim (front ++ closing ++ blanks) = front ++ closing := by
    rw [Text.trim_append allBlank]
    refine Text.trim_of_ends ?_ fun c last => ?_
    · rwa [List.head?_append_of_ne_nil _ filled]
    · rw [endsInCombinator, Option.mem_def.mp last] at combinator
      exact isBlank_of_isCombinator combinator
  have lacks : lacksElement (front ++ closing ++ blanks) = true := by
    rw [lacksElement, trimmed, combinator, Bool.or_true]
  rw [isText, isSpaced, ← List.append_assoc, completed_of_lacksElement lacks, trimmed,
    if_neg (by simp [filled])]
  simp

/-- If a star is put behind blanks, the text in front of them ends in the character of a combinator.
-/
theorem endsInCombinator_of_completed {text front : List Char} (filled : front ≠ [])
    (lacks : lacksElement text = true) {space : Break}
    (same : completed text = front ++ (space.chars ++ ['*']))
    : endsInCombinator front = true := by
  obtain ⟨spaces, blank, isSpace⟩ := (List.eq_nil_or_concat space.chars).resolve_left space.some
  rw [List.concat_eq_append] at isSpace
  rw [completed_of_lacksElement lacks, isSpace] at same
  split at same
  · have sizes := congrArg List.length same
    have long := List.length_pos_iff.mpr filled
    simp only [List.length_append, List.length_singleton] at sizes
    omega
  · rename_i nonempty
    have whole : Text.trim text = front ++ spaces := by
      have split : Text.trim text ++ [' ', '*'] = (front ++ spaces) ++ [blank, '*'] := by
        simpa using same
      exact (List.append_inj' split rfl).1
    have combinator : endsInCombinator (front ++ spaces) = true := by
      rw [← whole]
      rw [lacksElement, List.isEmpty_eq_false_iff.mpr nonempty] at lacks
      exact lacks
    -- No blank is a combinator, so there is only one.
    rcases List.eq_nil_or_concat spaces with rfl | ⟨others, last, rfl⟩
    · rwa [List.append_nil] at combinator
    · rw [List.concat_eq_append, ← List.append_assoc, endsInCombinator, List.getLast?_concat]
        at combinator
      have blank := isBlank_of_isSpace (space.spaces last (by simp [isSpace]))
      exact absurd (isBlank_of_isCombinator combinator) (by simp [blank])

--------------------------------------------------------------------------------
-- The query
--------------------------------------------------------------------------------

namespace Complex

/-- A compound is emptied only at the end of the chain, and there a star is put in its place: behind
a combinator with a character of its own, or where the text in front of it ends in such a character.
-/
def IsRepaired : Complex → Prop
  | single _ => True
  | joined front joint last =>
    (∀ compound ∈ front.compounds, compound.isEmptied = false)
    ∧ (last.isEmptied = true
      → joint.mark? ≠ none ∨ endsInCombinator front.decorated.text = true)

/-- The query is the text of a chain of the decorated elements. -/
def IsAskedFor (chain : Complex) (query : List Char) : Prop :=
  ∃ found : Complex,
    found.compounds = chain.compounds.map (·.decorated)
    ∧ found.marks = chain.marks
    ∧ query = found.text

/-- The chains of the decorated elements have the same ends. -/
theorem IsAskedFor.isSettled {chain : Complex} {query : List Char} (asked : chain.IsAskedFor query)
    (settled : IsSettled query)
    : IsSettled chain.decorated.text := by
  obtain ⟨found, same, -, rfl⟩ := asked
  obtain ⟨heads, lasts⟩ := ends_of_compounds (same.trans chain.compounds_decorated.symm)
  exact ⟨heads ▸ settled.start, lasts ▸ settled.ends⟩

/-- What stands behind an emptied compound is not the end of the text. -/
theorem lacksElement_of_last {chain : Complex} (settled : IsSettled chain.decorated.text)
    (filled : chain.last.isEmptied = false)
    : lacksElement chain.bare = false := by
  have own : chain.last.decorated.text = chain.last.bare := by
    rw [Compound.text_decorated, filled]
    rfl
  have some : chain.last.bare ≠ [] := own ▸ chain.last.decorated.text_ne_nil
  have last : chain.decorated.last = chain.last.decorated := by cases chain <;> rfl
  have ends : chain.bare.getLast? = chain.decorated.text.getLast? := by
    rw [getLast?_text, last, own]
    cases chain with
    | single compound => rfl
    | joined front joint last =>
      rw [bare, ← List.append_assoc]
      exact List.getLast?_append_of_ne_nil _ some
  have isLast := List.getLast?_eq_some_getLast chain.decorated.text_ne_nil
  exact lacksElement_of_getLast? (ends.trans isLast) (settled.ends _ isLast).1
    (settled.ends _ isLast).2

/-- The query for a longer chain is one for its front, a combinator of the same kind, and the
decorated elements of the last compound. -/
theorem IsAskedFor.exists_front {front : Complex} {joint : Joint} {last : Compound}
    {query : List Char} (asked : (joined front joint last).IsAskedFor query)
    : ∃ (found : Complex) (between : Joint),
        found.compounds = front.decorated.compounds
        ∧ between.mark? = joint.mark?
        ∧ query = found.text ++ (between.text ++ last.decorated.text) := by
  obtain ⟨found, same, marks, rfl⟩ := asked
  cases found with
  | single compound => simp [Complex.marks] at marks
  | joined found between own =>
    rw [compounds, compounds, List.map_append] at same
    rw [Complex.marks, Complex.marks] at marks
    obtain ⟨fronts, lasts⟩ := List.append_inj' same rfl
    refine ⟨found, between, fronts.trans front.compounds_decorated.symm, ?_, ?_⟩
    · exact List.singleton_inj.mp (List.append_inj' marks rfl).2
    · rw [text, List.singleton_inj.mp lasts]

/-- A query for the decorated elements has a star for each emptied compound, so it tells where they
are. -/
theorem IsAskedFor.isRepaired {chain : Complex} (asked : chain.IsAskedFor (completed chain.bare))
    : chain.IsRepaired := by
  have settled := asked.isSettled (isSettled_completed chain.bare)
  have stars : chain.emptied = (lacksElement chain.bare).toNat := by
    obtain ⟨found, same, -, isText⟩ := asked
    have counted := (count_text_of_compounds same).2
    rw [← isText, count_star_completed] at counted
    omega
  cases chain with
  | single compound => exact trivial
  | joined front joint last =>
    have parts : (joined front joint last).emptied = front.emptied + last.isEmptied.toNat := by
      simp [emptied, compounds]
    have one := Bool.toNat_le (lacksElement (joined front joint last).bare)
    cases isLast : last.isEmptied with
    | false =>
      rw [lacksElement_of_last settled isLast] at stars
      refine ⟨front.emptied_eq_zero_iff.mp ?_, fun emptied => ?_⟩
      · exact (Nat.add_eq_zero_iff.mp (parts.symm.trans stars)).1
      · exact absurd emptied (by simp [isLast])
    | true =>
      rw [isLast, Bool.toNat_true] at parts
      refine ⟨front.emptied_eq_zero_iff.mp (by omega), fun _ => ?_⟩
      have lacks : lacksElement (joined front joint last).bare = true :=
        Bool.toNat_eq_one.mp (by omega)
      obtain ⟨found, between, same, marks, isText⟩ := asked.exists_front
      cases joint with
      | marked before mark after => exact .inl (by simp [Joint.mark?])
      | descendant space =>
        refine .inr ?_
        cases between with
        | marked before mark after => cases marks
        | descendant space' =>
          rw [Compound.text_decorated, isLast] at isText
          have combinator := endsInCombinator_of_completed found.text_ne_nil lacks isText
          rwa [endsInCombinator, (ends_of_compounds same).2] at combinator

/-- A chain that is repaired is asked for. -/
theorem IsRepaired.isAskedFor {chain : Complex} (repaired : chain.IsRepaired)
    (settled : IsSettled chain.decorated.text)
    : chain.IsAskedFor (completed chain.bare) := by
  by_cases filled : ∀ compound ∈ chain.compounds, compound.isEmptied = false
  · refine ⟨chain.decorated, chain.compounds_decorated, chain.marks_decorated, ?_⟩
    rw [text_decorated filled] at settled ⊢
    have some : chain.bare ≠ [] := text_decorated filled ▸ chain.decorated.text_ne_nil
    exact (completed_eq_self_iff some).mpr settled
  · cases chain with
    | single compound =>
      have emptied : compound.isEmptied = true := by simpa [compounds] using filled
      refine ⟨(single compound).decorated, compounds_decorated _, marks_decorated _, ?_⟩
      rw [bare, Compound.bare_of_isEmptied emptied, decorated, text, Compound.text_decorated,
        if_pos emptied]
      rfl
    | joined front joint last =>
      obtain ⟨fronts, shown⟩ := repaired
      rw [compounds, List.forall_mem_append, List.forall_mem_singleton] at filled
      have emptied : last.isEmptied = true :=
        Bool.of_not_eq_false fun none => filled ⟨fronts, none⟩
      have same := text_decorated fronts
      have start : ∀ c ∈ front.decorated.text.head?, Text.isBlank c = false := by
        have first := settled.start
        rwa [decorated, text, List.head?_append_of_ne_nil _ front.decorated.text_ne_nil] at first
      refine ⟨joined front.decorated joint.spaced last.decorated, ?_, ?_, ?_⟩
      · simp [compounds, compounds_decorated]
      · cases joint <;> simp [Complex.marks, marks_decorated, Joint.spaced, Joint.mark?]
      · rw [bare, Compound.bare_of_isEmptied emptied, List.append_nil, ← same, text,
          completed_joint front.decorated.text_ne_nil start (shown emptied),
          Compound.text_decorated, if_pos emptied]

/-- The query for a chain asks for the decorated elements, strict or not, exactly if no compound is
mistaken for something else, emptied compounds are repaired, and the ends of the chain stay as they
are. -/
theorem isAskedFor_iff (chain : Complex)
    : (∀ strict, ∃ found : Complex,
        found.compounds = chain.compounds.map (·.decorated)
        ∧ found.marks = chain.marks
        ∧ queryFor? (String.ofList chain.text) strict = some (String.ofList found.text))
      ↔ (∀ compound ∈ chain.compounds, compound.IsUnmistaken)
        ∧ chain.IsRepaired
        ∧ IsSettled chain.decorated.text := by
  constructor
  · intro asked
    obtain ⟨found, compounds, marks, query⟩ := asked true
    obtain ⟨noVendor, same⟩ := queryFor?_strict_eq_some_iff.mp query
    have colons : (cutOut afterStripped? chain.text).count ':' = chain.bare.count ':' := by
      rw [← count_colon_completed, same, (count_text_of_compounds compounds).1]
    obtain ⟨unmistaken, cut⟩ := (keepsIf_isUnmistaken noVendor).of_count colons
    have isAskedFor : chain.IsAskedFor (completed chain.bare) :=
      ⟨found, compounds, marks, cut ▸ same⟩
    exact ⟨unmistaken, isAskedFor.isRepaired,
      isAskedFor.isSettled (isSettled_completed chain.bare)⟩
  · rintro ⟨unmistaken, repaired, settled⟩ strict
    have noVendor := occursIn_vendor_of_isUnmistaken unmistaken
    have cut := (keepsIf_isUnmistaken noVendor).of_holds unmistaken
    obtain ⟨found, compounds, marks, same⟩ := repaired.isAskedFor settled
    refine ⟨found, compounds, marks, ?_⟩
    rw [queryFor?_of_noVendor noVendor, cut, same]

/-- The markers of all elements in lists. -/
def anyMarker : Complex :=
  joined
    (single
      { element := some { type := some (.plain "ul".toList (by decide) (by decide)) }
        parts := []
        filled := .inl nofun })
    (.descendant Media.Written.space)
    { parts := [.untold ⟨true, "marker".toList, "marker", by decide, by decide⟩]
      filled := .inr nofun }

/-- Behind blanks no star is put: the list is asked about, not the elements in it. -/
theorem not_isAskedFor_anyMarker
    : String.ofList anyMarker.text = "ul ::marker"
      ∧ String.ofList anyMarker.decorated.text = "ul *"
      ∧ queryFor? "ul ::marker" true = some "ul" := by
  have free : ':' ∉ "ul ".toList := by decide
  have gone : afterStripped? "::marker".toList = some [] := by decide
  have cut : cutOut afterStripped? "ul ::marker".toList = "ul ".toList := cutOut_of_last free gone
  have noVendor : occursIn afterVendor? "ul ::marker".toList = false := by decide
  have asked := queryFor?_of_noVendor noVendor true
  rw [cut] at asked
  exact ⟨by decide, by decide, asked.trans (by decide)⟩

end Complex

end CriticalCss.Selector.Written
