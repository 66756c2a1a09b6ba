import CriticalCss.Proofs.Text.Lowering
import CriticalCss.Text.Alphanumeric
import Mathlib.Data.List.Forall2
import Mathlib.Tactic.MkIffOfInductiveProp

/-! Which characters are taken for a letter of the first 128 when case is ignored: the letter in
both cases, and a few from beyond. The long s counts as a small s, the sign for kelvins has the
small k for its lower case, and the capital dotted I the small i.
-/

namespace CriticalCss.Text

--------------------------------------------------------------------------------
-- Lower case beyond the first 128 characters
--------------------------------------------------------------------------------

/-- Single letters from beyond are left by the lower case of the first 128. -/
theorem toLower_of_beyond {c : Char} (beyond : 128 ≤ c.toNat) : c.toLower = c := by
  rcases Syntax.toLower_cases c with ⟨n, few, rfl⟩ | kept
  · have codes : ∀ n < 26, (Char.ofNat (65 + n)).toNat < 128 := by decide
    exact absurd (codes n few) (Nat.not_lt.mpr beyond)
  · exact kept

/-- Where the capitals of a row stand, and their small letters: these are characters, of which two
are among the first 128 and none is the long s or the dotless i, and neither the ones nor the others
are blanks. -/
@[mk_iff]
structure CaseRow.IsOfLetters (row : CaseRow) : Prop where
  valid : 0 ≤ row.first + row.offset
    ∧ (row.last + row.offset < 0xD800
      ∨ 0xDFFF < row.first + row.offset ∧ row.last + row.offset < 0x110000)
  beyond : 128 ≤ row.first + row.offset
    ∨ (row.first = 0x130 ∧ row.last = 0x130 ∧ row.offset = -199)
    ∨ (row.first = 0x212A ∧ row.last = 0x212A ∧ row.offset = -8383)
  noLongS : 0x17F < row.first + row.offset ∨ row.last + row.offset < 0x17F
  noDotlessI : 0x131 < row.first + row.offset ∨ row.last + row.offset < 0x131
  noBlank : (0xA0 < row.first ∧ row.last < 0x1680)
    ∨ (0x1680 < row.first ∧ row.last < 0x2000)
    ∨ (0x205F < row.first ∧ row.last < 0x3000)
    ∨ 0x3000 < row.first
  noSmallBlank : (0x20 < row.first + row.offset ∧ row.last + row.offset < 0x85)
    ∨ (0xA0 < row.first + row.offset ∧ row.last + row.offset < 0x1680)
    ∨ (0x1680 < row.first + row.offset ∧ row.last + row.offset < 0x2000)
    ∨ (0x205F < row.first + row.offset ∧ row.last + row.offset < 0x3000)
    ∨ 0x3000 < row.first + row.offset

instance (row : CaseRow) : Decidable row.IsOfLetters :=
  decidable_of_iff _ (CaseRow.isOfLetters_iff row).symm

theorem isOfLetters_of_mem : ∀ row ∈ lowercaseRows, row.IsOfLetters := by
  decide +kernel

/-- What a row says about a capital is a character. -/
theorem isValidChar_of_holds {row : CaseRow} (member : row ∈ lowercaseRows) {code : Nat}
    (holds : row.holds code = true)
    : (code + row.offset).toNat.isValidChar ∧ 0 ≤ code + row.offset := by
  simp only [CaseRow.holds, Bool.and_eq_true, decide_eq_true_eq] at holds
  obtain ⟨low, range⟩ := (isOfLetters_of_mem _ member).valid
  refine ⟨?_, by omega⟩
  rcases range with below | ⟨above, top⟩
  · exact Or.inl (by omega)
  · exact Or.inr ⟨by omega, by omega⟩

/-- A character from beyond is its own lower case, or a row says what its lower case is. -/
theorem lowerChar_eq_or_exists_row {c : Char} (beyond : 128 ≤ c.toNat)
    : lowerChar c = c
      ∨ ∃ row ∈ lowercaseRows,
          row.holds c.toNat = true ∧ ((lowerChar c).toNat : Int) = c.toNat + row.offset := by
  rw [lowerChar, if_neg (by omega)]
  split
  · rename_i row found
    have member := List.mem_of_find?_eq_some found
    have holds : row.holds c.toNat = true := by simpa using List.find?_some found
    obtain ⟨valid, positive⟩ := isValidChar_of_holds member holds
    have code : (Char.ofNat (c.toNat + row.offset).toNat).toNat = (c.toNat + row.offset).toNat := by
      rw [Char.ofNat, dif_pos valid]
      rfl
    refine Or.inr ⟨row, member, holds, ?_⟩
    rw [code]
    omega
  · exact Or.inl rfl

/-- A character that is in the range of no row is the lower case of itself alone. -/
theorem eq_of_lowerChar_eq {c small : Char} (beyond : 128 ≤ c.toNat)
    (outside
      : ∀ row ∈ lowercaseRows,
          (small.toNat : Int) < row.first + row.offset ∨ row.last + row.offset < small.toNat)
    (lowered : lowerChar c = small)
    : c = small := by
  rcases lowerChar_eq_or_exists_row beyond with same | ⟨row, member, holds, code⟩
  · exact same.symm.trans lowered
  · simp only [CaseRow.holds, Bool.and_eq_true, decide_eq_true_eq] at holds
    rw [lowered] at code
    have range := outside row member
    omega

/-- Two characters from beyond have their lower case among the first 128. -/
theorem lowerChar_of_beyond {c : Char} (beyond : 128 ≤ c.toNat)
    : 128 ≤ (lowerChar c).toNat
      ∨ (c = '\u0130' ∧ lowerChar c = 'i')
      ∨ (c = '\u212a' ∧ lowerChar c = 'k') := by
  rcases lowerChar_eq_or_exists_row beyond with same | ⟨row, member, holds, code⟩
  · rw [same]
    exact Or.inl beyond
  · simp only [CaseRow.holds, Bool.and_eq_true, decide_eq_true_eq] at holds
    rcases (isOfLetters_of_mem _ member).beyond
      with high | ⟨first, last, offset⟩ | ⟨first, last, offset⟩
    · exact Or.inl (by omega)
    · refine Or.inr (Or.inl ⟨Syntax.char_eq_iff.mpr ?_, Syntax.char_eq_iff.mpr ?_⟩)
      · rw [show '\u0130'.toNat = 0x130 from rfl]
        omega
      · rw [show 'i'.toNat = 0x69 from rfl]
        omega
    · refine Or.inr (Or.inr ⟨Syntax.char_eq_iff.mpr ?_, Syntax.char_eq_iff.mpr ?_⟩)
      · rw [show '\u212a'.toNat = 0x212A from rfl]
        omega
      · rw [show 'k'.toNat = 0x6B from rfl]
        omega

/-- Blanks are in the range of no row: each is the lower case of itself alone. -/
theorem eq_of_isBlank_lowerChar {c : Char} (beyond : 128 ≤ c.toNat)
    (blank : isBlank (lowerChar c) = true)
    : lowerChar c = c := by
  refine (eq_of_lowerChar_eq beyond ?_ rfl).symm
  intro row member
  have range := (isOfLetters_of_mem _ member).noSmallBlank
  simp only [isBlank, Bool.or_eq_true, Bool.and_eq_true, beq_iff_eq, decide_eq_true_eq] at blank
  omega

theorem isBlank_lowerChar (c : Char)
    : isBlank (lowerChar c) = isBlank c ∧ (isBlank c = true → lowerChar c = c) := by
  by_cases ascii : c.toNat < 128
  · rw [lowerChar, if_pos ascii]
    have own : isBlank c = true → c.toLower = c :=
      forall_ascii (P := fun c => isBlank c = true → c.toLower = c) (by decide) ascii
    exact ⟨isBlank_toLower c, own⟩
  · have kept : isBlank c = true → lowerChar c = c := by
      intro blank
      rcases lowerChar_eq_or_exists_row (Nat.le_of_not_lt ascii) with same | ⟨row, member, holds, _⟩
      · exact same
      · have range := (isOfLetters_of_mem _ member).noBlank
        simp only [CaseRow.holds, Bool.and_eq_true, decide_eq_true_eq] at holds
        simp only [isBlank, Bool.or_eq_true, Bool.and_eq_true, beq_iff_eq, decide_eq_true_eq]
          at blank
        omega
    refine ⟨?_, kept⟩
    cases blank : isBlank c with
    | true => rw [kept blank, blank]
    | false =>
      refine Bool.eq_false_iff.mpr fun lowered => ?_
      rw [eq_of_isBlank_lowerChar (Nat.le_of_not_lt ascii) lowered, blank] at lowered
      cases lowered

--------------------------------------------------------------------------------
-- Characters that are the same when case is ignored
--------------------------------------------------------------------------------

/-- Of the characters from beyond four are taken for letters of the first 128: the dotted and the
dotless i, the sign for kelvins, and the long s. -/
theorem caseKey_of_beyond {c : Char} (beyond : 128 ≤ c.toNat)
    : 128 ≤ (caseKey c).toNat
      ∨ (caseKey c = 'i' ∧ (c = '\u0130' ∨ c = '\u0131'))
      ∨ (caseKey c = 'k' ∧ c = '\u212a')
      ∨ (caseKey c = 's' ∧ c = '\u017f') := by
  have classes
      : ∀ cls ∈ lowercaseClasses, ∀ first ∈ cls.head?,
          (128 ≤ first ∧ first < 0xD800 ∨ 0xE000 ≤ first ∧ first < 0x110000)
          ∨ (first = 0x69 ∧ ∀ code ∈ cls, code = 0x69 ∨ code = 0x131)
          ∨ (first = 0x73 ∧ ∀ code ∈ cls, code = 0x73 ∨ code = 0x17F) := by
    decide +kernel
  have lowered := lowerChar_of_beyond beyond
  unfold caseKey
  dsimp only
  split
  · rename_i first others found
    have member := List.mem_of_find?_eq_some found
    have holds : (lowerChar c).toNat ∈ first :: others := by simpa using List.find?_some found
    rcases classes _ member first rfl with high | ⟨rfl, members⟩ | ⟨rfl, members⟩
    · left
      have valid : first.isValidChar := by
        rcases high with high | high
        · exact Or.inl high.2
        · exact Or.inr ⟨by omega, high.2⟩
      rw [Char.ofNat, dif_pos valid]
      rcases high with high | high
      · exact high.1
      · exact Nat.le_trans (by decide) high.1
    · refine Or.inr (Or.inl ⟨rfl, ?_⟩)
      have code := members _ holds
      rcases lowered with high | ⟨dotted, _⟩ | ⟨_, same⟩
      · refine Or.inr (eq_of_lowerChar_eq beyond
          (fun _ member => (isOfLetters_of_mem _ member).noDotlessI) (Syntax.char_eq_iff.mpr ?_))
        exact code.resolve_left (by omega)
      · exact Or.inl dotted
      · rw [same] at code
        exact absurd code (by decide)
    · refine Or.inr (Or.inr (Or.inr ⟨rfl, ?_⟩))
      have code := members _ holds
      have beyondS : (lowerChar c).toNat = 0x17F := by
        rcases lowered with high | ⟨_, same⟩ | ⟨_, same⟩
        · omega
        · rw [same] at code
          exact absurd code (by decide)
        · rw [same] at code
          exact absurd code (by decide)
      exact eq_of_lowerChar_eq beyond (fun _ member => (isOfLetters_of_mem _ member).noLongS)
        (Syntax.char_eq_iff.mpr beyondS)
  · rcases lowered with high | ⟨dotted, same⟩ | ⟨kelvin, same⟩
    · exact Or.inl high
    · exact Or.inr (Or.inl ⟨same, Or.inl dotted⟩)
    · exact Or.inr (Or.inr (Or.inl ⟨same, kelvin⟩))

/-- What is taken for a character of the first 128 is alphanumeric, unless it is one of them. -/
theorem isAlphanumeric_of_caseKey {c : Char} (beyond : 128 ≤ c.toNat)
    (low : (caseKey c).toNat < 128)
    : isAlphanumeric c = true := by
  rcases caseKey_of_beyond beyond with high | ⟨_, rfl | rfl⟩ | ⟨_, rfl⟩ | ⟨_, rfl⟩
  · omega
  all_goals decide +kernel

/-- A character of the first 128, and no capital, that besides its capital at most the long s is
taken for. -/
@[mk_iff]
structure IsFolded (w : Char) : Prop where
  ascii : w.toNat < 128
  small : w.toLower = w
  plain : w ≠ 'i' ∧ w ≠ 'k'

instance (w : Char) : Decidable (IsFolded w) :=
  decidable_of_iff _ (isFolded_iff w).symm

/-- A small letter is the same as its capital, and the small s also as the long one. -/
theorem sameIgnoringCase_iff {w : Char} (folded : IsFolded w) (c : Char)
    : sameIgnoringCase w c = true ↔ c.toLower = w ∨ (w = 's' ∧ c = '\u017f') := by
  obtain ⟨ascii, small, plain⟩ := folded
  rw [sameIgnoringCase, caseKey_of_toLower ascii small, beq_iff_eq]
  by_cases inside : c.toNat < 128
  · have notLong : c ≠ '\u017f' := by
      rintro rfl
      exact absurd inside (by decide)
    simp [caseKey_of_ascii inside, notLong, eq_comm]
  · have kept : c.toLower = c := toLower_of_beyond (Nat.le_of_not_lt inside)
    have notOwn : c ≠ w := by
      rintro rfl
      exact inside ascii
    rw [kept]
    constructor
    · intro same
      rcases caseKey_of_beyond (Nat.le_of_not_lt inside)
        with high | ⟨isI, _⟩ | ⟨isK, _⟩ | ⟨isS, long⟩
      · rw [← same] at high
        omega
      · exact absurd (same.trans isI) plain.1
      · exact absurd (same.trans isK) plain.2
      · exact Or.inr ⟨same.trans isS, long⟩
    · rintro (same | ⟨rfl, rfl⟩)
      · exact absurd same notOwn
      · decide +kernel

/-- The text is the word, in letters of any case. The long s is one of the small letters s. -/
def IsCaseOf (word text : List Char) : Prop :=
  List.Forall₂ (fun w c => c.toLower = w ∨ (w = 's' ∧ c = '\u017f')) word text

theorem isCaseOf_reverse {word text : List Char}
    : IsCaseOf word.reverse text.reverse ↔ IsCaseOf word text :=
  List.forall₂_reverse_iff

/-- A text begins with a word, case ignored, if its first part is the word in letters of any case.
-/
theorem dropWordIgnoringCase_iff {word : List Char} (folded : ∀ w ∈ word, IsFolded w)
    {text rest : List Char}
    : dropWordIgnoringCase word text = some rest
      ↔ ∃ own, text = own ++ rest ∧ IsCaseOf word own := by
  induction word generalizing text with
  | nil =>
    simp [dropWordIgnoringCase, IsCaseOf, List.forall₂_nil_left_iff]
  | cons w word ih =>
    rw [List.forall_mem_cons] at folded
    cases text with
    | nil => simp [dropWordIgnoringCase, IsCaseOf]
    | cons c text =>
      rw [dropWordIgnoringCase]
      constructor
      · intro found
        split at found
        · rename_i same
          obtain ⟨own, rfl, spelled⟩ := (ih folded.2).mp found
          exact ⟨c :: own, rfl, .cons ((sameIgnoringCase_iff folded.1 c).mp same) spelled⟩
        · cases found
      · rintro ⟨own, whole, spelled⟩
        cases spelled with
        | cons first others =>
          obtain ⟨rfl, rfl⟩ := List.cons.inj whole
          rw [if_pos ((sameIgnoringCase_iff folded.1 _).mpr first)]
          exact (ih folded.2).mpr ⟨_, rfl, others⟩

end CriticalCss.Text
