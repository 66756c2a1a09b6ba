import CriticalCss.Proofs.Media.Joined
import CriticalCss.Proofs.Media.Lengths
import CriticalCss.Proofs.Text.Lowered

/-! Values as they are read over all scripts. Only what is written as a length is read as one,
before lower case as well as after it; a whole length is read as its pixels, without any rounding.
-/

namespace CriticalCss.Media.Joined

open Decimal
open Written (Digits Mantissa)

--------------------------------------------------------------------------------
-- Units
--------------------------------------------------------------------------------

theorem map_toLower_of_isCaseOf {word text : List Char} (spelled : Text.IsCaseOf word text)
    (noS : 's' ∉ word)
    : text.map Char.toLower = word := by
  induction spelled with
  | nil => rfl
  | cons first _ ih =>
    rw [List.mem_cons, not_or] at noS
    rcases first with same | ⟨rfl, _⟩
    · rw [List.map_cons, same, ih noS.2]
    · exact absurd rfl noS.1

/-- A word without an s is found in letters of any case, and in no others. -/
theorem isWordIgnoringCase_iff (word : String) (folded : ∀ w ∈ word.toList, Text.IsFolded w)
    (noS : 's' ∉ word.toList) (text : List Char)
    : isWordIgnoringCase word text = true ↔ text.map Char.toLower = word.toList := by
  rw [isWordIgnoringCase, decide_eq_true_eq, Text.dropWordIgnoringCase_iff folded]
  constructor
  · rintro ⟨own, rfl, spelled⟩
    rw [List.append_nil]
    exact map_toLower_of_isCaseOf spelled noS
  · intro same
    refine ⟨text, (List.append_nil text).symm, ?_⟩
    rw [Text.IsCaseOf, ← same, List.forall₂_map_left_iff]
    exact List.forall₂_same.mpr fun c _ => Or.inl rfl

theorem isPixelUnit_iff (unit : List Char)
    : (unit.isEmpty || isWordIgnoringCase "px" unit) = true
      ↔ unit.map Char.toLower ∈ pixelUnits := by
  have px := isWordIgnoringCase_iff "px" (List.forall_iff_forall_mem.mp (by decide))
    (by decide) unit
  simp [px, pixelUnits]

theorem isEmUnit_iff (unit : List Char)
    : (isWordIgnoringCase "em" unit || isWordIgnoringCase "rem" unit) = true
      ↔ unit.map Char.toLower ∈ emUnits := by
  have em := isWordIgnoringCase_iff "em" (List.forall_iff_forall_mem.mp (by decide))
    (by decide) unit
  have rem := isWordIgnoringCase_iff "rem" (List.forall_iff_forall_mem.mp (by decide))
    (by decide) unit
  simp [em, rem, emUnits]

theorem toLower_of_mem_unit {unit : List Char}
    (known : unit.map Char.toLower ∈ pixelUnits ++ emUnits)
    : ∀ c ∈ unit, c.toLower ∈ "pxrem".toList := by
  have letters
      : ((pixelUnits ++ emUnits).all fun unit => unit.all fun c => c ∈ "pxrem".toList) = true := by
    decide
  intro c member
  have all := List.all_eq_true.mp (List.all_eq_true.mp letters _ known)
  exact of_decide_eq_true (all _ (List.mem_map_of_mem member))

/-- A letter of a unit that counts. -/
@[mk_iff]
structure IsUnitLetter (c : Char) : Prop where
  ascii : c.toNat < 128
  inside : Text.isBlank c = false
  noNumber : c.isDigit = false ∧ c ≠ '.'
  noCapital : c ≠ 'i' ∧ c ≠ 'k'

instance (c : Char) : Decidable (IsUnitLetter c) :=
  decidable_of_iff _ (isUnitLetter_iff c).symm

theorem isUnitLetter_of_mem {unit : List Char}
    (known : unit.map Char.toLower ∈ pixelUnits ++ emUnits)
    : ∀ c ∈ unit, IsUnitLetter c := by
  intro c member
  have small := toLower_of_mem_unit known c member
  have ascii : c.toNat < 128 := by
    refine Nat.lt_of_not_le fun beyond => ?_
    rw [Text.toLower_of_beyond beyond] at small
    have letters : ("pxrem".toList.all fun c => c.toNat < 128) = true := by decide
    have low := of_decide_eq_true (List.all_eq_true.mp letters c small)
    omega
  exact Text.forall_ascii (P := fun c => c.toLower ∈ "pxrem".toList → IsUnitLetter c) (by decide)
    ascii small

--------------------------------------------------------------------------------
-- What is read is a length
--------------------------------------------------------------------------------

theorem mantissa_of_mem {mantissa : Mantissa} {c : Char} (member : c ∈ mantissa.text)
    : c.isDigit = true ∨ c = '.' := by
  cases mantissa with
  | whole digits => exact Or.inl (digits.digits c member)
  | fraction front places =>
    rcases List.mem_append.mp member with inFront | behind
    · cases front with
      | none => cases inFront
      | some digits => exact Or.inl (digits.digits c inFront)
    · rcases List.mem_cons.mp behind with rfl | inPlaces
      · exact Or.inr rfl
      · exact Or.inl (places.digits c inPlaces)

theorem toNat_lt_of_isDigit {c : Char} (digit : c.isDigit = true) : c.toNat < 128 := by
  rw [Syntax.isDigit_iff] at digit
  omega

/-- What makes the characters of numbers what they are to the reader. -/
theorem of_mem_mantissa {mantissa : Mantissa} {c : Char} (member : c ∈ mantissa.text)
    : c.isAlpha = false ∧ c.toNat < 128 := by
  rcases mantissa_of_mem member with digit | rfl
  · have ascii := toNat_lt_of_isDigit digit
    refine ⟨?_, ascii⟩
    exact Text.forall_ascii (P := fun c => c.isDigit = true → c.isAlpha = false) (by decide) ascii
      digit
  · decide

/-- A number is read from a mantissa. -/
theorem exists_mantissa_of_readNumber {text rest : List Char} {number : Binary}
    (read : readNumber text = some (number, rest))
    : ∃ mantissa : Mantissa, text = mantissa.text ++ rest := by
  have digits (chars : List Char) : ∀ c ∈ chars.takeWhile Char.isDigit, c.isDigit = true :=
    fun c member => List.mem_takeWhile_imp member
  have whole := List.takeWhile_append_dropWhile (p := Char.isDigit) (l := text)
  unfold readNumber at read
  dsimp only at read
  split at read
  · rename_i behind point
    split at read
    · cases read
    · rename_i some
      obtain ⟨-, rfl⟩ := Prod.mk.inj (Option.some.inj read)
      have fraction := List.takeWhile_append_dropWhile (p := Char.isDigit) (l := behind)
      let places : Digits := ⟨behind.takeWhile Char.isDigit, digits behind, by simpa using some⟩
      rw [point, ← fraction] at whole
      by_cases none : text.takeWhile Char.isDigit = []
      · refine ⟨.fraction .none places, whole.symm.trans ?_⟩
        rw [none]
        rfl
      · let front : Digits := ⟨text.takeWhile Char.isDigit, digits text, none⟩
        refine ⟨.fraction (.some front) places, whole.symm.trans ?_⟩
        simp [Mantissa.text, front, places]
  · split at read
    · cases read
    · rename_i some
      obtain ⟨-, rfl⟩ := Prod.mk.inj (Option.some.inj read)
      exact ⟨.whole ⟨text.takeWhile Char.isDigit, digits text, by simpa using some⟩, whole.symm⟩

/-- Only what is written as a length is read as one. -/
theorem isLength_of_pixels? {text : List Char} (trimmed : Text.trim text = text)
    {pixels : Binary} (read : pixels? text = some pixels)
    : IsLength text := by
  rw [pixels?, trimmed] at read
  split at read
  · cases read
  · rename_i number rest numbered
    obtain ⟨mantissa, rfl⟩ := exists_mantissa_of_readNumber numbered
    have parts := List.takeWhile_append_dropWhile (p := Text.isBlank) (l := rest)
    refine ⟨mantissa, ⟨rest.takeWhile Text.isBlank, fun c => List.mem_takeWhile_imp⟩,
      rest.dropWhile Text.isBlank, by rw [parts], ?_⟩
    rw [List.mem_append]
    dsimp only [Text.trimStart] at read
    split at read
    · rename_i inPixels
      exact Or.inl ((isPixelUnit_iff _).mp inPixels)
    · split at read
      · rename_i inEms
        exact Or.inr ((isEmUnit_iff _).mp inEms)
      · cases read

--------------------------------------------------------------------------------
-- Lengths in lower case
--------------------------------------------------------------------------------

theorem IsLength.isFaithful {text : List Char} (is : IsLength text)
    : ∀ c ∈ text, Text.IsFaithful c := by
  obtain ⟨mantissa, space, unit, rfl, known⟩ := is
  simp only [List.forall_mem_append]
  refine ⟨?_, fun c member => Or.inr (space.blank c member), ?_⟩
  · intro c member
    obtain ⟨noLetter, ascii⟩ := of_mem_mantissa member
    refine Or.inl ⟨ascii, ?_, ?_⟩
    · rintro rfl
      cases noLetter
    · rintro rfl
      cases noLetter
  · intro c member
    have letter := isUnitLetter_of_mem known c member
    exact Or.inl ⟨letter.ascii, letter.noCapital⟩

/-- What is a length in lower case is one as it stands. -/
theorem isLength_of_map_toLower {text : List Char} (is : IsLength (text.map Char.toLower))
    : IsLength text := by
  obtain ⟨mantissa, space, unit, same, known⟩ := is
  obtain ⟨number, behind, rfl, ownNumber, ownBehind⟩ := List.map_eq_append_iff.mp same
  obtain ⟨blanks, letters, rfl, ownBlanks, ownLetters⟩ := List.map_eq_append_iff.mp ownBehind
  obtain rfl : number = mantissa.text :=
    Text.eq_of_map_toLower (fun c member => (of_mem_mantissa member).1) ownNumber
  obtain rfl : blanks = space.chars :=
    Text.eq_of_map_toLower (fun c member => Text.isAlpha_of_isBlank (space.blank c member))
      ownBlanks
  refine ⟨mantissa, space, letters, rfl, ?_⟩
  rwa [← ownLetters, Text.map_toLower_map_toLower] at known

/-- What is read as a length in lower case is one as it stands. -/
theorem isLength_of_lowered {text own : List Char} (lowered : Text.Lowered text own)
    (is : IsLength own)
    : IsLength text :=
  isLength_of_map_toLower (lowered.eq_of_isFaithful is.isFaithful ▸ is)

--------------------------------------------------------------------------------
-- Whole lengths
--------------------------------------------------------------------------------

namespace WholeLength

variable (length : WholeLength)

/-- In lower case a length differs in its unit alone. -/
theorem lowered_text {own : List Char} (lowered : Text.Lowered length.text own)
    : own = length.digits.chars ++ (length.space.chars ++ length.unit.map Char.toLower) := by
  obtain ⟨number, behind, rfl, lowNumber, lowBehind⟩ := lowered.exists_append
  obtain ⟨blanks, letters, rfl, lowBlanks, lowLetters⟩ := lowBehind.exists_append
  have inNumber {c : Char} (member : c ∈ (Mantissa.whole length.digits).text) :=
    of_mem_mantissa member
  have kept : length.digits.chars.map Char.toLower = length.digits.chars := by
    refine (List.map_congr_left fun c member => ?_).trans (List.map_id' _)
    exact (Text.toLower_eq_iff (inNumber member).1).mpr rfl
  rw [lowNumber.eq_of_isAscii fun c member => (inNumber member).2, kept,
    lowBlanks.eq_of_isBlank length.space.blank,
    lowLetters.eq_of_isAscii fun c member => (isUnitLetter_of_mem length.known c member).ascii]

/-- Nothing behind the digits goes on with the number. -/
theorem stop_digits {unit : List Char} (known : unit.map Char.toLower ∈ pixelUnits ++ emUnits)
    : ∀ c ∈ (length.space.chars ++ unit).head?, c.isDigit = false ∧ c ≠ '.' := by
  intro c first
  rcases List.mem_append.mp (List.mem_of_mem_head? first) with inSpace | inUnit
  · have blank := length.space.blank c inSpace
    constructor
    · refine Bool.eq_false_iff.mpr fun digit => ?_
      rw [Text.forall_ascii (P := fun c => c.isDigit = true → Text.isBlank c = false) (by decide)
        (toNat_lt_of_isDigit digit) digit] at blank
      cases blank
    · rintro rfl
      cases blank
  · exact (isUnitLetter_of_mem known c inUnit).noNumber

/-- A whole length is read as its pixels. -/
theorem pixels?_text {own : List Char} (lowered : Text.Lowered length.text own)
    (trimmed : Text.trim own = own)
    : ∃ number, pixels? own = some number ∧ number.IsExactly length.pixels := by
  have known : (length.unit.map Char.toLower).map Char.toLower ∈ pixelUnits ++ emUnits := by
    rw [Text.map_toLower_map_toLower]
    exact length.known
  have inside : ∀ c ∈ (length.unit.map Char.toLower).head?, Text.isBlank c = false :=
    fun c first => (isUnitLetter_of_mem known c (List.mem_of_mem_head? first)).inside
  have unit : Text.trimStart (length.space.chars ++ length.unit.map Char.toLower)
      = length.unit.map Char.toLower :=
    Text.dropWhile_append_of_head length.space.blank inside
  have number : (ofDecimal false length.digits.value 0).IsExactly length.digits.value :=
    isExactly_ofDecimal (length.small.trans (by decide))
  have few := length.small
  rw [pixels?, trimmed, length.lowered_text lowered,
    Written.Length.readNumber_append_whole length.digits (length.stop_digits known)]
  simp only [unit, isPixelUnit_iff, isEmUnit_iff, Text.map_toLower_map_toLower]
  by_cases ems : length.unit.map Char.toLower ∈ emUnits
  · have noPixels : length.unit.map Char.toLower ∉ pixelUnits := by
      have apart : ∀ unit ∈ emUnits, unit ∉ pixelUnits := by decide
      exact apart _ ems
    have product : IsBinary (length.digits.value * 2 ^ rootFontPower) :=
      ⟨length.digits.value, rootFontPower, by omega, by decide, by decide, by simp⟩
    have sixteen
        : ((length.digits.value * 16 : Nat) : ℚ) = length.digits.value * 2 ^ rootFontPower := by
      norm_num [rootFontPower]
    rw [if_neg noPixels, if_pos ems, pixels, if_pos (List.contains_iff_mem.mpr ems), sixteen]
    exact ⟨_, rfl, number.scale product⟩
  · have inPixels : length.unit.map Char.toLower ∈ pixelUnits :=
      (List.mem_append.mp length.known).resolve_right ems
    rw [if_pos inPixels, pixels, if_neg (mt List.contains_iff_mem.mp ems)]
    exact ⟨_, rfl, number⟩

end WholeLength

/-- The value of a feature exceeds a size, as it is read, if it is a whole length that does. -/
theorem Value.exists_exceeds_iff {value : Value} {own : List Char}
    (lowered : Text.Lowered value.chars own) (size : Int)
    : (∃ number ∈ pixels? own, number.exceeds size = true)
      ↔ ∃ pixels ∈ value.content.pixels?, size < (pixels : Int) := by
  have trimmed := lowered.trim_eq value.trimmed
  cases value.content with
  | whole length same =>
    rw [same] at lowered
    obtain ⟨number, read, exact⟩ := length.pixels?_text lowered trimmed
    simp only [read, Content.pixels?, Option.mem_some_iff, exists_eq_left', exact.exceeds_iff]
    norm_cast
  | other noLength =>
    have none : pixels? own = none := by
      cases read : pixels? own with
      | none => rfl
      | some number =>
        exact absurd (isLength_of_lowered lowered (isLength_of_pixels? trimmed read)) noLength
    simp [none, Content.pixels?]

end CriticalCss.Media.Joined
