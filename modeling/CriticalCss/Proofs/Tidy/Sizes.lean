import CriticalCss.Proofs.Media.Lengths
import CriticalCss.Proofs.Tidy.Written

/-! Words that look like a font size: a keyword, or a number with its unit, and maybe a line height
behind a slash. The number is read as that of a length in a media query, with a sign allowed.
-/

namespace CriticalCss.Tidy

open Media.Written (Sign Mantissa)

/-- Does the word look like a font size? -/
def looksLikeSize (word : List Char) : Bool :=
  isFontSize (Text.lower word)

--------------------------------------------------------------------------------
-- Numbers
--------------------------------------------------------------------------------

/-- A number that a size starts with is read as that of a length, behind its sign. -/
theorem afterSizeNumber?_eq (sign : Option Sign) {number : List Char}
    (bare : ∀ c ∈ number.head?, c ≠ '+' ∧ c ≠ '-')
    : afterSizeNumber? ((sign.map (·.char)).toList ++ number)
      = (Media.readNumber number).map (·.2) := by
  have unsigned
      : afterSizeNumber? ((sign.map (·.char)).toList ++ number) = afterSizeNumber? number := by
    rcases sign with _ | _ | _
    · rfl
    · cases number with
      | nil => rfl
      | cons c rest => simp [afterSizeNumber?, Sign.char, bare c rfl]
    · cases number with
      | nil => rfl
      | cons c rest => simp [afterSizeNumber?, Sign.char, bare c rfl]
  rw [unsigned, Media.readNumber]
  cases number with
  | nil => rfl
  | cons c rest =>
    simp only [afterSizeNumber?, bare c rfl, decide_false, Bool.or_self, Bool.false_eq_true,
      if_false]
    cases (c :: rest).dropWhile Char.isDigit with
    | nil => by_cases none : ((c :: rest).takeWhile Char.isDigit).isEmpty = true <;> simp [none]
    | cons d behind =>
      by_cases point : d = '.'
      · by_cases none : (behind.takeWhile Char.isDigit).isEmpty = true <;> simp [point, none]
      · by_cases none : ((c :: rest).takeWhile Char.isDigit).isEmpty = true <;> simp [point, none]

/-- No sign starts a number without one. -/
theorem head?_mantissa (mantissa : Mantissa) (after : List Char)
    : ∀ c ∈ (mantissa.text ++ after).head?, c ≠ '+' ∧ c ≠ '-' := by
  have digitFirst (digits : Media.Written.Digits) (behind : List Char)
      : ∀ c ∈ (digits.chars ++ behind).head?, c ≠ '+' ∧ c ≠ '-' := by
    obtain ⟨first, rest, chars⟩ := List.exists_cons_of_ne_nil digits.some
    have digit : first.isDigit = true := digits.digits first (chars ▸ List.mem_cons_self)
    rw [chars]
    rintro c ⟨⟩
    refine ⟨?_, ?_⟩
    · rintro rfl
      cases digit
    · rintro rfl
      cases digit
  cases mantissa with
  | whole digits => exact digitFirst digits after
  | fraction front places =>
    rw [Media.Written.Mantissa.text, List.append_assoc]
    cases front with
    | none =>
      rintro c ⟨⟩
      decide
    | some digits => exact digitFirst digits _

/-- The number of a size is passed where nothing goes on with it. -/
theorem afterSizeNumber?_append (sign : Option Sign) (mantissa : Mantissa) {after : List Char}
    (stop : ∀ c ∈ after.head?, c.isDigit = false ∧ c ≠ '.')
    : afterSizeNumber? ((sign.map (·.char)).toList ++ (mantissa.text ++ after)) = some after := by
  rw [afterSizeNumber?_eq sign (head?_mantissa mantissa after)]
  cases mantissa with
  | whole digits =>
    rw [Media.Written.Mantissa.text, Media.Written.Length.readNumber_append_whole digits stop]
    rfl
  | fraction front places =>
    have noDigit : ∀ c ∈ after.head?, c.isDigit = false := by
      intro c first
      exact (stop c first).1
    rw [Media.Written.Length.readNumber_append_fraction front places noDigit]
    rfl

/-- What may stand behind a size in its word: nothing, or a slash and a line height. -/
def IsHeightText (text : List Char) : Prop :=
  text = [] ∨ ∃ height ≠ [], text = '/' :: height

/-- A character of a unit, in lower case. -/
def isUnitChar (c : Char) : Bool :=
  ('a' ≤ c && c ≤ 'z') || c == '%'

theorem isUnitChar_iff {c : Char}
    : isUnitChar c = true ↔ (97 ≤ c.toNat ∧ c.toNat ≤ 122) ∨ c.toNat = 37 := by
  simp [isUnitChar, Char.le_def, UInt32.le_iff_toNat_le, Syntax.char_eq_iff]

theorem isUnitChar_toLower {c : Char} (letter : c.isAlpha = true ∨ c = '%')
    : c.toNat < 128 ∧ isUnitChar c.toLower = true := by
  rcases letter with letter | rfl
  · have ascii : c.toNat < 128 := by
      rw [Syntax.isAlpha_iff] at letter
      omega
    exact ⟨ascii, Text.forall_ascii (P := fun c => c.isAlpha = true → isUnitChar c.toLower = true)
      (by decide) ascii letter⟩
  · decide

/-- A number with a unit in lower case is a size, and so it is with a line height. -/
theorem isFontSize_of_measured (sign : Option Sign) (mantissa : Mantissa) {unit height : List Char}
    (letters : ∀ c ∈ unit, isUnitChar c = true) (ends : IsHeightText height)
    : isFontSize ((sign.map (·.char)).toList ++ (mantissa.text ++ (unit ++ height))) = true := by
  have slash {c : Char} (first : c ∈ height.head?) : c = '/' := by
    rcases ends with rfl | ⟨behind, some, rfl⟩
    · cases first
    · cases first
      rfl
  have noUnit : ∀ c ∈ height.head?, isUnitChar c = false := by
    intro c first
    rw [slash first]
    decide
  have stop : ∀ c ∈ (unit ++ height).head?, c.isDigit = false ∧ c ≠ '.' := by
    intro c first
    cases unit with
    | nil =>
      rw [slash first]
      decide
    | cons d others =>
      cases first
      have own := isUnitChar_iff.mp (letters c List.mem_cons_self)
      rw [Bool.eq_false_iff, ne_eq, Syntax.isDigit_iff, ne_eq, Syntax.char_eq_iff,
        show '.'.toNat = 46 from rfl]
      omega
  rw [isFontSize, afterSizeNumber?_append sign mantissa stop, Bool.or_eq_true]
  refine Or.inr ?_
  have passed : (unit ++ height).dropWhile isUnitChar = height :=
    Text.dropWhile_append_of_head letters noUnit
  unfold isUnitChar at passed
  simp only [passed]
  rcases ends with rfl | ⟨behind, some, rfl⟩
  · rfl
  · simpa using some

/-- Lower case leaves the slash, and something behind it if there was something. -/
theorem IsHeightText.exists_lower {text height : List Char} (ends : IsHeightText height)
    (ascii : Text.IsAscii text)
    : ∃ ending,
        Text.lower (text ++ height) = text.map Char.toLower ++ ending
        ∧ IsHeightText ending := by
  rcases ends with rfl | ⟨behind, some, rfl⟩
  · obtain ⟨ending, same, none⟩ := Text.exists_lower_append ascii []
    exact ⟨ending, same, Or.inl (none.mpr rfl)⟩
  · have slashed : Text.IsAscii (text ++ ['/']) := ascii.append (by simp [Text.IsAscii])
    obtain ⟨ending, same, none⟩ := Text.exists_lower_append slashed behind
    exact ⟨'/' :: ending, by simpa using same, Or.inr ⟨ending, mt none.mp some, rfl⟩⟩

/-- A number with a unit looks like a size, alone or with a line height behind a slash. -/
theorem looksLikeSize_of_isMeasured {text height : List Char} (measured : Written.IsMeasured text)
    (ends : IsHeightText height)
    : looksLikeSize (text ++ height) = true := by
  obtain ⟨sign, mantissa, unit, letters, rfl⟩ := measured
  generalize front : (sign.map (·.char)).toList ++ (mantissa.text ++ unit) = text
  have plain {c : Char} (member : c ∈ (sign.map (·.char)).toList ++ mantissa.text)
      : Media.Written.IsPlain c := by
    rcases List.mem_append.mp member with inSign | inMantissa
    · exact Media.Written.isPlain_of_isLengthChar (Media.Written.isLengthChar_of_mem_sign inSign)
    · exact Media.Written.isPlain_of_isLengthChar (mantissa.isLengthChar_of_mem inMantissa)
  have ascii : Text.IsAscii text := by
    rw [← front, ← List.append_assoc]
    refine Text.IsAscii.append (fun c member => (plain member).ascii) ?_
    intro c member
    exact (isUnitChar_toLower (letters c member)).1
  have small
      : text.map Char.toLower
        = (sign.map (·.char)).toList ++ (mantissa.text ++ unit.map Char.toLower) := by
    have same
        : ((sign.map (·.char)).toList ++ mantissa.text).map Char.toLower
          = (sign.map (·.char)).toList ++ mantissa.text :=
      (List.map_congr_left fun c member => (plain member).small).trans (List.map_id _)
    rw [← front, ← List.append_assoc, List.map_append, same, List.append_assoc]
  obtain ⟨ending, same, ends⟩ := ends.exists_lower ascii
  rw [looksLikeSize, same, small, List.append_assoc, List.append_assoc]
  refine isFontSize_of_measured sign mantissa ?_ ends
  rw [List.forall_mem_map]
  intro c member
  exact (isUnitChar_toLower (letters c member)).2

/-- A keyword looks like a size, with letters of any case. -/
theorem looksLikeSize_of_keyword {word : List Char}
    (listed : word.map Char.toLower ∈ sizeWords.map String.toList)
    : looksLikeSize word = true := by
  have listedAscii
      : ∀ text ∈ sizeWords.map String.toList, text.all (fun c => c.toNat < 128) = true := by
    decide
  have ascii : Text.IsAscii word :=
    Text.isAscii_of_map_toLower (List.all_iff_forall_prop.mp (listedAscii _ listed))
  obtain ⟨keyword, member, same⟩ := List.mem_map.mp listed
  rw [looksLikeSize, Text.lower_of_isAscii ascii, ← same, isFontSize, String.ofList_toList,
    List.contains_iff_mem.mpr member, Bool.true_or]

end CriticalCss.Tidy
