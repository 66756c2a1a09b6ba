import CriticalCss.Syntax.Writer

/-! Names and quoted values read back as they were before they were written. Each character is
written on its own, as it is or as an escape, and reading takes it off again whatever follows; only
the end of a name depends on what stands behind it.
-/

namespace CriticalCss.Syntax

--------------------------------------------------------------------------------
-- Characters by code point
--------------------------------------------------------------------------------

theorem char_eq_iff {c d : Char} : c = d ↔ c.toNat = d.toNat :=
  Char.toNat_inj.symm

theorem isDigit_iff {c : Char} : c.isDigit = true ↔ 48 ≤ c.toNat ∧ c.toNat ≤ 57 := by
  simp [Char.isDigit, UInt32.le_iff_toNat_le]

theorem isAlpha_iff {c : Char}
    : c.isAlpha = true ↔ (65 ≤ c.toNat ∧ c.toNat ≤ 90) ∨ (97 ≤ c.toNat ∧ c.toNat ≤ 122) := by
  have letters
      : c.isAlpha
        = (decide (c.val ≥ 'A'.val ∧ c.val ≤ 'Z'.val)
          || (decide (c.val ≥ 'a'.val) && decide (c.val ≤ 'z'.val))) :=
    rfl
  simp [letters, UInt32.le_iff_toNat_le]

/-- A character is one of the capital letters, or stays as it is in lower case. -/
theorem toLower_cases (c : Char) : (∃ n < 26, c = Char.ofNat (65 + n)) ∨ c.toLower = c := by
  by_cases upper : c.val ≥ 'A'.val ∧ c.val ≤ 'Z'.val
  · have low : 65 ≤ c.toNat := by simpa [UInt32.le_iff_toNat_le] using upper.1
    have high : c.toNat ≤ 90 := by simpa [UInt32.le_iff_toNat_le] using upper.2
    refine Or.inl ⟨c.toNat - 65, by omega, ?_⟩
    rw [Nat.add_sub_cancel' low, Char.ofNat_toNat]
  · exact Or.inr (dif_neg upper)

theorem toLower_toLower (c : Char) : c.toLower.toLower = c.toLower := by
  have letters
      : ∀ n < 26, (Char.ofNat (65 + n)).toLower.toLower = (Char.ofNat (65 + n)).toLower := by
    decide
  rcases toLower_cases c with ⟨n, small, rfl⟩ | kept
  · exact letters n small
  · rw [kept, kept]

theorem isHexDigit_iff {c : Char}
    : Text.isHexDigit c = true
      ↔ (48 ≤ c.toNat ∧ c.toNat ≤ 57) ∨ (97 ≤ c.toNat ∧ c.toNat ≤ 102)
        ∨ (65 ≤ c.toNat ∧ c.toNat ≤ 70) := by
  simp [Text.isHexDigit, isDigit_iff, Char.le_def, UInt32.le_iff_toNat_le, or_assoc]

theorem isNameStart_iff {c : Char}
    : isNameStart c = true
      ↔ (65 ≤ c.toNat ∧ c.toNat ≤ 90) ∨ (97 ≤ c.toNat ∧ c.toNat ≤ 122) ∨ c.toNat = 95
        ∨ 127 < c.toNat := by
  simp [isNameStart, isAlpha_iff, char_eq_iff, or_assoc]

theorem isNamePart_iff {c : Char}
    : isNamePart c = true
      ↔ isNameStart c = true ∨ (48 ≤ c.toNat ∧ c.toNat ≤ 57) ∨ c.toNat = 45 := by
  simp [isNamePart, isDigit_iff, char_eq_iff, or_assoc]

theorem isSpace_iff {c : Char}
    : isSpace c = true ↔ c.toNat = 32 ∨ c.toNat = 10 ∨ c.toNat = 9 := by
  simp [isSpace, char_eq_iff, or_assoc]

theorem isLineEnd_iff {c : Char}
    : isLineEnd c = true ↔ c.toNat = 10 ∨ c.toNat = 13 ∨ c.toNat = 12 := by
  simp [isLineEnd, char_eq_iff, or_assoc]

--------------------------------------------------------------------------------
-- Escapes
--------------------------------------------------------------------------------

/-- The characters that are ever written by code point: line ends, tabs, and digits. -/
def isCoded (c : Char) : Bool :=
  isLineEnd c || c == '\t' || c.isDigit

theorem mem_digits {c : Char} (digit : c.isDigit = true)
    : c ∈ ['0', '1', '2', '3', '4', '5', '6', '7', '8', '9'] := by
  have bounds := isDigit_iff.mp digit
  have codes
      : ∀ code < 10,
          Char.ofNat (48 + code) ∈ ['0', '1', '2', '3', '4', '5', '6', '7', '8', '9'] := by
    decide
  have own := codes (c.toNat - 48) (by omega)
  rwa [Nat.add_sub_cancel' bounds.1, Char.ofNat_toNat] at own

/-- An escape by code point is a backslash and what reads as its character. -/
theorem hexEscape_eq {c : Char} (coded : isCoded c = true)
    : ∃ first others,
        hexEscape c = '\\' :: first :: others
        ∧ first ≠ '\n'
        ∧ ∀ after, readEscape (first :: (others ++ after)) = (c, others.length + 1) := by
  have known
      : c = '\n' ∨ c = '\r' ∨ c = '\x0c' ∨ c = '\t'
        ∨ c ∈ ['0', '1', '2', '3', '4', '5', '6', '7', '8', '9'] := by
    simp only [isCoded, isLineEnd, Bool.or_eq_true, beq_iff_eq, or_assoc] at coded
    exact coded.imp_right (.imp_right (.imp_right (.imp_right mem_digits)))
  simp only [List.mem_cons, List.not_mem_nil, or_false] at known
  rcases known with rfl | rfl | rfl | rfl | rfl | rfl | rfl | rfl | rfl | rfl | rfl | rfl | rfl | rfl
    <;> exact ⟨_, _, rfl, by decide, fun _ => rfl⟩

/-- A character that is no hexadecimal digit is an escape of its own. -/
theorem readEscape_of_not_hex {c : Char} (plain : Text.isHexDigit c = false) (after : List Char)
    : readEscape (c :: ([] ++ after)) = (c, ([] : List Char).length + 1) := by
  simp [readEscape, plain]

theorem isHexDigit_of_not_isNamePart {c : Char} (noPart : isNamePart c ≠ true)
    : Text.isHexDigit c = false := by
  rw [Ne, isNamePart_iff, isNameStart_iff] at noPart
  rw [← Bool.not_eq_true, isHexDigit_iff]
  omega

theorem startsEscape_backslash {first : Char} {rest : List Char} (noLineEnd : first ≠ '\n')
    : startsEscape ('\\' :: first :: rest) = true := by
  simp [startsEscape, noLineEnd]

--------------------------------------------------------------------------------
-- Names
--------------------------------------------------------------------------------

/-- Does a name end before the text? -/
def endsName (text : List Char) : Bool :=
  !text.head?.any isNamePart && !startsEscape text

theorem readName_of_endsName {text : List Char} (ends : endsName text = true)
    : readName text = ([], 0) := by
  cases text with
  | nil => rw [readName]
  | cons c rest =>
    simp only [endsName, List.head?_cons, Option.any_some, Bool.and_eq_true,
      Bool.not_eq_true'] at ends
    rw [readName]
    simp [ends.1, ends.2]

/-- Reading a name takes an escape off as one character. -/
theorem readName_backslash {c first : Char} {others after : List Char} (noLineEnd : first ≠ '\n')
    (escape : readEscape (first :: (others ++ after)) = (c, others.length + 1))
    : readName ('\\' :: first :: (others ++ after))
      = (c :: (readName after).1, others.length + 2 + (readName after).2) := by
  have noPart : isNamePart '\\' = false := by decide
  rw [readName]
  simp [noPart, startsEscape_backslash noLineEnd, escape]
  omega

/-- A character written by code point is taken off as one. -/
theorem readName_hexEscape {c : Char} (coded : isCoded c = true) (after : List Char)
    : readName (hexEscape c ++ after)
      = (c :: (readName after).1, (hexEscape c).length + (readName after).2) := by
  obtain ⟨first, others, written, noLineEnd, escape⟩ := hexEscape_eq coded
  simp [written, readName_backslash noLineEnd (escape after)]

/-- A character behind a backslash is taken off as one. -/
theorem readName_escaped {c : Char} (noHex : Text.isHexDigit c = false) (noLineEnd : c ≠ '\n')
    (after : List Char)
    : readName ('\\' :: c :: after) = (c :: (readName after).1, 2 + (readName after).2) := by
  simpa using readName_backslash noLineEnd (readEscape_of_not_hex noHex after)

/-- A character of a name is taken off whatever follows. -/
theorem readName_nameChar (c : Char) (after : List Char)
    : readName (nameChar c ++ after)
      = (c :: (readName after).1, (nameChar c).length + (readName after).2) := by
  unfold nameChar
  split
  · rename_i part
    rw [List.singleton_append, readName]
    simp [part, Nat.add_comm]
  · rename_i noPart
    split
    · rename_i lineEnd
      exact readName_hexEscape (by simp [isCoded, lineEnd]) after
    · rename_i noLineEnd
      have other : c ≠ '\n' := by
        rintro rfl
        exact noLineEnd rfl
      simpa using readName_escaped (isHexDigit_of_not_isNamePart noPart) other after

/-- The first character of a name is taken off whatever follows. -/
theorem readName_identStartChar (c : Char) (after : List Char)
    : readName (identStartChar c ++ after)
      = (c :: (readName after).1, (identStartChar c).length + (readName after).2) := by
  unfold identStartChar
  split
  · rename_i start
    rw [List.singleton_append, readName]
    simp [isNamePart, start, Nat.add_comm]
  · rename_i noStart
    split
    · rename_i coded
      exact readName_hexEscape (by simpa [isCoded, or_assoc, or_left_comm] using Or.inr coded) after
    · rename_i notCoded
      simp only [Bool.or_eq_true, not_or] at notCoded
      have other : c ≠ '\n' := by
        rintro rfl
        exact notCoded.1 rfl
      have noHex : Text.isHexDigit c = false := by
        have noDigit := notCoded.2
        rw [isNameStart_iff] at noStart
        rw [isDigit_iff] at noDigit
        rw [← Bool.not_eq_true, isHexDigit_iff]
        omega
      simpa using readName_escaped noHex other after

/-- A name that something precedes reads back. -/
theorem readName_writeName {after : List Char} (ends : endsName after = true) (name : List Char)
    : readName (writeName name ++ after) = (name, (writeName name).length) := by
  induction name with
  | nil => exact readName_of_endsName ends
  | cons c rest ih =>
    rw [writeName] at ih
    rw [writeName, List.flatMap_cons, List.append_assoc, readName_nameChar, ih,
      List.length_append]

/-- A name that stands on its own reads back. -/
theorem readName_writeIdent {after : List Char} (ends : endsName after = true) (name : List Char)
    : readName (writeIdent name ++ after) = (name, (writeIdent name).length) := by
  have hyphen (text : List Char)
      : readName ('-' :: text) = ('-' :: (readName text).1, (readName text).2 + 1) := by
    have part : isNamePart '-' = true := by decide
    rw [readName]
    simp [part]
  unfold writeIdent
  split
  · have escaped := readName_escaped (c := '-') (by decide) (by decide) after
    simpa [readName_of_endsName ends] using escaped
  · rename_i rest
    have rest := readName_writeName ends rest
    simp [hyphen, rest]
  · rename_i c rest _
    have rest := readName_writeName ends rest
    simp [hyphen, readName_identStartChar, rest]
  · rename_i c rest _ _ _
    have rest := readName_writeName ends rest
    simp [readName_identStartChar, rest]
  · simp [readName_of_endsName ends]

/-- What is written for a name starts like an identifier. -/
theorem startsIdent_writeIdent {name : List Char} (some : name ≠ []) (after : List Char)
    : startsIdent (writeIdent name ++ after) = true := by
  have first (c : Char) (rest : List Char)
      : ∃ d more, identStartChar c ++ rest = d :: more
          ∧ (isNameStart d = true ∨ d = '\\' ∧ startsEscape (d :: more) = true) := by
    unfold identStartChar
    split
    · rename_i start
      exact ⟨c, rest, rfl, Or.inl start⟩
    · split
      · rename_i coded
        have coded : isCoded c = true := by
          simpa [isCoded, or_assoc, or_left_comm] using Or.inr coded
        obtain ⟨first, others, written, noLineEnd, _⟩ := hexEscape_eq coded
        exact ⟨_, _, by rw [written]; rfl, Or.inr ⟨rfl, startsEscape_backslash noLineEnd⟩⟩
      · rename_i notCoded
        have other : c ≠ '\n' := by
          rintro rfl
          exact notCoded rfl
        exact ⟨_, _, rfl, Or.inr ⟨rfl, startsEscape_backslash other⟩⟩
  unfold writeIdent
  split
  · rfl
  · rfl
  · rename_i c rest _
    obtain ⟨d, more, written, start⟩ := first c (writeName rest ++ after)
    rw [List.append_assoc, List.cons_append, written, startsIdent]
    rcases start with start | ⟨_, escape⟩
    · simp [start]
    · simp [escape]
  · rename_i c rest noHyphen _ _
    obtain ⟨d, more, written, start⟩ := first c (writeName rest ++ after)
    rw [List.append_assoc, written]
    unfold startsIdent
    split
    · rename_i empty
      cases empty
    · rename_i hyphen
      cases hyphen
      rcases start with start | ⟨absurd, _⟩
      · cases start
      · cases absurd
    · rename_i other
      cases other
      rcases start with start | ⟨_, escape⟩
      · simp [start]
      · simp [escape]
  · exact absurd rfl some

--------------------------------------------------------------------------------
-- Quoted strings
--------------------------------------------------------------------------------

/-- Reading a string takes an escape off as one character. -/
theorem readString_backslash {c first : Char} {others after : List Char} (noLineEnd : first ≠ '\n')
    (escape : readEscape (first :: (others ++ after)) = (c, others.length + 1))
    : readString '"' ('\\' :: first :: (others ++ after))
      = (c :: (readString '"' after).1, (readString '"' after).2.1,
          others.length + 2 + (readString '"' after).2.2) := by
  rcases found : readString '"' after with ⟨value, ending, length⟩
  rw [readString]
  simp [noLineEnd, escape, found]
  omega

/-- A character of a quoted string is taken off whatever follows. -/
theorem readString_stringChar (c : Char) (after : List Char)
    : readString '"' (stringChar c ++ after)
      = (c :: (readString '"' after).1, (readString '"' after).2.1,
          (stringChar c).length + (readString '"' after).2.2) := by
  unfold stringChar
  split
  · rename_i mark
    simp only [Bool.or_eq_true, decide_eq_true_eq] at mark
    have noHex : Text.isHexDigit c = false := by rcases mark with rfl | rfl <;> decide
    have other : c ≠ '\n' := by rcases mark with rfl | rfl <;> decide
    simpa using readString_backslash other (readEscape_of_not_hex noHex after)
  · rename_i plain
    split
    · rename_i lineEnd
      have coded : isCoded c = true := by simp [isCoded, lineEnd]
      obtain ⟨first, others, written, noLineEnd, escape⟩ := hexEscape_eq coded
      simp [written, readString_backslash noLineEnd (escape after)]
    · rename_i noLineEnd
      have other : c ≠ '\n' := by
        rintro rfl
        exact noLineEnd rfl
      simp only [Bool.or_eq_true, decide_eq_true_eq, not_or] at plain
      rw [List.singleton_append, readString]
      simp [plain.1, plain.2, other, Nat.add_comm]

/-- A quoted string reads back, whatever follows its closing quote. -/
theorem readString_written (value after : List Char)
    : readString '"' (value.flatMap stringChar ++ '"' :: after)
      = (value, .closed, (value.flatMap stringChar).length + 1) := by
  induction value with
  | nil =>
    rw [List.flatMap_nil, List.nil_append, readString]
    simp
  | cons c rest ih =>
    rw [List.flatMap_cons, List.append_assoc, readString_stringChar, ih, List.length_append]
    simp [Nat.add_assoc]

--------------------------------------------------------------------------------
-- Urls
--------------------------------------------------------------------------------

/-- Can the character be written in an unquoted url? Controls cannot, not even as an escape is
written. -/
def isUrlChar (c : Char) : Bool :=
  c == '"' || c == '\'' || c == '(' || !breaksUrl c

/-- Reading a url takes an escape off as one character. -/
theorem readUrl_backslash {c first : Char} {others after : List Char} (noLineEnd : first ≠ '\n')
    (escape : readEscape (first :: (others ++ after)) = (c, others.length + 1))
    : readUrl ('\\' :: first :: (others ++ after))
      = (c :: (readUrl after).1, (readUrl after).2.1, others.length + 2 + (readUrl after).2.2) := by
  have noSpace : isSpace '\\' = false := by decide
  rcases found : readUrl after with ⟨value, ending, length⟩
  rw [readUrl]
  simp [noSpace, startsEscape_backslash noLineEnd, escape, found]
  omega

/-- A character of an unquoted url is taken off whatever follows. -/
theorem readUrl_urlChar {c : Char} (writable : isUrlChar c = true) (after : List Char)
    : readUrl (urlChar c ++ after)
      = (c :: (readUrl after).1, (readUrl after).2.1,
          (urlChar c).length + (readUrl after).2.2) := by
  unfold urlChar
  split
  · rename_i mark
    simp only [Bool.or_eq_true, decide_eq_true_eq, or_assoc] at mark
    have noHex : Text.isHexDigit c = false := by
      rcases mark with rfl | rfl | rfl | rfl | rfl | rfl <;> decide
    have other : c ≠ '\n' := by rcases mark with rfl | rfl | rfl | rfl | rfl | rfl <;> decide
    simpa using readUrl_backslash other (readEscape_of_not_hex noHex after)
  · rename_i plain
    simp only [Bool.or_eq_true, decide_eq_true_eq, or_assoc, not_or] at plain
    split
    · rename_i coded
      have coded : isCoded c = true := by
        simp only [Bool.or_eq_true, decide_eq_true_eq] at coded
        rcases coded with rfl | lineEnd
        · rfl
        · simp [isCoded, lineEnd]
      obtain ⟨first, others, written, noLineEnd, escape⟩ := hexEscape_eq coded
      simp [written, readUrl_backslash noLineEnd (escape after)]
    · rename_i noCode
      have noSpace : isSpace c = false := by
        simp only [Bool.or_eq_true, decide_eq_true_eq, not_or, isLineEnd_iff, char_eq_iff]
          at noCode plain
        rw [← Bool.not_eq_true, isSpace_iff]
        intro space
        rcases space with space | space | space
        · exact plain.2.2.2.1 space
        · exact noCode.2.1 space
        · exact noCode.1 space
      have noBreak : breaksUrl c = false := by
        simpa [isUrlChar, plain.1, plain.2.1, plain.2.2.2.2.1] using writable
      have noEscape : startsEscape (c :: after) = false := by
        unfold startsEscape
        split
        · rfl
        · rename_i backslash
          cases backslash
          exact absurd rfl plain.2.2.1
        · rfl
      rw [List.singleton_append, readUrl]
      simp [plain.2.2.2.2.2, noSpace, noEscape, noBreak, Nat.add_comm]

/-- An unquoted url reads back, whatever follows its closing bracket. -/
theorem readUrl_written {value : List Char} (writable : ∀ c ∈ value, isUrlChar c = true)
    (after : List Char)
    : readUrl (value.flatMap urlChar ++ ')' :: after)
      = (value, .closed, (value.flatMap urlChar).length + 1) := by
  induction value with
  | nil =>
    rw [List.flatMap_nil, List.nil_append, readUrl]
    simp
  | cons c rest ih =>
    rw [List.flatMap_cons, List.append_assoc, readUrl_urlChar (writable c List.mem_cons_self),
      ih fun d member => writable d (List.mem_cons_of_mem _ member), List.length_append]
    simp [Nat.add_assoc]

end CriticalCss.Syntax
