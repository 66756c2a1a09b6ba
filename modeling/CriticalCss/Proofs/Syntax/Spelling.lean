import CriticalCss.Proofs.Syntax.Neighbours

/-! Tokens that are kept apart are read back from their text, all of them and nothing else.
-/

namespace CriticalCss.Syntax

--------------------------------------------------------------------------------
-- Cutting the text of tokens
--------------------------------------------------------------------------------

/-- Tokens that are kept apart stop before each other. -/
theorem stopping_of_separate {tokens : List Token} (legible : Legible tokens)
    (apart : separate tokens = true)
    : Stopping tokens := by
  induction tokens with
  | nil => trivial
  | cons token rest ih =>
    simp only [separate, Bool.and_eq_true, Bool.not_eq_true'] at apart
    obtain ⟨⟨leads, noClash⟩, others⟩ := apart
    have stopping := ih legible.tail others
    exact ⟨stops_spell (legible.formed token List.mem_cons_self)
      (legible.legible token List.mem_cons_self) legible.tail stopping leads noClash, stopping⟩

/-- A comment leaves no token. -/
theorem lexFrom_comment (line : Nat) (text : List Char)
    : lexFrom line ("/**/".toList ++ text) = lexFrom line text := by
  have listed : "/**/".toList ++ text = '/' :: '*' :: '*' :: '/' :: text := rfl
  have scanned : scan '/' ('*' :: '*' :: '/' :: text) = ([], 4) := by
    rw [scan_of_mark (by decide) (by decide) rfl rfl
      (numberLength_of_head (by decide) (by decide) (by decide))]
    rfl
  rw [listed, lexFrom, scanned]
  rfl

/-- What is written in front of a token leaves no token. -/
theorem lexFrom_gap (line : Nat) (left : Option Kind) (next : Token) (text : List Char)
    : lexFrom line (gap left next ++ text) = lexFrom line text := by
  rcases gap_cases left next with together | alone
  · rw [together, lexFrom_comment]
  · rw [alone, List.nil_append]

/-- Tokens that stop before each other are read back from their text. -/
theorem lexFrom_spell {tokens : List Token} (legible : Legible tokens) (stopping : Stopping tokens)
    (line : Nat) (left : Option Kind)
    : (lexFrom line (spell left tokens)).map Lexeme.token = tokens := by
  induction tokens generalizing line left with
  | nil => simp [spell, lexFrom]
  | cons token rest ih =>
    obtain ⟨c, others, text, scanned⟩ :=
      scan_text (legible.formed token List.mem_cons_self)
        (legible.legible token List.mem_cons_self) stopping.1
    rw [spell, lexFrom_gap, text, lexFrom, scanned]
    simp only [List.map_cons, List.map_nil, List.singleton_append]
    rw [← text, List.drop_left, ih legible.tail stopping.2]

--------------------------------------------------------------------------------
-- Line ends
--------------------------------------------------------------------------------

/-- A character that reading a text leaves as it is. -/
def isPlain (c : Char) : Bool :=
  c != '\r' && c != '\x0c' && c != '\x00'

theorem isPlain_of_all {text : List Char} {c : Char} (all : text.all isPlain = true)
    (member : c ∈ text)
    : isPlain c = true :=
  List.all_eq_true.mp all c member

theorem normalizeLines_of_isPlain {text : List Char} (plain : ∀ c ∈ text, isPlain c = true)
    : normalizeLines text = text := by
  fun_induction normalizeLines text with
  | case1 => rfl
  | case2 rest ih => exact absurd (plain '\r' List.mem_cons_self) (by decide)
  | case3 c rest _ ih =>
    have own := plain c List.mem_cons_self
    simp only [isPlain, Bool.and_eq_true, bne_iff_ne, ne_eq] at own
    rw [ih fun d member => plain d (List.mem_cons_of_mem _ member)]
    simp [own]

theorem isPlain_iff {c : Char} : isPlain c = true ↔ c.toNat ≠ 13 ∧ c.toNat ≠ 12 ∧ c.toNat ≠ 0 := by
  simp [isPlain, char_eq_iff, and_assoc]

/-- A character that is neither a line end nor the null character is plain. -/
theorem isPlain_of_not_isLineEnd {c : Char} (noLineEnd : isLineEnd c ≠ true) (noNull : c ≠ '\x00')
    : isPlain c = true := by
  rw [Ne, isLineEnd_iff] at noLineEnd
  rw [Ne, char_eq_iff] at noNull
  rw [isPlain_iff]
  exact ⟨by omega, by omega, noNull⟩

theorem isPlain_of_isNamePart {c : Char} (part : isNamePart c = true) : isPlain c = true := by
  rw [isNamePart_iff, isNameStart_iff] at part
  rw [isPlain_iff]
  omega

theorem isPlain_writeCode {code : Nat} {c : Char} (member : c ∈ writeCode code)
    : isPlain c = true := by
  have hex := (digitsValue_writeCode code).2 c member
  rw [isHexDigit_iff] at hex
  rw [isPlain_iff]
  omega

theorem isPlain_hexEscape {c d : Char} (member : d ∈ hexEscape c) : isPlain d = true := by
  rcases List.mem_append.mp member with start | space
  · rcases List.mem_cons.mp start with rfl | digit
    · decide
    · exact isPlain_writeCode digit
  · rw [List.mem_singleton.mp space]
    decide

section Characters

variable {c d : Char}

/-- What is written for one character of a name is plain. -/
theorem isPlain_nameChar (noNull : c ≠ '\x00') (member : d ∈ nameChar c) : isPlain d = true := by
  unfold nameChar at member
  split at member
  · rename_i part
    rw [List.mem_singleton.mp member]
    exact isPlain_of_isNamePart part
  · split at member
    · exact isPlain_hexEscape member
    · rename_i noLineEnd
      rcases List.mem_cons.mp member with rfl | own
      · decide
      · rw [List.mem_singleton.mp own]
        exact isPlain_of_not_isLineEnd noLineEnd noNull

theorem isPlain_identStartChar (noNull : c ≠ '\x00') (member : d ∈ identStartChar c)
    : isPlain d = true := by
  unfold identStartChar at member
  split at member
  · rename_i start
    rw [List.mem_singleton.mp member]
    exact isPlain_of_isNamePart (isNamePart_iff.mpr (Or.inl start))
  · split at member
    · exact isPlain_hexEscape member
    · rename_i noCode
      simp only [Bool.or_eq_true, not_or] at noCode
      rcases List.mem_cons.mp member with rfl | own
      · decide
      · rw [List.mem_singleton.mp own]
        exact isPlain_of_not_isLineEnd noCode.1 noNull

theorem isPlain_stringChar (noNull : c ≠ '\x00') (member : d ∈ stringChar c)
    : isPlain d = true := by
  unfold stringChar at member
  split at member
  · rename_i mark
    have noLineEnd : isLineEnd c ≠ true := by
      simp only [Bool.or_eq_true, decide_eq_true_eq] at mark
      rcases mark with rfl | rfl <;> decide
    rcases List.mem_cons.mp member with rfl | own
    · decide
    · rw [List.mem_singleton.mp own]
      exact isPlain_of_not_isLineEnd noLineEnd noNull
  · split at member
    · exact isPlain_hexEscape member
    · rename_i noLineEnd
      rw [List.mem_singleton.mp member]
      exact isPlain_of_not_isLineEnd noLineEnd noNull

theorem isPlain_urlChar (noNull : c ≠ '\x00') (member : d ∈ urlChar c) : isPlain d = true := by
  unfold urlChar at member
  split at member
  · rename_i mark
    have noLineEnd : isLineEnd c ≠ true := by
      simp only [Bool.or_eq_true, decide_eq_true_eq, or_assoc] at mark
      rcases mark with rfl | rfl | rfl | rfl | rfl | rfl <;> decide
    rcases List.mem_cons.mp member with rfl | own
    · decide
    · rw [List.mem_singleton.mp own]
      exact isPlain_of_not_isLineEnd noLineEnd noNull
  · split at member
    · exact isPlain_hexEscape member
    · rename_i noCode
      simp only [Bool.or_eq_true, not_or] at noCode
      rw [List.mem_singleton.mp member]
      exact isPlain_of_not_isLineEnd noCode.2 noNull

/-- What is written character by character is plain if that is so for each character. -/
theorem isPlain_flatMap {write : Char → List Char} {text : List Char}
    (plain : ∀ {c d : Char}, c ≠ '\x00' → d ∈ write c → isPlain d = true) (noNull : '\x00' ∉ text)
    (member : d ∈ text.flatMap write)
    : isPlain d = true := by
  obtain ⟨c, inText, own⟩ := List.mem_flatMap.mp member
  refine plain ?_ own
  rintro rfl
  exact noNull inText

theorem isPlain_writeName {name : List Char} (noNull : '\x00' ∉ name) (member : d ∈ writeName name)
    : isPlain d = true :=
  isPlain_flatMap isPlain_nameChar noNull member

theorem isPlain_writeIdent {name : List Char} (noNull : '\x00' ∉ name)
    (member : d ∈ writeIdent name)
    : isPlain d = true := by
  unfold writeIdent at member
  split at member
  · revert member
    simp only [List.mem_cons, List.not_mem_nil, or_false]
    rintro (rfl | rfl) <;> decide
  · rename_i rest
    simp only [List.mem_cons] at member
    rcases member with rfl | rfl | inRest
    · decide
    · decide
    · exact isPlain_writeName (fun null => noNull (by simp [null])) inRest
  · rename_i c rest _
    simp only [List.cons_append, List.mem_cons, List.mem_append] at member
    rcases member with rfl | first | inRest
    · decide
    · exact isPlain_identStartChar (by rintro rfl; exact noNull (by simp)) first
    · exact isPlain_writeName (fun null => noNull (by simp [null])) inRest
  · rename_i c rest _ _ _
    rcases List.mem_append.mp member with first | inRest
    · exact isPlain_identStartChar (by rintro rfl; exact noNull (by simp)) first
    · exact isPlain_writeName (fun null => noNull (by simp [null])) inRest
  · cases member

end Characters

theorem isPlain_writeUnit {unit : List Char} {c : Char} (noNull : '\x00' ∉ unit)
    (member : c ∈ writeUnit unit)
    : isPlain c = true := by
  rcases writeUnit_cases unit with written | ⟨written, _⟩
  · rw [written] at member
    simp only [List.mem_cons] at member
    rcases member with rfl | rfl | rfl | rfl | inRest
    · decide
    · decide
    · decide
    · decide
    · exact isPlain_writeName (fun null => noNull (List.mem_of_mem_drop null)) inRest
  · rw [written] at member
    exact isPlain_writeIdent noNull member

/-- The characters of numbers are digits, signs, points and the letter of exponents. -/
theorem IsNumber.isPlain {number : List Char} {c : Char} (is : IsNumber number)
    (member : c ∈ number)
    : isPlain c = true := by
  have digit {text : List Char} (all : ∀ c ∈ text, c.isDigit = true) (member : c ∈ text)
      : CriticalCss.Syntax.isPlain c = true := by
    have code := isDigit_iff.mp (all c member)
    rw [isPlain_iff]
    omega
  have signs {text : List Char} (isSign : IsSign text) (member : c ∈ text)
      : CriticalCss.Syntax.isPlain c = true := by
    rcases isSign with rfl | rfl | rfl
    · cases member
    · rw [List.mem_singleton.mp member]
      decide
    · rw [List.mem_singleton.mp member]
      decide
  obtain ⟨sign, mantissa, exponent, rfl, isSign, isMantissa, isExponent⟩ := is
  simp only [List.mem_append] at member
  rcases member with inSign | inMantissa | inExponent
  · exact signs isSign inSign
  · rcases isMantissa with digits | ⟨whole, fraction, rfl, digits, more⟩
    · exact digit digits.2 inMantissa
    · simp only [List.mem_append, List.mem_cons] at inMantissa
      rcases inMantissa with inWhole | rfl | inFraction
      · exact digit digits inWhole
      · decide
      · exact digit more.2 inFraction
  · rcases isExponent with rfl | ⟨letter, sign, digits, rfl, isLetter, isSign, are⟩
    · cases inExponent
    · simp only [List.mem_cons, List.mem_append] at inExponent
      rcases inExponent with rfl | inSign | inDigits
      · rcases isLetter with rfl | rfl <;> decide
      · exact signs isSign inSign
      · exact digit are.2 inDigits

/-- The text of a token is plain. -/
theorem Token.isPlain_text {token : Token} {c : Char} (formed : token.WellFormed)
    (legible : token.isLegible = true) (member : c ∈ token.text)
    : isPlain c = true := by
  cases token with
  | atom found =>
    cases found with
    | whitespace text =>
      have code := isSpace_iff.mp (formed.2 c member)
      rw [isPlain_iff]
      omega
    | literal text =>
      rcases formed with ⟨d, rfl, is⟩ | long
      · rw [List.mem_singleton.mp member]
        simp only [CriticalCss.Syntax.isMark, Bool.and_eq_true, bne_iff_ne, ne_eq] at is
        simp [CriticalCss.Syntax.isPlain, is]
      · simp only [longLiterals, List.map_cons, List.map_nil, List.mem_cons, List.not_mem_nil,
          or_false] at long
        rcases long with rfl | rfl | rfl | rfl | rfl | rfl | rfl | rfl
        all_goals exact isPlain_of_all (by decide) member
    | ident name => exact isPlain_writeIdent formed.2 member
    | atKeyword name =>
      rcases List.mem_cons.mp member with rfl | inName
      · decide
      · exact isPlain_writeIdent formed.2 inName
    | hash name isIdent =>
      rcases List.mem_cons.mp member with rfl | inName
      · decide
      · split at inName
        · exact isPlain_writeIdent formed.1.2 inName
        · exact isPlain_writeName formed.1.2 inName
    | string value closed =>
      simp only [Token.text, writeAtom, List.cons_append, List.mem_cons, List.mem_append] at member
      rcases member with rfl | inValue | quote
      · decide
      · exact isPlain_flatMap isPlain_stringChar formed inValue
      · split at quote
        · rw [List.mem_singleton.mp quote]
          decide
        · cases quote
    | url value closed =>
      simp only [Token.text, writeAtom, List.mem_append] at member
      rcases member with (start | inValue) | round
      · exact isPlain_of_all (by decide) start
      · exact isPlain_flatMap isPlain_urlChar formed inValue
      · split at round
        · rw [List.mem_singleton.mp round]
          decide
        · cases round
    | unicodeRange first last =>
      simp only [Token.text, writeAtom, List.mem_append] at member
      rcases member with (start | inFirst) | inLast
      · exact isPlain_of_all (by decide) start
      · exact isPlain_writeCode inFirst
      · split at inLast
        · cases inLast
        · rcases List.mem_cons.mp inLast with rfl | inLast
          · decide
          · exact isPlain_writeCode inLast
    | number text => exact formed.isPlain member
    | percentage text =>
      rcases List.mem_append.mp member with inText | percent
      · exact formed.isPlain inText
      · rw [List.mem_singleton.mp percent]
        decide
    | dimension text unit =>
      rcases List.mem_append.mp member with inText | inUnit
      · exact formed.1.isPlain inText
      · exact isPlain_writeUnit formed.2.2 inUnit
    | flaw fault =>
      simp only [isLegible, beq_iff_eq] at legible
      subst legible
      exact isPlain_of_all (by decide) member
  | function name =>
    rcases List.mem_append.mp member with inName | round
    · exact isPlain_writeIdent formed.2 inName
    · rw [List.mem_singleton.mp round]
      decide
  | opening bracket =>
    rw [List.mem_singleton.mp member]
    cases bracket <;> decide
  | closing bracket =>
    rw [List.mem_singleton.mp member]
    cases bracket <;> decide

/-- The text of tokens is plain. -/
theorem isPlain_spell {tokens : List Token} {c : Char} (legible : Legible tokens)
    (left : Option Kind) (member : c ∈ spell left tokens)
    : isPlain c = true := by
  induction tokens generalizing left with
  | nil => cases member
  | cons token rest ih =>
    rw [spell] at member
    simp only [List.mem_append] at member
    rcases member with inGap | inText | inRest
    · rcases gap_cases left token with together | alone
      · rw [together] at inGap
        exact isPlain_of_all (by decide) inGap
      · rw [alone] at inGap
        cases inGap
    · exact Token.isPlain_text (legible.formed token List.mem_cons_self)
        (legible.legible token List.mem_cons_self) inText
    · exact ih legible.tail token.leftKind? inRest

/-- Tokens that are kept apart are read back from their text. -/
theorem lex_spell {tokens : List Token} (legible : Legible tokens) (apart : separate tokens = true)
    : (lex (String.ofList (spell none tokens))).map Lexeme.token = tokens := by
  unfold lex
  rw [String.toList_ofList, normalizeLines_of_isPlain fun c => isPlain_spell legible none]
  exact lexFrom_spell legible (stopping_of_separate legible apart) 1 none

end CriticalCss.Syntax
