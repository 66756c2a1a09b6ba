import CriticalCss.Proofs.Syntax.Gathering
import Mathlib.Data.List.Induction

/-! What reading gives, token by token. Names have characters, numbers are numbers, and the null
character, which no text holds once its line ends are unified, is in no token. Gathering adds no
tokens but closing brackets.
-/

namespace CriticalCss.Syntax

--------------------------------------------------------------------------------
-- Values
--------------------------------------------------------------------------------

/-- Does the text hold no null character? -/
def IsClean (text : List Char) : Prop :=
  '\x00' ∉ text

theorem IsClean.tail {c : Char} {rest : List Char} (clean : IsClean (c :: rest)) : IsClean rest :=
  fun null => clean (List.mem_cons_of_mem c null)

theorem IsClean.drop {text : List Char} (clean : IsClean text) (count : Nat)
    : IsClean (text.drop count) :=
  fun null => clean (List.mem_of_mem_drop null)

theorem IsClean.head {c : Char} {rest : List Char} (clean : IsClean (c :: rest)) : c ≠ '\x00' := by
  rintro rfl
  exact clean List.mem_cons_self

theorem isClean_cons {c : Char} {text : List Char} (other : c ≠ '\x00') (clean : IsClean text)
    : IsClean (c :: text) := by
  intro null
  rcases List.mem_cons.mp null with same | inText
  · exact other same.symm
  · exact clean inText

/-- An escape never stands for the null character. -/
theorem readEscape_ne_null {text : List Char} (clean : IsClean text)
    : (readEscape text).1 ≠ '\x00' := by
  unfold readEscape
  dsimp only
  split
  · decide
  · split
    · exact clean.head
    · dsimp only
      split
      · decide
      · rename_i valid
        simp only [Bool.or_eq_true, decide_eq_true_eq, Bool.not_eq_true', not_or] at valid
        intro null
        rw [Char.ofNat, dif_pos (of_decide_eq_true ((Bool.not_eq_false _).mp valid.2))] at null
        exact valid.1 (congrArg Char.toNat null)

theorem isClean_readName {text : List Char} (clean : IsClean text)
    : IsClean (readName text).1 := by
  fun_induction readName text with
  | case1 => simp [IsClean]
  | case2 c rest part name length read ih =>
    rw [read] at ih
    exact isClean_cons clean.head (ih clean.tail)
  | case3 c rest noPart escapes escape name length read ih =>
    rw [read] at ih
    exact isClean_cons (readEscape_ne_null clean.tail) (ih (clean.tail.drop _))
  | case4 => simp [IsClean]

theorem isClean_readString (quote : Char) {text : List Char} (clean : IsClean text)
    : IsClean (readString quote text).1 := by
  fun_induction readString quote text with
  | case1 | case2 | case3 | case6 => simp [IsClean]
  | case4 rest more lineEnd value ending length read other ih =>
    rw [read] at ih
    exact ih (clean.tail.drop 1)
  | case5 rest more noLineEnd escape value ending length read other ih =>
    rw [read] at ih
    exact isClean_cons (readEscape_ne_null clean.tail) (ih (clean.tail.drop _))
  | case7 c rest noQuote noBackslash noLineEnd value ending length read ih =>
    rw [read] at ih
    exact isClean_cons clean.head (ih clean.tail)

theorem isClean_readUrl {text : List Char} (clean : IsClean text)
    : IsClean (readUrl text).1 := by
  fun_induction readUrl text with
  | case1 | case2 | case3 | case5 => simp [IsClean]
  | case4 c rest noEnd noSpace escapes escape value ending length read ih =>
    rw [read] at ih
    exact isClean_cons (readEscape_ne_null clean.tail) (ih (clean.tail.drop _))
  | case6 c rest noEnd noSpace noEscape fits value ending length read ih =>
    rw [read] at ih
    exact isClean_cons clean.head (ih clean.tail)

/-- What is read as a name is one, if a name starts there. -/
theorem isName_readName {text : List Char} (clean : IsClean text)
    (starts : (text.head?.any isNamePart || startsEscape text) = true)
    : IsName (readName text).1 := by
  refine ⟨?_, isClean_readName clean⟩
  cases text with
  | nil => simp [startsEscape] at starts
  | cons c rest =>
    rw [readName.eq_def]
    dsimp only
    split
    · simp
    · rename_i noPart
      have escapes : startsEscape (c :: rest) = true := by simpa [noPart] using starts
      rw [if_pos escapes]
      simp

/-- The name of a hash that no identifier starts is none. -/
theorem isOnlyHash_readName {text : List Char}
    (starts : (text.head?.any isNamePart || startsEscape text) = true)
    (noIdent : startsIdent text = false)
    : isOnlyHash (readName text).1 = true := by
  cases text with
  | nil => simp [startsEscape] at starts
  | cons c rest =>
    by_cases hyphen : c = '-'
    · subst hyphen
      have part : isNamePart '-' = true := by decide
      rw [readName, if_pos part]
      cases rest with
      | nil => rw [readName]; rfl
      | cons d more =>
        simp only [startsIdent, Bool.or_eq_false_iff] at noIdent
        obtain ⟨⟨noStart, noHyphen⟩, noEscape⟩ := noIdent
        rw [readName.eq_def]
        dsimp only
        split
        · rename_i partNext
          simpa [isOnlyHash, isNamePart, noStart, noHyphen] using partNext
        · rw [if_neg (by simp [noEscape])]
          rfl
    · have noIdent : isNameStart c = false ∧ startsEscape (c :: rest) = false := by
        unfold startsIdent at noIdent
        split at noIdent
        · contradiction
        · rename_i same
          cases same
          exact absurd rfl hyphen
        · rename_i same
          cases same
          simpa using noIdent
      have digit : c.isDigit = true := by
        simpa [noIdent.1, noIdent.2, isNamePart, hyphen] using starts
      have part : isNamePart c = true := by simp [isNamePart, digit]
      rw [readName, if_pos part]
      unfold isOnlyHash
      split
      · rfl
      · rename_i same
        exact absurd (List.cons.inj same).1 hyphen
      · rename_i same
        rw [← (List.cons.inj same).1]
        exact digit
      · contradiction

--------------------------------------------------------------------------------
-- Ranges of code points
--------------------------------------------------------------------------------

theorem hexDigitValue_lt {c : Char} (hex : Text.isHexDigit c = true)
    : Text.hexDigitValue c < 16 := by
  have all
      : ∀ n < 103,
          Text.isHexDigit (Char.ofNat n) = true → Text.hexDigitValue (Char.ofNat n) < 16 := by
    decide
  have small : c.toNat < 103 := by
    rw [isHexDigit_iff] at hex
    omega
  have own := all c.toNat small
  rw [Char.ofNat_toNat] at own
  exact own hex

/-- Digits write a number below the power of the base. -/
theorem digitsValue_lt {digits : List Char} (hex : ∀ c ∈ digits, Text.isHexDigit c = true)
    : Text.digitsValue 16 digits < 16 ^ digits.length := by
  induction digits using List.reverseRecOn with
  | nil => simp [Text.digitsValue]
  | append_singleton digits last ih =>
    have before := ih fun c member => hex c (List.mem_append_left _ member)
    have own := hexDigitValue_lt (hex last (by simp))
    rw [digitsValue_append, List.length_append, List.length_singleton, Nat.pow_succ]
    omega

theorem readUnicodeRange_lt (text : List Char)
    : (readUnicodeRange text).1 < 16 ^ 6 ∧ (readUnicodeRange text).2.1 < 16 ^ 6 := by
  have bounded {digits : List Char} (hex : ∀ c ∈ digits, Text.isHexDigit c = true)
      (few : digits.length ≤ 6)
      : Text.digitsValue 16 digits < 16 ^ 6 :=
    Nat.lt_of_lt_of_le (digitsValue_lt hex) (Nat.pow_le_pow_right (by decide) few)
  have run (text : List Char)
      : Text.digitsValue 16 ((text.take 6).takeWhile Text.isHexDigit) < 16 ^ 6 := by
    refine bounded (fun _ => mem_takeWhile) ?_
    have shorter := (List.takeWhile_sublist (p := Text.isHexDigit) (l := text.take 6)).length_le
    exact Nat.le_trans shorter (List.length_take_le 6 text)
  unfold readUnicodeRange
  dsimp only
  split
  · split
    · split
      · exact ⟨run text, run text⟩
      · exact ⟨run text, run _⟩
    · exact ⟨run text, run text⟩
  · have filled {c : Char} (hex : Text.isHexDigit c = true)
        : Text.digitsValue 16
            ((text.take 6).takeWhile Text.isHexDigit
              ++ List.replicate
                (((text.take 6).drop ((text.take 6).takeWhile Text.isHexDigit).length).takeWhile
                  (· == '?')).length c)
          < 16 ^ 6 := by
      refine bounded (fun d member => ?_) ?_
      · rcases List.mem_append.mp member with digit | filling
        · exact mem_takeWhile digit
        · rw [List.eq_of_mem_replicate filling]
          exact hex
      · have digits := (List.takeWhile_sublist (p := Text.isHexDigit) (l := text.take 6)).length_le
        have marks :=
          (List.takeWhile_sublist (p := (· == '?'))
            (l := (text.take 6).drop ((text.take 6).takeWhile Text.isHexDigit).length)).length_le
        have few := List.length_take_le 6 text
        rw [List.length_drop] at marks
        rw [List.length_append, List.length_replicate]
        omega
    exact ⟨filled (by decide), filled (by decide)⟩

--------------------------------------------------------------------------------
-- Tokens
--------------------------------------------------------------------------------

section Scan

variable {text : List Char}

theorem formed_stringTokens {value : List Char} (clean : IsClean value) (ending : StringEnd)
    : ∀ token ∈ stringTokens value ending, token.WellFormed := by
  cases ending with
  | closed => simpa [stringTokens, Token.WellFormed, IsClean] using clean
  | atEnd => simpa [stringTokens, Token.WellFormed, IsClean] using clean
  | broken => simp [stringTokens, Token.WellFormed]

theorem formed_urlTokens {value : List Char} (clean : IsClean value) (ending : UrlEnd)
    : ∀ token ∈ urlTokens value ending, token.WellFormed := by
  cases ending with
  | closed => simpa [urlTokens, Token.WellFormed, IsClean] using clean
  | atEnd => simpa [urlTokens, Token.WellFormed, IsClean] using clean
  | broken => simp [urlTokens, Token.WellFormed]

theorem formed_scanName (clean : IsClean text) (starts : startsIdent text = true)
    : ∀ token ∈ (scanName text).1, token.WellFormed := by
  have named := isName_readName clean (startsName_of_startsIdent starts)
  unfold scanName
  dsimp only
  split
  · split
    · refine formed_urlTokens (isClean_readUrl ?_) _
      exact ((clean.drop _).drop 1).drop _
    · intro token member
      rw [List.mem_singleton.mp member]
      exact named
  · intro token member
    rw [List.mem_singleton.mp member]
    exact named

theorem formed_scanNumber (clean : IsClean text) (number : numberLength text ≠ 0)
    : ∀ token ∈ (scanNumber text (numberLength text)).1, token.WellFormed := by
  have is := isNumber_take number
  unfold scanNumber
  dsimp only
  split
  · rename_i starts
    intro token member
    rw [List.mem_singleton.mp member]
    exact ⟨is, isName_readName (clean.drop _) (startsName_of_startsIdent starts)⟩
  · split
    · intro token member
      rw [List.mem_singleton.mp member]
      exact is
    · intro token member
      rw [List.mem_singleton.mp member]
      exact is

theorem formed_scanLiteral {c : Char} (is : isMark c = true) (rest : List Char)
    : ∀ token ∈ (scanLiteral c rest).1, token.WellFormed := by
  unfold scanLiteral
  intro token member
  split at member
  · rw [List.mem_singleton.mp member]
    exact Or.inr (by decide)
  · split at member
    · rw [List.mem_singleton.mp member]
      exact Or.inr (by decide)
    · split at member
      · rename_i joins
        rw [List.mem_singleton.mp member]
        simp only [joinsEquals, Bool.and_eq_true, Bool.or_eq_true, beq_iff_eq] at joins
        refine Or.inr ?_
        rcases joins.1 with (((rfl | rfl) | rfl) | rfl) | rfl <;> decide
      · rw [List.mem_singleton.mp member]
        exact Or.inl ⟨c, rfl, is⟩

theorem formed_scanMarked {c : Char} (is : isMark c = true) {rest : List Char}
    (clean : IsClean rest)
    : ∀ token ∈ (scanMarked c rest).1, token.WellFormed := by
  unfold scanMarked
  split
  · rename_i starts
    rw [Bool.and_eq_true] at starts
    intro token member
    rw [List.mem_singleton.mp member]
    exact isName_readName clean (startsName_of_startsIdent starts.2)
  · split
    · rename_i starts
      rw [Bool.and_eq_true] at starts
      intro token member
      rw [List.mem_singleton.mp member]
      exact ⟨isName_readName clean starts.2, isOnlyHash_readName starts.2⟩
    · exact formed_scanLiteral is rest

theorem startsIdent_of_isNameStart {c : Char} (start : isNameStart c = true) (rest : List Char)
    : startsIdent (c :: rest) = true := by
  have noHyphen : c ≠ '-' := by
    rintro rfl
    exact absurd start (by decide)
  unfold startsIdent
  split
  · contradiction
  · rename_i same
    exact absurd (List.cons.inj same).1 noHyphen
  · rename_i same
    rw [← (List.cons.inj same).1, start]
    rfl

theorem numberLength_of_isDigit {c : Char} (digit : c.isDigit = true) (rest : List Char)
    : numberLength (c :: rest) ≠ 0 := by
  have noSign : signLength (c :: rest) = 0 := by
    unfold signLength
    split
    · rename_i same
      rw [← (List.cons.inj same).1]
      refine if_neg fun sign => ?_
      simp only [Bool.or_eq_true, decide_eq_true_eq] at sign
      rcases sign with rfl | rfl <;> exact absurd digit (by decide)
    · rfl
  have mantissa := mantissaLength_ne_zero digit rest
  rw [numberLength_eq, noSign, List.drop_zero, if_neg mantissa]
  omega

/-- What starts neither whitespace nor a name nor a number is scanned as a well-formed token. -/
theorem formed_scanOther {c : Char} {rest : List Char} (plain : ∀ d ∈ c :: rest, isPlain d = true)
    (noSpace : isSpace c ≠ true) (noIdent : startsIdent (c :: rest) ≠ true)
    (noNumber : ¬ numberLength (c :: rest) ≠ 0)
    : ∀ token
        ∈ (if c = '@' || c = '#' then scanMarked c rest
          else if c = '"' || c = '\'' then
            let (value, ending, length) := readString c rest
            (stringTokens value ending, length + 1)
          else if c = '/' && rest.head? = some '*' then ([], commentLength (rest.drop 1) + 2)
          else
            match bracketToken? c with
            | some token => ([token], 1)
            | none => scanLiteral c rest).1,
        token.WellFormed := by
  have clean : IsClean (c :: rest) := fun null => absurd (plain _ null) (by decide)
  split
  · rename_i marked
    refine formed_scanMarked ?_ clean.tail
    simp only [Bool.or_eq_true, decide_eq_true_eq] at marked
    rcases marked with rfl | rfl <;> decide
  · split
    · exact formed_stringTokens (isClean_readString c clean.tail) _
    · rename_i noQuote
      split
      · simp
      · split
        · rename_i token found
          intro own member
          rw [List.mem_singleton.mp member]
          unfold bracketToken? at found
          split at found <;> cases found <;> trivial
        · rename_i noBracket
          refine formed_scanLiteral ?_ rest
          have noStart : isNameStart c = false :=
            Bool.eq_false_iff.mpr fun start => noIdent (startsIdent_of_isNameStart start rest)
          have noDigit : c.isDigit = false :=
            Bool.eq_false_iff.mpr fun digit => noNumber (numberLength_of_isDigit digit rest)
          have own := plain c List.mem_cons_self
          simp only [isPlain, Bool.and_eq_true, bne_iff_ne, ne_eq] at own
          simp only [Bool.or_eq_true, decide_eq_true_eq, not_or] at noQuote
          simp [isMark, noSpace, noStart, noDigit, noBracket, noQuote, own]

/-- Every token that is scanned is well-formed. -/
theorem formed_scan {c : Char} {rest : List Char} (plain : ∀ d ∈ c :: rest, isPlain d = true)
    : ∀ token ∈ (scan c rest).1, token.WellFormed := by
  have clean : IsClean (c :: rest) := fun null => absurd (plain _ null) (by decide)
  unfold scan
  split
  · rename_i space
    intro token member
    rw [List.mem_singleton.mp member]
    refine ⟨by simp, fun d inText => ?_⟩
    rcases List.mem_cons.mp inText with rfl | blank
    · exact space
    · exact mem_takeWhile blank
  · rename_i noSpace
    split
    · intro token member
      rw [List.mem_singleton.mp member]
      exact readUnicodeRange_lt (rest.drop 1)
    · split
      · intro token member
        rw [List.mem_singleton.mp member]
        exact Or.inr (by decide)
      · split
        · rename_i starts
          exact formed_scanName clean starts
        · rename_i noIdent
          split
          · rename_i number
            exact formed_scanNumber clean number
          · rename_i noNumber
            exact formed_scanOther plain noSpace noIdent noNumber

end Scan

/-- The tokens of a text are well-formed. -/
theorem formed_lexFrom (line : Nat) {text : List Char} (plain : ∀ c ∈ text, isPlain c = true)
    : ∀ lexeme ∈ lexFrom line text, lexeme.token.WellFormed := by
  fun_induction lexFrom line text with
  | case1 => simp
  | case2 line c rest step ih =>
    intro lexeme member
    rcases List.mem_append.mp member with first | others
    · obtain ⟨token, scanned, rfl⟩ := List.mem_map.mp first
      exact formed_scan plain token scanned
    · exact ih (fun d inText => plain d (List.mem_of_mem_drop inText)) lexeme others

/-- Unifying the line ends leaves only plain characters. -/
theorem isPlain_normalizeLines (text : List Char)
    : ∀ c ∈ normalizeLines text, isPlain c = true := by
  fun_induction normalizeLines text with
  | case1 => simp
  | case2 rest ih =>
    intro c member
    rcases List.mem_cons.mp member with rfl | inRest
    · decide
    · exact ih c inRest
  | case3 d rest _ ih =>
    intro c member
    rcases List.mem_cons.mp member with rfl | inRest
    · split
      · decide
      · split
        · decide
        · rename_i noLineEnd noNull
          simpa [isPlain, noNull] using noLineEnd
    · exact ih c inRest

/-- The tokens of a style sheet are well-formed. -/
theorem formed_lex (text : String) : ∀ lexeme ∈ lex text, lexeme.token.WellFormed :=
  formed_lexFrom 1 (isPlain_normalizeLines text.toList)

--------------------------------------------------------------------------------
-- Components
--------------------------------------------------------------------------------

namespace Component

/-- What gathering leaves comes from the tokens it was given. -/
theorem mem_of_mem_gather_rest {closer : Option Bracket} {lexemes : List Lexeme} {lexeme : Lexeme}
    (member : lexeme ∈ (gather closer lexemes).1.2)
    : lexeme ∈ lexemes := by
  match lexemes with
  | [] =>
    rw [gather] at member
    cases member
  | ⟨line, .atom found⟩ :: rest =>
    rw [gather_atom] at member
    exact List.mem_cons_of_mem _ (mem_of_mem_gather_rest member)
  | ⟨line, .closing bracket⟩ :: rest =>
    by_cases closes : closer = some bracket
    · subst closes
      rw [gather_closing] at member
      exact List.mem_cons_of_mem _ member
    · rw [gather_unmatched closer line rest closes] at member
      exact List.mem_cons_of_mem _ (mem_of_mem_gather_rest member)
  | ⟨line, .opening bracket⟩ :: rest =>
    have shorter := (gather (some bracket) rest).2
    rw [gather_opening] at member
    exact List.mem_cons_of_mem _ (mem_of_mem_gather_rest (mem_of_mem_gather_rest member))
  | ⟨line, .function name⟩ :: rest =>
    have shorter := (gather (some .round) rest).2
    rw [gather_function] at member
    exact List.mem_cons_of_mem _ (mem_of_mem_gather_rest (mem_of_mem_gather_rest member))
termination_by lexemes.length
decreasing_by all_goals simp only [List.length_cons]; omega

/-- Every token of what is gathered was given, unless it is a closing bracket. -/
theorem mem_of_mem_tokensOf_gather {closer : Option Bracket} {lexemes : List Lexeme} {token : Token}
    (member : token ∈ tokensOf (gather closer lexemes).1.1)
    : (∃ lexeme ∈ lexemes, lexeme.token = token) ∨ ∃ bracket, token = .closing bracket := by
  have later {first : Lexeme} {rest others : List Lexeme}
      (subset : ∀ lexeme ∈ others, lexeme ∈ rest)
      (found : (∃ lexeme ∈ others, lexeme.token = token) ∨ ∃ bracket, token = .closing bracket)
      : (∃ lexeme ∈ first :: rest, lexeme.token = token) ∨ ∃ bracket, token = .closing bracket := by
    refine found.imp_left ?_
    rintro ⟨lexeme, inOthers, same⟩
    exact ⟨lexeme, List.mem_cons_of_mem _ (subset lexeme inOthers), same⟩
  match lexemes with
  | [] =>
    rw [gather] at member
    cases member
  | ⟨line, .atom found⟩ :: rest =>
    rw [gather_atom] at member
    rcases List.mem_append.mp member with own | inRest
    · by_cases unmatched : ∃ bracket, found = .flaw (.unmatched bracket)
      · obtain ⟨bracket, rfl⟩ := unmatched
        exact Or.inr ⟨bracket, List.mem_singleton.mp own⟩
      · rw [tokens_atom fun bracket same => unmatched ⟨bracket, same⟩] at own
        exact Or.inl ⟨_, List.mem_cons_self, (List.mem_singleton.mp own).symm⟩
    · exact later (fun _ => id) (mem_of_mem_tokensOf_gather inRest)
  | ⟨line, .closing bracket⟩ :: rest =>
    by_cases closes : closer = some bracket
    · subst closes
      rw [gather_closing] at member
      cases member
    · rw [gather_unmatched closer line rest closes] at member
      rcases List.mem_cons.mp member with rfl | inRest
      · exact Or.inr ⟨bracket, rfl⟩
      · exact later (fun _ => id) (mem_of_mem_tokensOf_gather inRest)
  | ⟨line, .opening bracket⟩ :: rest =>
    have shorter := (gather (some bracket) rest).2
    rw [gather_opening] at member
    simp only [tokensOf, Component.tokens, List.cons_append, List.append_assoc, List.mem_cons,
      List.mem_append, List.nil_append] at member
    rcases member with rfl | inside | rfl | behind
    · exact Or.inl ⟨_, List.mem_cons_self, rfl⟩
    · exact later (fun _ => id) (mem_of_mem_tokensOf_gather inside)
    · exact Or.inr ⟨bracket, rfl⟩
    · exact later (fun _ => mem_of_mem_gather_rest) (mem_of_mem_tokensOf_gather behind)
  | ⟨line, .function name⟩ :: rest =>
    have shorter := (gather (some .round) rest).2
    rw [gather_function] at member
    simp only [tokensOf, Component.tokens, List.cons_append, List.append_assoc, List.mem_cons,
      List.mem_append, List.nil_append] at member
    rcases member with rfl | inside | rfl | behind
    · exact Or.inl ⟨_, List.mem_cons_self, rfl⟩
    · exact later (fun _ => id) (mem_of_mem_tokensOf_gather inside)
    · exact Or.inr ⟨.round, rfl⟩
    · exact later (fun _ => mem_of_mem_gather_rest) (mem_of_mem_tokensOf_gather behind)
termination_by lexemes.length
decreasing_by all_goals simp only [List.length_cons]; omega

/-- No closing bracket that is gathered closes the brackets around it. -/
theorem allOpenIn_gather (closer : Option Bracket) (lexemes : List Lexeme)
    (formed : ∀ lexeme ∈ lexemes, lexeme.token.WellFormed)
    : allOpenIn closer (gather closer lexemes).1.1 = true := by
  match lexemes with
  | [] =>
    rw [gather]
    rfl
  | ⟨line, .atom found⟩ :: rest =>
    have others := allOpenIn_gather closer rest fun lexeme member =>
      formed lexeme (List.mem_cons_of_mem _ member)
    have own : (Component.atom line found).isOpenIn closer = true := by
      refine isOpenIn_atom fun bracket same => ?_
      have matched := formed ⟨line, .atom found⟩ List.mem_cons_self
      rw [same] at matched
      exact matched bracket rfl
    rw [gather_atom, allOpenIn, own, others]
    rfl
  | ⟨line, .closing bracket⟩ :: rest =>
    by_cases closes : closer = some bracket
    · subst closes
      rw [gather_closing]
      rfl
    · have others := allOpenIn_gather closer rest fun lexeme member =>
        formed lexeme (List.mem_cons_of_mem _ member)
      rw [gather_unmatched closer line rest closes, allOpenIn, others, isOpenIn]
      simpa using closes
  | ⟨line, .opening bracket⟩ :: rest =>
    have shorter := (gather (some bracket) rest).2
    have inside := allOpenIn_gather (some bracket) rest fun lexeme member =>
      formed lexeme (List.mem_cons_of_mem _ member)
    have others := allOpenIn_gather closer (gather (some bracket) rest).1.2 fun lexeme member =>
      formed lexeme (List.mem_cons_of_mem _ (mem_of_mem_gather_rest member))
    rw [gather_opening, allOpenIn, isOpenIn, inside, others]
    rfl
  | ⟨line, .function name⟩ :: rest =>
    have shorter := (gather (some .round) rest).2
    have inside := allOpenIn_gather (some .round) rest fun lexeme member =>
      formed lexeme (List.mem_cons_of_mem _ member)
    have others := allOpenIn_gather closer (gather (some .round) rest).1.2 fun lexeme member =>
      formed lexeme (List.mem_cons_of_mem _ (mem_of_mem_gather_rest member))
    rw [gather_function, allOpenIn, isOpenIn, inside, others]
    rfl
termination_by lexemes.length
decreasing_by all_goals simp only [List.length_cons]; omega

end Component

end CriticalCss.Syntax
